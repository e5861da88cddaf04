import TemplateMarkup.Component.Content

/-!
# Reading blocks

A component file is a sequence of blocks with filler before, between and behind them, and nothing
else.
-/

namespace TemplateMarkup

open Text

namespace Block

/-- The block of this kind at the front, and the rest. -/
def readOf? (kind : BlockKind) (s : Text) : Option (Block × Text) :=
  match OpeningTag.read? kind s with
  | none => none
  | some (attributes, r) =>
    (kind.readContent? r).map fun (content, rest) => (⟨kind, attributes, content⟩, rest)

def read? (s : Text) : Option (Block × Text) :=
  BlockKind.all.findSome? (readOf? · s)

theorem length_lt_of_readOf? {kind : BlockKind} {s rest : Text} {b : Block}
    (h : readOf? kind s = some (b, rest)) : rest.length < s.length := by
  unfold readOf? at h
  split at h
  · simp at h
  next attributes r hr =>
    simp only [Option.map_eq_some_iff, Prod.exists, Prod.mk.injEq] at h
    obtain ⟨content, t, ht, -, rfl⟩ := h
    have := OpeningTag.length_lt_of_read? hr
    have := BlockKind.length_lt_of_readContent? ht
    omega

theorem length_lt_of_read? {s rest : Text} {b : Block} (h : read? s = some (b, rest)) :
    rest.length < s.length := by
  obtain ⟨kind, -, h⟩ := List.exists_of_findSome?_eq_some h
  exact length_lt_of_readOf? h

end Block

/-- The blocks of a component file, or `none` if there is anything else in it but filler. -/
def blocks? (source : Text) : Option (List Block) :=
  if skipFiller source = [] then some []
  else
    match _h : Block.read? (skipFiller source) with
    | none => none
    | some (b, rest) => (blocks? rest).map (b :: ·)
termination_by source.length
decreasing_by
  have := Block.length_lt_of_read? _h
  have := length_skipFiller_le source
  omega

end TemplateMarkup
