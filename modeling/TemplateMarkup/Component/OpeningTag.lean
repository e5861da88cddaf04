import TemplateMarkup.Component.Basic
import TemplateMarkup.Component.Filler

/-!
# Opening tags of blocks

The opening tag of a block names its kind and holds attributes, each after a gap. A value is always
quoted, and it is taken as written. Nothing is guessed at here: what does not fit is not read.
-/

namespace TemplateMarkup

open Text

namespace OpeningTag

/-- The character may begin the name of an attribute. -/
def isNameStart (c : Char) : Bool :=
  c.isAlpha || c = '_' || c = ':' || c = '@'

/-- The character may stand in the name of an attribute behind the first. -/
def isNamePart (c : Char) : Bool :=
  c.isAlphanum || c = '_' || c = '-' || c = ':' || c = '.' || c = '@'

def readName? : Text → Option (Text × Text)
  | [] => none
  | c :: s =>
    if isNameStart c then some (c :: s.takeWhile isNamePart, s.dropWhile isNamePart) else none

/-- The quoted value at the front without its quotes, and the rest. -/
def readQuoted? : Text → Option (Text × Text)
  | '"' :: s => cut? ['"'] s
  | '\'' :: s => cut? ['\''] s
  | _ => none

/-- What follows the equals sign at the front, which may stand between gaps. -/
def afterEquals? (s : Text) : Option Text :=
  (after? ['='] (skipGap s)).map skipGap

/-- The attribute at the front, and the rest. An equals sign with no quoted value behind it is not
part of the attribute. -/
def readAttribute? (s : Text) : Option (Attribute × Text) :=
  match readName? s with
  | none => none
  | some (name, rest) =>
    match (afterEquals? rest).bind readQuoted? with
    | none => some (⟨name, []⟩, rest)
    | some (value, rest) => some (⟨name, value⟩, rest)

theorem length_lt_of_readName? {s name rest : Text} (h : readName? s = some (name, rest)) :
    rest.length < s.length := by
  cases s with
  | nil => simp [readName?] at h
  | cons c s =>
    simp only [readName?] at h
    split at h
    · simp only [Option.some.injEq, Prod.mk.injEq] at h
      obtain ⟨-, rfl⟩ := h
      exact Nat.lt_succ_of_le (List.dropWhile_suffix isNamePart).length_le
    · simp at h

theorem length_lt_of_readQuoted? {s value rest : Text} (h : readQuoted? s = some (value, rest)) :
    rest.length < s.length := by
  unfold readQuoted? at h
  split at h
  case h_3 => simp at h
  all_goals
    have := length_of_cut? h
    simp only [List.length_cons, List.length_nil] at *
    omega

theorem length_lt_of_afterEquals? {s rest : Text} (h : afterEquals? s = some rest) :
    rest.length < s.length := by
  simp only [afterEquals?, Option.map_eq_some_iff] at h
  obtain ⟨r, hr, rfl⟩ := h
  have := length_of_after? hr
  have := length_skipGap_le s
  have := length_skipGap_le r
  simp only [List.length_cons, List.length_nil] at *
  omega

theorem length_lt_of_readAttribute? {s rest : Text} {a : Attribute}
    (h : readAttribute? s = some (a, rest)) : rest.length < s.length := by
  unfold readAttribute? at h
  split at h
  · simp at h
  next name r hname =>
    have hlt := length_lt_of_readName? hname
    split at h
    · simp_all
    next value r' hvalue =>
      simp only [Option.some.injEq, Prod.mk.injEq] at h
      obtain ⟨-, rfl⟩ := h
      simp only [Option.bind_eq_some_iff] at hvalue
      obtain ⟨q, hq, hvalue⟩ := hvalue
      have := length_lt_of_afterEquals? hq
      have := length_lt_of_readQuoted? hvalue
      omega

/-- The attributes at the front, each after a gap, and the rest behind one more gap. -/
def readAttributes (s : Text) : List Attribute × Text :=
  if skipGap s = s then ([], s)
  else
    match _h : readAttribute? (skipGap s) with
    | none => ([], skipGap s)
    | some (a, rest) =>
      let following := readAttributes rest
      (a :: following.1, following.2)
termination_by s.length
decreasing_by
  have := length_lt_of_readAttribute? _h
  have := length_skipGap_le s
  omega

theorem length_readAttributes_le (s : Text) : (readAttributes s).2.length ≤ s.length := by
  fun_induction readAttributes s with
  | case1 s => exact Nat.le_refl _
  | case2 s => exact length_skipGap_le s
  | case3 s _ a rest h following ih =>
    have := length_lt_of_readAttribute? h
    have := length_skipGap_le s
    simp only [following]
    omega

/-- The attributes of the opening tag at the front of a block of this kind, and the rest. -/
def read? (kind : BlockKind) (s : Text) : Option (List Attribute × Text) :=
  match after? ('<' :: kind.tag) s with
  | none => none
  | some r =>
    (after? ['>'] (readAttributes r).2).map fun rest => ((readAttributes r).1, rest)

theorem length_lt_of_read? {kind : BlockKind} {s rest : Text} {attributes : List Attribute}
    (h : read? kind s = some (attributes, rest)) : rest.length < s.length := by
  unfold read? at h
  split at h
  · simp at h
  next r hr =>
    simp only [Option.map_eq_some_iff, Prod.mk.injEq] at h
    obtain ⟨t, ht, -, rfl⟩ := h
    have h₁ := length_of_after? hr
    have h₂ := length_of_after? ht
    have h₃ := length_readAttributes_le r
    simp only [List.length_cons, List.length_nil] at h₁ h₂
    omega

end OpeningTag

end TemplateMarkup
