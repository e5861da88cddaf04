import TemplateMarkup.Text.Basic

/-!
# Raw text

The content of a raw-text element is not searched for markup. It ends at the first place that looks
like the start of the element's end tag, if an angle bracket closes one anywhere behind it. Comment
and CDATA marks that wrap a stretch of the content are taken off.
-/

namespace TemplateMarkup

open Text

/-- The text before the first occurrence of `word` and the text after it, where the case of ASCII
letters in the text does not matter. -/
def Text.cutIgnoringCase? (word : Text) : Text → Option (Text × Text)
  | [] => if word = [] then some ([], []) else none
  | c :: s =>
    match afterIgnoringCase? word (c :: s) with
    | some rest => some ([], rest)
    | none => (cutIgnoringCase? word s).map fun (before, rest) => (c :: before, rest)

/-- A pair of marks that may wrap raw text. -/
inductive Wrapper where
  /-- The marks of a comment. -/
  | comment
  /-- The marks of a CDATA section. -/
  | cdata
deriving DecidableEq, Repr

namespace Wrapper

def opening : Wrapper → Text
  | comment => "<!--".toList
  | cdata => "<![CDATA[".toList

def closing : Wrapper → Text
  | comment => "-->".toList
  | cdata => "]]>".toList

theorem opening_ne_nil (w : Wrapper) : w.opening ≠ [] := by
  cases w <;> decide

/-- The text with every wrapped stretch replaced by what the marks enclose. -/
def remove (w : Wrapper) (s : Text) : Text :=
  match _h₁ : cut? w.opening s with
  | none => s
  | some (before, r) =>
    match _h₂ : cut? w.closing r with
    | none => s
    | some (inner, rest) => before ++ inner ++ w.remove rest
termination_by s.length
decreasing_by
  have := length_of_cut? _h₁
  have := length_of_cut? _h₂
  have := List.length_pos_iff.2 w.opening_ne_nil
  omega

end Wrapper

/-- The content of a raw-text element as its author meant it. -/
def unwrapRawText (body : Text) : Text :=
  Wrapper.cdata.remove (Wrapper.comment.remove body)

/-- The content of the raw-text element `tag` at the front of `s`, and the rest behind its end tag.
There is none if no end tag is in sight. The tag is given in lowercase. -/
def readRawText? (tag : Text) (s : Text) : Option (Text × Text) :=
  match cutIgnoringCase? ("</".toList ++ tag) s with
  | none => none
  | some (body, r) => (cut? ['>'] r).map fun (_, rest) => (body, rest)

theorem length_lt_of_cutIgnoringCase? {word s before rest : Text} (hw : word ≠ [])
    (h : cutIgnoringCase? word s = some (before, rest)) : rest.length < s.length := by
  induction s generalizing before with
  | nil => simp [cutIgnoringCase?, hw] at h
  | cons c s ih =>
    simp only [cutIgnoringCase?] at h
    split at h
    next r hr =>
      simp only [Option.some.injEq, Prod.mk.injEq] at h
      obtain ⟨-, rfl⟩ := h
      have := length_of_afterIgnoringCase? hr
      have := List.length_pos_iff.2 hw
      omega
    next =>
      simp only [Option.map_eq_some_iff, Prod.exists, Prod.mk.injEq] at h
      obtain ⟨b, r, hbr, -, rfl⟩ := h
      have := ih hbr
      simp only [List.length_cons]
      omega

theorem length_lt_of_readRawText? {tag s body rest : Text}
    (h : readRawText? tag s = some (body, rest)) : rest.length < s.length := by
  unfold readRawText? at h
  split at h
  · simp at h
  next b r hbr =>
    simp only [Option.map_eq_some_iff, Prod.exists, Prod.mk.injEq] at h
    obtain ⟨inner, r', hr', -, rfl⟩ := h
    have mark : "</".toList ++ tag ≠ [] := List.append_ne_nil_of_left_ne_nil (by decide) tag
    have h₁ := length_lt_of_cutIgnoringCase? mark hbr
    have h₂ := length_of_cut? hr'
    omega

end TemplateMarkup
