import TemplateMarkup.Text.Basic

/-!
# Filler

What may stand between the blocks of a component file: gaps and complete comments. A gap is a run of
spaces, tabs and line ends; form feeds and the blanks of other scripts are not among them.
-/

namespace TemplateMarkup

open Text

/-- The character may separate the parts of a component file: a space, a tab, or a character that
ends a line. -/
def isGap (c : Char) : Bool :=
  c = ' ' || c = '\t' || c = '\r' || c = '\n'

namespace Text

/-- The text without the gap at its front. -/
def skipGap (s : Text) : Text :=
  s.dropWhile isGap

theorem skipGap_suffix (s : Text) : skipGap s <:+ s :=
  List.dropWhile_suffix isGap

theorem length_skipGap_le (s : Text) : (skipGap s).length ≤ s.length :=
  (skipGap_suffix s).length_le

end Text

/-- The text behind the comment at its front. -/
def Text.afterComment? (s : Text) : Option Text :=
  match after? "<!--".toList s with
  | none => none
  | some r => (cut? "-->".toList r).map (·.2)

theorem Text.length_lt_of_afterComment? {s rest : Text} (h : afterComment? s = some rest) :
    rest.length < s.length := by
  unfold afterComment? at h
  split at h
  · simp at h
  next r hr =>
    simp only [Option.map_eq_some_iff, Prod.exists] at h
    obtain ⟨before, _, hcut, rfl⟩ := h
    have := length_of_after? hr
    have := length_of_cut? hcut
    simp only [String.reduceToList, List.length_cons, List.length_nil] at *
    omega

/-- The text without the gaps and comments at its front. -/
def Text.skipFiller (s : Text) : Text :=
  match _h : afterComment? (skipGap s) with
  | none => skipGap s
  | some rest => skipFiller rest
termination_by s.length
decreasing_by
  have := length_lt_of_afterComment? _h
  have := length_skipGap_le s
  omega

theorem Text.length_skipFiller_le (s : Text) : (skipFiller s).length ≤ s.length := by
  fun_induction skipFiller s with
  | case1 s => exact length_skipGap_le s
  | case2 s rest h ih =>
    have := length_lt_of_afterComment? h
    have := length_skipGap_le s
    omega

end TemplateMarkup
