import TemplateMarkup.Interpolation.Fragment
import TemplateMarkup.Proofs.Occurrence

/-!
# Spans

Text is searched for a span at its first opening delimiter only. Nothing is missed that way: where
any opening delimiter is closed, the first one is closed as well.
-/

namespace TemplateMarkup

open Text

/-- Somewhere in the text a closing delimiter follows an opening one, with at least one character
between them. -/
def Delimiters.HasSpan (d : Delimiters) (s : Text) : Prop :=
  ∃ before inner after, inner ≠ [] ∧ s = before ++ d.opening ++ inner ++ d.closing ++ after

variable {d : Delimiters} {s : Text}

/-- Both delimiters of the first span are first occurrences. -/
theorem Span.first?_eq_some {span : Span} (found : Span.first? d s = some span) :
    ∃ c r inner, cut? d.opening s = some (span.before, c :: r) ∧
      cut? d.closing r = some (inner, span.rest) ∧ span.inner = c :: inner := by
  rw [Span.first?] at found
  split at found
  · simp at found
  · simp at found
  next before c r opened =>
    simp only [Option.map_eq_some_iff, Prod.exists] at found
    obtain ⟨inner, rest, closed, rfl⟩ := found
    exact ⟨c, r, inner, opened, closed, rfl⟩

theorem Span.hasSpan_of_first? {span : Span} (found : Span.first? d s = some span) :
    d.HasSpan s := by
  obtain ⟨c, r, inner, opened, closed, -⟩ := Span.first?_eq_some found
  refine ⟨span.before, c :: inner, span.rest, List.cons_ne_nil c inner, ?_⟩
  rw [append_of_cut? opened, append_of_cut? closed]
  simp only [List.append_assoc, List.cons_append]

/-- The first opening delimiter is closed if any is. -/
theorem Span.first?_ne_none (hasSpan : d.HasSpan s) : Span.first? d s ≠ none := by
  obtain ⟨before, inner, after, nonempty, rfl⟩ := hasSpan
  obtain ⟨front, behind, opened, skipped, whole⟩ :=
    exists_cut?_of_append before d.opening (inner ++ d.closing ++ after)
  obtain ⟨y, front', split⟩ : ∃ y front', skipped ++ inner = y :: front' :=
    List.exists_cons_of_ne_nil (List.append_ne_nil_of_right_ne_nil skipped nonempty)
  have behind_eq : behind = y :: (front' ++ d.closing ++ after) := by
    rw [← whole, ← List.append_assoc, ← List.append_assoc, split]
    rfl
  have whole : before ++ d.opening ++ inner ++ d.closing ++ after =
      before ++ d.opening ++ (inner ++ d.closing ++ after) := by
    simp only [List.append_assoc]
  obtain ⟨_, _, closed, -⟩ := exists_cut?_of_append front' d.closing after
  rw [Span.first?, whole, opened, behind_eq]
  simp only [closed, Option.map_some]
  exact Option.some_ne_none _

theorem Interpolation.ofText?_eq_none_iff : Interpolation.ofText? d s = none ↔ ¬ d.HasSpan s := by
  rw [Interpolation.ofText?]
  constructor
  · intro nothing hasSpan
    have found := Span.first?_ne_none hasSpan
    rw [if_pos (Option.isSome_iff_ne_none.2 found)] at nothing
    simp at nothing
  · intro spanless
    rw [if_neg]
    intro found
    obtain ⟨span, found⟩ := Option.isSome_iff_exists.1 found
    exact spanless (Span.hasSpan_of_first? found)

/-- A span takes at least three characters. -/
theorem Delimiters.HasSpan.length_le (hasSpan : d.HasSpan s) (opening : d.opening ≠ [])
    (closing : d.closing ≠ []) : 3 ≤ s.length := by
  obtain ⟨before, inner, after, nonempty, rfl⟩ := hasSpan
  have := List.length_pos_iff.2 opening
  have := List.length_pos_iff.2 closing
  have := List.length_pos_iff.2 nonempty
  simp only [List.length_append]
  omega

end TemplateMarkup
