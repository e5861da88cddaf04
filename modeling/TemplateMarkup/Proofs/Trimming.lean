import TemplateMarkup.Text.Blank

/-!
# Trimming

What trimming takes off, and when it takes off nothing: a text is trimmed if neither its first nor
its last character is blank.
-/

namespace TemplateMarkup

theorem isBlank_eq_false_of_isAlpha {c : Char} (letter : c.isAlpha = true) : isBlank c = false := by
  rw [isAlpha_iff_toNat] at letter
  simp only [isBlank, CodeRanges.has, blankRanges, List.any_cons, List.any_nil,
    Bool.or_eq_false_iff, Bool.and_eq_false_iff, decide_eq_false_iff_not, and_true]
  omega

namespace Text

variable {s : Text} {c : Char}

/-- Trimming takes the blanks of the front off first. -/
theorem trim_eq (s : Text) :
    trim s = ((s.dropWhile isBlank).reverse.dropWhile isBlank).reverse := rfl

theorem length_trim_le (s : Text) : (trim s).length ≤ s.length := by
  have back := (List.dropWhile_sublist (l := (s.dropWhile isBlank).reverse) isBlank).length_le
  have front := (List.dropWhile_sublist (l := s) isBlank).length_le
  rw [List.length_reverse] at back
  rw [trim_eq, List.length_reverse]
  exact Nat.le_trans back front

theorem trim_cons (blank : isBlank c = true) (s : Text) : trim (c :: s) = trim s := by
  rw [trim_eq, List.dropWhile_cons_of_pos blank, trim_eq]

theorem trim_concat (s : Text) (blank : isBlank c = true) : trim (s ++ [c]) = trim s := by
  rw [trim_eq, trim_eq, List.dropWhile_append]
  split
  next empty =>
    rw [List.isEmpty_iff.1 empty, List.dropWhile_cons_of_pos blank]
    rfl
  next => rw [List.reverse_concat, List.dropWhile_cons_of_pos blank]

section Blanks

variable {blanks : Text} (blank : ∀ c ∈ blanks, isBlank c = true)

include blank

theorem trim_append_left (s : Text) : trim (blanks ++ s) = trim s := by
  induction blanks with
  | nil => rfl
  | cons c blanks ih =>
      rw [List.forall_mem_cons] at blank
      rw [List.cons_append, trim_cons blank.1, ih blank.2]

theorem trim_append_right (s : Text) : trim (s ++ blanks) = trim s := by
  induction blanks generalizing s with
  | nil => rw [List.append_nil]
  | cons c blanks ih =>
      rw [List.forall_mem_cons] at blank
      rw [List.append_cons, ih blank.2, trim_concat s blank.1]

end Blanks

/-- A text is its trimmed text with blanks around it. -/
theorem exists_append_trim (s : Text) :
    ∃ front back, (∀ c ∈ front, isBlank c = true) ∧ (∀ c ∈ back, isBlank c = true) ∧
      s = front ++ (trim s ++ back) := by
  have taken : ∀ t : Text, ∀ c ∈ t.takeWhile isBlank, isBlank c = true :=
    fun t => List.all_eq_true.1 List.all_takeWhile
  refine ⟨s.takeWhile isBlank, ((s.dropWhile isBlank).reverse.takeWhile isBlank).reverse, taken s,
    fun c member => taken _ c (List.mem_reverse.1 member), ?_⟩
  rw [trim_eq, ← List.reverse_append, List.takeWhile_append_dropWhile, List.reverse_reverse,
    List.takeWhile_append_dropWhile]

theorem dropWhile_eq_self_of_head (first : ∀ c ∈ s.head?, isBlank c = false) :
    s.dropWhile isBlank = s := by
  cases s with
  | nil => rfl
  | cons c s => exact List.dropWhile_cons_of_neg (by simp [first c rfl])

theorem trim_eq_self (first : ∀ c ∈ s.head?, isBlank c = false)
    (last : ∀ c ∈ s.getLast?, isBlank c = false) : trim s = s := by
  rw [trim_eq, dropWhile_eq_self_of_head first, dropWhile_eq_self_of_head, List.reverse_reverse]
  intro c member
  rw [List.head?_reverse] at member
  exact last c member

/-- The first character of a trimmed text is not blank. -/
theorem not_isBlank_head_of_trim_eq (trimmed : trim s = s) : ∀ c ∈ s.head?, isBlank c = false := by
  intro c member
  refine Bool.eq_false_iff.2 fun blank => ?_
  obtain ⟨rest, rfl⟩ := List.head?_eq_some_iff.1 (Option.mem_def.1 member)
  have shorter := length_trim_le rest
  rw [trim_cons blank] at trimmed
  rw [trimmed, List.length_cons] at shorter
  omega

theorem trim_eq_self_of_forall (none : ∀ c ∈ s, isBlank c = false) : trim s = s :=
  trim_eq_self (fun c member => none c (List.mem_of_mem_head? member))
    fun c member => none c (List.mem_of_mem_getLast? member)

end Text

end TemplateMarkup
