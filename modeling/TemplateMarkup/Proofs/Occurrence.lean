import TemplateMarkup.Text.Basic

/-!
# First occurrences

`Text.find?` and `Text.cut?` look for the same place, one for its offset and the other for the texts
on both sides. What a search says about a text it also says about the text without its first
characters, as long as the place it found is not among those. This is all that has to be known to
answer a later search from an earlier one. Where a text is cut, no occurrence begins earlier, and
that is what singles the place out.
-/

namespace TemplateMarkup.Text

variable {word s rest : Text}

theorem after?_eq_none_iff : after? word s = none ↔ ¬ word <+: s := by
  constructor
  · rintro absent ⟨rest, rfl⟩
    rw [after?_append] at absent
    exact Option.some_ne_none rest absent
  · intro absent
    refine Option.eq_none_iff_forall_ne_some.2 fun rest found => absent ⟨rest, ?_⟩
    exact (after?_eq_some_iff.1 found).symm

/-- The offset of the first occurrence is the length of the text before it. -/
theorem find?_eq_map_cut? (word s : Text) :
    find? word s = (cut? word s).map fun (before, _) => before.length := by
  induction s with
  | nil =>
      simp only [find?, cut?]
      split <;> rfl
  | cons c s ih =>
      simp only [find?, cut?]
      cases after? word (c :: s) with
      | some rest => rfl
      | none =>
          simp only [Option.isSome_none, Bool.false_eq_true, ↓reduceIte, ih, Option.map_map]
          rfl

/-- A word that occurs is found. -/
theorem find?_append_ne_none (before word rest : Text) :
    find? word (before ++ word ++ rest) ≠ none := by
  induction before with
  | nil =>
      rw [List.nil_append]
      cases whole : word ++ rest with
      | nil => simp [find?, (List.append_eq_nil_iff.1 whole).1]
      | cons c s => simp [find?, ← whole]
  | cons c before ih =>
      simp only [List.cons_append, find?]
      split
      · simp
      · simpa using ih

/-- What follows any occurrence of a word is also behind the first one. -/
theorem exists_cut?_of_append (before word rest : Text) :
    ∃ front behind, cut? word (before ++ word ++ rest) = some (front, behind) ∧
      rest <:+ behind := by
  induction before with
  | nil =>
      refine ⟨[], rest, ?_, List.suffix_rfl⟩
      rw [List.nil_append]
      cases whole : word ++ rest with
      | nil =>
          obtain ⟨rfl, rfl⟩ := List.append_eq_nil_iff.1 whole
          rfl
      | cons c s =>
          rw [cut?, ← whole, after?_append]
  | cons c before ih =>
      obtain ⟨front, behind, cut, inside⟩ := ih
      rw [List.cons_append, List.cons_append, cut?]
      split
      next behind' found =>
        refine ⟨[], behind', rfl, ?_⟩
        -- Both texts end the whole one, and the word does not begin any later than here.
        have whole := after?_eq_some_iff.1 found
        have inner : rest <:+ c :: (before ++ word ++ rest) :=
          (List.suffix_append _ _).trans (List.suffix_cons _ _)
        have outer : behind' <:+ c :: (before ++ word ++ rest) := by
          rw [whole]
          exact List.suffix_append _ _
        apply List.suffix_of_suffix_length_le inner outer
        have lengths := congrArg List.length whole
        simp only [List.length_cons, List.length_append] at lengths
        omega
      · exact ⟨c :: front, behind, by rw [cut]; rfl, inside⟩

/-- An occurrence stays the first one when characters before it are left out. -/
theorem find?_drop_of_le {i k : Nat} (found : find? word s = some i) (before : k ≤ i) :
    find? word (s.drop k) = some (i - k) := by
  induction k generalizing s i with
  | zero => simpa using found
  | succ k ih =>
      cases s with
      | nil =>
          simp only [find?] at found
          split at found
          · obtain rfl := Option.some.inj found
            omega
          · simp at found
      | cons c s =>
          simp only [find?] at found
          split at found
          · obtain rfl := Option.some.inj found
            omega
          · obtain ⟨j, later, rfl⟩ := Option.map_eq_some_iff.1 found
            rw [List.drop_succ_cons, ih later (by omega)]
            congr 1
            omega

/-- A word that does not occur does not occur in what is left either. -/
theorem find?_drop_of_eq_none (absent : find? word s = none) (k : Nat) :
    find? word (s.drop k) = none := by
  induction k generalizing s with
  | zero => exact absent
  | succ k ih =>
      cases s with
      | nil => exact absent
      | cons c s =>
          simp only [find?] at absent
          split at absent
          · simp at absent
          · exact ih (Option.map_eq_none_iff.1 absent)

/-- No occurrence begins before the one at which a text is cut. -/
theorem length_le_of_cut? {before : Text} (cut : cut? word s = some (before, rest)) {k : Nat}
    (occurs : word <+: s.drop k) : before.length ≤ k := by
  induction s generalizing before k with
  | nil =>
      simp only [cut?] at cut
      split at cut
      · obtain ⟨rfl, -⟩ := Prod.mk.inj (Option.some.inj cut)
        exact Nat.zero_le k
      · simp at cut
  | cons c s ih =>
      simp only [cut?] at cut
      split at cut
      · obtain ⟨rfl, -⟩ := Prod.mk.inj (Option.some.inj cut)
        exact Nat.zero_le k
      next absent =>
        obtain ⟨⟨before', rest'⟩, later, same⟩ := Option.map_eq_some_iff.1 cut
        obtain ⟨rfl, rfl⟩ := Prod.mk.inj same
        cases k with
        | zero => exact absurd occurs (after?_eq_none_iff.1 absent)
        | succ k =>
            rw [List.drop_succ_cons] at occurs
            exact Nat.succ_le_succ (ih later occurs)

/-- The text before a cut does not hold the word. -/
theorem not_infix_of_cut? {before : Text} (cut : cut? word s = some (before, rest))
    (nonempty : word ≠ []) : ¬ word <:+: before := by
  rintro ⟨front, behind, rfl⟩
  have whole := append_of_cut? cut
  have occurs : word <+: s.drop front.length := by
    rw [whole]
    simp only [List.append_assoc, List.drop_left]
    exact List.prefix_append _ _
  have early := length_le_of_cut? cut occurs
  have := List.length_pos_iff.2 nonempty
  simp only [List.length_append] at early
  omega

/-- A text is cut at the occurrence in front of which none begins. -/
theorem cut?_append {before : Text}
    (first : ∀ front behind, before = front ++ behind → behind ≠ [] →
      ¬ word <+: behind ++ word ++ rest) :
    cut? word (before ++ word ++ rest) = some (before, rest) := by
  induction before with
  | nil =>
      rw [List.nil_append]
      cases whole : word ++ rest with
      | nil =>
          obtain ⟨rfl, rfl⟩ := List.append_eq_nil_iff.1 whole
          rfl
      | cons c s => rw [cut?, ← whole, after?_append]
  | cons c before ih =>
      have absent : after? word (c :: before ++ word ++ rest) = none :=
        after?_eq_none_iff.2 (first [] (c :: before) rfl (List.cons_ne_nil c before))
      have later := ih fun front behind split nonempty =>
        first (c :: front) behind (by rw [split, List.cons_append]) nonempty
      rw [List.cons_append, List.cons_append] at absent ⊢
      rw [cut?, absent]
      simp only [later, Option.map_some]

/-- Where a word begins in front of a character that it holds at most at its front, it ends there
too. -/
theorem prefix_of_prefix_append {c : Char} {front : Text} (nonempty : front ≠ [])
    (absent : c ∉ word.tail) (occurs : word <+: front ++ c :: rest) : word <+: front := by
  rcases List.prefix_or_prefix_of_prefix occurs (List.prefix_append front (c :: rest)) with
    within | ⟨more, rfl⟩
  · exact within
  · cases more with
    | nil => simp
    | cons x more =>
        have next := (List.prefix_append_right_inj front).1 occurs
        rw [List.cons_prefix_cons] at next
        rw [next.1, List.tail_append_of_ne_nil nonempty] at absent
        simp at absent

/-- A cut at a character finds its first occurrence. -/
theorem cut?_of_notMem {c : Char} {before : Text} (absent : c ∉ before) (rest : Text) :
    cut? [c] (before ++ c :: rest) = some (before, rest) := by
  induction before with
  | nil => simp [cut?, after?]
  | cons x before ih =>
      rw [List.mem_cons, not_or] at absent
      simp [cut?, after?, absent.1, ih absent.2]

theorem isSome_cut?_singleton {c : Char} : (cut? [c] s).isSome = true ↔ c ∈ s := by
  constructor
  · intro cut
    obtain ⟨⟨before, rest⟩, cut⟩ := Option.isSome_iff_exists.1 cut
    rw [append_of_cut? cut]
    simp
  · intro member
    obtain ⟨before, rest, rfl, absent⟩ := List.eq_append_cons_of_mem member
    rw [cut?_of_notMem absent]
    rfl

theorem cut?_eq_none_of_notMem {c : Char} (absent : c ∉ s) : cut? [c] s = none := by
  rw [← Option.not_isSome_iff_eq_none, isSome_cut?_singleton]
  exact absent

theorem cut?_singleton_eq_some_iff {c : Char} {before : Text} :
    cut? [c] s = some (before, rest) ↔ s = before ++ c :: rest ∧ c ∉ before := by
  constructor
  · intro cut
    refine ⟨by simpa using append_of_cut? cut, fun member => ?_⟩
    obtain ⟨front, behind, split⟩ := List.append_of_mem member
    apply not_infix_of_cut? cut (List.cons_ne_nil c [])
    exact ⟨front, behind, by simp [split]⟩
  · rintro ⟨rfl, absent⟩
    exact cut?_of_notMem absent rest

/-! ### The last occurrence -/

theorem cutLast?_eq_none_iff {c : Char} : cutLast? c s = none ↔ c ∉ s := by
  induction s with
  | nil => simp [cutLast?]
  | cons d s ih =>
      rw [cutLast?, List.mem_cons, not_or, ← ih]
      cases cutLast? c s with
      | none => simp [eq_comm]
      | some parts => simp

theorem cutLast?_of_notMem {c : Char} (absent : c ∉ rest) (before : Text) :
    cutLast? c (before ++ c :: rest) = some (before, rest) := by
  induction before with
  | nil => simp [cutLast?, cutLast?_eq_none_iff.2 absent]
  | cons d before ih => simp [cutLast?, ih]

/-- What precedes any occurrence of a character is also before the last one. -/
theorem exists_cutLast?_of_append (before : Text) (c : Char) (rest : Text) :
    ∃ front behind, cutLast? c (before ++ c :: rest) = some (front, behind) ∧
      before <+: front := by
  induction before with
  | nil =>
      cases later : cutLast? c rest with
      | none => exact ⟨[], rest, by simp [cutLast?, later], List.nil_prefix⟩
      | some parts => exact ⟨c :: parts.1, parts.2, by simp [cutLast?, later], List.nil_prefix⟩
  | cons d before ih =>
      obtain ⟨front, behind, cut, inside⟩ := ih
      exact ⟨d :: front, behind, by simp [cutLast?, cut], List.cons_prefix_cons.2 ⟨rfl, inside⟩⟩

theorem cutLast?_eq_some_iff {c : Char} {before : Text} :
    cutLast? c s = some (before, rest) ↔ s = before ++ c :: rest ∧ c ∉ rest := by
  constructor
  · intro cut
    induction s generalizing before with
    | nil => simp [cutLast?] at cut
    | cons d s ih =>
        rw [cutLast?] at cut
        split at cut
        next front behind later =>
          simp only [Option.some.injEq, Prod.mk.injEq] at cut
          obtain ⟨rfl, rfl⟩ := cut
          obtain ⟨rfl, absent⟩ := ih later
          exact ⟨rfl, absent⟩
        next nowhere =>
          simp only [Option.ite_none_right_eq_some, Option.some.injEq, Prod.mk.injEq] at cut
          obtain ⟨rfl, rfl, rfl⟩ := cut
          exact ⟨rfl, cutLast?_eq_none_iff.1 nowhere⟩
  · rintro ⟨rfl, absent⟩
    exact cutLast?_of_notMem absent before

end TemplateMarkup.Text
