import TemplateMarkup.Proofs.ByteOffsets
import TemplateMarkup.Proofs.Shorthands

/-!
# Printed names

A directive is printed as its prefix, its name, a colon and its argument, and its modifiers, each
behind a dot. Reading takes the parts off in another order, the modifiers first and the argument
last, and looks for prefixes and colons in what is then left. So the parts come apart as they were
put together if a name holds neither dots nor, where it stands behind `v-`, colons: everything but a
dot or a line feed may stand in an argument, prefixes included.

The argument is found from its front and cut off from the back. The place of the cut is one between
two characters, however many bytes they have (`Text.truncate?`).
-/

namespace TemplateMarkup

open Text

namespace AttributeName

def printModifiers (flags : List Text) : Text :=
  flags.flatMap ('.' :: ·)

variable {base arg s : Text} {flags : List Text}

/-! ### Modifiers -/

theorem splitAtDots_printModifiers (noDots : ∀ flag ∈ flags, '.' ∉ flag) :
    splitAtDots (printModifiers flags) = ([], flags) := by
  induction flags with
  | nil => rfl
  | cons flag flags ih =>
      obtain ⟨noDot, noDots⟩ := List.forall_mem_cons.1 noDots
      have others := ih noDots
      rw [printModifiers] at others
      simp [printModifiers, splitAtDots, splitAtDots_append noDot, others]

/-- Modifiers that are not empty are taken off a name and nothing else is. -/
theorem withoutModifiers_printed (noDot : '.' ∉ s)
    (proper : ∀ flag ∈ flags, flag ≠ [] ∧ '.' ∉ flag) :
    withoutModifiers (s ++ printModifiers flags) = s := by
  have noEmpty : flags.filter (· = []) = [] := by
    simpa using fun flag member => (proper flag member).1
  have pieces := splitAtDots_printModifiers fun flag member => (proper flag member).2
  rw [withoutModifiers_append noDot, withoutModifiers, pieces, noEmpty]
  simp

theorem modifiers?_printed (noDot : '.' ∉ s)
    (proper : ∀ flag ∈ flags, flag ≠ [] ∧ '.' ∉ flag) :
    (modifiers? (s ++ printModifiers flags)).getD ∅ = .ofList flags := by
  have all : flags.filter (· ≠ []) = flags := by
    simpa using fun flag member => (proper flag member).1
  have pieces := splitAtDots_printModifiers fun flag member => (proper flag member).2
  rw [modifiers?_append noDot, modifiers?, modifierNames, pieces, all]
  cases flags <;> rfl

/-! ### Arguments -/

theorem splitAtColon?_of_notMem (noColon : ':' ∉ s) : splitAtColon? s = none := by
  induction s with
  | nil => rfl
  | cons c s ih =>
      rw [List.mem_cons, not_or] at noColon
      simp [splitAtColon?, Ne.symm noColon.1, ih noColon.2]

theorem splitAtColon?_append (noColon : ':' ∉ base) (single : '\n' ∉ arg) :
    splitAtColon? (base ++ ':' :: arg) = some (base, arg) := by
  induction base with
  | nil => simp [splitAtColon?, single]
  | cons c base ih =>
      rw [List.mem_cons, not_or] at noColon
      simp [splitAtColon?, Ne.symm noColon.1, ih noColon.2]

theorem append_of_splitAtColon? (split : splitAtColon? s = some (base, arg)) :
    s = base ++ ':' :: arg := by
  induction s generalizing base with
  | nil => simp [splitAtColon?] at split
  | cons c s ih =>
      rw [splitAtColon?] at split
      split at split
      next here =>
        simp only [Option.some.injEq, Prod.mk.injEq] at split
        obtain ⟨rfl, rfl⟩ := split
        have colon : c = ':' := of_decide_eq_true (Bool.and_eq_true_iff.1 here).1
        rw [colon, List.nil_append]
      next =>
        simp only [Option.map_eq_some_iff, Prod.exists, Prod.mk.injEq] at split
        obtain ⟨before, arg, later, rfl, rfl⟩ := split
        rw [ih later, List.cons_append]

/-- An argument is cut off behind the colon in front of it. -/
theorem append_of_splitArgument (split : splitArgument s = (base, some arg)) :
    s = base ++ ':' :: arg := by
  rw [splitArgument] at split
  split at split
  · simp at split
  · simp at split
  next before arg' _ found =>
    simp only [Prod.mk.injEq, Option.some.injEq] at split
    obtain ⟨rfl, rfl⟩ := split
    exact append_of_splitAtColon? found

/-! ### Names -/

/-- A name behind `v-` that is not a long prefix is that of a directive. -/
theorem ofText_directive (notLong : ¬ IsLong ('v' :: '-' :: withoutModifiers s)) :
    ofText ('v' :: '-' :: s) =
      .directive (splitArgument (withoutModifiers s)).1 (splitArgument (withoutModifiers s)).2
        ((modifiers? s).getD ∅) := by
  have plain : withoutModifiers ('v' :: '-' :: s) = 'v' :: '-' :: withoutModifiers s :=
    @withoutModifiers_append ['v', '-'] (by decide) s
  have modifiers : modifiers? ('v' :: '-' :: s) = modifiers? s :=
    @modifiers?_append ['v', '-'] (by decide) s
  rw [IsLong, not_or, ← after?_eq_none_iff, ← after?_eq_none_iff] at notLong
  have isDirective : isDirective ('v' :: '-' :: s) = true := rfl
  have noColon : after? [':'] ('v' :: '-' :: withoutModifiers s) = none := rfl
  have noAt : after? ['@'] ('v' :: '-' :: withoutModifiers s) = none := rfl
  have bare : after? ['v', '-'] ('v' :: '-' :: withoutModifiers s) = some (withoutModifiers s) :=
    rfl
  rw [ofText, if_pos isDirective]
  simp only [plain, modifiers, noColon, noAt, notLong, Option.or_none, bare, Option.getD_some]

/-- A name without a colon in front of its argument is that of a long prefix only if it is the same
name. -/
theorem eq_of_opens {word : Text} (noColon : ':' ∉ base) (wordNoColon : ':' ∉ word)
    (opens : word ++ [':'] <+: base ++ ':' :: arg) : base = word := by
  obtain ⟨rest, whole⟩ := opens
  have cut := cut?_of_notMem wordNoColon rest
  rw [List.append_assoc, List.singleton_append] at whole
  rw [whole, cut?_of_notMem noColon] at cut
  exact (Prod.mk.inj (Option.some.inj cut)).1

theorem not_isLong_of_argument (noColon : ':' ∉ base) (notBind : base ≠ "bind".toList)
    (notOn : base ≠ "on".toList) : ¬ IsLong ('v' :: '-' :: (base ++ ':' :: arg)) := by
  rintro (opens | opens)
  · have named : "bind".toList ++ [':'] <+: base ++ ':' :: arg := by simpa using opens
    exact notBind (eq_of_opens noColon (by decide) named)
  · have named : "on".toList ++ [':'] <+: base ++ ':' :: arg := by simpa using opens
    exact notOn (eq_of_opens noColon (by decide) named)

theorem not_isLong_of_notMem (noColon : ':' ∉ base) : ¬ IsLong ('v' :: '-' :: base) := by
  have absent : ':' ∉ 'v' :: '-' :: base := by simpa using noColon
  rintro (opens | opens)
  · exact absent (opens.subset (by decide))
  · exact absent (opens.subset (by decide))

/-- What was printed is read back. Behind `v-` a name must not hold a colon, since its argument
begins at one. -/
structure ReadsBack (base : Text) (flags : List Text) : Prop where
  bind : ofText (':' :: (base ++ printModifiers flags)) = .bind base
  on : ofText ('@' :: (base ++ printModifiers flags)) = .on base (.ofList flags)
  plain : ':' ∉ base →
    ofText ("v-".toList ++ (base ++ printModifiers flags)) =
      .directive base none (.ofList flags)
  /-- `v-bind` and `v-on` with an argument are long forms of the two kinds above. -/
  withArgument : ':' ∉ base → base ≠ "bind".toList → base ≠ "on".toList →
    ∀ arg, arg ≠ [] → '.' ∉ arg → '\n' ∉ arg →
      ofText ("v-".toList ++ (base ++ ':' :: (arg ++ printModifiers flags))) =
        .directive base (some arg) (.ofList flags)

theorem readsBack (noDot : '.' ∉ base) (proper : ∀ flag ∈ flags, flag ≠ [] ∧ '.' ∉ flag) :
    ReadsBack base flags := by
  have left := withoutModifiers_printed noDot proper
  have modifiers := modifiers?_printed noDot proper
  refine ⟨?_, ?_, ?_, ?_⟩
  · rw [ofText_colon, left]
  · rw [ofText_at, left, modifiers]
  · intro noColon
    have notLong := not_isLong_of_notMem noColon
    rw [← left] at notLong
    refine (ofText_directive notLong).trans ?_
    rw [left, modifiers, splitArgument, splitAtColon?_of_notMem noColon]
  · intro noColon notBind notOn arg nonempty argNoDot single
    have named : '.' ∉ base ++ ':' :: arg := by simp [noDot, argNoDot]
    have left := withoutModifiers_printed named proper
    have modifiers := modifiers?_printed named proper
    rw [List.append_assoc, List.cons_append] at left modifiers
    have notLong : ¬ IsLong ('v' :: '-' :: (base ++ ':' :: arg)) :=
      not_isLong_of_argument noColon notBind notOn
    rw [← left] at notLong
    refine (ofText_directive notLong).trans ?_
    obtain ⟨c, arg, rfl⟩ := List.exists_cons_of_ne_nil nonempty
    rw [left, modifiers, splitArgument, splitAtColon?_append noColon single]

/-- Names of bound attributes, handlers and directives are read as they were printed, with the
modifiers as a set. Whatever the name, it is as many bytes longer than its argument as it takes to
cut this off together with its colon. -/
theorem ofText_printed (base : Text) (flags : List Text) :
    ('.' ∉ base → (∀ flag ∈ flags, flag ≠ [] ∧ '.' ∉ flag) → ReadsBack base flags) ∧
      ((∀ flag, flag ∈ (Modifiers.ofList flags).names ↔ flag ∈ flags) ∧
        (Modifiers.ofList flags).names.Pairwise (· < ·)) ∧
      ∀ name before arg, splitArgument name = (before, some arg) →
        utf8Length arg + 1 ≤ utf8Length name ∧
          truncate? (utf8Length name - utf8Length arg - 1) name = some before := by
  refine ⟨readsBack, ⟨fun flag => Modifiers.mem_names_ofList, Modifiers.sorted _⟩, ?_⟩
  intro name before arg split
  obtain rfl := append_of_splitArgument split
  have colon : ':'.utf8Size = 1 := by decide
  simp only [utf8Length_append, utf8Length_cons, colon]
  refine ⟨by omega, ?_⟩
  have kept : utf8Length before + (1 + utf8Length arg) - utf8Length arg - 1 =
      utf8Length before := by omega
  rw [kept]
  exact truncate?_append before (':' :: arg)

/-- An argument may hold colons and prefixes, and modifiers may be repeated. -/
theorem ofText_printed_size :
    '.' ∉ "größe".toList ∧ (∀ flag ∈ ["ü".toList, ['b'], "ü".toList], flag ≠ [] ∧ '.' ∉ flag) ∧
      ofText "v-größe:@v-:é.ü.b.ü".toList =
        .directive "größe".toList (some "@v-:é".toList) (.ofList ["ü".toList, ['b'], "ü".toList]) ∧
      (∀ flag, flag ∈ (Modifiers.ofList ["ü".toList, ['b'], "ü".toList]).names ↔
        flag ∈ ["ü".toList, ['b'], "ü".toList]) ∧
      truncate? 7 "größe:@v-:é".toList = some "größe".toList := by
  have noDot : '.' ∉ "größe".toList := by decide
  have proper : ∀ flag ∈ ["ü".toList, ['b'], "ü".toList], flag ≠ [] ∧ '.' ∉ flag := by decide
  obtain ⟨reads, ⟨members, -⟩, cuts⟩ :=
    ofText_printed "größe".toList ["ü".toList, ['b'], "ü".toList]
  have read := (reads noDot proper).withArgument (by decide) (by decide) (by decide)
    "@v-:é".toList (by decide) (by decide) (by decide)
  have cut := (cuts "größe:@v-:é".toList "größe".toList "@v-:é".toList (by decide)).2
  exact ⟨noDot, proper, read, members, cut⟩

end AttributeName

end TemplateMarkup
