import Mathlib.Data.List.DropRight
import TemplateMarkup.Proofs.LoopHeaders

/-!
# Headers on one line

Most loop headers have no line feed, and then nothing of the header is out of reach: it is divided
at its last separator, wherever keywords or blanks stand besides. What stands in front of it is a
single name unless it holds a parenthesis, a comma and a closing parenthesis in this order; then the
outermost parentheses and the last comma within them count, so the names themselves may hold commas
and parentheses. Blanks are dropped around every part.

The last separator and the two names are described by where they stand among all places of their
kind, without the searches that find them.
-/

namespace TemplateMarkup

open Text

namespace LoopHeader

/-- The text is a separator with `front` before it and `back` behind it. Further blanks next to the
separator belong to these. -/
def SeparatedAt (s front back : Text) : Prop :=
  ∃ b word b', isBlank b = true ∧ IsKeyword word ∧ isBlank b' = true ∧
    s = front ++ b :: (word ++ b' :: back)

/-- The text is divided at its last separator. -/
structure LastSeparatedAt (s front back : Text) : Prop where
  separated : SeparatedAt s front back
  last : ∀ front' back', SeparatedAt s front' back' → front'.length ≤ front.length

/-- What a text says about the names of the item and of its position. -/
inductive Naming (s : Text) : Text → Option Text → Prop
  /-- Two names stand between the first opening parenthesis and the last closing one, and the last
  comma there divides them. -/
  | both {before item position after : Text}
    (whole : s = before ++ '(' :: (item ++ ',' :: (position ++ ')' :: after)))
    (first : '(' ∉ before) (lastComma : ',' ∉ position) (last : ')' ∉ after) :
    Naming s (trim item) (some (trim position))
  /-- There are no parentheses around a comma, so all is one name. -/
  | one (unpaired : ∀ before item position after,
      s ≠ before ++ '(' :: (item ++ ',' :: (position ++ ')' :: after))) : Naming s s none

variable {s front back : Text} {c : Char}

/-! ### The last separator -/

theorem holdsSeparator_iff : HoldsSeparator s ↔ ∃ front back, SeparatedAt s front back := by
  constructor
  · rintro ⟨front, b, word, b', back, blank, keyword, blank', whole⟩
    exact ⟨front, back, b, word, b', blank, keyword, blank', whole⟩
  · rintro ⟨front, back, b, word, b', blank, keyword, blank', whole⟩
    exact ⟨front, b, word, b', back, blank, keyword, blank', whole⟩

theorem separatedAt_cons_iff {c' : Char} :
    SeparatedAt (c :: s) (c' :: front) back ↔ c = c' ∧ SeparatedAt s front back := by
  constructor
  · rintro ⟨b, word, b', blank, keyword, blank', whole⟩
    obtain ⟨same, behind⟩ := List.cons.inj whole
    exact ⟨same, b, word, b', blank, keyword, blank', behind⟩
  · rintro ⟨rfl, b, word, b', blank, keyword, blank', rfl⟩
    exact ⟨b, word, b', blank, keyword, blank', rfl⟩

/-- A separator that begins a text is found there. -/
theorem SeparatedAt.afterSeparator?_eq (separated : SeparatedAt s [] back) :
    afterSeparator? s = some (back.dropWhile isBlank) := by
  obtain ⟨b, word, b', blank, keyword, blank', rfl⟩ := separated
  exact afterSeparator?_append blank keyword blank'

theorem LastSeparatedAt.cons (divided : LastSeparatedAt s front back) (c : Char) :
    LastSeparatedAt (c :: s) (c :: front) back := by
  refine ⟨separatedAt_cons_iff.2 ⟨rfl, divided.separated⟩, fun front' back' other => ?_⟩
  cases front' with
  | nil => exact Nat.zero_le _
  | cons c' front' =>
      have inner := (separatedAt_cons_iff.1 other).2
      exact Nat.succ_le_succ (divided.last front' back' inner)

/-- A separator that begins a text is the last one if none begins behind the first character. -/
theorem SeparatedAt.last_of_not_holdsSeparator (separated : SeparatedAt (c :: s) [] back)
    (nowhere : ¬ HoldsSeparator s) : LastSeparatedAt (c :: s) [] back := by
  refine ⟨separated, fun front' back' other => ?_⟩
  cases front' with
  | nil => exact Nat.le_refl _
  | cons c' front' =>
      have inner := (separatedAt_cons_iff.1 other).2
      exact absurd (holdsSeparator_iff.2 ⟨front', back', inner⟩) nowhere

/-- Keywords have two letters, so two divisions at the last separator are the same. -/
theorem LastSeparatedAt.unique {front' back' : Text} (divided : LastSeparatedAt s front back)
    (other : LastSeparatedAt s front' back') : front' = front ∧ back' = back := by
  have sameLength : front'.length = front.length :=
    Nat.le_antisymm (divided.last _ _ other.separated) (other.last _ _ divided.separated)
  obtain ⟨b, word, b', -, keyword, -, whole⟩ := divided.separated
  obtain ⟨c, word', c', -, keyword', -, whole'⟩ := other.separated
  obtain ⟨rfl, behind⟩ := List.append_inj (whole'.symm.trans whole) sameLength
  have two : ∀ {word : Text}, IsKeyword word → word.length = 2 := by
    rintro word (rfl | rfl) <;> rfl
  have sameWords : word'.length = word.length := (two keyword').trans (two keyword).symm
  obtain ⟨-, same⟩ := List.append_inj (List.cons.inj behind).2 sameWords
  exact ⟨rfl, (List.cons.inj same).2⟩

/-- A line that holds separators is divided at the last of them. -/
theorem exists_splitLine?_eq (single : '\n' ∉ s) (holds : HoldsSeparator s) :
    ∃ front back, LastSeparatedAt s front back ∧
      splitLine? s = some (front, back.dropWhile isBlank) := by
  induction s with
  | nil =>
      obtain ⟨front, b, word, b', back, -, -, -, whole⟩ := holds
      simp at whole
  | cons c s ih =>
      rw [List.mem_cons, not_or] at single
      by_cases later : HoldsSeparator s
      · obtain ⟨front, back, divided, split⟩ := ih single.2 later
        exact ⟨c :: front, back, divided.cons c, by simp [splitLine?, Ne.symm single.1, split]⟩
      · -- Nothing is left to find behind the first character, so the separator begins with it.
        obtain ⟨front, back, separated⟩ := holdsSeparator_iff.1 holds
        cases front with
        | nil =>
            refine ⟨[], back, separated.last_of_not_holdsSeparator later, ?_⟩
            simp [splitLine?, Ne.symm single.1, splitLine?_eq_none later,
              separated.afterSeparator?_eq]
        | cons c' front =>
            have inner := (separatedAt_cons_iff.1 separated).2
            exact absurd (holdsSeparator_iff.2 ⟨front, back, inner⟩) later

theorem afterLine_eq_nil (single : '\n' ∉ s) : afterLine s = [] := by
  induction s with
  | nil => rfl
  | cons c s ih =>
      rw [List.mem_cons, not_or] at single
      rw [afterLine, if_neg (Ne.symm single.1), ih single.2]

/-- There is no other line to look for a separator in. -/
theorem split?_eq_splitLine? (single : '\n' ∉ s) : split? s = splitLine? s := by
  cases s with
  | nil => rw [split?, splitLine?]
  | cons c s =>
      rw [split?, afterLine_eq_nil single, split?]
      cases splitLine? (c :: s) <;> rfl

/-! ### Names -/

theorem names?_eq_some_iff {item position : Text} :
    names? s = some (item, position) ↔
      ∃ before after, s = before ++ '(' :: (item ++ ',' :: (position ++ ')' :: after)) ∧
        '(' ∉ before ∧ ',' ∉ position ∧ ')' ∉ after := by
  constructor
  · intro found
    rw [names?] at found
    split at found
    · simp at found
    next before r opened =>
      split at found
      · simp at found
      next inner after closed =>
        obtain ⟨rfl, first⟩ := cut?_singleton_eq_some_iff.1 opened
        obtain ⟨rfl, last⟩ := cutLast?_eq_some_iff.1 closed
        obtain ⟨rfl, lastComma⟩ := cutLast?_eq_some_iff.1 found
        exact ⟨before, after, by simp, first, lastComma, last⟩
  · rintro ⟨before, after, rfl, first, lastComma, last⟩
    have closed : cutLast? ')' (item ++ ',' :: (position ++ ')' :: after)) =
        some (item ++ ',' :: position, after) := by
      simpa using cutLast?_of_notMem last (item ++ ',' :: position)
    rw [names?, cut?_of_notMem first]
    simp only [closed, cutLast?_of_notMem lastComma]

/-- Parentheses around a comma are found, even if they are not the outermost ones. -/
theorem names?_ne_none (before item position after : Text) :
    names? (before ++ '(' :: (item ++ ',' :: (position ++ ')' :: after))) ≠ none := by
  obtain ⟨front, r, opened, more, rfl⟩ :=
    exists_cut?_of_append before ['('] (item ++ ',' :: (position ++ ')' :: after))
  obtain ⟨inner, behind, closed, last, rfl⟩ :=
    exists_cutLast?_of_append (more ++ item ++ ',' :: position) ')' after
  intro nothing
  simp only [List.append_assoc, List.cons_append, List.nil_append] at opened closed
  rw [names?, opened] at nothing
  simp only [closed] at nothing
  exact absurd (cutLast?_eq_none_iff.1 nothing) (by simp)

theorem exists_naming (s : Text) : ∃ item position, Naming s item position := by
  cases found : names? s with
  | some names =>
      obtain ⟨before, after, whole, first, lastComma, last⟩ := names?_eq_some_iff.1 found
      exact ⟨_, _, .both whole first lastComma last⟩
  | none =>
      refine ⟨_, _, .one fun before item position after whole => ?_⟩
      exact names?_ne_none before item position after (whole ▸ found)

/-! ### Headers -/

theorem SeparatedAt.subset (separated : SeparatedAt s front back) : back ⊆ s := by
  obtain ⟨b, word, b', -, -, -, rfl⟩ := separated
  intro c member
  simp [member]

theorem trim_dropWhile (s : Text) : trim (s.dropWhile isBlank) = trim s := by
  rw [trim_eq, List.dropWhile_idempotent, trim_eq]

/-- What a line says whose last separator is this one. -/
theorem LastSeparatedAt.ofText?_eq {item : Text} {position : Option Text}
    (divided : LastSeparatedAt s front back) (single : '\n' ∉ s)
    (naming : Naming (trim front) item position) :
    ofText? s = some ⟨item, position, trim back⟩ := by
  obtain ⟨front', back', divided', split⟩ :=
    exists_splitLine?_eq single (holdsSeparator_iff.2 ⟨front, back, divided.separated⟩)
  obtain ⟨rfl, rfl⟩ := divided.unique divided'
  have line : (back'.dropWhile isBlank).takeWhile (· ≠ '\n') = back'.dropWhile isBlank := by
    rw [List.takeWhile_eq_self_iff]
    intro c member
    have behind := divided.separated.subset ((List.dropWhile_sublist isBlank).subset member)
    simpa using fun same : c = '\n' => single (same ▸ behind)
  rw [ofText?, split?_eq_splitLine? single, split, Option.map_some]
  simp only [line, trim_dropWhile]
  cases naming with
  | both whole first lastComma last =>
      rw [names?_eq_some_iff.2 ⟨_, _, whole, first, lastComma, last⟩]
  | one unpaired =>
      cases found : names? (trim front') with
      | none => rfl
      | some names =>
          obtain ⟨before, after, whole, -⟩ := names?_eq_some_iff.1 found
          exact absurd whole (unpaired _ _ _ _)

/-- A line is read as a header if it holds a separator. Then its last separator divides the names
from the expression. -/
theorem ofText?_line (single : '\n' ∉ s) :
    (ofText? s = none ↔ ¬ HoldsSeparator s) ∧
      ∀ header, ofText? s = some header ↔
        ∃ front back, LastSeparatedAt s front back ∧ header.expression = trim back ∧
          Naming (trim front) header.item header.position := by
  by_cases holds : HoldsSeparator s
  · obtain ⟨front, back, divided, -⟩ := exists_splitLine?_eq single holds
    obtain ⟨item, position, naming⟩ := exists_naming (trim front)
    have read := divided.ofText?_eq single naming
    refine ⟨by simp [read, holds], fun header => ?_⟩
    constructor
    · intro found
      obtain rfl := Option.some.inj (read.symm.trans found)
      exact ⟨front, back, divided, rfl, naming⟩
    · rintro ⟨front', back', divided', expression, naming'⟩
      rw [divided'.ofText?_eq single naming', ← expression]
  · have nothing : ofText? s = none := by
      rw [ofText?, split?_eq_splitLine? single, splitLine?_eq_none holds, Option.map_none]
    refine ⟨by simp [nothing, holds], fun header => ?_⟩
    rw [nothing]
    constructor
    · intro found
      simp at found
    · rintro ⟨front, back, divided, -⟩
      exact absurd (holdsSeparator_iff.2 ⟨front, back, divided.separated⟩) holds

/-- Of three separators the last one divides this header, and the last of two commas its names. -/
theorem ofText?_line_nested :
    let s := "((a, b), i) in in  of (x, y) ".toList
    let header : LoopHeader := ⟨"(a, b)".toList, some "i".toList, "(x, y)".toList⟩
    '\n' ∉ s ∧ ofText? s = some header ∧
      ∃ front back, LastSeparatedAt s front back ∧ header.expression = trim back ∧
        Naming (trim front) header.item header.position := by
  intro s header
  have single : '\n' ∉ s := by decide
  have read : ofText? s = some header := by decide +kernel
  exact ⟨single, read, ((ofText?_line single).2 header).1 read⟩

end LoopHeader

end TemplateMarkup
