import Mathlib.Data.List.TakeWhile
import TemplateMarkup.LoopHeader
import TemplateMarkup.Proofs.Occurrence
import TemplateMarkup.Proofs.Trimming

/-!
# Loop headers

A separator is a keyword between blanks. A header is divided at the last separator of its first line
that has one, and its expression is no longer than the rest of the line the separator ends in. So a
header with a single separator, which stands between a name and the expression, is read as it is
written as long as the expression has no line feed; if it has one, what stands behind that is lost.
-/

namespace TemplateMarkup

open Text

namespace LoopHeader

/-- The words that separate the names from the expression. -/
def IsKeyword (word : Text) : Prop :=
  word = ['i', 'n'] ∨ word = ['o', 'f']

/-- Somewhere in the text a keyword stands between blanks. -/
def HoldsSeparator (s : Text) : Prop :=
  ∃ front b word b' back, isBlank b = true ∧ IsKeyword word ∧ isBlank b' = true ∧
    s = front ++ b :: (word ++ b' :: back)

/-- A name for the items: no blanks, no parentheses and no commas. -/
def IsItemName (name : Text) : Prop :=
  name ≠ [] ∧ ∀ c ∈ name, isBlank c = false ∧ c ≠ '(' ∧ c ≠ ')' ∧ c ≠ ','

/-- No keyword with a blank behind it begins the text or has a blank in front of it. -/
def FreeOfKeywords (s : Text) : Prop :=
  ∀ front word b back, IsKeyword word → isBlank b = true → s = front ++ word ++ b :: back →
    ∃ c, front.getLast? = some c ∧ isBlank c = false

variable {s word : Text} {b : Char}

theorem IsKeyword.isBlank_eq_false (keyword : IsKeyword word) : ∀ c ∈ word, isBlank c = false := by
  have solid : word.all (!isBlank ·) = true := by rcases keyword with rfl | rfl <;> decide
  simpa using solid

/-! ### Separators -/

theorem HoldsSeparator.of_suffix {t : Text} (holds : HoldsSeparator t) (suffix : t <:+ s) :
    HoldsSeparator s := by
  obtain ⟨front, b, word, b', back, blank, keyword, blank', rfl⟩ := holds
  obtain ⟨more, rfl⟩ := suffix
  exact ⟨more ++ front, b, word, b', back, blank, keyword, blank', by rw [List.append_assoc]⟩

/-- Behind the blank in front of a keyword nothing else is left to find. -/
theorem not_holdsSeparator_cons (free : FreeOfKeywords s) : ¬ HoldsSeparator (b :: s) := by
  rintro ⟨front, c, word, b', back, blank, keyword, blank', whole⟩
  cases front with
  | nil =>
      obtain ⟨rfl, rfl⟩ := List.cons.inj whole
      obtain ⟨c, last, -⟩ := free [] word b' back keyword blank' rfl
      simp at last
  | cons x front =>
      obtain ⟨rfl, rfl⟩ := List.cons.inj whole
      obtain ⟨c', last, other⟩ :=
        free (front ++ [c]) word b' back keyword blank' (by simp [List.append_assoc])
      rw [List.getLast?_concat, Option.some.injEq] at last
      rw [last, other] at blank
      exact Bool.noConfusion blank

theorem afterSeparator?_append {back : Text} {b' : Char} (blank : isBlank b = true)
    (keyword : IsKeyword word) (blank' : isBlank b' = true) :
    afterSeparator? (b :: (word ++ b' :: back)) = some (back.dropWhile isBlank) := by
  rcases keyword with rfl | rfl
  all_goals
    rw [afterSeparator?, if_pos blank]
    simp [blank', after?, show isBlank 'i' = false by decide, show isBlank 'o' = false by decide]

theorem holdsSeparator_of_afterSeparator? {rest : Text} (found : afterSeparator? s = some rest) :
    HoldsSeparator s := by
  cases s with
  | nil => simp [afterSeparator?] at found
  | cons b s =>
      rw [afterSeparator?] at found
      split at found
      next blank =>
        dsimp only at found
        split at found
        next b' back matched =>
          split at found
          next blank' =>
            obtain ⟨word, keyword, behind⟩ :
                ∃ word, IsKeyword word ∧ s.dropWhile isBlank = word ++ b' :: back := by
              rcases Option.or_eq_some_iff.1 matched with first | ⟨-, second⟩
              · exact ⟨_, .inl rfl, after?_eq_some_iff.1 first⟩
              · exact ⟨_, .inr rfl, after?_eq_some_iff.1 second⟩
            -- The blanks in front of the keyword are those passed over, of which the last matters.
            have gap : ∀ c ∈ b :: s.takeWhile isBlank, isBlank c = true := by
              rw [List.forall_mem_cons]
              exact ⟨blank, fun c member => List.mem_takeWhile_imp member⟩
            have nonempty := List.cons_ne_nil b (s.takeWhile isBlank)
            refine ⟨(b :: s.takeWhile isBlank).dropLast,
              (b :: s.takeWhile isBlank).getLast nonempty, word, b', back,
              gap _ (List.getLast_mem nonempty), keyword, blank', ?_⟩
            rw [← behind, List.append_cons, List.dropLast_concat_getLast, List.cons_append,
              List.takeWhile_append_dropWhile]
          next => simp at found
        next => simp at found
      next => simp at found

/-! ### The line with the separator -/

theorem splitLine?_eq_none (none : ¬ HoldsSeparator s) : splitLine? s = .none := by
  induction s with
  | nil => rfl
  | cons c s ih =>
      have here : afterSeparator? (c :: s) = .none :=
        Option.eq_none_iff_forall_ne_some.2 fun rest found =>
          none (holdsSeparator_of_afterSeparator? found)
      have later := ih fun holds => none (holds.of_suffix (List.suffix_cons c s))
      simp [splitLine?, here, later]

/-- A text without blanks in front holds no separator and no line feed. -/
theorem splitLine?_append {front : Text} (solid : ∀ c ∈ front, isBlank c = false) (s : Text) :
    splitLine? (front ++ s) = (splitLine? s).map fun (before, rest) => (front ++ before, rest) := by
  induction front with
  | nil => simp
  | cons c front ih =>
      rw [List.forall_mem_cons] at solid
      have sameLine : c ≠ '\n' := by
        rintro rfl
        exact Bool.noConfusion solid.1
      have here : afterSeparator? (c :: (front ++ s)) = none := by simp [afterSeparator?, solid.1]
      rw [List.cons_append, splitLine?, here, if_neg sameLine, ih solid.2]
      cases splitLine? s <;> rfl

/-- A name, a keyword and an expression that holds no separator are divided at the keyword. -/
theorem split?_header {name expression : Text} (solid : ∀ c ∈ name, isBlank c = false)
    (keyword : IsKeyword word) (free : FreeOfKeywords expression) :
    split? (name ++ ' ' :: (word ++ ' ' :: expression)) =
      some (name, expression.dropWhile isBlank) := by
  have behind : splitLine? (word ++ ' ' :: expression) = none := by
    rw [splitLine?_append keyword.isBlank_eq_false,
      splitLine?_eq_none (not_holdsSeparator_cons free), Option.map_none]
  have line : splitLine? (name ++ ' ' :: (word ++ ' ' :: expression)) =
      some (name, expression.dropWhile isBlank) := by
    rw [splitLine?_append solid, splitLine?, behind,
      afterSeparator?_append (by decide) keyword (by decide), if_neg (by decide)]
    simp
  cases whole : name ++ ' ' :: (word ++ ' ' :: expression) with
  | nil => simp at whole
  | cons c s => rw [split?, ← whole, line]

theorem names?_eq_none (absent : '(' ∉ s) : names? s = none := by
  rw [names?, cut?_eq_none_of_notMem absent]

/-- A line is trimmed to the whole text only if there is no other line. -/
theorem trim_takeWhile_eq_iff (trimmed : trim s = s) :
    trim (s.takeWhile (· ≠ '\n')) = s ↔ '\n' ∉ s := by
  constructor
  · intro same member
    have short := length_trim_le (s.takeWhile (· ≠ '\n'))
    rw [same] at short
    have whole := (List.takeWhile_prefix (l := s) (· ≠ '\n')).eq_of_length_le short
    rw [← whole] at member
    simpa using List.mem_takeWhile_imp member
  · intro single
    have whole : s.takeWhile (· ≠ '\n') = s := by
      rw [List.takeWhile_eq_self_iff]
      intro c member
      simpa using fun same : c = '\n' => single (same ▸ member)
    rw [whole, trimmed]

/-- A header with one separator, between a name and an expression, is read as this name and the
first line of the expression. So the expression is read as it is written if it has no line feed, and
cut short if it has one. -/
theorem ofText?_header {name word expression : Text} (named : IsItemName name)
    (keyword : IsKeyword word) (trimmed : trim expression = expression)
    (free : FreeOfKeywords expression) :
    ofText? (name ++ ' ' :: (word ++ ' ' :: expression)) =
        some ⟨name, none, trim (expression.takeWhile (· ≠ '\n'))⟩ ∧
      (trim (expression.takeWhile (· ≠ '\n')) = expression ↔ '\n' ∉ expression) := by
  refine ⟨?_, trim_takeWhile_eq_iff trimmed⟩
  have solid : ∀ c ∈ name, isBlank c = false := fun c member => (named.2 c member).1
  have noPosition : names? name = none :=
    names?_eq_none fun member => (named.2 _ member).2.1 rfl
  rw [ofText?, split?_header solid keyword free, Option.map_some,
    dropWhile_eq_self_of_head (not_isBlank_head_of_trim_eq trimmed)]
  dsimp only
  rw [trim_eq_self_of_forall solid, noPosition]

/-- A list on two lines loses its second one. -/
theorem ofText?_header_twoLines :
    IsItemName "item".toList ∧ IsKeyword "of".toList ∧
      trim "[1,\n 2]".toList = "[1,\n 2]".toList ∧ FreeOfKeywords "[1,\n 2]".toList ∧
      ofText? "item of [1,\n 2]".toList = some ⟨"item".toList, none, "[1,".toList⟩ := by
  have named : IsItemName "item".toList := by
    have plain : "item".toList.all
        (fun c => !isBlank c && c ≠ '(' && c ≠ ')' && c ≠ ',') = true := by decide
    refine ⟨by decide, fun c member => ?_⟩
    simpa [and_assoc] using List.all_eq_true.1 plain c member
  have keyword : IsKeyword "of".toList := .inr rfl
  have trimmed : trim "[1,\n 2]".toList = "[1,\n 2]".toList := by decide
  have free : FreeOfKeywords "[1,\n 2]".toList := by
    rintro front word b back (rfl | rfl) - whole
    · have member : 'i' ∈ "[1,\n 2]".toList := by simp [whole]
      exact absurd member (by decide)
    · have member : 'o' ∈ "[1,\n 2]".toList := by simp [whole]
      exact absurd member (by decide)
  exact ⟨named, keyword, trimmed, free,
    (ofText?_header named keyword trimmed free).1.trans (by decide)⟩

end LoopHeader

end TemplateMarkup
