import TemplateMarkup.Text.Blank

/-!
# Loop headers

The value of a loop directive: what each item is called, the word `in` or `of`, and the expression
that yields the items. The item may have a second name for its position, both between parentheses.
-/

namespace TemplateMarkup

open Text

structure LoopHeader where
  /-- What the item is called. -/
  item : Text
  /-- What its position is called. -/
  position : Option Text
  /-- The expression that yields the items. -/
  expression : Text
deriving DecidableEq, Repr

namespace LoopHeader

/-- The text behind the separator at the front: blanks, `in` or `of`, and all blanks after it. -/
def afterSeparator? : Text → Option Text
  | [] => none
  | c :: s =>
    if isBlank c then
      let word := s.dropWhile isBlank
      match (after? ['i', 'n'] word).or (after? ['o', 'f'] word) with
      | some (b :: r) => if isBlank b then some (r.dropWhile isBlank) else none
      | _ => none
    else none

/-- The text before and behind the last separator that begins in the first line, its line feed
included. -/
def splitLine? : Text → Option (Text × Text)
  | [] => none
  | c :: s =>
    let here := (afterSeparator? (c :: s)).map fun rest => ([], rest)
    if c = '\n' then here
    else
      match splitLine? s with
      | some (before, rest) => some (c :: before, rest)
      | none => here

def afterLine : Text → Text
  | [] => []
  | c :: s => if c = '\n' then s else afterLine s

theorem length_afterLine_lt (c : Char) (s : Text) : (afterLine (c :: s)).length < s.length + 1 := by
  induction s generalizing c with
  | nil => simp only [afterLine]; split <;> simp
  | cons d s ih =>
    simp only [afterLine]
    split
    · simp
    · have := ih d
      simp only [afterLine] at this
      simp only [List.length_cons]
      omega

/-- The split of the first line that holds a separator. -/
def split? : Text → Option (Text × Text)
  | [] => none
  | c :: s =>
    match splitLine? (c :: s) with
    | some parts => some parts
    | none => split? (afterLine (c :: s))
termination_by s => s.length
decreasing_by exact length_afterLine_lt c s

/-- The two names between the first opening and the last closing parenthesis, divided by the last
comma there. -/
def names? (s : Text) : Option (Text × Text) :=
  match cut? ['('] s with
  | none => none
  | some (_, r) =>
    match cutLast? ')' r with
    | none => none
    | some (inner, _) => cutLast? ',' inner

/-- The header that a text writes, or `none` if it has no separator. The expression ends with its
line. -/
def ofText? (s : Text) : Option LoopHeader :=
  (split? s).map fun (before, rest) =>
    let expression := trim (rest.takeWhile (· ≠ '\n'))
    match names? (trim before) with
    | some (item, position) => ⟨trim item, some (trim position), expression⟩
    | none => ⟨trim before, none, expression⟩

end LoopHeader

end TemplateMarkup
