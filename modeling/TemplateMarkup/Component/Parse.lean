import TemplateMarkup.Component.Attempt

/-!
# Parsing component files

From the source of a component file to the component, or to the reason why there is none: the place
where reading came to a stop, and what would have been in place there. The report shows the line of
the place with a mark below it.
-/

namespace TemplateMarkup

/-- The place where a component file cannot be read on, and what was expected there. -/
structure SyntaxError where
  /-- The text before the place. -/
  before : Text
  /-- The text behind it. -/
  rest : Text
  /-- The parts that would have been in place. -/
  expected : List Part
deriving DecidableEq, Repr

namespace SyntaxError

/-- The error in a component file that cannot be read. -/
def ofSource (source : Text) : SyntaxError :=
  let failures := (Attempt.ofFile source).failures ⟨source.length, []⟩
  let place := source.length - failures.left
  { before := source.take place
    rest := source.drop place
    expected := failures.parts }

/-- The number of the line, from one on. Only a line feed ends a line. -/
def line (e : SyntaxError) : Nat :=
  e.before.count '\n' + 1

def lineBefore (e : SyntaxError) : Text :=
  (e.before.reverse.takeWhile (· ≠ '\n')).reverse

def column (e : SyntaxError) : Nat :=
  e.lineBefore.length + 1

/-- The line with its end. -/
def lineText (e : SyntaxError) : Text :=
  e.lineBefore ++ e.rest.takeWhile (· ≠ '\n') ++ (e.rest.dropWhile (· ≠ '\n')).take 1

/-- The line as the report shows it. The characters that end a line are made visible if the place is
at one of them, and left out otherwise. -/
def shownLine (e : SyntaxError) : Text :=
  if e.rest.head? = some '\n' ∨ e.rest.head? = some '\r' then
    e.lineText.map fun c => if c = '\r' then '␍' else if c = '\n' then '␊' else c
  else e.lineText.filter fun c => c ≠ '\r' ∧ c ≠ '\n'

/-- The mark below the place. Tabs are kept, so that it lines up. -/
def mark (e : SyntaxError) : Text :=
  ((e.shownLine.take e.lineBefore.length).map fun c => if c = '\t' then '\t' else ' ') ++
    "^---".toList

def alternatives : List Text → Text
  | [] => []
  | [a] => a
  | [a, b] => a ++ " or ".toList ++ b
  | names => (names.dropLast.flatMap (· ++ ", ".toList)) ++ "or ".toList ++ names.getLastD []

/-- The parts that were expected, each once, in the order of all parts. -/
def expectation (e : SyntaxError) : Text :=
  alternatives ((Part.all.filter (· ∈ e.expected)).map Part.title)

def report (e : SyntaxError) : Text :=
  let number := Nat.toDigits 10 e.line
  let margin := number.map fun _ => ' '
  margin ++ "--> ".toList ++ number ++ ':' :: Nat.toDigits 10 e.column ++ '\n' ::
    margin ++ " |\n".toList ++
    number ++ " | ".toList ++ e.shownLine ++ '\n' ::
    margin ++ " | ".toList ++ e.mark ++ '\n' ::
    margin ++ " |\n".toList ++
    margin ++ " = expected ".toList ++ e.expectation

def message (e : SyntaxError) : Text :=
  "invalid component file: ".toList ++ e.report

end SyntaxError

namespace Component

def ofText? (source : Text) : Except SyntaxError Component :=
  match blocks? source with
  | none => .error (.ofSource source)
  | some blocks => .ok (.ofBlocks blocks)

/-- The log of parsing a component file: a record of each block that replaces an earlier one. -/
def log (source : Text) : List LogRecord :=
  match blocks? source with
  | none => []
  | some blocks => (Block.replacements blocks).map Block.replacementRecord

theorem ofText?_eq_ok_iff {source : Text} {c : Component} :
    ofText? source = .ok c ↔ ∃ blocks, blocks? source = some blocks ∧ c = .ofBlocks blocks := by
  unfold ofText?
  split
  next h => simp [h]
  next blocks h => simp [h, eq_comm]

end Component

end TemplateMarkup
