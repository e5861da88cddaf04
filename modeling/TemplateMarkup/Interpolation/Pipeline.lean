import TemplateMarkup.Text.Blank

/-!
# Pipelines

An expression may be piped through filters, each a name with optional arguments. A pipe separates
filters where it stands alone, outside quotes, and where every bracket that was opened is closed.
-/

namespace TemplateMarkup

open Text

structure Filter where
  name : Text
  /-- The arguments, without the parentheses around them. -/
  args : Option Text
deriving DecidableEq, Repr

/-- An expression and the filters its value goes through. -/
structure Pipeline where
  expression : Text
  /-- The filters, the first applied first. -/
  filters : List Filter
deriving DecidableEq, Repr

/-- What has to be known of the characters read to tell whether a pipe separates filters. The
counters fall below zero when brackets close that were never opened. They are unbounded, and differ
from counters of 32 bits only where the open brackets of a kind reach `2 ^ 31`. -/
structure PipeScan where
  /-- The last character read. -/
  previous : Option Char := none
  /-- The mark of the quote that is open. -/
  quote : Option Char := none
  /-- Open braces. -/
  braces : Int := 0
  /-- Open square brackets. -/
  brackets : Int := 0
  /-- Open parentheses. -/
  parens : Int := 0
deriving DecidableEq, Repr

namespace PipeScan

/-- No quote and no bracket is open. -/
def atTopLevel (scan : PipeScan) : Bool :=
  scan.quote = none && scan.braces = 0 && scan.brackets = 0 && scan.parens = 0

/-- The character `c`, with `next` behind it, separates filters. -/
def separates (scan : PipeScan) (c : Char) (next : Option Char) : Bool :=
  c = '|' && next ≠ some '|' && scan.previous ≠ some '|' && scan.atTopLevel

/-- What is known after one more character. A quote ends at its mark unless a backslash stands
directly before it. -/
def after (scan : PipeScan) (c : Char) : PipeScan :=
  match scan.quote with
  | some mark =>
    { scan with
      previous := some c
      quote := if c = mark ∧ scan.previous ≠ some '\\' then none else some mark }
  | none =>
    let scan := { scan with previous := some c }
    match c with
    | '"' | '\'' | '`' => { scan with quote := some c }
    | '(' => { scan with parens := scan.parens + 1 }
    | ')' => { scan with parens := scan.parens - 1 }
    | '[' => { scan with brackets := scan.brackets + 1 }
    | ']' => { scan with brackets := scan.brackets - 1 }
    | '{' => { scan with braces := scan.braces + 1 }
    | '}' => { scan with braces := scan.braces - 1 }
    | _ => scan

/-- The text before the first separating pipe, and the texts between it and the next ones. -/
def split (scan : PipeScan) : Text → Text × List Text
  | [] => ([], [])
  | c :: s =>
    let (piece, pieces) := split (scan.after c) s
    if scan.separates c s.head? then ([], piece :: pieces) else (c :: piece, pieces)

end PipeScan

namespace Filter

/-- The filter that a trimmed piece writes. The arguments begin at the first parenthesis, and one
closing parenthesis at the end does not belong to them. -/
def ofText (piece : Text) : Filter :=
  match cut? ['('] piece with
  | none => ⟨piece, none⟩
  | some (name, r) =>
    let args := trimEnd isBlank r
    ⟨trim name, some (if args.getLast? = some ')' then args.dropLast else args)⟩

def apply (f : Filter) (expression : Text) : Text :=
  "_f(\"".toList ++ f.name ++ "\")(".toList ++ expression ++
    (match f.args with
    | none => []
    | some args => ',' :: args) ++ [')']

end Filter

namespace Pipeline

def ofText (s : Text) : Pipeline :=
  let (expression, pieces) := PipeScan.split {} s
  ⟨trim expression, pieces.map fun piece => Filter.ofText (trim piece)⟩

/-- The pipeline as one expression, each filter a call around the one before. -/
def toText (p : Pipeline) : Text :=
  p.filters.foldl (fun expression f => f.apply expression) p.expression

@[simp] theorem toText_nil (expression : Text) : toText ⟨expression, []⟩ = expression := rfl

@[simp] theorem toText_cons (expression : Text) (f : Filter) (filters : List Filter) :
    toText ⟨expression, f :: filters⟩ = toText ⟨f.apply expression, filters⟩ := rfl

end Pipeline

end TemplateMarkup
