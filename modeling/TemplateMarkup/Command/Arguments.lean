import TemplateMarkup.Text.Basic

/-!
# Command lines

A command line holds options, some of them with values, and operands. The value of an option that
takes one may be attached to it by an equals sign; other values are the arguments that follow. A
double dash ends the options.
-/

namespace TemplateMarkup

open Text

/-- What an argument looks like. -/
inductive Argument where
  /-- The end of the options. -/
  | separator
  /-- An option, perhaps with a value attached. -/
  | option (name : Text) (value : Option Text)
  /-- Options of one letter. -/
  | letters (names : Text)
  /-- Anything else. -/
  | operand
deriving DecidableEq, Repr

namespace Argument

/-- What an argument looks like. A single dash is an operand. -/
def ofText : Text → Argument
  | '-' :: '-' :: [] => separator
  | '-' :: '-' :: s =>
    match cut? ['='] s with
    | none => option s none
    | some (name, value) => option name (some value)
  | '-' :: c :: s => letters (c :: s)
  | _ => operand

end Argument

/-- The options and operands of a command line. -/
structure Arguments where
  /-- The options with their values, in order. -/
  options : List (Text × List Text) := []
  /-- The operands, in order. -/
  operands : List Text := []
deriving DecidableEq, Repr

namespace Arguments

def addOption (name : Text) (values : List Text) (a : Arguments) : Arguments :=
  { a with options := (name, values) :: a.options }

def addOperand (s : Text) (a : Arguments) : Arguments :=
  { a with operands := s :: a.operands }

/-- Reads a command line, given the number of values that each option takes. There is nothing to
read if an option is not known or has not got its values. -/
def read? (arity : Text → Option Nat) : List Text → Option Arguments
  | [] => some {}
  | s :: rest =>
    match Argument.ofText s with
    | .separator => some { operands := rest }
    | .letters _ => none
    | .operand => (read? arity rest).map (addOperand s)
    | .option name (some value) =>
      if arity name = some 1 then (read? arity rest).map (addOption name [value]) else none
    | .option name none =>
      match arity name with
      | none => none
      | some n =>
        let values := rest.take n
        if values.length = n ∧ ∀ v ∈ values, Argument.ofText v = .operand then
          (read? arity (rest.drop n)).map (addOption name values)
        else none
termination_by arguments => arguments.length
decreasing_by
  · exact Nat.lt_succ_self _
  · exact Nat.lt_succ_self _
  · rw [List.length_drop]
    exact Nat.lt_succ_of_le (Nat.sub_le _ _)

/-- The values of an option, once for each time it is given. -/
def valuesOf (a : Arguments) (name : Text) : List (List Text) :=
  (a.options.filter (·.1 = name)).map (·.2)

/-- Whether an option without values is given. There is no answer if it is given twice. -/
def flag? (a : Arguments) (name : Text) : Option Bool :=
  match a.valuesOf name with
  | [] => some false
  | [_] => some true
  | _ => none

/-- The only operand, unless it is empty. -/
def file? (a : Arguments) : Option Text :=
  match a.operands with
  | [c :: s] => some (c :: s)
  | _ => none

end Arguments

end TemplateMarkup
