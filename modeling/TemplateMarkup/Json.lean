import TemplateMarkup.Text.Quoted

/-!
# JSON documents

The values that templates and components are written as, and their layout on several lines: two
spaces for each level, one member per line, and empty lists and objects on the line they start on.
-/

namespace TemplateMarkup

/-- A JSON value. Numbers are ids and counts; the members of an object keep their order. -/
inductive Json where
  /-- The absent value. -/
  | null
  /-- A truth value. -/
  | bool (value : Bool)
  /-- A number. -/
  | nat (value : Nat)
  /-- A string. -/
  | str (value : Text)
  /-- A list. -/
  | arr (items : List Json)
  /-- An object with its members in order. -/
  | obj (members : List (Text × Json))

namespace Json

/-- The string, or `null` if it is absent. -/
def ofText? : Option Text → Json
  | none => null
  | some s => str s

/-- The number, or `null` if it is absent. -/
def ofNat? : Option Nat → Json
  | none => null
  | some n => nat n

def ofList {α : Type} (encode : α → Json) (l : List α) : Json :=
  arr (l.map encode)

/-- A line break and the indentation of the given level. -/
def newline (depth : Nat) : Text :=
  '\n' :: List.replicate (2 * depth) ' '

mutual

/-- The value on several lines, at the given level of nesting. -/
def prettyAt (depth : Nat) : Json → Text
  | null => "null".toList
  | bool true => "true".toList
  | bool false => "false".toList
  | nat n => Nat.toDigits 10 n
  | str s => s.quote
  | arr [] => "[]".toList
  | arr (v :: items) =>
    '[' :: newline (depth + 1) ++ prettyAt (depth + 1) v ++ prettyItems (depth + 1) items ++
      newline depth ++ [']']
  | obj [] => ['{', '}']
  | obj ((k, v) :: members) =>
    '{' :: newline (depth + 1) ++ k.quote ++ ": ".toList ++ prettyAt (depth + 1) v ++
      prettyMembers (depth + 1) members ++ newline depth ++ ['}']

/-- The items of a list after the first, each after a comma on a line of its own. -/
def prettyItems (depth : Nat) : List Json → Text
  | [] => []
  | v :: items => ',' :: newline depth ++ prettyAt depth v ++ prettyItems depth items

/-- The members of an object after the first, each after a comma on a line of its own. -/
def prettyMembers (depth : Nat) : List (Text × Json) → Text
  | [] => []
  | (k, v) :: members =>
    ',' :: newline depth ++ k.quote ++ ": ".toList ++ prettyAt depth v ++
      prettyMembers depth members

end

def pretty (v : Json) : Text :=
  prettyAt 0 v

@[simp] theorem pretty_str (s : Text) : (str s).pretty = s.quote := by
  simp [pretty, prettyAt]

end Json

end TemplateMarkup
