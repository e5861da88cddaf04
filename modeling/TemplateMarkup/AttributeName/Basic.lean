import TemplateMarkup.AttributeName.Modifiers

/-!
# Attribute names

The name of an attribute says what its value is: an expression bound to an attribute, the handler of
an event, the value of a directive, or plain text. A name of the first three kinds may carry
modifiers, each after a dot, and a directive may have an argument after a colon.
-/

namespace TemplateMarkup

open Text

/-- What an attribute name says about its attribute. -/
inductive AttributeName where
  /-- The value is an expression for the attribute `name`. -/
  | bind (name : Text)
  /-- The value handles the event. -/
  | on (event : Text) (modifiers : Modifiers)
  /-- The value belongs to a directive. -/
  | directive (name : Text) (arg : Option Text) (modifiers : Modifiers)
  /-- The value is plain text. -/
  | literal
deriving DecidableEq

namespace AttributeName

/-- The name is not that of a plain attribute. -/
def isDirective (name : Text) : Bool :=
  (after? ['v', '-'] name).isSome || (after? ['@'] name).isSome || (after? [':'] name).isSome

/-- The text before the first dot, and the texts between it and the next ones. -/
def splitAtDots : Text → Text × List Text
  | [] => ([], [])
  | c :: s =>
    let (piece, pieces) := splitAtDots s
    if c = '.' then ([], piece :: pieces) else (c :: piece, pieces)

/-- The modifiers in a name. A dot with nothing behind it, or only another dot, starts none. -/
def modifierNames (name : Text) : List Text :=
  (splitAtDots name).2.filter (· ≠ [])

/-- The name without its modifiers. Dots that start no modifier stay. -/
def withoutModifiers (name : Text) : Text :=
  (splitAtDots name).1 ++ ((splitAtDots name).2.filter (· = [])).map fun _ => '.'

/-- The set of modifiers in a name, or `none` if it has none. -/
def modifiers? (name : Text) : Option Modifiers :=
  match modifierNames name with
  | [] => none
  | names => some (.ofList names)

/-- The text before the first colon and the text after it, where colons with a line feed anywhere
behind them do not count. -/
def splitAtColon? : Text → Option (Text × Text)
  | [] => none
  | c :: s =>
    if c = ':' && '\n' ∉ s then some ([], s)
    else (splitAtColon? s).map fun (before, arg) => (c :: before, arg)

/-- The name and the argument of a directive. An empty argument is none, and the colon stays. -/
def splitArgument (name : Text) : Text × Option Text :=
  match splitAtColon? name with
  | none => (name, none)
  | some (_, []) => (name, none)
  | some (before, arg) => (before, some arg)

/-- What the name says. The prefix is looked for when the modifiers are gone. -/
def ofText (name : Text) : AttributeName :=
  if isDirective name then
    let modifiers := (modifiers? name).getD ∅
    let plain := withoutModifiers name
    match (after? [':'] plain).or (after? "v-bind:".toList plain) with
    | some bound => bind bound
    | none =>
      match (after? ['@'] plain).or (after? "v-on:".toList plain) with
      | some event => on event modifiers
      | none =>
        let (directiveName, arg) := splitArgument ((after? ['v', '-'] plain).getD plain)
        directive directiveName arg modifiers
  else literal

end AttributeName

end TemplateMarkup
