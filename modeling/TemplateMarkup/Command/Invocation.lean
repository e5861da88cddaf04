import TemplateMarkup.Command.Arguments
import TemplateMarkup.Command.Parse
import TemplateMarkup.Component.Encoding

/-!
# Invocations

What a command line asks for, and what comes of it: an exit code and the texts on the two output
streams.
-/

namespace TemplateMarkup

/-- What a command line asks for. -/
inductive Invocation where
  /-- The version of the program. -/
  | version
  /-- Parsing a file. -/
  | parse (file : Text) (request : ParseRequest)
  /-- Splitting a file. -/
  | split (file : Text)
deriving DecidableEq, Repr

/-- What a program leaves behind. -/
structure Outcome where
  exitCode : Nat
  /-- The text on the standard output. -/
  output : Text := []
  /-- The text on the standard error. -/
  errors : Text := []
deriving DecidableEq, Repr

namespace Invocation

/-- The number of values of an option of the parse command. -/
def parseArity (name : Text) : Option Nat :=
  if name = "delimiters".toList then some 2
  else if name = "format".toList then some 1
  else if name ∈ ["sfc".toList, "no-preserve-whitespace".toList, "no-expect-html".toList,
      "deny-warnings".toList] then some 0
  else none

def format? (values : List (List Text)) : Option Format :=
  match values with
  | [] => some .json
  | [[name]] =>
    if name = "json".toList then some .json
    else if name = "tree".toList then some .outline
    else none
  | _ => none

/-- The delimiters that an option asks for. Giving it again adds to them. -/
def delimiters (values : List (List Text)) : Option (List Text) :=
  if values = [] then none else some values.flatten

def ofParseArguments? (arguments : List Text) : Option Invocation := do
  let a ← Arguments.read? parseArity arguments
  let file ← a.file?
  let isComponent ← a.flag? "sfc".toList
  let format ← format? (a.valuesOf "format".toList)
  let dropWhitespace ← a.flag? "no-preserve-whitespace".toList
  let ignoreHtml ← a.flag? "no-expect-html".toList
  let denyWarnings ← a.flag? "deny-warnings".toList
  return parse file {
    isComponent, format, denyWarnings
    delimiters := delimiters (a.valuesOf "delimiters".toList)
    preserveWhitespace := !dropWhitespace
    expectHtml := !ignoreHtml }

def ofSplitArguments? (arguments : List Text) : Option Invocation := do
  let a ← Arguments.read? (fun _ => none) arguments
  return split (← a.file?)

/-- What a command line asks for, or `none` if it makes no sense. -/
def ofArguments? : List Text → Option Invocation
  | [] => none
  | first :: rest =>
    if first = "parse".toList then ofParseArguments? rest
    else if first = "split".toList then ofSplitArguments? rest
    else
      match Argument.ofText first with
      | .option name none => if name = "version".toList then some version else none
      | .letters ('V' :: _) => some version
      | _ => none

def file? : Invocation → Option Text
  | version => none
  | parse file _ => some file
  | split file => some file

end Invocation

namespace Outcome

/-- The outcome of a command line that makes no sense. -/
def usage : Outcome where
  exitCode := 2
  errors := "usage: vellum parse|split [options] FILE\n".toList

def failure (e : CommandError) : Outcome where
  exitCode := 1
  errors := e.report

def ofVersion : Outcome where
  exitCode := 0
  output := "vellum 0.1.1\n".toList

def ofParse : Except CommandError ParseReply → Outcome
  | .error e => failure e
  | .ok reply =>
    { exitCode := 0
      output := reply.rendered ++ ['\n']
      errors := reply.warnings.flatMap fun w => "warning: ".toList ++ w.message ++ ['\n'] }

def ofSplit : Except CommandError Text → Outcome
  | .error e => failure e
  | .ok rendered => { exitCode := 0, output := rendered ++ ['\n'] }

end Outcome

/-- What comes of an invocation if its file has this content. -/
def Invocation.run (content : Except ReadError Text) : Invocation → Outcome
  | version => .ofVersion
  | parse file request => .ofParse (request.run file content)
  | split file => .ofSplit (splitFile file content)

end TemplateMarkup
