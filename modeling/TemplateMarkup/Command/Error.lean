import TemplateMarkup.Component.Parse
import TemplateMarkup.Interpolation.Delimiters
import TemplateMarkup.Warning

/-!
# Errors of commands

Why a command fails. An error is a chain of texts, from what the command was doing to what stood in
its way; it can be told on one line or as a report.
-/

namespace TemplateMarkup

/-- Why the content of a file is not available. -/
inductive ReadError where
  /-- There is no such file. -/
  | missing
  /-- The content is not UTF-8. -/
  | notUtf8
  /-- The system gives another reason. -/
  | other (reason : Text)
deriving DecidableEq, Repr

namespace ReadError

def message : ReadError → Text
  | missing => "No such file or directory (os error 2)".toList
  | notUtf8 => "stream did not contain valid UTF-8".toList
  | other reason => reason

end ReadError

def decodeFile (bytes : ByteArray) : Except ReadError Text :=
  match String.fromUTF8? bytes with
  | none => .error .notUtf8
  | some s => .ok s.toList

/-- Why a command fails on a file. -/
inductive CommandError where
  /-- The file cannot be read. -/
  | unreadable (file : Text) (cause : ReadError)
  /-- The file is no component file. -/
  | unsplittable (file : Text) (cause : SyntaxError)
  /-- The component has no template. -/
  | noTemplate (file : Text)
  /-- The number of delimiters is not two. -/
  | delimiterCount
  /-- A delimiter is empty. -/
  | emptyDelimiter (cause : EmptyDelimiter)
  /-- The template cannot be parsed. -/
  | unparsable (file : Text) (cause : EmptyDelimiter)
  /-- There are warnings, and the caller wanted none. -/
  | warningsDenied (file : Text) (warnings : List Warning)

namespace CommandError

def listing (warnings : List Warning) : Text :=
  warnings.flatMap fun w => "\n  - ".toList ++ w.message

/-- The chain of texts that tells what went wrong. A syntax error is told twice, with and without
an introduction. -/
def chain : CommandError → List Text
  | unreadable file cause => ["failed to read ".toList ++ file, cause.message]
  | unsplittable file cause => ["failed to split ".toList ++ file, cause.message, cause.report]
  | noTemplate file => [file ++ " has no <template> block".toList]
  | delimiterCount => ["--delimiters takes exactly two values".toList]
  | emptyDelimiter cause => [cause.message]
  | unparsable file cause => ["failed to parse ".toList ++ file, cause.message]
  | warningsDenied file warnings =>
    [file ++ " raised ".toList ++ Nat.toDigits 10 warnings.length ++ " warning(s):".toList ++
      listing warnings]

def message (e : CommandError) : Text :=
  List.intercalate ": ".toList e.chain

/-- A text whose first line follows a label, with the further lines indented. -/
def indented (label indentation : Text) (s : Text) : Text :=
  label ++ List.intercalate ('\n' :: indentation) (Text.pieces '\n' s)

/-- The label of a cause with this number, flush right in five columns. -/
def numberLabel (number : Nat) : Text :=
  let digits := Nat.toDigits 10 number
  List.replicate (5 - digits.length) ' ' ++ digits ++ ": ".toList

/-- The causes as a report lists them, each on lines of its own. Several are numbered. -/
def causeLines : List Text → List Text
  | [] => []
  | [cause] => [indented "    ".toList "    ".toList cause]
  | causes => causes.mapIdx fun i cause => indented (numberLabel i) "       ".toList cause

/-- The chain as a report. -/
def report (e : CommandError) : Text :=
  "Error: ".toList ++ e.chain.headD [] ++
    (match causeLines e.chain.tail with
    | [] => []
    | lines => "\n\nCaused by:".toList ++ lines.flatMap ('\n' :: ·)) ++
    ['\n']

end CommandError

end TemplateMarkup
