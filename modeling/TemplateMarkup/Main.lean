import TemplateMarkup.Command.Invocation

/-!
# The command line

Reads the file that the command line names, and prints what comes of it.
-/

namespace TemplateMarkup

def readSource (file : Text) : IO (Except ReadError Text) := do
  try
    return decodeFile (← IO.FS.readBinFile (String.ofList file))
  catch
    | .noFileOrDirectory .. => return .error .missing
    | e => return .error (.other (toString e).toList)

def runArguments (arguments : List Text) : IO Outcome := do
  match Invocation.ofArguments? arguments with
  | none => return .usage
  | some invocation =>
    let content ← match invocation.file? with
      | none => pure (.error .missing)
      | some file => readSource file
    return invocation.run content

end TemplateMarkup

def main (arguments : List String) : IO UInt32 := do
  let outcome ← TemplateMarkup.runArguments (arguments.map String.toList)
  IO.print (String.ofList outcome.output)
  IO.eprint (String.ofList outcome.errors)
  return outcome.exitCode.toUInt32
