import TemplateMarkup.Command.Error
import TemplateMarkup.Component.Parse
import TemplateMarkup.Template.Encoding
import TemplateMarkup.Template.Outline
import TemplateMarkup.Template.Parse

/-!
# Parsing a file

The command that parses a file and prints its template. A component file, which is known by the
extension of its name, is split first; of any other file all is template.
-/

namespace TemplateMarkup

open Text

/-- The last name in a path. Empty names and those that stay in place do not count, and a path that
ends by going up has none. -/
def fileName? (path : Text) : Option Text :=
  match ((pieces '/' path).filter fun name => name ≠ [] ∧ name ≠ ".".toList).getLast? with
  | none => none
  | some name => if name = "..".toList then none else some name

/-- What follows the last dot in the last name of a path, unless the name starts with that dot. -/
def fileExtension? (path : Text) : Option Text :=
  match (fileName? path).bind (cutLast? '.') with
  | none => none
  | some ([], _) => none
  | some (_ :: _, suffix) => some suffix

def componentExtensions : List Text := ["vue".toList, "vx".toList]

def isComponentPath (path : Text) : Bool :=
  match fileExtension? path with
  | none => false
  | some suffix => toLowerAscii suffix ∈ componentExtensions

/-- How a template is printed. -/
inductive Format where
  /-- As JSON, with all elements. -/
  | json
  /-- As an outline of what can be reached. -/
  | outline
deriving DecidableEq, Repr

def Format.render : Format → Template → Text
  | json, t => t.toJson.pretty
  | outline, t => t.outline

/-- What a caller chooses for parsing a file. -/
structure ParseRequest where
  /-- The file is a component file, whatever its name. -/
  isComponent : Bool := false
  /-- How the template is printed. -/
  format : Format := .json
  /-- The delimiters, if they are not the standard ones. -/
  delimiters : Option (List Text) := none
  /-- Blank text between elements becomes a space. -/
  preserveWhitespace : Bool := true
  /-- Some tags close implicitly. -/
  expectHtml : Bool := true
  /-- Any warning is an error. -/
  denyWarnings : Bool := false
deriving DecidableEq, Repr

structure ParseReply where
  /-- The template as text. -/
  rendered : Text
  warnings : List Warning
deriving DecidableEq, Repr

namespace ParseRequest

def settings (r : ParseRequest) : Except CommandError Settings :=
  let plain : Settings :=
    { preserveWhitespace := r.preserveWhitespace, expectHtml := r.expectHtml }
  match r.delimiters with
  | none => .ok plain
  | some [opening, closing] =>
    match (Delimiters.mk opening closing).check with
    | .error e => .error (.emptyDelimiter e)
    | .ok d => .ok { plain with delimiters := some d }
  | some _ => .error .delimiterCount

/-- The file is split before the template in it is parsed. -/
def isSplit (r : ParseRequest) (file : Text) : Bool :=
  r.isComponent || isComponentPath file

/-- The source of the template in a file with this content. -/
def templateSource (r : ParseRequest) (file content : Text) : Except CommandError Text :=
  if r.isSplit file then
    match Component.ofText? content with
    | .error e => .error (.unsplittable file e)
    | .ok component =>
      match component.template with
      | none => .error (.noTemplate file)
      | some block => .ok block.content
  else .ok content

def run (r : ParseRequest) (file : Text) (content : Except ReadError Text) :
    Except CommandError ParseReply := do
  let content ← content.mapError (.unreadable file)
  let source ← r.templateSource file content
  let settings ← r.settings
  let parsed ← (parse settings source.trim).mapError (.unparsable file)
  if r.denyWarnings ∧ parsed.warnings ≠ [] then .error (.warningsDenied file parsed.warnings)
  else .ok ⟨r.format.render parsed.template, parsed.warnings⟩

def log (r : ParseRequest) (file : Text) (content : Except ReadError Text) : List LogRecord :=
  match content with
  | .error _ => []
  | .ok content =>
    (if r.isSplit file then Component.log content else []) ++
      match r.templateSource file content, r.settings with
      | .ok source, .ok settings => parseLog settings source.trim
      | _, _ => []

end ParseRequest

end TemplateMarkup
