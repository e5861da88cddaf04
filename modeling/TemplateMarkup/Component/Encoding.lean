import TemplateMarkup.Command.Error
import TemplateMarkup.Component.Parse
import TemplateMarkup.Template.Encoding

/-!
# Components as JSON

The JSON form of components and their blocks, and the command that splits a component file and
prints it. The kind of a block follows from where it stands.
-/

namespace TemplateMarkup

open Json

/-- The members that the JSON forms of all blocks have. -/
def Block.members (b : Block) : List (Text × Json) :=
  [("attrs".toList, ofList Attribute.toJson b.attributes), ("content".toList, str b.content)]

/-- The JSON form of a template or a script. -/
def Block.toJson (b : Block) : Json :=
  obj b.members

def Block.styleToJson (b : Block) : Json :=
  obj (b.members ++ [("scoped".toList, bool b.isScoped)])

def Component.toJson (c : Component) : Json :=
  obj [
    ("template".toList, (c.template.map Block.toJson).getD null),
    ("script".toList, (c.script.map Block.toJson).getD null),
    ("styles".toList, ofList Block.styleToJson c.styles)]

def splitFile (file : Text) (content : Except ReadError Text) : Except CommandError Text := do
  let content ← content.mapError (.unreadable file)
  let component ← (Component.ofText? content).mapError (.unsplittable file)
  return component.toJson.pretty

def splitLog (content : Except ReadError Text) : List LogRecord :=
  match content with
  | .error _ => []
  | .ok content => Component.log content

end TemplateMarkup
