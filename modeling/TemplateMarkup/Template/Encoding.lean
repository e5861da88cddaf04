import TemplateMarkup.Json
import TemplateMarkup.Template.Basic
import TemplateMarkup.Warning

/-!
# Templates as JSON

The JSON form of templates, elements and warnings. What is absent is written as `null`, and the
members of an object stand in a fixed order.
-/

namespace TemplateMarkup

open Json

/-- The member under a name that is a literal. -/
private def field (name : String) (value : Json) : Text × Json :=
  (name.toList, value)

/-- A tag that tells apart the forms of a value. -/
private def tagged (key tag : String) : Text × Json :=
  field key (.str tag.toList)

def Attribute.toJson (a : Attribute) : Json :=
  obj [field "name" (str a.name), field "value" (str a.value)]

/-- The JSON form of a table of attributes, an object with one member per name. -/
def Attribute.tableToJson (attributes : List Attribute) : Json :=
  obj ((Attribute.table attributes).map fun a => (a.name, str a.value))

def Modifiers.toJson (m : Modifiers) : Json :=
  Json.ofList str m.names

def Filter.toJson (f : Filter) : Json :=
  obj [field "name" (str f.name), field "args" (ofText? f.args)]

def Pipeline.toJson (p : Pipeline) : Json :=
  obj [field "expression" (str p.expression), field "filters" (ofList Filter.toJson p.filters)]

def Fragment.toJson : Fragment → Json
  | literal content => obj [tagged "type" "literal", field "value" (str content)]
  | binding pipeline => obj [tagged "type" "binding", field "value" pipeline.toJson]

def Interpolation.toJson (i : Interpolation) : Json :=
  obj [field "tokens" (ofList Fragment.toJson i.fragments)]

def Child.toJson : Child → Json
  | element id => obj [tagged "type" "element", field "id" (nat id)]
  | text content => obj [tagged "type" "text", field "text" (str content)]
  | expression interpolation =>
    obj [tagged "type" "expression", field "expression" interpolation.toJson]

def Loop.toJson (l : Loop) : Json :=
  obj [
    field "expression" (str l.header.expression),
    field "alias" (str l.header.item),
    field "iterator" (ofText? l.header.position),
    field "key" (ofText? l.key)]

def RenderCall.toJson (r : RenderCall) : Json :=
  obj [field "method" (ofText? r.method), field "args" (ofText? r.args)]

def TransitionEffect.toJson : TransitionEffect → Json
  | standard => obj [tagged "kind" "default"]
  | binding expression => obj [tagged "kind" "binding", field "value" (str expression)]

def Transition.toJson (t : Transition) : Json :=
  obj [field "value" t.effect.toJson, field "on_appear" (bool t.onAppear)]

def Handler.toJson (h : Handler) : Json :=
  obj [
    field "event" (str h.event),
    field "value" (str h.value),
    field "modifiers" h.modifiers.toJson]

def Directive.toJson (d : Directive) : Json :=
  obj [
    field "name" (str d.name),
    field "value" (str d.value),
    field "arg" (ofText? d.arg),
    field "modifiers" d.modifiers.toJson]

/-- The JSON form of a value that may be absent. -/
private def optional {α : Type} (encode : α → Json) (value : Option α) : Json :=
  (value.map encode).getD null

def Element.toJson (e : Element) : Json :=
  obj [
    field "tag" (str e.tag),
    field "attrs_raw" (ofList Attribute.toJson e.attributes),
    field "attrs_map" (Attribute.tableToJson e.attributes),
    field "parent" (ofNat? e.parent),
    field "children" (ofList Child.toJson e.children),
    field "namespace" (ofText? e.xmlNamespace),
    field "for_loop" (optional Loop.toJson e.loop),
    field "if_expr" (ofText? e.condition),
    field "is_else" (bool e.isElse),
    field "else_block" (ofNat? e.elseBranch),
    field "once" (bool e.once),
    field "plain" (bool e.plain),
    field "render" (optional RenderCall.toJson e.render),
    field "slot_name" (ofText? e.slotName),
    field "slot_target" (ofText? e.slotTarget),
    field "component" (ofText? e.component),
    field "inline_template" (bool e.inlineTemplate),
    field "static_class" (ofText? e.staticClass),
    field "class_binding" (ofText? e.classBinding),
    field "style_binding" (ofText? e.styleBinding),
    field "transition" (optional Transition.toJson e.transition),
    field "props" (ofList Attribute.toJson e.props),
    field "attrs" (ofList Attribute.toJson e.attrs),
    field "static_attrs" (ofList Attribute.toJson e.staticAttrs),
    field "handlers" (ofList Handler.toJson e.handlers),
    field "directives" (ofList Directive.toJson e.directives),
    field "forbidden" (bool e.forbidden),
    field "pre" (bool e.pre),
    field "raw_passthrough" (bool e.rawPassthrough),
    field "is_static" (bool e.isStatic),
    field "static_root" (bool e.staticRoot)]

def Template.toJson (t : Template) : Json :=
  obj [
    field "elements" (ofList Element.toJson t.elements.toList),
    field "root" (ofNat? t.root)]

def Warning.toJson : Warning → Json
  | camelCaseTag tag hyphenated =>
    obj [
      tagged "kind" "camel_case_tag", field "tag" (str tag), field "hyphenated" (str hyphenated)]
  | duplicateAttribute name => obj [tagged "kind" "duplicate_attribute", field "name" (str name)]
  | forbiddenTag tag => obj [tagged "kind" "forbidden_tag", field "tag" (str tag)]
  | multipleRoots => obj [tagged "kind" "multiple_roots"]
  | contentOutsideElement text =>
    obj [tagged "kind" "content_outside_element", field "text" (str text)]
  | invalidLoop expression =>
    obj [tagged "kind" "invalid_for", field "expression" (str expression)]
  | elseWithoutIf tag => obj [tagged "kind" "else_without_if", field "tag" (str tag)]
  | renderMethodStatic => obj [tagged "kind" "render_method_static"]
  | renderMethodMissing => obj [tagged "kind" "render_method_missing"]
  | renderArgsStatic => obj [tagged "kind" "render_args_static"]
  | interpolationInAttribute name value =>
    obj [
      tagged "kind" "interpolation_in_attribute", field "name" (str name),
      field "value" (str value)]
  | unmatchedEndTag tag => obj [tagged "kind" "unmatched_end_tag", field "tag" (str tag)]

end TemplateMarkup
