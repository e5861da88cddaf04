import TemplateMarkup.Element.Annotation
import TemplateMarkup.Markup.Event
import TemplateMarkup.Settings
import TemplateMarkup.Template.Basic
import TemplateMarkup.Text.Entity
import TemplateMarkup.Text.Hyphen

/-!
# Building a template

A template grows event by event. A start adds an element, links it to the one around it and opens
it; text goes to the innermost open element; an end closes that one. Everything else about an
element is settled when it starts.
-/

namespace TemplateMarkup

open Text

/-- A template that is being built. -/
structure Builder where
  /-- What there is of it. -/
  template : Template := {}
  /-- The open elements, innermost first. -/
  openIds : List Nat := []
  /-- The innermost open element is in a raw region. -/
  inRawRegion : Bool := false
  /-- It is known that there is more than one element at the top. -/
  rootsReported : Bool := false
  /-- It is known that there is text outside of all elements. -/
  outsideReported : Bool := false

namespace Builder

/-- The tag of an element that starts with this name, and the warning about camelCase. -/
def canonicalTag (name : Text) : Text × List Warning :=
  if isCamelCase name then
    (toLowerAscii (hyphenate name), [.camelCaseTag name (hyphenate name)])
  else (toLowerAscii name, [])

/-- The tag has side effects: styles, and scripts other than data. -/
def isForbidden (tag : Text) (attributes : List Attribute) : Bool :=
  tag = "style".toList ||
    (tag = "script".toList &&
      match Attribute.lastValue? "type".toList attributes with
      | none => true
      | some type => type = [] || type = "text/javascript".toList)

/-- The element that starts with this name and these attributes, and the warnings about it. -/
def makeElement (settings : Settings) (d : Delimiters) (name : Text)
    (attributes : List Attribute) (b : Builder) : Element × List Warning :=
  let (tag, tagWarnings) := canonicalTag name
  let forbidden := isForbidden tag attributes
  let parent := b.openIds.head?
  let (annotations, warnings) :=
    Annotations.ofAttributes settings.dialect d tag attributes b.inRawRegion
  ({ annotations with
      tag, attributes, parent, forbidden
      xmlNamespace :=
        ((parent.bind b.template.get?).bind (·.xmlNamespace)).or
          (settings.dialect.namespaceOf tag) },
    tagWarnings ++ (Attribute.repeated attributes).map .duplicateAttribute ++
      (if forbidden then [.forbiddenTag tag] else []) ++ warnings)

/-- The template with an else branch linked to the element before it, if that one has a
condition. -/
def linkElse (t : Template) (parent id : Nat) (tag : Text) : Template × List Warning :=
  match (t.childIds parent).getLast? with
  | none => (t, [.elseWithoutIf tag])
  | some previous =>
    if ((t.get? previous).bind (·.condition)).isSome then
      (t.modify previous fun e => { e with elseBranch := some id }, [])
    else (t, [.elseWithoutIf tag])

/-- The template with its newest element linked to the one around it. Forbidden elements and those
at the top are not linked. -/
def link (t : Template) (id : Nat) (e : Element) : Template × List Warning :=
  match e.parent with
  | none => (t, [])
  | some parent =>
    if e.forbidden then (t, [])
    else if e.isElse then linkElse t parent id e.tag
    else
      (t.modify parent fun p => { p with children := p.children ++ [.element id] }, [])

/-- Adds an element. The first one is the root; others at the top are reported once. -/
def addElement (e : Element) (b : Builder) : Builder × List Warning :=
  let id := b.template.size
  let t := b.template.push e
  match t.root with
  | none => ({ b with template := { t with root := some id } }, [])
  | some _ =>
    if b.openIds = [] ∧ b.rootsReported = false then
      ({ b with template := t, rootsReported := true }, [.multipleRoots])
    else ({ b with template := t }, [])

def start (settings : Settings) (d : Delimiters) (name : Text) (attributes : List Attribute)
    (isVoid : Bool) (b : Builder) : Builder × List Warning :=
  let id := b.template.size
  let (e, warnings) := b.makeElement settings d name attributes
  let (b, rootWarnings) := b.addElement e
  let (t, linkWarnings) := link b.template id e
  ({ b with
      template := t
      openIds := if isVoid then b.openIds else id :: b.openIds
      inRawRegion := b.inRawRegion || (e.pre && !isVoid) },
    warnings ++ rootWarnings ++ linkWarnings)

/-- The children without a single space at the end. -/
def dropTrailingSpace (children : List Child) : List Child :=
  if children.getLast? = some (.text [' ']) then children.dropLast else children

def finish (b : Builder) : Builder :=
  match b.openIds with
  | [] => b
  | id :: openIds =>
    { b with
      template := b.template.modify id fun e => { e with children := dropTrailingSpace e.children }
      openIds
      inRawRegion :=
        b.inRawRegion && !((b.template.get? id).map fun e => e.pre).getD false }

/-- What an element keeps of a run of text. Blank text becomes one space, if there is something
before it that the space separates from what follows, unless the blanks are content. -/
def keptText (settings : Settings) (parent : Element) (s : Text) : Text :=
  if parent.tag = "pre".toList || settings.dialect.isRawText parent.tag || !isAllBlank s then
    decodeReferences s
  else if settings.preserveWhitespace && !parent.children.isEmpty then [' ']
  else []

/-- The child that kept text makes. Text is not searched for spans in a raw region, and a single
space has none worth finding. -/
def textChild (d : Delimiters) (inRawRegion : Bool) (s : Text) : Child :=
  if inRawRegion || s = [' '] then .text s
  else
    match Interpolation.ofText? d s with
    | some interpolation => .expression interpolation
    | none => .text s

def textOutside (s : Text) (b : Builder) : Builder × List Warning :=
  if trim s ≠ [] ∧ b.outsideReported = false then
    ({ b with outsideReported := true }, [.contentOutsideElement (trim s)])
  else (b, [])

def text (settings : Settings) (d : Delimiters) (s : Text) (b : Builder) :
    Builder × List Warning :=
  match b.openIds with
  | [] => b.textOutside s
  | id :: _ =>
    let kept := ((b.template.get? id).map fun e => keptText settings e s).getD []
    if kept = [] then (b, [])
    else
      let child := textChild d b.inRawRegion kept
      ({ b with
          template :=
            b.template.modify id fun e => { e with children := e.children ++ [child] } }, [])

def step (settings : Settings) (d : Delimiters) (b : Builder) : Event → Builder × List Warning
  | .start name attributes isVoid => b.start settings d name attributes isVoid
  | .finish _ => (b.finish, [])
  | .text content => b.text settings d content
  | .unmatchedEnd tag => (b, [.unmatchedEndTag tag])

/-- What a list of events does, with the warnings of each. -/
def run (settings : Settings) (d : Delimiters) (b : Builder) :
    List Event → Builder × List (List Warning)
  | [] => (b, [])
  | event :: events =>
    let (b, warnings) := b.step settings d event
    let (b, rest) := run settings d b events
    (b, warnings :: rest)

end Builder

end TemplateMarkup
