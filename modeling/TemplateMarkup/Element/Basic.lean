import TemplateMarkup.AttributeName.Modifiers
import TemplateMarkup.Interpolation.Fragment
import TemplateMarkup.LoopHeader
import TemplateMarkup.Markup.Attribute

/-!
# Elements

An element of a template: its tag and attributes as written, where it stands, and what its
attributes mean. Elements refer to each other by ids: the id of an element is its place among all
elements of its template, in the order in which they start.
-/

namespace TemplateMarkup

/-- What an element holds. -/
inductive Child where
  /-- Another element. -/
  | element (id : Nat)
  /-- Plain text. -/
  | text (content : Text)
  /-- Text with expressions. -/
  | expression (interpolation : Interpolation)
deriving DecidableEq

namespace Child

def elementId? : Child → Option Nat
  | element id => some id
  | _ => none

def text? : Child → Option Text
  | text content => some content
  | _ => none

def expression? : Child → Option Interpolation
  | expression interpolation => some interpolation
  | _ => none

end Child

structure Loop where
  header : LoopHeader
  /-- What tells one item from another. -/
  key : Option Text
deriving DecidableEq

/-- A call that yields the content of an element. -/
structure RenderCall where
  method : Option Text
  /-- The arguments. -/
  args : Option Text
deriving DecidableEq

inductive TransitionEffect where
  /-- The usual thing. -/
  | standard
  /-- What an expression says. -/
  | binding (expression : Text)
deriving DecidableEq

structure Transition where
  /-- What it does. -/
  effect : TransitionEffect
  /-- It also runs when the element first appears. -/
  onAppear : Bool
deriving DecidableEq

structure Handler where
  event : Text
  /-- The expression that handles it. -/
  value : Text
  /-- The flags. -/
  modifiers : Modifiers
deriving DecidableEq

/-- A directive that is not built in. -/
structure Directive where
  name : Text
  /-- The value as written. -/
  value : Text
  /-- The argument. -/
  arg : Option Text
  /-- The flags. -/
  modifiers : Modifiers
deriving DecidableEq

/-- What the attributes of an element mean. Texts are expressions; plain text of the source stands
in them as a quoted literal. -/
structure Annotations where
  /-- The loop over the element. -/
  loop : Option Loop := none
  /-- The condition under which the element is there. -/
  condition : Option Text := none
  /-- The element is there when the condition of the one before fails. -/
  isElse : Bool := false
  /-- The element is evaluated only once. -/
  once : Bool := false
  /-- The element has no key, and no attributes but those for loops and conditions. -/
  plain : Bool := false
  /-- The call that yields the content. -/
  render : Option RenderCall := none
  /-- The name of the slot that the element is. -/
  slotName : Option Text := none
  /-- The slot that the element fills. -/
  slotTarget : Option Text := none
  /-- The component that takes the element's place. -/
  component : Option Text := none
  /-- The content of the element is the template of its component. -/
  inlineTemplate : Bool := false
  /-- The class as plain text. -/
  staticClass : Option Text := none
  /-- The class as an expression. -/
  classBinding : Option Text := none
  /-- The style as an expression. -/
  styleBinding : Option Text := none
  transition : Option Transition := none
  /-- The bound attributes that set properties of the node. -/
  props : List Attribute := []
  /-- The other bound attributes. -/
  attrs : List Attribute := []
  /-- The plain attributes. -/
  staticAttrs : List Attribute := []
  /-- The event handlers. -/
  handlers : List Handler := []
  /-- The directives that are not built in. -/
  directives : List Directive := []
  /-- The element opens a raw region. -/
  pre : Bool := false
  /-- The element stands in a raw region, so its attributes are plain text. -/
  rawPassthrough : Bool := false
deriving DecidableEq

structure Element extends Annotations where
  /-- The tag, hyphenated and in lowercase. -/
  tag : Text
  /-- The attributes as written. -/
  attributes : List Attribute := []
  /-- The element around it. -/
  parent : Option Nat := none
  /-- What it holds. -/
  children : List Child := []
  /-- The namespace it is in. -/
  xmlNamespace : Option Text := none
  /-- The element that is there when its condition fails. -/
  elseBranch : Option Nat := none
  /-- The tag has side effects, so nothing links to the element. -/
  forbidden : Bool := false
  /-- An optimizer found that the element never changes. -/
  isStatic : Bool := false
  /-- An optimizer found that the element is the top of a subtree that never changes. -/
  staticRoot : Bool := false
deriving DecidableEq

namespace Element

def childIds (e : Element) : List Nat :=
  e.children.filterMap Child.elementId?

def handler? (e : Element) (event : Text) : Option Handler :=
  e.handlers.find? (·.event = event)

def directive? (e : Element) (name : Text) : Option Directive :=
  e.directives.find? (·.name = name)

/-- The value of the first bound attribute of a name. -/
def attr? (e : Element) (name : Text) : Option Text :=
  Attribute.firstValue? name e.attrs

/-- The value of the first plain attribute of a name. -/
def staticAttr? (e : Element) (name : Text) : Option Text :=
  Attribute.firstValue? name e.staticAttrs

/-- The value of the first property of a name. -/
def prop? (e : Element) (name : Text) : Option Text :=
  Attribute.firstValue? name e.props

end Element

end TemplateMarkup
