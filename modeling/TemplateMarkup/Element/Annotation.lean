import TemplateMarkup.AttributeName.Basic
import TemplateMarkup.Dialect
import TemplateMarkup.Element.Basic
import TemplateMarkup.Element.Pending
import TemplateMarkup.Warning

/-!
# Annotation

What the attributes of an element mean. The built-in directives claim theirs in a fixed order; the
names of those that remain say what they are. In a raw region attributes are plain text, whatever
their names.
-/

namespace TemplateMarkup

open Text

namespace Annotations

/-- The warning about plain text with a span, which is not evaluated. -/
def spanWarnings (d : Delimiters) (name value : Text) : List Warning :=
  if (Interpolation.ofText? d value).isSome then [.interpolationInAttribute name value] else []

def literals (attributes : List Attribute) : List Attribute :=
  attributes.map fun a => ⟨a.name, quote a.value⟩

/-- Claims the loop. The key counts only with a header that can be read. -/
def claimLoop (p : Pending) : Option Loop × List Warning × Pending :=
  match p.claimNonempty "v-for".toList with
  | (none, p) => (none, [], p)
  | (some value, p) =>
    match LoopHeader.ofText? value with
    | none => (none, [.invalidLoop value], p)
    | some header =>
      let (key, p) := p.claimNonempty "track-by".toList
      (some ⟨header, key⟩, [], p)

/-- The expression bound to a name in a list of attributes, of which none is taken. -/
def boundValue? (attributes : List Attribute) (name : Text) : Option Text :=
  ((Attribute.lastValue? (':' :: name) attributes).filter (· ≠ [])).or
    (Attribute.lastValue? ("v-bind:".toList ++ name) attributes)

def renderCall (attributes : List Attribute) : RenderCall where
  method := boundValue? attributes "method".toList
  args := boundValue? attributes "args".toList

def renderWarnings (attributes : List Attribute) : List Warning :=
  let isWritten (name : String) := (Attribute.lastValue? name.toList attributes).isSome
  (if isWritten "method" then [.renderMethodStatic]
    else if (renderCall attributes).method = none then [.renderMethodMissing]
    else []) ++
  (if isWritten "args" then [.renderArgsStatic] else [])

/-- Claims the name of a slot, or the slot that another element fills. -/
def claimSlot (tag : Text) (p : Pending) : Option Text × Option Text × Pending :=
  if tag = "slot".toList then
    let (name, p) := p.claimBindingOrLiteral "name".toList
    (name, none, p)
  else
    let (target, p) := p.claimBindingOrLiteral "slot".toList
    (none, target.filter (· ≠ []), p)

/-- Claims the transition. Whether it runs on appearance is asked only if there is one. -/
def claimTransition (p : Pending) : Option Transition × Pending :=
  match p.claimBindingOrLiteral "transition".toList with
  | (none, p) => (none, p)
  | (some [], p) => (none, p)
  | (some value, p) =>
    let effect := if value = "\"\"".toList then .standard else .binding value
    let (onAppear, p) := p.claimBindingOrLiteral "transition-on-appear".toList
    (some ⟨effect, onAppear.isSome⟩, p)

def bound? (a : Attribute) : Option Attribute :=
  match AttributeName.ofText a.name with
  | .bind name => some ⟨name, a.value⟩
  | _ => none

def handler? (a : Attribute) : Option Handler :=
  match AttributeName.ofText a.name with
  | .on event modifiers => some ⟨event, a.value, modifiers⟩
  | _ => none

def directive? (a : Attribute) : Option Directive :=
  match AttributeName.ofText a.name with
  | .directive name arg modifiers => some ⟨name, a.value, arg, modifiers⟩
  | _ => none

def plainAttributes (p : Pending) : List Attribute :=
  p.filter fun a => AttributeName.ofText a.name = .literal

/-- What the attributes of an element outside of raw regions mean, and the warnings about them. -/
def resolve (dialect : Dialect) (d : Delimiters) (tag : Text) (attributes : List Attribute)
    (p : Pending) : Annotations × List Warning :=
  let (loop, loopWarnings, p) := claimLoop p
  let (condition, p) := p.claimNonempty "v-if".toList
  let (isElse, p) := p.claimFlag "v-else".toList
  let (once, p) := p.claimFlag "v-once".toList
  let plain := (loop.bind (·.key)).isNone && p.isEmpty
  let isRender := tag = "render".toList
  let (slotName, slotTarget, p) := claimSlot tag p
  let (component, p) := p.claimBindingOrLiteral "is".toList
  let (inlineTemplate, p) := p.claimFlag "inline-template".toList
  let (staticClass, p) := p.claim "class".toList
  let (classBinding, p) := p.claimBinding "class".toList
  let (styleBinding, p) := p.claimBinding "style".toList
  let (transition, p) := claimTransition p
  let bound := p.filterMap bound?
  let literal := plainAttributes p
  ({ loop, condition, isElse, once, plain, slotName, slotTarget, inlineTemplate, transition
     render := if isRender then some (renderCall attributes) else none
     component := component.filter (· ≠ [])
     staticClass := staticClass.map quote
     classBinding := classBinding.filter (· ≠ [])
     styleBinding := styleBinding.filter (· ≠ [])
     props := bound.filter fun a => dialect.mustUseProp tag a.name
     attrs := bound.filter fun a => !dialect.mustUseProp tag a.name
     staticAttrs := literals literal
     handlers := p.filterMap handler?
     directives := p.filterMap directive? },
    loopWarnings ++
      (if isRender then renderWarnings attributes else []) ++
      (match staticClass with
      | none => []
      | some value => spanWarnings d "class".toList value) ++
      literal.flatMap fun a => spanWarnings d a.name a.value)

/-- What the attributes of an element mean, and the warnings about them. An element opens a raw
region if it is not in one already. -/
def ofAttributes (dialect : Dialect) (d : Delimiters) (tag : Text) (attributes : List Attribute)
    (inRawRegion : Bool) : Annotations × List Warning :=
  if inRawRegion then
    ({ rawPassthrough := true, attrs := literals attributes }, [])
  else
    match Pending.claimFlag attributes "v-pre".toList with
    | (true, p) => ({ pre := true, rawPassthrough := true, attrs := literals p }, [])
    | (false, p) => resolve dialect d tag attributes p

end Annotations

end TemplateMarkup
