import TemplateMarkup.Markup.Attribute
import TemplateMarkup.Text.Quoted

/-!
# Pending attributes

The attributes of an element whose meaning has not been settled. A claim settles all attributes of
one name at once; what no claim asks for remains in its order.
-/

namespace TemplateMarkup

/-- Attributes whose meaning has not been settled. -/
abbrev Pending := List Attribute

namespace Pending

/-- Takes all attributes of a name. The last value counts. -/
def claim (p : Pending) (name : Text) : Option Text × Pending :=
  (Attribute.lastValue? name p, p.filter (·.name ≠ name))

/-- Takes all attributes of a name, of which only the presence counts. -/
def claimFlag (p : Pending) (name : Text) : Bool × Pending :=
  let (value, p) := p.claim name
  (value.isSome, p)

/-- Takes all attributes of a name. An empty value counts as none. -/
def claimNonempty (p : Pending) (name : Text) : Option Text × Pending :=
  let (value, p) := p.claim name
  (value.filter (· ≠ []), p)

/-- Takes the expression bound to a name. The short form goes first; the long form is left alone if
the short one has a value. -/
def claimBinding (p : Pending) (name : Text) : Option Text × Pending :=
  match p.claim (':' :: name) with
  | (some (c :: value), p) => (some (c :: value), p)
  | (_, p) => p.claim ("v-bind:".toList ++ name)

/-- Takes the expression bound to a name or else its plain value as a literal. -/
def claimBindingOrLiteral (p : Pending) (name : Text) : Option Text × Pending :=
  match p.claimBinding name with
  | (some value, p) => (some value, p)
  | (none, p) =>
    let (value, p) := p.claim name
    (value.map Text.quote, p)

@[simp] theorem claim_fst (p : Pending) (name : Text) :
    (p.claim name).1 = Attribute.lastValue? name p := rfl

@[simp] theorem claim_snd (p : Pending) (name : Text) :
    (p.claim name).2 = p.filter (·.name ≠ name) := rfl

end Pending

end TemplateMarkup
