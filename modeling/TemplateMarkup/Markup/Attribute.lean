import TemplateMarkup.Text.Basic

/-!
# Attributes

A name with a value, as written in a tag. A tag may repeat a name: `lastValue?` and `table` let the
last one win, `firstValue?` the first.
-/

namespace TemplateMarkup

/-- A name with a value. An attribute written without a value has the empty one. -/
structure Attribute where
  name : Text
  value : Text
deriving DecidableEq, Repr

namespace Attribute

def firstValue? (name : Text) (attributes : List Attribute) : Option Text :=
  (attributes.find? (·.name = name)).map (·.value)

def lastValue? (name : Text) (attributes : List Attribute) : Option Text :=
  firstValue? name attributes.reverse

/-- Sets the value of a name in a list with one attribute per name in ascending order. -/
def set (a : Attribute) : List Attribute → List Attribute
  | [] => [a]
  | b :: rest =>
    if a.name = b.name then a :: rest
    else if a.name < b.name then a :: b :: rest
    else b :: set a rest

/-- One attribute for each name, in ascending order of names. The last value of a name wins. -/
def table (attributes : List Attribute) : List Attribute :=
  attributes.foldl (fun t a => set a t) []

/-- The names that an earlier attribute already had, once for each repetition. -/
def repeated : List Attribute → List Text :=
  go []
where
  /-- The repetitions in a list that follows attributes with the names `seen`. -/
  go (seen : List Text) : List Attribute → List Text
    | [] => []
    | a :: rest =>
      if a.name ∈ seen then a.name :: go seen rest else go (a.name :: seen) rest

end Attribute

end TemplateMarkup
