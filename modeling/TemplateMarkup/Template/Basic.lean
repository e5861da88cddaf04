import TemplateMarkup.Element.Basic

/-!
# Templates

A template is the array of its elements in the order in which they start, and the element at the
top. Elements that nothing links to, such as forbidden ones, are in the array as well. Links always
lead to later elements, which is why following them comes to an end.
-/

namespace TemplateMarkup

structure Template where
  /-- All elements, in the order in which they start. -/
  elements : Array Element := #[]
  /-- The element at the top. -/
  root : Option Nat := none
deriving DecidableEq

namespace Template

def size (t : Template) : Nat := t.elements.size

def isEmpty (t : Template) : Bool := t.elements.isEmpty

def get? (t : Template) (id : Nat) : Option Element := t.elements[id]?

def rootElement? (t : Template) : Option Element := t.root.bind t.get?

def parentElement? (t : Template) (id : Nat) : Option Element :=
  ((t.get? id).bind (·.parent)).bind t.get?

def childIds (t : Template) (id : Nat) : List Nat :=
  ((t.get? id).map (·.childIds)).getD []

def childElements (t : Template) (id : Nat) : List Element :=
  (t.childIds id).filterMap t.get?

/-- The element that is there when the condition of another fails. -/
def elseBranch? (t : Template) (id : Nat) : Option Nat :=
  (t.get? id).bind (·.elseBranch)

mutual

/-- The elements below an element in document order: its children, each with what is below it and
then its else branches. -/
def descendants (t : Template) (id : Nat) : List Nat :=
  (t.childIds id).flatMap fun child =>
    if _h : id < child ∧ child < t.size then t.branch child else []
termination_by (t.size - id, 0)
decreasing_by exact Prod.Lex.left _ _ (by omega)

/-- An element, what is below it, and its else branches. -/
def branch (t : Template) (id : Nat) : List Nat :=
  id :: t.descendants id ++
    match t.elseBranch? id with
    | none => []
    | some next => if _h : id < next ∧ next < t.size then t.branch next else []
termination_by (t.size - id, 1)
decreasing_by
  · exact Prod.Lex.right _ (by omega)
  · exact Prod.Lex.left _ _ (by omega)

end

def push (t : Template) (e : Element) : Template :=
  { t with elements := t.elements.push e }

def modify (t : Template) (id : Nat) (f : Element → Element) : Template :=
  { t with elements := t.elements.modify id f }

/-- The template with the elements of the first list marked as never changing, and those of the
second as tops of subtrees that never change. -/
def mark (t : Template) (static roots : List Nat) : Template :=
  let t := static.foldl (fun t id => t.modify id fun e => { e with isStatic := true }) t
  roots.foldl (fun t id => t.modify id fun e => { e with staticRoot := true }) t

@[simp] theorem size_push (t : Template) (e : Element) : (t.push e).size = t.size + 1 := by
  simp [push, size]

@[simp] theorem size_modify (t : Template) (id : Nat) (f : Element → Element) :
    (t.modify id f).size = t.size := by
  simp [modify, size]

theorem get?_push (t : Template) (e : Element) (id : Nat) :
    (t.push e).get? id = if id = t.size then some e else t.get? id :=
  Array.getElem?_push

theorem get?_modify (t : Template) (id i : Nat) (f : Element → Element) :
    (t.modify id f).get? i = if id = i then (t.get? i).map f else t.get? i :=
  Array.getElem?_modify

end Template

end TemplateMarkup
