import TemplateMarkup.Template.Basic
import TemplateMarkup.Text.Quoted

/-!
# Outlines

An outline shows what can be reached from the root of a template, one node after the other, each
indented by its depth. An else branch follows everything below the element it belongs to, at the
same depth.
-/

namespace TemplateMarkup

namespace Element

def outlineAttribute (a : Attribute) : Text :=
  ' ' :: a.name ++ '=' :: a.value

def outlineLoop (header : LoopHeader) : Text :=
  " for=".toList ++
    (match header.position with
    | some position => '(' :: header.item ++ ", ".toList ++ position ++ [')']
    | none => header.item) ++
    " in ".toList ++ header.expression

/-- A word that the outline shows if it applies. -/
def outlineFlag (applies : Bool) (word : String) : Text :=
  if applies then ' ' :: word.toList else []

/-- A text that the outline shows after a label if it is there. -/
def outlineField (label : String) : Option Text → Text
  | none => []
  | some s => ' ' :: label.toList ++ '=' :: s

def outline (e : Element) : Text :=
  '<' :: e.tag ++ ['>'] ++
    ((e.loop.map fun loop => outlineLoop loop.header).getD []) ++
    outlineField "if" e.condition ++
    outlineFlag e.isElse "else" ++
    outlineFlag e.once "once" ++
    outlineFlag e.pre "pre" ++
    outlineField "class" e.staticClass ++
    outlineField ":class" e.classBinding ++
    (e.staticAttrs ++ e.attrs ++ e.props).flatMap outlineAttribute ++
    e.handlers.flatMap fun h => " @".toList ++ h.event ++ '=' :: h.value

end Element

namespace Template

/-- The nodes of an outline with their depths, where `pending` holds the nodes still to be visited.
Elements come in ascending order of their ids, the next one not before `next`. -/
def walk (t : Template) (next : Nat) (pending : List (Nat × Child)) : List (Nat × Child) :=
  match pending with
  | [] => []
  | (depth, .element id) :: rest =>
    if next ≤ id ∧ id < t.size then
      let children := ((t.get? id).map (·.children)).getD []
      let branch := (t.elseBranch? id).toList
      (depth, .element id) ::
        t.walk (id + 1)
          (children.map (depth + 1, ·) ++ branch.map (depth, .element ·) ++ rest)
    else t.walk next rest
  | node :: rest => node :: t.walk next rest
termination_by (t.size - next, pending.length)

def outlineNode (t : Template) : Child → Text
  | .element id => ((t.get? id).map Element.outline).getD []
  | .text content => content.debugQuote
  | .expression interpolation => interpolation.toText

def outlineLine (t : Template) (depth : Nat) (node : Child) : Text :=
  List.replicate (2 * depth) ' ' ++ t.outlineNode node ++ ['\n']

def outline (t : Template) : Text :=
  (t.walk 0 (t.root.toList.map (0, .element ·))).flatMap fun (depth, node) =>
    t.outlineLine depth node

end Template

end TemplateMarkup
