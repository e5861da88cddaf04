import TemplateMarkup.Proofs.Content
import TemplateMarkup.Proofs.Descendants
import TemplateMarkup.Proofs.ShownNodes

/-!
# Outlines

The walk behind an outline keeps the nodes that are still to be visited, elements and leaves mixed,
in one list, and it is guarded: it goes on to later elements only. What it visits can be said
without such a list. An element comes first, then all that it holds one level deeper, and then its
else branch at its own level (`preorder`). In a template that was parsed the guards always hold, so
the walk does what it would do without them (`Visits`), and the outline is what a recursion over
elements and their children writes (`render`), each node on an indented line of its own. The
elements among the nodes are the root and its descendants, which `Template.descendants` collects in
another way.
-/

namespace TemplateMarkup

namespace Template

/-- The nodes that an outline shows right behind an element, before all others: what it holds one
level deeper, and then its else branch at its own level. -/
def nodesBehind (t : Template) (depth id : Nat) : List (Nat × Child) :=
  (t.content id).map (depth + 1, ·) ++ (t.elseBranch? id).toList.map (depth, .element ·)

/-- The nodes of an outline from an element on: the element, and each node behind it with what
follows from that one. -/
def preorder (t : Template) (depth id : Nat) : List (Nat × Child) :=
  (depth, .element id) :: (t.nodesBehind depth id).flatMap fun
    | (depth, .element next) =>
      if _h : id < next ∧ next < t.size then t.preorder depth next else []
    | leaf => [leaf]
termination_by t.size - id

/-- The nodes of an outline from a node on. -/
def nodesFrom (t : Template) : Nat × Child → List (Nat × Child)
  | (depth, .element id) => t.preorder depth id
  | leaf => [leaf]

/-- The line of a node: two spaces for each level, what is shown of the node, and a line feed. -/
def line (depth : Nat) (shown : Text) : Text :=
  List.replicate (2 * depth) ' ' ++ shown ++ ['\n']

def shown (t : Template) : Child → Text
  | .element id => ((t.get? id).map fun e => [' '].intercalate e.words).getD []
  | .text content => betweenQuotes shownInDiagnostic content
  | .expression interpolation => interpolation.shown

/-- The lines of an element, of all that it holds, and of its else branch. -/
def render (t : Template) (depth id : Nat) : Text :=
  (t.preorder depth id).flatMap fun node => line node.1 (t.shown node.2)

def renderChild (t : Template) (depth : Nat) : Child → Text
  | .element id => t.render depth id
  | .text content => line depth (betweenQuotes shownInDiagnostic content)
  | .expression interpolation => line depth interpolation.shown

/-- The nodes that an outline shows, with their depths. -/
def outlineNodes (t : Template) : List (Nat × Child) :=
  t.walk 0 (t.root.toList.map (0, .element ·))

def elementIds (nodes : List (Nat × Child)) : List Nat :=
  nodes.filterMap fun node => node.2.elementId?

/-- The walk through an outline without guards. It visits the first of the pending nodes. If that is
an element, it puts the nodes behind the element in front of the other pending ones. -/
inductive Visits (t : Template) : List (Nat × Child) → List (Nat × Child) → Prop
  | done : Visits t [] []
  | element {depth id : Nat} {pending visited : List (Nat × Child)} (inside : id < t.size)
      (rest : Visits t (t.nodesBehind depth id ++ pending) visited) :
      Visits t ((depth, .element id) :: pending) ((depth, .element id) :: visited)
  | leaf {depth : Nat} {node : Child} {pending visited : List (Nat × Child)}
      (isLeaf : node.elementId? = none) (rest : Visits t pending visited) :
      Visits t ((depth, node) :: pending) ((depth, node) :: visited)

/-- The elements that are to be visited come in ascending order, and none of them before `next`. -/
structure Ascends (t : Template) (next : Nat) (pending : List (Nat × Child)) : Prop where
  increasing : (elementIds (pending.flatMap t.nodesFrom)).Pairwise (· < ·)
  inside : ∀ x ∈ elementIds (pending.flatMap t.nodesFrom), next ≤ x ∧ x < t.size

variable {t : Template} {depth id next x : Nat} {node : Child}
variable {pending visited : List (Nat × Child)}

theorem nodesFrom_leaf (isLeaf : node.elementId? = none) :
    t.nodesFrom (depth, node) = [(depth, node)] := by
  cases node with
  | element id => simp [Child.elementId?] at isLeaf
  | text content => rfl
  | expression interpolation => rfl

theorem outlineNode_eq (node : Child) : t.outlineNode node = t.shown node := by
  cases node with
  | element id =>
      rw [outlineNode, shown]
      congr 2
      funext e
      exact e.intercalate_words.symm
  | text content =>
      rw [outlineNode, shown, betweenQuotes, funext shownInDiagnostic_eq]
      rfl
  | expression interpolation => exact interpolation.shown_eq.symm

theorem outlineLine_eq (depth : Nat) (node : Child) :
    t.outlineLine depth node = line depth (t.shown node) := by
  rw [outlineLine, outlineNode_eq, line]

theorem renderChild_eq (depth : Nat) (child : Child) :
    t.renderChild depth child =
      (t.nodesFrom (depth, child)).flatMap fun node => line node.1 (t.shown node.2) := by
  cases child with
  | element id => rfl
  | text content => exact (List.flatMap_singleton ..).symm
  | expression interpolation => exact (List.flatMap_singleton ..).symm

theorem childIds_eq_content (id : Nat) :
    t.childIds id = (t.content id).filterMap Child.elementId? := by
  rw [childIds, content]
  cases t.get? id <;> rfl

/-- The elements behind an element are those from its children on and those from its else branch
on. -/
theorem elementIds_nodesBehind (depth id : Nat) :
    elementIds ((t.nodesBehind depth id).flatMap t.nodesFrom) =
      ((t.childIds id).flatMap fun c => elementIds (t.preorder (depth + 1) c)) ++
        (t.elseBranch? id).toList.flatMap fun y => elementIds (t.preorder depth y) := by
  rw [nodesBehind, elementIds, List.flatMap_append, List.filterMap_append,
    List.filterMap_flatMap, List.filterMap_flatMap, List.flatMap_map, List.flatMap_map,
    childIds_eq_content, List.filterMap_eq_flatMap_toList Child.elementId?, List.flatMap_assoc]
  congr 1
  apply List.flatMap_congr
  intro child _
  cases child with
  | element c => exact (List.flatMap_singleton ..).symm
  | text content => rfl
  | expression interpolation => rfl

namespace Linked

variable (linked : t.Linked)

include linked

/-- An else branch starts after the element it belongs to. -/
theorem elseBranch?_between (isBranch : t.elseBranch? id = some x) : id < x ∧ x < t.size := by
  have host := (linked.branch_of_elseBranch? isBranch).2
  obtain ⟨p, -, isChild⟩ := host?_mem_childIds host
  have place := linked.elseBranch?_place isChild isBranch
  obtain ⟨e, found, -⟩ := Option.bind_eq_some_iff.1 place.1
  exact ⟨place.2.1, get?_lt found⟩

/-- The element at the top is the first one. -/
theorem root_eq_some (isRoot : t.root = some id) : id = 0 ∧ id < t.size := by
  have root := linked.root
  rw [isRoot] at root
  split at root
  next empty => simp at root
  next nonempty =>
    obtain rfl := Option.some.inj root
    exact ⟨rfl, Nat.pos_of_ne_zero nonempty⟩

/-- The element at the top has no else branch, as it is no child. -/
theorem elseBranch?_root (isRoot : t.root = some id) : t.elseBranch? id = none := by
  rw [Option.eq_none_iff_forall_ne_some]
  intro x isBranch
  obtain ⟨p, -, isChild⟩ := host?_mem_childIds (linked.branch_of_elseBranch? isBranch).2
  have before := linked.parent_lt id p (linked.parent?_of_child isChild)
  obtain rfl := (linked.root_eq_some isRoot).1
  exact Nat.not_lt_zero p before

/-- The elements behind an element started after it. -/
theorem nodesBehind_between (behind : (next, .element x) ∈ t.nodesBehind depth id) :
    id < x ∧ x < t.size := by
  rw [nodesBehind, List.mem_append] at behind
  rcases behind with held | branch
  · obtain ⟨child, isHeld, same⟩ := List.mem_map.1 held
    obtain ⟨-, rfl⟩ := Prod.mk.inj same
    have isChild : x ∈ t.childIds id := by
      rw [childIds_eq_content]
      exact List.mem_filterMap.2 ⟨_, isHeld, rfl⟩
    exact linked.held_between (mem_held.2 (.inl isChild))
  · obtain ⟨branch, isBranch, same⟩ := List.mem_map.1 branch
    obtain ⟨-, same⟩ := Prod.mk.inj same
    obtain rfl := Child.element.inj same
    exact linked.elseBranch?_between (Option.mem_toList.1 isBranch)

/-- The guards of the recursion hold. -/
theorem preorder_eq (depth id : Nat) :
    t.preorder depth id =
      (depth, .element id) :: (t.nodesBehind depth id).flatMap t.nodesFrom := by
  rw [preorder]
  congr 1
  apply List.flatMap_congr
  rintro ⟨depth', node⟩ behind
  cases node with
  | text content => rfl
  | expression interpolation => rfl
  | element next => exact dif_pos (linked.nodesBehind_between behind)

/-- Rendering an element: its line, its children one level deeper, its else branch. -/
theorem render_eq {e : Element} (found : t.get? id = some e) (depth : Nat) :
    t.render depth id =
      line depth ([' '].intercalate e.words) ++ e.children.flatMap (t.renderChild (depth + 1)) ++
        (e.elseBranch.map (t.render depth)).getD [] := by
  have own : t.shown (.element id) = [' '].intercalate e.words := by
    rw [shown, found]
    rfl
  have held : (((t.content id).map (depth + 1, ·)).flatMap t.nodesFrom).flatMap
      (fun node => line node.1 (t.shown node.2)) =
        e.children.flatMap (t.renderChild (depth + 1)) := by
    rw [content_of_get? t found, List.flatMap_map, List.flatMap_assoc]
    apply List.flatMap_congr
    intro child _
    exact (renderChild_eq (depth + 1) child).symm
  have branch :
      (((t.elseBranch? id).toList.map (depth, Child.element ·)).flatMap t.nodesFrom).flatMap
        (fun node => line node.1 (t.shown node.2)) =
          (e.elseBranch.map (t.render depth)).getD [] := by
    rw [elseBranch?_of_get? t found]
    cases e.elseBranch with
    | none => rfl
    | some next => simp [nodesFrom, render]
  rw [render, linked.preorder_eq, nodesBehind, List.flatMap_cons, List.flatMap_append,
    List.flatMap_append, held, branch, own, ← List.append_assoc]

/-- The elements of an outline, from an element on: the element, its descendants, and then its else
branch with the descendants of that one. -/
theorem elementIds_preorder (depth id : Nat) :
    elementIds (t.preorder depth id) =
      (id :: (t.elseBranch? id).toList).flatMap fun x => x :: t.descendants x := by
  induction below : t.size - id using Nat.strongRecOn generalizing depth id with
  | ind n ih =>
      have further : ∀ depth next, id < next ∧ next < t.size →
          elementIds (t.preorder depth next) =
            (next :: (t.elseBranch? next).toList).flatMap fun x => x :: t.descendants x := by
        intro depth next after
        exact ih (t.size - next) (by omega) depth next rfl
      have held : ((t.childIds id).flatMap fun c => elementIds (t.preorder (depth + 1) c)) =
          t.descendants id := by
        rw [linked.descendants_eq, held, List.flatMap_assoc]
        apply List.flatMap_congr
        intro c isChild
        exact further (depth + 1) c (linked.held_between (mem_held.2 (.inl isChild)))
      have branch : ((t.elseBranch? id).toList.flatMap fun y => elementIds (t.preorder depth y)) =
          (t.elseBranch? id).toList.flatMap fun x => x :: t.descendants x := by
        apply List.flatMap_congr
        intro y isBranch
        have isBranch := Option.mem_toList.1 isBranch
        have ends := linked.elseBranch?_eq_none (linked.branch_of_elseBranch? isBranch).1
        rw [further depth y (linked.elseBranch?_between isBranch), ends]
        simp
      calc elementIds (t.preorder depth id)
          = id :: elementIds ((t.nodesBehind depth id).flatMap t.nodesFrom) := by
            rw [linked.preorder_eq]
            rfl
        _ = (id :: t.descendants id) ++
              (t.elseBranch? id).toList.flatMap fun x => x :: t.descendants x := by
            rw [elementIds_nodesBehind, held, branch, List.cons_append]
        _ = (id :: (t.elseBranch? id).toList).flatMap fun x => x :: t.descendants x := by
            rw [List.flatMap_cons]

/-! ### Walking -/

/-- A walk that comes to an end has visited, from each pending node on, what the recursion lists. -/
theorem eq_of_visits (visits : t.Visits pending visited) :
    visited = pending.flatMap t.nodesFrom := by
  induction visits with
  | done => rfl
  | @element depth id pending visited inside _ ih =>
      calc (depth, .element id) :: visited
          = (depth, .element id) ::
              ((t.nodesBehind depth id).flatMap t.nodesFrom ++ pending.flatMap t.nodesFrom) := by
            rw [ih, List.flatMap_append]
        _ = t.preorder depth id ++ pending.flatMap t.nodesFrom := by
            rw [linked.preorder_eq, List.cons_append]
        _ = ((depth, .element id) :: pending).flatMap t.nodesFrom := by
            rw [List.flatMap_cons, nodesFrom]
  | @leaf depth node pending visited isLeaf _ ih =>
      rw [List.flatMap_cons, nodesFrom_leaf isLeaf, ih, List.singleton_append]

/-- The elements that are to be visited from an element on: the element, and the others. -/
theorem elementIds_cons (depth id : Nat) (pending : List (Nat × Child)) :
    elementIds (((depth, .element id) :: pending).flatMap t.nodesFrom) =
      id :: elementIds ((t.nodesBehind depth id ++ pending).flatMap t.nodesFrom) := by
  rw [List.flatMap_cons, nodesFrom, linked.preorder_eq, List.flatMap_append, List.cons_append]
  rfl

/-- A visit leaves later elements to be visited. -/
theorem ascends_visit (ascends : t.Ascends next ((depth, .element id) :: pending)) :
    (next ≤ id ∧ id < t.size) ∧ t.Ascends (id + 1) (t.nodesBehind depth id ++ pending) := by
  obtain ⟨increasing, inside⟩ := ascends
  rw [linked.elementIds_cons] at increasing inside
  obtain ⟨later, increasing⟩ := List.pairwise_cons.1 increasing
  refine ⟨inside id List.mem_cons_self, increasing, ?_⟩
  intro x member
  exact ⟨later x member, (inside x (List.mem_cons_of_mem _ member)).2⟩

/-- The guarded walk visits what the one without guards visits. -/
theorem visits_walk (ascends : t.Ascends next pending) :
    t.Visits pending (t.walk next pending) := by
  induction next, pending using Template.walk.induct t with
  | case1 next =>
      rw [walk]
      exact .done
  | case2 next depth id rest guard children branch ih =>
      rw [walk, if_pos guard]
      exact .element guard.2 (ih (linked.ascends_visit ascends).2)
  | case3 next depth id rest noGuard ih =>
      exact absurd (linked.ascends_visit ascends).1 noGuard
  | case4 next node rest noElement ih =>
      obtain ⟨depth, node⟩ := node
      have isLeaf : node.elementId? = none := by
        cases node with
        | element id => exact absurd rfl (noElement depth id)
        | text content => rfl
        | expression interpolation => rfl
      have others : elementIds (((depth, node) :: rest).flatMap t.nodesFrom) =
          elementIds (rest.flatMap t.nodesFrom) := by
        rw [List.flatMap_cons, nodesFrom_leaf isLeaf, List.singleton_append]
        exact List.filterMap_cons_none isLeaf
      have ascends : t.Ascends next rest := ⟨others ▸ ascends.increasing, others ▸ ascends.inside⟩
      have step : t.walk next ((depth, node) :: rest) = (depth, node) :: t.walk next rest := by
        rw [walk]
        exact noElement
      rw [step]
      exact .leaf isLeaf (ih ascends)

/-! ### The outline -/

/-- From the top on, the walk meets the elements in the order in which they started. -/
theorem ascends_root (contiguous : t.Contiguous) :
    t.Ascends 0 (t.root.toList.map (0, .element ·)) := by
  cases isRoot : t.root with
  | none => exact ⟨.nil, fun x member => absurd member List.not_mem_nil⟩
  | some root =>
      have elements : elementIds ([((0 : Nat), Child.element root)].flatMap t.nodesFrom) =
          root :: t.descendants root := by
        rw [List.flatMap_singleton, nodesFrom, linked.elementIds_preorder,
          linked.elseBranch?_root isRoot]
        simp
      have descends := linked.descends contiguous root
      have inside : root < t.size := (linked.root_eq_some isRoot).2
      refine ⟨?_, ?_⟩
      · show (elementIds ([(0, .element root)].flatMap t.nodesFrom)).Pairwise (· < ·)
        rw [elements]
        exact .cons (fun x member => (descends.later x member).1) descends.increasing
      · show ∀ x ∈ elementIds ([(0, .element root)].flatMap t.nodesFrom), 0 ≤ x ∧ x < t.size
        rw [elements, List.forall_mem_cons]
        exact ⟨⟨Nat.zero_le _, inside⟩,
          fun x member => ⟨Nat.zero_le _, (descends.later x member).2⟩⟩

theorem outlineNodes_eq (contiguous : t.Contiguous) :
    t.outlineNodes = (t.root.map (t.preorder 0)).getD [] := by
  have visits := linked.visits_walk (linked.ascends_root contiguous)
  rw [outlineNodes, linked.eq_of_visits visits]
  cases t.root with
  | none => rfl
  | some root => exact List.flatMap_singleton ..

end Linked

/-- The outline of a template is what a recursion writes, and its elements are those that can be
reached from the top. -/
structure RecursiveOutline (t : Template) : Prop where
  /-- An element is rendered as its line, its children one level deeper, and its else branch. -/
  render : ∀ id e, t.get? id = some e → ∀ depth,
    t.render depth id =
      line depth ([' '].intercalate e.words) ++ e.children.flatMap (t.renderChild (depth + 1)) ++
        (e.elseBranch.map (t.render depth)).getD []
  /-- The outline is the element at the top, rendered at depth zero. -/
  outline : t.outline = (t.root.map (t.render 0)).getD []
  /-- The walk without guards comes to an end, and visits the nodes that the outline shows. -/
  visits : t.Visits (t.root.toList.map (0, .element ·)) t.outlineNodes
  /-- The elements that it visits are the one at the top, and then its descendants. -/
  elements : elementIds t.outlineNodes =
    (t.root.map fun root => root :: t.descendants root).getD []

theorem Linked.recursiveOutline (linked : t.Linked) (contiguous : t.Contiguous) :
    t.RecursiveOutline where
  render _ _ found := linked.render_eq found
  outline := by
    have lines : t.outline = t.outlineNodes.flatMap fun node => line node.1 (t.shown node.2) :=
      List.flatMap_congr fun node _ => outlineLine_eq node.1 node.2
    rw [lines, linked.outlineNodes_eq contiguous]
    cases t.root <;> rfl
  visits := linked.visits_walk (linked.ascends_root contiguous)
  elements := by
    rw [linked.outlineNodes_eq contiguous]
    cases isRoot : t.root with
    | none => rfl
    | some root =>
        show elementIds (t.preorder 0 root) = root :: t.descendants root
        rw [linked.elementIds_preorder, linked.elseBranch?_root isRoot]
        simp

end Template

/-- Whatever the source and the settings, the outline of the template is the recursive one. -/
theorem parse_recursiveOutline (settings : Settings) (source : Text) :
    ParsesWith settings source fun _ parsed => parsed.template.RecursiveOutline := by
  apply parsesWith_of_build
  intro d _ _
  have nested := Builder.nested_buildTemplate settings d source
  exact nested.sound.linked.recursiveOutline nested.contiguous

/-- What an element holds is one level deeper in the outline, and its else branch is not. -/
example : (parse {}
    "<div><p v-if=\"a\">b<i></i></p><p v-else></p></div>".toList).toOption.map
      (fun p => p.template.nodesBehind 1 1) =
    some [(2, .text ['b']), (2, .element 2), (1, .element 3)] := by
  decide +kernel

end TemplateMarkup
