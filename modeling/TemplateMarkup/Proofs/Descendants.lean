import TemplateMarkup.Proofs.Ancestors
import TemplateMarkup.Proofs.Arena

/-!
# Descendants

`Template.descendants` is guarded: it goes on to later elements only, and so ends whatever the links
are. In a template that was parsed the guards always hold. What an element holds directly are its
children, each followed by its else branch (`held`), and its descendants are these, each followed by
its own descendants. Since what lies below an element is a stretch of the arena, they come in the
order in which they started.

`Walk` is the way to collect them that has no guards: it keeps the elements still to be visited, and
puts what a visited one holds in front of the others. It comes to an end with the same list.
-/

namespace TemplateMarkup

namespace Template

/-- The elements that an element holds directly: its children, each with its else branch. -/
def held (t : Template) (id : Nat) : List Nat :=
  (t.childIds id).flatMap fun child => child :: (t.elseBranch? child).toList

/-- The elements reached from one by taking a child of it, and then children and else branches of
elements reached before. -/
inductive Reached (t : Template) (id : Nat) : Nat → Prop
  | child {c : Nat} (isChild : c ∈ t.childIds id) : Reached t id c
  | deeper {x c : Nat} (reached : Reached t id x) (isChild : c ∈ t.childIds x) : Reached t id c
  | branch {x y : Nat} (reached : Reached t id x) (isBranch : t.elseBranch? x = some y) :
      Reached t id y

/-- An element, its else branch, the else branch of that one, and so on. -/
inductive ElseChain (t : Template) : Nat → List Nat → Prop
  | last {id : Nat} (unlinked : t.elseBranch? id = none) : ElseChain t id [id]
  | next {id branch : Nat} {chain : List Nat} (isBranch : t.elseBranch? id = some branch)
      (rest : ElseChain t branch chain) : ElseChain t id (id :: chain)

/-- The chains of else branches that the children of an element begin, one behind the other. -/
inductive Chains (t : Template) : List Nat → List Nat → Prop
  | nil : Chains t [] []
  | cons {child : Nat} {children chain ids : List Nat} (first : ElseChain t child chain)
      (rest : Chains t children ids) : Chains t (child :: children) (chain ++ ids)

/-- A walk visits the first pending element, and puts the chains of its children in front of the
other pending ones, until nothing is pending. -/
inductive Walk (t : Template) : List Nat → List Nat → Prop
  | done : Walk t [] []
  | visit {id : Nat} {chains pending visited : List Nat} (below : Chains t (t.childIds id) chains)
      (rest : Walk t (chains ++ pending) visited) : Walk t (id :: pending) (id :: visited)

variable {t : Template} {id a c h x y p : Nat}

theorem mem_held :
    x ∈ t.held id ↔ x ∈ t.childIds id ∨ ∃ c ∈ t.childIds id, t.elseBranch? c = some x := by
  simp only [held, List.mem_flatMap, List.mem_cons, Option.mem_toList]
  constructor
  · rintro ⟨c, isChild, rfl | isBranch⟩
    · exact .inl isChild
    · exact .inr ⟨c, isChild, isBranch⟩
  · rintro (isChild | ⟨c, isChild, isBranch⟩)
    · exact ⟨x, isChild, .inl rfl⟩
    · exact ⟨c, isChild, .inr isBranch⟩

theorem reached_of_held (reached : id = a ∨ t.Reached a id) (isHeld : x ∈ t.held id) :
    t.Reached a x := by
  have reachedChild : ∀ c ∈ t.childIds id, t.Reached a c := by
    intro c isChild
    rcases reached with rfl | reached
    · exact .child isChild
    · exact .deeper reached isChild
  rcases mem_held.1 isHeld with isChild | ⟨c, isChild, isBranch⟩
  · exact reachedChild x isChild
  · exact .branch (reachedChild c isChild) isBranch

theorem branch_of_unlinked (unlinked : t.elseBranch? c = none) :
    t.branch c = c :: t.descendants c := by
  rw [branch, unlinked, List.append_nil]

namespace Linked

variable (linked : t.Linked)

include linked

theorem parent?_of_child (isChild : c ∈ t.childIds p) : t.parent? c = some p := by
  obtain ⟨e, found, within, -⟩ := linked.child isChild
  rw [parent?, found, Option.bind_some, within]

/-- An else branch stands where the element it belongs to stands, behind it and before its next
sibling. -/
theorem elseBranch?_place (isChild : c ∈ t.childIds p) (isBranch : t.elseBranch? c = some y) :
    t.parent? y = some p ∧ c < y ∧ ∀ c' ∈ t.childIds p, c < c' → y < c' := by
  obtain ⟨branch, host⟩ := linked.branch_of_elseBranch? isBranch
  obtain ⟨previous, -⟩ := host?_eq_some.1 host
  obtain ⟨p', within, last⟩ := Option.bind_eq_some_iff.1 previous
  have member := List.mem_of_getLast? last
  have before := of_decide_eq_true (List.mem_filter.1 member).2
  obtain rfl : p = p' := by
    have own := linked.parent?_of_child (List.mem_filter.1 member).1
    exact Option.some.inj ((linked.parent?_of_child isChild).symm.trans own)
  refine ⟨within, before, ?_⟩
  intro c' isChild' after
  apply Nat.lt_of_not_le
  intro notAfter
  have distinct : c' ≠ y := by
    rintro rfl
    exact linked.child_notMem_branches isChild' branch
  -- A child between the two would be the last one before the branch.
  have earlier : c' ∈ (t.childIds p).filter (· < y) :=
    List.mem_filter.2 ⟨isChild', decide_eq_true (Nat.lt_of_le_of_ne notAfter distinct)⟩
  obtain ⟨front, split⟩ := List.getLast?_eq_some_iff.1 last
  have increasing := ((linked.arena.childIds_increasing p).filter (· < y))
  rw [split, List.pairwise_append] at increasing
  rw [split, List.mem_append, List.mem_singleton] at earlier
  rcases earlier with inFront | rfl
  · have := increasing.2.2 c' inFront c (List.mem_singleton_self c)
    omega
  · omega

theorem parent?_of_held (isHeld : x ∈ t.held p) : t.parent? x = some p := by
  rcases mem_held.1 isHeld with isChild | ⟨c, isChild, isBranch⟩
  · exact linked.parent?_of_child isChild
  · exact (linked.elseBranch?_place isChild isBranch).1

theorem held_between (isHeld : x ∈ t.held p) : p < x ∧ x < t.size := by
  have within := linked.parent?_of_held isHeld
  obtain ⟨e, found, -⟩ := Option.bind_eq_some_iff.1 within
  exact ⟨linked.parent_lt x p within, get?_lt found⟩

/-- What an element holds directly comes in the order in which it started. -/
theorem pairwise_held (p : Nat) : (t.held p).Pairwise (· < ·) := by
  rw [held, List.pairwise_flatMap]
  constructor
  · intro c isChild
    rw [List.pairwise_cons]
    refine ⟨?_, ?_⟩
    · intro y isBranch
      exact (linked.elseBranch?_place isChild (Option.mem_toList.1 isBranch)).2.1
    · cases t.elseBranch? c <;> simp
  · have increasing := linked.arena.childIds_increasing p
    refine increasing.imp_of_mem ?_
    intro c c' isChild isChild' before x ofC x' ofC'
    have upTo : x < c' := by
      rcases List.mem_cons.1 ofC with rfl | isBranch
      · exact before
      · have place := linked.elseBranch?_place isChild (Option.mem_toList.1 isBranch)
        exact place.2.2 c' isChild' before
    have onFrom : c' ≤ x' := by
      rcases List.mem_cons.1 ofC' with rfl | isBranch
      · exact Nat.le_refl _
      · have place := linked.elseBranch?_place isChild' (Option.mem_toList.1 isBranch)
        exact Nat.le_of_lt place.2.1
    exact Nat.lt_of_lt_of_le upTo onFrom

/-! ### The equation -/

theorem branch_eq (isChild : c ∈ t.childIds p) :
    t.branch c = (c :: (t.elseBranch? c).toList).flatMap fun x => x :: t.descendants x := by
  cases isBranch : t.elseBranch? c with
  | none =>
      rw [branch_of_unlinked isBranch]
      simp
  | some y =>
      have isHeld : y ∈ t.held p := mem_held.2 (.inr ⟨c, isChild, isBranch⟩)
      have after := (linked.elseBranch?_place isChild isBranch).2.1
      have inside := (linked.held_between isHeld).2
      have ends := linked.elseBranch?_eq_none (linked.branch_of_elseBranch? isBranch).1
      rw [Template.branch, isBranch]
      dsimp only
      rw [dif_pos ⟨after, inside⟩, branch_of_unlinked ends]
      simp

/-- The descendants of an element are what it holds, each with its own descendants behind it. -/
theorem descendants_eq (id : Nat) :
    t.descendants id = (t.held id).flatMap fun x => x :: t.descendants x := by
  rw [descendants, held, List.flatMap_assoc]
  apply List.flatMap_congr
  intro c isChild
  have guard := linked.held_between (mem_held.2 (.inl isChild))
  rw [dif_pos guard, linked.branch_eq isChild]

theorem mem_descendants :
    x ∈ t.descendants id ↔ ∃ h ∈ t.held id, x = h ∨ x ∈ t.descendants h := by
  rw [linked.descendants_eq id, List.mem_flatMap]
  simp only [List.mem_cons]

/-- From an element to what it holds, ids grow towards the end of the arena. -/
theorem held_induction {motive : Nat → Prop}
    (step : ∀ id, (∀ h ∈ t.held id, motive h) → motive id) (id : Nat) : motive id := by
  induction below : t.size - id using Nat.strongRecOn generalizing id with
  | ind n ih =>
      apply step
      intro h isHeld
      have place := linked.held_between isHeld
      exact ih (t.size - h) (by omega) h rfl

/-! ### What is listed, and in which order -/

theorem isAncestor_of_mem (member : x ∈ t.descendants id) : t.IsAncestor id x := by
  induction id using linked.held_induction with
  | step id ih =>
      obtain ⟨h, isHeld, rfl | deeper⟩ := linked.mem_descendants.1 member
      · exact .parent (linked.parent?_of_held isHeld)
      · exact (IsAncestor.parent (linked.parent?_of_held isHeld)).trans (ih h isHeld deeper)

theorem pairwise_descendants (contiguous : t.Contiguous) (id : Nat) :
    (t.descendants id).Pairwise (· < ·) := by
  induction id using linked.held_induction with
  | step id ih =>
      rw [linked.descendants_eq, List.pairwise_flatMap]
      constructor
      · intro h isHeld
        refine List.pairwise_cons.2 ⟨?_, ih h isHeld⟩
        intro x member
        exact (linked.isAncestor_of_mem member).lt linked.parent_lt
      · refine (linked.pairwise_held id).imp_of_mem ?_
        intro h h' isHeld isHeld' before x ofH x' ofH'
        have within := linked.parent?_of_held isHeld
        have within' := linked.parent?_of_held isHeld'
        have upTo : x < h' := by
          rcases List.mem_cons.1 ofH with rfl | member
          · exact before
          · exact contiguous.lt_of_siblings linked.parent_lt within within' before
              (linked.isAncestor_of_mem member)
        have onFrom : h' ≤ x' := by
          rcases List.mem_cons.1 ofH' with rfl | member
          · exact Nat.le_refl _
          · exact Nat.le_of_lt ((linked.isAncestor_of_mem member).lt linked.parent_lt)
        exact Nat.lt_of_lt_of_le upTo onFrom

theorem descendants_trans (first : x ∈ t.descendants id) (second : y ∈ t.descendants x) :
    y ∈ t.descendants id := by
  induction id using linked.held_induction with
  | step id ih =>
      obtain ⟨h, isHeld, rfl | deeper⟩ := linked.mem_descendants.1 first
      · exact linked.mem_descendants.2 ⟨x, isHeld, .inr second⟩
      · exact linked.mem_descendants.2 ⟨h, isHeld, .inr (ih h isHeld deeper)⟩

/-- Each descendant is held by the element itself or by another descendant. -/
theorem exists_holder (member : x ∈ t.descendants id) :
    ∃ z, (z = id ∨ z ∈ t.descendants id) ∧ x ∈ t.held z := by
  induction id using linked.held_induction with
  | step id ih =>
      obtain ⟨h, isHeld, rfl | deeper⟩ := linked.mem_descendants.1 member
      · exact ⟨id, .inl rfl, isHeld⟩
      · obtain ⟨z, place, holds⟩ := ih h isHeld deeper
        refine ⟨z, .inr ?_, holds⟩
        rcases place with rfl | below
        · exact linked.mem_descendants.2 ⟨z, isHeld, .inl rfl⟩
        · exact linked.mem_descendants.2 ⟨h, isHeld, .inr below⟩

/-- An else branch of a descendant is a descendant, as it is held together with its host. -/
theorem branch_mem_descendants (member : x ∈ t.descendants id)
    (isBranch : t.elseBranch? x = some y) : y ∈ t.descendants id := by
  obtain ⟨z, place, holds⟩ := linked.exists_holder member
  have isChild : x ∈ t.childIds z := by
    rcases mem_held.1 holds with isChild | ⟨c, -, branchOfC⟩
    · exact isChild
    · have ends := linked.elseBranch?_eq_none (linked.branch_of_elseBranch? branchOfC).1
      simp [ends] at isBranch
  have held : y ∈ t.held z := mem_held.2 (.inr ⟨x, isChild, isBranch⟩)
  have direct : y ∈ t.descendants z := linked.mem_descendants.2 ⟨y, held, .inl rfl⟩
  rcases place with rfl | below
  · exact direct
  · exact linked.descendants_trans below direct

/-- Exactly what can be reached is listed. -/
theorem mem_descendants_iff_reached : x ∈ t.descendants id ↔ t.Reached id x := by
  constructor
  · intro member
    have general : ∀ a, id = a ∨ t.Reached a id → t.Reached a x := by
      induction id using linked.held_induction with
      | step id ih =>
          intro a reached
          obtain ⟨h, isHeld, rfl | deeper⟩ := linked.mem_descendants.1 member
          · exact reached_of_held reached isHeld
          · exact ih h isHeld deeper a (.inr (reached_of_held reached isHeld))
    exact general id (.inl rfl)
  · intro reached
    have listed : ∀ {z c}, c ∈ t.childIds z → c ∈ t.descendants z := by
      intro z c isChild
      exact linked.mem_descendants.2 ⟨c, mem_held.2 (.inl isChild), .inl rfl⟩
    induction reached with
    | child isChild => exact listed isChild
    | deeper _ isChild ih => exact linked.descendants_trans ih (listed isChild)
    | branch _ isBranch ih => exact linked.branch_mem_descendants ih isBranch

/-- Nothing forbidden is listed, since only children and else branches are. -/
theorem not_forbidden_of_mem (member : x ∈ t.descendants id) :
    ∃ e, t.get? x = some e ∧ e.forbidden = false := by
  obtain ⟨z, -, holds⟩ := linked.exists_holder member
  rcases mem_held.1 holds with isChild | ⟨c, -, isBranch⟩
  · obtain ⟨e, found, -, allowed, -⟩ := linked.child isChild
    exact ⟨e, found, allowed⟩
  · obtain ⟨-, e, -, -, found, -, allowed, -⟩ := linked.branch isBranch
    exact ⟨e, found, allowed⟩

/-! ### Walking -/

theorem elseChain (id : Nat) : t.ElseChain id (id :: (t.elseBranch? id).toList) := by
  cases isBranch : t.elseBranch? id with
  | none => exact .last isBranch
  | some y =>
      have ends := linked.elseBranch?_eq_none (linked.branch_of_elseBranch? isBranch).1
      exact .next isBranch (.last ends)

theorem chains_held (p : Nat) : t.Chains (t.childIds p) (t.held p) := by
  rw [held]
  induction t.childIds p with
  | nil => exact .nil
  | cons c children ih => exact .cons (linked.elseChain c) ih

/-- A walk that has pending elements in front of others visits those and all that lies below them
before it goes on. -/
theorem walk_append (ids : List Nat)
    (each : ∀ h ∈ ids, ∀ pending visited, t.Walk pending visited →
      t.Walk (t.held h ++ pending) (t.descendants h ++ visited))
    {pending visited : List Nat} (walk : t.Walk pending visited) :
    t.Walk (ids ++ pending) ((ids.flatMap fun x => x :: t.descendants x) ++ visited) := by
  induction ids with
  | nil => exact walk
  | cons h ids ih =>
      rw [List.forall_mem_cons] at each
      have rest := each.1 _ _ (ih each.2)
      simpa using Walk.visit (linked.chains_held h) rest

theorem walk_held (id : Nat) {pending visited : List Nat} (walk : t.Walk pending visited) :
    t.Walk (t.held id ++ pending) (t.descendants id ++ visited) := by
  induction id using linked.held_induction generalizing pending visited with
  | step id ih =>
      rw [linked.descendants_eq]
      exact linked.walk_append (t.held id) (fun h isHeld _ _ => ih h isHeld) walk

end Linked

/-- What the descendants of an element are. -/
structure Descends (t : Template) (id : Nat) : Prop where
  /-- The walk through what the element holds comes to an end, and visits its descendants. -/
  walk : ∃ chains, t.Chains (t.childIds id) chains ∧ t.Walk chains (t.descendants id)
  /-- They come in the order in which they started, and so none comes twice. -/
  increasing : (t.descendants id).Pairwise (· < ·)
  /-- They started after the element. -/
  later : ∀ x ∈ t.descendants id, id < x ∧ x < t.size
  /-- They are what can be reached from the element. -/
  mem_iff : ∀ x, x ∈ t.descendants id ↔ t.Reached id x
  /-- None of them is forbidden. -/
  allowed : ∀ x ∈ t.descendants id, ∃ e, t.get? x = some e ∧ e.forbidden = false

theorem Linked.descends (linked : t.Linked) (contiguous : t.Contiguous) (id : Nat) :
    t.Descends id where
  walk := by
    have walk := linked.walk_held id .done
    rw [List.append_nil, List.append_nil] at walk
    exact ⟨t.held id, linked.chains_held id, walk⟩
  increasing := linked.pairwise_descendants contiguous id
  later x member := by
    obtain ⟨e, found, -⟩ := linked.not_forbidden_of_mem member
    exact ⟨(linked.isAncestor_of_mem member).lt linked.parent_lt, get?_lt found⟩
  mem_iff _ := linked.mem_descendants_iff_reached
  allowed _ := linked.not_forbidden_of_mem

end Template

/-- Whatever the source and the settings, the descendants of every element of the template are those
that can be reached from it, in the order in which they started. -/
theorem parse_descends (settings : Settings) (source : Text) :
    ParsesWith settings source fun _ parsed => ∀ id, parsed.template.Descends id := by
  apply parsesWith_of_build
  intro d _ _ id
  have nested : (buildTemplate settings d source).1.Nested :=
    buildTemplate_preserves Builder.Nested Builder.nested_empty
      (fun b event nested => nested.step settings d event) source
  exact nested.sound.linked.descends nested.contiguous id

/-- An else branch is held with its host, and a forbidden element is not held. -/
example : (parse {}
    "<div><p v-if=\"a\"><b></b></p><p v-else></p><style></style></div>".toList).toOption.map
      (fun p => (p.template.held 0, p.template.held 1)) = some ([1, 3], [2]) := by
  decide +kernel

end TemplateMarkup
