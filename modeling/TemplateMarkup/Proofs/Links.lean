import TemplateMarkup.Proofs.Building

/-!
# Links

Whether an element is linked, and to which one, is decided by what the elements say when they start:
where they stand, whether they are forbidden, else branches or conditional. `Linked` says that the
links of a template are the ones so decided, none missing and none besides. It is kept by every
event, and everything about the shape of a template follows from it: `Arena` collects what those who
walk through a template rely on.
-/

namespace TemplateMarkup

namespace Template

/-- The elements that are to be children of the one with this id, in order. -/
def childrenOf (t : Template) (parent : Nat) : List Nat :=
  (List.range t.size).filter fun id => (t.get? id).any (·.isChildOf parent)

/-- The elements that are to be else branches, in order. -/
def branches (t : Template) : List Nat :=
  (List.range t.size).filter fun id => (t.get? id).any Element.isBranch

/-- The last child of the parent of an element that started before it. -/
def previous? (t : Template) (id : Nat) : Option Nat :=
  (t.parent? id).bind fun p => ((t.childIds p).filter (· < id)).getLast?

/-- The element whose else branch an element is to be: the child before it, if that one is there
under a condition. -/
def host? (t : Template) (id : Nat) : Option Nat :=
  (t.previous? id).filter t.isConditional

/-- The else branches that are to belong to an element, in order. With no element given, the ones
that belong to none. -/
def branchesOf (t : Template) (host : Option Nat) : List Nat :=
  t.branches.filter fun id => t.host? id = host

/-- The links of a template are the ones that its elements call for. An element has only one else
branch: the last of those that are to belong to it. -/
structure Linked (t : Template) : Prop where
  root : t.root = if t.size = 0 then none else some 0
  parent_lt : ∀ id p, t.parent? id = some p → p < id
  childIds_eq : ∀ p, t.childIds p = t.childrenOf p
  elseBranch_eq : ∀ id, t.elseBranch? id = (t.branchesOf (some id)).getLast?

variable {t t' : Template} {id c p x y : Nat} {e : Element}

theorem mem_childrenOf : c ∈ t.childrenOf p ↔ ∃ e, t.get? c = some e ∧ e.isChildOf p := by
  simp only [childrenOf, List.mem_filter, List.mem_range, Option.any_eq_true]
  exact ⟨fun member => member.2, fun found => ⟨get?_lt found.choose_spec.1, found⟩⟩

theorem mem_branches : y ∈ t.branches ↔ ∃ e, t.get? y = some e ∧ e.isBranch := by
  simp only [branches, List.mem_filter, List.mem_range, Option.any_eq_true]
  exact ⟨fun member => member.2, fun found => ⟨get?_lt found.choose_spec.1, found⟩⟩

theorem mem_branchesOf {host : Option Nat} :
    y ∈ t.branchesOf host ↔ y ∈ t.branches ∧ t.host? y = host := by
  rw [branchesOf, List.mem_filter, decide_eq_true_iff]

theorem childrenOf_lt (member : c ∈ t.childrenOf p) : c < t.size := by
  obtain ⟨e, found, -⟩ := mem_childrenOf.1 member
  exact get?_lt found

theorem branches_lt (member : y ∈ t.branches) : y < t.size := by
  obtain ⟨e, found, -⟩ := mem_branches.1 member
  exact get?_lt found

theorem pairwise_childrenOf (t : Template) (p : Nat) : (t.childrenOf p).Pairwise (· < ·) :=
  List.pairwise_lt_range.filter _

theorem pairwise_branches (t : Template) : t.branches.Pairwise (· < ·) :=
  List.pairwise_lt_range.filter _

theorem previous?_lt (previous : t.previous? y = some x) : x < y := by
  obtain ⟨p, -, last⟩ := Option.bind_eq_some_iff.1 previous
  have member := List.mem_of_getLast? last
  exact of_decide_eq_true (List.mem_filter.1 member).2

theorem host?_eq_some :
    t.host? y = some x ↔ t.previous? y = some x ∧ t.isConditional x = true := by
  rw [host?, Option.filter_eq_some_iff]

/-- The host of a branch is a child of the element around the branch. -/
theorem host?_mem_childIds (host : t.host? y = some x) :
    ∃ p, t.parent? y = some p ∧ x ∈ t.childIds p := by
  obtain ⟨previous, -⟩ := host?_eq_some.1 host
  obtain ⟨p, within, last⟩ := Option.bind_eq_some_iff.1 previous
  exact ⟨p, within, (List.mem_filter.1 (List.mem_of_getLast? last)).1⟩

/-! ### Text -/

section WithoutText

variable (t)

theorem any_get?_withoutText (i : Nat) {test : Element → Bool}
    (holds : ∀ e : Element, test e.withoutText = test e) :
    (t.withoutText.get? i).any test = (t.get? i).any test := by
  rw [get?_withoutText]
  cases t.get? i with
  | none => rfl
  | some e => exact holds e

@[simp] theorem childrenOf_withoutText : t.withoutText.childrenOf p = t.childrenOf p := by
  rw [childrenOf, size_withoutText]
  exact List.filter_congr fun i _ => t.any_get?_withoutText i fun _ => rfl

@[simp] theorem branches_withoutText : t.withoutText.branches = t.branches := by
  rw [branches, size_withoutText]
  exact List.filter_congr fun i _ => t.any_get?_withoutText i fun _ => rfl

@[simp] theorem host?_withoutText : t.withoutText.host? y = t.host? y := by
  have same : t.withoutText.isConditional = t.isConditional := by
    funext i
    exact t.isConditional_withoutText i
  simp only [host?, previous?, parent?_withoutText, childIds_withoutText, same]

@[simp] theorem branchesOf_withoutText (host : Option Nat) :
    t.withoutText.branchesOf host = t.branchesOf host := by
  simp only [branchesOf, branches_withoutText, host?_withoutText]

/-- Text has no part in links. -/
theorem linked_withoutText : t.withoutText.Linked ↔ t.Linked := by
  constructor
  · rintro ⟨root, parent_lt, childIds_eq, elseBranch_eq⟩
    simp only [size_withoutText, parent?_withoutText, childIds_withoutText,
      childrenOf_withoutText, elseBranch?_withoutText, branchesOf_withoutText] at *
    exact ⟨root, parent_lt, childIds_eq, elseBranch_eq⟩
  · rintro ⟨root, parent_lt, childIds_eq, elseBranch_eq⟩
    refine ⟨?_, ?_, ?_, ?_⟩ <;>
      simpa only [size_withoutText, parent?_withoutText, childIds_withoutText,
        childrenOf_withoutText, elseBranch?_withoutText, branchesOf_withoutText]

end WithoutText

theorem Linked.of_withoutText (linked : t.Linked) (same : t'.withoutText = t.withoutText) :
    t'.Linked := by
  rw [← linked_withoutText, same, linked_withoutText]
  exact linked

/-! ### Starting an element -/

namespace Grows

variable (grows : t.Grows t' e)

include grows

theorem any_get? (i : Nat) {test : Element → Bool} (bare : ∀ e, test e.bare = test e) :
    (t'.get? i).any test = if i = t.size then test e else (t.get? i).any test := by
  rw [t'.any_get?_eq_bare i bare, grows.bare i, t.any_get?_eq_bare i bare]
  split
  · exact bare e
  · rfl

/-- What is asked of all elements in turn is asked of the new one last. -/
theorem filter_range {test : Element → Bool} (bare : ∀ e, test e.bare = test e) :
    ((List.range t'.size).filter fun i => (t'.get? i).any test) =
      ((List.range t.size).filter fun i => (t.get? i).any test) ++
        if test e then [t.size] else [] := by
  rw [grows.size, List.range_succ, List.filter_append]
  congr 1
  · apply List.filter_congr
    intro i inside
    rw [grows.any_get? i bare, if_neg (Nat.ne_of_lt (List.mem_range.1 inside))]
  · simp [grows.any_get? t.size bare, List.filter_cons]

theorem childrenOf (p : Nat) :
    t'.childrenOf p = t.childrenOf p ++ if e.isChildOf p then [t.size] else [] :=
  grows.filter_range fun _ => rfl

theorem branches : t'.branches = t.branches ++ if e.isBranch then [t.size] else [] :=
  grows.filter_range fun _ => rfl

theorem parent? (i : Nat) :
    t'.parent? i = if i = t.size then e.parent else t.parent? i := by
  rw [parent?_eq_bare, grows.bare i, parent?_eq_bare]
  split <;> rfl

theorem isConditional (inside : x < t.size) : t'.isConditional x = t.isConditional x := by
  rw [isConditional_eq_bare, grows.bare x, if_neg (Nat.ne_of_lt inside), isConditional_eq_bare]

/-- The children that started before a place are not changed by a start at or after it. -/
theorem filter_childIds (before : y ≤ t.size) :
    (t'.childIds p).filter (· < y) = (t.childIds p).filter (· < y) := by
  rw [grows.childIds p, List.filter_append]
  split
  · simp [before]
  · simp

theorem previous? (before : y < t.size) : t'.previous? y = t.previous? y := by
  rw [Template.previous?, grows.parent?, if_neg (Nat.ne_of_lt before)]
  congr 1
  funext p
  rw [grows.filter_childIds (Nat.le_of_lt before)]

/-- For the newest element, all children so far have started before. -/
theorem previous?_size (childInside : ∀ p, ∀ c ∈ t.childIds p, c < t.size) :
    t'.previous? t.size = e.parent.bind fun p => (t.childIds p).getLast? := by
  rw [Template.previous?, grows.parent?, if_pos rfl]
  congr 1
  funext p
  rw [grows.filter_childIds (Nat.le_refl _), List.filter_eq_self.2]
  intro c member
  exact decide_eq_true (childInside p c member)

theorem host? (before : y < t.size) : t'.host? y = t.host? y := by
  unfold Template.host?
  rw [grows.previous? before]
  cases previous : t.previous? y with
  | none => rfl
  | some x =>
      have inside := Nat.lt_trans (previous?_lt previous) before
      simp only [Option.filter_some, grows.isConditional inside]

theorem host?_size (childInside : ∀ p, ∀ c ∈ t.childIds p, c < t.size) :
    t'.host? t.size = t.hostFor? e := by
  rw [Template.host?, hostFor?, grows.previous?_size childInside]
  cases last : e.parent.bind fun p => (t.childIds p).getLast? with
  | none => rfl
  | some x =>
      obtain ⟨p, -, last⟩ := Option.bind_eq_some_iff.1 last
      have inside := childInside p x (List.mem_of_getLast? last)
      simp only [Option.filter_some, grows.isConditional inside]

theorem branchesOf (childInside : ∀ p, ∀ c ∈ t.childIds p, c < t.size) (host : Option Nat) :
    t'.branchesOf host =
      t.branchesOf host ++ if e.isBranch ∧ t.hostFor? e = host then [t.size] else [] := by
  rw [Template.branchesOf, grows.branches, List.filter_append]
  congr 1
  · apply List.filter_congr
    intro y member
    rw [grows.host? (branches_lt member)]
  · by_cases branch : e.isBranch = true
    · simp [branch, grows.host?_size childInside, List.filter_cons]
    · simp [branch]

end Grows

namespace Linked

theorem branch_of_elseBranch? (linked : t.Linked) (linkedTo : t.elseBranch? x = some y) :
    y ∈ t.branches ∧ t.host? y = some x := by
  rw [linked.elseBranch_eq] at linkedTo
  exact mem_branchesOf.1 (List.mem_of_getLast? linkedTo)

theorem childIds_lt (linked : t.Linked) (p : Nat) : ∀ c ∈ t.childIds p, c < t.size := by
  intro c member
  rw [linked.childIds_eq] at member
  exact childrenOf_lt member

/-- Starting an element keeps the links right, and makes those that it calls for. -/
theorem grow (linked : t.Linked) (grows : t.Grows t' e)
    (inside : ∀ p, e.parent = some p → p < t.size) : t'.Linked where
  root := by
    rw [grows.root, grows.size, linked.root]
    split
    next empty => simp [empty]
    next => simp
  parent_lt id p within := by
    rw [grows.parent?] at within
    split at within
    next last => exact last ▸ inside p within
    next => exact linked.parent_lt id p within
  childIds_eq p := by
    rw [grows.childIds, linked.childIds_eq, grows.childrenOf]
  elseBranch_eq id := by
    rw [grows.elseBranch, linked.elseBranch_eq, grows.branchesOf linked.childIds_lt,
      List.getLast?_append]
    split
    · simp
    · simp

end Linked

end Template

/-! ### Building -/

namespace Builder

open Template

/-- The links are right, and what is open has started. -/
structure Sound (b : Builder) : Prop where
  linked : b.template.Linked
  open_lt : ∀ id ∈ b.openIds, id < b.template.size

namespace Sound

variable {b : Builder}

theorem of_withoutText (sound : b.Sound) {b' : Builder}
    (same : b'.template.withoutText = b.template.withoutText)
    (stillOpen : b'.openIds ⊆ b.openIds) : b'.Sound where
  linked := sound.linked.of_withoutText same
  open_lt id isOpen := by
    have inside := sound.open_lt id (stillOpen isOpen)
    rwa [size_of_withoutText _ same]

variable (sound : b.Sound) (settings : Settings) (d : Delimiters)

include sound

theorem parent_lt (name : Text) (attributes : List Attribute) {p : Nat}
    (within : (b.makeElement settings d name attributes).1.parent = some p) :
    p < b.template.size := by
  rw [(b.makeElement_links settings d name attributes).1] at within
  exact sound.open_lt p (List.mem_of_head? within)

/-- What a start does to the template, and what the linking warns about. -/
theorem grows_start (name : Text) (attributes : List Attribute) (isVoid : Bool) :
    let made := b.makeElement settings d name attributes
    b.template.Grows (b.start settings d name attributes isVoid).1.template made.1 ∧
      (b.start settings d name attributes isVoid).2 =
        made.2 ++ (b.addElement made.1).2 ++
          if made.1.isBranch ∧ b.template.hostFor? made.1 = none then
            [.elseWithoutIf made.1.tag]
          else [] := by
  intro made
  obtain ⟨-, empty, unlinked⟩ := b.makeElement_links settings d name attributes
  have linking := grows_link empty unlinked
    (fun p => sound.parent_lt settings d name attributes) sound.linked.childIds_lt
  rw [start_template, start_warnings, linking.2]
  exact ⟨linking.1, rfl⟩

/-- What is selected from the warnings of a start, if it is not about where the element stands. -/
theorem filterMap_start {α : Type} {select : Warning → Option α}
    (noRoots : select .multipleRoots = none) (noElse : ∀ tag, select (.elseWithoutIf tag) = none)
    (name : Text) (attributes : List Attribute) (isVoid : Bool) :
    (b.start settings d name attributes isVoid).2.filterMap select =
      (b.makeElement settings d name attributes).2.filterMap select := by
  have noneAdded :
      (b.addElement (b.makeElement settings d name attributes).1).2.filterMap select = [] := by
    refine List.filterMap_eq_nil_iff.2 fun w member => ?_
    rw [addElement_warnings b _ w member, noRoots]
  have noneLinked : ∀ (homeless : Prop) [Decidable homeless] (tag : Text),
      (if homeless then [.elseWithoutIf tag] else []).filterMap select = [] := by
    intro homeless _ tag
    split
    · exact List.filterMap_cons_none (noElse tag)
    · rfl
  rw [(sound.grows_start settings d name attributes isVoid).2, List.filterMap_append,
    List.filterMap_append, noneAdded, noneLinked, List.append_nil, List.append_nil]

theorem start (name : Text) (attributes : List Attribute) (isVoid : Bool) :
    (b.start settings d name attributes isVoid).1.Sound := by
  have grows := (sound.grows_start settings d name attributes isVoid).1
  refine ⟨sound.linked.grow grows fun p => sound.parent_lt settings d name attributes, ?_⟩
  intro id isOpen
  rw [grows.size]
  rw [start_openIds] at isOpen
  have old : ∀ id ∈ b.openIds, id < b.template.size + 1 := fun id isOpen =>
    Nat.lt_succ_of_lt (sound.open_lt id isOpen)
  split at isOpen
  · exact old id isOpen
  · rcases List.mem_cons.1 isOpen with rfl | isOpen
    · exact Nat.lt_succ_self _
    · exact old id isOpen

theorem step (event : Event) : (b.step settings d event).1.Sound := by
  cases event with
  | start name attributes isVoid => exact sound.start settings d name attributes isVoid
  | finish tag =>
      refine sound.of_withoutText (withoutText_finish b) ?_
      rw [Builder.step, openIds_finish]
      exact (List.tail_sublist _).subset
  | text content =>
      refine sound.of_withoutText (withoutText_text settings d b content) ?_
      rw [Builder.step, openIds_text]
      exact List.Subset.refl _
  | unmatchedEnd tag => exact sound

/-- What is settled when an element starts stays so. -/
theorem bare?_step (event : Event) {id : Nat} (started : id < b.template.size) :
    (b.step settings d event).1.template.bare? id = b.template.bare? id := by
  cases event with
  | start name attributes isVoid =>
      have grows := (sound.grows_start settings d name attributes isVoid).1
      rw [Builder.step, grows.bare, if_neg (Nat.ne_of_lt started)]
  | finish tag => exact bare?_of_withoutText _ id (withoutText_finish b)
  | text content => exact bare?_of_withoutText _ id (withoutText_text settings d b content)
  | unmatchedEnd tag => rfl

theorem bare?_run {id : Nat} {e : Element} (settled : b.template.bare? id = some e)
    (events : List Event) : (b.run settings d events).1.template.bare? id = some e := by
  have kept : (b.run settings d events).1.Sound ∧
      (b.run settings d events).1.template.bare? id = some e := by
    refine run_preserves_of_mem (P := fun b => b.Sound ∧ b.template.bare? id = some e) events ?_
      ⟨sound, settled⟩
    rintro b event - ⟨sound, settled⟩
    obtain ⟨e', found, -⟩ := Option.map_eq_some_iff.1 settled
    exact ⟨sound.step settings d event,
      (sound.bare?_step settings d event (get?_lt found)).trans settled⟩
  exact kept.2

end Sound

theorem sound_empty : ({} : Builder).Sound where
  linked := by
    refine ⟨rfl, ?_, ?_, ?_⟩
    · intro id p within
      exact absurd within (by simp [parent?, get?])
    · intro p
      rfl
    · intro id
      rfl
  open_lt id isOpen := absurd isOpen List.not_mem_nil

end Builder

/-! ### What is settled when an element starts -/

/-- All elements are of this sort, their links aside. -/
def Template.Every (t : Template) (P : Element → Prop) : Prop :=
  ∀ id e, t.bare? id = some e → P e

namespace Builder

variable {settings : Settings} {d : Delimiters} {P : Element → Prop}

/-- Events change nothing but links and text, so elements stay as they are made. -/
theorem Sound.every_step {b : Builder} (sound : b.Sound) (every : b.template.Every P)
    (event : Event) (made : ∀ name attributes isVoid, event = .start name attributes isVoid →
      P (b.makeElement settings d name attributes).1.bare) :
    (b.step settings d event).1.template.Every P := by
  have of_withoutText : ∀ {t : Template}, t.withoutText = b.template.withoutText → t.Every P := by
    intro t same id e found
    rw [Template.bare?_of_withoutText _ id same] at found
    exact every id e found
  cases event with
  | start name attributes isVoid =>
      have grows := (sound.grows_start settings d name attributes isVoid).1
      intro id e found
      rw [Builder.step, grows.bare] at found
      split at found
      · obtain rfl := Option.some.inj found
        exact made name attributes isVoid rfl
      · exact every id e found
  | finish tag => exact of_withoutText (withoutText_finish b)
  | text content => exact of_withoutText (withoutText_text settings d b content)
  | unmatchedEnd tag => exact every

/-- What holds of every element that a start in the source makes holds of all elements of a
template. -/
theorem every_buildTemplate_of_mem {source : Text}
    (made : ∀ b name attributes isVoid,
      .start name attributes isVoid ∈ events settings.dialect settings.expectHtml source →
      P (makeElement settings d name attributes b).1.bare) :
    (buildTemplate settings d source).1.template.Every P := by
  have kept : (buildTemplate settings d source).1.Sound ∧
      (buildTemplate settings d source).1.template.Every P := by
    refine run_preserves_of_mem (P := fun b => b.Sound ∧ b.template.Every P) _ ?_
      ⟨sound_empty, ?_⟩
    · rintro b event member ⟨sound, every⟩
      refine ⟨sound.step settings d event, sound.every_step every event ?_⟩
      rintro name attributes isVoid rfl
      exact made b name attributes isVoid member
    · intro id e found
      exact absurd found (by simp [Template.bare?, Template.get?])
  exact kept.2

/-- What holds of every element that is made holds of all elements of a template. -/
theorem every_buildTemplate
    (made : ∀ b name attributes, P (makeElement settings d name attributes b).1.bare)
    (source : Text) : (buildTemplate settings d source).1.template.Every P :=
  every_buildTemplate_of_mem fun b name attributes _ _ => made b name attributes

end Builder

end TemplateMarkup
