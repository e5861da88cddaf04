import Mathlib.Data.List.Nodup
import TemplateMarkup.Proofs.Links

/-!
# The arena

What those who walk through a template rely on. Parents come before what they hold, siblings come in
order, an else branch follows the element it belongs to, and nothing is linked twice. All of it
follows from the links being the ones that the elements call for: such a link says on its own where
it comes from.
-/

namespace TemplateMarkup

namespace Template

/-- The links of an element: to its children, and then to its else branch. -/
def linksOf (t : Template) (id : Nat) : List Nat :=
  t.childIds id ++ (t.elseBranch? id).toList

def links (t : Template) : List Nat :=
  (List.range t.size).flatMap t.linksOf

/-- The shape of a template. -/
structure Arena (t : Template) : Prop where
  /-- The element at the top is the first one. -/
  root : t.root = if t.size = 0 then none else some 0
  /-- An element comes after the one around it. -/
  parent_lt : ∀ id e p, t.get? id = some e → e.parent = some p → p < id
  /-- A child lies within the element whose child it is. -/
  child : ∀ id c, c ∈ t.childIds id → ∃ e, t.get? c = some e ∧
    e.parent = some id ∧ e.forbidden = false ∧ e.isElse = false
  /-- Children come in the order in which they started. -/
  childIds_increasing : ∀ id, (t.childIds id).Pairwise (· < ·)
  /-- An else branch follows, under one parent, the conditional child to which it belongs. -/
  branch : ∀ x y, t.elseBranch? x = some y → ∃ ex ey p,
    t.get? x = some ex ∧ t.get? y = some ey ∧
    ey.isElse = true ∧ ey.forbidden = false ∧ ex.condition.isSome = true ∧
    ex.parent = some p ∧ ey.parent = some p ∧
    ((t.childIds p).filter (· < y)).getLast? = some x ∧ ey.elseBranch = none
  /-- Nothing is linked twice. -/
  links_nodup : t.links.Nodup

/-- The only element that can link to this one. -/
def holder? (t : Template) (id : Nat) : Option Nat :=
  if id ∈ t.branches then t.host? id else t.parent? id

namespace Linked

variable {t : Template} (linked : t.Linked) {x y c p : Nat}

include linked

theorem child (member : c ∈ t.childIds p) : ∃ e, t.get? c = some e ∧
    e.parent = some p ∧ e.forbidden = false ∧ e.isElse = false := by
  rw [linked.childIds_eq] at member
  obtain ⟨e, found, isChild⟩ := mem_childrenOf.1 member
  exact ⟨e, found, Element.isChildOf_iff.1 isChild⟩

theorem child_notMem_branches (member : c ∈ t.childIds p) : c ∉ t.branches := by
  intro isBranch
  obtain ⟨e, found, -, -, notElse⟩ := linked.child member
  obtain ⟨e', found', branch⟩ := mem_branches.1 isBranch
  obtain rfl : e = e' := Option.some.inj (found ▸ found')
  simp [Element.isBranch, notElse] at branch

/-- An else branch has no else branch of its own, since only children have one. -/
theorem elseBranch?_eq_none (isBranch : y ∈ t.branches) : t.elseBranch? y = none := by
  rw [Option.eq_none_iff_forall_ne_some]
  intro z linkedTo
  obtain ⟨-, host⟩ := linked.branch_of_elseBranch? linkedTo
  obtain ⟨p, -, member⟩ := host?_mem_childIds host
  exact linked.child_notMem_branches member isBranch

theorem branch (linkedTo : t.elseBranch? x = some y) : ∃ ex ey p,
    t.get? x = some ex ∧ t.get? y = some ey ∧
    ey.isElse = true ∧ ey.forbidden = false ∧ ex.condition.isSome = true ∧
    ex.parent = some p ∧ ey.parent = some p ∧
    ((t.childIds p).filter (· < y)).getLast? = some x ∧ ey.elseBranch = none := by
  obtain ⟨isBranch, host⟩ := linked.branch_of_elseBranch? linkedTo
  obtain ⟨previous, conditional⟩ := host?_eq_some.1 host
  obtain ⟨p, within, last⟩ := Option.bind_eq_some_iff.1 previous
  obtain ⟨ey, found, branch⟩ := mem_branches.1 isBranch
  obtain ⟨ex, foundHost, parent, -, -⟩ :=
    linked.child (List.mem_filter.1 (List.mem_of_getLast? last)).1
  have unlinked := linked.elseBranch?_eq_none isBranch
  obtain ⟨-, allowed, isElse⟩ := Element.isBranch_iff.1 branch
  rw [isConditional, foundHost, Option.any_some] at conditional
  rw [parent?, found, Option.bind_some] at within
  rw [elseBranch?, found, Option.bind_some] at unlinked
  exact ⟨ex, ey, p, foundHost, found, isElse, allowed, conditional, parent, within, last,
    unlinked⟩

theorem holder?_of_mem (member : c ∈ t.linksOf x) : t.holder? c = some x := by
  rw [holder?]
  rcases List.mem_append.1 member with isChild | isBranch
  · obtain ⟨e, found, within, -⟩ := linked.child isChild
    rw [if_neg (linked.child_notMem_branches isChild), parent?, found, Option.bind_some, within]
  · obtain ⟨isBranch, host⟩ := linked.branch_of_elseBranch? (Option.mem_toList.1 isBranch)
    rw [if_pos isBranch, host]

theorem nodup_linksOf (id : Nat) : (t.linksOf id).Nodup := by
  rw [linksOf, List.nodup_append']
  refine ⟨?_, Option.toList_nodup _, ?_⟩
  · rw [linked.childIds_eq]
    exact (t.pairwise_childrenOf id).imp Nat.ne_of_lt
  · intro c isChild isBranch
    exact linked.child_notMem_branches isChild
      (linked.branch_of_elseBranch? (Option.mem_toList.1 isBranch)).1

/-- Two elements do not share a link, since a link has only one holder. -/
theorem nodup_links : t.links.Nodup := by
  rw [links, List.nodup_flatMap]
  refine ⟨fun id _ => linked.nodup_linksOf id, ?_⟩
  apply List.Pairwise.imp _ List.nodup_range
  intro x y distinct c ofX ofY
  have same := (linked.holder?_of_mem ofX).symm.trans (linked.holder?_of_mem ofY)
  exact distinct (Option.some.inj same)

theorem arena : t.Arena where
  root := linked.root
  parent_lt id e p found within := by
    apply linked.parent_lt
    rw [parent?, found, Option.bind_some, within]
  child _ _ := linked.child
  childIds_increasing id := by
    rw [linked.childIds_eq]
    exact t.pairwise_childrenOf id
  branch _ _ := linked.branch
  links_nodup := linked.nodup_links

end Linked

end Template

/-- Whatever the source and the settings, parsing yields a template of the right shape. -/
theorem parse_arena {settings : Settings} (usable : settings.Usable) (source : Text) :
    ∃ parsed, parse settings source = .ok parsed ∧ parsed.template.Arena := by
  obtain ⟨parsed, b, succeeds, same, sound⟩ :=
    parse_preserves usable source (fun b _ => b.Sound) Builder.sound_empty
      fun d _ _ event sound => sound.step settings d event
  exact ⟨parsed, succeeds, same ▸ sound.linked.arena⟩

/-- A template with delimiters of its own, and with an else branch. -/
theorem parse_arena_bracketed :
    Settings.Usable { delimiters := some ⟨['['], [']']⟩ } ∧
      ∃ parsed, parse { delimiters := some ⟨['['], [']']⟩ }
        "<div><p v-if=\"a\">[b]</p><p v-else></p></div>".toList = .ok parsed ∧
        parsed.template.Arena := by
  have usable : Settings.Usable { delimiters := some ⟨['['], [']']⟩ } := by
    rintro d ⟨⟩
    decide
  exact ⟨usable, parse_arena usable _⟩

end TemplateMarkup
