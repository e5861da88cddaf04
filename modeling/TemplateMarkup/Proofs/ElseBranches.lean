import Mathlib.Data.List.Nodup
import TemplateMarkup.Proofs.ElementWarnings
import TemplateMarkup.Proofs.Links

/-!
# Else branches

What becomes of the else branches. A branch that follows no condition is reported, and one that
follows a condition is linked to the element with it. But children are all that a branch looks back
at, and a branch is no child: where several branches follow one condition, each takes the place of
the one before it, and only the last stays. The others are lost without a report (`lostBranches`),
and there is no other way to lose one.
-/

namespace TemplateMarkup

namespace Warning

/-- The tag of an else branch that is reported to follow no condition. -/
def strayTag? : Warning → Option Text
  | elseWithoutIf tag => some tag
  | _ => none

def strayTags (warnings : List Warning) : List Text :=
  warnings.filterMap strayTag?

theorem AllAboutElement.strayTags_eq_nil {ws : List Warning} (about : AllAboutElement ws) :
    strayTags ws = [] := by
  apply about.filterMap_eq_nil
  intro w aboutElement
  cases w with
  | elseWithoutIf tag => exact absurd aboutElement Bool.false_ne_true
  | _ => rfl

end Warning

namespace Template

open Warning

def tag? (t : Template) (id : Nat) : Option Text :=
  (t.get? id).map (·.tag)

/-- The else branches that follow no condition. -/
def strays (t : Template) : List Nat :=
  t.branchesOf none

/-- The else branches that elements have. -/
def linkedBranches (t : Template) : List Nat :=
  (List.range t.size).filterMap t.elseBranch?

/-- The else branches that follow the same condition as a later one. -/
def lostBranches (t : Template) : List Nat :=
  t.branches.filter fun y =>
    (t.host? y).isSome && t.branches.any fun z => y < z && t.host? z = t.host? y

variable {t t' : Template} {e : Element} {x y z : Nat}

theorem mem_lostBranches :
    y ∈ t.lostBranches ↔ ∃ x z, y ∈ t.branchesOf (some x) ∧ z ∈ t.branchesOf (some x) ∧ y < z := by
  simp only [lostBranches, List.mem_filter, Bool.and_eq_true, Option.isSome_iff_exists,
    List.any_eq_true, decide_eq_true_iff, mem_branchesOf]
  constructor
  · rintro ⟨isBranch, ⟨x, host⟩, z, later, before, same⟩
    exact ⟨x, z, ⟨isBranch, host⟩, ⟨later, same.trans host⟩, before⟩
  · rintro ⟨x, z, ⟨isBranch, host⟩, ⟨later, sameHost⟩, before⟩
    exact ⟨isBranch, ⟨x, host⟩, z, later, before, sameHost.trans host.symm⟩

theorem pairwise_branchesOf (t : Template) (host : Option Nat) :
    (t.branchesOf host).Pairwise (· < ·) :=
  t.pairwise_branches.filter _

/-- In increasing order, the last is the greatest. -/
theorem getLast?_eq_some_iff_greatest {ids : List Nat} (increasing : ids.Pairwise (· < ·)) :
    ids.getLast? = some y ↔ y ∈ ids ∧ ∀ z ∈ ids, z ≤ y := by
  have greatest : ∀ {y}, ids.getLast? = some y → ∀ z ∈ ids, z ≤ y := by
    intro y last z member
    obtain ⟨before, rfl⟩ := List.getLast?_eq_some_iff.1 last
    rcases List.mem_append.1 member with earlier | itself
    · exact Nat.le_of_lt ((List.pairwise_append.1 increasing).2.2 z earlier y
        (List.mem_singleton_self y))
    · exact Nat.le_of_eq (List.mem_singleton.1 itself)
  constructor
  · intro last
    exact ⟨List.mem_of_getLast? last, greatest last⟩
  · rintro ⟨member, most⟩
    obtain ⟨m, last⟩ : ∃ m, ids.getLast? = some m :=
      ⟨_, List.getLast?_eq_getLast_of_ne_nil (List.ne_nil_of_mem member)⟩
    have same : m = y :=
      Nat.le_antisymm (most m (List.mem_of_getLast? last)) (greatest last y member)
    rw [last, same]

namespace Linked

variable (linked : t.Linked)

include linked

theorem elseBranch?_eq_some :
    t.elseBranch? x = some y ↔
      y ∈ t.branchesOf (some x) ∧ ∀ z ∈ t.branchesOf (some x), z ≤ y := by
  rw [linked.elseBranch_eq, getLast?_eq_some_iff_greatest (t.pairwise_branchesOf (some x))]

theorem mem_linkedBranches :
    y ∈ t.linkedBranches ↔
      ∃ x, y ∈ t.branchesOf (some x) ∧ ∀ z ∈ t.branchesOf (some x), z ≤ y := by
  simp only [linkedBranches, List.mem_filterMap, List.mem_range, ← linked.elseBranch?_eq_some]
  constructor
  · rintro ⟨x, -, linkedTo⟩
    exact ⟨x, linkedTo⟩
  · rintro ⟨x, linkedTo⟩
    obtain ⟨e, found, -⟩ := Option.bind_eq_some_iff.1 linkedTo
    exact ⟨x, get?_lt found, linkedTo⟩

theorem nodup_linkedBranches : t.linkedBranches.Nodup := by
  apply List.Nodup.filterMap _ List.nodup_range
  intro x x' y ofX ofX'
  obtain ⟨-, host⟩ := linked.branch_of_elseBranch? ofX
  obtain ⟨-, host'⟩ := linked.branch_of_elseBranch? ofX'
  exact Option.some.inj (host.symm.trans host')

/-- A branch that follows no condition is neither linked nor lost. -/
theorem host?_ne_none_of_mem (member : y ∈ t.linkedBranches ++ t.lostBranches) :
    t.host? y ≠ none := by
  rw [List.mem_append, linked.mem_linkedBranches, mem_lostBranches] at member
  rcases member with ⟨x, ofX, -⟩ | ⟨x, z, ofX, -⟩
  · simp [(mem_branchesOf.1 ofX).2]
  · simp [(mem_branchesOf.1 ofX).2]

theorem linked_notMem_lost (isLinked : y ∈ t.linkedBranches) : y ∉ t.lostBranches := by
  rw [linked.mem_linkedBranches] at isLinked
  rw [mem_lostBranches]
  rintro ⟨x', z, ofX', later, before⟩
  obtain ⟨x, ofX, most⟩ := isLinked
  obtain rfl : x = x' := by
    have same := (mem_branchesOf.1 ofX).2.symm.trans (mem_branchesOf.1 ofX').2
    exact Option.some.inj same
  exact absurd (most z later) (Nat.not_le_of_lt before)

theorem mem_branches_iff :
    y ∈ t.branches ↔ y ∈ t.strays ++ (t.linkedBranches ++ t.lostBranches) := by
  simp only [List.mem_append, linked.mem_linkedBranches, mem_lostBranches]
  constructor
  · intro isBranch
    cases host : t.host? y with
    | none => exact .inl (mem_branchesOf.2 ⟨isBranch, host⟩)
    | some x =>
        have ofX : y ∈ t.branchesOf (some x) := mem_branchesOf.2 ⟨isBranch, host⟩
        by_cases later : ∃ z ∈ t.branchesOf (some x), y < z
        · obtain ⟨z, ofX', before⟩ := later
          exact .inr (.inr ⟨x, z, ofX, ofX', before⟩)
        · refine .inr (.inl ⟨x, ofX, fun z ofX' => ?_⟩)
          exact Nat.le_of_not_lt fun before => later ⟨z, ofX', before⟩
  · rintro (stray | ⟨x, ofX, -⟩ | ⟨x, z, ofX, -⟩)
    · exact (mem_branchesOf.1 stray).1
    · exact (mem_branchesOf.1 ofX).1
    · exact (mem_branchesOf.1 ofX).1

/-- An else branch follows no condition, is linked or is lost, and only one of these. -/
theorem perm_branches :
    (t.strays ++ (t.linkedBranches ++ t.lostBranches)).Perm t.branches := by
  have nodup : t.branches.Nodup := t.pairwise_branches.imp Nat.ne_of_lt
  rw [List.perm_ext_iff_of_nodup _ nodup]
  · intro y
    exact linked.mem_branches_iff.symm
  · rw [List.nodup_append', List.nodup_append']
    refine ⟨nodup.filter _, ⟨linked.nodup_linkedBranches, nodup.filter _, ?_⟩, ?_⟩
    · intro y isLinked isLost
      exact linked.linked_notMem_lost isLinked isLost
    · intro y stray other
      exact linked.host?_ne_none_of_mem other (mem_branchesOf.1 stray).2

end Linked

/-- What a parse says about the else branches of its template. -/
structure ElseReport (t : Template) (warnings : List Warning) : Prop where
  /-- There is a warning for each branch that follows no condition, in order. -/
  warned : (strayTags warnings).map some = t.strays.map t.tag?
  /-- Each branch is in one of three lists. -/
  partition : (t.strays ++ (t.linkedBranches ++ t.lostBranches)).Perm t.branches
  /-- A branch is linked or reported, unless it is lost. -/
  kept_iff : ∀ y ∈ t.branches, (y ∈ t.linkedBranches ∨ y ∈ t.strays) ↔ y ∉ t.lostBranches
  /-- The warnings and the linked branches account for all branches, unless one is lost. -/
  count_iff : (strayTags warnings).length + t.linkedBranches.length = t.branches.length ↔
    t.lostBranches = []

theorem Linked.elseReport (linked : t.Linked) {warnings : List Warning}
    (warned : (strayTags warnings).map some = t.strays.map t.tag?) : t.ElseReport warnings where
  warned := warned
  partition := linked.perm_branches
  kept_iff y isBranch := by
    constructor
    · rintro (isLinked | stray) isLost
      · exact linked.linked_notMem_lost isLinked isLost
      · exact linked.host?_ne_none_of_mem (List.mem_append_right _ isLost)
          (mem_branchesOf.1 stray).2
    · intro notLost
      simpa [notLost, or_comm] using linked.mem_branches_iff.1 isBranch
  count_iff := by
    have total := linked.perm_branches.length_eq
    have reported := congrArg List.length warned
    simp only [List.length_append, List.length_map] at total reported
    rw [← List.length_eq_zero_iff]
    omega

theorem Grows.tag? (grows : t.Grows t' e) (i : Nat) :
    t'.tag? i = if i = t.size then some e.tag else t.tag? i := by
  have viewed : ∀ t : Template, t.tag? i = (t.bare? i).map (·.tag) := by
    intro t
    rw [Template.tag?, bare?]
    cases t.get? i <;> rfl
  rw [viewed t', grows.bare i, viewed t]
  split <;> rfl

theorem Grows.strayTags (grows : t.Grows t' e)
    (childInside : ∀ p, ∀ c ∈ t.childIds p, c < t.size) :
    t'.strays.map t'.tag? =
      t.strays.map t.tag? ++
        if e.isBranch ∧ t.hostFor? e = none then [some e.tag] else [] := by
  rw [strays, grows.branchesOf childInside none, List.map_append]
  congr 1
  · apply List.map_congr_left
    intro y stray
    have inside := branches_lt (mem_branchesOf.1 stray).1
    rw [grows.tag?, if_neg (Nat.ne_of_lt inside)]
  · split
    · simp [grows.tag?]
    · rfl

@[simp] theorem tag?_withoutText (t : Template) : t.withoutText.tag? = t.tag? := by
  funext i
  unfold tag?
  rw [get?_withoutText]
  cases t.get? i <;> rfl

theorem strayTags_withoutText (t : Template) :
    t.withoutText.strays.map t.withoutText.tag? = t.strays.map t.tag? := by
  rw [tag?_withoutText, strays, branchesOf_withoutText, strays]

end Template

/-! ### Building -/

namespace Builder

open Template Warning

/-- So far, there is a warning for each else branch that follows no condition. -/
structure Reported (b : Builder) (warnings : List Warning) : Prop where
  sound : b.Sound
  warned : (strayTags warnings).map some = b.template.strays.map b.template.tag?

namespace Reported

variable {b : Builder} {warnings : List Warning} (reported : b.Reported warnings)
variable (settings : Settings) (d : Delimiters)

include reported

/-- The new warnings are about no else branch, and no element starts. -/
theorem of_withoutText {b' : Builder} {new : List Warning} (sound : b'.Sound)
    (same : b'.template.withoutText = b.template.withoutText)
    (others : ∀ w ∈ new, w.strayTag? = none) : b'.Reported (warnings ++ new) where
  sound := sound
  warned := by
    rw [strayTags, List.filterMap_append, List.filterMap_eq_nil_iff.2 others, List.append_nil,
      ← strayTags, reported.warned, ← strayTags_withoutText, ← same, strayTags_withoutText]

theorem start (name : Text) (attributes : List Attribute) (isVoid : Bool) :
    let started := b.start settings d name attributes isVoid
    started.1.Reported (warnings ++ started.2) := by
  have sound := reported.sound
  obtain ⟨grows, startWarnings⟩ := sound.grows_start settings d name attributes isVoid
  have noneMade := (b.about_makeElement settings d name attributes).strayTags_eq_nil
  have noneAdded :
      strayTags (b.addElement (b.makeElement settings d name attributes).1).2 = [] := by
    apply List.filterMap_eq_nil_iff.2
    intro w member
    rw [addElement_warnings b _ w member]
    rfl
  refine ⟨sound.start settings d name attributes isVoid, ?_⟩
  rw [startWarnings, grows.strayTags sound.linked.childIds_lt, ← reported.warned]
  rw [strayTags] at noneMade noneAdded
  simp only [strayTags, List.filterMap_append, noneMade, noneAdded, List.nil_append,
    List.map_append]
  congr 1
  split <;> rfl

theorem step (event : Event) :
    (b.step settings d event).1.Reported (warnings ++ (b.step settings d event).2) := by
  have sound := reported.sound.step settings d event
  cases event with
  | start name attributes isVoid => exact reported.start settings d name attributes isVoid
  | finish tag =>
      exact reported.of_withoutText sound (withoutText_finish b) (by simp [Builder.step])
  | text content =>
      refine reported.of_withoutText sound (withoutText_text settings d b content) ?_
      intro w member
      obtain ⟨outside, rfl⟩ := text_warnings settings d b content w member
      rfl
  | unmatchedEnd tag =>
      exact reported.of_withoutText sound rfl (by simp [Builder.step, strayTag?])

end Reported

end Builder

/-- Whatever the source and the settings, the else branches that are neither linked nor reported
are those that follow the same condition as a later branch. -/
theorem parse_elseReport {settings : Settings} (usable : settings.Usable) (source : Text) :
    ∃ parsed, parse settings source = .ok parsed ∧
      parsed.template.ElseReport parsed.warnings := by
  obtain ⟨parsed, b, succeeds, same, reported⟩ :=
    parse_preserves usable source Builder.Reported ⟨Builder.sound_empty, rfl⟩
      fun d _ _ event reported => reported.step settings d event
  have report := reported.sound.linked.elseReport reported.warned
  exact ⟨parsed, succeeds, same ▸ report⟩

/-- Of two branches that follow one condition, the first is lost. -/
theorem parse_elseReport_twoBranches :
    Settings.Usable {} ∧
      ∃ parsed, parse {} "<div><p v-if=\"a\"></p><p v-else></p><p v-else></p></div>".toList =
          .ok parsed ∧
        parsed.template.ElseReport parsed.warnings ∧
        parsed.template.branches = [2, 3] ∧ parsed.template.linkedBranches = [3] ∧
        parsed.template.lostBranches = [2] ∧ parsed.warnings = [] := by
  have usable : Settings.Usable {} := by
    rintro d ⟨⟩
  obtain ⟨parsed, succeeds, report⟩ := parse_elseReport usable
    "<div><p v-if=\"a\"></p><p v-else></p><p v-else></p></div>".toList
  have evaluated : (parse {}
      "<div><p v-if=\"a\"></p><p v-else></p><p v-else></p></div>".toList).toOption.map
        (fun p => (p.template.branches, p.template.linkedBranches, p.template.lostBranches,
          p.warnings)) =
      some ([2, 3], [3], [2], []) := by
    decide +kernel
  rw [succeeds, Except.toOption, Option.map_some] at evaluated
  simp only [Option.some.injEq, Prod.mk.injEq] at evaluated
  exact ⟨usable, parsed, succeeds, report, evaluated⟩

end TemplateMarkup
