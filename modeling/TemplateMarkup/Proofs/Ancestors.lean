import TemplateMarkup.Proofs.Links

/-!
# Ancestors

Parent links lead from an element to those around it. While a template is built, the open elements
are the ancestors of whatever starts next (`Spine`), and all that started after an open element lies
below it. What lies below an element is therefore a stretch of the arena (`Contiguous`): an element
that starts between another and one of its descendants is a descendant as well.
-/

namespace TemplateMarkup

namespace Template

/-- Parent links lead up to this element from another one. -/
inductive IsAncestor (t : Template) (a : Nat) : Nat → Prop
  | parent {c : Nat} (within : t.parent? c = some a) : IsAncestor t a c
  | above {c p : Nat} (within : t.parent? c = some p) (further : IsAncestor t a p) :
      IsAncestor t a c

/-- Each element stands directly within the next one, and the last of them at the top. -/
inductive Spine (t : Template) : List Nat → Prop
  | nil : Spine t []
  | cons {id : Nat} {ids : List Nat} (within : t.parent? id = ids.head?) (rest : Spine t ids) :
      Spine t (id :: ids)

/-- What lies below an element started without interruption. -/
def Contiguous (t : Template) : Prop :=
  ∀ a x c, a < x → x < c → t.IsAncestor a c → t.IsAncestor a x

variable {t t' : Template} {a c p x y : Nat} {ids : List Nat}

theorem isAncestor_iff :
    t.IsAncestor a c ↔ ∃ p, t.parent? c = some p ∧ (a = p ∨ t.IsAncestor a p) := by
  constructor
  · intro ancestor
    cases ancestor with
    | parent within => exact ⟨a, within, .inl rfl⟩
    | above within further => exact ⟨_, within, .inr further⟩
  · rintro ⟨p, within, rfl | further⟩
    · exact .parent within
    · exact .above within further

theorem isAncestor_iff_of_parent (within : t.parent? c = some p) :
    t.IsAncestor a c ↔ a = p ∨ t.IsAncestor a p := by
  rw [isAncestor_iff]
  constructor
  · rintro ⟨p', within', found⟩
    obtain rfl := Option.some.inj (within.symm.trans within')
    exact found
  · intro found
    exact ⟨p, within, found⟩

theorem not_isAncestor_of_top (atTop : t.parent? c = none) : ¬ t.IsAncestor a c := by
  rw [isAncestor_iff]
  rintro ⟨p, within, -⟩
  simp [atTop] at within

theorem IsAncestor.trans (first : t.IsAncestor a p) (second : t.IsAncestor p c) :
    t.IsAncestor a c := by
  induction second with
  | parent within => exact .above within first
  | above within _ ih => exact .above within ih

theorem IsAncestor.lt (parent_lt : ∀ id p, t.parent? id = some p → p < id)
    (ancestor : t.IsAncestor a c) : a < c := by
  induction ancestor with
  | parent within => exact parent_lt _ _ within
  | above within _ ih => exact Nat.lt_trans ih (parent_lt _ _ within)

/-- The ancestors of an element depend on the parents of earlier elements and its own only. -/
theorem isAncestor_congr (parent_lt : ∀ id p, t.parent? id = some p → p < id)
    (same : ∀ i ≤ c, t'.parent? i = t.parent? i) : t'.IsAncestor a c ↔ t.IsAncestor a c := by
  induction c using Nat.strongRecOn with
  | ind c ih =>
      have sameParent := same c (Nat.le_refl c)
      cases within : t.parent? c with
      | none =>
          rw [within] at sameParent
          simp only [not_isAncestor_of_top within, not_isAncestor_of_top sameParent]
      | some p =>
          rw [within] at sameParent
          have before := parent_lt c p within
          rw [isAncestor_iff_of_parent within, isAncestor_iff_of_parent sameParent,
            ih p before fun i le => same i (Nat.le_trans le (Nat.le_of_lt before))]

namespace Spine

theorem tail (spine : t.Spine (c :: ids)) : t.Spine ids := by
  cases spine with
  | cons _ rest => exact rest

theorem parent? (spine : t.Spine (c :: ids)) : t.parent? c = ids.head? := by
  cases spine with
  | cons within _ => exact within

/-- The rest of a spine are all the ancestors of its first element. -/
theorem isAncestor_iff (spine : t.Spine (c :: ids)) : t.IsAncestor a c ↔ a ∈ ids := by
  induction ids generalizing c with
  | nil =>
      have atTop : t.parent? c = none := spine.parent?
      simp [not_isAncestor_of_top atTop]
  | cons p ids ih =>
      have within : t.parent? c = some p := spine.parent?
      rw [isAncestor_iff_of_parent within, ih spine.tail, List.mem_cons]

theorem of_suffix {ids' : List Nat} (spine : t.Spine ids) (suffix : ids' <:+ ids) :
    t.Spine ids' := by
  induction ids with
  | nil =>
      obtain rfl := List.suffix_nil.1 suffix
      exact .nil
  | cons id ids ih =>
      rcases List.suffix_cons_iff.1 suffix with rfl | shorter
      · exact spine
      · exact ih spine.tail shorter

theorem congr (spine : t.Spine ids) (same : ∀ id ∈ ids, t'.parent? id = t.parent? id) :
    t'.Spine ids := by
  induction spine with
  | nil => exact .nil
  | cons within _ ih =>
      refine .cons ?_ (ih fun id member => same id (List.mem_cons_of_mem _ member))
      rw [same _ List.mem_cons_self, within]

end Spine

/-- Elements with one parent are no ancestors of each other. -/
theorem not_isAncestor_of_siblings (parent_lt : ∀ id p, t.parent? id = some p → p < id)
    (withinX : t.parent? x = some p) (withinY : t.parent? y = some p) :
    ¬ t.IsAncestor x y := by
  rw [isAncestor_iff_of_parent withinY]
  have before := parent_lt x p withinX
  rintro (rfl | further)
  · exact Nat.lt_irrefl x before
  · exact Nat.lt_asymm before (further.lt parent_lt)

/-- All that lies below the earlier of two siblings starts before the later one. -/
theorem Contiguous.lt_of_siblings (contiguous : t.Contiguous)
    (parent_lt : ∀ id p, t.parent? id = some p → p < id)
    (withinX : t.parent? x = some p) (withinY : t.parent? y = some p) (before : x < y)
    (below : t.IsAncestor x c) : c < y := by
  have apart := not_isAncestor_of_siblings parent_lt withinX withinY
  rcases Nat.lt_trichotomy c y with earlier | rfl | later
  · exact earlier
  · exact absurd below apart
  · exact absurd (contiguous x y c before later below) apart

end Template

/-! ### Building -/

namespace Builder

open Template

/-- The open elements are the ancestors of what starts next, and what lies below an element started
without interruption, up to now if it is still open. -/
structure Nested (b : Builder) : Prop where
  sound : b.Sound
  spine : b.template.Spine b.openIds
  inside : ∀ a ∈ b.openIds, ∀ c, a < c → c < b.template.size → b.template.IsAncestor a c
  contiguous : b.template.Contiguous

namespace Nested

variable {b b' : Builder} {a c : Nat} (nested : b.Nested)

include nested

/-- What is around an open element is open. -/
theorem mem_of_isAncestor (isOpen : c ∈ b.openIds) (ancestor : b.template.IsAncestor a c) :
    a ∈ b.openIds := by
  obtain ⟨inner, outer, split⟩ := List.append_of_mem isOpen
  have suffix : c :: outer <:+ b.openIds := ⟨inner, split.symm⟩
  have further := (nested.spine.of_suffix suffix).isAncestor_iff.1 ancestor
  exact suffix.subset (List.mem_cons_of_mem c further)

theorem of_withoutText (sound : b'.Sound)
    (same : b'.template.withoutText = b.template.withoutText) (suffix : b'.openIds <:+ b.openIds) :
    b'.Nested := by
  have sameParent : ∀ i, b'.template.parent? i = b.template.parent? i := by
    intro i
    exact parent?_of_withoutText _ i same
  have sameAncestors : ∀ a c, b'.template.IsAncestor a c ↔ b.template.IsAncestor a c := by
    intro a c
    exact isAncestor_congr nested.sound.linked.parent_lt fun i _ => sameParent i
  refine ⟨sound, ?_, ?_, ?_⟩
  · exact (nested.spine.of_suffix suffix).congr fun id _ => sameParent id
  · intro a isOpen c after inside
    rw [size_of_withoutText _ same] at inside
    exact (sameAncestors a c).2 (nested.inside a (suffix.subset isOpen) c after inside)
  · intro a x c after before below
    rw [sameAncestors] at below ⊢
    exact nested.contiguous a x c after before below

variable (settings : Settings) (d : Delimiters) (name : Text) (attributes : List Attribute)
variable (isVoid : Bool)

theorem parent?_start (i : Nat) :
    (b.start settings d name attributes isVoid).1.template.parent? i =
      if i = b.template.size then b.openIds.head? else b.template.parent? i := by
  rw [(nested.sound.grows_start settings d name attributes isVoid).1.parent?,
    (b.makeElement_links settings d name attributes).1]

theorem isAncestor_start (before : c < b.template.size) :
    (b.start settings d name attributes isVoid).1.template.IsAncestor a c ↔
      b.template.IsAncestor a c := by
  apply isAncestor_congr nested.sound.linked.parent_lt
  intro i le
  rw [nested.parent?_start, if_neg (Nat.ne_of_lt (Nat.lt_of_le_of_lt le before))]

/-- A new element stands right within the innermost open one. -/
theorem spine_start :
    (b.start settings d name attributes isVoid).1.template.Spine
      (b.template.size :: b.openIds) := by
  refine .cons ?_ (nested.spine.congr ?_)
  · rw [nested.parent?_start, if_pos rfl]
  · intro id isOpen
    rw [nested.parent?_start, if_neg (Nat.ne_of_lt (nested.sound.open_lt id isOpen))]

theorem start : (b.start settings d name attributes isVoid).1.Nested := by
  have grows := (nested.sound.grows_start settings d name attributes isVoid).1
  have spine := nested.spine_start settings d name attributes isVoid
  -- All open elements are ancestors of the new one.
  have inside : ∀ a ∈ b.openIds, ∀ c, a < c → c < b.template.size + 1 →
      (b.start settings d name attributes isVoid).1.template.IsAncestor a c := by
    intro a isOpen c after inside
    rcases Nat.lt_succ_iff_lt_or_eq.1 inside with old | rfl
    · rw [nested.isAncestor_start settings d name attributes isVoid old]
      exact nested.inside a isOpen c after old
    · exact spine.isAncestor_iff.2 isOpen
  refine ⟨nested.sound.start settings d name attributes isVoid, ?_, ?_, ?_⟩
  · rw [start_openIds]
    split
    · exact spine.tail
    · exact spine
  · rw [start_openIds, grows.size]
    intro a isOpen c after before
    split at isOpen
    · exact inside a isOpen c after before
    · rcases List.mem_cons.1 isOpen with rfl | isOpen
      · omega
      · exact inside a isOpen c after before
  · intro a x c after before below
    have started : c < b.template.size + 1 := by
      rw [← grows.size]
      obtain ⟨p, within, -⟩ := isAncestor_iff.1 below
      obtain ⟨e, found, -⟩ := Option.bind_eq_some_iff.1 within
      exact get?_lt found
    rcases Nat.lt_succ_iff_lt_or_eq.1 started with old | rfl
    · rw [nested.isAncestor_start settings d name attributes isVoid old] at below
      rw [nested.isAncestor_start settings d name attributes isVoid (Nat.lt_trans before old)]
      exact nested.contiguous a x c after before below
    · exact inside a (spine.isAncestor_iff.1 below) x after (Nat.lt_succ_of_lt before)

theorem step (event : Event) : (b.step settings d event).1.Nested := by
  have sound := nested.sound.step settings d event
  cases event with
  | start name attributes isVoid => exact nested.start settings d name attributes isVoid
  | finish tag =>
      refine nested.of_withoutText sound (withoutText_finish b) ?_
      rw [Builder.step, openIds_finish]
      exact List.tail_suffix b.openIds
  | text content =>
      refine nested.of_withoutText sound (withoutText_text settings d b content) ?_
      simp only [Builder.step, openIds_text, List.suffix_rfl]
  | unmatchedEnd tag => exact nested

end Nested

theorem nested_empty : ({} : Builder).Nested where
  sound := sound_empty
  spine := .nil
  inside a isOpen := absurd isOpen List.not_mem_nil
  contiguous a x c after before below := by
    obtain ⟨p, within, -⟩ := isAncestor_iff.1 below
    exact absurd within (by simp [parent?, get?])

theorem nested_buildTemplate (settings : Settings) (d : Delimiters) (source : Text) :
    (buildTemplate settings d source).1.Nested :=
  buildTemplate_preserves Builder.Nested nested_empty
    (fun _ event nested => nested.step settings d event) source

end Builder

end TemplateMarkup
