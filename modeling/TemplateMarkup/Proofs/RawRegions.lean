import TemplateMarkup.Proofs.Ancestors
import TemplateMarkup.Proofs.Arena
import TemplateMarkup.Proofs.Content
import TemplateMarkup.Proofs.Spans

/-!
# Raw regions

A builder remembers in one bit that it is in a raw region. The bit is right however elements close:
it is set if one of the open elements opens a raw region, and there is never more than one of those
(`RawTracked.flag`). Since the open elements are the ancestors of what comes next, raw regions are
subtrees: an element with `v-pre` outside of all others of its sort, and all that lies below it. In
them attributes and text are left as they are.
-/

namespace TemplateMarkup

open Text

/-! ### Attributes -/

theorem Attribute.isSome_lastValue? {name : Text} {attributes : List Attribute} :
    (Attribute.lastValue? name attributes).isSome ↔ ∃ a ∈ attributes, a.name = name := by
  simp [Attribute.lastValue?, Attribute.firstValue?]

namespace Annotations

/-- The annotations of an element in a raw region: its attributes as plain text, without those that
open the region if the element does, and nothing else. -/
def raw (opens : Bool) (attributes : List Attribute) : Annotations where
  pre := opens
  rawPassthrough := true
  attrs := (if opens then attributes.filter (·.name ≠ "v-pre".toList) else attributes).map
    fun a => ⟨a.name, a.value.quote⟩

variable (dialect : Dialect) (d : Delimiters) (tag : Text) (attributes : List Attribute)
variable (inRawRegion : Bool)

/-- Attributes are resolved only where no raw region is open and none of them opens one. -/
theorem ofAttributes_eq :
    (ofAttributes dialect d tag attributes inRawRegion).1 =
      if inRawRegion then raw false attributes
      else if (Attribute.lastValue? "v-pre".toList attributes).isSome then raw true attributes
      else (resolve dialect d tag attributes (attributes.filter (·.name ≠ "v-pre".toList))).1 := by
  have claimed : Pending.claimFlag attributes "v-pre".toList =
      ((Attribute.lastValue? "v-pre".toList attributes).isSome,
        attributes.filter (·.name ≠ "v-pre".toList)) := rfl
  rw [ofAttributes, claimed]
  cases inRawRegion with
  | true => simp only [↓reduceIte, raw, literals, Bool.false_eq_true]
  | false =>
      cases (Attribute.lastValue? "v-pre".toList attributes).isSome with
      | true => simp only [Bool.false_eq_true, ↓reduceIte, raw, literals]
      | false => simp only [Bool.false_eq_true, ↓reduceIte]

/-- What is resolved is in no raw region. -/
theorem resolve_outside (p : Pending) :
    (resolve dialect d tag attributes p).1.pre = false ∧
      (resolve dialect d tag attributes p).1.rawPassthrough = false := by
  simp only [resolve, and_self]

/-- Where `v-pre` opens a raw region. -/
theorem pre_ofAttributes :
    (ofAttributes dialect d tag attributes inRawRegion).1.pre = true ↔
      (∃ a ∈ attributes, a.name = "v-pre".toList) ∧ ¬ inRawRegion = true := by
  rw [ofAttributes_eq, ← Attribute.isSome_lastValue?]
  split
  next inside => simp [raw, inside]
  next outside =>
    split
    next written => exact ⟨fun _ => ⟨written, outside⟩, fun _ => rfl⟩
    next unwritten =>
      rw [(resolve_outside dialect d tag attributes _).1]
      exact ⟨fun opens => absurd opens Bool.false_ne_true, fun opens => absurd opens.1 unwritten⟩

/-- An element is in a raw region if it was before its attributes or if they open one, and then
they mean nothing. -/
theorem raw_ofAttributes :
    let annotations := (ofAttributes dialect d tag attributes inRawRegion).1
    (annotations.rawPassthrough = true ↔ annotations.pre = true ∨ inRawRegion = true) ∧
      (annotations.rawPassthrough = true → annotations = raw annotations.pre attributes) := by
  dsimp only
  rw [ofAttributes_eq]
  split
  next inside => simp [raw, inside]
  next outside =>
    split
    · exact ⟨⟨fun _ => .inl rfl, fun _ => rfl⟩, fun _ => rfl⟩
    · obtain ⟨unopened, inNone⟩ := resolve_outside dialect d tag attributes
        (attributes.filter (·.name ≠ "v-pre".toList))
      simp only [unopened, inNone, outside, Bool.false_eq_true, or_self, false_implies, and_self]

end Annotations

/-! ### Text -/

/-- A child that may stand in a raw region or outside of one: text of a raw region is not evaluated,
and other text has no span left. -/
def Child.Suits (d : Delimiters) (inRawRegion : Bool) : Child → Prop
  | element _ => True
  | text s => inRawRegion = true ∨ ¬ d.HasSpan s
  | expression _ => inRawRegion = false

theorem Builder.suits_textChild {d : Delimiters} (opening : d.opening ≠ [])
    (closing : d.closing ≠ []) (inRawRegion : Bool) (s : Text) :
    (textChild d inRawRegion s).Suits d inRawRegion := by
  rw [textChild]
  split
  next plain =>
    rcases Bool.or_eq_true_iff.1 plain with raw | single
    · exact .inl raw
    · refine .inr ?_
      intro hasSpan
      have long := hasSpan.length_le opening closing
      rw [of_decide_eq_true single] at long
      simp at long
  next searched =>
    have outside : inRawRegion = false := by
      cases inRawRegion with
      | true => simp at searched
      | false => rfl
    split
    · exact outside
    next spanless => exact .inr (Interpolation.ofText?_eq_none_iff.1 spanless)

/-! ### Regions of a template -/

namespace Template

def opensRaw (t : Template) (id : Nat) : Bool :=
  (t.get? id).any (·.pre)

def isRaw (t : Template) (id : Nat) : Bool :=
  (t.get? id).any (·.rawPassthrough)

/-- The element lies below one that opens a raw region. -/
def WithinRaw (t : Template) (id : Nat) : Prop :=
  ∃ a, t.IsAncestor a id ∧ t.opensRaw a = true

/-- An element says rightly whether it opens a raw region and whether it is in one, and its
attributes mean nothing if it is. -/
structure Marked (t : Template) (id : Nat) (e : Element) : Prop where
  pre_iff : e.pre = true ↔
    (∃ a ∈ e.attributes, a.name = "v-pre".toList) ∧ ¬ t.WithinRaw id
  raw_iff : e.rawPassthrough = true ↔ e.pre = true ∨ t.WithinRaw id
  annotations : e.rawPassthrough = true → e.toAnnotations = .raw e.pre e.attributes

variable {t t' : Template} {id a : Nat} {e : Element}

theorem opensRaw_eq_bare : t.opensRaw id = (t.bare? id).any (·.pre) :=
  t.any_get?_eq_bare id fun _ => rfl

theorem isRaw_eq_bare : t.isRaw id = (t.bare? id).any (·.rawPassthrough) :=
  t.any_get?_eq_bare id fun _ => rfl

/-- Whether an element lies in a raw region is settled when it starts. -/
theorem withinRaw_congr (parent_lt : ∀ id p, t.parent? id = some p → p < id)
    (same : ∀ i ≤ id, t'.bare? i = t.bare? i) : t'.WithinRaw id ↔ t.WithinRaw id := by
  have sameParent : ∀ i ≤ id, t'.parent? i = t.parent? i := by
    intro i le
    rw [parent?_eq_bare, same i le, parent?_eq_bare]
  refine exists_congr fun a => ?_
  rw [isAncestor_congr parent_lt sameParent]
  apply and_congr_right
  intro ancestor
  rw [opensRaw_eq_bare, same a (Nat.le_of_lt (ancestor.lt parent_lt)), opensRaw_eq_bare]

theorem Marked.congr (marked : t.Marked id e) (within : t'.WithinRaw id ↔ t.WithinRaw id) :
    t'.Marked id e where
  pre_iff := by rw [marked.pre_iff, within]
  raw_iff := by rw [marked.raw_iff, within]
  annotations := marked.annotations

/-- The raw regions of a template, for the delimiters between which expressions stand. -/
structure RawRegions (t : Template) (d : Delimiters) : Prop where
  /-- An element opens a raw region if it has the attribute for it and no ancestor opens one. -/
  pre_iff : ∀ id e, t.get? id = some e → (e.pre = true ↔
    (∃ a ∈ e.attributes, a.name = "v-pre".toList) ∧ ¬ t.WithinRaw id)
  /-- An element is in a raw region if it or an ancestor opens one. -/
  raw_iff : ∀ id e, t.get? id = some e →
    (e.rawPassthrough = true ↔ e.pre = true ∨ t.WithinRaw id)
  /-- In a raw region attributes are plain text, and nothing else is known of an element. -/
  annotations : ∀ id e, t.get? id = some e → e.rawPassthrough = true →
    e.toAnnotations = .raw e.pre e.attributes ∧ e.elseBranch = none
  /-- In a raw region text has no expressions. -/
  no_expression : ∀ id e, t.get? id = some e → e.rawPassthrough = true →
    ∀ interpolation, .expression interpolation ∉ e.children
  /-- Outside of raw regions no span is left in text. -/
  no_span : ∀ id e, t.get? id = some e → e.rawPassthrough = false →
    ∀ s, .text s ∈ e.children → ¬ d.HasSpan s

end Template

/-! ### Building -/

namespace Builder

open Template

/-- What the builder knows about raw regions is right. -/
structure RawTracked (d : Delimiters) (b : Builder) : Prop where
  nested : b.Nested
  /-- The bit counts the open elements that open a raw region. -/
  flag : b.openIds.countP b.template.opensRaw = b.inRawRegion.toNat
  marked : ∀ id e, b.template.bare? id = some e → b.template.Marked id e
  suits : ∀ id, ∀ child ∈ b.template.content id, child.Suits d (b.template.isRaw id)

namespace RawTracked

variable {d : Delimiters} {b b' : Builder} (tracked : b.RawTracked d)

include tracked

theorem inRawRegion_iff : b.inRawRegion = true ↔ ∃ a ∈ b.openIds, b.template.opensRaw a = true := by
  rw [← List.countP_pos_iff, tracked.flag]
  cases b.inRawRegion <;> simp

/-- The innermost open element is in a raw region if the builder is. -/
theorem isRaw_innermost {id : Nat} {e : Element} (innermost : b.openIds.head? = some id)
    (found : b.template.get? id = some e) : b.template.isRaw id = b.inRawRegion := by
  obtain ⟨openIds, isOpen⟩ := List.head?_eq_some_iff.1 innermost
  have spine := tracked.nested.spine
  rw [isOpen] at spine
  have marked := tracked.marked id e.bare (by rw [bare?, found]; rfl)
  have opens : b.template.opensRaw id = e.pre := by rw [opensRaw, found]; rfl
  have raw : b.template.isRaw id = e.rawPassthrough := by rw [isRaw, found]; rfl
  rw [raw, Bool.eq_iff_iff, tracked.inRawRegion_iff, isOpen]
  calc e.rawPassthrough = true
      ↔ e.pre = true ∨ b.template.WithinRaw id := marked.raw_iff
    _ ↔ ∃ a ∈ id :: openIds, b.template.opensRaw a = true := by
        simp only [WithinRaw, spine.isAncestor_iff, List.exists_mem_cons_iff, opens]

/-- An event that only changes text leaves all elements marked as they are. -/
theorem of_withoutText (nested : b'.Nested)
    (same : b'.template.withoutText = b.template.withoutText)
    (flag : b'.openIds.countP b.template.opensRaw = b'.inRawRegion.toNat)
    (suits : ∀ id, ∀ child ∈ b'.template.content id, child.Suits d (b.template.isRaw id)) :
    b'.RawTracked d := by
  have sameBare : ∀ i, b'.template.bare? i = b.template.bare? i := by
    intro i
    exact bare?_of_withoutText _ i same
  have sameOpens : b'.template.opensRaw = b.template.opensRaw := by
    funext i
    rw [opensRaw_eq_bare, sameBare, opensRaw_eq_bare]
  refine ⟨nested, ?_, ?_, ?_⟩
  · rw [sameOpens, flag]
  · intro id e found
    rw [sameBare] at found
    exact (tracked.marked id e found).congr
      (withinRaw_congr tracked.nested.sound.linked.parent_lt fun i _ => sameBare i)
  · intro id child member
    rw [isRaw_eq_bare, sameBare, ← isRaw_eq_bare]
    exact suits id child member

theorem finish (nested : b.finish.Nested) : b.finish.RawTracked d := by
  refine tracked.of_withoutText nested (withoutText_finish b) ?_ ?_
  · have flag := tracked.flag
    rw [openIds_finish, inRawRegion_finish]
    cases isOpen : b.openIds with
    | nil =>
        rw [isOpen] at flag
        simpa using flag
    | cons id openIds =>
        rw [isOpen, List.countP_cons] at flag
        rw [List.tail_cons, List.head?_cons, Option.bind_some, ← opensRaw_eq_bare]
        -- If the one that closes opens a raw region, then no other open one does.
        cases raw : b.template.opensRaw id with
        | true =>
            have atMostOne := Bool.toNat_le b.inRawRegion
            simp only [raw, ↓reduceIte] at flag
            simp only [Bool.not_true, Bool.and_false, Bool.toNat_false]
            omega
        | false => simpa [raw] using flag
  · intro id child member
    rw [content_finish tracked.nested.sound] at member
    split at member
    · rw [dropTrailingSpace] at member
      split at member
      · exact tracked.suits id child ((List.dropLast_sublist _).subset member)
      · exact tracked.suits id child member
    · exact tracked.suits id child member

variable (settings : Settings)

theorem text (opening : d.opening ≠ []) (closing : d.closing ≠ []) (s : Text)
    (nested : (b.text settings d s).1.Nested) : (b.text settings d s).1.RawTracked d := by
  refine tracked.of_withoutText nested (withoutText_text settings d b s) ?_ ?_
  · rw [openIds_text, inRawRegion_text, tracked.flag]
  · intro id child member
    by_cases innermost : b.openIds.head? = some id
    · have inside := tracked.nested.sound.open_lt id (List.mem_of_head? innermost)
      obtain ⟨e, found⟩ := exists_get?_of_lt inside
      rw [content_text tracked.nested.sound settings d id innermost found] at member
      rcases List.mem_append.1 member with old | new
      · exact tracked.suits id child old
      · split at new
        · obtain rfl := List.mem_singleton.1 new
          rw [tracked.isRaw_innermost innermost found]
          exact suits_textChild opening closing b.inRawRegion _
        · exact absurd new List.not_mem_nil
    · rw [content_text_of_ne tracked.nested.sound settings d id innermost] at member
      exact tracked.suits id child member

variable (name : Text) (attributes : List Attribute) (isVoid : Bool)

theorem bare?_start (i : Nat) :
    (b.start settings d name attributes isVoid).1.template.bare? i =
      if i = b.template.size then some (b.makeElement settings d name attributes).1.bare
      else b.template.bare? i :=
  (tracked.nested.sound.grows_start settings d name attributes isVoid).1.bare i

theorem opensRaw_start (i : Nat) :
    (b.start settings d name attributes isVoid).1.template.opensRaw i =
      if i = b.template.size then (b.makeElement settings d name attributes).1.pre
      else b.template.opensRaw i := by
  rw [opensRaw_eq_bare, tracked.bare?_start, opensRaw_eq_bare]
  split <;> rfl

/-- A new element lies below one that opens a raw region if the builder is in a raw region. -/
theorem withinRaw_start :
    (b.start settings d name attributes isVoid).1.template.WithinRaw b.template.size ↔
      b.inRawRegion = true := by
  have spine := tracked.nested.spine_start settings d name attributes isVoid
  rw [tracked.inRawRegion_iff, WithinRaw]
  refine exists_congr fun a => ?_
  rw [spine.isAncestor_iff]
  apply and_congr_right
  intro isOpen
  have old := tracked.nested.sound.open_lt a isOpen
  rw [tracked.opensRaw_start, if_neg (Nat.ne_of_lt old)]

theorem flag_start :
    let started := (b.start settings d name attributes isVoid).1
    started.openIds.countP started.template.opensRaw = started.inRawRegion.toNat := by
  have old : b.openIds.countP
      (b.start settings d name attributes isVoid).1.template.opensRaw = b.inRawRegion.toNat := by
    rw [← tracked.flag]
    apply List.countP_congr
    intro id isOpen
    rw [tracked.opensRaw_start, if_neg (Nat.ne_of_lt (tracked.nested.sound.open_lt id isOpen))]
  have pre := Annotations.pre_ofAttributes settings.dialect d (canonicalTag name).1 attributes
    b.inRawRegion
  change (b.makeElement settings d name attributes).1.pre = true ↔ _ at pre
  dsimp only
  rw [start_openIds, inRawRegion_start]
  cases isVoid with
  | true => simpa using old
  | false =>
      rw [if_neg Bool.false_ne_true, List.countP_cons, old, tracked.opensRaw_start, if_pos rfl]
      cases opens : (b.makeElement settings d name attributes).1.pre with
      | false => simp
      | true =>
          have outside := (pre.1 opens).2
          simp [outside]

theorem start (nested : (b.start settings d name attributes isVoid).1.Nested) :
    (b.start settings d name attributes isVoid).1.RawTracked d := by
  have parent_lt := tracked.nested.sound.linked.parent_lt
  have sameBare : ∀ i, i < b.template.size →
      (b.start settings d name attributes isVoid).1.template.bare? i = b.template.bare? i := by
    intro i old
    rw [tracked.bare?_start, if_neg (Nat.ne_of_lt old)]
  refine ⟨nested, tracked.flag_start settings name attributes isVoid, ?_, ?_⟩
  · intro id e found
    rw [tracked.bare?_start] at found
    split at found
    next new =>
      obtain rfl := Option.some.inj found
      have within := tracked.withinRaw_start settings name attributes isVoid
      have pre := Annotations.pre_ofAttributes settings.dialect d (canonicalTag name).1
        attributes b.inRawRegion
      have raw := Annotations.raw_ofAttributes settings.dialect d (canonicalTag name).1
        attributes b.inRawRegion
      rw [← within, ← new] at pre raw
      exact ⟨pre, raw.1, raw.2⟩
    next =>
      obtain ⟨e', there, -⟩ := Option.map_eq_some_iff.1 found
      have old := get?_lt there
      exact (tracked.marked id e found).congr
        (withinRaw_congr parent_lt fun i le => sameBare i (Nat.lt_of_le_of_lt le old))
  · intro id child member
    rw [content_start tracked.nested.sound] at member
    rcases List.mem_append.1 member with held | new
    · have old : id < b.template.size := by
        apply Nat.lt_of_not_le
        intro outside
        rw [content, b.template.get?_eq_none id outside] at held
        exact absurd held List.not_mem_nil
      rw [isRaw_eq_bare, sameBare id old, ← isRaw_eq_bare]
      exact tracked.suits id child held
    · split at new
      · obtain rfl := List.mem_singleton.1 new
        exact trivial
      · exact absurd new List.not_mem_nil

theorem step (opening : d.opening ≠ []) (closing : d.closing ≠ []) (event : Event) :
    (b.step settings d event).1.RawTracked d := by
  have nested := tracked.nested.step settings d event
  cases event with
  | start name attributes isVoid => exact tracked.start settings name attributes isVoid nested
  | finish tag => exact tracked.finish nested
  | text content => exact tracked.text settings opening closing content nested
  | unmatchedEnd tag => exact tracked

/-- What the builder knows of raw regions is what the template says of them. -/
theorem rawRegions : b.template.RawRegions d := by
  have marked : ∀ id e, b.template.get? id = some e → b.template.Marked id e := by
    intro id e found
    obtain ⟨pre, raw, annotations⟩ := tracked.marked id e.bare (by rw [bare?, found]; rfl)
    exact ⟨pre, raw, annotations⟩
  have suits : ∀ id e, b.template.get? id = some e →
      ∀ child ∈ e.children, child.Suits d e.rawPassthrough := by
    intro id e found child member
    rw [← content_of_get? b.template found] at member
    have suits := tracked.suits id child member
    rwa [isRaw, found] at suits
  refine ⟨fun id e found => (marked id e found).pre_iff,
    fun id e found => (marked id e found).raw_iff, ?_, ?_, ?_⟩
  · intro id e found raw
    have annotations := (marked id e found).annotations raw
    refine ⟨annotations, ?_⟩
    -- Only elements with a condition have an else branch.
    cases linked : e.elseBranch with
    | none => rfl
    | some y =>
        have linked : b.template.elseBranch? id = some y := by
          rw [elseBranch?, found]
          exact linked
        obtain ⟨e', -, -, found', -, -, -, conditional, -⟩ :=
          tracked.nested.sound.linked.branch linked
        obtain rfl := Option.some.inj (found.symm.trans found')
        rw [annotations] at conditional
        exact absurd conditional Bool.false_ne_true
  · intro id e found raw interpolation member
    have outside : e.rawPassthrough = false := suits id e found _ member
    simp [raw] at outside
  · intro id e found outside s member
    rcases suits id e found _ member with raw | spanless
    · simp [outside] at raw
    · exact spanless

end RawTracked

theorem rawTracked_empty (d : Delimiters) : ({} : Builder).RawTracked d where
  nested := nested_empty
  flag := rfl
  marked id e found := absurd found (by simp [bare?, get?])
  suits id child member := absurd member (by simp [content, get?])

end Builder

/-- Whatever the source and the settings, the raw regions of the template are subtrees, and what
they hold is left as it was written. -/
theorem parse_rawRegions (settings : Settings) (source : Text) :
    ParsesWith settings source fun d parsed => parsed.template.RawRegions d := by
  apply parsesWith_of_build
  intro d opening closing
  have tracked : (buildTemplate settings d source).1.RawTracked d :=
    buildTemplate_preserves (Builder.RawTracked d) (Builder.rawTracked_empty d)
      (fun b event tracked => tracked.step settings opening closing event) source
  exact tracked.rawRegions

/-- Of two nested elements with `v-pre` the outer one opens a raw region, which ends with it. -/
example : (parse {}
    "<div><p v-pre><b v-pre></b></p><i></i></div>".toList).toOption.map
      (fun p => ((List.range 4).map p.template.opensRaw, (List.range 4).map p.template.isRaw)) =
    some ([false, true, false, false], [false, true, true, false]) := by
  decide +kernel

end TemplateMarkup
