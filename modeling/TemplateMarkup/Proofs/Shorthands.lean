import TemplateMarkup.Proofs.ElementWarnings
import TemplateMarkup.Proofs.Lookups

/-!
# Short and long names

A colon in front of a name is short for `v-bind:`, and an at sign for `v-on:`. The two spellings are
told apart in three places: claims ask for the short form before the long one, a render element
looks both up in all of its attributes, and the names of unclaimed attributes are read without their
modifiers. Writing all names of an element in the long form changes nothing there.

There are three limits to this. A claim that finds the short form with no value goes on to the long
one, so a short form must have a value. An element that has both forms of a name already would have
one of them twice. And in a raw region, which includes the element that opens it, names are plain
text, so the spelling is kept.
-/

namespace TemplateMarkup

open Text

/-! ### Names -/

namespace AttributeName

def longForm : Text → Text
  | ':' :: s => "v-bind:".toList ++ s
  | '@' :: s => "v-on:".toList ++ s
  | name => name

def IsLong (name : Text) : Prop :=
  "v-bind:".toList <+: name ∨ "v-on:".toList <+: name

instance (name : Text) : Decidable (IsLong name) :=
  inferInstanceAs (Decidable (_ ∨ _))

variable {name other plain s : Text}

theorem longForm_cases (name : Text) :
    (∃ s, name = ':' :: s ∧ longForm name = "v-bind:".toList ++ s) ∨
      (∃ s, name = '@' :: s ∧ longForm name = "v-on:".toList ++ s) ∨
      longForm name = name ∧ ¬ [':'] <+: name ∧ ¬ ['@'] <+: name := by
  unfold longForm
  split
  next s => exact .inl ⟨s, rfl, rfl⟩
  next s => exact .inr (.inl ⟨s, rfl, rfl⟩)
  next noColon noAt =>
    refine .inr (.inr ⟨rfl, ?_, ?_⟩)
    · rintro ⟨s, rfl⟩
      exact noColon s rfl
    · rintro ⟨s, rfl⟩
      exact noAt s rfl

theorem longForm_ne_short (name s : Text) : longForm name ≠ ':' :: s := by
  rcases longForm_cases name with ⟨t, -, long⟩ | ⟨t, -, long⟩ | ⟨same, noColon, -⟩
  · simp [long]
  · simp [long]
  · rw [same]
    rintro rfl
    exact noColon (List.prefix_append [':'] s)

structure IsPlain (name : Text) : Prop where
  noColon : ¬ [':'] <+: name
  noAt : ¬ ['@'] <+: name
  notLong : ¬ IsLong name

instance (name : Text) : Decidable (IsPlain name) :=
  decidable_of_iff (¬ [':'] <+: name ∧ ¬ ['@'] <+: name ∧ ¬ IsLong name)
    ⟨fun ⟨noColon, noAt, notLong⟩ => ⟨noColon, noAt, notLong⟩,
      fun isPlain => ⟨isPlain.noColon, isPlain.noAt, isPlain.notLong⟩⟩

theorem longForm_eq_plain_iff (isPlain : IsPlain plain) : longForm name = plain ↔ name = plain := by
  rcases longForm_cases name with ⟨s, rfl, long⟩ | ⟨s, rfl, long⟩ | ⟨same, -⟩
  · rw [long]
    constructor
    · rintro rfl
      exact absurd (.inl (List.prefix_append _ _)) isPlain.notLong
    · rintro rfl
      exact absurd (List.prefix_append [':'] s) isPlain.noColon
  · rw [long]
    constructor
    · rintro rfl
      exact absurd (.inr (List.prefix_append _ _)) isPlain.notLong
    · rintro rfl
      exact absurd (List.prefix_append ['@'] s) isPlain.noAt
  · rw [same]

theorem longForm_eq_bound_iff (notLong : ¬ IsLong name) :
    longForm name = "v-bind:".toList ++ s ↔ name = ':' :: s := by
  rcases longForm_cases name with ⟨t, rfl, long⟩ | ⟨t, rfl, long⟩ | ⟨same, noColon, -⟩
  · simp [long]
  · simp [long]
  · rw [same]
    constructor
    · rintro rfl
      exact absurd (.inl (List.prefix_append _ _)) notLong
    · rintro rfl
      exact absurd (List.prefix_append [':'] s) noColon

/-- Names without long prefixes stay apart. -/
theorem longForm_inj (notLong : ¬ IsLong name) (otherNotLong : ¬ IsLong other) :
    longForm name = longForm other ↔ name = other := by
  rcases longForm_cases other with ⟨t, rfl, long⟩ | ⟨t, rfl, long⟩ | ⟨same, noColon, noAt⟩
  · rw [long, longForm_eq_bound_iff notLong]
  · rw [long]
    rcases longForm_cases name with ⟨s, rfl, long⟩ | ⟨s, rfl, long⟩ | ⟨same, -, noAt⟩
    · simp [long]
    · simp [long]
    · rw [same]
      constructor
      · rintro rfl
        exact absurd (.inr (List.prefix_append _ _)) notLong
      · rintro rfl
        exact absurd (List.prefix_append ['@'] t) noAt
  · rw [same]
    exact longForm_eq_plain_iff ⟨noColon, noAt, otherNotLong⟩

/-! ### What names say -/

theorem splitAtDots_append {front : Text} (noDot : '.' ∉ front) (s : Text) :
    splitAtDots (front ++ s) = (front ++ (splitAtDots s).1, (splitAtDots s).2) := by
  induction front with
  | nil => rfl
  | cons c front ih =>
      rw [List.mem_cons, not_or] at noDot
      rw [List.cons_append, splitAtDots, ih noDot.2]
      exact if_neg (Ne.symm noDot.1)

theorem withoutModifiers_append {front : Text} (noDot : '.' ∉ front) (s : Text) :
    withoutModifiers (front ++ s) = front ++ withoutModifiers s := by
  simp only [withoutModifiers, splitAtDots_append noDot, List.append_assoc]

theorem modifiers?_append {front : Text} (noDot : '.' ∉ front) (s : Text) :
    modifiers? (front ++ s) = modifiers? s := by
  simp only [modifiers?, modifierNames, splitAtDots_append noDot]

theorem ofText_colon (s : Text) : ofText (':' :: s) = .bind (withoutModifiers s) := by
  have plain : withoutModifiers (':' :: s) = ':' :: withoutModifiers s :=
    @withoutModifiers_append [':'] (by decide) s
  simp [ofText, isDirective, after?, plain]

theorem ofText_bind (s : Text) : ofText ("v-bind:".toList ++ s) = .bind (withoutModifiers s) := by
  have plain := @withoutModifiers_append "v-bind:".toList (by decide) s
  simp only [String.reduceToList, List.cons_append, List.nil_append] at plain ⊢
  simp [ofText, isDirective, after?, plain]

theorem ofText_at (s : Text) :
    ofText ('@' :: s) = .on (withoutModifiers s) ((modifiers? s).getD ∅) := by
  have plain : withoutModifiers ('@' :: s) = '@' :: withoutModifiers s :=
    @withoutModifiers_append ['@'] (by decide) s
  have modifiers : modifiers? ('@' :: s) = modifiers? s := @modifiers?_append ['@'] (by decide) s
  simp [ofText, isDirective, after?, plain, modifiers]

theorem ofText_on (s : Text) :
    ofText ("v-on:".toList ++ s) = .on (withoutModifiers s) ((modifiers? s).getD ∅) := by
  have plain := @withoutModifiers_append "v-on:".toList (by decide) s
  have modifiers := @modifiers?_append "v-on:".toList (by decide) s
  simp only [String.reduceToList, List.cons_append, List.nil_append] at plain modifiers ⊢
  simp [ofText, isDirective, after?, plain, modifiers]

/-- A name says the same in either form. -/
theorem ofText_longForm (name : Text) : ofText (longForm name) = ofText name := by
  rcases longForm_cases name with ⟨s, rfl, long⟩ | ⟨s, rfl, long⟩ | ⟨same, -⟩
  · rw [long, ofText_bind, ofText_colon]
  · rw [long, ofText_on, ofText_at]
  · rw [same]

theorem longForm_of_literal (isLiteral : ofText name = .literal) : longForm name = name := by
  rcases longForm_cases name with ⟨s, rfl, -⟩ | ⟨s, rfl, -⟩ | ⟨same, -⟩
  · rw [ofText_colon] at isLiteral
    simp at isLiteral
  · rw [ofText_at] at isLiteral
    simp at isLiteral
  · exact same

end AttributeName

open AttributeName

/-! ### Claims -/

namespace Attribute

def longForm (a : Attribute) : Attribute :=
  { a with name := AttributeName.longForm a.name }

/-- The attribute can be written in the long form: it is not already, and if its name is short for a
bound one, it has a value. -/
structure IsShort (a : Attribute) : Prop where
  notLong : ¬ IsLong a.name
  nonempty : [':'] <+: a.name → a.value ≠ []

variable {attributes : List Attribute} {name other : Text}

/-- Renaming attributes changes what is found under a name as far as other names become this one. -/
theorem lastValue?_map_longForm
    (same : ∀ a ∈ attributes, AttributeName.longForm a.name = name ↔ a.name = other) :
    lastValue? name (attributes.map longForm) = lastValue? other attributes := by
  induction attributes using List.reverseRecOn with
  | nil => rfl
  | append_singleton attributes a ih =>
      have here := same a (List.mem_append_right _ List.mem_cons_self)
      rw [List.map_append, List.map_singleton, lastValue?_concat, lastValue?_concat,
        ih fun b member => same b (List.mem_append_left _ member)]
      exact ite_congr (propext here) (fun _ => rfl) fun _ => rfl

theorem exists_of_lastValue? {value : Text} (found : lastValue? name attributes = some value) :
    ∃ a ∈ attributes, a.name = name ∧ a.value = value := by
  obtain ⟨a, first, same⟩ := Option.map_eq_some_iff.1 found
  have named := List.find?_some first
  exact ⟨a, List.mem_reverse.1 (List.mem_of_find?_eq_some first), of_decide_eq_true named, same⟩

end Attribute

namespace Pending

variable {p : Pending} {name other : Text}

def longForm (p : Pending) : Pending :=
  p.map Attribute.longForm

def IsShort (p : Pending) : Prop :=
  ∀ a ∈ p, a.IsShort

theorem IsShort.leaves {reserved : List Text} {q : Pending} (short : p.IsShort)
    (left : Leaves reserved p q) : q.IsShort := by
  obtain ⟨claimed, -, rfl⟩ := left
  exact fun a member => short a (List.mem_filter.1 member).1

/-- A claim takes from the renamed attributes what it takes from those that become its name. -/
theorem claim_map_longForm
    (same : ∀ a ∈ p, AttributeName.longForm a.name = name ↔ a.name = other) :
    p.longForm.claim name = (p.claim other).map id longForm := by
  have left : p.longForm.filter (·.name ≠ name) = longForm (p.filter (·.name ≠ other)) := by
    rw [longForm, List.filter_map, longForm]
    refine congrArg _ (List.filter_congr fun a member => ?_)
    exact decide_eq_decide.2 (not_congr (same a member))
  exact Prod.ext (Attribute.lastValue?_map_longForm same) left

theorem claim_of_absent (absent : ∀ a ∈ p, a.name ≠ name) : p.claim name = (none, p) := by
  refine Prod.ext (Attribute.lastValue?_eq_none absent) ?_
  exact List.filter_eq_self.2 fun a member => decide_eq_true (absent a member)

theorem claim_longForm (isPlain : IsPlain name) (p : Pending) :
    p.longForm.claim name = (p.claim name).map id longForm :=
  claim_map_longForm fun _ _ => longForm_eq_plain_iff isPlain

theorem claimFlag_longForm (isPlain : IsPlain name) (p : Pending) :
    p.longForm.claimFlag name = (p.claimFlag name).map id longForm := by
  rw [claimFlag, claim_longForm isPlain]
  rfl

theorem claimNonempty_longForm (isPlain : IsPlain name) (p : Pending) :
    p.longForm.claimNonempty name = (p.claimNonempty name).map id longForm := by
  rw [claimNonempty, claim_longForm isPlain]
  rfl

/-- Where all short forms have values and there are no long ones, the short form is all that can be
bound. -/
theorem IsShort.claimBinding_eq (short : p.IsShort) (name : Text) :
    p.claimBinding name = p.claim (':' :: name) := by
  have unbound : p.claim ("v-bind:".toList ++ name) = (none, p) :=
    claim_of_absent fun a member named => (short a member).notLong (.inl ⟨name, named.symm⟩)
  by_cases absent : ∀ a ∈ p, a.name ≠ ':' :: name
  · rw [claimBinding, claim_of_absent absent]
    exact unbound
  · have written : (Attribute.lastValue? (':' :: name) p).isSome = true := by
      rw [Attribute.isSome_lastValue?]
      simpa using absent
    obtain ⟨value, found⟩ := Option.isSome_iff_exists.1 written
    obtain ⟨a, member, named, rfl⟩ := Attribute.exists_of_lastValue? found
    have nonempty := (short a member).nonempty (named ▸ List.prefix_append [':'] name)
    obtain ⟨c, more, filled⟩ := List.exists_cons_of_ne_nil nonempty
    have claimed : p.claim (':' :: name) = (some (c :: more), p.filter (·.name ≠ ':' :: name)) :=
      Prod.ext (by rw [claim_fst, found, filled]) rfl
    rw [claimBinding, claimed]

theorem claimFlag_snd (p : Pending) (name : Text) : (p.claimFlag name).2 = (p.claim name).2 := rfl

theorem claimNonempty_snd (p : Pending) (name : Text) :
    (p.claimNonempty name).2 = (p.claim name).2 := rfl

/-- Only the short form is there before renaming, and only the long one afterwards. -/
theorem claimBinding_longForm (short : p.IsShort) (name : Text) :
    p.longForm.claimBinding name = (p.claimBinding name).map id longForm := by
  have unshort : p.longForm.claim (':' :: name) = (none, p.longForm) := by
    refine claim_of_absent fun a member => ?_
    obtain ⟨source, -, rfl⟩ := List.mem_map.1 member
    exact longForm_ne_short source.name name
  have long : p.longForm.claim ("v-bind:".toList ++ name) =
      (p.claim (':' :: name)).map id longForm :=
    claim_map_longForm fun a member => longForm_eq_bound_iff (short a member).notLong
  rw [short.claimBinding_eq, ← long, claimBinding, unshort]

theorem claimBindingOrLiteral_longForm (short : p.IsShort) (isPlain : IsPlain name) :
    p.longForm.claimBindingOrLiteral name = (p.claimBindingOrLiteral name).map id longForm := by
  rw [claimBindingOrLiteral, claimBindingOrLiteral, claimBinding_longForm short]
  rcases p.claimBinding name with ⟨_ | value, left⟩
  · simp only [Prod.map_apply, id_eq, claim_longForm isPlain]
    rfl
  · rfl

end Pending

/-! ### Annotations -/

namespace Annotations

open Pending

variable {p : Pending}

theorem claimLoop_longForm (p : Pending) :
    claimLoop p.longForm = (claimLoop p).map id (.map id Pending.longForm) := by
  rw [claimLoop, claimLoop, claimNonempty_longForm (by decide)]
  rcases p.claimNonempty "v-for".toList with ⟨_ | value, left⟩
  · rfl
  · simp (disch := decide) only [Prod.map_apply, id_eq, claimNonempty_longForm]
    cases LoopHeader.ofText? value with
    | none => rfl
    | some header => rfl

theorem claimSlot_longForm (short : p.IsShort) (tag : Text) :
    claimSlot tag p.longForm = (claimSlot tag p).map id (.map id Pending.longForm) := by
  rw [claimSlot, claimSlot]
  split
  · rw [claimBindingOrLiteral_longForm short (by decide)]
    rfl
  · rw [claimBindingOrLiteral_longForm short (by decide)]
    rfl

theorem claimTransition_longForm (short : p.IsShort) :
    claimTransition p.longForm = (claimTransition p).map id Pending.longForm := by
  have shortLeft := short.leaves (@leaves_claimBindingOrLiteral "transition".toList p (by decide))
  rw [claimTransition, claimTransition, claimBindingOrLiteral_longForm short (by decide)]
  generalize p.claimBindingOrLiteral "transition".toList = claimed at shortLeft
  rcases claimed with ⟨_ | _ | ⟨c, value⟩, left⟩
  · rfl
  · rfl
  · simp only [Prod.map_apply, id_eq]
    rw [claimBindingOrLiteral_longForm shortLeft (by decide)]
    rfl

/-- A render element finds what a claim would yield, though it takes nothing. -/
theorem boundValue?_eq_claimBinding (attributes : Pending) (name : Text) :
    boundValue? attributes name = (attributes.claimBinding name).1 := by
  have others : Attribute.lastValue? ("v-bind:".toList ++ name)
      (attributes.filter (·.name ≠ ':' :: name)) =
      Attribute.lastValue? ("v-bind:".toList ++ name) attributes :=
    Attribute.lastValue?_filter (fun n => n ≠ ':' :: name) attributes
  rw [boundValue?, claimBinding, claim, ← others]
  rcases Attribute.lastValue? (':' :: name) attributes with _ | _ | ⟨c, value⟩ <;> rfl

theorem renderCall_longForm {attributes : Pending} (short : attributes.IsShort) :
    renderCall attributes.longForm = renderCall attributes := by
  simp only [renderCall, boundValue?_eq_claimBinding, claimBinding_longForm short, Prod.map_fst,
    id_eq]

theorem renderWarnings_longForm {attributes : Pending} (short : attributes.IsShort) :
    renderWarnings attributes.longForm = renderWarnings attributes := by
  have found (name : Text) (isPlain : IsPlain name) :
      Attribute.lastValue? name attributes.longForm = Attribute.lastValue? name attributes :=
    Attribute.lastValue?_map_longForm fun _ _ => longForm_eq_plain_iff isPlain
  simp only [renderWarnings, found "method".toList (by decide), found "args".toList (by decide),
    renderCall_longForm short]

/-- Unclaimed attributes are read by what their names say. -/
theorem filterMap_longForm {α : Type} {read : Attribute → Option α}
    (byName : ∀ a b : Attribute, AttributeName.ofText a.name = AttributeName.ofText b.name →
      a.value = b.value → read a = read b) (p : Pending) :
    p.longForm.filterMap read = p.filterMap read := by
  rw [Pending.longForm, List.filterMap_map]
  exact List.filterMap_congr fun a _ => byName _ a (ofText_longForm a.name) rfl

theorem plainAttributes_longForm (p : Pending) :
    plainAttributes p.longForm = plainAttributes p := by
  have selected : plainAttributes p.longForm = (plainAttributes p).map Attribute.longForm := by
    rw [plainAttributes, Pending.longForm, List.filter_map, plainAttributes]
    refine congrArg _ (List.filter_congr fun a _ => ?_)
    simp only [Function.comp_apply, Attribute.longForm, ofText_longForm]
  rw [selected]
  refine (List.map_congr_left fun a member => ?_).trans (List.map_id _)
  have literal := of_decide_eq_true (List.mem_filter.1 member).2
  rw [Attribute.longForm, longForm_of_literal literal, id]

theorem resolve_longForm (dialect : Dialect) (d : Delimiters) (tag : Text) {attributes : Pending}
    (short : attributes.IsShort) (shortPending : p.IsShort) :
    resolve dialect d tag attributes.longForm p.longForm = resolve dialect d tag attributes p := by
  have s₁ := shortPending.leaves (leaves_claimLoop p)
  have s₂ := s₁.leaves (@leaves_claim "v-if".toList _ (by decide))
  have s₃ := s₂.leaves (@leaves_claim "v-else".toList _ (by decide))
  have s₄ := s₃.leaves (@leaves_claim "v-once".toList _ (by decide))
  have s₅ := s₄.leaves (leaves_claimSlot tag _)
  have s₆ := s₅.leaves (@leaves_claimBindingOrLiteral "is".toList _ (by decide))
  have s₇ := s₆.leaves (@leaves_claim "inline-template".toList _ (by decide))
  have s₈ := s₇.leaves (@leaves_claim "class".toList _ (by decide))
  have s₉ := s₈.leaves (@leaves_claimBinding "class".toList _ (by decide))
  have s₁₀ := s₉.leaves (@leaves_claimBinding "style".toList _ (by decide))
  have bound (p : Pending) : p.longForm.filterMap bound? = p.filterMap bound? :=
    filterMap_longForm (fun a b name value => by simp only [bound?, name, value]) p
  have handlers (p : Pending) : p.longForm.filterMap handler? = p.filterMap handler? :=
    filterMap_longForm (fun a b name value => by simp only [handler?, name, value]) p
  have directives (p : Pending) : p.longForm.filterMap directive? = p.filterMap directive? :=
    filterMap_longForm (fun a b name value => by simp only [directive?, name, value]) p
  have isEmpty (p : Pending) : p.longForm.isEmpty = p.isEmpty := List.isEmpty_map
  simp (disch := decide) only [resolve, claimLoop_longForm, claimNonempty_longForm,
    claimFlag_longForm, claim_longForm, Prod.map_fst, Prod.map_snd, id_eq, claimFlag_snd,
    claimNonempty_snd, claimSlot_longForm s₄, claimBindingOrLiteral_longForm s₅,
    claimBinding_longForm s₈, claimBinding_longForm s₉, claimTransition_longForm s₁₀,
    renderCall_longForm short, renderWarnings_longForm short, isEmpty, bound, handlers, directives,
    plainAttributes_longForm]

theorem ofAttributes_longForm (dialect : Dialect) (d : Delimiters) (tag : Text)
    {attributes : Pending} (short : attributes.IsShort) {inRawRegion : Bool}
    (outside : (ofAttributes dialect d tag attributes inRawRegion).1.rawPassthrough = false) :
    ofAttributes dialect d tag attributes.longForm inRawRegion =
      ofAttributes dialect d tag attributes inRawRegion := by
  have shortLeft := short.leaves (.claim attributes (List.mem_singleton_self "v-pre".toList))
  rw [ofAttributes] at outside
  rw [ofAttributes, ofAttributes, claimFlag_longForm (by decide)]
  cases inRawRegion with
  | true => simp at outside
  | false =>
      have left : (Pending.claimFlag attributes "v-pre".toList).2.IsShort := shortLeft
      generalize Pending.claimFlag attributes "v-pre".toList = claimed at outside left
      rcases claimed with ⟨_ | _, p⟩
      · exact resolve_longForm dialect d tag short left
      · simp at outside

end Annotations

/-! ### Elements -/

/-- The warning with the name of a repeated attribute in the long form. -/
def Warning.longForm : Warning → Warning
  | duplicateAttribute name => duplicateAttribute (AttributeName.longForm name)
  | w => w

theorem Warning.AllAboutAttributes.map_longForm {ws : List Warning}
    (about : AllAboutAttributes ws) : ws.map longForm = ws := by
  refine (List.map_congr_left fun w member => ?_).trans (List.map_id ws)
  have aboutAttributes := about w member
  cases w with
  | duplicateAttribute name => exact absurd aboutAttributes Bool.false_ne_true
  | _ => rfl

/-- The same names are repeated. -/
theorem Attribute.repeated_longForm {attributes : Pending} (short : attributes.IsShort) :
    repeated attributes.longForm = (repeated attributes).map AttributeName.longForm := by
  have behind (seen : List Text) (seenShort : ∀ name ∈ seen, ¬ IsLong name) :
      repeated.go (seen.map AttributeName.longForm) attributes.longForm =
        (repeated.go seen attributes).map AttributeName.longForm := by
    induction attributes generalizing seen with
    | nil => rfl
    | cons a rest ih =>
        obtain ⟨here, others⟩ := List.forall_mem_cons.1 short
        have sameSeen : AttributeName.longForm a.name ∈ seen.map AttributeName.longForm ↔
            a.name ∈ seen := by
          rw [List.mem_map]
          constructor
          · rintro ⟨name, member, same⟩
            exact (longForm_inj (seenShort name member) here.notLong).1 same ▸ member
          · exact fun member => ⟨a.name, member, rfl⟩
        have ih := ih others
        rw [Pending.longForm, List.map_cons, repeated.go, repeated.go, ← Pending.longForm]
        simp only [longForm, sameSeen]
        split
        · rw [ih seen seenShort, List.map_cons]
        · exact ih (a.name :: seen) (List.forall_mem_cons.2 ⟨here.notLong, seenShort⟩)
  exact behind [] fun _ member => absurd member List.not_mem_nil

theorem Builder.isForbidden_longForm (tag : Text) (attributes : Pending) :
    isForbidden tag attributes.longForm = isForbidden tag attributes := by
  have isPlain : IsPlain "type".toList := by decide
  have found : Attribute.lastValue? "type".toList attributes.longForm =
      Attribute.lastValue? "type".toList attributes :=
    Attribute.lastValue?_map_longForm fun _ _ => longForm_eq_plain_iff isPlain
  rw [isForbidden, found, isForbidden]

/-- Outside of raw regions an element means the same whether its bound attributes and handlers are
written in the short or in the long form, and raises the same warnings, in which only the name of a
repeated attribute is the one that is written. -/
theorem makeElement_longForm (settings : Settings) (d : Delimiters) (name : Text) (b : Builder)
    {attributes : List Attribute}
    (notLong : ∀ a ∈ attributes, ¬ "v-bind:".toList <+: a.name ∧ ¬ "v-on:".toList <+: a.name)
    (nonempty : ∀ a ∈ attributes, [':'] <+: a.name → a.value ≠ [])
    (outside : (b.makeElement settings d name attributes).1.rawPassthrough = false) :
    let short := b.makeElement settings d name attributes
    let long := b.makeElement settings d name (attributes.map Attribute.longForm)
    long.1 = { short.1 with attributes := attributes.map Attribute.longForm } ∧
      long.2 = short.2.map Warning.longForm ∧
      ∀ s, ofText (':' :: s) = ofText ("v-bind:".toList ++ s) ∧
        ofText ('@' :: s) = ofText ("v-on:".toList ++ s) := by
  have isShort : Pending.IsShort attributes := fun a member =>
    ⟨not_or.2 (notLong a member), nonempty a member⟩
  have annotated := Annotations.ofAttributes_longForm settings.dialect d
    (Builder.canonicalTag name).1 isShort outside
  have forbidden := Builder.isForbidden_longForm (Builder.canonicalTag name).1 attributes
  have repeated := Attribute.repeated_longForm isShort
  rw [Pending.longForm] at annotated forbidden repeated
  refine ⟨?_, ?_, fun s => ⟨?_, ?_⟩⟩
  · simp only [Builder.makeElement, annotated, forbidden]
  · have aboutTag : (Builder.canonicalTag name).2.map Warning.longForm =
        (Builder.canonicalTag name).2 := by
      rw [Builder.canonicalTag]
      split <;> rfl
    have aboutAttributes := (Annotations.about_ofAttributes settings.dialect d
      (Builder.canonicalTag name).1 attributes b.inRawRegion).map_longForm
    simp only [Builder.makeElement, annotated, forbidden, repeated, List.map_append, aboutTag,
      aboutAttributes, List.map_map]
    split <;> rfl
  · rw [ofText_colon, ofText_bind]
  · rw [ofText_at, ofText_on]

/-- A loop over an input with a binding, a handler and a repeated class. -/
theorem makeElement_longForm_input :
    let attributes : List Attribute :=
      [⟨"v-for".toList, "x in xs".toList⟩, ⟨":value.sync".toList, ['x']⟩,
        ⟨"@input.lazy".toList, "set".toList⟩, ⟨":class".toList, ['a']⟩, ⟨":class".toList, ['b']⟩]
    (∀ a ∈ attributes, ¬ "v-bind:".toList <+: a.name ∧ ¬ "v-on:".toList <+: a.name) ∧
      (∀ a ∈ attributes, [':'] <+: a.name → a.value ≠ []) ∧
      (Builder.makeElement {} .standard "input".toList attributes {}).1.rawPassthrough = false ∧
      let short := Builder.makeElement {} .standard "input".toList attributes {}
      let long := Builder.makeElement {} .standard "input".toList
        (attributes.map Attribute.longForm) {}
      long.1 = { short.1 with attributes := attributes.map Attribute.longForm } ∧
        long.2 = short.2.map Warning.longForm ∧
        ∀ s, ofText (':' :: s) = ofText ("v-bind:".toList ++ s) ∧
          ofText ('@' :: s) = ofText ("v-on:".toList ++ s) := by
  intro attributes
  have notLong : ∀ a ∈ attributes,
      ¬ "v-bind:".toList <+: a.name ∧ ¬ "v-on:".toList <+: a.name := by decide
  have nonempty : ∀ a ∈ attributes, [':'] <+: a.name → a.value ≠ [] := by decide
  have outside : (Builder.makeElement {} .standard "input".toList attributes {}).1.rawPassthrough =
      false := by
    decide +kernel
  exact ⟨notLong, nonempty, outside,
    makeElement_longForm {} .standard "input".toList {} notLong nonempty outside⟩

end TemplateMarkup
