import TemplateMarkup.Proofs.RawRegions

/-!
# Entries

Outside of raw regions an attribute goes one of two ways. A built-in directive may claim it,
together with all others of its name, and the names that can be claimed are few. Any other attribute
becomes one entry of the annotations, in the list that its name asks for. So no attribute is lost
unless its name is reserved, and none is counted twice.

What the claims leave is followed through all of them by one relation, `Pending.Leaves`: whatever
the order of the claims and the conditions on them, they only ever take away all attributes of some
reserved names.
-/

namespace TemplateMarkup

open Text

/-- What an unclaimed attribute becomes. -/
inductive Entry where
  /-- A bound property. -/
  | prop (binding : Attribute)
  /-- Another bound attribute. -/
  | attr (binding : Attribute)
  /-- An event handler. -/
  | handler (content : Handler)
  /-- A directive that is not built in. -/
  | directive (content : Directive)
  /-- A plain attribute. -/
  | plain (literal : Attribute)
deriving DecidableEq

namespace Entry

/-- The entry of an attribute. Its name says what it is, and for a bound attribute the dialect says
whether it is a property. The value is kept as written, or as a literal where it is plain text. -/
def ofAttribute (dialect : Dialect) (tag : Text) (a : Attribute) : Entry :=
  match AttributeName.ofText a.name with
  | .bind name =>
    if dialect.mustUseProp tag name then prop ⟨name, a.value⟩ else attr ⟨name, a.value⟩
  | .on event modifiers => handler ⟨event, a.value, modifiers⟩
  | .directive name arg modifiers => directive ⟨name, a.value, arg, modifiers⟩
  | .literal => plain ⟨a.name, a.value.quote⟩

def prop? : Entry → Option Attribute
  | prop binding => some binding
  | _ => none

/-- The bound attribute that the entry is, if it is no property. -/
def attr? : Entry → Option Attribute
  | attr binding => some binding
  | _ => none

def handler? : Entry → Option Handler
  | handler content => some content
  | _ => none

def directive? : Entry → Option Directive
  | directive content => some content
  | _ => none

def plain? : Entry → Option Attribute
  | plain literal => some literal
  | _ => none

end Entry

namespace Annotations

def entries (a : Annotations) : List Entry :=
  a.props.map .prop ++ a.attrs.map .attr ++ a.handlers.map .handler ++
    a.directives.map .directive ++ a.staticAttrs.map .plain

/-- The lists hold these entries, each in the list of its sort, in this order. -/
structure Lists (a : Annotations) (entries : List Entry) : Prop where
  props : a.props = entries.filterMap Entry.prop?
  attrs : a.attrs = entries.filterMap Entry.attr?
  handlers : a.handlers = entries.filterMap Entry.handler?
  directives : a.directives = entries.filterMap Entry.directive?
  staticAttrs : a.staticAttrs = entries.filterMap Entry.plain?

/-- Every entry is in one list. -/
theorem Lists.perm {a : Annotations} {entries : List Entry} (lists : a.Lists entries) :
    a.entries.Perm entries := by
  rw [Annotations.entries, lists.props, lists.attrs, lists.handlers, lists.directives,
    lists.staticAttrs]
  clear lists
  induction entries with
  | nil => exact .nil
  | cons e entries ih =>
      simp only [List.append_assoc] at ih ⊢
      cases e with
      | prop binding => exact ih.cons _
      | attr binding => exact List.perm_middle.trans (ih.cons _)
      | handler content =>
          rw [← List.append_assoc] at ih ⊢
          exact List.perm_middle.trans (ih.cons _)
      | directive content =>
          rw [← List.append_assoc, ← List.append_assoc] at ih ⊢
          exact List.perm_middle.trans (ih.cons _)
      | plain literal =>
          rw [← List.append_assoc, ← List.append_assoc, ← List.append_assoc] at ih ⊢
          exact List.perm_middle.trans (ih.cons _)

end Annotations

/-! ### What claims leave -/

namespace Pending

/-- What is left of pending attributes when those of some reserved names are taken: all others, in
their order. -/
def Leaves (reserved : List Text) (p q : Pending) : Prop :=
  ∃ claimed, claimed ⊆ reserved ∧ q = p.filter (·.name ∉ claimed)

namespace Leaves

variable {reserved : List Text} {p q r : Pending} {name : Text}

theorem trans (first : Leaves reserved p q) (second : Leaves reserved q r) :
    Leaves reserved p r := by
  obtain ⟨before, beforeReserved, rfl⟩ := first
  obtain ⟨after, afterReserved, rfl⟩ := second
  refine ⟨before ++ after, List.append_subset.2 ⟨beforeReserved, afterReserved⟩, ?_⟩
  rw [List.filter_filter]
  refine List.filter_congr fun a _ => ?_
  simp [Bool.and_comm]

/-- A claim is taken apart into what it yields and what it leaves. -/
theorem of_eq {α : Type} {claimed : α × Pending} {x : α} (left : Leaves reserved p claimed.2)
    (same : claimed = (x, q)) : Leaves reserved p q := by
  rw [same] at left
  exact left

theorem claim (p : Pending) (isReserved : name ∈ reserved) :
    Leaves reserved p (p.claim name).2 :=
  ⟨[name], List.cons_subset.2 ⟨isReserved, List.nil_subset reserved⟩, by simp⟩

/-- The short and the long form of a bound name may both be taken. -/
theorem claimBinding (p : Pending) (short : ':' :: name ∈ reserved)
    (long : "v-bind:".toList ++ name ∈ reserved) : Leaves reserved p (p.claimBinding name).2 := by
  rw [Pending.claimBinding]
  split
  next c value rest same => exact (claim p short).of_eq same
  next value rest _ same => exact ((claim p short).of_eq same).trans (claim rest long)

theorem claimBindingOrLiteral (p : Pending) (plain : name ∈ reserved)
    (short : ':' :: name ∈ reserved) (long : "v-bind:".toList ++ name ∈ reserved) :
    Leaves reserved p (p.claimBindingOrLiteral name).2 := by
  have bound := claimBinding p short long
  rw [Pending.claimBindingOrLiteral]
  split
  next value rest same => exact bound.of_eq same
  next rest same => exact (bound.of_eq same).trans (claim rest plain)

end Leaves

end Pending

namespace Annotations

/-- The names that are claimed in one form only. -/
def plainReservedNames : List Text :=
  ["v-for".toList, "track-by".toList, "v-if".toList, "v-else".toList, "v-once".toList,
    "inline-template".toList, "class".toList]

/-- The names that are claimed bound as well. -/
def boundReservedNames : List Text :=
  ["name".toList, "slot".toList, "is".toList, "style".toList, "class".toList,
    "transition".toList, "transition-on-appear".toList]

/-- The names that can be claimed: no attribute of another name is taken away. -/
def reservedNames : List Text :=
  plainReservedNames ++
    boundReservedNames.flatMap fun name => [name, ':' :: name, "v-bind:".toList ++ name]

theorem mem_reservedNames {name : Text} (isPlain : name ∈ plainReservedNames) :
    name ∈ reservedNames :=
  List.mem_append_left _ isPlain

theorem mem_reservedNames_of_form {name form : Text} (isBound : name ∈ boundReservedNames)
    (isForm : form ∈ [name, ':' :: name, "v-bind:".toList ++ name]) : form ∈ reservedNames :=
  List.mem_append_right _ (List.mem_flatMap.2 ⟨name, isBound, isForm⟩)

/-- What claims of reserved names leave. -/
abbrev Leaves (p q : Pending) : Prop :=
  Pending.Leaves reservedNames p q

variable {name : Text}

theorem leaves_claim (p : Pending) (isPlain : name ∈ plainReservedNames) :
    Leaves p (p.claim name).2 :=
  .claim p (mem_reservedNames isPlain)

theorem leaves_claimBinding (p : Pending) (isBound : name ∈ boundReservedNames) :
    Leaves p (p.claimBinding name).2 :=
  .claimBinding p (mem_reservedNames_of_form isBound (by simp))
    (mem_reservedNames_of_form isBound (by simp))

theorem leaves_claimBindingOrLiteral (p : Pending) (isBound : name ∈ boundReservedNames) :
    Leaves p (p.claimBindingOrLiteral name).2 :=
  .claimBindingOrLiteral p (mem_reservedNames_of_form isBound (by simp))
    (mem_reservedNames_of_form isBound (by simp)) (mem_reservedNames_of_form isBound (by simp))

theorem leaves_claimLoop (p : Pending) : Leaves p (claimLoop p).2.2 := by
  have header : Leaves p (p.claimNonempty "v-for".toList).2 := leaves_claim p (by decide)
  rw [claimLoop]
  split
  next rest same => exact header.of_eq same
  next value rest same =>
    split
    · exact header.of_eq same
    · exact (header.of_eq same).trans (leaves_claim rest (by decide))

theorem leaves_claimSlot (tag : Text) (p : Pending) : Leaves p (claimSlot tag p).2.2 := by
  rw [claimSlot]
  split
  · exact leaves_claimBindingOrLiteral p (by decide)
  · exact leaves_claimBindingOrLiteral p (by decide)

theorem leaves_claimTransition (p : Pending) : Leaves p (claimTransition p).2 := by
  have effect : Leaves p (p.claimBindingOrLiteral "transition".toList).2 :=
    leaves_claimBindingOrLiteral p (by decide)
  rw [claimTransition]
  split
  next rest same => exact effect.of_eq same
  next rest same => exact effect.of_eq same
  next value rest _ same =>
    exact (effect.of_eq same).trans (leaves_claimBindingOrLiteral rest (by decide))

/-! ### The lists -/

variable (dialect : Dialect) (d : Delimiters) (tag : Text) (attributes : List Attribute)

/-- The entry of an attribute is what the list of its sort selects, and no other list selects
anything. -/
theorem selected_ofAttribute (a : Attribute) :
    let e := Entry.ofAttribute dialect tag a
    (e.prop? = (bound? a).filter fun b => dialect.mustUseProp tag b.name) ∧
      (e.attr? = (bound? a).filter fun b => !dialect.mustUseProp tag b.name) ∧
      e.handler? = handler? a ∧ e.directive? = directive? a ∧
      e.plain? =
        if AttributeName.ofText a.name = .literal then some ⟨a.name, a.value.quote⟩ else none := by
  simp only [Entry.ofAttribute, bound?, handler?, directive?]
  cases AttributeName.ofText a.name with
  | bind name =>
      cases used : dialect.mustUseProp tag name <;>
        simp [used, Option.filter_some, Entry.prop?, Entry.attr?, Entry.handler?,
          Entry.directive?, Entry.plain?]
  | on event modifiers => exact ⟨rfl, rfl, rfl, rfl, rfl⟩
  | directive name arg modifiers => exact ⟨rfl, rfl, rfl, rfl, rfl⟩
  | literal => exact ⟨rfl, rfl, rfl, rfl, rfl⟩

/-- What all claims together leave. -/
def unclaimed (p : Pending) : Pending :=
  let p := (claimLoop p).2.2
  let p := (p.claimNonempty "v-if".toList).2
  let p := (p.claimFlag "v-else".toList).2
  let p := (p.claimFlag "v-once".toList).2
  let p := (claimSlot tag p).2.2
  let p := (p.claimBindingOrLiteral "is".toList).2
  let p := (p.claimFlag "inline-template".toList).2
  let p := (p.claim "class".toList).2
  let p := (p.claimBinding "class".toList).2
  let p := (p.claimBinding "style".toList).2
  (claimTransition p).2

theorem leaves_unclaimed (p : Pending) : Leaves p (unclaimed tag p) :=
  (leaves_claimLoop p).trans <| (leaves_claim _ (by decide)).trans <|
    (leaves_claim _ (by decide)).trans <| (leaves_claim _ (by decide)).trans <|
    (leaves_claimSlot tag _).trans <|
    (leaves_claimBindingOrLiteral _ (by decide)).trans <|
    (leaves_claim _ (by decide)).trans <| (leaves_claim _ (by decide)).trans <|
    (leaves_claimBinding _ (by decide)).trans <|
    (leaves_claimBinding _ (by decide)).trans (leaves_claimTransition _)

/-- Plain attributes are what the claims leave of them. -/
theorem staticAttrs_resolve (p : Pending) :
    (resolve dialect d tag attributes p).1.staticAttrs =
      literals (plainAttributes (unclaimed tag p)) := by
  simp only [resolve, unclaimed]

/-- The five lists are made of what the claims leave. -/
theorem lists_resolve (p : Pending) :
    (resolve dialect d tag attributes p).1.Lists
      ((unclaimed tag p).map (Entry.ofAttribute dialect tag)) := by
  constructor
  case props =>
    have made : (resolve dialect d tag attributes p).1.props =
        ((unclaimed tag p).filterMap bound?).filter fun b => dialect.mustUseProp tag b.name := by
      simp only [resolve, unclaimed]
    rw [made, List.filter_filterMap, List.filterMap_map]
    exact List.filterMap_congr fun a _ => (selected_ofAttribute dialect tag a).1.symm
  case attrs =>
    have made : (resolve dialect d tag attributes p).1.attrs =
        ((unclaimed tag p).filterMap bound?).filter fun b => !dialect.mustUseProp tag b.name := by
      simp only [resolve, unclaimed]
    rw [made, List.filter_filterMap, List.filterMap_map]
    exact List.filterMap_congr fun a _ => (selected_ofAttribute dialect tag a).2.1.symm
  case handlers =>
    have made : (resolve dialect d tag attributes p).1.handlers =
        (unclaimed tag p).filterMap handler? := by
      simp only [resolve, unclaimed]
    rw [made, List.filterMap_map]
    exact List.filterMap_congr fun a _ => (selected_ofAttribute dialect tag a).2.2.1.symm
  case directives =>
    have made : (resolve dialect d tag attributes p).1.directives =
        (unclaimed tag p).filterMap directive? := by
      simp only [resolve, unclaimed]
    rw [made, List.filterMap_map]
    exact List.filterMap_congr fun a _ => (selected_ofAttribute dialect tag a).2.2.2.1.symm
  case staticAttrs =>
    rw [staticAttrs_resolve, literals, plainAttributes, List.filterMap_map,
      ← List.filterMap_eq_map, List.filterMap_filter]
    refine List.filterMap_congr fun a _ => ?_
    simp [(selected_ofAttribute dialect tag a).2.2.2.2]

end Annotations

open Annotations

/-- Outside of raw regions the attributes are parted by their names: those of some reserved names
are claimed, and every other one is an entry of the list that its name asks for. The lists hold
nothing else, each in the order of the source. -/
theorem ofAttributes_entries (dialect : Dialect) (d : Delimiters) (tag : Text)
    {attributes : List Attribute} (unmarked : ∀ a ∈ attributes, a.name ≠ "v-pre".toList) :
    ∃ claimed, claimed ⊆ reservedNames ∧
      let entries := (attributes.filter (·.name ∉ claimed)).map (Entry.ofAttribute dialect tag)
      let annotations := (ofAttributes dialect d tag attributes false).1
      annotations.Lists entries ∧ annotations.entries.Perm entries := by
  have noPre : (Attribute.lastValue? "v-pre".toList attributes).isSome = false := by
    rw [Bool.eq_false_iff, Ne, Attribute.isSome_lastValue?]
    exact fun ⟨a, member, named⟩ => unmarked a member named
  have all : attributes.filter (·.name ≠ "v-pre".toList) = attributes :=
    List.filter_eq_self.2 fun a member => decide_eq_true (unmarked a member)
  have resolved : (ofAttributes dialect d tag attributes false).1 =
      (resolve dialect d tag attributes attributes).1 := by
    simp only [ofAttributes_eq, noPre, all, Bool.false_eq_true, ↓reduceIte]
  obtain ⟨claimed, reserved, left⟩ := leaves_unclaimed tag attributes
  have lists := lists_resolve dialect d tag attributes attributes
  rw [left] at lists
  rw [resolved]
  exact ⟨claimed, reserved, lists, lists.perm⟩

/-- An input with a loop, a repeated plain attribute, a property, a handler and a directive. -/
theorem ofAttributes_entries_input :
    let attributes : List Attribute :=
      [⟨"id".toList, ['a']⟩, ⟨"v-for".toList, "x in xs".toList⟩, ⟨"track-by".toList, ['k']⟩,
        ⟨":value".toList, ['x']⟩, ⟨"@input.lazy".toList, "set".toList⟩,
        ⟨"v-focus:now".toList, []⟩, ⟨"id".toList, ['b']⟩]
    (∀ a ∈ attributes, a.name ≠ "v-pre".toList) ∧
      ∃ claimed, claimed ⊆ reservedNames ∧
        let entries :=
          (attributes.filter (·.name ∉ claimed)).map (Entry.ofAttribute .web "input".toList)
        let annotations :=
          (ofAttributes .web .standard "input".toList attributes false).1
        annotations.Lists entries ∧ annotations.entries.Perm entries := by
  intro attributes
  have unmarked : ∀ a ∈ attributes, a.name ≠ "v-pre".toList := by decide
  exact ⟨unmarked, ofAttributes_entries .web .standard "input".toList unmarked⟩

end TemplateMarkup
