import Mathlib.Data.List.Induction
import TemplateMarkup.Proofs.Entries
import TemplateMarkup.Proofs.QuotedText

/-!
# Lookups of plain text

A tag may write an attribute several times. In the table of the attributes the last value of a name
wins, and so it does when a directive claims the name. The lists of plain text keep every copy in
the order of the source, and a lookup there takes the first. So a lookup and the table agree on a
name exactly if its first and its last value are the same.
-/

namespace TemplateMarkup

open Text

namespace Attribute

variable {name : Text}

@[simp] theorem firstValue?_cons (a : Attribute) (rest : List Attribute) :
    firstValue? name (a :: rest) =
      if a.name = name then some a.value else firstValue? name rest := by
  rw [firstValue?, List.find?_cons]
  by_cases named : a.name = name
  · simp [named]
  · simp [named, firstValue?]

theorem lastValue?_concat (attributes : List Attribute) (a : Attribute) :
    lastValue? name (attributes ++ [a]) =
      if a.name = name then some a.value else lastValue? name attributes := by
  rw [lastValue?, List.reverse_append, List.reverse_singleton, List.singleton_append,
    firstValue?_cons, ← lastValue?]

theorem lastValue?_eq_none {attributes : List Attribute}
    (absent : ∀ a ∈ attributes, a.name ≠ name) : lastValue? name attributes = none := by
  rw [← Option.not_isSome_iff_eq_none, isSome_lastValue?]
  exact fun ⟨a, member, named⟩ => absent a member named

/-- Where no name is repeated, the first value is the last. -/
theorem lastValue?_eq_firstValue? {attributes : List Attribute}
    (distinct : attributes.Pairwise (·.name ≠ ·.name)) :
    lastValue? name attributes = firstValue? name attributes := by
  induction attributes with
  | nil => rfl
  | cons a rest ih =>
      obtain ⟨others, distinctRest⟩ := List.pairwise_cons.1 distinct
      have last : lastValue? name (a :: rest) =
          (lastValue? name rest).or (firstValue? name [a]) := by
        rw [lastValue?, List.reverse_cons, firstValue?, List.find?_append, Option.map_or]
        rfl
      rw [last, firstValue?_cons, firstValue?_cons]
      by_cases named : a.name = name
      · rw [if_pos named, if_pos named, lastValue?_eq_none, Option.none_or]
        intro b member again
        exact others b member (named.trans again.symm)
      · rw [if_neg named, if_neg named, ← ih distinctRest]
        exact Option.or_none

theorem firstValue?_filter (kept : Text → Bool) (attributes : List Attribute) :
    firstValue? name (attributes.filter fun a => kept a.name) =
      if kept name then firstValue? name attributes else none := by
  induction attributes with
  | nil => simp [firstValue?]
  | cons a rest ih =>
      by_cases named : a.name = name
      · subst named
        by_cases isKept : kept a.name = true
        · simp [isKept]
        · simp [isKept, ih]
      · by_cases isKept : kept a.name = true
        · simp [isKept, named, ih]
        · simp [isKept, named, ih]

/-- Leaving out other names does not change what is found. -/
theorem lastValue?_filter (kept : Text → Bool) (attributes : List Attribute) :
    lastValue? name (attributes.filter fun a => kept a.name) =
      if kept name then lastValue? name attributes else none := by
  rw [lastValue?, ← List.filter_reverse, firstValue?_filter, lastValue?]

/-- Setting a name changes what is found under this name only. -/
theorem firstValue?_set (a : Attribute) (t : List Attribute) :
    firstValue? name (set a t) = if a.name = name then some a.value else firstValue? name t := by
  induction t with
  | nil => exact firstValue?_cons a []
  | cons b rest ih =>
      rw [set]
      split
      next same =>
        rw [firstValue?_cons, firstValue?_cons, ← same]
        split <;> rfl
      next other =>
        split
        next => exact firstValue?_cons a (b :: rest)
        next =>
          rw [firstValue?_cons, firstValue?_cons, ih]
          by_cases named : b.name = name
          · rw [if_pos named, if_neg (fun set => other (set.trans named.symm)), if_pos named]
          · rw [if_neg named, if_neg named]

/-- The table holds the last value of each name. -/
theorem firstValue?_table (attributes : List Attribute) :
    firstValue? name (table attributes) = lastValue? name attributes := by
  induction attributes using List.reverseRecOn with
  | nil => rfl
  | append_singleton attributes a ih =>
      rw [lastValue?_concat, ← ih, ← firstValue?_set, table, List.foldl_append, ← table]
      rfl

/-- If all attributes of a name are among those that are kept, then the first of them is. -/
theorem firstValue?_literals {kept : Text → Bool} (isKept : kept name = true)
    (attributes : List Attribute) :
    firstValue? name (Annotations.literals (attributes.filter fun a => kept a.name)) =
      (firstValue? name attributes).map quote := by
  induction attributes with
  | nil => rfl
  | cons a rest ih =>
      rw [firstValue?_cons]
      by_cases named : a.name = name
      · rw [List.filter_cons_of_pos (by rw [named, isKept]), if_pos named, Annotations.literals,
          List.map_cons, firstValue?_cons, if_pos named]
        rfl
      · rw [if_neg named, ← ih, List.filter_cons]
        split
        · rw [Annotations.literals, List.map_cons, firstValue?_cons, if_neg named,
            ← Annotations.literals]
        · rfl

end Attribute

open Attribute

namespace Element

/-- The attributes that are plain text: all of them in a raw region, except the one that opens it,
and elsewhere those that no directive claims and that bind nothing. -/
def plainText (e : Element) : List Attribute :=
  if e.rawPassthrough then e.attrs else e.staticAttrs

/-- What a lookup of plain text finds. -/
def plainText? (e : Element) (name : Text) : Option Text :=
  if e.rawPassthrough then e.attr? name else e.staticAttr? name

/-- The plain text of an element is that of some names, with all attributes of these names. -/
def KeepsNames (e : Element) : Prop :=
  ∃ kept : Text → Bool,
    e.plainText = Annotations.literals (e.attributes.filter fun a => kept a.name)

/-- Lookups of plain text take the first value of a name, while the last one wins in the table. -/
structure FindsFirst (e : Element) : Prop where
  first : ∀ a ∈ e.plainText,
    e.plainText? a.name = (firstValue? a.name e.attributes).map quote
  /-- A lookup and the table agree if it makes no difference which value of the name counts. -/
  agrees_iff : ∀ a ∈ e.plainText,
    (e.plainText? a.name = (firstValue? a.name (table e.attributes)).map quote ↔
      firstValue? a.name e.attributes = lastValue? a.name e.attributes)

theorem plainText?_eq (e : Element) (name : Text) :
    e.plainText? name = firstValue? name e.plainText := by
  rw [plainText?, plainText]
  split <;> rfl

theorem KeepsNames.findsFirst {e : Element} (keeps : e.KeepsNames) : e.FindsFirst := by
  obtain ⟨kept, written⟩ := keeps
  have first : ∀ a ∈ e.plainText,
      e.plainText? a.name = (firstValue? a.name e.attributes).map quote := by
    intro a member
    rw [written, Annotations.literals] at member
    obtain ⟨source, among, rfl⟩ := List.mem_map.1 member
    rw [plainText?_eq, written]
    exact firstValue?_literals (List.mem_filter.1 among).2 e.attributes
  refine ⟨first, ?_⟩
  intro a member
  rw [first a member, firstValue?_table]
  exact (Option.map_injective quote_injective).eq_iff

end Element

namespace Annotations

variable (dialect : Dialect) (d : Delimiters) (tag : Text) (attributes : List Attribute)

/-- What is left of plain attributes after all claims is left for the sake of its names. -/
theorem keepsNames_resolve (p : Pending) :
    ∃ kept : Text → Bool, (resolve dialect d tag attributes p).1.staticAttrs =
      literals (p.filter fun a => kept a.name) := by
  obtain ⟨claimed, -, left⟩ := leaves_unclaimed tag p
  refine ⟨fun name => AttributeName.ofText name = .literal ∧ name ∉ claimed, ?_⟩
  rw [staticAttrs_resolve, left, plainAttributes, List.filter_filter]
  simp only [Bool.decide_and]

theorem keepsNames_ofAttributes (inRawRegion : Bool) :
    let annotations := (ofAttributes dialect d tag attributes inRawRegion).1
    ∃ kept : Text → Bool,
      (if annotations.rawPassthrough then annotations.attrs else annotations.staticAttrs) =
        literals (attributes.filter fun a => kept a.name) := by
  dsimp only
  rw [ofAttributes_eq]
  split
  next inside =>
    refine ⟨fun _ => true, ?_⟩
    simp [raw, literals]
  next outside =>
    split
    next opens => exact ⟨fun name => name ≠ "v-pre".toList, by simp [raw, literals]⟩
    next unopened =>
      obtain ⟨kept, left⟩ := keepsNames_resolve dialect d tag attributes
        (attributes.filter (·.name ≠ "v-pre".toList))
      refine ⟨fun name => kept name && decide (name ≠ "v-pre".toList), ?_⟩
      rw [(resolve_outside dialect d tag attributes _).2, left, List.filter_filter]
      rfl

end Annotations

/-- Whatever the source and the settings, a lookup of plain text finds the first value of a name, so
it agrees with the table of the attributes exactly if that is the last one as well. -/
theorem parse_findsFirst (settings : Settings) (source : Text) :
    ParsesWith settings source fun _ parsed =>
      ∀ id e, parsed.template.get? id = some e → e.FindsFirst := by
  apply parsesWith_of_build
  intro d opening closing id e found
  have keeps : (buildTemplate settings d source).1.template.Every Element.KeepsNames :=
    Builder.every_buildTemplate (fun b name attributes => Annotations.keepsNames_ofAttributes
      settings.dialect d (Builder.canonicalTag name).1 attributes b.inRawRegion) source
  have keeps : e.KeepsNames := keeps id e.bare (by rw [Template.bare?, found, Option.map_some])
  exact keeps.findsFirst

/-- In the table of this element the second value of `id` stands, and a lookup finds the first. -/
example :
    (parse {} "<p id=\"a\" id=\"b\"></p>".toList).toOption.bind (fun parsed =>
      (parsed.template.get? 0).map fun e =>
        (e.plainText? "id".toList, firstValue? "id".toList (table e.attributes))) =
    some (some "\"a\"".toList, some ['b']) := by
  decide +kernel

end TemplateMarkup
