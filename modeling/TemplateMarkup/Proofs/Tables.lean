import Mathlib.Data.Finset.Card
import Mathlib.Data.List.Dedup
import TemplateMarkup.Proofs.Claiming
import TemplateMarkup.Proofs.ForbiddenTags

/-!
# Tables of attributes

The attributes of an element come in three forms: as written, with all repetitions; as a table, one
entry for each name; and as the pending attributes that directives claim name by name. They never
disagree: the table has the names as written with their last values, each repetition is reported,
and what a claim yields is what the table has, whichever claims went before (`parse_tabled`).
-/

namespace TemplateMarkup

open Text Event

theorem Text.ne_of_below {s s' : Text} (below : s < s') : s ≠ s' := by
  rintro rfl
  exact List.lt_irrefl s below

namespace Attribute

/-- The table has an entry for each name, in ascending order of the names, and the entry is the last
attribute with its name. -/
structure IsTableOf (table attributes : List Attribute) : Prop where
  sorted : table.Pairwise (·.name < ·.name)
  names : ∀ name, (∃ a ∈ table, a.name = name) ↔ ∃ a ∈ attributes, a.name = name
  last : ∀ a ∈ table, ∃ before after,
    attributes = before ++ a :: after ∧ ∀ b ∈ after, b.name ≠ a.name

variable {t attributes : List Attribute} {a b : Attribute}

/-- Setting a name replaces its entry and no other. -/
theorem mem_set (sorted : t.Pairwise (·.name < ·.name)) :
    b ∈ set a t ↔ b = a ∨ b ∈ t ∧ b.name ≠ a.name := by
  induction t with
  | nil => simp [set]
  | cons c rest ih =>
      obtain ⟨above, sortedRest⟩ := List.pairwise_cons.1 sorted
      rw [set]
      split
      next same =>
        have others : b ∈ rest → b.name ≠ a.name := by
          intro member
          rw [same]
          exact (ne_of_below (above b member)).symm
        rw [List.mem_cons, List.mem_cons]
        grind
      next other =>
        split
        next below =>
          have others : b ∈ c :: rest → b.name ≠ a.name := by
            intro member
            rcases List.mem_cons.1 member with rfl | later
            · exact Ne.symm other
            · exact (ne_of_below (List.lt_trans below (above b later))).symm
          rw [List.mem_cons]
          grind
        next =>
          rw [List.mem_cons, List.mem_cons, ih sortedRest]
          grind

theorem pairwise_set (sorted : t.Pairwise (·.name < ·.name)) :
    (set a t).Pairwise (·.name < ·.name) := by
  induction t with
  | nil => exact List.pairwise_singleton _ _
  | cons c rest ih =>
      obtain ⟨above, sortedRest⟩ := List.pairwise_cons.1 sorted
      rw [set]
      split
      next same => exact List.pairwise_cons.2 ⟨same ▸ above, sortedRest⟩
      next other =>
        split
        next below =>
          refine List.pairwise_cons.2 ⟨fun b member => ?_, sorted⟩
          rcases List.mem_cons.1 member with rfl | later
          · exact below
          · exact List.lt_trans below (above b later)
        next notBelow =>
          have below : c.name < a.name := by
            refine Decidable.byContradiction fun notAbove => other ?_
            exact List.le_antisymm (List.not_lt.1 notAbove) (List.not_lt.1 notBelow)
          refine List.pairwise_cons.2 ⟨fun b member => ?_, ih sortedRest⟩
          rcases (mem_set sortedRest).1 member with rfl | ⟨later, -⟩
          · exact below
          · exact above b later

/-- One more attribute sets its name. -/
theorem IsTableOf.concat (isTable : IsTableOf t attributes) (a : Attribute) :
    IsTableOf (set a t) (attributes ++ [a]) where
  sorted := pairwise_set isTable.sorted
  names name := by
    have before := isTable.names name
    simp only [mem_set isTable.sorted, List.mem_append, List.mem_singleton]
    grind
  last b member := by
    rcases (mem_set isTable.sorted).1 member with rfl | ⟨earlier, other⟩
    · exact ⟨attributes, [], rfl, fun b member => absurd member List.not_mem_nil⟩
    · obtain ⟨before, after, rfl, last⟩ := isTable.last b earlier
      refine ⟨before, after ++ [a], by rw [List.append_assoc, List.cons_append], ?_⟩
      intro c member
      rcases List.mem_append.1 member with among | new
      · exact last c among
      · obtain rfl := List.mem_singleton.1 new
        exact Ne.symm other

theorem isTableOf_table (attributes : List Attribute) :
    IsTableOf (table attributes) attributes := by
  induction attributes using List.reverseRecOn with
  | nil => exact ⟨.nil, fun name => Iff.rfl, fun a member => absurd member List.not_mem_nil⟩
  | append_singleton attributes a ih =>
      rw [table, List.foldl_append, ← table]
      exact ih.concat a

/-- A search from the end finds in the table what it finds among the attributes. -/
theorem lastValue?_table (name : Text) (attributes : List Attribute) :
    lastValue? name (table attributes) = lastValue? name attributes := by
  have distinct := (isTableOf_table attributes).sorted.imp fun below => ne_of_below below
  rw [lastValue?_eq_firstValue? distinct, firstValue?_table]

/-- Behind attributes with some names, each attribute repeats a name or adds one. -/
theorem length_repeated_go (seen : List Text) (attributes : List Attribute) :
    (repeated.go seen attributes).length +
      ((attributes.map (·.name)).toFinset \ seen.toFinset).card = attributes.length := by
  induction attributes generalizing seen with
  | nil => simp [repeated.go]
  | cons a rest ih =>
      rw [repeated.go, List.map_cons, List.toFinset_cons, List.length_cons]
      split
      next again =>
        rw [Finset.insert_sdiff_of_mem _ (List.mem_toFinset.2 again), List.length_cons, ← ih seen]
        omega
      next fresh =>
        have added : insert a.name (rest.map (·.name)).toFinset \ seen.toFinset =
            insert a.name ((rest.map (·.name)).toFinset \ (a.name :: seen).toFinset) := by
          ext name
          simp only [Finset.mem_sdiff, Finset.mem_insert, List.toFinset_cons, List.mem_toFinset]
          grind
        rw [added, Finset.card_insert_of_notMem (by simp), ← ih (a.name :: seen)]
        omega

/-- Each attribute repeats a name or is the first with its name. -/
theorem length_repeated (attributes : List Attribute) :
    (repeated attributes).length + (attributes.map (·.name)).toFinset.card =
      attributes.length := by
  have counted := length_repeated_go [] attributes
  rwa [List.toFinset_nil, Finset.sdiff_empty, ← repeated] at counted

end Attribute

/-! ### Reports -/

namespace Warning

/-- The name that is reported to be repeated. -/
def duplicateName? : Warning → Option Text
  | duplicateAttribute name => some name
  | _ => none

def duplicateNames (warnings : List Warning) : List Text :=
  warnings.filterMap duplicateName?

theorem duplicateName?_of_isAboutAttributes {w : Warning} (about : w.isAboutAttributes = true) :
    w.duplicateName? = none := by
  cases w with
  | duplicateAttribute name => exact absurd about Bool.false_ne_true
  | _ => rfl

end Warning

namespace Builder

open Warning

/-- Each repetition is reported when the element starts. -/
theorem Sound.duplicateNames_start {b : Builder} (sound : b.Sound) (settings : Settings)
    (d : Delimiters) (name : Text) (attributes : List Attribute) (isVoid : Bool) :
    duplicateNames (b.start settings d name attributes isVoid).2 =
      Attribute.repeated attributes := by
  have all : (Attribute.repeated attributes).filterMap
      (fun name => (duplicateAttribute name).duplicateName?) = Attribute.repeated attributes :=
    List.filterMap_some
  rw [duplicateNames, sound.filterMap_start settings d rfl fun _ => rfl,
    filterMap_makeElement (fun _ _ => rfl) fun _ => duplicateName?_of_isAboutAttributes, all]
  simp only [duplicateName?, Option.toList_none, ite_self, List.append_nil]

/-- What is settled about an element is what its start makes, and the warnings of the start stand at
its place. -/
theorem bare?_buildTemplate {settings : Settings} {d : Delimiters} (opening : d.opening ≠ [])
    (closing : d.closing ≠ []) {source : Text} {before : List Event} {name : Text}
    {attributes : List Attribute} {isVoid : Bool}
    (place : (before, .start name attributes isVoid) ∈
      places (events settings.dialect settings.expectHtml source)) :
    let b := (run settings d {} before).1
    (buildTemplate settings d source).1.template.bare? (starts before) =
        some (b.makeElement settings d name attributes).1.bare ∧
      (buildTemplate settings d source).2[before.length]? =
        some (b.start settings d name attributes isVoid).2 := by
  intro b
  have follows := (follows_empty settings d).run opening closing before
  obtain ⟨after, whole⟩ := exists_of_mem_places place
  rw [buildTemplate, whole]
  constructor
  · rw [run_append]
    have sound := follows.tracked.nested.sound.start settings d name attributes isVoid
    exact sound.bare?_run settings d (follows.bare?_start_last name attributes isVoid) after
  · exact run_warnings settings d {} before after (.start name attributes isVoid)

end Builder

namespace Annotations

theorem renderCall_table (attributes : List Attribute) :
    renderCall (Attribute.table attributes) = renderCall attributes := by
  simp only [renderCall, boundValue?, Attribute.lastValue?_table]

theorem renderWarnings_table (attributes : List Attribute) :
    renderWarnings (Attribute.table attributes) = renderWarnings attributes := by
  simp only [renderWarnings, renderCall_table, Attribute.lastValue?_table]

end Annotations

namespace Element

open Attribute

/-- The attributes of the element as written, its table and what was pending of them agree. The
element started outside of a raw region or inside one, and its start raised some warnings. -/
structure Tabled (settings : Settings) (d : Delimiters) (inRawRegion : Bool)
    (raised : List Warning) (e : Element) : Prop where
  table : IsTableOf (table e.attributes) e.attributes
  /-- There is a warning for each attribute whose name is not new. -/
  repeated : (Warning.duplicateNames raised).length +
    (e.attributes.map (·.name)).toFinset.card = e.attributes.length
  /-- A render call finds in the table what is written. -/
  render : Annotations.renderCall (Attribute.table e.attributes) =
      Annotations.renderCall e.attributes ∧
    Annotations.renderWarnings (Attribute.table e.attributes) =
      Annotations.renderWarnings e.attributes
  /-- What the attributes mean is settled by a sequence of claims. -/
  annotated : ((Claiming.reading settings.dialect d e.tag e.attributes inRawRegion).run
    e.attributes).1.1 = e.toAnnotations
  /-- At each point of it no name is left that has been claimed. -/
  pending : ∀ point ∈ (Claiming.reading settings.dialect d e.tag e.attributes
    inRawRegion).points (.first e.attributes), point.Agrees e.attributes
  /-- There a claim takes what the table has, unless it was taken before, and what it leaves stays
  in its order. -/
  claim : ∀ point ∈ (Claiming.reading settings.dialect d e.tag e.attributes
    inRawRegion).points (.first e.attributes), ∀ name,
      point.left.claim name =
        (if name ∈ point.claimed then none else firstValue? name (Attribute.table e.attributes),
          point.left.filter (·.name ≠ name))

end Element

/-- An element that is made with some attributes is tabled. -/
theorem Builder.tabled_start {b : Builder} (sound : b.Sound) (settings : Settings) (d : Delimiters)
    (name : Text) (attributes : List Attribute) (isVoid : Bool) {e : Element}
    (settled : e.bare = (b.makeElement settings d name attributes).1.bare) :
    e.attributes = attributes ∧ e.Tabled settings d b.inRawRegion
      (b.start settings d name attributes isVoid).2 := by
  have written : e.attributes = attributes := congrArg Element.attributes settled
  have tag : e.tag = (canonicalTag name).1 := congrArg Element.tag settled
  have annotations : e.toAnnotations = (Annotations.ofAttributes settings.dialect d
      (canonicalTag name).1 attributes b.inRawRegion).1 :=
    congrArg Element.toAnnotations settled
  have agrees := Claiming.agrees_of_mem_points
    (Claiming.reading settings.dialect d e.tag e.attributes b.inRawRegion)
    (Claiming.Point.Agrees.first e.attributes)
  refine ⟨written, Attribute.isTableOf_table _, ?_,
    ⟨Annotations.renderCall_table _, Annotations.renderWarnings_table _⟩, ?_, agrees, ?_⟩
  · rw [sound.duplicateNames_start, written, Attribute.length_repeated]
  · rw [Claiming.run_reading, annotations, written, tag]
  · intro point member name
    exact Prod.ext ((agrees point member).claim_fst name) rfl

/-- Whatever the source and the settings, the table of an element, the reports of repeated
attributes and the claims of its directives agree with the attributes as written. -/
theorem parse_tabled (settings : Settings) (source : Text) :
    ParsesWith settings source fun d parsed =>
      parsed.warnings = (buildTemplate settings d source).2.flatten ∧
      ∀ id e, parsed.template.get? id = some e →
        ∃ before name isVoid raised,
          (before, .start name e.attributes isVoid) ∈
            places (events settings.dialect settings.expectHtml source) ∧
          starts before = id ∧
          (buildTemplate settings d source).2[before.length]? = some raised ∧
          e.Tabled settings d (Builder.run settings d {} before).1.inRawRegion raised := by
  apply parsesWith_of_build
  intro d opening closing
  refine ⟨rfl, ?_⟩
  intro id e found
  have follows := (Builder.follows_empty settings d).run opening closing
    (events settings.dialect settings.expectHtml source)
  have started : id < starts (events settings.dialect settings.expectHtml source) := by
    rw [← List.nil_append (events _ _ _), ← follows.size]
    exact Template.get?_lt found
  obtain ⟨before, name, attributes, isVoid, place, rfl⟩ := exists_place_of_lt started
  obtain ⟨made, raised⟩ := Builder.bare?_buildTemplate opening closing place
  have settled : e.bare = ((Builder.run settings d {} before).1.makeElement settings d name
      attributes).1.bare := by
    rw [Template.bare?, found, Option.map_some] at made
    exact Option.some.inj made
  have sound := ((Builder.follows_empty settings d).run opening closing before).tracked.nested.sound
  obtain ⟨rfl, tabled⟩ := Builder.tabled_start sound settings d name attributes isVoid settled
  exact ⟨before, name, isVoid, _, place, rfl, raised, tabled⟩

/-- The second value of `id` stands in the table, and the repetition is reported. -/
example : (parse {} "<p id=\"a\" :is=\"b\" id=\"c\"></p>".toList).toOption.map (fun parsed =>
      (parsed.warnings, (parsed.template.get? 0).map fun e => Attribute.table e.attributes)) =
    some ([.duplicateAttribute "id".toList],
      some [⟨":is".toList, ['b']⟩, ⟨"id".toList, ['c']⟩]) := by
  decide +kernel

end TemplateMarkup
