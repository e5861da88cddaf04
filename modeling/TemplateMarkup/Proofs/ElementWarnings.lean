import TemplateMarkup.Template.Builder

/-!
# Warnings about one element

The name and the attributes of an element can be warned about, whatever stands around it. All other
warnings are about where something stands. Making an element yields warnings of the first sort only,
so each of the others is raised in one place; and what its attributes mean yields warnings about the
attributes only, so the name is judged in one place as well.
-/

namespace TemplateMarkup

namespace Warning

/-- The warning is about what the attributes of an element mean. -/
def isAboutAttributes : Warning → Bool
  | invalidLoop _ => true
  | renderMethodStatic => true
  | renderMethodMissing => true
  | renderArgsStatic => true
  | interpolationInAttribute _ _ => true
  | _ => false

/-- The warning is about the name or the attributes of an element. -/
def isAboutElement : Warning → Bool
  | camelCaseTag _ _ => true
  | duplicateAttribute _ => true
  | forbiddenTag _ => true
  | w => w.isAboutAttributes

def All (sort : Warning → Bool) (warnings : List Warning) : Prop :=
  ∀ w ∈ warnings, sort w = true

abbrev AllAboutElement (warnings : List Warning) : Prop :=
  All isAboutElement warnings

abbrev AllAboutAttributes (warnings : List Warning) : Prop :=
  All isAboutAttributes warnings

namespace All

variable {sort : Warning → Bool} {ws ws' : List Warning}

@[simp] theorem nil : All sort [] := by
  simp [All]

@[simp] theorem append : All sort (ws ++ ws') ↔ All sort ws ∧ All sort ws' :=
  List.forall_mem_append

theorem singleton {w : Warning} (ofSort : sort w = true) : All sort [w] := by
  simpa [All] using ofSort

theorem flatMap {α : Type} {items : List α} {warn : α → List Warning}
    (each : ∀ item, All sort (warn item)) : All sort (items.flatMap warn) := by
  intro w member
  obtain ⟨item, -, member⟩ := List.mem_flatMap.1 member
  exact each item w member

/-- What is selected from warnings of other sorts only is not there. -/
theorem filterMap_eq_nil {α : Type} {select : Warning → Option α} (all : All sort ws)
    (others : ∀ w, sort w = true → select w = none) : ws.filterMap select = [] :=
  List.filterMap_eq_nil_iff.2 fun w member => others w (all w member)

/-- A warning of another sort is not counted. -/
theorem count_eq_zero {w : Warning} (all : All sort ws) (other : sort w = false) :
    ws.count w = 0 := by
  rw [List.count_eq_zero]
  intro member
  rw [all w member] at other
  exact absurd other.symm Bool.false_ne_true

end All

theorem AllAboutAttributes.aboutElement {ws : List Warning} (about : AllAboutAttributes ws) :
    AllAboutElement ws := by
  intro w member
  have aboutAttributes := about w member
  cases w with
  | camelCaseTag _ _ => rfl
  | duplicateAttribute _ => rfl
  | forbiddenTag _ => rfl
  | _ => exact aboutAttributes

end Warning

open Warning

namespace Annotations

theorem about_spanWarnings (d : Delimiters) (name value : Text) :
    AllAboutAttributes (spanWarnings d name value) := by
  rw [spanWarnings]
  split
  · exact .singleton rfl
  · exact .nil

theorem about_claimLoop (p : Pending) : AllAboutAttributes (claimLoop p).2.1 := by
  rw [claimLoop]
  split
  · exact .nil
  · split
    · exact .singleton rfl
    · exact .nil

theorem about_renderWarnings (attributes : List Attribute) :
    AllAboutAttributes (renderWarnings attributes) := by
  rw [renderWarnings]
  refine All.append.2 ⟨?_, ?_⟩
  · split
    · exact .singleton rfl
    · split
      · exact .singleton rfl
      · exact .nil
  · split
    · exact .singleton rfl
    · exact .nil

theorem about_resolve (dialect : Dialect) (d : Delimiters) (tag : Text)
    (attributes : List Attribute) (p : Pending) :
    AllAboutAttributes (resolve dialect d tag attributes p).2 := by
  rw [resolve]
  simp only [All.append]
  refine ⟨⟨⟨about_claimLoop p, ?_⟩, ?_⟩, ?_⟩
  · split
    · exact about_renderWarnings attributes
    · exact .nil
  · split
    · exact .nil
    · exact about_spanWarnings d _ _
  · exact .flatMap fun a => about_spanWarnings d a.name a.value

theorem about_ofAttributes (dialect : Dialect) (d : Delimiters) (tag : Text)
    (attributes : List Attribute) (inRawRegion : Bool) :
    AllAboutAttributes (ofAttributes dialect d tag attributes inRawRegion).2 := by
  rw [ofAttributes]
  split
  · exact .nil
  · split
    · exact .nil
    · exact about_resolve dialect d tag attributes _

end Annotations

namespace Builder

theorem about_canonicalTag (name : Text) : AllAboutElement (canonicalTag name).2 := by
  rw [canonicalTag]
  split
  · exact .singleton rfl
  · exact .nil

/-- Making an element yields warnings about that element only. -/
theorem about_makeElement (settings : Settings) (d : Delimiters) (name : Text)
    (attributes : List Attribute) (b : Builder) :
    AllAboutElement (b.makeElement settings d name attributes).2 := by
  rw [makeElement]
  simp only [All.append]
  refine ⟨⟨⟨about_canonicalTag name, ?_⟩, ?_⟩, ?_⟩
  · intro w member
    obtain ⟨name, -, rfl⟩ := List.mem_map.1 member
    rfl
  · split
    · exact .singleton rfl
    · exact .nil
  · exact (Annotations.about_ofAttributes settings.dialect d _ attributes _).aboutElement

/-- What is selected from the warnings about a new element, if it is neither about camelCase nor
about what the attributes mean: repetitions, and a tag with side effects. -/
theorem filterMap_makeElement {α : Type} {select : Warning → Option α}
    (noCamelCase : ∀ tag hyphenated, select (.camelCaseTag tag hyphenated) = none)
    (noMeaning : ∀ w, w.isAboutAttributes = true → select w = none) (settings : Settings)
    (d : Delimiters) (name : Text) (attributes : List Attribute) (b : Builder) :
    let made := b.makeElement settings d name attributes
    made.2.filterMap select =
      (Attribute.repeated attributes).filterMap (fun name => select (.duplicateAttribute name)) ++
        if made.1.forbidden then (select (.forbiddenTag made.1.tag)).toList else [] := by
  have ofName : (canonicalTag name).2.filterMap select = [] := by
    rw [canonicalTag]
    split
    · exact List.filterMap_cons_none (noCamelCase name _)
    · rfl
  have ofTag : ∀ (forbidden : Bool) (tag : Text),
      (if forbidden then [.forbiddenTag tag] else []).filterMap select =
        if forbidden then (select (.forbiddenTag tag)).toList else [] := by
    intro forbidden tag
    split
    · rw [List.filterMap_cons]
      cases select (.forbiddenTag tag) <;> rfl
    · rfl
  have ofAttributes := (Annotations.about_ofAttributes settings.dialect d (canonicalTag name).1
    attributes b.inRawRegion).filterMap_eq_nil noMeaning
  simp only [makeElement, List.filterMap_append, ofName, ofTag, ofAttributes, List.filterMap_map,
    List.nil_append, List.append_nil]
  rfl

end Builder

end TemplateMarkup
