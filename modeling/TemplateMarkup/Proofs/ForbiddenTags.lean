import TemplateMarkup.Proofs.DirectReading
import TemplateMarkup.Proofs.ElementWarnings
import TemplateMarkup.Proofs.ElseBranches

/-!
# Forbidden tags

Style sheets, and scripts that are not data, are parsed but nothing links to them, and each of them
is reported. Who reads the source knows them by their names in lowercase. A template knows them by
their tags, and a name in camelCase is hyphenated before it becomes a tag. So a tag with side
effects is forbidden in all spellings but those in camelCase: what the source has as a script is
an ordinary element then.
-/

namespace TemplateMarkup

open Text Event

/-! ### Hyphenated names -/

namespace Text

theorem hyphen_mem_splitHumps {s : Text} (camel : isCamelCase s = true) : '-' ∈ splitHumps s := by
  fun_induction splitHumps s with
  | case1 a b s hump ih => simp
  | case2 a b s noHump ih =>
      have later : isCamelCase (b :: s) = true := by simpa [isCamelCase, noHump] using camel
      exact List.mem_cons_of_mem a (ih later)
  | case3 s short =>
      rw [isCamelCase] at camel
      · exact absurd camel Bool.false_ne_true
      · exact short

theorem hyphen_mem_toLowerAfter {s : Text} (written : '-' ∈ s) (before : Text) :
    '-' ∈ toLowerAfter before s := by
  induction s generalizing before with
  | nil => exact absurd written List.not_mem_nil
  | cons c s ih =>
      rw [toLowerAfter]
      rcases List.mem_cons.1 written with rfl | later
      · apply List.mem_append_left
        rw [if_neg (by decide), if_neg (by decide)]
        exact List.mem_singleton.2 (by decide)
      · exact List.mem_append_right _ (ih later _)

end Text

/-! ### Names with side effects -/

/-- The name with these attributes, read without regard to case, is that of a style sheet or of a
script that runs. -/
def HasSideEffects (name : Text) (attributes : List Attribute) : Prop :=
  toLowerAscii name = "style".toList ∨
    toLowerAscii name = "script".toList ∧
      ∀ type, Attribute.lastValue? "type".toList attributes = some type →
        type = [] ∨ type = "text/javascript".toList

namespace Builder

theorem isForbidden_iff {tag : Text} {attributes : List Attribute} :
    isForbidden tag attributes = true ↔
      tag = "style".toList ∨
        tag = "script".toList ∧
          ∀ type, Attribute.lastValue? "type".toList attributes = some type →
            type = [] ∨ type = "text/javascript".toList := by
  rw [isForbidden]
  cases Attribute.lastValue? "type".toList attributes with
  | none =>
      simp only [Bool.or_eq_true, Bool.and_eq_true, decide_eq_true_eq, reduceCtorEq, false_implies,
        implies_true]
  | some type =>
      simp only [Bool.or_eq_true, Bool.and_eq_true, decide_eq_true_eq, Option.some.injEq,
        forall_eq']

/-- The tag of a name in camelCase has a hyphen. -/
theorem hyphen_mem_canonicalTag {name : Text} (camel : isCamelCase name = true) :
    '-' ∈ (canonicalTag name).1 := by
  rw [canonicalTag, if_pos camel]
  exact List.mem_map.2 ⟨'-', hyphen_mem_toLowerAfter (hyphen_mem_splitHumps camel) [], rfl⟩

/-- The tags with side effects are those of the names with side effects, but for camelCase. -/
theorem isForbidden_canonicalTag (name : Text) (attributes : List Attribute) :
    isForbidden (canonicalTag name).1 attributes = true ↔
      HasSideEffects name attributes ∧ isCamelCase name = false := by
  rw [isForbidden_iff]
  cases camel : isCamelCase name with
  | true =>
      have hyphen := hyphen_mem_canonicalTag camel
      have noStyle : (canonicalTag name).1 ≠ "style".toList := by
        intro same
        rw [same] at hyphen
        exact absurd hyphen (by decide)
      have noScript : (canonicalTag name).1 ≠ "script".toList := by
        intro same
        rw [same] at hyphen
        exact absurd hyphen (by decide)
      simp only [noStyle, noScript, false_and, or_self, Bool.true_eq_false, and_false]
  | false => simp [canonicalTag, camel, HasSideEffects]

end Builder

/-! ### Reports -/

namespace Warning

/-- The tag that is reported to have side effects. -/
def forbiddenTag? : Warning → Option Text
  | forbiddenTag tag => some tag
  | _ => none

def forbiddenTags (warnings : List Warning) : List Text :=
  warnings.filterMap forbiddenTag?

theorem forbiddenTag?_of_isAboutAttributes {w : Warning} (about : w.isAboutAttributes = true) :
    w.forbiddenTag? = none := by
  cases w with
  | forbiddenTag tag => exact absurd about Bool.false_ne_true
  | _ => rfl

end Warning

namespace Template

open Warning

/-- The elements to which nothing links because of their tags. -/
def forbiddenIds (t : Template) : List Nat :=
  (List.range t.size).filter fun id => (t.get? id).any (·.forbidden)

variable {t t' : Template} {e : Element} {id : Nat}

theorem mem_forbiddenIds : id ∈ t.forbiddenIds ↔ ∃ e, t.get? id = some e ∧ e.forbidden = true := by
  simp only [forbiddenIds, List.mem_filter, List.mem_range, Option.any_eq_true]
  exact ⟨fun member => member.2, fun found => ⟨get?_lt found.choose_spec.1, found⟩⟩

theorem forbiddenIds_withoutText (t : Template) :
    t.withoutText.forbiddenIds.map t.withoutText.tag? = t.forbiddenIds.map t.tag? := by
  rw [tag?_withoutText, forbiddenIds, size_withoutText]
  congr 1
  exact List.filter_congr fun i _ => t.any_get?_withoutText i fun _ => rfl

theorem Grows.forbiddenTags (grows : t.Grows t' e) :
    t'.forbiddenIds.map t'.tag? =
      t.forbiddenIds.map t.tag? ++ if e.forbidden then [some e.tag] else [] := by
  have more : t'.forbiddenIds = t.forbiddenIds ++ if e.forbidden then [t.size] else [] :=
    grows.filter_range fun _ => rfl
  rw [more, List.map_append]
  congr 1
  · apply List.map_congr_left
    intro i member
    obtain ⟨e', found, -⟩ := mem_forbiddenIds.1 member
    rw [grows.tag?, if_neg (Nat.ne_of_lt (get?_lt found))]
  · split
    · simp [grows.tag?]
    · rfl

/-- Nothing links to a forbidden element. -/
theorem Linked.notMem_links (linked : t.Linked) (forbidden : id ∈ t.forbiddenIds) :
    id ∉ t.links := by
  obtain ⟨e, found, isForbidden⟩ := mem_forbiddenIds.1 forbidden
  intro member
  obtain ⟨x, -, link⟩ := List.mem_flatMap.1 member
  rcases List.mem_append.1 link with isChild | isBranch
  · obtain ⟨e', found', -, allowed, -⟩ := linked.child isChild
    obtain rfl := Option.some.inj (found.symm.trans found')
    simp [allowed] at isForbidden
  · obtain ⟨-, ey, -, -, found', -, allowed, -⟩ := linked.branch (Option.mem_toList.1 isBranch)
    obtain rfl := Option.some.inj (found.symm.trans found')
    simp [allowed] at isForbidden

/-- What becomes of the elements with side effects among those that the events start. -/
structure LeavesOut (t : Template) (events : List Event) (warnings : List Warning) : Prop where
  /-- There is one element for each start. -/
  size : t.size = starts events
  /-- An element is forbidden if its name has side effects in any case, and is not in camelCase. -/
  forbidden_iff : ∀ before name attributes isVoid,
    (before, .start name attributes isVoid) ∈ places events →
    ∃ e, t.get? (starts before) = some e ∧
      (e.forbidden = true ↔ HasSideEffects name attributes ∧ isCamelCase name = false)
  /-- There is a warning for each forbidden element, in order. -/
  warned : (forbiddenTags warnings).map some = t.forbiddenIds.map t.tag?
  /-- No forbidden element is a child or an else branch. -/
  unlinked : ∀ id ∈ t.forbiddenIds, id ∉ t.links

end Template

/-! ### Building -/

namespace Builder

open Template Warning

/-- So far, there is a warning for each forbidden element. -/
structure Forbids (b : Builder) (warnings : List Warning) : Prop where
  sound : b.Sound
  warned : (forbiddenTags warnings).map some = b.template.forbiddenIds.map b.template.tag?

namespace Forbids

variable {b : Builder} {warnings : List Warning} (forbids : b.Forbids warnings)
variable (settings : Settings) (d : Delimiters)

include forbids

/-- The new warnings are about no tag with side effects, and no element starts. -/
theorem of_withoutText {b' : Builder} {new : List Warning} (sound : b'.Sound)
    (same : b'.template.withoutText = b.template.withoutText)
    (others : ∀ w ∈ new, w.forbiddenTag? = none) : b'.Forbids (warnings ++ new) where
  sound := sound
  warned := by
    rw [forbiddenTags, List.filterMap_append, List.filterMap_eq_nil_iff.2 others, List.append_nil,
      ← forbiddenTags, forbids.warned, ← forbiddenIds_withoutText, ← same,
      forbiddenIds_withoutText]

omit forbids in
/-- An element that is forbidden is reported when it starts. -/
theorem forbiddenTags_start (sound : b.Sound) (name : Text) (attributes : List Attribute)
    (isVoid : Bool) :
    let e := (b.makeElement settings d name attributes).1
    forbiddenTags (b.start settings d name attributes isVoid).2 =
      if e.forbidden then [e.tag] else [] := by
  have noneRepeated : (Attribute.repeated attributes).filterMap
      (fun name => (duplicateAttribute name).forbiddenTag?) = [] :=
    List.filterMap_eq_nil_iff.2 fun _ _ => rfl
  rw [forbiddenTags, sound.filterMap_start settings d rfl fun _ => rfl,
    filterMap_makeElement (fun _ _ => rfl) fun _ => forbiddenTag?_of_isAboutAttributes,
    noneRepeated]
  rfl

theorem start (name : Text) (attributes : List Attribute) (isVoid : Bool) :
    let started := b.start settings d name attributes isVoid
    started.1.Forbids (warnings ++ started.2) := by
  have sound := forbids.sound
  have grows := (sound.grows_start settings d name attributes isVoid).1
  refine ⟨sound.start settings d name attributes isVoid, ?_⟩
  rw [forbiddenTags, List.filterMap_append, ← forbiddenTags, ← forbiddenTags,
    forbiddenTags_start settings d sound, grows.forbiddenTags, ← forbids.warned, List.map_append]
  congr 1
  split <;> rfl

theorem step (event : Event) :
    (b.step settings d event).1.Forbids (warnings ++ (b.step settings d event).2) := by
  have sound := forbids.sound.step settings d event
  cases event with
  | start name attributes isVoid => exact forbids.start settings d name attributes isVoid
  | finish tag =>
      exact forbids.of_withoutText sound (withoutText_finish b) (by simp [Builder.step])
  | text content =>
      refine forbids.of_withoutText sound (withoutText_text settings d b content) ?_
      intro w member
      obtain ⟨outside, rfl⟩ := text_warnings settings d b content w member
      rfl
  | unmatchedEnd tag =>
      exact forbids.of_withoutText sound rfl (by simp [Builder.step, forbiddenTag?])

end Forbids

theorem forbids_empty : ({} : Builder).Forbids [] where
  sound := sound_empty
  warned := rfl

end Builder

/-- Whatever the source and the settings, exactly the elements with side effects that are not
written in camelCase are forbidden; each of them is reported, and nothing links to it. -/
theorem parse_leavesOut (settings : Settings) (source : Text) :
    ParsesWith settings source fun _ parsed =>
      parsed.template.LeavesOut (events settings.dialect settings.expectHtml source)
        parsed.warnings := by
  apply parsesWith_of_build
  intro d opening closing
  have follows := (Builder.follows_empty settings d).run opening closing
    (events settings.dialect settings.expectHtml source)
  have forbids : (buildTemplate settings d source).1.Forbids
      (buildTemplate settings d source).2.flatten :=
    Builder.run_preserves (P := Builder.Forbids)
      (fun b warnings event forbids => forbids.step settings d event) _ Builder.forbids_empty
  have every : (buildTemplate settings d source).1.template.Every fun e =>
      e.forbidden = Builder.isForbidden e.tag e.attributes :=
    Builder.every_buildTemplate (fun _ _ _ => rfl) source
  refine ⟨follows.size, ?_, forbids.warned, fun id => forbids.sound.linked.notMem_links⟩
  intro before name attributes isVoid place
  obtain ⟨e, found, tag, written, -⟩ := follows.element before name attributes isVoid place
  have forbidden := every _ e found
  obtain ⟨e', there, rfl⟩ := Option.map_eq_some_iff.1 found
  refine ⟨e', there, ?_⟩
  rw [← Builder.isForbidden_canonicalTag, ← tag, ← written, ← forbidden]
  rfl

/-- Not every script is forbidden, whatever the case of its name: in camelCase it gets another
tag. -/
theorem not_parse_forbids_camelCase :
    ¬ ∀ source, ParsesWith {} source fun _ parsed =>
      ∀ before name attributes isVoid,
        (before, .start name attributes isVoid) ∈ places (events .web true source) →
        HasSideEffects name attributes →
        ∃ e, parsed.template.get? (starts before) = some e ∧ e.forbidden = true := by
  intro always
  have place : ([.start "div".toList [] false], .start "sCript".toList [] false) ∈
      places (events .web true "<div><sCript>alert(1)</sCript></div>".toList) := by
    decide +kernel
  have sideEffects : HasSideEffects "sCript".toList [] := by
    refine .inr ⟨by decide, ?_⟩
    intro type written
    simp [Attribute.lastValue?, Attribute.firstValue?] at written
  have evaluated : (parse {} "<div><sCript>alert(1)</sCript></div>".toList).toOption.map
      (fun parsed => (parsed.template.get? 1).map (·.forbidden)) = some (some false) := by
    decide +kernel
  obtain ⟨parsed, succeeds, forbidden⟩ := always "<div><sCript>alert(1)</sCript></div>".toList
  obtain ⟨e, found, isForbidden⟩ := forbidden _ _ _ _ place sideEffects
  have second : starts [.start "div".toList [] false] = 1 := by decide
  rw [second] at found
  rw [succeeds, Except.toOption, Option.map_some, found, Option.map_some, isForbidden] at evaluated
  exact absurd evaluated (by decide)

end TemplateMarkup
