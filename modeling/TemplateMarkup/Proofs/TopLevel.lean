import Mathlib.Data.List.TakeWhile
import TemplateMarkup.Proofs.DirectReading
import TemplateMarkup.Proofs.ElementWarnings

/-!
# The top level

A template has one root, and there is no place for text beside it. What the source has at the top
besides is reported and otherwise passed over: a second element once, however many there are, and
text once, by its first run that is not only blanks. Elements get to the top in many ways, written
or supplied, forbidden or void, and the builder keeps two bits only. That the bits are right is
shown by comparing them with lists that say what there is at the top, `topIds` in the template and
`textsOutside` in the events.
-/

namespace TemplateMarkup

open Text Event

theorem Text.trim_eq_nil_iff {s : Text} : s.trim = [] ↔ s.isAllBlank = true := by
  rw [trim, trimBoth, trimEnd, List.reverse_eq_nil_iff, List.dropWhile_eq_nil_iff, isAllBlank,
    List.all_eq_true]
  simp only [List.mem_reverse]
  constructor
  · intro rest c member
    rw [← s.takeWhile_append_dropWhile (p := isBlank)] at member
    rcases List.mem_append.1 member with front | behind
    · exact List.mem_takeWhile_imp front
    · exact rest c behind
  · intro all c member
    exact all c ((List.dropWhile_sublist isBlank).subset member)

namespace Warning

/-- The text that is reported to stand outside of all elements. -/
def outsideText? : Warning → Option Text
  | contentOutsideElement content => some content
  | _ => none

def outsideTexts (warnings : List Warning) : List Text :=
  warnings.filterMap outsideText?

theorem AllAboutElement.outsideTexts_eq_nil {ws : List Warning} (about : AllAboutElement ws) :
    outsideTexts ws = [] := by
  apply about.filterMap_eq_nil
  intro w aboutElement
  cases w with
  | contentOutsideElement content => exact absurd aboutElement Bool.false_ne_true
  | _ => rfl

end Warning

namespace Event

/-- The runs of text where no element is open, those of blanks left out, without the blanks around
them. -/
def textsOutside (events : List Event) : List Text :=
  (places events).filterMap fun
    | (before, .text s) =>
      if openStarts before = [] ∧ s.isAllBlank = false then some s.trim else none
    | _ => none

theorem textsOutside_concat (done : List Event) (event : Event) :
    textsOutside (done ++ [event]) =
      textsOutside done ++
        match event with
        | .text s => if openStarts done = [] ∧ s.isAllBlank = false then [s.trim] else []
        | _ => [] := by
  rw [textsOutside, places_concat, List.filterMap_append, ← textsOutside]
  congr 1
  cases event with
  | text s =>
      dsimp only
      split
      next outside => simp [outside]
      next inside => simp [inside]
  | _ => rfl

end Event

namespace Template

open Warning

/-- The elements that stand in no other. -/
def topIds (t : Template) : List Nat :=
  (List.range t.size).filter fun id => (t.get? id).any (·.parent.isNone)

variable {t t' : Template} {e : Element}

theorem topIds_of_withoutText (same : t'.withoutText = t.withoutText) : t'.topIds = t.topIds := by
  have viewed : ∀ t : Template, t.withoutText.topIds = t.topIds := by
    intro t
    rw [topIds, size_withoutText]
    exact List.filter_congr fun i _ => t.any_get?_withoutText i fun _ => rfl
  rw [← viewed t', same, viewed t]

theorem Grows.topIds (grows : t.Grows t' e) :
    t'.topIds = t.topIds ++ if e.parent.isNone then [t.size] else [] :=
  grows.filter_range fun _ => rfl

/-- If there is a root, it stands in no other element. -/
theorem Linked.isEmpty_topIds (linked : t.Linked) : t.topIds.isEmpty = t.root.isNone := by
  rw [linked.root]
  split
  next empty => rw [Template.topIds, empty]; rfl
  next nonempty =>
    obtain ⟨e, found⟩ := exists_get?_of_lt (Nat.pos_of_ne_zero nonempty)
    have atTop : e.parent = none := by
      rw [Option.eq_none_iff_forall_ne_some]
      intro p within
      have before := linked.parent_lt 0 p (by rw [parent?, found, Option.bind_some, within])
      exact Nat.not_lt_zero p before
    have first : 0 ∈ t.topIds := by
      simp [Template.topIds, Nat.pos_of_ne_zero nonempty, found, atTop]
    exact List.isEmpty_eq_false_iff.2 (List.ne_nil_of_mem first)

/-- With another element at the top there are several if there is a root. -/
theorem Linked.two_le_topIds_concat (linked : t.Linked) (id : Nat) :
    decide (2 ≤ (t.topIds ++ [id]).length) =
      (decide (2 ≤ t.topIds.length) || t.root.isSome) := by
  have empty := linked.isEmpty_topIds
  rw [← Option.not_isNone, ← empty]
  cases t.topIds with
  | nil => rfl
  | cons first rest => simp

/-- What a parse says about the top of its template. -/
structure TopLevel (settings : Settings) (d : Delimiters) (events : List Event) (t : Template)
    (warnings : List Warning) : Prop where
  /-- There is one warning if there are several elements at the top, and none otherwise. -/
  roots : warnings.count .multipleRoots = if 2 ≤ t.topIds.length then 1 else 0
  /-- The first text outside of all elements is reported, if there is any, and no other. -/
  outside : outsideTexts warnings = (textsOutside events).head?.toList
  /-- The root is the first element, whatever else is at the top. -/
  root : t.root = if t.size = 0 then none else some 0
  /-- Text outside of all elements adds nothing to the template. -/
  ignored : ∀ before s after, events = before ++ .text s :: after → openStarts before = [] →
    (({} : Builder).run settings d (before ++ [.text s])).1.template =
      (({} : Builder).run settings d before).1.template

end Template

/-! ### Building -/

namespace Builder

open Template Warning

/-- A run of text outside of all elements leaves the template as it is. -/
theorem template_text_of_outside {b : Builder} (noneOpen : b.openIds = []) (settings : Settings)
    (d : Delimiters) (s : Text) : (b.text settings d s).1.template = b.template := by
  rw [text, noneOpen]
  dsimp only
  rw [textOutside]
  split <;> rfl

/-- What is known about the top is right, and reported once. -/
structure TopTracked (settings : Settings) (d : Delimiters) (done : List Event) (b : Builder)
    (warnings : List Warning) : Prop where
  follows : b.Follows settings d done
  rootsReported : b.rootsReported = decide (2 ≤ b.template.topIds.length)
  roots : warnings.count .multipleRoots = b.rootsReported.toNat
  outsideReported : b.outsideReported = !(textsOutside done).isEmpty
  outside : outsideTexts warnings = (textsOutside done).head?.toList

namespace TopTracked

variable {settings : Settings} {d : Delimiters} {done : List Event} {b : Builder}
variable {warnings : List Warning} (tracked : b.TopTracked settings d done warnings)

include tracked

/-- An event that starts nothing may tell of text outside and of nothing else. -/
theorem of_withoutText {b' : Builder} {event : Event} {new : List Warning}
    (follows : b'.Follows settings d (done ++ [event]))
    (same : b'.template.withoutText = b.template.withoutText)
    (sameReported : b'.rootsReported = b.rootsReported) (noRoots : new.count .multipleRoots = 0)
    (outsideReported : b'.outsideReported = !(textsOutside (done ++ [event])).isEmpty)
    (outside : outsideTexts (warnings ++ new) = (textsOutside (done ++ [event])).head?.toList) :
    b'.TopTracked settings d (done ++ [event]) (warnings ++ new) where
  follows := follows
  rootsReported := by
    rw [sameReported, tracked.rootsReported, topIds_of_withoutText same]
  roots := by rw [List.count_append, noRoots, tracked.roots, sameReported, Nat.add_zero]
  outsideReported := outsideReported
  outside := outside

theorem text {s : Text}
    (follows : (b.text settings d s).1.Follows settings d (done ++ [.text s])) :
    (b.text settings d s).1.TopTracked settings d (done ++ [.text s])
      (warnings ++ (b.text settings d s).2) := by
  have openIds := tracked.follows.openIds
  have content : s.trim ≠ [] ↔ s.isAllBlank = false := by
    rw [Ne, trim_eq_nil_iff, Bool.not_eq_true]
  refine tracked.of_withoutText follows (withoutText_text settings d b s)
    (rootsReported_text settings d b s) ?_ ?_ ?_
  · rw [text_reports]
    split <;> rfl
  · rw [outsideReported_text, textsOutside_concat, tracked.outsideReported, openIds]
    simp only [content]
    by_cases isOutside : openStarts done = [] ∧ s.isAllBlank = false
    · simp [isOutside]
    · have noNews : ((openStarts done).isEmpty && decide (s.isAllBlank = false)) = false := by
        rw [Bool.eq_false_iff]
        intro news
        exact isOutside (by simpa using news)
      rw [noNews, if_neg isOutside, List.append_nil, Bool.or_false]
  · rw [outsideTexts, List.filterMap_append, ← outsideTexts, ← outsideTexts, text_reports,
      textsOutside_concat, tracked.outside, openIds, tracked.outsideReported]
    simp only [content]
    by_cases isOutside : openStarts done = [] ∧ s.isAllBlank = false
    · cases earlier : textsOutside done with
      | nil => simp [isOutside, outsideTexts, outsideText?]
      | cons first rest => simp [isOutside, outsideTexts]
    · rw [if_neg isOutside, if_neg fun news => isOutside ⟨news.1, news.2.1⟩, List.append_nil]
      exact List.append_nil _

theorem start {name : Text} {attributes : List Attribute} {isVoid : Bool}
    (follows : (b.start settings d name attributes isVoid).1.Follows settings d
      (done ++ [.start name attributes isVoid])) :
    let started := b.start settings d name attributes isVoid
    started.1.TopTracked settings d (done ++ [.start name attributes isVoid])
      (warnings ++ started.2) := by
  have sound := tracked.follows.tracked.nested.sound
  obtain ⟨grows, startWarnings⟩ := sound.grows_start settings d name attributes isVoid
  have about := b.about_makeElement settings d name attributes
  have parent := (b.makeElement_links settings d name attributes).1
  have nothing := textsOutside_concat done (.start name attributes isVoid)
  rw [List.append_nil] at nothing
  have stray : ∀ (homeless : Prop) [Decidable homeless] (tag : Text),
      let ws : List Warning := if homeless then [.elseWithoutIf tag] else []
      ws.count .multipleRoots = 0 ∧ outsideTexts ws = [] := by
    intro homeless _ tag
    dsimp only
    split <;> exact ⟨rfl, rfl⟩
  have added := b.addElement_reports (b.makeElement settings d name attributes).1
  refine ⟨follows, ?_, ?_, ?_, ?_⟩
  · rw [rootsReported_start, grows.topIds, tracked.rootsReported, parent]
    cases isOpen : b.openIds with
    | nil =>
        have several := sound.linked.two_le_topIds_concat b.template.size
        simpa using several.symm
    | cons id openIds => simp
  · rw [startWarnings, rootsReported_start, added]
    simp only [List.count_append, about.count_eq_zero (w := .multipleRoots) rfl, (stray _ _).1,
      tracked.roots]
    cases b.template.root <;> cases b.openIds <;> cases b.rootsReported <;> simp
  · rw [outsideReported_start, tracked.outsideReported, nothing]
  · have noneMade := about.outsideTexts_eq_nil
    have noneAdded :
        outsideTexts (b.addElement (b.makeElement settings d name attributes).1).2 = [] := by
      rw [added]
      split <;> rfl
    rw [startWarnings, nothing, ← tracked.outside]
    rw [outsideTexts] at noneMade noneAdded
    simp only [outsideTexts, List.filterMap_append, noneMade, noneAdded, List.append_nil]
    exact (List.append_right_eq_self).2 (stray _ _).2

theorem step (opening : d.opening ≠ []) (closing : d.closing ≠ []) (event : Event) :
    (b.step settings d event).1.TopTracked settings d (done ++ [event])
      (warnings ++ (b.step settings d event).2) := by
  have follows := tracked.follows.step opening closing event
  cases event with
  | start name attributes isVoid => exact tracked.start follows
  | finish tag =>
      refine tracked.of_withoutText follows (withoutText_finish b) (rootsReported_finish b) rfl
        ?_ ?_
      · rw [textsOutside_concat, List.append_nil, Builder.step, outsideReported_finish,
          tracked.outsideReported]
      · rw [textsOutside_concat, List.append_nil, Builder.step, List.append_nil, tracked.outside]
  | text s => exact tracked.text follows
  | unmatchedEnd tag =>
      refine tracked.of_withoutText follows rfl rfl rfl ?_ ?_
      · rw [textsOutside_concat, List.append_nil, Builder.step, tracked.outsideReported]
      · rw [textsOutside_concat, List.append_nil, Builder.step, outsideTexts,
          List.filterMap_append, ← outsideTexts, tracked.outside]
        exact List.append_nil _

/-- What the builder knows of the top is what the template and the events say of it. -/
theorem topLevel (opening : d.opening ≠ []) (closing : d.closing ≠ []) :
    b.template.TopLevel settings d done warnings where
  roots := by
    rw [tracked.roots, tracked.rootsReported]
    split
    next several => rw [decide_eq_true several, Bool.toNat_true]
    next single => rw [decide_eq_false single, Bool.toNat_false]
  outside := tracked.outside
  root := tracked.follows.tracked.nested.sound.linked.root
  ignored before s after place ended := by
    have follows := (follows_empty settings d).run opening closing before
    have noneOpen : (({} : Builder).run settings d before).1.openIds = [] := by
      rw [follows.openIds, List.nil_append, ended]
    rw [run_concat]
    exact template_text_of_outside noneOpen settings d s

end TopTracked

theorem topTracked_empty (settings : Settings) (d : Delimiters) :
    ({} : Builder).TopTracked settings d [] [] where
  follows := follows_empty settings d
  rootsReported := rfl
  roots := rfl
  outsideReported := rfl
  outside := rfl

end Builder

/-- Whatever the source and the settings, the warnings about the top of the template are exact. -/
theorem parse_topLevel (settings : Settings) (source : Text) :
    ParsesWith settings source fun d parsed =>
      parsed.template.TopLevel settings d (events settings.dialect settings.expectHtml source)
        parsed.warnings := by
  apply parsesWith_of_build
  intro d opening closing
  have tracked := Builder.run_preserves_after (P := Builder.TopTracked settings d)
    (fun _ _ _ event tracked => tracked.step opening closing event)
    (events settings.dialect settings.expectHtml source) [] []
    (Builder.topTracked_empty settings d)
  exact tracked.topLevel opening closing

/-- Of three texts and four elements at the top, the first text and the first surplus element are
reported. The elements include one that is forbidden and one that repairs a stray end tag. -/
example : (parse {} " <!-- --> a <p></p></br> b <style></style><i></i> c ".toList).toOption.map
    (fun p => (p.template.root, p.template.topIds, p.warnings)) =
    some (some 0, [0, 1, 2, 3],
      [.contentOutsideElement ['a'], .multipleRoots, .forbiddenTag "style".toList]) := by
  decide +kernel

end TemplateMarkup
