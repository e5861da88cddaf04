import TemplateMarkup.Proofs.DirectReading
import TemplateMarkup.Proofs.ElementWarnings
import TemplateMarkup.Proofs.Whitespace

/-!
# Splitting text

Delimiters decide where text is split into plain pieces and expressions, and nothing else. What a
text becomes is looked at again while a template is built: a space at the end of an element is
taken away, and a blank is kept only behind something. Neither depends on the delimiters, because a
single space is never an expression and text leaves a child whatever is found in it. Spans in
attributes are reported, but never split, so of the warnings only the reports of spans can differ.
-/

namespace TemplateMarkup

open Text

/-- The children are the same element, or what either delimiters make of the same text. -/
inductive Child.SplitAlike (d d' : Delimiters) (inRawRegion : Bool) : Child → Child → Prop
  | element (id : Nat) : SplitAlike d d' inRawRegion (.element id) (.element id)
  | text (s : Text) :
      SplitAlike d d' inRawRegion (Template.written d inRawRegion s)
        (Template.written d' inRawRegion s)

/-- The elements differ in how their text is split at most. -/
structure Element.SameButSplit (d d' : Delimiters) (e e' : Element) : Prop where
  fields : e' = { e with children := e'.children }
  children : List.Forall₂ (Child.SplitAlike d d' e.rawPassthrough) e.children e'.children

/-- The templates have the same elements up to how text is split. -/
structure Template.SameButSplit (d d' : Delimiters) (t t' : Template) : Prop where
  root : t'.root = t.root
  size : t'.size = t.size
  element : ∀ id e, t.get? id = some e →
    ∃ e', t'.get? id = some e' ∧ e.SameButSplit d d' e'

namespace Warning

def isSpanReport : Warning → Bool
  | interpolationInAttribute _ _ => true
  | _ => false

def withoutSpanReports (warnings : List Warning) : List Warning :=
  warnings.filter (!·.isSpanReport)

@[simp] theorem withoutSpanReports_append (ws ws' : List Warning) :
    withoutSpanReports (ws ++ ws') = withoutSpanReports ws ++ withoutSpanReports ws' :=
  List.filter_append ..

end Warning

open Warning

/-! ### Children -/

section Children

variable {d d' : Delimiters} {inRawRegion : Bool} {c c' : Child} {children children' : List Child}

theorem Child.SplitAlike.eq_space_iff (alike : c.SplitAlike d d' inRawRegion c') :
    c' = .space ↔ c = .space := by
  cases alike with
  | element id => rfl
  | text s =>
      have isSpace : ∀ d : Delimiters, Template.written d inRawRegion s = .space ↔ s = [' '] := by
        intro d
        rw [Builder.written_eq]
        refine ⟨Builder.eq_space_of_textChild, ?_⟩
        rintro rfl
        exact Builder.textChild_space d inRawRegion
      rw [isSpace d, isSpace d']

/-- A space at the end is taken away on both sides or on neither. -/
theorem forall₂_dropTrailingSpace
    (alike : List.Forall₂ (Child.SplitAlike d d' inRawRegion) children children') :
    List.Forall₂ (Child.SplitAlike d d' inRawRegion) (Builder.dropTrailingSpace children)
      (Builder.dropTrailingSpace children') := by
  have last : children'.getLast? = some .space ↔ children.getLast? = some .space := by
    induction alike with
    | nil => rfl
    | cons first rest ih =>
        cases rest with
        | nil => simpa using first.eq_space_iff
        | cons => simpa using ih
  have sameLength := alike.length_eq
  rw [Builder.dropTrailingSpace, Builder.dropTrailingSpace]
  change List.Forall₂ _ (if children.getLast? = some .space then _ else _)
    (if children'.getLast? = some .space then _ else _)
  simp only [last]
  split
  · rw [List.dropLast_eq_take, List.dropLast_eq_take, sameLength]
    exact List.forall₂_take _ alike
  · exact alike

end Children

/-! ### Attributes -/

namespace Annotations

variable (d d' : Delimiters)

theorem withoutSpanReports_spanWarnings (name value : Text) :
    withoutSpanReports (spanWarnings d name value) = [] := by
  rw [spanWarnings]
  split <;> rfl

theorem withoutSpanReports_flatMap (literal : List Attribute) :
    withoutSpanReports (literal.flatMap fun a => spanWarnings d a.name a.value) = [] := by
  rw [withoutSpanReports, List.filter_flatMap, List.flatMap_eq_nil_iff]
  exact fun a _ => withoutSpanReports_spanWarnings d a.name a.value

/-- What attributes mean does not depend on the delimiters, and of the warnings only the reports of
spans do. -/
theorem resolve_delimiters (dialect : Dialect) (tag : Text) (attributes : List Attribute)
    (p : Pending) :
    (resolve dialect d' tag attributes p).1 = (resolve dialect d tag attributes p).1 ∧
      withoutSpanReports (resolve dialect d' tag attributes p).2 =
        withoutSpanReports (resolve dialect d tag attributes p).2 := by
  refine ⟨by simp only [resolve], ?_⟩
  simp only [resolve, withoutSpanReports_append, withoutSpanReports_flatMap]
  congr 2
  split
  · rfl
  · rw [withoutSpanReports_spanWarnings, withoutSpanReports_spanWarnings]

theorem ofAttributes_delimiters (dialect : Dialect) (tag : Text) (attributes : List Attribute)
    (inRawRegion : Bool) :
    (ofAttributes dialect d' tag attributes inRawRegion).1 =
        (ofAttributes dialect d tag attributes inRawRegion).1 ∧
      withoutSpanReports (ofAttributes dialect d' tag attributes inRawRegion).2 =
        withoutSpanReports (ofAttributes dialect d tag attributes inRawRegion).2 := by
  rw [ofAttributes, ofAttributes]
  split
  · exact ⟨rfl, rfl⟩
  · split
    · exact ⟨rfl, rfl⟩
    · exact resolve_delimiters d d' dialect tag attributes _

end Annotations

/-! ### Two builders -/

namespace Builder

open Template

theorem makeElement_delimiters (settings : Settings) (d d' : Delimiters) (name : Text)
    (attributes : List Attribute) (b : Builder) :
    (b.makeElement settings d' name attributes).1 = (b.makeElement settings d name attributes).1 ∧
      withoutSpanReports (b.makeElement settings d' name attributes).2 =
        withoutSpanReports (b.makeElement settings d name attributes).2 := by
  obtain ⟨annotations, warnings⟩ := Annotations.ofAttributes_delimiters d d' settings.dialect
    (canonicalTag name).1 attributes b.inRawRegion
  refine ⟨?_, ?_⟩
  · simp only [makeElement, annotations]
  · simp only [makeElement, withoutSpanReports_append, warnings]

/-- What has started stays in its raw region, or out of one. -/
theorem isRaw_step {b : Builder} (sound : b.Sound) (settings : Settings) (d : Delimiters)
    (event : Event) {i : Nat} (started : i < b.template.size) :
    (b.step settings d event).1.template.isRaw i = b.template.isRaw i := by
  rw [isRaw_eq_bare, sound.bare?_step settings d event started, ← isRaw_eq_bare]

/-- The builders hold the same but for how text is split. -/
structure SplitApart (d d' : Delimiters) (b b' : Builder) : Prop where
  tracked : b.RawTracked d
  sound' : b'.Sound
  alike : b.Alike b'
  children : ∀ i, List.Forall₂ (Child.SplitAlike d d' (b.template.isRaw i))
    (b.template.content i) (b'.template.content i)

namespace SplitApart

variable {settings settings' : Settings} {d d' : Delimiters} {b b' : Builder}
variable (apart : b.SplitApart d d' b')

include apart

/-- What is held before an event is split alike for what is known after it. -/
theorem before (settings : Settings) (event : Event) (i : Nat) :
    List.Forall₂ (Child.SplitAlike d d' ((b.step settings d event).1.template.isRaw i))
      (b.template.content i) (b'.template.content i) := by
  by_cases started : i < b.template.size
  · rw [isRaw_step apart.tracked.nested.sound settings d event started]
    exact apart.children i
  · have outside := Nat.le_of_not_lt started
    rw [content_eq_nil _ _ outside, content_eq_nil _ _ (by rwa [apart.alike.size])]
    exact .nil

/-- Whether a blank is kept depends on whether there is something before it, which does not depend
on how that is split. -/
theorem keptText (dialect : settings'.dialect = settings.dialect)
    (blanks : settings'.preserveWhitespace = settings.preserveWhitespace) {i : Nat} {e : Element}
    (found : b.template.get? i = some e) (s : Text) :
    Builder.keptText settings' { e with children := b'.template.content i } s =
      Builder.keptText settings e s := by
  have sameLength := (apart.children i).length_eq
  have sameEmpty : (b'.template.content i).isEmpty = e.children.isEmpty := by
    rw [content_of_get? b.template found] at sameLength
    rw [Bool.eq_iff_iff, List.isEmpty_iff_length_eq_zero, List.isEmpty_iff_length_eq_zero,
      sameLength]
  simp only [Builder.keptText, dialect, blanks, sameEmpty]

variable (opening : d.opening ≠ []) (closing : d.closing ≠ [])

include opening closing

/-- Events that add what is split alike keep the builders so. -/
theorem of_appended (event : Event)
    (alike : (b.step settings d event).1.Alike (b'.step settings' d' event).1)
    (appended : ∀ i, ∃ more more',
      (b.step settings d event).1.template.content i = b.template.content i ++ more ∧
      (b'.step settings' d' event).1.template.content i = b'.template.content i ++ more' ∧
      List.Forall₂ (Child.SplitAlike d d' ((b.step settings d event).1.template.isRaw i))
        more more') :
    (b.step settings d event).1.SplitApart d d' (b'.step settings' d' event).1 where
  tracked := apart.tracked.step settings opening closing event
  sound' := apart.sound'.step settings' d' event
  alike := alike
  children i := by
    obtain ⟨more, more', content, content', split⟩ := appended i
    rw [content, content']
    exact List.rel_append (apart.before settings event i) split

theorem finish (tag : Text) :
    (b.step settings d (.finish tag)).1.SplitApart d d' (b'.step settings' d' (.finish tag)).1 where
  tracked := apart.tracked.step settings opening closing (.finish tag)
  sound' := apart.sound'.step settings' d' (.finish tag)
  alike := apart.alike.finish
  children i := by
    have held := apart.before settings (.finish tag) i
    rw [Builder.step, Builder.step, content_finish apart.tracked.nested.sound,
      content_finish apart.sound', apart.alike.openIds]
    split
    · exact forall₂_dropTrailingSpace held
    · exact held

variable (dialect : settings'.dialect = settings.dialect)

include dialect

theorem start (name : Text) (attributes : List Attribute) (isVoid : Bool) :
    (b.step settings d (.start name attributes isVoid)).1.SplitApart d d'
        (b'.step settings' d' (.start name attributes isVoid)).1 ∧
      withoutSpanReports (b'.step settings' d' (.start name attributes isVoid)).2 =
        withoutSpanReports (b.step settings d (.start name attributes isVoid)).2 := by
  -- First the builders are exchanged for the same delimiters, then the delimiters in one builder.
  have made' := apart.alike.makeElement settings settings' d' dialect name attributes
  obtain ⟨made, reports⟩ := makeElement_delimiters settings d d' name attributes b
  rw [← made'] at made reports
  obtain ⟨alike, linking, warnings, warnings'⟩ := apart.alike.start settings settings' d d'
    apart.tracked.nested.sound apart.sound' made isVoid
  refine ⟨apart.of_appended opening closing (.start name attributes isVoid) alike ?_, ?_⟩
  · intro i
    refine ⟨_, _, content_start apart.tracked.nested.sound settings d i name attributes isVoid,
      content_start apart.sound' settings' d' i name attributes isVoid, ?_⟩
    rw [made, apart.alike.size]
    split
    · exact .cons (.element _) .nil
    · exact .nil
  · rw [Builder.step, Builder.step, warnings, warnings', withoutSpanReports_append,
      withoutSpanReports_append, reports]

variable (blanks : settings'.preserveWhitespace = settings.preserveWhitespace)

include blanks

theorem text (s : Text) :
    (b.step settings d (.text s)).1.SplitApart d d' (b'.step settings' d' (.text s)).1 := by
  have sound := apart.tracked.nested.sound
  apply apart.of_appended opening closing (.text s) (apart.alike.text settings settings' d d' s)
  intro i
  refine apart.alike.text_appended settings settings' d d' sound apart.sound' s i .nil ?_
  intro e innermost found
  dsimp only
  rw [apart.keptText dialect blanks found,
    isRaw_step sound settings d (.text s) (get?_lt found),
    apart.tracked.isRaw_innermost innermost found]
  split
  · rw [← written_eq, ← written_eq]
    exact .cons (.text _) .nil
  · exact .nil

theorem step (event : Event) :
    (b.step settings d event).1.SplitApart d d' (b'.step settings' d' event).1 ∧
      withoutSpanReports (b'.step settings' d' event).2 =
        withoutSpanReports (b.step settings d event).2 := by
  cases event with
  | start name attributes isVoid =>
      exact apart.start opening closing dialect name attributes isVoid
  | finish tag => exact ⟨apart.finish opening closing tag, rfl⟩
  | text s =>
      refine ⟨apart.text opening closing dialect blanks s, ?_⟩
      rw [Builder.step, Builder.step, apart.alike.text_reports settings settings' d d']
  | unmatchedEnd tag => exact ⟨apart, rfl⟩

omit opening closing dialect blanks

theorem sameButSplit : b.template.SameButSplit d d' b'.template where
  root := root_of_withoutText apart.alike.template
  size := apart.alike.size
  element id e found := by
    have held := apart.children id
    rw [content_of_get? b.template found, isRaw, found] at held
    exact ⟨_, apart.alike.get?_of_get? found, rfl, held⟩

end SplitApart

theorem splitApart_empty (d d' : Delimiters) : ({} : Builder).SplitApart d d' {} where
  tracked := rawTracked_empty d
  sound' := sound_empty
  alike := ⟨rfl, rfl, rfl, rfl, rfl⟩
  children _ := .nil

/-- What delimiters decide while a list of events is built is how text is split. -/
theorem splitApart_run (settings settings' : Settings) {d : Delimiters} (d' : Delimiters)
    (opening : d.opening ≠ []) (closing : d.closing ≠ [])
    (dialect : settings'.dialect = settings.dialect)
    (blanks : settings'.preserveWhitespace = settings.preserveWhitespace) (events : List Event) :
    (({} : Builder).run settings d events).1.SplitApart d d'
        (({} : Builder).run settings' d' events).1 ∧
      withoutSpanReports (({} : Builder).run settings' d' events).2.flatten =
        withoutSpanReports (({} : Builder).run settings d events).2.flatten := by
  have begins : ({} : Builder).SplitApart d d' {} ∧
      withoutSpanReports [] = withoutSpanReports [] := ⟨splitApart_empty d d', rfl⟩
  refine run_preserves_both (P := fun b b' warnings warnings' =>
    b.SplitApart d d' b' ∧ withoutSpanReports warnings' = withoutSpanReports warnings)
    events ?_ begins
  rintro b b' warnings warnings' event ⟨apart, same⟩
  obtain ⟨step, sameStep⟩ := apart.step opening closing dialect blanks event
  refine ⟨step, ?_⟩
  rw [withoutSpanReports_append, withoutSpanReports_append, same, sameStep]

end Builder

/-- Whatever the source, other delimiters give the same elements but for how text is split, and the
same warnings but for the reports of spans in attributes. -/
theorem parse_sameButSplit (settings : Settings) (chosen chosen' : Option Delimiters)
    (source : Text) :
    ParsesWith { settings with delimiters := chosen } source fun d parsed =>
      ParsesWith { settings with delimiters := chosen' } source fun d' parsed' =>
        parsed.template.SameButSplit d d' parsed'.template ∧
          withoutSpanReports parsed'.warnings = withoutSpanReports parsed.warnings := by
  apply parsesWith_of_build
  intro d opening closing
  apply parsesWith_of_build
  intro d' _ _
  obtain ⟨apart, warnings⟩ := Builder.splitApart_run { settings with delimiters := chosen }
    { settings with delimiters := chosen' } d' opening closing rfl rfl
    (events settings.dialect settings.expectHtml source)
  exact ⟨apart.sameButSplit, warnings⟩

/-- A span of brackets is found in the attribute, and then there is none left in the text. -/
example :
    let read (delimiters : Option Delimiters) :=
      (parse { delimiters } "<p title=\"[a]\">\x7b\x7bb\x7d\x7d</p>".toList).toOption.map
        fun parsed => ((parsed.template.content 0).map Child.text?, parsed.warnings)
    read none = some ([none], []) ∧
      read (some ⟨['['], [']']⟩) =
        some ([some ['{', '{', 'b', '}', '}']],
          [.interpolationInAttribute "title".toList "[a]".toList]) := by
  decide +kernel

end TemplateMarkup
