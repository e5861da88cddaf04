import TemplateMarkup.Proofs.DirectReading
import TemplateMarkup.Proofs.Printing
import TemplateMarkup.Proofs.RawEnds
import TemplateMarkup.Proofs.Whitespace

/-!
# Verbatim text

In preformatted and raw text, blanks are content. What a run of text adds to such an element does
not depend on what the element holds by then: it is one entry, the text as it is or split at its
spans. The end of an element makes no such difference. It takes away a single space at the end of
any element, so verbatim text that is a single space is lost if nothing comes behind it. No other
text is.
-/

namespace TemplateMarkup

open Text Event

namespace Template

/-- What places right inside an element with this tag add to it, each by itself. -/
def added (settings : Settings) (d : Delimiters) (t : Template) (tag : Text)
    (places : List (List Event × Event)) : List Child :=
  places.flatMap (contribution settings d t tag [])

/-- The entry of verbatim text that stands right behind some events. -/
def entry (d : Delimiters) (t : Template) (before : List Event) (s : Text) : Child :=
  written d ((openStarts before).any t.writesRaw) (decodeReferences s)

/-- Each run of verbatim text has one entry, unless it is a single space at the end. -/
structure KeepsVerbatim (settings : Settings) (d : Delimiters) (events : List Event)
    (t : Template) : Prop where
  /-- An element holds what was added to it, each place by itself, without a space at the end. -/
  children : ∀ id e, t.get? id = some e → e.isVerbatim settings.dialect = true →
    e.children = withoutLastSpace (added settings d t e.tag (inside events id))
  /-- Text that is not empty has its entry between what is added before it and behind it. It is
  lost only if it is a single space and nothing is added behind it. -/
  text : ∀ id e, t.get? id = some e → e.isVerbatim settings.dialect = true →
    ∀ front before s back, inside events id = front ++ (before, .text s) :: back →
      decodeReferences s ≠ [] →
      e.children = added settings d t e.tag front ++
        if decodeReferences s = [' '] ∧ added settings d t e.tag back = [] then []
        else entry d t before s ::
          withoutLastSpace (added settings d t e.tag back)

variable {settings : Settings} {d : Delimiters} {t : Template} {e : Element} {s : Text}
variable {done before : List Event}

theorem entry_eq_space_iff : entry d t before s = .text [' '] ↔ decodeReferences s = [' '] := by
  rw [entry, Builder.written_eq]
  constructor
  · exact Builder.eq_space_of_textChild
  · intro single
    rw [single]
    exact Builder.textChild_space ..

section Verbatim

variable (verbatim : e.isVerbatim settings.dialect = true)

include verbatim

/-- Verbatim text is an entry unless it is empty, whatever there is before it. -/
theorem textIn_verbatim (inRawRegion : Bool) (earlier : List Child) (s : Text) :
    textIn settings d e.tag inRawRegion earlier s =
      if decodeReferences s = [] then [] else [written d inRawRegion (decodeReferences s)] := by
  rw [Element.isVerbatim, Bool.or_eq_true, decide_eq_true_eq] at verbatim
  rw [textIn, if_pos (verbatim.imp_right .inl)]

theorem contribution_verbatim (earlier : List Child) (place : List Event × Event) :
    contribution settings d t e.tag earlier place = contribution settings d t e.tag [] place := by
  obtain ⟨before, event⟩ := place
  cases event with
  | start name attributes isVoid => rfl
  | finish name => rfl
  | unmatchedEnd name => rfl
  | text s => rw [contribution, textIn_verbatim verbatim, contribution, textIn_verbatim verbatim]

theorem gathered_verbatim (id : Nat) :
    gathered settings d t e.tag done id = added settings d t e.tag (inside done id) := by
  rw [gathered, added, List.flatMap_eq_foldl]
  apply List.foldl_ext
  intro earlier place _
  rw [contribution_verbatim verbatim]

theorem added_text (before : List Event) (content : decodeReferences s ≠ []) :
    contribution settings d t e.tag [] (before, .text s) = [entry d t before s] := by
  rw [contribution, textIn_verbatim verbatim, if_neg content, entry]

end Verbatim

/-- What is read directly keeps verbatim text. -/
theorem ReadsDirectly.keepsVerbatim (reads : t.ReadsDirectly settings d done) :
    t.KeepsVerbatim settings d done := by
  have children : ∀ id e, t.get? id = some e → e.isVerbatim settings.dialect = true →
      e.children = withoutLastSpace (added settings d t e.tag (inside done id)) := by
    intro id e found verbatim
    rw [reads.children id e found, gathered_verbatim verbatim]
  refine ⟨children, ?_⟩
  intro id e found verbatim front before s back split content
  have parts : added settings d t e.tag (inside done id) = added settings d t e.tag front ++
      entry d t before s :: added settings d t e.tag back := by
    rw [split, added, List.flatMap_append, List.flatMap_cons, added_text verbatim before content]
    rfl
  rw [children id e found verbatim, parts, withoutLastSpace_append_cons]
  simp only [entry_eq_space_iff, and_comm]

end Template

/-- The template of a source is what its events say when they are read directly. -/
theorem readsDirectly_buildTemplate (settings : Settings) {d : Delimiters}
    (opening : d.opening ≠ []) (closing : d.closing ≠ []) (source : Text) :
    (buildTemplate settings d source).1.template.ReadsDirectly settings d
      (events settings.dialect settings.expectHtml source) := by
  have follows := (Builder.follows_empty settings d).run opening closing
    (events settings.dialect settings.expectHtml source)
  have replay := Reading.replay_run settings.dialect settings.expectHtml { rest := source }
  exact follows.readsDirectly
    (List.eq_nil_of_length_eq_zero (length_openStarts replay.replayAll?_eq))

/-! ### Preformatted blanks -/

structure BlankRun where
  /-- The blanks. -/
  content : Text
  nonempty : content ≠ []
  blank : ∀ c ∈ content, isBlank c = true

def TagName.pre : TagName :=
  ⟨"pre".toList, 'p', "re".toList, rfl, rfl, List.all_eq_true.1 rfl⟩

/-- A preformatted element that holds this text and nothing else. -/
def preformatted (s : Text) : Text :=
  TagName.pre.printStart [] ++ '>' :: (s ++ TagName.pre.printEnd)

namespace BlankRun

variable (run : BlankRun)

/-- There are no marks to be taken off blanks. -/
theorem unwrapRawText_eq : unwrapRawText run.content = run.content := by
  have whole : ∀ w : Wrapper, w.remove run.content = run.content := by
    intro w
    rw [Wrapper.remove]
    split
    · rfl
    next before rest opened =>
      have opening : '<' ∈ w.opening := by cases w <;> decide
      have within : '<' ∈ run.content := by
        rw [append_of_cut? opened]
        exact List.mem_append_left _ (List.mem_append_right _ opening)
      exact absurd within (notMem_of_isBlank run.blank (by decide))
  rw [unwrapRawText, whole, whole]

theorem rawTextEvents_eq :
    Reading.rawTextEvents run.content = [⟨.text run.content, .supplied⟩] := by
  rw [Reading.rawTextEvents, run.unwrapRawText_eq]
  split
  next empty => exact absurd empty run.nonempty
  next => rfl

theorem pendingText_eq : pendingText run.content = [⟨.text run.content, .written⟩] := by
  rw [pendingText]
  exact run.nonempty

end BlankRun

/-- Text without an angle bracket is raw text up to where the rest has its end. -/
theorem readRawText?_append {tag s : Text} (noMarkup : '<' ∉ s) (rest : Text) :
    readRawText? tag (s ++ rest) =
      (readRawText? tag rest).map fun (body, rest) => (s ++ body, rest) := by
  induction s with
  | nil =>
      show readRawText? tag rest = _
      cases readRawText? tag rest <;> rfl
  | cons c s ih =>
      rw [List.mem_cons, not_or] at noMarkup
      have inside : afterIgnoringCase? ("</".toList ++ tag) (c :: (s ++ rest)) = none := by
        have other : '<' ≠ c.toLower := fun same =>
          noMarkup.1 (eq_of_toLower_eq same.symm rfl).symm
        exact if_neg other
      rw [List.cons_append, readRawText?_cons, inside, ih noMarkup.2]
      cases readRawText? tag rest <;> rfl

section Preformatted

variable (dialect : Dialect) (expectHtml : Bool) (run : BlankRun)

/-- Behind the start tag, the blanks are one run of text, and then the end tag does what it does. -/
theorem map_plainRun_blanks {tags : OpenTags}
    (raw : ∀ tag, tags.top?.filter dialect.isRawText = some tag → tag = TagName.pre.name) :
    (plainRun dialect expectHtml tags [] (run.content ++ TagName.pre.printEnd)).map (·.event) =
      .text run.content :: ((tags.endTag TagName.pre.name).1 ++
        (tags.endTag TagName.pre.name).2.endOfSource).map (·.event) := by
  -- A dialect may read this element as raw text or search it for markup.
  cases isRaw : tags.top?.filter dialect.isRawText with
  | some tag =>
      obtain rfl := raw tag isRaw
      have closed : readRawText? TagName.pre.name (run.content ++ TagName.pre.printEnd) =
          some (run.content ++ [], []) := by
        rw [readRawText?_append (notMem_of_isBlank run.blank (by decide))]
        rfl
      rw [plainRun_raw isRaw closed (by simp [TagName.printEnd]), plainRun_nil, List.append_nil,
        run.rawTextEvents_eq]
      rfl
  | none =>
      have closes := TagName.pre.direct?_end []
      rw [List.append_nil] at closes
      rw [plainRun_of_notMem isRaw (notMem_of_isBlank run.blank (by decide)),
        plainRun_construct isRaw closes, plainRun_nil, List.nil_append, run.pendingText_eq]
      rfl

/-- The events of preformatted blanks. -/
theorem events_preformatted :
    events dialect expectHtml (preformatted run.content) =
      if dialect.isVoid TagName.pre.name = true then
        [.start TagName.pre.name [] true, .text run.content, .unmatchedEnd TagName.pre.name]
      else [.start TagName.pre.name [] false, .text run.content, .finish TagName.pre.name] := by
  have opens := TagName.pre.direct?_start []
    (readAll?_bracket (run.content ++ TagName.pre.printEnd)) ⟨'>', _, rfl, rfl⟩
  have atTop : (OpenTags.top? []).filter dialect.isRawText = none := rfl
  have taken : (Construct.startTag ⟨TagName.pre.name, [], false⟩).take dialect expectHtml [] =
      ([⟨.start TagName.pre.name [] (dialect.isVoid TagName.pre.name), .written⟩],
        if dialect.isVoid TagName.pre.name = true then [] else [TagName.pre.name]) := by
    have lower : toLowerAscii TagName.pre.name = TagName.pre.name := rfl
    cases expectHtml <;>
      simp [Construct.take, OpenTags.startTag, OpenTags.makeRoom, OpenTags.top?, lower]
  rw [events_eq_plainEvents, plainEvents, preformatted, plainRun_construct atTop opens,
    List.map_nil, taken]
  split
  next isVoid =>
    have unopened : ∀ tag, (OpenTags.top? []).filter dialect.isRawText = some tag →
        tag = TagName.pre.name := fun tag raw => absurd raw (by simp [OpenTags.top?])
    rw [List.map_append, map_plainRun_blanks dialect expectHtml run unopened, isVoid]
    rfl
  next notVoid =>
    have opened : ∀ tag, (OpenTags.top? [TagName.pre.name]).filter dialect.isRawText = some tag →
        tag = TagName.pre.name := by
      intro tag raw
      exact (Option.some.inj (Option.filter_eq_some_iff.1 raw).1).symm
    rw [List.map_append, map_plainRun_blanks dialect expectHtml run opened,
      Bool.eq_false_iff.2 notVoid]
    rfl

variable {dialect expectHtml} {settings : Settings} {d : Delimiters} {t : Template}

/-- A preformatted element that is void holds nothing. -/
theorem children_of_void
    (reads : t.ReadsDirectly settings d [.start TagName.pre.name [] true, .text run.content,
      .unmatchedEnd TagName.pre.name]) : (t.get? 0).map (·.children) = some [] := by
  obtain ⟨e, found, -⟩ := reads.element [] _ _ _ List.mem_cons_self
  have found : t.get? 0 = some e := found
  have children : e.children = [] := reads.children 0 e found
  rw [found, Option.map_some, children]

/-- A preformatted element holds the blanks in it, unless they are a single space. -/
theorem children_of_notVoid
    (reads : t.ReadsDirectly settings d [.start TagName.pre.name [] false, .text run.content,
      .finish TagName.pre.name]) :
    (t.get? 0).map (·.children) =
      some (if run.content = [' '] then [] else [Template.written d false run.content]) := by
  obtain ⟨e, found, tag, attributes, -⟩ := reads.element [] _ _ _ List.mem_cons_self
  have found : t.get? 0 = some e := found
  have verbatim : e.isVerbatim settings.dialect = true := by
    rw [Element.isVerbatim, tag]
    rfl
  have plain : decodeReferences run.content = run.content :=
    decodeReferences_eq_self (notMem_of_isBlank run.blank (by decide))
  have content : decodeReferences run.content ≠ [] := by
    rw [plain]
    exact run.nonempty
  have unmarked : t.writesRaw 0 = false := by
    rw [Template.writesRaw, found, Option.any_some, attributes]
    rfl
  have entry : t.entry d [.start TagName.pre.name [] false] run.content =
      Template.written d false run.content := by
    show Template.written d (t.writesRaw 0 || false) (decodeReferences run.content) = _
    rw [unmarked, plain]
    rfl
  have kept := reads.keepsVerbatim.text 0 e found verbatim [] [.start TagName.pre.name [] false]
    run.content [([.start TagName.pre.name [] false, .text run.content],
      .finish TagName.pre.name)] rfl content
  have behind : Template.added settings d t e.tag
      [([.start TagName.pre.name [] false, .text run.content], .finish TagName.pre.name)] = [] :=
    rfl
  rw [behind, plain, entry] at kept
  rw [found, Option.map_some, kept]
  by_cases single : run.content = [' ']
  · rw [if_pos ⟨single, rfl⟩, if_pos single]
    rfl
  · rw [if_neg fun both => single both.1, if_neg single]
    rfl

end Preformatted

/-- Whatever the source and the settings, a run of verbatim text is kept as one entry, in order,
unless it is a single space at the end. So blanks in a preformatted element are kept unless they are
a single space. -/
theorem parse_keepsVerbatim (settings : Settings) :
    (∀ source, ParsesWith settings source fun d parsed =>
      parsed.template.KeepsVerbatim settings d
        (events settings.dialect settings.expectHtml source)) ∧
    ∀ run : BlankRun, ParsesWith settings (preformatted run.content) fun d parsed =>
      (parsed.template.get? 0).map (·.children) =
        some (if settings.dialect.isVoid TagName.pre.name = true ∨ run.content = [' '] then []
          else [Template.written d false run.content]) := by
  refine ⟨?_, ?_⟩
  · intro source
    apply parsesWith_of_build
    intro d opening closing
    exact (readsDirectly_buildTemplate settings opening closing source).keepsVerbatim
  · intro run
    apply parsesWith_of_build
    intro d opening closing
    have reads := readsDirectly_buildTemplate settings opening closing (preformatted run.content)
    rw [events_preformatted] at reads
    by_cases isVoid : settings.dialect.isVoid TagName.pre.name = true
    · rw [if_pos isVoid] at reads
      rw [if_pos (.inl isVoid)]
      exact children_of_void run reads
    · rw [if_neg isVoid] at reads
      simp only [isVoid, Bool.false_eq_true, false_or]
      exact children_of_notVoid run reads

/-- A single space in front of an element stays, and so do two spaces behind it, but a single space
at the end does not. -/
example :
    (["<pre> <b></b>  </pre>", "<pre> <b></b> </pre>", "<pre>&#32;</pre>"].map fun source =>
      (parse {} source.toList).toOption.map fun p => p.template.content 0) =
    [some [.text [' '], .element 1, .text [' ', ' ']], some [.text [' '], .element 1],
      some []] := by
  decide +kernel

end TemplateMarkup
