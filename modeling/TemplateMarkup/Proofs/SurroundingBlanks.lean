import TemplateMarkup.Command.Parse
import TemplateMarkup.Proofs.ClosingBrackets
import TemplateMarkup.Proofs.LeftOpen
import TemplateMarkup.Proofs.TopLevel
import TemplateMarkup.Proofs.Trimming

/-!
# Surrounding blanks

Blanks around a source say nothing, as long as they are outside of all elements. In front of a
source they always are: they join its first run of text, of which the builder sees only what is left
when it is trimmed. Behind a source they are outside if all its tags are closed. There they join the
last run of text, since text without a closing bracket completes no construct and ends no raw body.
So it makes no difference to such a source that it is trimmed before it is parsed.
-/

namespace TemplateMarkup

open Text Event

/-! ### Text without brackets around a source -/

/-- The two are the same up to a last run of text, perhaps empty, behind which the second has more
text. -/
def ExtendsLastRun (added : Text) (out longer : List Emission) : Prop :=
  ∃ front last, out = front ++ pendingText last ∧ longer = front ++ pendingText (last ++ added)

theorem ExtendsLastRun.append_left {added : Text} {out longer : List Emission}
    (extended : ExtendsLastRun added out longer) (first : List Emission) :
    ExtendsLastRun added (first ++ out) (first ++ longer) := by
  obtain ⟨front, last, rfl, rfl⟩ := extended
  exact ⟨first ++ front, last, (List.append_assoc _ _ _).symm, (List.append_assoc _ _ _).symm⟩

section Added

variable {d : Dialect} {expectHtml : Bool} {tags final : OpenTags} {s added : Text}

/-- In front of a text that is not raw, text without an opening bracket opens and closes nothing. -/
theorem LeavesOpen.prepend (notRaw : tags.top?.filter d.isRawText = none) (noOpening : '<' ∉ added)
    (leaves : LeavesOpen d expectHtml tags s final) :
    LeavesOpen d expectHtml tags (added ++ s) final := by
  induction added with
  | nil => exact leaves
  | cons c added ih =>
      rw [List.mem_cons, not_or] at noOpening
      refine .char notRaw (Construct.direct?_eq_none_of_head ?_) (ih noOpening.2)
      simpa using Ne.symm noOpening.1

theorem flushes_of_raw {tag : Text} (raw : tags.top?.filter d.isRawText = some tag)
    (more : s ≠ []) : Flushes d expectHtml tags s := by
  intro run
  cases read : readRawText? tag s with
  | none =>
      rw [plainRun_unclosedRaw raw read more, plainRun_unclosedRaw raw read more]
      simp [pendingText]
  | some taken =>
      rw [plainRun_raw raw read more, plainRun_raw raw read more]
      simp [pendingText]

/-- What a text does with the run that is pending is to go on with it. -/
theorem exists_plainRun_eq (d : Dialect) (expectHtml : Bool) (tags : OpenTags) (s : Text) :
    ∃ content later, ∀ run,
      plainRun d expectHtml tags run s = pendingText (run ++ content) ++ later := by
  induction s with
  | nil => exact ⟨[], tags.endOfSource, fun run => by rw [plainRun_nil, List.append_nil]⟩
  | cons c s ih =>
      cases raw : tags.top?.filter d.isRawText with
      | some tag =>
          refine ⟨[], plainRun d expectHtml tags [] (c :: s), fun run => ?_⟩
          rw [List.append_nil]
          exact flushes_of_raw raw (List.cons_ne_nil c s) run
      | none =>
          cases found : Construct.direct? (c :: s) with
          | some taken =>
              refine ⟨[], plainRun d expectHtml tags [] (c :: s), fun run => ?_⟩
              rw [List.append_nil]
              exact flushes_of_direct? raw found run
          | none =>
              obtain ⟨content, later, same⟩ := ih
              refine ⟨c :: content, later, fun run => ?_⟩
              rw [plainRun_char raw found, same, List.append_assoc]
              rfl

variable (noOpening : '<' ∉ added) (noClosing : '>' ∉ added)

include noOpening noClosing

/-- Text without brackets opens and closes nothing, whatever is open. -/
theorem LeavesOpen.of_notMem (tags : OpenTags) : LeavesOpen d expectHtml tags added tags := by
  cases raw : tags.top?.filter d.isRawText with
  | some tag =>
      by_cases more : added = []
      · rw [more]
        exact .ended
      · refine .unclosedRaw raw (Option.eq_none_iff_forall_ne_some.2 ?_) more
        rintro ⟨body, rest⟩ read
        obtain ⟨front, rfl, -⟩ := stopsAtBracket_readRawText? tag added body rest read
        simp at noClosing
  | none =>
      have alone : LeavesOpen d expectHtml tags (added ++ []) tags := .prepend raw noOpening .ended
      rwa [List.append_nil] at alone

/-- Text without brackets behind a text opens and closes nothing. -/
theorem LeavesOpen.append (leaves : LeavesOpen d expectHtml tags s final) :
    LeavesOpen d expectHtml tags (s ++ added) final := by
  induction leaves with
  | ended => exact .of_notMem noOpening noClosing _
  | @unclosedRaw tags s tag raw unclosed more =>
      have still := (stopsAtBracket_readRawText? tag).append_eq_none unclosed noClosing
      exact .unclosedRaw raw still (List.append_ne_nil_of_left_ne_nil more added)
  | @raw tags final s tag body rest raw closed more _ ih =>
      have again := (stopsAtBracket_readRawText? tag).append_eq_some closed added
      exact .raw raw again (List.append_ne_nil_of_left_ne_nil more added) ih
  | construct notRaw found _ ih =>
      have again := Construct.stopsAtBracket_direct?.append_eq_some found added
      exact .construct notRaw again ih
  | char notRaw nothing _ ih =>
      have still := Construct.stopsAtBracket_direct?.append_eq_none nothing noClosing
      exact .char notRaw still ih

/-- Where nothing is left open, text without brackets joins the last run of text. -/
theorem LeavesOpen.extendsLastRun (leaves : LeavesOpen d expectHtml tags s final)
    (closed : final = []) (run : Text) :
    ExtendsLastRun added (plainRun d expectHtml tags run s)
      (plainRun d expectHtml tags run (s ++ added)) := by
  induction leaves generalizing run with
  | ended =>
      subst closed
      have ends : ∀ run, plainRun d expectHtml [] run [] = pendingText run := by
        intro run
        rw [plainRun_nil]
        exact List.append_nil _
      have joined : plainRun d expectHtml [] run (added ++ []) =
          plainRun d expectHtml [] (run ++ added) [] :=
        plainRun_of_notMem rfl noOpening run
      rw [List.append_nil, ends] at joined
      exact ⟨[], run, ends run, joined⟩
  | unclosedRaw raw unclosed more =>
      rw [closed] at raw
      simp [OpenTags.top?] at raw
  | @raw tags final s tag body rest raw taken more _ ih =>
      have again := (stopsAtBracket_readRawText? tag).append_eq_some taken added
      rw [plainRun_raw raw taken more,
        plainRun_raw raw again (List.append_ne_nil_of_left_ne_nil more added)]
      exact (ih closed []).append_left _
  | @construct tags final s rest construct notRaw found _ ih =>
      have again := Construct.stopsAtBracket_direct?.append_eq_some found added
      rw [plainRun_construct notRaw found, plainRun_construct notRaw again]
      exact (ih closed []).append_left _
  | @char tags final c s notRaw nothing _ ih =>
      have still := Construct.stopsAtBracket_direct?.append_eq_none nothing noClosing
      rw [List.cons_append] at still ⊢
      rw [plainRun_char notRaw nothing, plainRun_char notRaw still]
      exact ih closed (run ++ [c])

end Added

/-- What is left open is the same with text without brackets around the source. -/
theorem leftOpen_append (d : Dialect) (expectHtml : Bool) (source : Text) {before after : Text}
    (noOpening : '<' ∉ before) (noOpening' : '<' ∉ after) (noClosing : '>' ∉ after) :
    leftOpen d expectHtml (before ++ (source ++ after)) = leftOpen d expectHtml source := by
  have leaves := leavesOpen_leftOpen d expectHtml source
  exact (leavesOpen_leftOpen d expectHtml _).unique
    ((leaves.append noOpening' noClosing).prepend rfl noOpening)

/-! ### Blanks outside of all elements -/

namespace Builder

/-- What a list of events builds, and all its warnings. -/
def outcome (settings : Settings) (d : Delimiters) (b : Builder) (events : List Event) :
    Builder × List Warning :=
  ((b.run settings d events).1, (b.run settings d events).2.flatten)

variable {settings : Settings} {d : Delimiters}

theorem outcome_append (b : Builder) (events later : List Event) :
    b.outcome settings d (events ++ later) =
      let first := b.outcome settings d events
      let second := first.1.outcome settings d later
      (second.1, first.2 ++ second.2) := by
  induction events generalizing b with
  | nil => rfl
  | cons event events ih =>
      have rest := ih (b.step settings d event).1
      simp only [outcome, Prod.mk.injEq] at rest ⊢
      simp only [List.cons_append, run, List.flatten_cons, rest, List.append_assoc, and_self]

/-- What comes first matters by its outcome alone. -/
theorem outcome_append_right {b : Builder} {first first' : List Event}
    (same : b.outcome settings d first = b.outcome settings d first') (later : List Event) :
    b.outcome settings d (first ++ later) = b.outcome settings d (first' ++ later) := by
  rw [outcome_append, outcome_append, same]

theorem outcome_append_left {b : Builder} {first later later' : List Event}
    (same : (b.outcome settings d first).1.outcome settings d later =
      (b.outcome settings d first).1.outcome settings d later') :
    b.outcome settings d (first ++ later) = b.outcome settings d (first ++ later') := by
  rw [outcome_append, outcome_append]
  dsimp only
  rw [same]

/-- Where no element is open, a run of text is text outside, even if it is empty. -/
theorem outcome_pendingText {b : Builder} (noneOpen : b.openIds = []) (content : Text) :
    b.outcome settings d ((pendingText content).map (·.event)) = b.textOutside content := by
  cases content with
  | nil => rfl
  | cons c content =>
      have outside : b.text settings d (c :: content) = b.textOutside (c :: content) := by
        rw [text, noneOpen]
      simp [pendingText, outcome, run, step, outside]

/-- Of text outside of all elements only the trimmed text matters. -/
theorem textOutside_eq_of_trim {s t : Text} (same : trim s = trim t) (b : Builder) :
    b.textOutside s = b.textOutside t := by
  rw [textOutside, textOutside, same]

end Builder

/-- Sources with the same outcome are parsed alike. -/
theorem parse_eq_of_outcome {settings : Settings} {source source' : Text}
    (same : ∀ d, d.opening ≠ [] → d.closing ≠ [] →
      ({} : Builder).outcome settings d (events settings.dialect settings.expectHtml source) =
        ({} : Builder).outcome settings d (events settings.dialect settings.expectHtml source')) :
    parse settings source = parse settings source' := by
  rw [parse, parse]
  cases resolved : settings.resolvedDelimiters with
  | error e => rfl
  | ok d =>
      obtain ⟨opening, closing⟩ := Settings.nonempty_of_resolvedDelimiters resolved
      have parsed := congrArg
        (fun outcome : Builder × List Warning => Parsed.mk outcome.1.template outcome.2)
        (same d opening closing)
      exact congrArg Except.ok parsed

/-- Where all tags have ended before the last run of text, no element is open in the builder. -/
theorem Builder.openIds_eq_nil {settings : Settings} {d : Delimiters} {source : Text}
    (opening : d.opening ≠ []) (closing : d.closing ≠ []) {front : List Event} {last : Text}
    (split : events settings.dialect settings.expectHtml source =
      front ++ (pendingText last).map (·.event)) :
    (({} : Builder).outcome settings d front).1.openIds = [] := by
  have follows := (Builder.follows_empty settings d).run opening closing front
  have ended := length_openStarts
    (wellNested_events settings.dialect settings.expectHtml source).closes
  have last : openStarts (front ++ (pendingText last).map (·.event)) = openStarts front := by
    cases last with
    | nil => rw [pendingText, List.map_nil, List.append_nil]
    | cons c last => exact openStarts_concat front (.text (c :: last))
  rw [split, last] at ended
  exact follows.openIds.trans (List.eq_nil_of_length_eq_zero ended)

section Parsing

variable (settings : Settings) (source : Text) {blanks : Text}
variable (blank : ∀ c ∈ blanks, isBlank c = true)

include blank

theorem parse_append_left : parse settings (blanks ++ source) = parse settings source := by
  apply parse_eq_of_outcome
  intro d opening closing
  obtain ⟨content, later, goesOn⟩ :=
    exists_plainRun_eq settings.dialect settings.expectHtml [] source
  have joined : plainRun settings.dialect settings.expectHtml [] [] (blanks ++ source) =
      plainRun settings.dialect settings.expectHtml [] blanks source :=
    plainRun_of_notMem rfl (notMem_of_isBlank blank (by decide)) []
  rw [goesOn] at joined
  have plain := goesOn []
  rw [List.nil_append] at plain
  rw [events_eq_plainEvents, events_eq_plainEvents, plainEvents, plainEvents, joined, plain,
    List.map_append, List.map_append]
  apply Builder.outcome_append_right
  rw [Builder.outcome_pendingText rfl, Builder.outcome_pendingText rfl]
  exact Builder.textOutside_eq_of_trim (trim_append_left blank content) {}

theorem parse_append_right
    (closed : leftOpen settings.dialect settings.expectHtml source = []) :
    parse settings (source ++ blanks) = parse settings source := by
  apply parse_eq_of_outcome
  intro d opening closing
  have leaves := leavesOpen_leftOpen settings.dialect settings.expectHtml source
  obtain ⟨front, last, plain, longer⟩ :=
    leaves.extendsLastRun (notMem_of_isBlank blank (c := '<') (by decide))
      (notMem_of_isBlank blank (c := '>') (by decide)) closed []
  have split : events settings.dialect settings.expectHtml source =
      front.map (·.event) ++ (pendingText last).map (·.event) := by
    rw [events_eq_plainEvents, plainEvents, plain, List.map_append]
  have noneOpen := Builder.openIds_eq_nil opening closing split
  rw [split, events_eq_plainEvents, plainEvents, longer, List.map_append]
  apply Builder.outcome_append_left
  rw [Builder.outcome_pendingText noneOpen, Builder.outcome_pendingText noneOpen]
  exact Builder.textOutside_eq_of_trim (trim_append_right blank last) _

end Parsing

/-- A source whose tags are all closed is parsed the same without the blanks around it. -/
theorem parse_trim (settings : Settings) (source : Text)
    (closed : leftOpen settings.dialect settings.expectHtml source = []) :
    parse settings source.trim = parse settings source := by
  obtain ⟨front, back, blankFront, blankBack, whole⟩ := exists_append_trim source
  have inner : leftOpen settings.dialect settings.expectHtml source.trim = [] := by
    rw [← closed]
    conv_rhs => rw [whole]
    refine (leftOpen_append settings.dialect settings.expectHtml source.trim ?_ ?_ ?_).symm
    · exact notMem_of_isBlank blankFront (by decide)
    · exact notMem_of_isBlank blankBack (by decide)
    · exact notMem_of_isBlank blankBack (by decide)
  calc parse settings source.trim
      = parse settings (source.trim ++ back) := (parse_append_right _ _ blankBack inner).symm
    _ = parse settings (front ++ (source.trim ++ back)) := (parse_append_left _ _ blankFront).symm
    _ = parse settings source := by rw [← whole]

/-- How a request answers when its template is parsed. -/
def ParseRequest.reply (r : ParseRequest) (file : Text) (parsed : Parsed) :
    Except CommandError ParseReply :=
  if r.denyWarnings ∧ parsed.warnings ≠ [] then .error (.warningsDenied file parsed.warnings)
  else .ok ⟨r.format.render parsed.template, parsed.warnings⟩

/-- Blanks in front of a source change nothing. Where all tags of the source are closed, blanks
behind it change nothing either, and what trims the source first, compiling and answering a
request, comes to what a parse of the source itself comes to. -/
theorem parse_surroundingBlanks (settings : Settings) (source : Text) {blanks : Text}
    (blank : ∀ c ∈ blanks, isBlank c = true) :
    parse settings (blanks ++ source) = parse settings source ∧
      (leftOpen settings.dialect settings.expectHtml source = [] →
        parse settings (source ++ blanks) = parse settings source ∧
        (∀ {α : Type} (optimize : Template → Settings → Template)
          (generate : Template → Settings → α),
          compile settings optimize generate source =
            (parse settings source).map fun parsed =>
              ⟨generate (optimize parsed.template settings) settings, parsed.warnings⟩) ∧
        ∀ (r : ParseRequest) (file content : Text), r.settings = .ok settings →
          r.templateSource file content = .ok source →
          r.run file (.ok content) =
            ((parse settings source).mapError (.unparsable file)).bind (r.reply file)) := by
  refine ⟨parse_append_left settings source blank, ?_⟩
  intro closed
  have trimmed := parse_trim settings source closed
  refine ⟨parse_append_right settings source blank closed, ?_, ?_⟩
  · intro α optimize generate
    rw [compile, trimmed]
  · intro r file content chosen found
    rw [← trimmed]
    simp only [ParseRequest.run, Except.mapError, found, chosen, bind, Except.bind]
    rfl

/-- A paragraph with text behind it, which is reported without the blanks around it. -/
theorem parse_surroundingBlanks_paragraph :
    let source := "\n<p>a</p> b ".toList
    let blanks : Text := ['\u00a0', '\n']
    (∀ c ∈ blanks, isBlank c = true) ∧ leftOpen .web true source = [] ∧
      parse {} (blanks ++ source) = parse {} source ∧
      parse {} (source ++ blanks) = parse {} source ∧
      compile {} (fun t _ => t) (fun t _ => t.size) source =
        (parse {} source).map (fun parsed => ⟨parsed.template.size, parsed.warnings⟩) ∧
      ({} : ParseRequest).run "a.html".toList (.ok source) =
        ((parse {} source).mapError (.unparsable "a.html".toList)).bind
          (({} : ParseRequest).reply "a.html".toList) := by
  intro source blanks
  have blank : ∀ c ∈ blanks, isBlank c = true := List.all_eq_true.1 rfl
  have closed : leftOpen .web true source = [] := by decide +kernel
  obtain ⟨front, behind⟩ := parse_surroundingBlanks {} source blank
  obtain ⟨back, compiled, replied⟩ := behind closed
  exact ⟨blank, closed, front, back, compiled _ _, replied {} _ source rfl rfl⟩

/-- Behind a tag that is open blanks are content. -/
example : leftOpen .web true "<p>a".toList = ["p".toList] ∧
    (parse {} "<p>a ".toList).toOption ≠ (parse {} "<p>a".toList).toOption := by
  decide +kernel

end TemplateMarkup
