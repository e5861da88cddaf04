import TemplateMarkup.Proofs.Nesting

/-!
# Implicit ends

A start tag that cannot stand in a paragraph closes the one it is in, and one that can be left open
closes its like, each once at most. That once is enough is no matter of the start tag alone: what
closes brings another tag to the top, which might have to close as well. It never does, because no
open tag stands right inside one that it would have closed (`Settled`). This outlasts every way in
which tags close, and the two repairs of stray end tags, which put a tag in place without closing
anything.
-/

namespace TemplateMarkup

open Text

/-- Paragraphs can be left open, while a line break may stand in a paragraph and right inside any
other tag. -/
structure Dialect.LeavesParagraphsOpen (d : Dialect) : Prop where
  paragraph : d.canBeLeftOpen "p".toList = true
  lineBreak_phrasing : d.isNonPhrasing "br".toList = false
  lineBreak_closed : d.canBeLeftOpen "br".toList = false

namespace OpenTags

/-- A tag of this lowercase name may start right inside the innermost open tag: it can stand in a
paragraph if that is one, and it is not its like if it can be left open. -/
structure Admits (d : Dialect) (tags : OpenTags) (lower : Text) : Prop where
  paragraph : tags.top? = some "p".toList → d.isNonPhrasing lower = false
  sibling : d.canBeLeftOpen lower = true → tags.top? ≠ some lower

/-- Every open tag may stand right inside the next one. -/
def Settled (d : Dialect) : OpenTags → Prop
  | [] => True
  | tag :: tags => Admits d tags (toLowerAscii tag) ∧ Settled d tags

variable {d : Dialect} {lower : Text} {tags rest : OpenTags}

theorem Settled.of_suffix (settled : Settled d tags) (suffix : rest <:+ tags) :
    Settled d rest := by
  induction tags with
  | nil =>
      obtain rfl := List.suffix_nil.1 suffix
      exact settled
  | cons tag tags ih =>
      rcases List.suffix_cons_iff.1 suffix with rfl | shorter
      · exact settled
      · exact ih settled.2 shorter

theorem suffix_closeTop (cause : Cause) (tags : OpenTags) : (tags.closeTop cause).2 <:+ tags := by
  cases tags with
  | nil => exact List.suffix_rfl
  | cons tag tags => exact List.suffix_cons tag tags

/-- What a tag stands right inside of when it is at the top admits it. -/
theorem Settled.admits_closeTop (settled : Settled d tags) (top : tags.top? = some lower)
    (cause : Cause) : (tags.closeTop cause).2.Admits d lower := by
  cases tags with
  | nil => simp [top?] at top
  | cons tag tags =>
      have same : toLowerAscii tag = lower := Option.some.inj top
      rw [← same]
      exact settled.1

/-- One paragraph that closes is enough, since no paragraph stands right inside another. -/
theorem Settled.paragraph_closeTop (settled : Settled d tags) (ends : d.LeavesParagraphsOpen)
    (top : tags.top? = some "p".toList) (cause : Cause) :
    (tags.closeTop cause).2.top? ≠ some "p".toList :=
  (settled.admits_closeTop top cause).sibling ends.paragraph

/-- One tag of its kind that closes is enough, and does not bring up a paragraph that has to close
as well. -/
theorem Settled.admits_closeSibling (settled : Settled d tags)
    (paragraph : tags.top? = some "p".toList → d.isNonPhrasing lower = false) (cause : Cause) :
    (if d.canBeLeftOpen lower && tags.top? = some lower then tags.closeTop cause
      else ([], tags)).2.Admits d lower := by
  split
  next closes =>
    simp only [Bool.and_eq_true, decide_eq_true_iff] at closes
    exact settled.admits_closeTop closes.2 cause
  next stays =>
    refine ⟨paragraph, ?_⟩
    intro leftOpen top
    apply stays
    simp [leftOpen, top]

/-- What a start tag leaves of the open tags admits it. -/
theorem Settled.admits_makeRoom (settled : Settled d tags) (ends : d.LeavesParagraphsOpen)
    (lower : Text) : (tags.makeRoom d lower).2.Admits d lower := by
  rw [makeRoom]
  dsimp only
  by_cases closes : (decide (tags.top? = some "p".toList) && d.isNonPhrasing lower) = true
  · rw [if_pos closes]
    have top := of_decide_eq_true (Bool.and_eq_true_iff.1 closes).1
    apply Settled.admits_closeSibling (settled.of_suffix (suffix_closeTop _ tags))
    intro again
    exact absurd again (settled.paragraph_closeTop ends top _)
  · rw [if_neg closes]
    apply settled.admits_closeSibling
    intro top
    simpa [top] using closes

theorem suffix_makeRoom (d : Dialect) (lower : Text) (tags : OpenTags) :
    (tags.makeRoom d lower).2 <:+ tags := by
  have closes : ∀ (condition : Bool) (cause : Cause) (tags : OpenTags),
      (if condition then tags.closeTop cause else ([], tags)).2 <:+ tags := by
    intro condition cause tags
    cases condition with
    | false => exact List.suffix_rfl
    | true => exact suffix_closeTop cause tags
  rw [makeRoom]
  exact (closes _ _ _).trans (closes _ _ tags)

/-- Where an element starts, the innermost open tag admits it. -/
def AdmitsStart (d : Dialect) (tags : OpenTags) : Event → Prop
  | .start name _ _ => tags.Admits d (toLowerAscii name)
  | _ => True

/-- The repairs of stray end tags start only what is admitted: a line break always is, and a
paragraph is where none is open. -/
theorem replay_stray (ends : d.LeavesParagraphsOpen) {name : Text}
    (unopened : ∀ tag ∈ tags, toLowerAscii tag ≠ toLowerAscii name) :
    Replay (AdmitsStart d) tags ((stray name).map (·.event)) tags := by
  rw [stray]
  split
  · have admitted : tags.Admits d "br".toList := by
      refine ⟨fun _ => ends.lineBreak_phrasing, ?_⟩
      intro leftOpen
      rw [ends.lineBreak_closed] at leftOpen
      exact absurd leftOpen Bool.false_ne_true
    exact .single admitted rfl
  · split
    next isParagraph =>
      have outside : tags.top? ≠ some "p".toList := by
        intro top
        obtain ⟨tag, innermost, lowered⟩ := Option.map_eq_some_iff.1 top
        apply unopened tag (List.mem_of_head? innermost)
        rw [lowered, isParagraph]
      have admitted : Admits d tags "p".toList :=
        ⟨fun top => absurd top outside, fun _ => outside⟩
      exact .cons admitted rfl (.single trivial (Event.replay?_finish_cons _ tags))
    next => exact .single trivial rfl

/-- Elements start only where they are admitted. -/
def admitsLaw (ends : d.LeavesParagraphsOpen) : Law d true where
  allowed := AdmitsStart d
  kept := Settled d
  finish _ _ := trivial
  text _ _ := trivial
  outer suffix settled := settled.of_suffix suffix
  start {tags} name settled := by
    have admitted := settled.admits_makeRoom ends (toLowerAscii name)
    have left := settled.of_suffix (suffix_makeRoom d (toLowerAscii name) tags)
    exact ⟨⟨admitted, left⟩, fun _ _ => admitted⟩
  stray _ unopened := replay_stray ends unopened

end OpenTags

/-- Wherever an element starts, the innermost tag that the events before it leave open admits it. -/
def AdmitsEveryStart (d : Dialect) (events : List Event) : Prop :=
  ∀ before name attributes isVoid after, events = before ++ .start name attributes isVoid :: after →
    ∃ tags, Event.replayAll? [] before = some tags ∧ tags.Admits d (toLowerAscii name)

theorem Dialect.leavesParagraphsOpen_web : Dialect.web.LeavesParagraphsOpen where
  paragraph := by decide
  lineBreak_phrasing := by decide
  lineBreak_closed := by decide

/-- Where tags close implicitly, they close in time, whatever the source. This holds in HTML and in
every other dialect that leaves paragraphs open. -/
theorem admitsEveryStart_events :
    Dialect.web.LeavesParagraphsOpen ∧
      ∀ d : Dialect, d.LeavesParagraphsOpen →
        ∀ source, AdmitsEveryStart d (events d true source) := by
  refine ⟨Dialect.leavesParagraphsOpen_web, ?_⟩
  intro d ends source before name attributes isVoid after place
  have replay : Replay (OpenTags.AdmitsStart d) [] (events d true source) [] :=
    (OpenTags.admitsLaw ends).replay_run (r := { rest := source }) trivial
  exact replay.fits_of_eq_append place

/-- The second item closes the paragraph in the first one and then the first one itself. -/
theorem admitsEveryStart_events_items :
    Dialect.web.LeavesParagraphsOpen ∧
      ∃ before after, events .web true "<ul><li><p>a<li>b</ul>".toList =
          before ++ .start "li".toList [] false :: after ∧
        Event.replayAll? [] before = some ["ul".toList] ∧
        OpenTags.Admits .web ["ul".toList] "li".toList := by
  have evaluated : events .web true "<ul><li><p>a<li>b</ul>".toList =
      [.start "ul".toList [] false, .start "li".toList [] false, .start "p".toList [] false,
        .text ['a'], .finish "p".toList, .finish "li".toList] ++
        .start "li".toList [] false :: [.text ['b'], .finish "li".toList, .finish "ul".toList] := by
    decide +kernel
  obtain ⟨tags, replayed, admitted⟩ :=
    admitsEveryStart_events.2 .web admitsEveryStart_events.1 _ _ _ _ _ _ evaluated
  obtain rfl : tags = ["ul".toList] := by
    have led : Event.replayAll? [] [.start "ul".toList [] false, .start "li".toList [] false,
        .start "p".toList [] false, .text ['a'], .finish "p".toList, .finish "li".toList] =
        some ["ul".toList] := by
      decide
    exact Option.some.inj (replayed.symm.trans led)
  exact ⟨admitsEveryStart_events.1, _, _, evaluated, replayed, admitted⟩

end TemplateMarkup
