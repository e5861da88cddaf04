import TemplateMarkup.Markup.Reading

/-!
# Nesting

The events of a template open and close tags, but carry no stack: whoever takes them in builds one
of their own, and closes its innermost element at every end without looking at the name. `replay?`
is that stack. The main statement is that it never goes wrong: whatever the source, every end closes
the innermost tag under the very name it was opened with, and nothing stays open.

A `Replay` also relates each event to the tags that are open when it comes, so that a law about the
places where an event can occur is one more thing that the steps of a reading keep.
-/

namespace TemplateMarkup

open Text

namespace Event

/-- The open tags after an event, unless it ends a tag that is not the innermost one. -/
def replay? (tags : OpenTags) : Event → Option OpenTags
  | start tag _ isVoid => some (if isVoid then tags else tag :: tags)
  | finish name =>
    match tags with
    | [] => none
    | tag :: rest => if tag = name then some rest else none
  | text _ => some tags
  | unmatchedEnd _ => some tags

@[simp] theorem replay?_finish_cons (tag : Text) (tags : OpenTags) :
    (finish tag).replay? (tag :: tags) = some tags := by
  simp [replay?]

/-- The open tags after a list of events, unless one of them ends a tag out of turn. -/
def replayAll? (tags : OpenTags) (events : List Event) : Option OpenTags :=
  events.foldlM replay? tags

end Event

/-- The events lead from one stack of open tags to another, and each meets tags that `allowed` lets
it meet. -/
inductive Replay (allowed : OpenTags → Event → Prop) : OpenTags → List Event → OpenTags → Prop
  | nil {tags : OpenTags} : Replay allowed tags [] tags
  | cons {tags middle final : OpenTags} {event : Event} {events : List Event}
      (fits : allowed tags event) (taken : event.replay? tags = some middle)
      (rest : Replay allowed middle events final) : Replay allowed tags (event :: events) final

namespace Replay

variable {allowed : OpenTags → Event → Prop} {tags middle final : OpenTags}
variable {event : Event} {events later : List Event}

theorem single (fits : allowed tags event) (taken : event.replay? tags = some final) :
    Replay allowed tags [event] final :=
  .cons fits taken .nil

theorem append (first : Replay allowed tags events middle)
    (second : Replay allowed middle later final) :
    Replay allowed tags (events ++ later) final := by
  induction first with
  | nil => exact second
  | cons fits taken _ ih => exact .cons fits taken (ih second)

theorem replayAll?_eq (replay : Replay allowed tags events final) :
    Event.replayAll? tags events = some final := by
  induction replay with
  | nil => rfl
  | cons _ taken _ ih =>
      rw [Event.replayAll?, List.foldlM_cons, taken]
      exact ih

/-- Where an event stands in a replay, the events before it have led to tags that it may meet. -/
theorem fits_of_eq_append (replay : Replay allowed tags events final) {before after : List Event}
    (place : events = before ++ event :: after) :
    ∃ open_, Event.replayAll? tags before = some open_ ∧ allowed open_ event := by
  induction replay generalizing before with
  | nil => simp at place
  | @cons tags middle _ head tail fits taken _ ih =>
      cases before with
      | nil =>
          obtain ⟨rfl, rfl⟩ := List.cons.inj place
          exact ⟨tags, rfl, fits⟩
      | cons first before =>
          obtain ⟨rfl, rest⟩ := List.cons.inj place
          obtain ⟨open_, led, met⟩ := ih rest
          refine ⟨open_, ?_, met⟩
          rw [Event.replayAll?, List.foldlM_cons, taken]
          exact led

end Replay

/-! ### Open tags -/

namespace OpenTags

variable {lower : Text} {tags closed rest : OpenTags}

theorem append_of_splitAt? (split : tags.splitAt? lower = some (closed, rest)) :
    tags = closed ++ rest := by
  induction tags generalizing closed with
  | nil => simp [splitAt?] at split
  | cons tag tags ih =>
      simp only [splitAt?] at split
      split at split
      · obtain ⟨rfl, rfl⟩ := Prod.mk.inj (Option.some.inj split)
        rfl
      · simp only [Option.map_eq_some_iff, Prod.exists, Prod.mk.injEq] at split
        obtain ⟨inner, rest, deeper, rfl, rfl⟩ := split
        rw [ih deeper, List.cons_append]

/-- An end tag closes nothing only if no open tag has its name. -/
theorem splitAt?_eq_none_iff :
    tags.splitAt? lower = none ↔ ∀ tag ∈ tags, toLowerAscii tag ≠ lower := by
  induction tags with
  | nil => simp [splitAt?]
  | cons tag tags ih =>
      simp only [splitAt?, List.forall_mem_cons]
      by_cases same : toLowerAscii tag = lower
      · simp [same]
      · simp [same, ih]

/-- What a start tag does to the tags before it, where tags close implicitly and where they do
not. -/
def room (d : Dialect) (expectHtml : Bool) (lower : Text) (tags : OpenTags) :
    List Emission × OpenTags :=
  if expectHtml then tags.makeRoom d lower else ([], tags)

theorem startTag_eq (d : Dialect) (expectHtml : Bool) (tag : StartTag) (tags : OpenTags) :
    tags.startTag d expectHtml tag =
      let lower := toLowerAscii tag.name
      let isVoid := d.isVoid lower || tag.selfClosing
      ((tags.room d expectHtml lower).1 ++ [⟨.start tag.name tag.attributes isVoid, .written⟩],
        if isVoid then (tags.room d expectHtml lower).2
        else tag.name :: (tags.room d expectHtml lower).2) :=
  rfl

/-- To make room for a start tag is to end tags and nothing else. -/
theorem exists_finish_of_mem_room {d : Dialect} {expectHtml : Bool} {e : Emission}
    (emitted : e ∈ (tags.room d expectHtml lower).1) : ∃ tag, e.event = .finish tag := by
  have closes : ∀ {condition : Bool} {cause : Cause} {tags : OpenTags},
      e ∈ (if condition then tags.closeTop cause else ([], tags)).1 →
      ∃ tag, e.event = .finish tag := by
    intro condition cause tags emitted
    cases condition with
    | false => exact absurd emitted List.not_mem_nil
    | true =>
        cases tags with
        | nil => exact absurd emitted List.not_mem_nil
        | cons tag tags =>
            obtain rfl := List.mem_singleton.1 emitted
            exact ⟨tag, rfl⟩
  rw [room] at emitted
  split at emitted
  · rcases List.mem_append.1 emitted with first | second
    · exact closes first
    · exact closes second
  · exact absurd emitted List.not_mem_nil

end OpenTags

/-! ### Laws -/

/-- A law about the tags that an event may meet. To see that it holds of a start, something may have
to be known of the tags that are open (`kept`); it has to remain so when tags close and when one
opens. -/
structure Law (d : Dialect) (expectHtml : Bool) where
  /-- The event may meet these tags. -/
  allowed : OpenTags → Event → Prop
  /-- What is known of the open tags. -/
  kept : OpenTags → Prop
  finish : ∀ tags name, allowed tags (.finish name)
  text : ∀ tags content, allowed tags (.text content)
  outer : ∀ {tags rest : OpenTags}, rest <:+ tags → kept tags → kept rest
  start : ∀ {tags : OpenTags} (name : Text), kept tags →
    let room := (tags.room d expectHtml (toLowerAscii name)).2
    kept (name :: room) ∧ ∀ attributes isVoid, allowed room (.start name attributes isVoid)
  stray : ∀ {tags : OpenTags} {name : Text}, kept tags →
    (∀ tag ∈ tags, toLowerAscii tag ≠ toLowerAscii name) →
    Replay allowed tags ((OpenTags.stray name).map (·.event)) tags

namespace Law

variable {d : Dialect} {expectHtml : Bool} (law : Law d expectHtml)

/-- What is emitted obeys the law and replays to tags that it is kept of. -/
structure Leads (tags : OpenTags) (out : List Emission) (rest : OpenTags) : Prop where
  replay : Replay law.allowed tags (out.map (·.event)) rest
  kept : law.kept rest

variable {law} {tags middle rest : OpenTags} {out later : List Emission}

theorem Leads.nil (kept : law.kept tags) : law.Leads tags [] tags :=
  ⟨.nil, kept⟩

theorem Leads.append (first : law.Leads tags out middle) (second : law.Leads middle later rest) :
    law.Leads tags (out ++ later) rest := by
  refine ⟨?_, second.kept⟩
  rw [List.map_append]
  exact first.replay.append second.replay

theorem Leads.text (kept : law.kept tags) (content : Text) (cause : Cause) :
    law.Leads tags [⟨.text content, cause⟩] tags :=
  ⟨.single (law.text tags content) rfl, kept⟩

/-- Closing the innermost tags one by one leaves those below them. -/
theorem leads_closed (closed : OpenTags) (cause : Cause) (kept : law.kept (closed ++ rest)) :
    law.Leads (closed ++ rest) (closed.map fun tag => ⟨.finish tag, cause⟩) rest := by
  induction closed with
  | nil => exact .nil kept
  | cons tag closed ih =>
      have inner := ih (law.outer (List.suffix_cons tag _) kept)
      exact ⟨.cons (law.finish _ _) (Event.replay?_finish_cons tag _) inner.replay, inner.kept⟩

/-- The end of the source closes every tag. -/
theorem leads_endOfSource (kept : law.kept tags) : law.Leads tags tags.endOfSource [] := by
  have closed : law.kept (tags ++ []) → law.Leads (tags ++ []) tags.endOfSource [] :=
    leads_closed tags .written
  rw [List.append_nil] at closed
  exact closed kept

theorem leads_closeTop (kept : law.kept tags) (cause : Cause) :
    law.Leads tags (tags.closeTop cause).1 (tags.closeTop cause).2 := by
  cases tags with
  | nil => exact .nil kept
  | cons tag tags => exact leads_closed [tag] cause kept

theorem leads_room (kept : law.kept tags) (lower : Text) :
    law.Leads tags (tags.room d expectHtml lower).1 (tags.room d expectHtml lower).2 := by
  have closes : ∀ (condition : Bool) (cause : Cause) {tags : OpenTags}, law.kept tags →
      law.Leads tags (if condition then tags.closeTop cause else ([], tags)).1
        (if condition then tags.closeTop cause else ([], tags)).2 := by
    intro condition cause tags kept
    cases condition with
    | false => exact .nil kept
    | true => exact leads_closeTop kept cause
  rw [OpenTags.room]
  split
  · exact (closes _ _ kept).append (closes _ _ (closes _ _ kept).kept)
  · exact .nil kept

theorem leads_startTag (kept : law.kept tags) (tag : StartTag) :
    law.Leads tags (tags.startTag d expectHtml tag).1 (tags.startTag d expectHtml tag).2 := by
  have room := leads_room kept (toLowerAscii tag.name)
  obtain ⟨opened, allowed⟩ := law.start tag.name kept
  rw [OpenTags.startTag_eq]
  refine room.append ⟨.single (allowed _ _) rfl, ?_⟩
  dsimp only
  split
  · exact room.kept
  · exact opened

theorem leads_endTag (kept : law.kept tags) (name : Text) :
    law.Leads tags (tags.endTag name).1 (tags.endTag name).2 := by
  rw [OpenTags.endTag]
  split
  next closed rest split =>
    rw [OpenTags.append_of_splitAt? split] at kept ⊢
    exact leads_closed closed .written kept
  next unsplit => exact ⟨law.stray kept (OpenTags.splitAt?_eq_none_iff.1 unsplit), kept⟩

/-! ### What a reading emits -/

variable {r : Reading}

theorem leads_rawTextEvents (kept : law.kept tags) (body : Text) :
    law.Leads tags (Reading.rawTextEvents body) tags := by
  rw [Reading.rawTextEvents]
  split
  · exact .nil kept
  · exact .text kept _ .supplied

theorem leads_rawTextStep (kept : law.kept r.openTags) (tag : Text) :
    law.Leads r.openTags (r.rawTextStep tag).1 (r.rawTextStep tag).2.openTags := by
  rw [Reading.rawTextStep]
  split
  · exact leads_rawTextEvents kept r.rest
  next body rest _ => exact (leads_rawTextEvents kept body).append (leads_endTag kept tag)

theorem leads_constructStep (kept : law.kept r.openTags) (construct : Construct)
    (length : Nat) :
    law.Leads r.openTags (r.constructStep d expectHtml construct length).1
      (r.constructStep d expectHtml construct length).2.openTags := by
  cases construct with
  | skipped => exact .nil kept
  | endTag name => exact leads_endTag kept name
  | startTag tag => exact leads_startTag kept tag

/-- The events of one step lead from the open tags before it to those after it. -/
theorem leads_step (kept : law.kept r.openTags) :
    law.Leads r.openTags (r.step d expectHtml).1 (r.step d expectHtml).2.openTags := by
  rw [Reading.step]
  split
  next tag _ => exact leads_rawTextStep kept tag
  · split
    next construct length searches _ =>
      exact leads_constructStep (r := { r with searches }) kept construct length
    next searches _ => exact .text kept _ .written

/-- Whatever is left of the source, its events obey the law and close every tag that is open. -/
theorem replay_run (kept : law.kept r.openTags) :
    Replay law.allowed r.openTags ((r.run d expectHtml).map (·.event)) [] := by
  induction r using Reading.run.induct d expectHtml with
  | case1 r ended =>
      rw [Reading.run, if_pos ended]
      exact (leads_endOfSource kept).replay
  | case2 r more taken ih =>
      have step := leads_step kept
      rw [Reading.run, if_neg more, List.map_append]
      exact step.replay.append (ih step.kept)

end Law

/-! ### Unmatched ends -/

/-- The open tags that an event may meet: an unmatched end tag finds no tag of its name, and it is
none of those that are repaired. -/
def FitsUnmatched (tags : OpenTags) : Event → Prop
  | .unmatchedEnd name =>
    (∀ tag ∈ tags, toLowerAscii tag ≠ toLowerAscii name) ∧
      toLowerAscii name ≠ "br".toList ∧ toLowerAscii name ≠ "p".toList
  | _ => True

/-- The repair of a stray end tag leaves the open tags as they were. -/
theorem FitsUnmatched.replay_stray {name : Text} {tags : OpenTags}
    (unopened : ∀ tag ∈ tags, toLowerAscii tag ≠ toLowerAscii name) :
    Replay FitsUnmatched tags ((OpenTags.stray name).map (·.event)) tags := by
  rw [OpenTags.stray]
  split
  · exact .single trivial rfl
  next notBreak =>
    split
    · exact .cons trivial rfl (.single trivial (Event.replay?_finish_cons _ tags))
    next notParagraph => exact .single ⟨unopened, notBreak, notParagraph⟩ rfl

/-- Unmatched ends obey their law whatever tags are open. -/
def FitsUnmatched.law (d : Dialect) (expectHtml : Bool) : Law d expectHtml where
  allowed := FitsUnmatched
  kept _ := True
  finish _ _ := trivial
  text _ _ := trivial
  outer _ _ := trivial
  start _ _ := ⟨trivial, fun _ _ => trivial⟩
  stray _ unopened := FitsUnmatched.replay_stray unopened

/-- Whatever is left of the source, its events close every tag that is open. -/
theorem Reading.replay_run (d : Dialect) (expectHtml : Bool) (r : Reading) :
    Replay FitsUnmatched r.openTags ((r.run d expectHtml).map (·.event)) [] :=
  (FitsUnmatched.law d expectHtml).replay_run trivial

/-- The events of a template are well nested. -/
structure WellNested (events : List Event) : Prop where
  /-- Every end closes the innermost open tag under its own name, and at last none is open. -/
  closes : Event.replayAll? [] events = some []
  /-- Where an end tag is unmatched, no open tag has its name in any case, and it is neither a line
  break nor a paragraph. -/
  unmatched : ∀ before name after, events = before ++ .unmatchedEnd name :: after →
    ∃ tags, Event.replayAll? [] before = some tags ∧
      (∀ tag ∈ tags, toLowerAscii tag ≠ toLowerAscii name) ∧
      toLowerAscii name ≠ "br".toList ∧ toLowerAscii name ≠ "p".toList

/-- Whatever the source, its events are well nested. -/
theorem wellNested_events (d : Dialect) (expectHtml : Bool) (source : Text) :
    WellNested (events d expectHtml source) := by
  have replay : Replay FitsUnmatched [] (events d expectHtml source) [] :=
    Reading.replay_run d expectHtml { rest := source }
  exact
    { closes := replay.replayAll?_eq
      unmatched := fun _ _ _ place => replay.fits_of_eq_append place }

end TemplateMarkup
