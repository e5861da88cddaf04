import TemplateMarkup.Markup.Reading
import TemplateMarkup.Proofs.DirectConstruct

/-!
# Plain reading

The plain way to read a template needs no memory of earlier searches and does not look ahead: at
each place it asks whether a construct starts there, takes it if so, and otherwise adds one
character to the run of text that is pending. A run becomes an event in front of the next construct
and at the end. Reading in steps, with kept searches and whole runs of text at once, comes to the
same.
-/

namespace TemplateMarkup

open Text

/-- What a construct does to the open tags. -/
def Construct.take (d : Dialect) (expectHtml : Bool) (construct : Construct) (tags : OpenTags) :
    List Emission × OpenTags :=
  match construct with
  | .skipped => ([], tags)
  | .endTag name => tags.endTag name
  | .startTag tag => tags.startTag d expectHtml tag

/-- The event of a pending run, unless it is empty. -/
def pendingText : Text → List Emission
  | [] => []
  | run => [⟨.text run, .written⟩]

/-- What the plain way of reading emits, where `run` is pending and the rest of the source
follows. -/
def plainRun (d : Dialect) (expectHtml : Bool) (tags : OpenTags) (run : Text) :
    Text → List Emission
  | [] => pendingText run ++ tags.endOfSource
  | c :: s =>
    match tags.top?.filter d.isRawText with
    | some tag =>
      match _h : readRawText? tag (c :: s) with
      | none => pendingText run ++ Reading.rawTextEvents (c :: s) ++ tags.endOfSource
      | some (body, rest) =>
        let (out, tags) := tags.endTag tag
        pendingText run ++ Reading.rawTextEvents body ++ out ++ plainRun d expectHtml tags [] rest
    | none =>
      match _h : Construct.direct? (c :: s) with
      | some (construct, rest) =>
        let (out, tags) := construct.take d expectHtml tags
        pendingText run ++ out ++ plainRun d expectHtml tags [] rest
      | none => plainRun d expectHtml tags (run ++ [c]) s
termination_by s => s.length
decreasing_by
  · exact length_lt_of_readRawText? _h
  · exact Construct.length_lt_of_direct? _h
  · exact Nat.lt_succ_self s.length

def plainEvents (d : Dialect) (expectHtml : Bool) (source : Text) : List Event :=
  (plainRun d expectHtml [] [] source).map (·.event)

section Equations

variable {d : Dialect} {expectHtml : Bool} {tags : OpenTags} {run s rest : Text}

@[simp] theorem plainRun_nil :
    plainRun d expectHtml tags run [] = pendingText run ++ tags.endOfSource := by
  rw [plainRun]

theorem plainRun_unclosedRaw {tag : Text} (raw : tags.top?.filter d.isRawText = some tag)
    (unclosed : readRawText? tag s = none) (more : s ≠ []) :
    plainRun d expectHtml tags run s =
      pendingText run ++ Reading.rawTextEvents s ++ tags.endOfSource := by
  obtain ⟨c, s, rfl⟩ := List.exists_cons_of_ne_nil more
  rw [plainRun, raw]
  dsimp only
  split
  · rfl
  next closed => rw [unclosed] at closed; simp at closed

theorem plainRun_raw {tag body : Text} (raw : tags.top?.filter d.isRawText = some tag)
    (closed : readRawText? tag s = some (body, rest)) (more : s ≠ []) :
    plainRun d expectHtml tags run s =
      pendingText run ++ Reading.rawTextEvents body ++ (tags.endTag tag).1 ++
        plainRun d expectHtml (tags.endTag tag).2 [] rest := by
  obtain ⟨c, s, rfl⟩ := List.exists_cons_of_ne_nil more
  rw [plainRun, raw]
  dsimp only
  split
  next unclosed => rw [unclosed] at closed; simp at closed
  next found =>
    rw [closed] at found
    obtain ⟨rfl, rfl⟩ := Prod.mk.inj (Option.some.inj found)
    rfl

variable (notRaw : tags.top?.filter d.isRawText = none)

include notRaw

theorem plainRun_construct {construct : Construct}
    (found : Construct.direct? s = some (construct, rest)) :
    plainRun d expectHtml tags run s =
      pendingText run ++ (construct.take d expectHtml tags).1 ++
        plainRun d expectHtml (construct.take d expectHtml tags).2 [] rest := by
  cases s with
  | nil =>
      rw [Construct.direct?_eq_none_of_head (by simp)] at found
      simp at found
  | cons c s =>
      rw [plainRun, notRaw]
      dsimp only
      split
      next other =>
        rw [found] at other
        obtain ⟨rfl, rfl⟩ := Prod.mk.inj (Option.some.inj other)
        rfl
      next other => rw [found] at other; simp at other

theorem plainRun_char {c : Char} (nothing : Construct.direct? (c :: s) = none) :
    plainRun d expectHtml tags run (c :: s) = plainRun d expectHtml tags (run ++ [c]) s := by
  rw [plainRun, notRaw]
  dsimp only
  split
  next other => rw [nothing] at other; simp at other
  · rfl

end Equations

/-! ### Runs of text -/

section Runs

variable (d : Dialect) (expectHtml : Bool) {tags : OpenTags} {source s : Text} {offset : Nat}
variable {searches : Terminators} (truthful : searches.Truthful source)
variable (place : s = source.drop offset) (notRaw : tags.top?.filter d.isRawText = none)

include truthful place notRaw

/-- The characters before the next construct join the run that is pending. -/
theorem plainRun_textBeforeConstruct (run : Text) :
    ∃ content kept, textBeforeConstruct offset s searches = (content, kept) ∧
      kept.Truthful source ∧
      plainRun d expectHtml tags run s =
        pendingText (run ++ content) ++ plainRun d expectHtml tags [] (s.drop content.length) := by
  induction s generalizing offset searches run with
  | nil => exact ⟨[], searches, rfl, truthful, by simp [pendingText]⟩
  | cons c s ih =>
      obtain ⟨kept, read, still⟩ := Construct.read?_eq_direct? truthful place
      rw [textBeforeConstruct, read]
      cases found : Construct.direct? (c :: s) with
      | some taken =>
          obtain ⟨construct, rest⟩ := taken
          refine ⟨[], kept, rfl, still, ?_⟩
          rw [plainRun_construct notRaw found, List.append_nil, List.length_nil, List.drop_zero,
            plainRun_construct notRaw found]
          simp [pendingText]
      | none =>
          have next : s = source.drop (offset + 1) := by
            rw [← List.drop_drop, ← place]
            rfl
          obtain ⟨content, kept, taken, still, same⟩ := ih still next (run ++ [c])
          refine ⟨c :: content, kept, ?_, still, ?_⟩
          · simp only [Option.map_none, taken]
          · rw [plainRun_char notRaw found, same]
            simp

/-- Where no construct starts, a run of text is the next thing that is emitted. -/
theorem plainRun_textRun (more : s ≠ []) (nothing : Construct.direct? s = none) :
    ∃ content kept, textRun offset s searches = (content, kept) ∧ kept.Truthful source ∧
      plainRun d expectHtml tags [] s =
        ⟨.text content, .written⟩ :: plainRun d expectHtml tags [] (s.drop content.length) := by
  obtain ⟨c, s, rfl⟩ := List.exists_cons_of_ne_nil more
  have next : s = source.drop (offset + 1) := by
    rw [← List.drop_drop, ← place]
    rfl
  obtain ⟨content, kept, taken, still, same⟩ :=
    plainRun_textBeforeConstruct d expectHtml truthful next notRaw [c]
  refine ⟨c :: content, kept, ?_, still, ?_⟩
  · rw [textRun, taken]
  · rw [plainRun_char notRaw nothing, List.nil_append, same]
    rfl

end Runs

/-! ### Reading in steps -/

namespace Reading

/-- The reading stands in the source where its offset says, and its searches are correct. -/
structure InSource (source : Text) (r : Reading) : Prop where
  /-- What follows is the source from the offset on. -/
  place : r.rest = source.drop r.offset
  /-- The kept searches are correct about the source. -/
  truthful : r.searches.Truthful source

variable {source : Text} {r : Reading}

theorem InSource.advance (inSource : r.InSource source) (n : Nat) :
    (r.advance n).InSource source where
  place := by rw [rest_advance, offset_advance, inSource.place, List.drop_drop]
  truthful := inSource.truthful

theorem InSource.withOpenTags (inSource : r.InSource source) (tags : OpenTags) :
    InSource source { r with openTags := tags } :=
  ⟨inSource.place, inSource.truthful⟩

theorem constructStep_eq (d : Dialect) (expectHtml : Bool) (construct : Construct) (length : Nat)
    (r : Reading) :
    r.constructStep d expectHtml construct length =
      ((construct.take d expectHtml r.openTags).1,
        { r.advance length with openTags := (construct.take d expectHtml r.openTags).2 }) := by
  cases construct <;> rfl

/-- A step stays in the source, and emits what the plain way emits up to the same place. -/
theorem InSource.step (inSource : r.InSource source) (d : Dialect) (expectHtml : Bool)
    (more : r.rest ≠ []) :
    (r.step d expectHtml).2.InSource source ∧
      (r.step d expectHtml).1 ++
          plainRun d expectHtml (r.step d expectHtml).2.openTags [] (r.step d expectHtml).2.rest =
        plainRun d expectHtml r.openTags [] r.rest := by
  rw [Reading.step]
  split
  next tag raw =>
    rw [rawTextStep]
    split
    next unclosed =>
      refine ⟨inSource.advance _, ?_⟩
      rw [plainRun_unclosedRaw raw unclosed more]
      simp [pendingText]
    next body rest closed =>
      refine ⟨(inSource.advance _).withOpenTags _, ?_⟩
      have suffix := (List.suffix_cons _ _).trans (suffix_of_readRawText? closed)
      rw [plainRun_raw raw closed more]
      simp [pendingText, drop_length_sub suffix]
  next notRaw =>
    obtain ⟨kept, read, still⟩ := Construct.read?_eq_direct? inSource.truthful inSource.place
    have inSource : InSource source { r with searches := kept } := ⟨inSource.place, still⟩
    rw [read]
    cases found : Construct.direct? r.rest with
    | some taken =>
        obtain ⟨construct, rest⟩ := taken
        simp only [Option.map_some, Construct.withLength, constructStep_eq]
        refine ⟨(inSource.advance _).withOpenTags _, ?_⟩
        rw [plainRun_construct notRaw found]
        simp [pendingText, drop_length_sub (Construct.suffix_of_direct? found)]
    | none =>
        simp only [Option.map_none, textStep]
        obtain ⟨content, after, taken, still, same⟩ :=
          plainRun_textRun d expectHtml still inSource.place notRaw more found
        rw [taken, same]
        exact ⟨⟨(inSource.advance content.length).place, still⟩, rfl⟩

/-- Reading in steps emits what the plain way of reading does. -/
theorem InSource.run_eq_plainRun (inSource : r.InSource source) (d : Dialect)
    (expectHtml : Bool) :
    r.run d expectHtml = plainRun d expectHtml r.openTags [] r.rest := by
  induction r using Reading.run.induct d expectHtml with
  | case1 r ended =>
      rw [run, if_pos ended, ended, plainRun_nil]
      rfl
  | case2 r more taken ih =>
      obtain ⟨next, same⟩ := inSource.step d expectHtml more
      rw [run, if_neg more, ← same]
      exact congrArg (_ ++ ·) (ih next)

end Reading

/-- A source has the events that the plain way of reading finds in it. -/
theorem events_eq_plainEvents (d : Dialect) (expectHtml : Bool) (source : Text) :
    events d expectHtml source = plainEvents d expectHtml source := by
  have start : Reading.InSource source { rest := source } :=
    ⟨rfl, Terminators.truthful_empty source⟩
  rw [events, emissions, plainEvents, start.run_eq_plainRun d expectHtml]

end TemplateMarkup
