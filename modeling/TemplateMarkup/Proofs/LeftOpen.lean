import TemplateMarkup.Proofs.Nesting
import TemplateMarkup.Proofs.PlainReading

/-!
# What is left open

Where the source ends, its end closes every tag that is still open. `leftOpen` says which tags these
are. `LeavesOpen` says the same of a source that is read the plain way, character by character,
where neither the offset nor earlier searches matter.
-/

namespace TemplateMarkup

open Text

namespace Reading

/-- The reading where the source has ended. -/
def atEnd (d : Dialect) (expectHtml : Bool) (r : Reading) : Reading :=
  if r.rest = [] then r
  else (r.step d expectHtml).2.atEnd d expectHtml
termination_by r.rest.length
decreasing_by exact length_rest_step_lt _ _ ‹_›

/-- A reading emits what leads to the tags that are open at the end, and then closes those. -/
theorem exists_run_eq (d : Dialect) (expectHtml : Bool) (r : Reading) :
    ∃ out, r.run d expectHtml = out ++ (r.atEnd d expectHtml).openTags.endOfSource ∧
      Replay FitsUnmatched r.openTags (out.map (·.event)) (r.atEnd d expectHtml).openTags := by
  induction r using Reading.atEnd.induct d expectHtml with
  | case1 r ended =>
      rw [run, atEnd, if_pos ended, if_pos ended]
      exact ⟨[], rfl, .nil⟩
  | case2 r more ih =>
      obtain ⟨out, later, replay⟩ := ih
      have step := ((FitsUnmatched.law d expectHtml).leads_step (r := r) trivial).replay
      rw [run, atEnd, if_neg more, if_neg more]
      refine ⟨(r.step d expectHtml).1 ++ out, ?_, ?_⟩
      · rw [List.append_assoc, ← later]
      · rw [List.map_append]
        exact step.append replay

end Reading

/-- The tags that are open where the source has ended, before its end closes them. -/
def leftOpen (d : Dialect) (expectHtml : Bool) (source : Text) : OpenTags :=
  (Reading.atEnd d expectHtml { rest := source }).openTags

/-- The end of the source closes what is left open, and the events before have opened just that. -/
theorem emissions_eq_append_endOfSource (d : Dialect) (expectHtml : Bool) (source : Text) :
    ∃ out, emissions d expectHtml source = out ++ (leftOpen d expectHtml source).endOfSource ∧
      Event.replayAll? [] (out.map (·.event)) = some (leftOpen d expectHtml source) := by
  obtain ⟨out, whole, replay⟩ := Reading.exists_run_eq d expectHtml { rest := source }
  exact ⟨out, whole, replay.replayAll?_eq⟩

/-- Read the plain way with these tags open, the text leaves the last ones open at its end. -/
inductive LeavesOpen (d : Dialect) (expectHtml : Bool) : OpenTags → Text → OpenTags → Prop
  | ended {tags : OpenTags} : LeavesOpen d expectHtml tags [] tags
  | unclosedRaw {tags : OpenTags} {s tag : Text} (raw : tags.top?.filter d.isRawText = some tag)
      (unclosed : readRawText? tag s = none) (more : s ≠ []) : LeavesOpen d expectHtml tags s tags
  | raw {tags final : OpenTags} {s tag body rest : Text}
      (raw : tags.top?.filter d.isRawText = some tag)
      (closed : readRawText? tag s = some (body, rest)) (more : s ≠ [])
      (later : LeavesOpen d expectHtml (tags.endTag tag).2 rest final) :
      LeavesOpen d expectHtml tags s final
  | construct {tags final : OpenTags} {s rest : Text} {construct : Construct}
      (notRaw : tags.top?.filter d.isRawText = none)
      (found : Construct.direct? s = some (construct, rest))
      (later : LeavesOpen d expectHtml (construct.take d expectHtml tags).2 rest final) :
      LeavesOpen d expectHtml tags s final
  | char {tags final : OpenTags} {c : Char} {s : Text}
      (notRaw : tags.top?.filter d.isRawText = none)
      (nothing : Construct.direct? (c :: s) = none)
      (later : LeavesOpen d expectHtml tags s final) : LeavesOpen d expectHtml tags (c :: s) final

namespace LeavesOpen

variable {d : Dialect} {expectHtml : Bool} {tags final final' : OpenTags} {s : Text}

/-- What is left open is determined. -/
theorem unique (leaves : LeavesOpen d expectHtml tags s final)
    (leaves' : LeavesOpen d expectHtml tags s final') : final = final' := by
  have nothing : Construct.direct? [] = none := Construct.direct?_eq_none_of_head (by simp)
  induction leaves with
  | ended =>
      cases leaves' with
      | ended => rfl
      | _ => simp_all
  | unclosedRaw raw unclosed more =>
      cases leaves' with
      | unclosedRaw => rfl
      | _ => simp_all
  | raw raw closed more _ ih =>
      cases leaves' with
      | raw raw' closed' _ later =>
          obtain rfl := Option.some.inj (raw.symm.trans raw')
          obtain ⟨-, rfl⟩ := Prod.mk.inj (Option.some.inj (closed.symm.trans closed'))
          exact ih later
      | _ => simp_all
  | construct notRaw found _ ih =>
      cases leaves' with
      | construct _ found' later =>
          obtain ⟨rfl, rfl⟩ := Prod.mk.inj (Option.some.inj (found.symm.trans found'))
          exact ih later
      | _ => simp_all
  | char notRaw nothing _ ih =>
      cases leaves' with
      | char _ _ later => exact ih later
      | _ => simp_all

/-- The characters before the next construct open and close nothing. -/
theorem of_textBeforeConstruct {source : Text} {offset : Nat} {searches : Terminators}
    (truthful : searches.Truthful source) (place : s = source.drop offset)
    (notRaw : tags.top?.filter d.isRawText = none)
    (later : LeavesOpen d expectHtml tags
      (s.drop (textBeforeConstruct offset s searches).1.length) final) :
    LeavesOpen d expectHtml tags s final := by
  induction s generalizing offset searches with
  | nil => exact later
  | cons c s ih =>
      obtain ⟨kept, read, still⟩ := Construct.read?_eq_direct? truthful place
      rw [textBeforeConstruct, read] at later
      cases found : Construct.direct? (c :: s) with
      | some taken =>
          rw [found] at later
          exact later
      | none =>
          rw [found] at later
          have next : s = source.drop (offset + 1) := by
            rw [← List.drop_drop, ← place]
            rfl
          exact .char notRaw found (ih still next later)

/-- A run of text opens and closes nothing. -/
theorem of_textRun {source : Text} {offset : Nat} {searches : Terminators}
    (truthful : searches.Truthful source) (place : s = source.drop offset)
    (notRaw : tags.top?.filter d.isRawText = none) (nothing : Construct.direct? s = none)
    (later : LeavesOpen d expectHtml tags (s.drop (textRun offset s searches).1.length) final) :
    LeavesOpen d expectHtml tags s final := by
  cases s with
  | nil => exact later
  | cons c s =>
      have next : s = source.drop (offset + 1) := by
        rw [← List.drop_drop, ← place]
        rfl
      exact .char notRaw nothing (of_textBeforeConstruct truthful next notRaw later)

end LeavesOpen

namespace Reading

variable {d : Dialect} {expectHtml : Bool} {source : Text} {r : Reading}

/-- A step leaves open what reading the plain way does. -/
theorem InSource.leavesOpen_of_step (inSource : r.InSource source) (more : r.rest ≠ [])
    {final : OpenTags} (later : LeavesOpen d expectHtml (r.step d expectHtml).2.openTags
      (r.step d expectHtml).2.rest final) :
    LeavesOpen d expectHtml r.openTags r.rest final := by
  rw [Reading.step] at later
  split at later
  next tag raw =>
    rw [rawTextStep] at later
    split at later
    next unclosed =>
      simp only [rest_advance, List.drop_length] at later
      cases later.unique .ended
      exact .unclosedRaw raw unclosed more
    next body rest closed =>
      have suffix := (List.suffix_cons _ _).trans (suffix_of_readRawText? closed)
      simp only [rest_advance, drop_length_sub suffix] at later
      exact .raw raw closed more later
  next notRaw =>
    obtain ⟨kept, read, still⟩ := Construct.read?_eq_direct? inSource.truthful inSource.place
    rw [read] at later
    cases found : Construct.direct? r.rest with
    | some taken =>
        obtain ⟨construct, rest⟩ := taken
        rw [found] at later
        simp only [Option.map_some, Construct.withLength, constructStep_eq, rest_advance,
          drop_length_sub (Construct.suffix_of_direct? found)] at later
        exact .construct notRaw found later
    | none =>
        rw [found] at later
        exact .of_textRun still inSource.place notRaw found later

/-- What is open where the source has ended is what reading the plain way leaves open. -/
theorem InSource.leavesOpen_atEnd (inSource : r.InSource source) :
    LeavesOpen d expectHtml r.openTags r.rest (r.atEnd d expectHtml).openTags := by
  induction r using Reading.atEnd.induct d expectHtml with
  | case1 r ended =>
      rw [atEnd, if_pos ended, ended]
      exact .ended
  | case2 r more ih =>
      rw [atEnd, if_neg more]
      exact inSource.leavesOpen_of_step more (ih (inSource.step d expectHtml more).1)

end Reading

theorem leavesOpen_leftOpen (d : Dialect) (expectHtml : Bool) (source : Text) :
    LeavesOpen d expectHtml [] source (leftOpen d expectHtml source) :=
  have start : Reading.InSource source { rest := source } :=
    ⟨rfl, Terminators.truthful_empty source⟩
  start.leavesOpen_atEnd

end TemplateMarkup
