import TemplateMarkup.Proofs.Nesting
import TemplateMarkup.Proofs.PlainReading

/-!
# The text of a source

Reading may drop characters of a source and never makes any up: each run of text and each raw text
is made of characters that stand in the source, markup that is taken off raw text notwithstanding.
-/

namespace TemplateMarkup

open Text

/-! ### Raw text -/

theorem Text.prefix_of_cutIgnoringCase? {word s before rest : Text}
    (cut : cutIgnoringCase? word s = some (before, rest)) : before <+: s := by
  obtain ⟨mark, rfl, -⟩ := append_of_cutIgnoringCase? cut
  rw [List.append_assoc]
  exact List.prefix_append before _

theorem prefix_of_readRawText? {tag s body rest : Text}
    (read : readRawText? tag s = some (body, rest)) : body <+: s := by
  rw [readRawText?] at read
  split at read
  · simp at read
  next mark behind found =>
    simp only [Option.map_eq_some_iff, Prod.exists, Prod.mk.injEq] at read
    obtain ⟨inner, rest, -, rfl, -⟩ := read
    exact prefix_of_cutIgnoringCase? found

theorem Wrapper.remove_subset (w : Wrapper) (s : Text) : w.remove s ⊆ s := by
  fun_induction w.remove s with
  | case1 s unopened => exact List.Subset.refl s
  | case2 s before r opened unclosed => exact List.Subset.refl s
  | case3 s before r opened inner rest closed ih =>
      rw [append_of_cut? opened, append_of_cut? closed]
      intro c member
      simp only [List.mem_append] at member ⊢
      rcases member with (isBefore | isInner) | later
      · exact .inl (.inl isBefore)
      · exact .inr (.inl (.inl isInner))
      · exact .inr (.inr (ih later))

theorem unwrapRawText_subset (body : Text) : unwrapRawText body ⊆ body :=
  List.Subset.trans (Wrapper.cdata.remove_subset _) (Wrapper.comment.remove_subset body)

/-! ### Emissions -/

/-- The event is a run of text or raw text. -/
def Event.isText : Event → Bool
  | .text _ => true
  | _ => false

namespace OpenTags

variable {tags : OpenTags} {e : Emission}

theorem isText_stray {name : Text} (emitted : e ∈ stray name) : e.event.isText = false := by
  rw [stray] at emitted
  split at emitted
  · obtain rfl := List.mem_singleton.1 emitted
    rfl
  · split at emitted
    · rcases List.mem_cons.1 emitted with rfl | emitted
      · rfl
      · obtain rfl := List.mem_singleton.1 emitted
        rfl
    · obtain rfl := List.mem_singleton.1 emitted
      rfl

theorem isText_closed {closed : List Text} {cause : Cause}
    (emitted : e ∈ closed.map fun tag => ⟨.finish tag, cause⟩) : e.event.isText = false := by
  obtain ⟨tag, -, rfl⟩ := List.mem_map.1 emitted
  rfl

theorem isText_endTag {name : Text} (emitted : e ∈ (tags.endTag name).1) :
    e.event.isText = false := by
  rw [endTag] at emitted
  split at emitted
  · exact isText_closed emitted
  · exact isText_stray emitted

theorem isText_room {d : Dialect} {expectHtml : Bool} {lower : Text}
    (emitted : e ∈ (tags.room d expectHtml lower).1) : e.event.isText = false := by
  obtain ⟨tag, ends⟩ := exists_finish_of_mem_room emitted
  rw [ends]
  rfl

theorem isText_startTag {d : Dialect} {expectHtml : Bool} {tag : StartTag}
    (emitted : e ∈ (tags.startTag d expectHtml tag).1) : e.event.isText = false := by
  rw [startTag_eq] at emitted
  rcases List.mem_append.1 emitted with first | last
  · exact isText_room first
  · obtain rfl := List.mem_singleton.1 last
    rfl

end OpenTags

theorem Construct.isText_take {d : Dialect} {expectHtml : Bool} {construct : Construct}
    {tags : OpenTags} {e : Emission} (emitted : e ∈ (construct.take d expectHtml tags).1) :
    e.event.isText = false := by
  cases construct with
  | skipped => exact absurd emitted List.not_mem_nil
  | endTag name => exact OpenTags.isText_endTag emitted
  | startTag tag => exact OpenTags.isText_startTag emitted

/-- All that is emitted as text is made of characters of the source. -/
def TextFrom (source : Text) (out : List Emission) : Prop :=
  ∀ e ∈ out, ∀ content, e.event = .text content → content ⊆ source

namespace TextFrom

variable {source wider : Text} {out later : List Emission}

theorem append (first : TextFrom source out) (second : TextFrom source later) :
    TextFrom source (out ++ later) := by
  intro e emitted
  rcases List.mem_append.1 emitted with early | late
  · exact first e early
  · exact second e late

theorem mono (within : TextFrom source out) (subset : source ⊆ wider) : TextFrom wider out := by
  intro e emitted content isText
  exact List.Subset.trans (within e emitted content isText) subset

theorem of_noText (noText : ∀ e ∈ out, e.event.isText = false) : TextFrom source out := by
  intro e emitted content isText
  have other := noText e emitted
  rw [isText] at other
  exact absurd other.symm Bool.false_ne_true

theorem text {content : Text} (subset : content ⊆ source) (cause : Cause) :
    TextFrom source [⟨.text content, cause⟩] := by
  intro e emitted content' isText
  obtain rfl := List.mem_singleton.1 emitted
  obtain rfl := Event.text.inj isText
  exact subset

theorem pending (run s : Text) : TextFrom (run ++ s) (pendingText run) := by
  cases run with
  | nil => exact of_noText (by simp [pendingText])
  | cons c run => exact .text (List.subset_append_left _ s) _

theorem rawText {body s : Text} (run : Text) (subset : body ⊆ s) :
    TextFrom (run ++ s) (Reading.rawTextEvents body) := by
  have unwrapped := List.Subset.trans (unwrapRawText_subset body) subset
  rw [Reading.rawTextEvents]
  split
  · exact of_noText (by simp)
  · exact .text (List.Subset.trans unwrapped (List.subset_append_right run s)) _

theorem endOfSource (tags : OpenTags) : TextFrom source tags.endOfSource :=
  of_noText fun _ => OpenTags.isText_closed

theorem behind {rest s : Text} (within : TextFrom rest out) (suffix : rest <:+ s) (run : Text) :
    TextFrom (run ++ s) out :=
  within.mono (List.Subset.trans suffix.subset (List.subset_append_right run s))

end TextFrom

/-- Characters that are emitted as text were pending or are still to be read. -/
theorem textFrom_plainRun (d : Dialect) (expectHtml : Bool) (tags : OpenTags) (run s : Text) :
    TextFrom (run ++ s) (plainRun d expectHtml tags run s) := by
  fun_induction plainRun d expectHtml tags run s with
  | case1 tags run => exact (TextFrom.pending run []).append (.endOfSource tags)
  | case2 tags run c s tag raw unclosed =>
      have body := TextFrom.rawText run (List.Subset.refl (c :: s))
      exact ((TextFrom.pending run _).append body).append (.endOfSource tags)
  | case3 tags run c s tag raw body rest closed out left ended ih =>
      have body := TextFrom.rawText run (prefix_of_readRawText? closed).subset
      have closes : TextFrom (run ++ c :: s) out :=
        .of_noText fun e emitted => OpenTags.isText_endTag (by rwa [ended])
      have suffix := (List.suffix_cons _ _).trans (suffix_of_readRawText? closed)
      exact (((TextFrom.pending run _).append body).append closes).append (ih.behind suffix run)
  | case4 tags run c s notRaw construct rest found out left taken ih =>
      have taken : TextFrom (run ++ c :: s) out :=
        .of_noText fun e emitted => Construct.isText_take (by rwa [taken])
      have suffix := Construct.suffix_of_direct? found
      exact ((TextFrom.pending run _).append taken).append (ih.behind suffix run)
  | case5 tags run c s notRaw nothing ih =>
      rw [List.append_assoc] at ih
      exact ih

/-- What is text in a template stands in its source, character by character. -/
theorem subset_source_of_text {d : Dialect} {expectHtml : Bool} {source content : Text}
    (isText : .text content ∈ events d expectHtml source) : content ⊆ source := by
  rw [events_eq_plainEvents, plainEvents] at isText
  obtain ⟨e, emitted, event⟩ := List.mem_map.1 isText
  exact textFrom_plainRun d expectHtml [] [] source e emitted content event

end TemplateMarkup
