import TemplateMarkup.Proofs.ByteText
import TemplateMarkup.Proofs.ImplicitEnds

/-!
# Reading in bytes

A source can be read by the offset of a byte that moves along. The places where raw text, a run of
text and a construct end are computed in three different ways, and the source is cut at all of them.
A cut inside a character fails, and a step that takes nothing would be made again without end.
Neither happens: the reading in bytes stands where a reading in characters does, step by step
(`Tracks`).
-/

namespace TemplateMarkup

open Text

/-- How far a source has been read, in bytes. -/
structure ByteReading where
  /-- The number of bytes read. -/
  pos : Nat := 0
  /-- The tags that are open. -/
  openTags : OpenTags := []
  /-- The searches made so far, with offsets in bytes. -/
  searches : Terminators := {}

namespace ByteReading

/-- Takes the raw text of `tag` and its end tag, or the whole rest if there is none. -/
def rawTextStep? (source tag : Text) (b : ByteReading) : Option (List Emission × ByteReading) :=
  (dropBytes? b.pos source).bind fun rest =>
    (rawTextEnds? tag rest).bind fun
      | none => some (Reading.rawTextEvents rest, { b with pos := b.pos + utf8Length rest })
      | some (stop, length) =>
        (truncate? stop rest).map fun body =>
          let (out, tags) := b.openTags.endTag tag
          (Reading.rawTextEvents body ++ out, { b with pos := b.pos + length, openTags := tags })

/-- Takes the construct that was measured to have this length. -/
def constructStep? (d : Dialect) (expectHtml : Bool) (source : Text) (length : Nat)
    (b : ByteReading) : Option (List Emission × ByteReading) :=
  (Construct.take? source b.pos length).map fun
    | none => ([], b)
    | some (construct, taken) =>
      let (out, tags) := construct.take d expectHtml b.openTags
      (out, { b with pos := b.pos + taken, openTags := tags })

/-- Takes the text up to the next construct, where `rest` is the source from here on. -/
def textStep? (source rest : Text) (b : ByteReading) : Option (List Emission × ByteReading) :=
  let first := (rest.head?.map Char.utf8Size).getD (utf8Length rest)
  (textEnd? source b.pos rest first b.searches).bind fun (stop, searches) =>
    (truncate? stop rest).map fun content =>
      ([⟨.text content, .written⟩], { b with pos := b.pos + stop, searches })

/-- One step through a source that has not ended. There is none if a cut fails. -/
def step? (d : Dialect) (expectHtml : Bool) (source : Text) (b : ByteReading) :
    Option (List Emission × ByteReading) :=
  match b.openTags.top?.filter d.isRawText with
  | some tag => b.rawTextStep? source tag
  | none =>
    (dropBytes? b.pos source).bind fun rest =>
      (Construct.measure? source b.pos b.searches).bind fun
        | (some (_, length), searches) =>
          { b with searches }.constructStep? d expectHtml source length
        | (none, searches) => { b with searches }.textStep? source rest

/-- Reading the source from its front in bytes has emitted `out` and come to `b`. -/
inductive Reads (d : Dialect) (expectHtml : Bool) (source : Text) :
    List Emission → ByteReading → Prop
  | begin : Reads d expectHtml source [] {}
  | step {out later : List Emission} {b next : ByteReading}
    (reads : Reads d expectHtml source out b) (more : b.pos < utf8Length source)
    (stepped : b.step? d expectHtml source = some (later, next)) :
    Reads d expectHtml source (out ++ later) next

/-! ### The reading in characters -/

/-- A reading in bytes stands where a reading in characters does. -/
structure Tracks (source : Text) (b : ByteReading) (r : Reading) : Prop where
  /-- The offset is that of what follows. -/
  pos : b.pos = source.offsetOf r.rest
  /-- The same tags are open. -/
  openTags : b.openTags = r.openTags
  /-- The kept searches are correct about the bytes of the source. -/
  truthful : b.searches.TruthfulInBytes source
  /-- No open tag has the bracket in its name that closes it. -/
  named : ∀ tag ∈ r.openTags, '>' ∉ tag

end ByteReading

/-! ### Names of open tags -/

namespace OpenTags

theorem suffix_endTag (name : Text) (tags : OpenTags) : (tags.endTag name).2 <:+ tags := by
  rw [endTag]
  split
  next closed rest split =>
    rw [append_of_splitAt? split]
    exact List.suffix_append closed rest
  next => exact List.suffix_rfl

theorem suffix_room (d : Dialect) (expectHtml : Bool) (lower : Text) (tags : OpenTags) :
    (tags.room d expectHtml lower).2 <:+ tags := by
  rw [room]
  split
  next => exact suffix_makeRoom d lower tags
  next => exact List.suffix_rfl

end OpenTags

/-- Only a start tag opens a tag. -/
theorem Construct.forall_take {P : Text → Prop} {d : Dialect} {expectHtml : Bool}
    {construct : Construct} {tags : OpenTags} (all : ∀ tag ∈ tags, P tag)
    (new : ∀ tag, construct = .startTag tag → P tag.name) :
    ∀ tag ∈ (construct.take d expectHtml tags).2, P tag := by
  cases construct with
  | skipped => exact all
  | endTag name =>
      intro tag member
      exact all tag ((tags.suffix_endTag name).subset member)
  | startTag opened =>
      have outer : ∀ tag ∈ (tags.room d expectHtml (toLowerAscii opened.name)).2, P tag := by
        intro tag member
        exact all tag ((tags.suffix_room d expectHtml _).subset member)
      show ∀ tag ∈ (tags.startTag d expectHtml opened).2, P tag
      rw [OpenTags.startTag_eq]
      dsimp only
      split
      next => exact outer
      next => exact List.forall_mem_cons.2 ⟨new opened rfl, outer⟩

theorem StartTag.bracket_notMem_name {s rest : Text} {tag : StartTag}
    (read : StartTag.read? s = some (tag, rest)) : '>' ∉ tag.name := by
  obtain ⟨name, same⟩ := StartTag.exists_tagName read
  intro member
  have continues := name.isTagNameChar_of_mem '>' (same ▸ member)
  exact absurd continues (by decide)

theorem Reading.InSource.suffix {source : Text} {r : Reading} (inSource : r.InSource source) :
    r.rest <:+ source := by
  rw [inSource.place]
  exact List.drop_suffix r.offset source

namespace ByteReading

variable {d : Dialect} {expectHtml : Bool} {source : Text} {b : ByteReading} {r : Reading}

namespace Tracks

variable (tracks : b.Tracks source r) (inSource : r.InSource source)

include tracks inSource

theorem rawTextStep? {tag : Text} (noBracket : '>' ∉ tag) :
    ∃ next, b.rawTextStep? source tag = some ((r.rawTextStep tag).1, next) ∧
      next.Tracks source (r.rawTextStep tag).2 := by
  have suffix := inSource.suffix
  rw [ByteReading.rawTextStep?, Reading.rawTextStep, tracks.pos, tracks.openTags,
    dropBytes?_offsetOf suffix, Option.bind_some, rawTextEnds?_eq noBracket, Option.bind_some]
  cases read : readRawText? tag r.rest with
  | none =>
      refine ⟨_, rfl, ?_, rfl, tracks.truthful, tracks.named⟩
      have ended := offsetOf_trans suffix (List.nil_suffix (l := r.rest))
      rw [Reading.rest_advance, List.drop_length, ended, offsetOf_nil]
  | some parts =>
      obtain ⟨body, rest⟩ := parts
      have inside := (List.suffix_cons _ rest).trans (suffix_of_readRawText? read)
      obtain ⟨behind, whole⟩ := prefix_of_readRawText? read
      have cut : truncate? (utf8Length body) r.rest = some body := by
        rw [← whole, truncate?_append]
      simp only [Option.map_some, cut]
      refine ⟨_, rfl, ?_, rfl, tracks.truthful, ?_⟩
      · show _ = source.offsetOf (r.rest.drop (r.rest.length - rest.length))
        rw [drop_length_sub inside, offsetOf_trans suffix inside]
      · intro name member
        exact tracks.named name ((r.openTags.suffix_endTag tag).subset member)

theorem constructStep? (d : Dialect) (expectHtml : Bool) {construct : Construct} {behind : Text}
    (found : Construct.direct? r.rest = some (construct, behind)) :
    let stepped := r.constructStep d expectHtml construct (r.rest.length - behind.length)
    ∃ next, b.constructStep? d expectHtml source (r.rest.offsetOf behind) =
        some (stepped.1, next) ∧ next.Tracks source stepped.2 := by
  have suffix := inSource.suffix
  have inside := Construct.suffix_of_direct? found
  have opened : ∀ tag, construct = .startTag tag → '>' ∉ tag.name := by
    rintro tag rfl
    exact StartTag.bracket_notMem_name (Construct.read?_of_direct? found)
  rw [ByteReading.constructStep?, tracks.pos, Construct.take?_eq suffix found, tracks.openTags,
    Reading.constructStep_eq]
  refine ⟨_, rfl, ?_, rfl, tracks.truthful, Construct.forall_take tracks.named opened⟩
  show _ = source.offsetOf (r.rest.drop (r.rest.length - behind.length))
  rw [drop_length_sub inside, offsetOf_trans suffix inside]

theorem textStep? (more : r.rest ≠ []) :
    ∃ next, b.textStep? source r.rest = some (r.textStep.1, next) ∧
      next.Tracks source r.textStep.2 := by
  have suffix := inSource.suffix
  have place := inSource.place
  obtain ⟨c, s, front⟩ := List.exists_cons_of_ne_nil more
  rw [front] at place
  let content : Text := c :: upTo startsConstruct s
  let behind : Text := s.drop (upTo startsConstruct s).length
  have run : (textRun r.offset r.rest r.searches).1 = content := by
    rw [front, textRun_eq inSource.truthful place]
  have whole : content ++ behind = r.rest := by
    rw [front]
    exact congrArg (c :: ·) (upTo_append_drop startsConstruct s)
  have first : (r.rest.head?.map Char.utf8Size).getD (utf8Length r.rest) = r.rest.offsetOf s := by
    rw [front]
    exact (offsetOf_append [c] s).symm
  obtain ⟨kept, ended, still⟩ :=
    textEnd?_eq tracks.truthful suffix (front ▸ List.suffix_cons c s)
  have cut : truncate? (r.rest.offsetOf behind) r.rest = some content := by
    rw [← whole, truncate?_offsetOf]
  have stepped : b.textStep? source r.rest = some ([⟨.text content, .written⟩],
      { b with pos := b.pos + r.rest.offsetOf behind, searches := kept }) := by
    rw [ByteReading.textStep?, first, tracks.pos]
    dsimp only
    rw [ended, Option.bind_some, cut]
    rfl
  rw [stepped, Reading.textStep]
  dsimp only
  rw [run]
  refine ⟨_, rfl, ?_, tracks.openTags, still, tracks.named⟩
  show b.pos + r.rest.offsetOf behind = source.offsetOf (r.rest.drop content.length)
  have last : r.rest.drop content.length = behind := by
    rw [← whole, List.drop_left]
  rw [last, tracks.pos, ← offsetOf_trans suffix (whole ▸ List.suffix_append content behind)]

/-- A step in bytes emits what the step in characters does, and both come to the same place. -/
theorem step? (d : Dialect) (expectHtml : Bool) (more : r.rest ≠ []) :
    ∃ next, b.step? d expectHtml source = some ((r.step d expectHtml).1, next) ∧
      next.Tracks source (r.step d expectHtml).2 := by
  have suffix := inSource.suffix
  have dropped := dropBytes?_offsetOf suffix
  obtain ⟨kept, read, still⟩ := Construct.read?_eq_direct? inSource.truthful inSource.place
  obtain ⟨found, measured, stillInBytes⟩ := Construct.measures_direct? tracks.truthful suffix
  obtain ⟨pos, tags, searches⟩ := b
  obtain rfl : pos = source.offsetOf r.rest := tracks.pos
  obtain rfl : tags = r.openTags := tracks.openTags
  rw [ByteReading.step?, Reading.step, Reading.rawTag?]
  cases raw : r.openTags.top?.filter d.isRawText with
  | some tag =>
      have noBracket : '>' ∉ tag := by
        obtain ⟨top, -⟩ := Option.filter_eq_some_iff.1 raw
        obtain ⟨name, innermost, rfl⟩ := Option.map_eq_some_iff.1 top
        rw [bracket_mem_toLowerAscii]
        exact tracks.named name (List.mem_of_head? innermost)
      exact tracks.rawTextStep? inSource noBracket
  | none =>
      have inSource : Reading.InSource source { r with searches := kept } :=
        ⟨inSource.place, still⟩
      have tracks : Tracks source ⟨_, _, found⟩ { r with searches := kept } :=
        ⟨rfl, rfl, stillInBytes, tracks.named⟩
      dsimp only
      rw [dropped, Option.bind_some, measured, Option.bind_some, read]
      cases starts : Construct.direct? r.rest with
      | none => exact tracks.textStep? inSource more
      | some taken =>
          obtain ⟨construct, behind⟩ := taken
          exact tracks.constructStep? inSource d expectHtml starts

theorem lt_iff : b.pos < utf8Length source ↔ r.rest ≠ [] := by
  have within := utf8Length_le_of_suffix inSource.suffix
  rw [tracks.pos, offsetOf, ne_eq, ← utf8Length_eq_zero_iff]
  omega

/-- The step in characters takes at least one, so the step in bytes moves on. -/
theorem advances (d : Dialect) (expectHtml : Bool) (more : r.rest ≠ []) :
    ∃ later next, b.step? d expectHtml source = some (later, next) ∧ b.pos < next.pos ∧
      next.pos ≤ utf8Length source ∧ source.IsBoundary next.pos := by
  obtain ⟨next, stepped, still⟩ := tracks.step? inSource d expectHtml more
  have further := (inSource.step d expectHtml more).1.suffix
  refine ⟨_, next, stepped, ?_, ?_, ?_⟩
  · rw [tracks.pos, still.pos]
    exact offsetOf_lt_of_length_lt inSource.suffix further
      (Reading.length_rest_step_lt d expectHtml more)
  · rw [still.pos]
    exact offsetOf_le source _
  · exact isBoundary_iff.2 ⟨_, further, still.pos⟩

/-- What was measured is taken as a construct of the same form and length. -/
theorem take? {form : Construct.Form} {length : Nat} {kept : Terminators}
    (measured : Construct.measure? source b.pos b.searches = some (some (form, length), kept)) :
    0 < length ∧ b.pos + length ≤ utf8Length source ∧
      ∃ construct : Construct, construct.form = form ∧
        Construct.take? source b.pos length = some (some (construct, length)) := by
  have suffix := inSource.suffix
  obtain ⟨_, found, -⟩ := Construct.measures_direct? tracks.truthful suffix
  rw [← tracks.pos, measured] at found
  obtain ⟨direct, -⟩ := Prod.mk.inj (Option.some.inj found)
  obtain ⟨⟨construct, behind⟩, starts, same⟩ := Option.map_eq_some_iff.1 direct.symm
  obtain ⟨rfl, rfl⟩ := Prod.mk.inj same
  have inside := Construct.suffix_of_direct? starts
  refine ⟨?_, ?_, construct, rfl, ?_⟩
  · have moved := offsetOf_lt_of_length_lt List.suffix_rfl inside
      (Construct.length_lt_of_direct? starts)
    rwa [offsetOf_self] at moved
  · rw [tracks.pos, ← offsetOf_trans suffix inside]
    exact offsetOf_le source behind
  · rw [tracks.pos, Construct.take?_eq suffix starts]

end Tracks

theorem tracks_begin (source : Text) : Tracks source {} { rest := source } :=
  ⟨(offsetOf_self source).symm, rfl, Terminators.truthfulInBytes_empty source, by simp⟩

/-- What is reached in bytes is reached in characters. -/
theorem Reads.exists_tracks {out : List Emission} (reads : Reads d expectHtml source out b) :
    ∃ r, Reading.Reads d expectHtml source out r ∧ b.Tracks source r := by
  induction reads with
  | begin => exact ⟨_, .begin, tracks_begin source⟩
  | step _ more stepped ih =>
      obtain ⟨r, reads, tracks⟩ := ih
      have more := (tracks.lt_iff reads.inSource).1 more
      obtain ⟨next, same, still⟩ := tracks.step? reads.inSource d expectHtml more
      obtain ⟨rfl, rfl⟩ := Prod.mk.inj (Option.some.inj (stepped.symm.trans same))
      exact ⟨_, reads.step more, still⟩

/-- From any place the end is reached, and both readings emit the same up to there. -/
theorem Reads.exists_end {out : List Emission} (reads : Reads d expectHtml source out b)
    (tracks : b.Tracks source r) (inSource : r.InSource source) :
    ∃ later final, Reads d expectHtml source (out ++ later) final ∧
      final.pos = utf8Length source ∧
      later ++ final.openTags.endOfSource = r.run d expectHtml := by
  revert out b
  fun_induction Reading.run d expectHtml r with
  | case1 r ended =>
      intro b out reads tracks
      refine ⟨[], b, ?_, ?_, ?_⟩
      · rwa [List.append_nil]
      · rw [tracks.pos, ended, offsetOf_nil]
      · rw [tracks.openTags, List.nil_append]
  | case2 r more taken ih =>
      intro b out reads tracks
      obtain ⟨next, stepped, still⟩ := tracks.step? inSource d expectHtml more
      have further := reads.step ((tracks.lt_iff inSource).2 more) stepped
      obtain ⟨later, final, ended, atEnd, same⟩ :=
        ih (inSource.step d expectHtml more).1 further still
      refine ⟨taken.1 ++ later, final, ?_, atEnd, ?_⟩
      · rwa [← List.append_assoc]
      · rw [List.append_assoc, same]

/-- A reading in bytes never cuts a character and never stands still. Wherever it comes, it stands
where the reading in characters does; a step from there succeeds, moves on, and ends between
characters of the source. What is measured there is not empty, lies within the source, and is taken
as a construct of the same form and length. So the end is reached, whatever the source, and what was
emitted up to there is what the source emits. -/
theorem runs_to_end (d : Dialect) (expectHtml : Bool) (source : Text) :
    (∀ out b, Reads d expectHtml source out b →
      (∃ r, Reading.Reads d expectHtml source out r ∧ b.pos = source.offsetOf r.rest ∧
        b.openTags = r.openTags) ∧
      (b.pos < utf8Length source →
        ∃ later next, b.step? d expectHtml source = some (later, next) ∧ b.pos < next.pos ∧
          next.pos ≤ utf8Length source ∧ source.IsBoundary next.pos) ∧
      ∀ form length searches,
        Construct.measure? source b.pos b.searches = some (some (form, length), searches) →
        0 < length ∧ b.pos + length ≤ utf8Length source ∧
          ∃ construct : Construct, construct.form = form ∧
            Construct.take? source b.pos length = some (some (construct, length)) ∧
            let (later, tags) := construct.take d expectHtml b.openTags
            { b with searches }.constructStep? d expectHtml source length =
              some (later, { pos := b.pos + length, openTags := tags, searches })) ∧
    ∃ out b, Reads d expectHtml source out b ∧ b.pos = utf8Length source ∧
      out ++ b.openTags.endOfSource = emissions d expectHtml source := by
  constructor
  · intro out b reads
    obtain ⟨r, readsInCharacters, tracks⟩ := reads.exists_tracks
    have inSource := readsInCharacters.inSource
    refine ⟨⟨r, readsInCharacters, tracks.pos, tracks.openTags⟩, ?_, ?_⟩
    · intro more
      exact tracks.advances inSource d expectHtml ((tracks.lt_iff inSource).1 more)
    · intro form length searches measured
      obtain ⟨nonempty, within, construct, same, taken⟩ := tracks.take? inSource measured
      refine ⟨nonempty, within, construct, same, taken, ?_⟩
      dsimp only
      rw [constructStep?, taken]
      rfl
  · exact Reads.begin.exists_end (tracks_begin source) ⟨rfl, Terminators.truthful_empty source⟩

end ByteReading

end TemplateMarkup
