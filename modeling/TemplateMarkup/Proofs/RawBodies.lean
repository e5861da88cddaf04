import TemplateMarkup.Proofs.Places

/-!
# Raw bodies

Between the start and the end of a raw-text element there is one run of text or nothing, whatever
the source has there. Three parts of a reading fit together for this. The step behind the start tag
reads raw text, because the tag it opened is innermost; it ends that tag and no other, because an
end tag ends the innermost tag of its name; and where no end tag is in sight the rest of the source
is taken, so that the end of the source comes next and ends the innermost tag first.

A law about the tags that an event may meet cannot say this, since it sees one event at a time.
`Bodied` therefore speaks of all the events that are still to come.
-/

namespace TemplateMarkup

open Text Event

/-- What comes behind the start of a raw-text element: its end, or a run of text and its end. -/
inductive RawBody (name : Text) : List Event → Prop
  | empty (later : List Event) : RawBody name (.finish name :: later)
  | text {content : Text} (nonempty : content ≠ []) (later : List Event) :
      RawBody name (.text content :: .finish name :: later)

/-- Behind every start of a raw-text element there is its raw body. -/
def OpaqueRawText (d : Dialect) (events : List Event) : Prop :=
  ∀ before name attributes after, events = before ++ .start name attributes false :: after →
    d.isRawText (toLowerAscii name) = true → RawBody name after

/-- An end tag that has the lowercase name of the innermost tag ends that tag only. -/
theorem OpenTags.endTag_lowered_top (name : Text) (tags : OpenTags) :
    endTag (toLowerAscii name) (name :: tags) = ([⟨.finish name, .written⟩], tags) := by
  rw [endTag, toLowerAscii_toLowerAscii, splitAt?, if_pos rfl]
  rfl

namespace OpaqueRawText

variable {d : Dialect} {events first later : List Event}

theorem nil : OpaqueRawText d [] := by
  intro before name attributes after place
  simp at place

theorem cons {event : Event} (isOpaque : OpaqueRawText d events)
    (body : ∀ name attributes, event = .start name attributes false →
      d.isRawText (toLowerAscii name) = true → RawBody name events) :
    OpaqueRawText d (event :: events) := by
  intro before name attributes after place isRaw
  cases before with
  | nil =>
      obtain ⟨starts, rfl⟩ := List.cons.inj place
      exact body name attributes starts isRaw
  | cons head before =>
      obtain ⟨-, rest⟩ := List.cons.inj place
      exact isOpaque before name attributes after rest isRaw

/-- Events that start nothing may stand in front. -/
theorem append (isOpaque : OpaqueRawText d later)
    (noStart : ∀ event ∈ first, event.isStart = false) : OpaqueRawText d (first ++ later) := by
  induction first with
  | nil => exact isOpaque
  | cons event first ih =>
      have rest := ih fun event member => noStart event (List.mem_cons_of_mem _ member)
      refine rest.cons ?_
      rintro name attributes rfl
      exact absurd (noStart _ List.mem_cons_self) (by simp [isStart])

/-- An end tag may stand in front. If it is the end of a paragraph that was never opened, a
paragraph starts and ends at once, and that is a raw body as well. -/
theorem endTag (isOpaque : OpaqueRawText d later) (name : Text) (tags : OpenTags) :
    OpaqueRawText d ((tags.endTag name).1.map (·.event) ++ later) := by
  rw [OpenTags.endTag]
  split
  next closed rest split =>
    apply isOpaque.append
    simp [isStart]
  next =>
    rw [OpenTags.stray]
    split
    · refine isOpaque.cons ?_
      simp
    · split
      · have ended : OpaqueRawText d (.finish "p".toList :: later) := isOpaque.cons (by simp)
        refine ended.cons ?_
        rintro name attributes same -
        obtain ⟨rfl, -, -⟩ := Event.start.inj same
        exact .empty later
      · exact isOpaque.cons (by simp)

end OpaqueRawText

/-- What is to come where these tags are open: raw text is opaque in it, and if the innermost tag is
a raw-text one, then it begins with the body of that tag. -/
structure Bodied (d : Dialect) (tags : OpenTags) (events : List Event) : Prop where
  isOpaque : OpaqueRawText d events
  body : ∀ name, tags.head? = some name → d.isRawText (toLowerAscii name) = true →
    RawBody name events

namespace Bodied

variable {d : Dialect} {tags : OpenTags} {later : List Event}

/-- Where no raw-text tag is innermost, nothing is asked of the first event. -/
theorem of_notRaw (isOpaque : OpaqueRawText d later)
    (notRaw : tags.top?.filter d.isRawText = none) : Bodied d tags later := by
  refine ⟨isOpaque, ?_⟩
  intro name innermost isRaw
  rw [OpenTags.top?, innermost, Option.map_some, Option.filter_some, if_pos isRaw] at notRaw
  exact absurd notRaw (Option.some_ne_none _)

theorem endOfSource (d : Dialect) (tags : OpenTags) :
    Bodied d tags (tags.endOfSource.map (·.event)) := by
  refine ⟨?_, ?_⟩
  · have quiet : OpaqueRawText d (tags.endOfSource.map (·.event) ++ []) :=
      OpaqueRawText.nil.append (by simp [OpenTags.endOfSource, isStart])
    rwa [List.append_nil] at quiet
  · intro name innermost isRaw
    obtain ⟨tags, rfl⟩ := List.head?_eq_some_iff.1 innermost
    exact .empty _

/-- Raw text in front of the end of its tag is a raw body. -/
theorem rawText {name : Text} (body : Text) (isOpaque : OpaqueRawText d later) :
    Bodied d (name :: tags)
      ((Reading.rawTextEvents body).map (·.event) ++ .finish name :: later) := by
  have ended : OpaqueRawText d (.finish name :: later) := isOpaque.cons (by simp)
  rw [Reading.rawTextEvents]
  split
  · refine ⟨ended, ?_⟩
    rintro name' innermost -
    obtain rfl := Option.some.inj innermost
    exact .empty later
  next content nonempty =>
    refine ⟨ended.cons (by simp), ?_⟩
    rintro name' innermost -
    obtain rfl := Option.some.inj innermost
    exact .text nonempty later

/-- A start tag opens the tag whose body comes next. -/
theorem startTag {expectHtml : Bool} {tag : StartTag}
    (bodied : Bodied d (tags.startTag d expectHtml tag).2 later) :
    OpaqueRawText d ((tags.startTag d expectHtml tag).1.map (·.event) ++ later) := by
  rw [OpenTags.startTag_eq] at bodied ⊢
  dsimp only at bodied ⊢
  rw [List.map_append, List.append_assoc]
  apply OpaqueRawText.append
  · refine bodied.isOpaque.cons ?_
    intro name attributes same isRaw
    obtain ⟨rfl, -, opens⟩ := Event.start.inj same
    rw [opens, if_neg Bool.false_ne_true] at bodied
    exact bodied.body _ rfl isRaw
  · intro event member
    obtain ⟨e, emitted, rfl⟩ := List.mem_map.1 member
    obtain ⟨closed, ends⟩ := OpenTags.exists_finish_of_mem_room emitted
    rw [ends]
    rfl

end Bodied

namespace Reading

variable {d : Dialect} {expectHtml : Bool} {r : Reading}

/-- What a step in raw text emits is the body of the innermost tag and its end, or else the body is
all that is left and the end of the source ends that tag. -/
theorem bodied_rawTextStep {tag : Text} (raw : r.rawTag? d = some tag)
    (bodied : Bodied d (r.rawTextStep tag).2.openTags
      (((r.rawTextStep tag).2.run d expectHtml).map (·.event))) :
    Bodied d r.openTags ((r.rawTextStep tag).1.map (·.event) ++
      ((r.rawTextStep tag).2.run d expectHtml).map (·.event)) := by
  obtain ⟨name, innermost, lowered⟩ :=
    Option.map_eq_some_iff.1 (Option.filter_eq_some_iff.1 raw).1
  obtain ⟨tags, isOpen⟩ := List.head?_eq_some_iff.1 innermost
  rw [rawTextStep] at bodied ⊢
  split at bodied
  next unclosed =>
    have atEnd : (r.advance r.rest.length).rest = [] := List.drop_length
    rw [Reading.run, if_pos atEnd, openTags_advance, isOpen]
    exact .rawText r.rest (Bodied.endOfSource d tags).isOpaque
  next body rest closed =>
    have ended : r.openTags.endTag tag = ([⟨.finish name, .written⟩], tags) := by
      rw [isOpen, ← lowered]
      exact OpenTags.endTag_lowered_top name tags
    rw [ended] at bodied ⊢
    rw [isOpen, List.map_append, List.append_assoc]
    exact .rawText body bodied.isOpaque

theorem bodied_constructStep (notRaw : r.rawTag? d = none) (construct : Construct) (length : Nat)
    {later : List Event}
    (bodied : Bodied d (r.constructStep d expectHtml construct length).2.openTags later) :
    Bodied d r.openTags
      ((r.constructStep d expectHtml construct length).1.map (·.event) ++ later) := by
  refine .of_notRaw ?_ notRaw
  cases construct with
  | skipped => exact bodied.isOpaque
  | endTag name => exact bodied.isOpaque.endTag name r.openTags
  | startTag tag => exact Bodied.startTag bodied

/-- Whatever is left of the source, raw text is opaque in it. -/
theorem bodied_run (d : Dialect) (expectHtml : Bool) (r : Reading) :
    Bodied d r.openTags ((r.run d expectHtml).map (·.event)) := by
  induction r using Reading.run.induct d expectHtml with
  | case1 r ended =>
      rw [Reading.run, if_pos ended]
      exact .endOfSource d r.openTags
  | case2 r more taken ih =>
      rw [Reading.run, if_neg more, List.map_append]
      simp only [taken] at ih
      rw [Reading.step] at ih ⊢
      split at ih
      next tag raw =>
        exact bodied_rawTextStep raw ih
      next notRaw =>
        split at ih
        next construct length searches _ =>
          exact bodied_constructStep (r := { r with searches }) notRaw construct length ih
        next searches _ =>
          exact .of_notRaw (ih.isOpaque.append (by simp [textStep, isStart])) notRaw

end Reading

/-- Whatever the source, the body of a raw-text element is one run of text or empty, and its end
comes right behind it. -/
theorem opaqueRawText_events (d : Dialect) (expectHtml : Bool) (source : Text) :
    OpaqueRawText d (events d expectHtml source) :=
  (Reading.bodied_run d expectHtml { rest := source }).isOpaque

/-- Of the second body only the marks around it are left, so it is empty. The third is cut off. -/
example : events .web true
    "<div><script><p>a</style></SCRIPT x><style><!----></style><script><b></div>".toList =
    [.start "div".toList [] false, .start "script".toList [] false, .text "<p>a</style>".toList,
      .finish "script".toList, .start "style".toList [] false, .finish "style".toList,
      .start "script".toList [] false, .text "<b></div>".toList, .finish "script".toList,
      .finish "div".toList] := by
  decide +kernel

end TemplateMarkup
