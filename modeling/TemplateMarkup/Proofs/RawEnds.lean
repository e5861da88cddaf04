import Mathlib.Data.List.TakeWhile
import TemplateMarkup.Proofs.Printing
import TemplateMarkup.Proofs.RawBodies

/-!
# Ends of raw bodies

Where the body of a raw-text element ends. The reader looks for `</` and the name of the element,
whatever the case, and asks for a closing bracket somewhere behind it. An end tag as it is read
everywhere else has a whole name (`Construct.endTag?`). So the two part where the name goes on: what
is the end tag of another element, with a longer name, ends the body here.
-/

namespace TemplateMarkup

open Text

/-! ### The first place of a kind -/

/-- The text up to the first place where `stops` holds, or all of it. -/
def Text.upTo (stops : Text → Bool) : Text → Text
  | [] => []
  | c :: s => if stops (c :: s) then [] else c :: upTo stops s

namespace Text

variable {p q : Text → Bool} {s : Text}

theorem upTo_eq_self (never : ∀ t, t <:+ s → p t = false) : upTo p s = s := by
  induction s with
  | nil => rfl
  | cons c s ih =>
      have here := never (c :: s) List.suffix_rfl
      have later := ih fun t suffix => never t (suffix.trans (List.suffix_cons c s))
      rw [upTo, if_neg (by simp [here]), later]

/-- Nothing is lost where the text is divided at the first place of a kind. -/
theorem upTo_append_drop (p : Text → Bool) (s : Text) :
    upTo p s ++ s.drop (upTo p s).length = s := by
  induction s with
  | nil => rfl
  | cons c s ih =>
      rw [upTo]
      split
      next => rfl
      next => rw [List.cons_append, List.length_cons, List.drop_succ_cons, ih]

/-- The first place of a kind is the first of a narrower kind if it is of that kind. -/
theorem upTo_eq_upTo_iff (narrower : ∀ t, q t = true → p t = true) :
    upTo p s = upTo q s ↔ upTo p s = s ∨ q (s.drop (upTo p s).length) = true := by
  induction s with
  | nil => simp [upTo]
  | cons c s ih =>
      by_cases stop : p (c :: s) = true
      · by_cases narrow : q (c :: s) = true
        · simp [upTo, stop, narrow]
        · simp [upTo, stop, narrow]
      · have wide : q (c :: s) ≠ true := fun narrow => stop (narrower _ narrow)
        simpa [upTo, stop, wide] using ih

end Text

/-! ### Two notions of an end -/

theorem tagName_append_drop (s : Text) : tagName s ++ s.drop (tagName s).length = s := by
  apply List.prefix_iff_eq_append.1
  cases s with
  | nil => exact List.nil_prefix
  | cons c s =>
      rw [tagName]
      split
      · exact List.cons_prefix_cons.2 ⟨rfl, List.takeWhile_prefix _⟩
      · exact List.nil_prefix

/-- At the front is the end tag of an element with this lowercase name. -/
def isEndTagOf (tag s : Text) : Bool :=
  match Construct.endTag? s with
  | some (.endTag name, _) => toLowerAscii name = tag
  | _ => false

/-- At the front is what might begin an end tag of an element with this lowercase name, or with a
longer one, and a closing bracket is behind it. -/
def beginsEndTagOf (tag s : Text) : Bool :=
  (afterIgnoringCase? ("</".toList ++ tag) s).any ('>' ∈ ·)

variable {tag s rest : Text}

theorem beginsEndTagOf_iff :
    beginsEndTagOf tag s = true ↔
      ∃ mark rest, s = mark ++ rest ∧ toLowerAscii mark = "</".toList ++ tag ∧ '>' ∈ rest := by
  rw [beginsEndTagOf, Option.any_eq_true]
  simp only [decide_eq_true_eq, afterIgnoringCase?_eq_some_iff]
  constructor
  · rintro ⟨rest, ⟨mark, whole, lowered⟩, closed⟩
    exact ⟨mark, rest, whole, lowered, closed⟩
  · rintro ⟨mark, rest, whole, lowered, closed⟩
    exact ⟨rest, ⟨mark, whole, lowered⟩, closed⟩

theorem isEndTagOf_iff :
    isEndTagOf tag s = true ↔
      ∃ t, s = "</".toList ++ t ∧ tagName t ≠ [] ∧ toLowerAscii (tagName t) = tag ∧
        '>' ∈ t.drop (tagName t).length := by
  rw [isEndTagOf, Construct.endTag?]
  cases named : after? "</".toList s with
  | none =>
      simp only [Option.bind_none, Bool.false_eq_true, false_iff]
      rintro ⟨t, rfl, -⟩
      exact absurd ((after?_append _ t).symm.trans named) (Option.some_ne_none t)
  | some t =>
      obtain rfl := after?_eq_some_iff.1 named
      simp only [Option.bind_some, List.append_cancel_left_eq, exists_eq_left', ne_eq]
      by_cases unnamed : tagName t = []
      · simp [unnamed]
      · have closed : '>' ∈ t.drop (tagName t).length ↔
            (Construct.behind? .tag (t.drop (tagName t).length)).isSome = true := by
          rw [Construct.behind?, Option.isSome_map]
          exact isSome_cut?_singleton.symm
        rw [closed]
        cases Construct.behind? .tag (t.drop (tagName t).length) <;> simp [unnamed]

/-! ### Where they part -/

theorem isTagNameChar_toLower (c : Char) : isTagNameChar c.toLower = isTagNameChar c := by
  by_cases letter : c.isAlpha = true
  · have lowered : c.toLower.isAlpha = true := by rw [isAlpha_toLower, letter]
    simp [isTagNameChar, Char.isAlphanum, letter, lowered]
  · have other : ¬ c.isUpper = true := fun upper => letter (isAlpha_of_isUpper upper)
    rw [toLower_eq_self other]

/-- A name in another case is a name. -/
theorem TagName.exists_of_toLowerAscii_eq (name : TagName) {written : Text}
    (same : toLowerAscii written = toLowerAscii name.name) :
    ∃ other : TagName, other.name = written := by
  obtain ⟨c, more, whole, letter, continues⟩ := name.valid
  rw [whole] at same
  obtain ⟨x, others, rfl, first, later⟩ := List.map_eq_cons_iff.1 same
  refine ⟨⟨x :: others, x, others, rfl, ?_, ?_⟩, rfl⟩
  · rw [← isAlpha_toLower, first, isAlpha_toLower, letter]
  · intro y member
    have lowered : y.toLower ∈ toLowerAscii more := by
      rw [toLowerAscii, ← later]
      exact List.mem_map_of_mem member
    obtain ⟨z, inMore, eq⟩ := List.mem_map.1 lowered
    rw [← isTagNameChar_toLower, ← eq, isTagNameChar_toLower, continues z inMore]

/-- The front of an end tag is what it is in any case. -/
theorem toLowerAscii_eq_front_iff {mark : Text} :
    toLowerAscii mark = "</".toList ++ tag ↔
      ∃ written, mark = "</".toList ++ written ∧ toLowerAscii written = tag := by
  constructor
  · intro lowered
    obtain ⟨c, more, rfl, first, later⟩ := List.map_eq_cons_iff.1 lowered
    obtain ⟨x, written, rfl, second, same⟩ := List.map_eq_cons_iff.1 later
    obtain rfl := eq_of_toLower_eq first rfl
    obtain rfl := eq_of_toLower_eq second rfl
    exact ⟨written, rfl, same⟩
  · rintro ⟨written, rfl, rfl⟩
    rfl

/-- An end tag is also what might begin one. -/
theorem beginsEndTagOf_of_isEndTagOf (isEnd : isEndTagOf tag s = true) :
    beginsEndTagOf tag s = true := by
  obtain ⟨t, rfl, -, lowered, closed⟩ := isEndTagOf_iff.1 isEnd
  refine beginsEndTagOf_iff.2 ⟨"</".toList ++ tagName t, t.drop (tagName t).length, ?_, ?_, closed⟩
  · rw [List.append_assoc, tagName_append_drop]
  · exact toLowerAscii_eq_front_iff.2 ⟨tagName t, rfl, lowered⟩

/-- What might begin an end tag is one if the name does not go on. -/
theorem isEndTagOf_append_iff (name : TagName) {mark : Text}
    (lowered : toLowerAscii mark = "</".toList ++ toLowerAscii name.name) (closed : '>' ∈ rest) :
    isEndTagOf (toLowerAscii name.name) (mark ++ rest) = true ↔
      ∀ c ∈ rest.head?, isTagNameChar c = false := by
  obtain ⟨written, rfl, same⟩ := toLowerAscii_eq_front_iff.1 lowered
  obtain ⟨other, rfl⟩ := name.exists_of_toLowerAscii_eq same
  have ends : rest.takeWhile isTagNameChar = [] ↔ ∀ c ∈ rest.head?, isTagNameChar c = false := by
    cases rest with
    | nil => simp
    | cons c rest => cases continues : isTagNameChar c <;> simp [continues]
  rw [isEndTagOf_iff, ← ends, List.append_assoc]
  simp only [List.append_cancel_left_eq, exists_eq_left', other.tagName_append_eq]
  constructor
  · rintro ⟨-, whole, -⟩
    rw [toLowerAscii, List.map_append, ← toLowerAscii, same] at whole
    exact List.map_eq_nil_iff.1 (List.append_right_eq_self.1 whole)
  · intro ended
    obtain ⟨c, more, valid, -⟩ := other.valid
    rw [ended, List.append_nil, List.drop_left]
    exact ⟨by simp [valid], same, closed⟩

/-! ### What the reader takes -/

/-- Where nothing closes the first end tag that might begin, nothing closes a later one. -/
theorem not_beginsEndTagOf_of_suffix
    (after : afterIgnoringCase? ("</".toList ++ tag) s = some rest) (unclosed : '>' ∉ rest)
    {t : Text} (suffix : t <:+ s) : beginsEndTagOf tag t = false := by
  rw [beginsEndTagOf]
  refine (Option.any_eq_false _ _).2 fun later found => ?_
  have within : later <:+ rest := by
    refine List.suffix_of_suffix_length_le
      ((suffix_of_afterIgnoringCase? found).trans suffix) (suffix_of_afterIgnoringCase? after) ?_
    have := length_of_afterIgnoringCase? found
    have := length_of_afterIgnoringCase? after
    have := suffix.length_le
    omega
  exact decide_eq_false fun closed => unclosed (within.subset closed)

theorem readRawText?_cons (c : Char) (s : Text) :
    readRawText? tag (c :: s) =
      match afterIgnoringCase? ("</".toList ++ tag) (c :: s) with
      | some rest => (cut? ['>'] rest).map fun (_, rest) => ([], rest)
      | none => (readRawText? tag s).map fun (body, rest) => (c :: body, rest) := by
  rw [readRawText?, readRawText?, cutIgnoringCase?]
  cases afterIgnoringCase? ("</".toList ++ tag) (c :: s) with
  | some rest => rfl
  | none =>
      cases cutIgnoringCase? ("</".toList ++ tag) s with
      | none => rfl
      | some part =>
          obtain ⟨body, rest⟩ := part
          dsimp only [Option.map_some]
          cases cut? ['>'] rest <;> rfl

/-- The body that is read is the text up to what might begin its end tag. -/
theorem getD_readRawText? (tag s : Text) :
    ((readRawText? tag s).map Prod.fst).getD s = s.upTo (beginsEndTagOf tag) := by
  induction s with
  | nil => rfl
  | cons c s ih =>
      rw [readRawText?_cons]
      cases after : afterIgnoringCase? ("</".toList ++ tag) (c :: s) with
      | none =>
          have here : beginsEndTagOf tag (c :: s) = false := by rw [beginsEndTagOf, after]; rfl
          rw [upTo, if_neg (by simp [here]), ← ih]
          cases readRawText? tag s <;> rfl
      | some rest =>
          by_cases closed : '>' ∈ rest
          · have here : beginsEndTagOf tag (c :: s) = true := by
              rw [beginsEndTagOf, after]
              exact decide_eq_true closed
            obtain ⟨⟨inside, behind⟩, cut⟩ :=
              Option.isSome_iff_exists.1 (isSome_cut?_singleton.2 closed)
            simp only [upTo, here, ↓reduceIte, cut, Option.map_some, Option.getD_some]
          · have uncut : cut? ['>'] rest = none :=
              Option.not_isSome_iff_eq_none.1 fun cut => closed (isSome_cut?_singleton.1 cut)
            rw [upTo_eq_self fun t suffix => not_beginsEndTagOf_of_suffix after closed suffix]
            simp only [uncut, Option.map_none, Option.getD_none]

/-- The body ends at its own end tag if no character continues the name where it ends. -/
theorem upTo_beginsEndTagOf_eq_iff (name : TagName) (s : Text) :
    let body := s.upTo (beginsEndTagOf (toLowerAscii name.name))
    body = s.upTo (isEndTagOf (toLowerAscii name.name)) ↔
      ∀ c ∈ (s.drop (body ++ "</".toList ++ name.name).length).head?, isTagNameChar c = false := by
  intro body
  have place : body = s ∨ beginsEndTagOf (toLowerAscii name.name) (s.drop body.length) = true :=
    (upTo_eq_upTo_iff fun _ begins => begins).1 rfl
  have same : body = s.upTo (isEndTagOf (toLowerAscii name.name)) ↔
      body = s ∨ isEndTagOf (toLowerAscii name.name) (s.drop body.length) = true :=
    upTo_eq_upTo_iff fun _ => beginsEndTagOf_of_isEndTagOf
  rw [same, List.append_assoc, List.length_append, ← List.drop_drop]
  by_cases whole : body = s
  · simp [whole]
  · obtain ⟨mark, rest, split, lowered, closed⟩ :=
      beginsEndTagOf_iff.1 (place.resolve_left whole)
    have length : mark.length = ("</".toList ++ name.name).length := by
      simpa [toLowerAscii] using congrArg List.length lowered
    rw [or_iff_right whole, split, ← length, List.drop_left]
    exact isEndTagOf_append_iff name lowered closed

/-! ### Readings -/

theorem StartTag.exists_tagName {tag : StartTag} (read : StartTag.read? s = some (tag, rest)) :
    ∃ name : TagName, name.name = tag.name := by
  unfold StartTag.read? at read
  split at read
  next t =>
    split at read
    · simp at read
    next nonempty =>
      obtain ⟨⟨as, slash, behind⟩, -, same⟩ := Option.map_eq_some_iff.1 read
      obtain ⟨rfl, -⟩ := Prod.mk.inj same
      cases t with
      | nil => exact absurd rfl nonempty
      | cons c t =>
          rw [tagName] at nonempty ⊢
          split at nonempty
          next letter =>
            rw [if_pos letter]
            exact ⟨⟨_, c, _, rfl, letter, fun x => List.mem_takeWhile_imp⟩, rfl⟩
          next => exact absurd rfl nonempty
  · simp at read

theorem Construct.read?_of_direct? {tag : StartTag}
    (found : direct? s = some (.startTag tag, rest)) : StartTag.read? s = some (tag, rest) := by
  simp only [direct?, Option.or_eq_some_iff] at found
  rcases found with comment | ⟨-, conditional | ⟨-, doctype | ⟨-, endTag | ⟨-, startTag⟩⟩⟩⟩
  · obtain ⟨_, -, comment⟩ := Option.bind_eq_some_iff.1 comment
    simp at comment
  · obtain ⟨_, -, conditional⟩ := Option.bind_eq_some_iff.1 conditional
    simp at conditional
  · simp [doctype?] at doctype
  · obtain ⟨t, -, endTag⟩ := Option.bind_eq_some_iff.1 endTag
    split at endTag <;> simp at endTag
  · obtain ⟨⟨tag, rest⟩, read, same⟩ := Option.map_eq_some_iff.1 startTag
    obtain ⟨starts, rfl⟩ := Prod.mk.inj same
    obtain rfl := Construct.startTag.inj starts
    exact read

/-- The emission of a tag in the source that opens an element. -/
abbrev Emission.opening (name : Text) (attributes : List Attribute) : Emission :=
  ⟨.start name attributes false, .written⟩

section Openings

variable {name : Text} {attributes : List Attribute}

theorem Reading.opening_notMem_rawTextEvents (body : Text) :
    Emission.opening name attributes ∉ Reading.rawTextEvents body := by
  rw [Reading.rawTextEvents]
  split <;> simp

/-- An end tag opens nothing, though a stray one may stand for an empty paragraph. -/
theorem OpenTags.opening_notMem_endTag (endName : Text) (tags : OpenTags) :
    Emission.opening name attributes ∉ (tags.endTag endName).1 := by
  rw [OpenTags.endTag]
  split
  · simp
  · rw [OpenTags.stray]
    split
    · simp
    · split <;> simp

/-- A start tag opens one element, and that comes last. -/
theorem OpenTags.opening_startTag {d : Dialect} {expectHtml : Bool} {tag : StartTag}
    {tags : OpenTags} {before after : List Emission}
    (place : (tags.startTag d expectHtml tag).1 =
      before ++ .opening name attributes :: after) :
    after = [] ∧ tag.name = name ∧ ∃ outer, (tags.startTag d expectHtml tag).2 = name :: outer := by
  rw [OpenTags.startTag_eq] at place ⊢
  dsimp only at place ⊢
  have noOpening : Emission.opening name attributes ∉
      (tags.room d expectHtml (toLowerAscii tag.name)).1 := by
    intro member
    obtain ⟨closed, ends⟩ := OpenTags.exists_finish_of_mem_room member
    simp at ends
  rcases List.eq_nil_or_concat after with rfl | ⟨later, e, rfl⟩
  · obtain ⟨-, last⟩ := List.append_inj' place rfl
    simp only [List.cons.injEq, Emission.mk.injEq, Event.start.injEq, and_true] at last
    obtain ⟨rfl, -, opens⟩ := last
    rw [opens, if_neg Bool.false_ne_true]
    exact ⟨rfl, rfl, _, rfl⟩
  · rw [List.concat_eq_append, ← List.cons_append, ← List.append_assoc] at place
    obtain ⟨front, -⟩ := List.append_inj' place rfl
    exact absurd (front ▸ List.mem_append_right _ List.mem_cons_self) noOpening

end Openings

namespace Reading

variable {d : Dialect} {expectHtml : Bool} {source : Text} {out : List Emission} {r : Reading}

/-- Reading the source from its front has emitted `out` and come to `r`. -/
inductive Reads (d : Dialect) (expectHtml : Bool) (source : Text) : List Emission → Reading → Prop
  | begin : Reads d expectHtml source [] { rest := source }
  | step {out : List Emission} {r : Reading} (reads : Reads d expectHtml source out r)
    (more : r.rest ≠ []) :
    Reads d expectHtml source (out ++ (r.step d expectHtml).1) (r.step d expectHtml).2

namespace Reads

theorem inSource (reads : Reads d expectHtml source out r) : r.InSource source := by
  induction reads with
  | begin => exact ⟨rfl, Terminators.truthful_empty source⟩
  | step _ more ih => exact (ih.step d expectHtml more).1

/-- What is emitted later is what the reading emits from here on. -/
theorem emissions_eq (reads : Reads d expectHtml source out r) :
    emissions d expectHtml source = out ++ r.run d expectHtml := by
  induction reads with
  | begin => rfl
  | @step out r _ more ih => rw [ih, run, if_neg more, List.append_assoc]

end Reads

/-- A step opens at most one element. The tag has been read last, and is innermost. -/
theorem exists_of_opening_mem_step (inSource : r.InSource source) {before after : List Emission}
    {name : Text} {attributes : List Attribute}
    (place : (r.step d expectHtml).1 = before ++ .opening name attributes :: after) :
    after = [] ∧ (∃ outer, (r.step d expectHtml).2.openTags = name :: outer) ∧
      ∃ valid : TagName, valid.name = name := by
  have member : Emission.opening name attributes ∈ (r.step d expectHtml).1 := by
    rw [place]
    exact List.mem_append_right _ List.mem_cons_self
  rw [Reading.step] at place member ⊢
  split at member
  next tag raw =>
    rw [rawTextStep] at member
    split at member
    · exact absurd member (opening_notMem_rawTextEvents _)
    · rcases List.mem_append.1 member with inBody | inEnd
      · exact absurd inBody (opening_notMem_rawTextEvents _)
      · exact absurd inEnd (OpenTags.opening_notMem_endTag _ _)
  next notRaw =>
    obtain ⟨kept, read, -⟩ := Construct.read?_eq_direct? inSource.truthful inSource.place
    rw [notRaw] at place
    rw [read] at place member ⊢
    cases found : Construct.direct? r.rest with
    | none =>
        rw [found] at member
        simp [textStep] at member
    | some taken =>
        obtain ⟨construct, rest⟩ := taken
        rw [found] at place member
        cases construct with
        | skipped => exact absurd member List.not_mem_nil
        | endTag endName => exact absurd member (OpenTags.opening_notMem_endTag _ _)
        | startTag tag =>
            obtain ⟨last, rfl, outer, isOpen⟩ := OpenTags.opening_startTag place
            have valid := StartTag.exists_tagName (Construct.read?_of_direct? found)
            exact ⟨last, ⟨outer, isOpen⟩, valid⟩

/-- Behind the emission of an opening tag a reading has just read that tag. -/
theorem Reads.exists_of_opening {out before after : List Emission} {r : Reading} {name : Text}
    {attributes : List Attribute} (reads : Reads d expectHtml source out r)
    (place : r.run d expectHtml = before ++ .opening name attributes :: after) :
    ∃ r', Reads d expectHtml source (out ++ before ++ [.opening name attributes]) r' ∧
      (∃ outer, r'.openTags = name :: outer) ∧ ∃ valid : TagName, valid.name = name := by
  rw [run] at place
  split at place
  next ended =>
    have member : Emission.opening name attributes ∈ r.openTags.endOfSource := by
      rw [place]
      exact List.mem_append_right _ List.mem_cons_self
    simp [OpenTags.endOfSource] at member
  next more =>
    have next := reads.step more
    rcases List.append_eq_append_iff.1 place with ⟨front, rfl, later⟩ | ⟨front, here, later⟩
    · simpa only [List.append_assoc] using next.exists_of_opening later
    · cases front with
      | nil =>
          have first : (r.step d expectHtml).2.run d expectHtml =
              [] ++ .opening name attributes :: after := later.symm
          obtain ⟨r', reads', opened⟩ := next.exists_of_opening first
          rw [here, List.append_nil, List.append_nil] at reads'
          exact ⟨r', reads', opened⟩
      | cons e front =>
          obtain ⟨rfl, -⟩ := List.cons.inj later
          obtain ⟨rfl, opened⟩ := exists_of_opening_mem_step reads.inSource here
          rw [here, ← List.append_assoc] at next
          exact ⟨_, next, opened⟩
termination_by r.rest.length
decreasing_by all_goals exact length_rest_step_lt d expectHtml ‹_›

/-- Where a raw-text tag is innermost, its body comes next, and then its end. -/
theorem exists_run_eq_rawText {name : Text} {outer : OpenTags} (isOpen : r.openTags = name :: outer)
    (raw : d.isRawText (toLowerAscii name) = true) :
    ∃ later, r.run d expectHtml =
      rawTextEvents (r.rest.upTo (beginsEndTagOf (toLowerAscii name))) ++
        ⟨.finish name, .written⟩ :: later := by
  have innermost : r.rawTag? d = some (toLowerAscii name) := by
    rw [rawTag?, isOpen, OpenTags.top?, List.head?_cons, Option.map_some, Option.filter_some,
      if_pos raw]
  have body := getD_readRawText? (toLowerAscii name) r.rest
  rw [← body, run]
  split
  next ended =>
    have nothing : rawTextEvents [] = [] := by
      rw [rawTextEvents, unwrapRawText, Wrapper.remove, Wrapper.remove]
      rfl
    have unread : readRawText? (toLowerAscii name) [] = none := rfl
    rw [ended, unread, isOpen, Option.map_none, Option.getD_none, nothing]
    exact ⟨_, rfl⟩
  next more =>
    simp only [step, innermost, rawTextStep]
    cases read : readRawText? (toLowerAscii name) r.rest with
    | none =>
        have atEnd : (r.advance r.rest.length).rest = [] := List.drop_length
        dsimp only
        rw [run, if_pos atEnd, openTags_advance, isOpen]
        exact ⟨_, rfl⟩
    | some part =>
        obtain ⟨content, rest⟩ := part
        dsimp only
        rw [isOpen, OpenTags.endTag_lowered_top, List.append_assoc]
        exact ⟨_, rfl⟩

end Reading

open Reading in
/-- The body of a raw-text element is the source from behind its start tag up to the first place
where `</` and its name come in any case and a closing bracket follows, or the whole rest. That is
the first end tag of this name exactly if no character continues the name at that place. -/
theorem rawBody_emissions {d : Dialect} {expectHtml : Bool} {source : Text}
    {before after : List Emission} {name : Text} {attributes : List Attribute}
    (place : emissions d expectHtml source =
      before ++ ⟨.start name attributes false, .written⟩ :: after)
    (raw : d.isRawText (toLowerAscii name) = true) :
    ∃ r, Reads d expectHtml source (before ++ [⟨.start name attributes false, .written⟩]) r ∧
      r.rest = source.drop r.offset ∧
      let body := r.rest.upTo (beginsEndTagOf (toLowerAscii name))
      (∃ later, after = rawTextEvents body ++ ⟨.finish name, .written⟩ :: later) ∧
      (body = r.rest.upTo (isEndTagOf (toLowerAscii name)) ↔
        ∀ c ∈ (r.rest.drop (body ++ "</".toList ++ name).length).head?,
          isTagNameChar c = false) := by
  obtain ⟨r, reads, ⟨outer, isOpen⟩, valid, rfl⟩ := Reads.begin.exists_of_opening place
  rw [List.nil_append] at reads
  refine ⟨r, reads, reads.inSource.place, ?_, upTo_beginsEndTagOf_eq_iff valid r.rest⟩
  have behind : after = r.run d expectHtml := by
    rw [reads.emissions_eq, List.append_assoc] at place
    exact (List.cons.inj (List.append_cancel_left place)).2.symm
  rw [behind]
  exact exists_run_eq_rawText isOpen raw

/-- The end tag of an element whose name is only longer ends the body. -/
theorem rawBody_emissions_longerName :
    let source := "<div><script>a</scripts>b</script></div>".toList
    let script : Emission := ⟨.start "script".toList [] false, .written⟩
    let after : List Emission :=
      [⟨.text ['a'], .supplied⟩, ⟨.finish "script".toList, .written⟩, ⟨.text ['b'], .written⟩,
        ⟨.unmatchedEnd "script".toList, .written⟩, ⟨.finish "div".toList, .written⟩]
    ∃ before, emissions .web true source = before ++ script :: after ∧
      ∃ r, Reading.Reads .web true source (before ++ [script]) r ∧
        r.rest = source.drop r.offset ∧
        let body := r.rest.upTo (beginsEndTagOf "script".toList)
        (∃ later, after =
          Reading.rawTextEvents body ++ ⟨.finish "script".toList, .written⟩ :: later) ∧
        (body = r.rest.upTo (isEndTagOf "script".toList) ↔
          ∀ c ∈ (r.rest.drop (body ++ "</".toList ++ "script".toList).length).head?,
            isTagNameChar c = false) := by
  intro source script after
  have place : emissions .web true source =
      [⟨.start "div".toList [] false, .written⟩] ++ script :: after := by
    decide +kernel
  exact ⟨_, place, rawBody_emissions place (by decide)⟩

end TemplateMarkup
