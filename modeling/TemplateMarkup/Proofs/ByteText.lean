import TemplateMarkup.Proofs.ByteConstructs

/-!
# Text in bytes

Where text ends, in bytes. Raw text is searched in lowercase for its end tag, and what is found
there has the same offset in the text itself (`rawTextEnds?`). A run of text is scanned for angle
brackets, and each is measured until one starts a construct (`textEnd?`). Both end where the readers
of characters do.
-/

namespace TemplateMarkup

open Text

variable {source s rest tail : Text} {searches : Terminators}

/-! ### Raw text -/

theorem Text.utf8Size_toLower (c : Char) : c.toLower.utf8Size = c.utf8Size := by
  by_cases upper : c.isUpper = true
  · have letter := isAlpha_of_isUpper upper
    have lowered : c.toLower.isAlpha = true := by rw [isAlpha_toLower, letter]
    rw [utf8Size_ascii (toNat_lt_of_isAlpha letter), utf8Size_ascii (toNat_lt_of_isAlpha lowered)]
  · rw [toLower_eq_self upper]

theorem Text.toLowerAscii_append (s t : Text) :
    toLowerAscii (s ++ t) = toLowerAscii s ++ toLowerAscii t :=
  List.map_append

@[simp] theorem Text.utf8Length_toLowerAscii (s : Text) :
    utf8Length (toLowerAscii s) = utf8Length s := by
  induction s with
  | nil => rfl
  | cons c s ih =>
      show c.toLower.utf8Size + utf8Length (toLowerAscii s) = c.utf8Size + utf8Length s
      rw [utf8Size_toLower, ih]

theorem Text.after?_toLowerAscii (word s : Text) :
    after? word (toLowerAscii s) = (afterIgnoringCase? word s).map toLowerAscii := by
  induction word generalizing s with
  | nil => rfl
  | cons w word ih =>
      cases s with
      | nil => rfl
      | cons c s =>
          show after? (w :: word) (c.toLower :: toLowerAscii s) = _
          rw [after?, afterIgnoringCase?, ih]
          split <;> rfl

/-- To search in any case is to search in lowercase. -/
theorem Text.cut?_toLowerAscii (word s : Text) :
    cut? word (toLowerAscii s) = (cutIgnoringCase? word s).map fun (before, rest) =>
      (toLowerAscii before, toLowerAscii rest) := by
  induction s with
  | nil =>
      show cut? word [] = _
      rw [cut?, cutIgnoringCase?]
      split <;> rfl
  | cons c s ih =>
      have front := after?_toLowerAscii word (c :: s)
      change after? word (c.toLower :: toLowerAscii s) = _ at front
      show cut? word (c.toLower :: toLowerAscii s) = _
      rw [cut?, cutIgnoringCase?, front, ih]
      cases afterIgnoringCase? word (c :: s) with
      | some rest => rfl
      | none =>
          simp only [Option.map_none, Option.map_map]
          rfl

theorem Text.bracket_mem_toLowerAscii : '>' ∈ toLowerAscii s ↔ '>' ∈ s := by
  rw [toLowerAscii, List.mem_map]
  constructor
  · rintro ⟨c, member, lower⟩
    rwa [← eq_of_toLower_eq lower rfl]
  · exact fun member => ⟨'>', member, rfl⟩

/-- Where the body of the raw-text element `tag` at the front of the text ends, and where its end
tag does. -/
def rawTextEnds? (tag s : Text) : Option (Option (Nat × Nat)) :=
  let lower := toLowerAscii s
  match findByte? ("</".toList ++ tag) lower with
  | none => some none
  | some stop =>
    (dropBytes? stop lower).map fun t =>
      (findByte? ['>'] t).map fun length => (stop, stop + length + 1)

/-- A mark without a bracket does not get one in lowercase, so the search finds the bracket that is
behind the mark in the text itself. -/
theorem findByte?_bracket {mark : Text} (noBracket : '>' ∉ mark) (r : Text) :
    findByte? ['>'] (toLowerAscii (mark ++ r)) =
      (cut? ['>'] r).map fun (inner, _) => utf8Length (mark ++ inner) := by
  have absent : ∀ {inner : Text}, '>' ∉ inner → '>' ∉ toLowerAscii (mark ++ inner) := by
    intro inner noInner
    rw [bracket_mem_toLowerAscii, List.mem_append, not_or]
    exact ⟨noBracket, noInner⟩
  rw [findByte?]
  cases closed : cut? ['>'] r with
  | none =>
      have noClosing : '>' ∉ r := by
        rw [← isSome_cut?_singleton, closed]
        simp
      rw [cut?_eq_none_of_notMem (absent noClosing)]
      rfl
  | some parts =>
      obtain ⟨inner, rest⟩ := parts
      obtain ⟨rfl, noInner⟩ := cut?_singleton_eq_some_iff.1 closed
      have whole : toLowerAscii (mark ++ (inner ++ '>' :: rest)) =
          toLowerAscii (mark ++ inner) ++ '>' :: toLowerAscii rest := by
        rw [← List.append_assoc, toLowerAscii_append]
        rfl
      rw [whole, cut?_of_notMem (absent noInner)]
      simp only [Option.map_some, utf8Length_toLowerAscii]

/-- Raw text ends in bytes where it ends in characters. The name of the element has no bracket that
could be taken for the one that closes its end tag. -/
theorem rawTextEnds?_eq {tag : Text} (noBracket : '>' ∉ tag) (s : Text) :
    rawTextEnds? tag s =
      some ((readRawText? tag s).map fun (body, rest) => (utf8Length body, s.offsetOf rest)) := by
  rw [rawTextEnds?, readRawText?, findByte?, cut?_toLowerAscii]
  cases cut : cutIgnoringCase? ("</".toList ++ tag) s with
  | none => rfl
  | some parts =>
      obtain ⟨body, r⟩ := parts
      obtain ⟨mark, rfl, lowered⟩ := append_of_cutIgnoringCase? cut
      have noMark : '>' ∉ mark := by
        rw [← bracket_mem_toLowerAscii, lowered]
        simp [noBracket]
      have behind : dropBytes? (utf8Length body) (toLowerAscii (body ++ mark ++ r)) =
          some (toLowerAscii (mark ++ r)) := by
        rw [List.append_assoc, toLowerAscii_append, ← utf8Length_toLowerAscii body,
          dropBytes?_append]
      simp only [Option.map_some, utf8Length_toLowerAscii, behind, findByte?_bracket noMark]
      cases closed : cut? ['>'] r with
      | none => rfl
      | some parts =>
          obtain ⟨inner, rest⟩ := parts
          have whole : body ++ mark ++ r = body ++ (mark ++ inner) ++ ['>'] ++ rest := by
            rw [append_of_cut? closed]
            simp only [List.append_assoc]
          rw [whole]
          simp only [Option.map_some, offsetOf_append, utf8Length_append (_ ++ _) ['>'],
            utf8Length_append body]
          rfl

/-! ### Runs of text -/

def startsConstruct (s : Text) : Bool :=
  (Construct.direct? s).isSome

/-- The text before a construct, if nothing holds the angle bracket that starts one. -/
theorem upTo_startsConstruct_append {before : Text} (absent : '<' ∉ before) (s : Text) :
    (before ++ s).upTo startsConstruct = before ++ s.upTo startsConstruct := by
  induction before with
  | nil => rfl
  | cons c before ih =>
      rw [List.mem_cons, not_or] at absent
      have nothing : startsConstruct (c :: (before ++ s)) = false := by
        rw [startsConstruct, Construct.direct?_eq_none_of_head (by simp [Ne.symm absent.1])]
        rfl
      rw [List.cons_append, upTo, if_neg (by simp [nothing]), ih absent.2, List.cons_append]

theorem textBeforeConstruct_eq {offset : Nat} (truthful : searches.Truthful source)
    (place : s = source.drop offset) :
    (textBeforeConstruct offset s searches).1 = s.upTo startsConstruct := by
  induction s generalizing offset searches with
  | nil => rfl
  | cons c s ih =>
      obtain ⟨kept, read, still⟩ := Construct.read?_eq_direct? truthful place
      have next : s = source.drop (offset + 1) := by
        rw [← List.drop_drop, ← place]
        rfl
      rw [textBeforeConstruct, read, upTo, startsConstruct]
      cases Construct.direct? (c :: s) with
      | some taken => rfl
      | none => exact congrArg (c :: ·) (ih still next)

/-- A run of text is its first character and what is in front of the next construct. -/
theorem textRun_eq {offset : Nat} {c : Char} (truthful : searches.Truthful source)
    (place : c :: s = source.drop offset) :
    (textRun offset (c :: s) searches).1 = c :: s.upTo startsConstruct := by
  have later : s = source.drop (offset + 1) := by
    rw [← List.drop_drop, ← place]
    rfl
  exact congrArg (c :: ·) (textBeforeConstruct_eq truthful later)

theorem add_lt_of_findByte? {word : Text} {stop i : Nat} (nonempty : word ≠ [])
    (dropped : dropBytes? stop rest = some tail) (found : findByte? word tail = some i) :
    stop + i < utf8Length rest := by
  obtain ⟨front, rfl, rfl⟩ := exists_append_of_dropBytes? dropped
  obtain ⟨⟨before, behind⟩, cut, rfl⟩ := Option.map_eq_some_iff.1 found
  have := utf8Length_pos nonempty
  rw [append_of_cut? cut]
  simp only [utf8Length_append]
  omega

/-- Where the run of text at the front of `rest` ends, if not before `stop`. The text begins at byte
`start` of the source. -/
def textEnd? (source : Text) (start : Nat) (rest : Text) (stop : Nat) (searches : Terminators) :
    Option (Nat × Terminators) :=
  match _h : dropBytes? stop rest with
  | none => none
  | some tail =>
    match _h' : findByte? ['<'] tail with
    | none => some (utf8Length rest, searches)
    | some i =>
      match Construct.measure? source (start + stop + i) searches with
      | none => none
      | some (some _, searches) => some (stop + i, searches)
      | some (none, searches) => textEnd? source start rest (stop + i + 1) searches
termination_by utf8Length rest - stop
decreasing_by
  have := add_lt_of_findByte? (by simp) _h _h'
  omega

/-- A run of text ends where a construct starts. -/
theorem textEnd?_eq (truthful : searches.TruthfulInBytes source) (place : rest <:+ source)
    (inside : tail <:+ rest) :
    ∃ kept, textEnd? source (source.offsetOf rest) rest (rest.offsetOf tail) searches =
        some (rest.offsetOf (tail.drop (tail.upTo startsConstruct).length), kept) ∧
      kept.TruthfulInBytes source := by
  induction length : tail.length using Nat.strong_induction_on generalizing tail searches with
  | _ n ih =>
  subst length
  rw [textEnd?]
  split
  next failed => rw [dropBytes?_offsetOf inside] at failed; simp at failed
  next tail' dropped =>
  obtain rfl : tail = tail' := Option.some.inj ((dropBytes?_offsetOf inside).symm.trans dropped)
  split
  next absent =>
    have noBracket : '<' ∉ tail := by
      rw [← isSome_cut?_singleton]
      simpa [findByte?] using absent
    have whole := upTo_startsConstruct_append noBracket []
    rw [List.append_nil] at whole
    refine ⟨searches, ?_, truthful⟩
    rw [whole, upTo, List.append_nil, List.drop_length, offsetOf_nil]
  next i found =>
    obtain ⟨⟨before, behind⟩, cut, rfl⟩ := Option.map_eq_some_iff.1 found
    obtain ⟨rfl, first⟩ := cut?_singleton_eq_some_iff.1 cut
    have bracket : '<' :: behind <:+ rest := (List.suffix_append before _).trans inside
    have stop := offsetOf_eq_add inside
    have next := offsetOf_cons (by decide) bracket
    have start := offsetOf_trans place bracket
    obtain ⟨kept, measured, still⟩ := Construct.measures_direct? truthful (bracket.trans place)
    have here : source.offsetOf rest + rest.offsetOf (before ++ '<' :: behind) + utf8Length before =
        source.offsetOf ('<' :: behind) := by omega
    dsimp only
    rw [here, measured, upTo_startsConstruct_append first, List.length_append, ← List.drop_drop,
      List.drop_left, upTo, startsConstruct]
    cases Construct.direct? ('<' :: behind) with
    | some taken => exact ⟨kept, by simp [stop], still⟩
    | none =>
        have shorter : behind.length < (before ++ '<' :: behind).length := by
          rw [List.length_append, List.length_cons]
          omega
        obtain ⟨kept, ended, still⟩ :=
          ih _ shorter still ((List.suffix_cons '<' behind).trans bracket) rfl
        refine ⟨kept, ?_, still⟩
        rw [next, stop] at ended
        simpa using ended

end TemplateMarkup
