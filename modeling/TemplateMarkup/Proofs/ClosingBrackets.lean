import TemplateMarkup.Proofs.RawEnds
import TemplateMarkup.Proofs.SpelledTags

/-!
# Closing brackets

Every construct ends with a closing angle bracket, and so does the body of a raw-text element with
its end tag. A reader that has found its bracket has not looked at what is behind it
(`StopsAtBracket`). So text without a bracket, put behind a source, completes nothing and ends
nothing earlier or later: it is handed back with the rest.
-/

namespace TemplateMarkup

open Text

/-- What the reader takes ends with a closing bracket, and it takes the same whatever follows the
bracket. -/
def StopsAtBracket {α : Type} (read? : Text → Option (α × Text)) : Prop :=
  ∀ s a rest, read? s = some (a, rest) → ∃ front, s = front ++ '>' :: rest ∧
    ∀ behind, read? (front ++ '>' :: behind) = some (a, behind)

namespace StopsAtBracket

variable {α : Type} {read? : Text → Option (α × Text)} (stops : StopsAtBracket read?)
variable {added s rest : Text} {a : α}

include stops

/-- Whatever is behind what is taken goes with the rest. -/
theorem append_eq_some (read : read? s = some (a, rest)) (added : Text) :
    read? (s ++ added) = some (a, rest ++ added) := by
  obtain ⟨front, rfl, blind⟩ := stops s a rest read
  rw [List.append_assoc, List.cons_append]
  exact blind (rest ++ added)

/-- Text without a closing bracket completes nothing. -/
theorem append_eq_none (unread : read? s = none) (noBracket : '>' ∉ added) :
    read? (s ++ added) = none := by
  refine Option.eq_none_iff_forall_ne_some.2 ?_
  rintro ⟨a, rest⟩ longer
  -- The bracket at which the longer text is left is one of the shorter text.
  obtain ⟨front, whole, blind⟩ := stops _ a rest longer
  rcases List.append_eq_append_iff.1 whole with ⟨more, -, split⟩ | ⟨more, rfl, split⟩
  · rw [split] at noBracket
    simp at noBracket
  · cases more with
    | nil =>
        rw [List.nil_append] at split
        rw [← split] at noBracket
        simp at noBracket
    | cons c more =>
        obtain ⟨rfl, -⟩ := List.cons.inj split
        rw [blind more] at unread
        simp at unread

end StopsAtBracket

/-- If the reader leaves a bracket for others, it has not looked behind it. -/
def BlindBehindBracket {α : Type} (read? : Text → Option (α × Text)) : Prop :=
  ∀ front a left rest, read? (front ++ '>' :: rest) = some (a, left ++ '>' :: rest) →
    ∀ behind, read? (front ++ '>' :: behind) = some (a, left ++ '>' :: behind)

/-! ### Searching up to a character -/

namespace Text

variable {c : Char} {word : Text}

section Runs

variable {p : Char → Bool} (stop : p c = false) (front rest : Text)

include stop

theorem takeWhile_append_stop : (front ++ c :: rest).takeWhile p = front.takeWhile p := by
  induction front with
  | nil => simp [stop]
  | cons x front ih => cases continues : p x <;> simp [continues, ih]

theorem dropWhile_append_stop :
    (front ++ c :: rest).dropWhile p = front.dropWhile p ++ c :: rest := by
  induction front with
  | nil => simp [stop]
  | cons x front ih => cases continues : p x <;> simp [continues, ih]

end Runs

/-- A word is passed over in front of a character that it does not hold, or not at all. -/
theorem after?_append_cons (absent : c ∉ word) (front rest : Text) :
    after? word (front ++ c :: rest) = (after? word front).map (· ++ c :: rest) := by
  induction word generalizing front with
  | nil => rfl
  | cons w word ih =>
      rw [List.mem_cons, not_or] at absent
      cases front with
      | nil => simp [after?, Ne.symm absent.1]
      | cons x front =>
          rw [List.cons_append, after?, after?, ih absent.2]
          split <;> rfl

theorem afterIgnoringCase?_append_cons (absent : c.toLower ∉ word) (front rest : Text) :
    afterIgnoringCase? word (front ++ c :: rest) =
      (afterIgnoringCase? word front).map (· ++ c :: rest) := by
  induction word generalizing front with
  | nil => rfl
  | cons w word ih =>
      rw [List.mem_cons, not_or] at absent
      cases front with
      | nil => simp [afterIgnoringCase?, Ne.symm absent.1]
      | cons x front =>
          rw [List.cons_append, afterIgnoringCase?, afterIgnoringCase?, ih absent.2]
          split <;> rfl

/-- Whether a text starts with a word is seen within the length of the word. -/
theorem afterIgnoringCase?_append_of_length_le {front : Text}
    (enough : word.length ≤ front.length) (rest : Text) :
    afterIgnoringCase? word (front ++ rest) = (afterIgnoringCase? word front).map (· ++ rest) := by
  induction word generalizing front with
  | nil => rfl
  | cons w word ih =>
      cases front with
      | nil => simp at enough
      | cons x front =>
          rw [List.cons_append, afterIgnoringCase?, afterIgnoringCase?,
            ih (Nat.le_of_succ_le_succ enough)]
          split <;> rfl

/-- What is behind the first occurrence of a word does not matter for finding it. -/
theorem cut?_append_of_cut? {s before rest : Text} (cut : cut? word s = some (before, rest))
    (behind : Text) : cut? word (before ++ word ++ behind) = some (before, behind) := by
  apply cut?_append
  rintro front later rfl nonempty occurs
  have whole := append_of_cut? cut
  have within : word <+: later ++ word := by
    apply List.prefix_of_prefix_length_le occurs (List.prefix_append _ _)
    rw [List.length_append]
    exact Nat.le_add_left _ _
  have earlier : word <+: s.drop front.length := by
    have split : s = front ++ (later ++ word ++ rest) := by simpa using whole
    rw [split, List.drop_left]
    exact within.trans (List.prefix_append _ _)
  have := length_le_of_cut? cut earlier
  have := List.length_pos_iff.2 nonempty
  rw [List.length_append] at *
  omega

end Text

/-! ### Start tags -/

/-- What stands in front of what is left when spaces are skipped. -/
theorem Spaces.exists_append_skipSpaces (s : Text) :
    ∃ spaces : Spaces, s = spaces.content ++ skipSpaces s ∧
      ∀ c ∈ (skipSpaces s).head?, isSpace c = false := by
  refine ⟨⟨s.takeWhile isSpace, fun c => List.mem_takeWhile_imp⟩,
    List.takeWhile_append_dropWhile.symm, ?_⟩
  intro c first
  have outside := List.head?_dropWhile_not isSpace s
  rw [skipSpaces] at first
  rw [Option.mem_def.1 first] at outside
  exact outside

theorem skipSpaces_append_bracket (front rest : Text) :
    skipSpaces (front ++ '>' :: rest) = skipSpaces front ++ '>' :: rest :=
  dropWhile_append_stop (by decide) front rest

namespace Attribute

/-- Up to the closing quote a value between quotes depends on nothing behind. -/
theorem blindBehindBracket_cut? (quote : Char) : BlindBehindBracket (cut? [quote]) := by
  intro front value left rest cut behind
  obtain ⟨whole, absent⟩ := cut?_singleton_eq_some_iff.1 cut
  have split : front ++ '>' :: rest = (value ++ quote :: left) ++ '>' :: rest := by
    simpa using whole
  obtain rfl := List.append_cancel_right split
  rw [List.append_assoc, List.cons_append]
  exact cut?_of_notMem absent _

theorem readValue?_of_unquoted {c : Char} {s : Text} (double : c ≠ '"') (single : c ≠ '\'') :
    readValue? (c :: s) =
      if (c :: s).takeWhile isUnquotedChar = [] then none
      else some ((c :: s).takeWhile isUnquotedChar, (c :: s).dropWhile isUnquotedChar) := by
  rw [readValue?.eq_def]
  split
  next same => exact absurd (List.cons.inj same).1 double
  next same => exact absurd (List.cons.inj same).1 single
  next =>
    split
    next nothing => rw [if_pos nothing]
    next value nonempty => rw [if_neg nonempty]

theorem blindBehindBracket_readValue? : BlindBehindBracket readValue? := by
  intro front value left rest read behind
  cases front with
  | nil => simp [readValue?_of_unquoted, isUnquotedChar] at read
  | cons c front =>
      by_cases double : c = '"'
      · subst double
        exact blindBehindBracket_cut? '"' front value left rest read behind
      by_cases single : c = '\''
      · subst single
        exact blindBehindBracket_cut? '\'' front value left rest read behind
      have stop : isUnquotedChar '>' = false := by decide
      rw [List.cons_append, readValue?_of_unquoted double single, ← List.cons_append,
        takeWhile_append_stop stop, dropWhile_append_stop stop] at read ⊢
      split at read
      · simp at read
      next nonempty =>
        simp only [Option.some.injEq, Prod.mk.injEq, List.append_cancel_right_eq] at read
        rw [if_neg nonempty, read.1, read.2]

theorem blindBehindBracket_read? : BlindBehindBracket read? := by
  intro front a left rest read behind
  have stop : isAttributeNameChar '>' = false := by decide
  by_cases named : front.takeWhile isAttributeNameChar = []
  · rw [read?, takeWhile_append_stop stop, named] at read
    simp at read
  obtain ⟨name, more, rfl, nameChars, ends⟩ : ∃ name more, front = name ++ more ∧
      (∀ c ∈ name, isAttributeNameChar c = true) ∧
        ∀ c ∈ more.head?, isAttributeNameChar c = false := by
    refine ⟨front.takeWhile isAttributeNameChar, front.dropWhile isAttributeNameChar,
      List.takeWhile_append_dropWhile.symm, fun c => List.mem_takeWhile_imp, ?_⟩
    intro c first
    have outside := List.head?_dropWhile_not isAttributeNameChar front
    rw [Option.mem_def.1 first] at outside
    exact outside
  have nonempty : name ≠ [] := by
    rintro rfl
    rw [List.nil_append] at named
    cases more with
    | nil => exact named rfl
    | cons c more => simp [ends c rfl] at named
  have endsBefore : ∀ t : Text, ∀ c ∈ (more ++ '>' :: t).head?, isAttributeNameChar c = false := by
    intro t c first
    cases more with
    | nil =>
        obtain rfl := Option.some.inj first
        exact stop
    | cons x more => exact ends c first
  rw [List.append_assoc] at read ⊢
  by_cases equals : (skipSpaces more).head? = some '='
  · obtain ⟨t, equals⟩ := List.head?_eq_some_iff.1 equals
    have assigned : ∀ r, skipSpaces (more ++ '>' :: r) = '=' :: (t ++ '>' :: r) := by
      intro r
      rw [skipSpaces_append_bracket, equals, List.cons_append]
    rw [read?_assigned nonempty nameChars (endsBefore _) (assigned _),
      skipSpaces_append_bracket] at read ⊢
    obtain ⟨⟨value, r⟩, valueRead, same⟩ := Option.map_eq_some_iff.1 read
    obtain ⟨rfl, rfl⟩ := Prod.mk.inj same
    rw [blindBehindBracket_readValue? _ _ _ _ valueRead behind]
    rfl
  · have noEquals : ∀ r, (skipSpaces (more ++ '>' :: r)).head? ≠ some '=' := by
      intro r
      rw [skipSpaces_append_bracket]
      cases spaced : skipSpaces more with
      | nil => simp
      | cons c s => simpa [spaced] using equals
    rw [read?_bare nonempty nameChars (endsBefore _) (noEquals _)] at read ⊢
    simp only [Option.some.injEq, Prod.mk.injEq, List.append_cancel_right_eq] at read
    rw [read.1, read.2]

/-- The attributes of a tag do not depend on what is behind its bracket. -/
theorem exists_of_readAll? {s rest : Text} {attributes : List Attribute} {selfClosing : Bool}
    (read : readAll? s = some (attributes, selfClosing, rest)) :
    ∃ front, s = front ++ '>' :: rest ∧
      ∀ behind, readAll? (front ++ '>' :: behind) = some (attributes, selfClosing, behind) := by
  fun_induction readAll? s generalizing attributes with
  | case1 s ended => simp at read
  | case2 s r closed =>
      simp only [Option.some.injEq, Prod.mk.injEq] at read
      obtain ⟨rfl, rfl, rfl⟩ := read
      obtain ⟨spaces, whole, -⟩ := Spaces.exists_append_skipSpaces s
      refine ⟨spaces.content, closed ▸ whole, ?_⟩
      intro behind
      exact readAll?_of_bracket (spaces.skipSpaces_append (by decide) behind)
  | case3 s t slash r closed =>
      simp only [Option.some.injEq, Prod.mk.injEq] at read
      obtain ⟨rfl, rfl, rfl⟩ := read
      obtain ⟨spaces, whole, -⟩ := Spaces.exists_append_skipSpaces s
      obtain ⟨inner, behindSlash, -⟩ := Spaces.exists_append_skipSpaces t
      rw [closed] at behindSlash
      rw [slash, behindSlash] at whole
      refine ⟨spaces.content ++ '/' :: inner.content, by simpa using whole, ?_⟩
      intro behind
      rw [List.append_assoc, List.cons_append]
      exact readAll?_of_slash (spaces.skipSpaces_append (by decide) _)
        (inner.skipSpaces_append (by decide) behind)
  | case4 s t slash unclosed => simp at read
  | case5 s unread _ _ _ => simp at read
  | case6 s a r first _ noBracket noSlash ih =>
      simp only [Option.map_eq_some_iff, Prod.exists, Prod.mk.injEq] at read
      obtain ⟨as, slash, r', others, rfl, rfl, rfl⟩ := read
      obtain ⟨front, rfl, blind⟩ := ih others
      obtain ⟨spaces, whole, solid⟩ := Spaces.exists_append_skipSpaces s
      obtain ⟨x, split⟩ := suffix_of_read? first
      rw [← List.append_assoc] at split
      -- The attribute stands in front of the bracket that ends the others.
      obtain ⟨c, taken, start⟩ : ∃ c taken, x ++ front = c :: taken := by
        apply List.exists_cons_of_ne_nil
        intro nothing
        rw [nothing] at split
        exact noBracket _ split.symm
      rw [← split, start] at first noBracket noSlash solid
      refine ⟨spaces.content ++ c :: taken, ?_, ?_⟩
      · rw [List.append_assoc, ← start, split]
        exact whole
      · intro behind
        have here := spaces.skipSpaces_append (solid c rfl) (taken ++ '>' :: behind)
        have again := blindBehindBracket_read? (c :: taken) a front r' first behind
        rw [List.append_assoc, List.cons_append,
          readAll?_of_read? here (fun same => noBracket _ (by rw [same]; rfl))
            (fun same => noSlash _ (by rw [same]; rfl)) again, blind]
        rfl

end Attribute

theorem tagName_append_bracket (front rest : Text) :
    tagName (front ++ '>' :: rest) = tagName front := by
  cases front with
  | nil => rfl
  | cons c front => rw [List.cons_append, tagName, tagName, takeWhile_append_stop (by decide)]

/-- The name in front of a bracket stays the same whatever is behind the bracket. -/
theorem tagName_of_split {t front rest : Text}
    (split : t.drop (tagName t).length = front ++ '>' :: rest) :
    t = tagName t ++ (front ++ '>' :: rest) ∧
      ∀ behind, tagName (tagName t ++ (front ++ '>' :: behind)) = tagName t := by
  have whole := tagName_append_drop t
  rw [split] at whole
  refine ⟨whole.symm, ?_⟩
  intro behind
  rw [← List.append_assoc] at whole ⊢
  calc tagName (tagName t ++ front ++ '>' :: behind)
      = tagName (tagName t ++ front) := tagName_append_bracket _ behind
    _ = tagName (tagName t ++ front ++ '>' :: rest) := (tagName_append_bracket _ rest).symm
    _ = tagName t := by rw [whole]

namespace StartTag

variable {s rest : Text} {tag : StartTag}

theorem stopsAtBracket_read? : StopsAtBracket read? := by
  intro s tag rest read
  unfold StartTag.read? at read
  split at read
  next t =>
    split at read
    · simp at read
    next named =>
      obtain ⟨⟨attributes, slash, r⟩, others, same⟩ := Option.map_eq_some_iff.1 read
      obtain ⟨rfl, rfl⟩ := Prod.mk.inj same
      obtain ⟨front, behindName, blind⟩ := Attribute.exists_of_readAll? others
      obtain ⟨whole, name⟩ := tagName_of_split behindName
      refine ⟨'<' :: (tagName t ++ front), ?_, ?_⟩
      · rw [List.cons_append, List.append_assoc, ← whole]
      · intro behind
        rw [List.cons_append, List.append_assoc, StartTag.read?, name]
        split
        next nameless => exact absurd nameless named
        next => rw [List.drop_left, blind, Option.map_some]
  · simp at read

/-- A start tag starts with its name. -/
theorem exists_eq_of_read? (read : read? s = some (tag, rest)) :
    ∃ (name : TagName) (t : Text), s = '<' :: (name.name ++ t) := by
  obtain ⟨name, same⟩ := exists_tagName read
  unfold StartTag.read? at read
  split at read
  next t =>
    split at read
    · simp at read
    · obtain ⟨⟨attributes, slash, r⟩, -, found⟩ := Option.map_eq_some_iff.1 read
      obtain ⟨rfl, -⟩ := Prod.mk.inj found
      exact ⟨name, t.drop (tagName t).length, by rw [same, tagName_append_drop]⟩
  · simp at read

end StartTag

/-! ### Constructs -/

theorem Terminator.exists_mark_eq (t : Terminator) : ∃ front, t.mark = front ++ ['>'] := by
  cases t with
  | comment => exact ⟨['-', '-'], rfl⟩
  | conditional => exact ⟨[']'], rfl⟩
  | tag => exact ⟨[], rfl⟩

namespace Construct

variable {s rest : Text}

/-- A terminator is found whatever is behind it. -/
theorem exists_of_behind? {t : Terminator} (found : behind? t s = some rest) :
    ∃ front, s = front ++ '>' :: rest ∧
      ∀ behind, behind? t (front ++ '>' :: behind) = some behind := by
  obtain ⟨⟨before, r⟩, cut, rfl⟩ := Option.map_eq_some_iff.1 found
  obtain ⟨inner, mark⟩ := t.exists_mark_eq
  have split : ∀ r, before ++ t.mark ++ r = before ++ inner ++ '>' :: r := by
    intro r
    rw [mark, List.append_assoc, List.append_assoc, List.append_assoc, List.singleton_append]
  refine ⟨before ++ inner, (append_of_cut? cut).trans (split r), ?_⟩
  intro behind
  rw [behind?, ← split, cut?_append_of_cut? cut, Option.map_some]

/-- What is skipped up to a terminator, where its opening stands in front of the bracket. -/
theorem exists_of_skipped {t : Terminator} {opened : Text → Bool}
    (direct : ∀ {s}, opened s = true → direct? s = (behind? t s).map (skipped, ·))
    (blind : ∀ front rest, opened (front ++ '>' :: rest) = opened front)
    (here : opened s = true) {construct : Construct} (found : direct? s = some (construct, rest)) :
    ∃ front, s = front ++ '>' :: rest ∧
      ∀ behind, direct? (front ++ '>' :: behind) = some (construct, behind) := by
  rw [direct here] at found
  obtain ⟨r, terminated, same⟩ := Option.map_eq_some_iff.1 found
  obtain ⟨rfl, rfl⟩ := Prod.mk.inj same
  obtain ⟨front, rfl, again⟩ := exists_of_behind? terminated
  rw [blind] at here
  refine ⟨front, rfl, ?_⟩
  intro behind
  rw [direct ((blind front behind).trans here), again, Option.map_some]

theorem stopsAtBracket_endTag? : StopsAtBracket endTag? := by
  intro s construct rest found
  obtain ⟨t, opened, named⟩ := Option.bind_eq_some_iff.1 found
  obtain rfl := after?_eq_some_iff.1 opened
  split at named
  · simp at named
  next nonempty =>
    obtain ⟨r, terminated, same⟩ := Option.map_eq_some_iff.1 named
    obtain ⟨rfl, rfl⟩ := Prod.mk.inj same
    obtain ⟨front, behindName, blind⟩ := exists_of_behind? terminated
    obtain ⟨whole, name⟩ := tagName_of_split behindName
    refine ⟨"</".toList ++ (tagName t ++ front), ?_, ?_⟩
    · rw [List.append_assoc, List.append_assoc, ← whole]
    · intro behind
      rw [List.append_assoc, List.append_assoc, endTag?, after?_append, Option.bind_some, name,
        if_neg nonempty, List.drop_left, blind, Option.map_some]

/-- A start tag is no other construct. -/
theorem direct?_of_read? {tag : StartTag} (read : StartTag.read? s = some (tag, rest)) :
    direct? s = some (startTag tag, rest) := by
  obtain ⟨name, t, rfl⟩ := StartTag.exists_eq_of_read? read
  rw [name.direct?_append, startTag?, read, Option.map_some]

/-- What construct is at the front is known when its closing bracket is. -/
theorem stopsAtBracket_direct? : StopsAtBracket direct? := by
  intro s construct rest found
  by_cases comment : (after? "<!--".toList s).isSome = true
  · refine exists_of_skipped direct?_of_comment ?_ comment found
    intro front r
    rw [after?_append_cons (by decide), Option.isSome_map]
  by_cases conditional : (after? "<![".toList s).isSome = true
  · refine exists_of_skipped direct?_of_conditional ?_ conditional found
    intro front r
    rw [after?_append_cons (by decide), Option.isSome_map]
  by_cases doctype : startsDoctype s = true
  · refine exists_of_skipped direct?_of_doctype ?_ doctype found
    intro front r
    rw [startsDoctype, startsDoctype, afterIgnoringCase?_append_cons (by decide),
      Option.isSome_map]
  cases opened : after? "</".toList s with
  | some t =>
      rw [direct?_of_endTag opened] at found
      obtain ⟨front, rfl, blind⟩ := stopsAtBracket_endTag? s construct rest found
      refine ⟨front, rfl, ?_⟩
      intro behind
      rw [after?_append_cons (by decide)] at opened
      obtain ⟨r, opened, -⟩ := Option.map_eq_some_iff.1 opened
      rw [direct?_of_endTag (t := r ++ '>' :: behind), blind]
      rw [after?_append_cons (by decide), opened, Option.map_some]
  | none =>
      rw [Option.not_isSome_iff_eq_none] at comment conditional
      rw [direct?_of_startTag comment conditional doctype opened] at found
      obtain ⟨⟨tag, r⟩, read, same⟩ := Option.map_eq_some_iff.1 found
      obtain ⟨rfl, rfl⟩ := Prod.mk.inj same
      obtain ⟨front, rfl, blind⟩ := StartTag.stopsAtBracket_read? s tag r read
      exact ⟨front, rfl, fun behind => direct?_of_read? (blind behind)⟩

end Construct

/-! ### Raw text -/

/-- The body of a raw-text element is known when the bracket of its end tag is. The mark of the end
tag stands in front of that bracket. -/
theorem exists_of_readRawText? {tag s body rest : Text}
    (read : readRawText? tag s = some (body, rest)) :
    ∃ front, s = front ++ '>' :: rest ∧ ("</".toList ++ tag).length ≤ front.length ∧
      ∀ behind, readRawText? tag (front ++ '>' :: behind) = some (body, behind) := by
  induction s generalizing body with
  | nil => simp [readRawText?, cutIgnoringCase?] at read
  | cons c s ih =>
      rw [readRawText?_cons] at read
      cases after : afterIgnoringCase? ("</".toList ++ tag) (c :: s) with
      | some r =>
          rw [after] at read
          obtain ⟨⟨inner, r'⟩, cut, same⟩ := Option.map_eq_some_iff.1 read
          obtain ⟨rfl, rfl⟩ := Prod.mk.inj same
          obtain ⟨rfl, absent⟩ := cut?_singleton_eq_some_iff.1 cut
          obtain ⟨mark, whole, lowered⟩ := afterIgnoringCase?_eq_some_iff.1 after
          have length : mark.length = ("</".toList ++ tag).length := by
            simpa [toLowerAscii] using congrArg List.length lowered
          obtain ⟨x, mark, rfl⟩ := List.exists_cons_of_ne_nil (l := mark) (by
            rintro rfl
            simp at length)
          refine ⟨x :: mark ++ inner, by rw [whole, List.append_assoc], ?_, ?_⟩
          · rw [← length, List.length_append]
            exact Nat.le_add_right _ _
          · intro behind
            have again : afterIgnoringCase? ("</".toList ++ tag)
                (x :: (mark ++ (inner ++ '>' :: behind))) = some (inner ++ '>' :: behind) :=
              afterIgnoringCase?_eq_some_iff.2 ⟨x :: mark, rfl, lowered⟩
            rw [List.append_assoc, List.cons_append, readRawText?_cons, again]
            dsimp only
            rw [cut?_of_notMem absent, Option.map_some]
      | none =>
          rw [after] at read
          obtain ⟨⟨body', r⟩, later, same⟩ := Option.map_eq_some_iff.1 read
          obtain ⟨rfl, rfl⟩ := Prod.mk.inj same
          obtain ⟨front, rfl, enough, blind⟩ := ih later
          refine ⟨c :: front, rfl, Nat.le_succ_of_le enough, ?_⟩
          intro behind
          have long : ("</".toList ++ tag).length ≤ (c :: front).length := Nat.le_succ_of_le enough
          rw [← List.cons_append, afterIgnoringCase?_append_of_length_le long,
            Option.map_eq_none_iff] at after
          rw [List.cons_append, readRawText?_cons, ← List.cons_append,
            afterIgnoringCase?_append_of_length_le long, after]
          dsimp only [Option.map_none]
          rw [blind, Option.map_some]

theorem stopsAtBracket_readRawText? (tag : Text) : StopsAtBracket (readRawText? tag) := by
  intro s body rest read
  obtain ⟨front, whole, -, blind⟩ := exists_of_readRawText? read
  exact ⟨front, whole, blind⟩

end TemplateMarkup
