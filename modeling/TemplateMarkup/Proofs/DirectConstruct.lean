import TemplateMarkup.Markup.Construct
import TemplateMarkup.Proofs.Remainder
import TemplateMarkup.Proofs.Terminators

/-!
# Constructs by direct search

`Construct.read?` tries the forms of markup in a fixed order, gives up early where no closing angle
bracket is ahead, and takes its terminators from searches made before. `Construct.direct?` says what
it is to find: each form has a recognizer of its own, which searches the source itself and knows of
no other. The two agree wherever the kept searches are truthful.
-/

namespace TemplateMarkup

open Text

namespace Construct

/-- What follows the first occurrence of the terminator. -/
def behind? (t : Terminator) (s : Text) : Option Text :=
  (cut? t.mark s).map (·.2)

/-- A comment, and what follows it. The search for its end begins at its very front. -/
def comment? (s : Text) : Option (Construct × Text) :=
  (after? "<!--".toList s).bind fun _ => (behind? .comment s).map (skipped, ·)

/-- A conditional comment, and what follows it. The search for its end begins at its front. -/
def conditional? (s : Text) : Option (Construct × Text) :=
  (after? "<![".toList s).bind fun _ => (behind? .conditional s).map (skipped, ·)

def doctype? (s : Text) : Option (Construct × Text) :=
  if startsDoctype s then (behind? .tag s).map (skipped, ·) else none

def endTag? (s : Text) : Option (Construct × Text) :=
  (after? "</".toList s).bind fun t =>
    if tagName t = [] then none
    else (behind? .tag (t.drop (tagName t).length)).map (endTag (tagName t), ·)

def startTag? (s : Text) : Option (Construct × Text) :=
  (StartTag.read? s).map fun (tag, rest) => (startTag tag, rest)

/-- The construct at the front of a text, and what follows it. -/
def direct? (s : Text) : Option (Construct × Text) :=
  (comment? s).or <| (conditional? s).or <| (doctype? s).or <| (endTag? s).or (startTag? s)

/-- A construct with its length, given what follows it in `s`. -/
def withLength (s : Text) : Construct × Text → Construct × Nat :=
  fun (construct, rest) => (construct, s.length - rest.length)

/-! ### What each recognizer takes -/

theorem suffix_of_behind? {t : Terminator} {s rest : Text} (behind : behind? t s = some rest) :
    t.mark ++ rest <:+ s := by
  obtain ⟨⟨before, rest⟩, cut, rfl⟩ := Option.map_eq_some_iff.1 behind
  exact suffix_of_cut? cut

theorem suffix_of_direct? {s rest : Text} {construct : Construct}
    (found : direct? s = some (construct, rest)) : rest <:+ s := by
  have skips : ∀ {t : Terminator}, (behind? t s).map (skipped, ·) = some (construct, rest) →
      rest <:+ s := by
    intro t found
    obtain ⟨rest, behind, same⟩ := Option.map_eq_some_iff.1 found
    obtain ⟨-, rfl⟩ := Prod.mk.inj same
    exact (List.suffix_append _ _).trans (suffix_of_behind? behind)
  simp only [direct?, Option.or_eq_some_iff] at found
  rcases found with comment | ⟨-, conditional | ⟨-, doctype | ⟨-, endTag | ⟨-, startTag⟩⟩⟩⟩
  · obtain ⟨_, -, comment⟩ := Option.bind_eq_some_iff.1 comment
    exact skips comment
  · obtain ⟨_, -, conditional⟩ := Option.bind_eq_some_iff.1 conditional
    exact skips conditional
  · unfold doctype? at doctype
    split at doctype
    · exact skips doctype
    · simp at doctype
  · obtain ⟨t, opened, endTag⟩ := Option.bind_eq_some_iff.1 endTag
    split at endTag
    · simp at endTag
    · obtain ⟨rest, behind, same⟩ := Option.map_eq_some_iff.1 endTag
      obtain ⟨-, rfl⟩ := Prod.mk.inj same
      have inside : t <:+ s := ⟨_, (after?_eq_some_iff.1 opened).symm⟩
      exact (List.suffix_append _ _).trans <| (suffix_of_behind? behind).trans <|
        (List.drop_suffix _ t).trans inside
  · obtain ⟨⟨tag, rest⟩, read, same⟩ := Option.map_eq_some_iff.1 startTag
    obtain ⟨-, rfl⟩ := Prod.mk.inj same
    exact (List.suffix_cons _ _).trans (StartTag.suffix_of_read? read)

/-! ### Where no construct starts -/

/-- Every construct starts with an angle bracket. -/
theorem direct?_eq_none_of_head {s : Text} (head : s.head? ≠ some '<') : direct? s = none := by
  cases s with
  | nil => rfl
  | cons c s =>
      have other : c ≠ '<' := fun same => head (by rw [same]; rfl)
      have otherCase : '<' ≠ c.toLower := fun same => other (eq_of_toLower_eq same.symm rfl)
      have noStart : StartTag.read? (c :: s) = none := by
        unfold StartTag.read?
        split
        next front => exact absurd (List.cons.inj front).1 other
        · rfl
      simp [direct?, comment?, conditional?, doctype?, endTag?, startTag?, startsDoctype, after?,
        afterIgnoringCase?, other.symm, otherCase, noStart]

/-! ### Where only one form is opened -/

theorem direct?_of_comment {s : Text} (opened : (after? "<!--".toList s).isSome = true) :
    direct? s = (behind? .comment s).map (skipped, ·) := by
  obtain ⟨r, opened⟩ := Option.isSome_iff_exists.1 opened
  obtain rfl := after?_eq_some_iff.1 opened
  simp [direct?, comment?, conditional?, doctype?, endTag?, startTag?, startsDoctype, after?,
    afterIgnoringCase?, StartTag.read?, tagName]

theorem direct?_of_conditional {s : Text} (opened : (after? "<![".toList s).isSome = true) :
    direct? s = (behind? .conditional s).map (skipped, ·) := by
  obtain ⟨r, opened⟩ := Option.isSome_iff_exists.1 opened
  obtain rfl := after?_eq_some_iff.1 opened
  simp [direct?, comment?, conditional?, doctype?, endTag?, startTag?, startsDoctype, after?,
    afterIgnoringCase?, StartTag.read?, tagName]

theorem direct?_of_endTag {s t : Text} (opened : after? "</".toList s = some t) :
    direct? s = endTag? s := by
  obtain rfl := after?_eq_some_iff.1 opened
  simp [direct?, comment?, conditional?, doctype?, startTag?, startsDoctype, after?,
    afterIgnoringCase?, StartTag.read?, tagName]

/-- A doctype starts with the characters that are no letters as they are. -/
theorem eq_of_startsDoctype {s : Text} (opened : startsDoctype s = true) :
    ∃ c r, s = '<' :: '!' :: c :: r ∧ c ≠ '-' ∧ c ≠ '[' := by
  obtain ⟨rest, opened⟩ := Option.isSome_iff_exists.1 opened
  have letters : "<!doctype".toList = '<' :: '!' :: 'd' :: "octype".toList := rfl
  rw [letters] at opened
  rcases s with _ | ⟨c₀, _ | ⟨c₁, _ | ⟨c, r⟩⟩⟩
  · simp [afterIgnoringCase?] at opened
  · simp [afterIgnoringCase?] at opened
  · simp [afterIgnoringCase?] at opened
  · simp only [afterIgnoringCase?, Option.ite_none_right_eq_some] at opened
    obtain ⟨first, second, letter, -⟩ := opened
    obtain rfl := eq_of_toLower_eq first.symm rfl
    obtain rfl := eq_of_toLower_eq second.symm rfl
    refine ⟨c, r, rfl, ?_, ?_⟩
    · rintro rfl
      exact absurd letter (by decide)
    · rintro rfl
      exact absurd letter (by decide)

theorem direct?_of_doctype {s : Text} (opened : startsDoctype s = true) :
    direct? s = (behind? .tag s).map (skipped, ·) := by
  have doctype : doctype? s = (behind? .tag s).map (skipped, ·) := if_pos opened
  obtain ⟨c, r, rfl, noDash, noBracket⟩ := eq_of_startsDoctype opened
  rw [direct?, doctype]
  simp [comment?, conditional?, endTag?, startTag?, after?, StartTag.read?, tagName, noDash.symm,
    noBracket.symm]

theorem direct?_of_startTag {s : Text} (noComment : after? "<!--".toList s = none)
    (noConditional : after? "<![".toList s = none) (noDoctype : ¬ startsDoctype s = true)
    (noEndTag : after? "</".toList s = none) : direct? s = startTag? s := by
  simp only [direct?, comment?, conditional?, doctype?, endTag?, noComment, noConditional,
    if_neg noDoctype, noEndTag, Option.bind_none, Option.none_or]

/-- A closing angle bracket ends every construct but comments. -/
theorem direct?_eq_none_of_unclosed {s : Text} (noComment : after? "<!--".toList s = none)
    (noConditional : after? "<![".toList s = none) (unclosed : find? ['>'] s = none) :
    direct? s = none := by
  have nothingBehind : ∀ {rest t : Text}, t <:+ s → ¬ '>' :: rest <:+ t := by
    intro rest t inside ⟨before, split⟩
    obtain ⟨front, whole⟩ := inside
    apply find?_append_ne_none (front ++ before) ['>'] rest
    rw [← unclosed, ← whole, ← split]
    simp
  have noEnd : ∀ {t : Text}, t <:+ s → behind? .tag t = none := by
    intro t inside
    cases behind : behind? .tag t with
    | none => rfl
    | some rest => exact absurd (suffix_of_behind? behind) (nothingBehind inside)
  have noStart : StartTag.read? s = none := by
    cases read : StartTag.read? s with
    | none => rfl
    | some taken =>
        exact absurd (StartTag.suffix_of_read? read) (nothingBehind List.suffix_rfl)
  have noEndTag : endTag? s = none := by
    rw [endTag?]
    cases opened : after? "</".toList s with
    | none => rfl
    | some t =>
        have inside : t <:+ s := ⟨_, (after?_eq_some_iff.1 opened).symm⟩
        simp [noEnd ((List.drop_suffix _ t).trans inside)]
  have neither : comment? s = none ∧ conditional? s = none := by
    simp only [comment?, conditional?, noComment, noConditional, Option.bind_none, and_self]
  simp [direct?, neither, doctype?, startTag?, noEndTag, noStart, noEnd List.suffix_rfl]

/-! ### Agreement -/

section Agreement

variable {source : Text} {searches : Terminators} {offset : Nat} {s : Text}

/-- A search behind the first `k` characters finds the terminator where a cut of them does. -/
theorem map_firstFrom (place : s = source.drop offset) (t : Terminator) (k : Nat)
    (construct : Construct) :
    ((t.firstFrom source (offset + k)).map fun i => (construct, i - offset + t.mark.length)) =
      ((behind? t (s.drop k)).map (construct, ·)).map (withLength s) := by
  have marked : 0 < t.mark.length := by cases t <;> decide
  rw [Terminator.firstFrom, behind?, ← List.drop_drop, ← place, find?_eq_map_cut?]
  cases cut : cut? t.mark (s.drop k) with
  | none => rfl
  | some parts =>
      obtain ⟨before, rest⟩ := parts
      have lengths := length_of_cut? cut
      rw [List.length_drop] at lengths
      simp only [Option.map_some, withLength, Option.some.injEq, Prod.mk.injEq, true_and]
      omega

/-- The searches kept in a reading are correct, and it found what a direct search finds. -/
def Agrees (source s : Text) (direct : Option (Construct × Text))
    (read : Option (Construct × Nat) × Terminators) : Prop :=
  read.1 = direct.map (withLength s) ∧ read.2.Truthful source

variable (truthful : searches.Truthful source) (place : s = source.drop offset)

include truthful

theorem agrees_none {direct : Option (Construct × Text)} (nothing : direct = none) :
    Agrees source s direct (none, searches) :=
  ⟨by rw [nothing]; rfl, truthful⟩

include place

/-- What is skipped up to a terminator. -/
theorem agrees_skipped (t : Terminator) :
    Agrees source s ((behind? t s).map (skipped, ·))
      ((searches.find t offset s).1.map fun i => (skipped, i - offset + t.mark.length),
        (searches.find t offset s).2) := by
  obtain ⟨kept, found, still⟩ := truthful.find t place
  rw [found]
  exact ⟨map_firstFrom place t 0 skipped, still⟩

theorem agrees_readEndTag? {t : Text} (opened : after? "</".toList s = some t) :
    Agrees source s (endTag? s) (read?.readEndTag? offset t searches) := by
  have whole : s.drop 2 = t := by rw [after?_eq_some_iff.1 opened]; rfl
  have direct : endTag? s = if tagName t = [] then none
      else (behind? .tag (t.drop (tagName t).length)).map (endTag (tagName t), ·) := by
    rw [endTag?, opened, Option.bind_some]
  rw [read?.readEndTag?]
  split
  next nameless => exact agrees_none truthful (by rw [direct, if_pos nameless])
  next named =>
    have stop := map_firstFrom place .tag (2 + (tagName t).length) (endTag (tagName t))
    rw [← List.drop_drop, whole, ← Nat.add_assoc] at stop
    have behindName :
        t.drop (tagName t).length = source.drop (offset + 2 + (tagName t).length) := by
      rw [← whole, place]
      simp only [List.drop_drop, Nat.add_assoc]
    obtain ⟨kept, found, still⟩ := truthful.find .tag behindName
    rw [found, direct, if_neg named]
    exact ⟨stop, still⟩

/-- What is read with the help of kept searches is what a direct search finds. -/
theorem agrees_read? : Agrees source s (direct? s) (read? offset s searches) := by
  rw [read?]
  split
  next head => exact agrees_none truthful (direct?_eq_none_of_head head)
  split
  next comment =>
    rw [direct?_of_comment comment]
    exact agrees_skipped truthful place .comment
  next noComment =>
  split
  next conditional =>
    rw [direct?_of_conditional conditional]
    exact agrees_skipped truthful place .conditional
  next noConditional =>
  rw [Option.not_isSome_iff_eq_none] at noComment noConditional
  have skips := agrees_skipped truthful place .tag
  obtain ⟨kept, found, still⟩ := truthful.find .tag place
  rw [found] at skips ⊢
  cases ahead : Terminator.tag.firstFrom source offset with
  | none =>
      apply agrees_none still
      apply direct?_eq_none_of_unclosed noComment noConditional
      rw [place]
      exact Option.map_eq_none_iff.1 ahead
  | some i =>
      rw [ahead] at skips
      dsimp only
      split
      next doctype =>
        rw [direct?_of_doctype doctype]
        exact skips
      next noDoctype =>
        split
        next t opened =>
          rw [direct?_of_endTag opened]
          exact agrees_readEndTag? still place opened
        next noEndTag =>
          rw [direct?_of_startTag noComment noConditional noDoctype noEndTag, startTag?]
          refine ⟨?_, still⟩
          rw [Option.map_map]
          rfl

/-- Reading with kept searches, as an equation. -/
theorem read?_eq_direct? :
    ∃ kept, read? offset s searches = ((direct? s).map (withLength s), kept) ∧
      kept.Truthful source :=
  ⟨_, Prod.ext (agrees_read? truthful place).1 rfl, (agrees_read? truthful place).2⟩

end Agreement

/-- A construct takes at least one character. -/
theorem length_lt_of_direct? {s rest : Text} {construct : Construct}
    (found : direct? s = some (construct, rest)) : rest.length < s.length := by
  have place : s = s.drop 0 := rfl
  obtain ⟨kept, read, -⟩ := read?_eq_direct? (Terminators.truthful_empty s) place
  have taken : (read? 0 s {}).1 = some (construct, s.length - rest.length) := by
    rw [read, found]
    rfl
  have := length_pos_of_read? taken
  omega

end Construct

end TemplateMarkup
