import TemplateMarkup.Proofs.ByteScanning
import TemplateMarkup.Proofs.CachedSearches

/-!
# Constructs in bytes

A reader in bytes looks at a construct twice. First it measures how long the construct is that
begins at a byte, with the searches that were kept (`measure?`). Then it takes as much as was
measured, and asks again what the construct is, by other tests: whether `</` or `<!` is at the
front, and if neither is, by scanning the start tag once more (`take?`). Were the last scan to fail,
nothing would be taken. The two agree, because both see what `direct?` finds.
-/

namespace TemplateMarkup

open Text

namespace Construct

variable {source s rest behind : Text} {searches : Terminators} {construct : Construct}

inductive Form where
  /-- A comment, conditional comment or doctype. -/
  | skipped
  | endTag
  | startTag
deriving DecidableEq, Repr

def form : Construct → Form
  | skipped => .skipped
  | endTag _ => .endTag
  | startTag _ => .startTag

/-- The bytes of the text start with those of a doctype, in any case. -/
def startsDoctypeInBytes (s : Text) : Bool :=
  (s.bytes.take 9).map (fun b => (Char.ofUInt8 b).toLower) = "<!doctype".toList

/-- The form and the length of the construct that begins at byte `i`. -/
def measure? (source : Text) (i : Nat) (searches : Terminators) :
    Option (Option (Form × Nat) × Terminators) :=
  (dropBytes? i source).bind fun s =>
    if s.head? ≠ some '<' then some (none, searches)
    else if (after? "<!--".toList s).isSome then
      (searches.findByte? .comment i source).map fun (stop, searches) =>
        (stop.map fun j => (.skipped, j - i + 3), searches)
    else if (after? "<![".toList s).isSome then
      (searches.findByte? .conditional i source).map fun (stop, searches) =>
        (stop.map fun j => (.skipped, j - i + 2), searches)
    else
      (searches.findByte? .tag i source).bind fun
        | (none, searches) => some (none, searches)
        | (some j, searches) =>
          if startsDoctypeInBytes s then some (some (.skipped, j - i + 1), searches)
          else
            match after? "</".toList s with
            | some t =>
              (scanTagName? t).bind fun name =>
                if name = [] then some (none, searches)
                else
                  (searches.findByte? .tag (i + 2 + utf8Length name) source).map
                    fun (stop, searches) => (stop.map fun j => (.endTag, j - i + 1), searches)
            | none =>
              (StartTag.scan? s).map fun found =>
                (found.map fun (_, length) => (.startTag, length), searches)

/-- What is taken at byte `i`, where a construct of this length was measured, and how much. -/
def take? (source : Text) (i length : Nat) : Option (Option (Construct × Nat)) :=
  (dropBytes? i source).bind fun s =>
    if (after? "</".toList s).isSome then
      (dropBytes? 2 s).bind fun t => (scanTagName? t).map fun name => some (endTag name, length)
    else if (after? "<!".toList s).isSome then some (some (skipped, length))
    else
      (StartTag.scan? s).map fun found =>
        found.map fun (tag, length) => (startTag tag, length)

/-! ### Doctypes -/

theorem toLower_beyondAscii {c : Char} (beyond : 0x80 ≤ c.toNat) : c.toLower = c := by
  apply toLower_eq_self
  intro upper
  have := toNat_lt_of_isAlpha (isAlpha_of_isUpper upper)
  omega

/-- A word of ASCII is at the front of a text if it is at the front of its bytes. -/
theorem take_bytes_eq_iff {word : Text} (ascii : ∀ c ∈ word, c.toNat < 0x80) :
    (s.bytes.take word.length).map (fun b => (Char.ofUInt8 b).toLower) = word ↔
      (afterIgnoringCase? word s).isSome = true := by
  induction word generalizing s with
  | nil => simp [afterIgnoringCase?]
  | cons w word ih =>
      obtain ⟨first, others⟩ := List.forall_mem_cons.1 ascii
      cases s with
      | nil => simp [bytes, afterIgnoringCase?]
      | cons c s =>
          obtain inAscii | beyond := Nat.lt_or_ge c.toNat 0x80
          · obtain ⟨b, only, same⟩ := utf8EncodeChar_ascii inAscii
            rw [bytes_cons, only, List.singleton_append, List.length_cons, List.take_succ_cons,
              List.map_cons, List.cons.injEq, same, ih others, afterIgnoringCase?, eq_comm]
            split <;> simp [*]
          · obtain ⟨b, more, encoded⟩ :=
              List.exists_cons_of_ne_nil (String.utf8EncodeChar_ne_nil (c := c))
            have byte := utf8EncodeChar_beyondAscii beyond b (by simp [encoded])
            have noByte := ne_of_beyondAscii byte first
            have noChar := (ne_of_beyondAscii beyond first).symm
            rw [bytes_cons, encoded, List.cons_append, List.length_cons, List.take_succ_cons,
              List.map_cons, List.cons.injEq, toLower_beyondAscii byte, afterIgnoringCase?,
              toLower_beyondAscii beyond, if_neg noChar]
            simp [noByte]

theorem startsDoctypeInBytes_eq (s : Text) : startsDoctypeInBytes s = startsDoctype s := by
  rw [startsDoctypeInBytes, startsDoctype, Bool.eq_iff_iff, decide_eq_true_iff]
  have ascii : ∀ c ∈ "<!doctype".toList, c.toNat < 0x80 := by simp
  exact take_bytes_eq_iff ascii

/-! ### What is measured -/

/-- The form and the length in bytes of a construct, given what follows it in `s`. -/
def measured (s : Text) : Construct × Text → Form × Nat :=
  fun (construct, behind) => (construct.form, s.offsetOf behind)

/-- A terminator that is found in bytes ends the construct where a cut does. -/
theorem map_firstByte (place : s <:+ source) (inside : rest <:+ s) (t : Terminator)
    (construct : Construct) :
    ((t.firstByte source rest).map fun j =>
        (construct.form, j - source.offsetOf s + t.mark.length)) =
      ((behind? t rest).map (construct, ·)).map (measured s) := by
  have length : utf8Length t.mark = t.mark.length := by cases t <;> decide
  rw [Terminator.firstByte, behind?]
  cases cut : cut? t.mark rest with
  | none => rfl
  | some parts =>
      obtain ⟨before, behind⟩ := parts
      have found : t.mark ++ behind <:+ s := (suffix_of_cut? cut).trans inside
      have start := offsetOf_trans place found
      have stop := offsetOf_eq_add found
      simp only [Option.map_some, measured, Option.some.injEq, Prod.mk.injEq, true_and]
      omega

/-- The searches kept in a measurement are correct, and it found what a direct search finds. -/
def Measures (source s : Text) (direct : Option (Construct × Text))
    (read : Option (Option (Form × Nat) × Terminators)) : Prop :=
  ∃ kept, read = some (direct.map (measured s), kept) ∧ kept.TruthfulInBytes source

section Measurement

variable (truthful : searches.TruthfulInBytes source) (place : s <:+ source)

include truthful

theorem measures_none {direct : Option (Construct × Text)} (nothing : direct = none) :
    Measures source s direct (some (none, searches)) :=
  ⟨searches, by rw [nothing]; rfl, truthful⟩

include place

/-- What runs from a place inside the construct to a terminator. -/
theorem measures_behind (inside : rest <:+ s) (t : Terminator) (construct : Construct) :
    Measures source s ((behind? t rest).map (construct, ·))
      ((searches.findByte? t (source.offsetOf rest) source).map fun (stop, searches) =>
        (stop.map fun j => (construct.form, j - source.offsetOf s + t.mark.length), searches)) := by
  obtain ⟨kept, found, still⟩ := truthful.findByte? t (inside.trans place)
  refine ⟨kept, ?_, still⟩
  rw [found, Option.map_some]
  dsimp only
  rw [map_firstByte place inside]

theorem measures_endTag {t : Text} (opened : after? "</".toList s = some t) :
    Measures source s (endTag? s)
      ((scanTagName? t).bind fun name =>
        if name = [] then some (none, searches)
        else
          (searches.findByte? .tag (source.offsetOf s + 2 + utf8Length name) source).map
            fun (stop, searches) =>
              (stop.map fun j => (.endTag, j - source.offsetOf s + 1), searches)) := by
  obtain rfl : s = "</".toList ++ t := after?_eq_some_iff.1 opened
  have inside : t <:+ "</".toList ++ t := List.suffix_append _ t
  have behindSlash : source.offsetOf t = source.offsetOf ("</".toList ++ t) + 2 :=
    offsetOf_eq_add place
  have behindName := offsetOf_drop_tagName (inside.trans place)
  rw [scanTagName?_eq, Option.bind_some, endTag?, after?_append, Option.bind_some]
  split
  next => exact measures_none truthful rfl
  next =>
    rw [← behindSlash, ← behindName]
    exact measures_behind truthful place ((List.drop_suffix _ t).trans inside) .tag _

/-- What is measured is what a direct search finds. -/
theorem measures_direct? :
    Measures source s (direct? s) (measure? source (source.offsetOf s) searches) := by
  rw [measure?, dropBytes?_offsetOf place, Option.bind_some]
  split
  next head => exact measures_none truthful (direct?_eq_none_of_head head)
  split
  next comment =>
    rw [direct?_of_comment comment]
    exact measures_behind truthful place List.suffix_rfl .comment skipped
  next noComment =>
  split
  next conditional =>
    rw [direct?_of_conditional conditional]
    exact measures_behind truthful place List.suffix_rfl .conditional skipped
  next noConditional =>
  rw [Option.not_isSome_iff_eq_none] at noComment noConditional
  obtain ⟨kept, found, still⟩ := truthful.findByte? .tag place
  have skips := map_firstByte place List.suffix_rfl .tag skipped
  rw [found, Option.bind_some, startsDoctypeInBytes_eq]
  cases ahead : Terminator.tag.firstByte source s with
  | none =>
      apply measures_none still
      apply direct?_eq_none_of_unclosed noComment noConditional
      rw [find?_eq_map_cut?]
      exact Option.map_eq_none_iff.2 (Option.map_eq_none_iff.1 ahead)
  | some j =>
      rw [ahead] at skips
      dsimp only
      split
      next doctype =>
        rw [direct?_of_doctype doctype]
        exact ⟨kept, congrArg (fun taken => some (taken, kept)) skips, still⟩
      next noDoctype =>
        split
        next t opened =>
          rw [direct?_of_endTag opened]
          exact measures_endTag still place opened
        next noEndTag =>
          rw [direct?_of_startTag noComment noConditional noDoctype noEndTag, startTag?]
          refine ⟨kept, ?_, still⟩
          rw [StartTag.scan?_eq, Option.map_some, Option.map_map, Option.map_map]
          rfl

end Measurement

/-! ### What is taken -/

/-- What begins with an exclamation mark is skipped. -/
theorem eq_skipped_of_direct? {t : Text} (opened : after? "<!".toList s = some t)
    (found : direct? s = some (construct, behind)) : construct = skipped := by
  have skips : ∀ {t : Terminator}, (behind? t s).map (skipped, ·) = some (construct, behind) →
      construct = skipped := by
    intro t found
    obtain ⟨rest, -, same⟩ := Option.map_eq_some_iff.1 found
    exact (Prod.mk.inj same).1.symm
  have noTag : endTag? s = none ∧ startTag? s = none := by
    rw [after?_eq_some_iff.1 opened]
    simp [endTag?, startTag?, after?, StartTag.read?, tagName]
  simp only [direct?, noTag.1, noTag.2, Option.or_none, Option.or_eq_some_iff] at found
  rcases found with comment | ⟨-, conditional | ⟨-, doctype⟩⟩
  · obtain ⟨_, -, comment⟩ := Option.bind_eq_some_iff.1 comment
    exact skips comment
  · obtain ⟨_, -, conditional⟩ := Option.bind_eq_some_iff.1 conditional
    exact skips conditional
  · exact skips (Option.ite_none_right_eq_some.1 doctype).2

/-- Where neither `</` nor `<!` is at the front, a construct can only be a start tag. -/
theorem direct?_of_noMark (noEndTag : after? "</".toList s = none)
    (noSkip : after? "<!".toList s = none) : direct? s = startTag? s := by
  have longer : ∀ more, after? ("<!".toList ++ more) s = none := by
    intro more
    rw [after?_eq_none_iff] at noSkip ⊢
    exact fun front => noSkip ((List.prefix_append _ more).trans front)
  have noDoctype : ¬ startsDoctype s = true := by
    intro opened
    obtain ⟨c, r, rfl, -⟩ := eq_of_startsDoctype opened
    simp [after?] at noSkip
  exact direct?_of_startTag (longer ['-', '-']) (longer ['[']) noDoctype noEndTag

/-- What was measured is taken, and as much of it. -/
theorem take?_eq (place : s <:+ source) (found : direct? s = some (construct, behind)) :
    take? source (source.offsetOf s) (s.offsetOf behind) =
      some (some (construct, s.offsetOf behind)) := by
  rw [take?, dropBytes?_offsetOf place, Option.bind_some]
  cases opened : after? "</".toList s with
  | some t =>
      have named : construct = endTag (tagName t) := by
        rw [direct?_of_endTag opened, endTag?, opened, Option.bind_some] at found
        obtain ⟨rest, -, same⟩ :=
          Option.map_eq_some_iff.1 (Option.ite_none_left_eq_some.1 found).2
        exact (Prod.mk.inj same).1.symm
      have cut : dropBytes? 2 s = some t := by
        rw [after?_eq_some_iff.1 opened]
        exact dropBytes?_append "</".toList t
      rw [if_pos Option.isSome_some, cut, Option.bind_some, scanTagName?_eq, Option.map_some, named]
  | none =>
      rw [if_neg (by simp)]
      cases mark : after? "<!".toList s with
      | some t => rw [if_pos Option.isSome_some, eq_skipped_of_direct? mark found]
      | none =>
          rw [direct?_of_noMark opened mark] at found
          obtain ⟨⟨tag, rest⟩, read, same⟩ := Option.map_eq_some_iff.1 found
          obtain ⟨rfl, rfl⟩ := Prod.mk.inj same
          rw [if_neg (by simp), StartTag.scan?_eq, read]
          rfl

end Construct

end TemplateMarkup
