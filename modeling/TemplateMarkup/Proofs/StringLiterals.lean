import TemplateMarkup.Json
import TemplateMarkup.Proofs.QuotedText

/-!
# String literals

What JSON allows between the quotes of a string literal, and which of the literals of a text the
printer chooses. There are many, since any character may be written by its code units, but only one
escapes nothing that may stand for itself, escapes by a letter where there is one, and has its
digits in lowercase. That one is `Text.quote`.
-/

namespace TemplateMarkup

open Text

inductive StringPart where
  /-- A character that stands for itself. -/
  | plain (c : Char)
  /-- A backslash and a letter. -/
  | short (letter : Char)
  /-- A backslash, the letter `u` and digits. -/
  | numeric (digits : Text)

namespace StringPart

def print : StringPart → Text
  | plain c => [c]
  | short letter => ['\\', letter]
  | numeric digits => '\\' :: 'u' :: digits

def Allowed : StringPart → Prop
  | plain c => c ≠ '"' ∧ c ≠ '\\' ∧ 0x20 ≤ c.toNat
  | short letter => letter = '/' ∨ letter ∈ shortEscapes.map Prod.fst
  | numeric digits => digits.length = 4 ∧ digits.all isHexDigit = true

/-- The part escapes nothing that may stand for itself, or that a letter escapes. -/
def Frugal : StringPart → Prop
  | plain c => c ≠ '"' ∧ c ≠ '\\' ∧ 0x20 ≤ c.toNat
  | short letter => letter ∈ shortEscapes.map Prod.fst
  | numeric digits =>
    ∃ c : Char, c.toNat < 0x20 ∧ c ∉ shortEscapes.map Prod.snd ∧
      digits = ['0', '0', Nat.digitChar (c.toNat / 16), Nat.digitChar (c.toNat % 16)]

end StringPart

/-- The text consists of such parts, between quotes. -/
def IsLiteralOf (part : StringPart → Prop) (t : Text) : Prop :=
  ∃ parts : List StringPart,
    (∀ p ∈ parts, part p) ∧ t = '"' :: parts.flatMap StringPart.print ++ ['"']

def IsStringLiteral (t : Text) : Prop :=
  IsLiteralOf StringPart.Allowed t

/-- The text is a JSON string literal that escapes no more than it has to. -/
def IsFrugalLiteral (t : Text) : Prop :=
  IsLiteralOf StringPart.Frugal t

namespace StringPart

variable {part : StringPart} {c : Char}

/-! ### The parts that are written -/

theorem quotedChar_short : ∀ e ∈ shortEscapes, quotedChar e.2 = ['\\', e.1] := by
  decide

theorem quotedChar_numeric (control : c.toNat < 0x20) (long : c ∉ shortEscapes.map Prod.snd) :
    quotedChar c =
      ['\\', 'u', '0', '0', Nat.digitChar (c.toNat / 16), Nat.digitChar (c.toNat % 16)] := by
  simp only [shortEscapes, List.map_cons, List.map_nil, List.mem_cons, List.not_mem_nil,
    not_or] at long
  simp [quotedChar, long, control]

theorem quotedChar_plain (printable : 0x20 ≤ c.toNat) (quote : c ≠ '"') (backslash : c ≠ '\\') :
    quotedChar c = [c] := by
  have other : ∀ x : Char, x.toNat < 0x20 → c ≠ x := by
    rintro x control rfl
    omega
  rw [quotedChar, if_neg quote, if_neg backslash, if_neg (other _ (by decide)),
    if_neg (other _ (by decide)), if_neg (other _ (by decide)), if_neg (other _ (by decide)),
    if_neg (other _ (by decide)), if_neg (by omega)]

/-- Every character is written by a frugal part. -/
theorem exists_frugal (c : Char) :
    ∃ part : StringPart, part.Frugal ∧ part.print = quotedChar c := by
  by_cases escaped : c ∈ shortEscapes.map Prod.snd
  · obtain ⟨⟨letter, c⟩, member, rfl⟩ := List.mem_map.1 escaped
    exact ⟨short letter, List.mem_map_of_mem (f := Prod.fst) member,
      (quotedChar_short _ member).symm⟩
  · by_cases control : c.toNat < 0x20
    · exact ⟨numeric _, ⟨c, control, escaped, rfl⟩, (quotedChar_numeric control escaped).symm⟩
    · have quote : c ≠ '"' := by
        rintro rfl
        exact escaped (by decide)
      have backslash : c ≠ '\\' := by
        rintro rfl
        exact escaped (by decide)
      have printable : 0x20 ≤ c.toNat := by omega
      exact ⟨plain c, ⟨quote, backslash, printable⟩,
        (quotedChar_plain printable quote backslash).symm⟩

/-- A frugal part writes a character. -/
theorem Frugal.exists_print_eq (frugal : part.Frugal) : ∃ c, part.print = quotedChar c := by
  cases part with
  | plain c => exact ⟨c, (quotedChar_plain frugal.2.2 frugal.1 frugal.2.1).symm⟩
  | short letter =>
      obtain ⟨⟨letter, c⟩, member, rfl⟩ := List.mem_map.1 frugal
      exact ⟨c, (quotedChar_short _ member).symm⟩
  | numeric digits =>
      obtain ⟨c, control, long, rfl⟩ := frugal
      exact ⟨c, (quotedChar_numeric control long).symm⟩

theorem exists_quotedBody_eq {parts : List StringPart} (frugal : ∀ p ∈ parts, p.Frugal) :
    ∃ s : Text, parts.flatMap print = s.quotedBody := by
  induction parts with
  | nil => exact ⟨[], rfl⟩
  | cons part parts ih =>
      rw [List.forall_mem_cons] at frugal
      obtain ⟨c, first⟩ := frugal.1.exists_print_eq
      obtain ⟨s, rest⟩ := ih frugal.2
      exact ⟨c :: s, by rw [List.flatMap_cons, first, rest, quotedBody_cons]⟩

theorem exists_parts (s : Text) :
    ∃ parts : List StringPart, (∀ p ∈ parts, p.Frugal) ∧ parts.flatMap print = s.quotedBody := by
  induction s with
  | nil => exact ⟨[], by simp, rfl⟩
  | cons c s ih =>
      obtain ⟨part, frugal, first⟩ := exists_frugal c
      obtain ⟨parts, all, rest⟩ := ih
      refine ⟨part :: parts, List.forall_mem_cons.2 ⟨frugal, all⟩, ?_⟩
      rw [List.flatMap_cons, first, rest, quotedBody_cons]

end StringPart

/-- The frugal literals are those that are written. -/
theorem isFrugalLiteral_iff {t : Text} : IsFrugalLiteral t ↔ ∃ s : Text, t = s.quote := by
  constructor
  · rintro ⟨parts, frugal, rfl⟩
    obtain ⟨s, body⟩ := StringPart.exists_quotedBody_eq frugal
    exact ⟨s, by rw [body, quote]⟩
  · rintro ⟨s, rfl⟩
    obtain ⟨parts, frugal, body⟩ := StringPart.exists_parts s
    exact ⟨parts, frugal, by rw [body, quote]⟩

/-! ### Only literals are read -/

theorem exists_digits_of_codeUnit? {s rest : Text} {n : Nat} (read : codeUnit? s = some (n, rest)) :
    ∃ digits, (StringPart.numeric digits).Allowed ∧ s = digits ++ rest := by
  rw [codeUnit?.eq_def] at read
  split at read
  next a b c d s =>
    split at read
    next hexadecimal =>
      obtain ⟨-, rfl⟩ := Prod.mk.inj (Option.some.inj read)
      exact ⟨[a, b, c, d], ⟨rfl, hexadecimal⟩, rfl⟩
    next => simp at read
  next => simp at read

/-- Characters are read from allowed parts: a pair of surrogates from two, any other from one. -/
theorem exists_parts_of_firstQuoted? {s rest : Text} {c : Char}
    (read : firstQuoted? s = some (c, rest)) :
    ∃ parts : List StringPart, (∀ p ∈ parts, p.Allowed) ∧
      s = parts.flatMap StringPart.print ++ rest := by
  rw [firstQuoted?.eq_def] at read
  split at read
  next s =>
    rw [numericEscape?] at read
    split at read
    next => simp at read
    next unit behind first =>
      obtain ⟨digits, allowed, rfl⟩ := exists_digits_of_codeUnit? first
      split at read
      next =>
        obtain ⟨-, rfl⟩ := Prod.mk.inj (Option.some.inj read)
        exact ⟨[.numeric digits], by simpa using allowed, by simp [StringPart.print]⟩
      next =>
        split at read
        next => simp at read
        next low last second =>
          obtain ⟨more, marked, lower⟩ := Option.bind_eq_some_iff.1 second
          obtain ⟨digits', allowed', rfl⟩ := exists_digits_of_codeUnit? lower
          obtain ⟨_, -, same⟩ := Option.map_eq_some_iff.1 read
          obtain ⟨-, rfl⟩ := Prod.mk.inj same
          refine ⟨[.numeric digits, .numeric digits'], by simpa using ⟨allowed, allowed'⟩, ?_⟩
          rw [after?_eq_some_iff.1 marked]
          simp [StringPart.print]
  next letter s _ =>
    obtain ⟨c', found, same⟩ := Option.map_eq_some_iff.1 read
    obtain ⟨-, rfl⟩ := Prod.mk.inj same
    obtain ⟨before, after, split, -⟩ := List.lookup_eq_some_iff.1 found
    have member : letter ∈ ('/' :: shortEscapes.map Prod.fst) := by
      have names := congrArg (List.map Prod.fst) split
      rw [List.map_cons] at names
      simp [names]
    have allowed : (StringPart.short letter).Allowed := List.mem_cons.1 member
    exact ⟨[.short letter], by simpa using allowed, rfl⟩
  next c' s _ _ =>
    split at read
    next plain =>
      obtain ⟨-, rfl⟩ := Prod.mk.inj (Option.some.inj read)
      have allowed : (StringPart.plain c').Allowed := plain
      exact ⟨[.plain c'], by simpa using allowed, rfl⟩
    next => simp at read
  next => simp at read

theorem exists_parts_of_unquoteBody? {t s : Text} (read : unquoteBody? t = some s) :
    ∃ parts : List StringPart, (∀ p ∈ parts, p.Allowed) ∧
      t = parts.flatMap StringPart.print ++ ['"'] := by
  fun_induction unquoteBody? t generalizing s with
  | case1 => exact ⟨[], by simp, rfl⟩
  | case2 => simp at read
  | case3 t _ c rest first ih =>
      obtain ⟨s', behind, rfl⟩ := Option.map_eq_some_iff.1 read
      obtain ⟨parts, allowed, rfl⟩ := exists_parts_of_firstQuoted? first
      obtain ⟨parts', allowed', rfl⟩ := ih behind
      refine ⟨parts ++ parts', fun p member => ?_, by rw [List.flatMap_append, List.append_assoc]⟩
      exact (List.mem_append.1 member).elim (allowed p) (allowed' p)

theorem isStringLiteral_of_unquote? {t s : Text} (read : unquote? t = some s) :
    IsStringLiteral t := by
  rw [unquote?.eq_def] at read
  split at read
  next t =>
    obtain ⟨parts, allowed, rfl⟩ := exists_parts_of_unquoteBody? read
    exact ⟨parts, allowed, rfl⟩
  next => simp at read

/-! ### What stands between the quotes -/

/-- The number of backslashes at the end of a text. If it is odd, a character behind them is
escaped. -/
def trailingBackslashes (s : Text) : Nat :=
  (s.reverse.takeWhile (· = '\\')).length

/-- Backslashes that escape each other do not count. -/
theorem trailingBackslashes_append {s : Text} (even : trailingBackslashes s % 2 = 0) (t : Text) :
    trailingBackslashes (s ++ t) % 2 = trailingBackslashes t % 2 := by
  rw [trailingBackslashes] at even
  rw [trailingBackslashes, List.reverse_append, List.takeWhile_append, trailingBackslashes]
  split
  next all =>
    rw [List.length_append, all]
    omega
  next => rfl

theorem of_isHexDigit {c : Char} (digit : isHexDigit c = true) :
    0x20 ≤ c.toNat ∧ c ≠ '"' ∧ c ≠ '\\' := by
  refine ⟨?_, ?_, ?_⟩
  · simp only [isHexDigit, Char.isDigit, Bool.or_eq_true, Bool.and_eq_true, decide_eq_true_eq,
      Char.le_def, ge_iff_le, UInt32.le_iff_toNat_le, UInt32.reduceToNat, Char.toNat_val,
      Char.reduceVal] at digit
    omega
  · rintro rfl
    exact absurd digit (by decide)
  · rintro rfl
    exact absurd digit (by decide)

namespace StringPart

variable {part : StringPart}

theorem Allowed.printable (allowed : part.Allowed) : ∀ c ∈ part.print, 0x20 ≤ c.toNat := by
  cases part with
  | plain c => simpa [print] using allowed.2.2
  | short letter =>
      have letters : ('/' :: shortEscapes.map Prod.fst).all (0x20 ≤ ·.toNat) = true := by decide
      have printable := List.all_eq_true.1 letters letter (List.mem_cons.2 allowed)
      simpa [print] using printable
  | numeric digits =>
      have printable : ∀ c ∈ digits, 0x20 ≤ c.toNat := fun c member =>
        (of_isHexDigit (List.all_eq_true.1 allowed.2 c member)).1
      simpa [print] using printable

/-- A part does not escape what stands behind it. -/
theorem Allowed.even (allowed : part.Allowed) : trailingBackslashes part.print % 2 = 0 := by
  cases part with
  | plain c => simp [print, trailingBackslashes, allowed.2.1]
  | short letter =>
      by_cases backslash : letter = '\\'
      · rw [backslash]
        rfl
      · simp [print, trailingBackslashes, backslash]
  | numeric digits =>
      obtain ⟨four, hexadecimal⟩ := allowed
      obtain ⟨a, b, c, d, rfl⟩ : ∃ a b c d, digits = [a, b, c, d] := by
        match digits, four with
        | [a, b, c, d], _ => exact ⟨a, b, c, d, rfl⟩
      have last := (of_isHexDigit (List.all_eq_true.1 hexadecimal d (by simp))).2.2
      simp [print, trailingBackslashes, last]

/-- A quote inside of a part is the one that the part escapes. -/
theorem Allowed.front_eq (allowed : part.Allowed) {front back : Text}
    (whole : part.print = front ++ '"' :: back) : front = ['\\'] := by
  have member : '"' ∈ part.print := by simp [whole]
  cases part with
  | plain c =>
      rw [print, List.mem_singleton] at member
      exact absurd member.symm allowed.1
  | short letter =>
      cases front with
      | nil => simp [print] at whole
      | cons x front =>
          obtain ⟨rfl, rest⟩ := List.cons.inj whole
          cases front with
          | nil => rfl
          | cons y front => simp at rest
  | numeric digits =>
      have inDigits : '"' ∈ digits := by simpa [print] using member
      exact absurd rfl (of_isHexDigit (List.all_eq_true.1 allowed.2 _ inDigits)).2.1

theorem odd_of_printAll {parts : List StringPart} (allowed : ∀ p ∈ parts, p.Allowed)
    {front back : Text} (whole : parts.flatMap print = front ++ '"' :: back) :
    trailingBackslashes front % 2 = 1 := by
  induction parts generalizing front with
  | nil => simp at whole
  | cons part parts ih =>
      rw [List.forall_mem_cons] at allowed
      rw [List.flatMap_cons] at whole
      rcases List.append_eq_append_iff.1 whole with ⟨front', rfl, rest⟩ | ⟨rest, first, behind⟩
      · rw [trailingBackslashes_append allowed.1.even]
        exact ih allowed.2 rest
      · cases rest with
        | nil =>
            have odd : trailingBackslashes [] % 2 = 1 := ih allowed.2 behind.symm
            exact absurd odd (by decide)
        | cons x rest =>
            obtain ⟨rfl, -⟩ := List.cons.inj behind
            rw [allowed.1.front_eq first]
            rfl

end StringPart

theorem IsStringLiteral.printable {t : Text} (literal : IsStringLiteral t) :
    ∀ c ∈ t, 0x20 ≤ c.toNat := by
  obtain ⟨parts, allowed, rfl⟩ := literal
  intro c member
  simp only [List.cons_append, List.mem_cons, List.mem_append, List.mem_flatMap, List.not_mem_nil,
    or_false] at member
  rcases member with rfl | ⟨part, isPart, member⟩ | rfl
  · decide
  · exact (allowed part isPart).printable c member
  · decide

/-- Quotes between the ends of a literal are escaped. -/
theorem IsStringLiteral.odd {body : Text} (literal : IsStringLiteral ('"' :: body ++ ['"']))
    {front back : Text} (whole : body = front ++ '"' :: back) :
    trailingBackslashes front % 2 = 1 := by
  obtain ⟨parts, allowed, same⟩ := literal
  have printed : body = parts.flatMap StringPart.print :=
    List.append_cancel_right (List.cons.inj same).2
  exact StringPart.odd_of_printAll allowed (printed.symm.trans whole)

/-- A quoted text is a JSON string literal, the one that the printer writes at any depth. It has no
control characters, escapes the quotes between its ends, and is read back; of the literals that are
read as this text it is the only frugal one. So different texts are quoted differently. -/
theorem quote_literal :
    (∀ s : Text,
      (∀ depth, (Json.str s).prettyAt depth = s.quote) ∧
      IsStringLiteral s.quote ∧
      (∀ c ∈ s.quote, 0x20 ≤ c.toNat) ∧
      (∀ front back, s.quotedBody = front ++ '"' :: back → trailingBackslashes front % 2 = 1) ∧
      unquote? s.quote = some s ∧
      ∀ t, IsFrugalLiteral t ∧ unquote? t = some s ↔ t = s.quote) ∧
    Function.Injective quote := by
  refine ⟨fun s => ?_, quote_injective⟩
  have literal := isStringLiteral_of_unquote? (unquote?_quote s)
  refine ⟨fun depth => ?_, literal, literal.printable, fun front back => literal.odd,
    unquote?_quote s, fun t => ?_⟩
  · rw [Json.prettyAt]
  · constructor
    · rintro ⟨written, read⟩
      obtain ⟨s', rfl⟩ := isFrugalLiteral_iff.1 written
      rw [unquote?_quote, Option.some.injEq] at read
      rw [read]
    · rintro rfl
      exact ⟨isFrugalLiteral_iff.2 ⟨s, rfl⟩, unquote?_quote s⟩

end TemplateMarkup
