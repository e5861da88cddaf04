import TemplateMarkup.Text.Entity
import TemplateMarkup.Text.Quoted

/-!
# Quoted text

`Text.quote` writes a JSON string literal, and `Text.unquote?` reads any literal that JSON has, with
all its escapes. What is written is read back, so different texts are quoted differently.
-/

namespace TemplateMarkup

open Text

/-! ### Reading a literal -/

/-- The letters that escape a character which cannot stand for itself, with that character. -/
def shortEscapes : List (Char × Char) :=
  [('"', '"'), ('\\', '\\'), ('b', '\x08'), ('f', '\x0c'), ('n', '\n'), ('r', '\r'), ('t', '\t')]

/-- The number that four hexadecimal digits write, and the text behind them. -/
def codeUnit? : Text → Option (Nat × Text)
  | a :: b :: c :: d :: s =>
    if [a, b, c, d].all isHexDigit then some (numeralValue 16 [a, b, c, d], s) else none
  | _ => none

/-- The character that a high and a low surrogate stand for together. -/
def surrogatePair? (high low : Nat) : Option Char :=
  if 0xD800 ≤ high ∧ high < 0xDC00 ∧ 0xDC00 ≤ low ∧ low < 0xE000 then
    some (Char.ofNat (0x10000 + (high - 0xD800) * 0x400 + (low - 0xDC00)))
  else none

/-- The character of a numeric escape, and the text behind it. Both surrogates of a pair are
escaped, and neither stands for anything alone. -/
def numericEscape? (s : Text) : Option (Char × Text) :=
  match codeUnit? s with
  | none => none
  | some (unit, s) =>
    if unit.isValidChar then some (Char.ofNat unit, s)
    else
      match (after? ['\\', 'u'] s).bind codeUnit? with
      | none => none
      | some (low, s) => (surrogatePair? unit low).map fun c => (c, s)

/-- The first character of a quoted text and what stands behind it. The slash may be escaped too. -/
def firstQuoted? : Text → Option (Char × Text)
  | '\\' :: 'u' :: s => numericEscape? s
  | '\\' :: letter :: s => ((('/', '/') :: shortEscapes).lookup letter).map fun c => (c, s)
  | c :: s => if c ≠ '"' ∧ c ≠ '\\' ∧ 0x20 ≤ c.toNat then some (c, s) else none
  | [] => none

theorem length_lt_of_codeUnit? {s rest : Text} {n : Nat} (read : codeUnit? s = some (n, rest)) :
    rest.length < s.length := by
  rw [codeUnit?.eq_def] at read
  split at read
  · split at read
    · obtain ⟨-, rfl⟩ := Prod.mk.inj (Option.some.inj read)
      simp only [List.length_cons]
      omega
    · simp at read
  · simp at read

theorem length_lt_of_numericEscape? {s rest : Text} {c : Char}
    (read : numericEscape? s = some (c, rest)) : rest.length < s.length := by
  rw [numericEscape?] at read
  split at read
  · simp at read
  next unit behind first =>
    have shorter := length_lt_of_codeUnit? first
    split at read
    · obtain ⟨-, rfl⟩ := Prod.mk.inj (Option.some.inj read)
      exact shorter
    · split at read
      · simp at read
      next low last second =>
        obtain ⟨more, marked, lower⟩ := Option.bind_eq_some_iff.1 second
        obtain ⟨_, -, same⟩ := Option.map_eq_some_iff.1 read
        obtain ⟨-, rfl⟩ := Prod.mk.inj same
        have := length_lt_of_codeUnit? lower
        have := length_of_after? marked
        omega

theorem length_lt_of_firstQuoted? {s rest : Text} {c : Char}
    (read : firstQuoted? s = some (c, rest)) : rest.length < s.length := by
  rw [firstQuoted?.eq_def] at read
  split at read
  · have := length_lt_of_numericEscape? read
    simp only [List.length_cons]
    omega
  · obtain ⟨_, -, same⟩ := Option.map_eq_some_iff.1 read
    obtain ⟨-, rfl⟩ := Prod.mk.inj same
    simp only [List.length_cons]
    omega
  · split at read
    · obtain ⟨-, rfl⟩ := Prod.mk.inj (Option.some.inj read)
      exact Nat.lt_succ_self _
    · simp at read
  · simp at read

namespace Text

/-- The text that a literal without its opening quote stands for. -/
def unquoteBody? (s : Text) : Option Text :=
  if s = ['"'] then some []
  else
    match _h : firstQuoted? s with
    | none => none
    | some (c, rest) => (unquoteBody? rest).map (c :: ·)
termination_by s.length
decreasing_by exact length_lt_of_firstQuoted? _h

/-- The text that a JSON string literal stands for, or `none` if it is not one. -/
def unquote? : Text → Option Text
  | '"' :: s => unquoteBody? s
  | _ => none

theorem unquoteBody?_of_firstQuoted? {s rest : Text} {c : Char}
    (read : firstQuoted? s = some (c, rest)) :
    unquoteBody? s = (unquoteBody? rest).map (c :: ·) := by
  have more : s ≠ ['"'] := by
    rintro rfl
    simp [firstQuoted?] at read
  rw [unquoteBody?, if_neg more]
  split
  next absent => simp [absent] at read
  next c' rest' read' =>
    rw [read', Option.some.injEq, Prod.mk.injEq] at read
    obtain ⟨rfl, rfl⟩ := read
    rfl

end Text

/-! ### What is written is read back -/

/-- Two digits write a control character. -/
theorem codeUnit?_digits {n : Nat} (small : n < 0x20) (rest : Text) :
    codeUnit? ('0' :: '0' :: Nat.digitChar (n / 16) :: Nat.digitChar (n % 16) :: rest) =
      some (n, rest) := by
  have each : ∀ n < 0x20,
      ['0', '0', Nat.digitChar (n / 16), Nat.digitChar (n % 16)].all isHexDigit = true ∧
        numeralValue 16 ['0', '0', Nat.digitChar (n / 16), Nat.digitChar (n % 16)] = n := by
    decide
  obtain ⟨digits, value⟩ := each n small
  rw [codeUnit?, if_pos digits, value]

theorem firstQuoted?_quotedChar (c : Char) (rest : Text) :
    firstQuoted? (quotedChar c ++ rest) = some (c, rest) := by
  rw [quotedChar]
  split
  next same => rw [same]; rfl
  next quote =>
    split
    next same => rw [same]; rfl
    next backslash =>
      split
      next same => rw [same]; rfl
      split
      next same => rw [same]; rfl
      split
      next same => rw [same]; rfl
      split
      next same => rw [same]; rfl
      split
      next same => rw [same]; rfl
      split
      next control =>
        have valid : c.toNat.isValidChar := c.valid
        simp only [List.cons_append, List.nil_append, firstQuoted?, numericEscape?,
          codeUnit?_digits control, valid, ↓reduceIte, Char.ofNat_toNat]
      next control =>
        have allowed : c ≠ '"' ∧ c ≠ '\\' ∧ 0x20 ≤ c.toNat := ⟨quote, backslash, by omega⟩
        rw [List.singleton_append]
        simp [firstQuoted?, backslash, allowed]

theorem quotedBody_cons (c : Char) (s : Text) :
    quotedBody (c :: s) = quotedChar c ++ quotedBody s :=
  List.flatMap_cons

theorem unquote?_quote (s : Text) : unquote? s.quote = some s := by
  have body : unquoteBody? (s.quotedBody ++ ['"']) = some s := by
    induction s with
    | nil =>
        rw [unquoteBody?]
        rfl
    | cons c s ih =>
        have read := firstQuoted?_quotedChar c (quotedBody s ++ ['"'])
        rw [quotedBody_cons, List.append_assoc, unquoteBody?_of_firstQuoted? read, ih,
          Option.map_some]
  exact body

theorem quote_injective : Function.Injective quote := by
  intro s s' same
  have read := unquote?_quote s
  rw [same, unquote?_quote] at read
  exact (Option.some.inj read).symm

end TemplateMarkup
