/-!
# Text

Everything the library reads or prints is a list of characters, so a reader takes characters from
the front and hands back the list that follows. This file holds the type, classes of characters
given by code points, and the searches that do not depend on what is being read: the first
occurrence of a word, a cut at it, pieces, and trimming.
-/

namespace TemplateMarkup

/-- A text, one character after the other. Lengths and offsets count characters. -/
abbrev Text := List Char

instance : LawfulBEq Text := inferInstanceAs (LawfulBEq (List Char))

/-! ### Characters by their code points -/

/-- Closed ranges of code points, given by their first and last members. -/
abbrev CodeRanges := List (Nat × Nat)

def CodeRanges.has (ranges : CodeRanges) (c : Char) : Bool :=
  ranges.any fun (first, last) => first ≤ c.toNat && c.toNat ≤ last

section Letters

variable {c x : Char}

theorem isUpper_iff_toNat : c.isUpper = true ↔ 0x41 ≤ c.toNat ∧ c.toNat ≤ 0x5A := by
  unfold Char.isUpper
  simp [UInt32.le_iff_toNat_le]

theorem isLower_iff_toNat : c.isLower = true ↔ 0x61 ≤ c.toNat ∧ c.toNat ≤ 0x7A := by
  unfold Char.isLower
  simp [UInt32.le_iff_toNat_le]

theorem isAlpha_iff_toNat : c.isAlpha = true ↔
    (0x41 ≤ c.toNat ∧ c.toNat ≤ 0x5A) ∨ (0x61 ≤ c.toNat ∧ c.toNat ≤ 0x7A) := by
  unfold Char.isAlpha
  rw [Bool.or_eq_true, isUpper_iff_toNat, isLower_iff_toNat]

theorem isAlpha_of_isUpper (capital : c.isUpper = true) : c.isAlpha = true :=
  isAlpha_iff_toNat.2 (.inl (isUpper_iff_toNat.1 capital))

/-- A capital letter is made a small one, and everything else stays. -/
theorem toNat_toLower (c : Char) :
    c.toLower.toNat =
      if 0x41 ≤ c.toNat ∧ c.toNat ≤ 0x5A then c.toNat + 0x20 else c.toNat := by
  have capital : (c.val ≥ 'A'.val ∧ c.val ≤ 'Z'.val) ↔ 0x41 ≤ c.toNat ∧ c.toNat ≤ 0x5A := by
    simp [UInt32.le_iff_toNat_le]
  unfold Char.toLower
  split
  next upper =>
    have bounds := capital.1 upper
    rw [if_pos bounds]
    show (c.val + ('a'.val - 'A'.val)).toNat = c.toNat + 0x20
    rw [UInt32.toNat_add]
    exact Nat.mod_eq_of_lt (by change c.toNat + 32 < 2 ^ 32; omega)
  next other => rw [if_neg fun bounds => other (capital.2 bounds)]

theorem toLower_eq_self (other : ¬ c.isUpper = true) : c.toLower = c := by
  rw [isUpper_iff_toNat] at other
  rw [← Char.toNat_inj, toNat_toLower, if_neg other]

@[simp] theorem isUpper_toLower (c : Char) : c.toLower.isUpper = false := by
  rw [Bool.eq_false_iff, Ne, isUpper_iff_toNat, toNat_toLower]
  split <;> omega

@[simp] theorem isAlpha_toLower (c : Char) : c.toLower.isAlpha = c.isAlpha := by
  rw [Bool.eq_iff_iff, isAlpha_iff_toNat, isAlpha_iff_toNat, toNat_toLower]
  split <;> omega

/-- A character that is no small letter is the lowercase of itself alone. -/
theorem eq_of_toLower_eq (lower : c.toLower = x) (other : x.isLower = false) : c = x := by
  rw [← lower, Bool.eq_false_iff, Ne, isLower_iff_toNat, toNat_toLower] at other
  have small : ¬ c.isUpper = true := by
    intro capital
    rw [isUpper_iff_toNat] at capital
    rw [if_pos capital] at other
    omega
  exact (toLower_eq_self small).symm.trans lower

end Letters

namespace Text

/-- The text without the word it starts with, or `none` if it does not start with that word. -/
def after? : Text → Text → Option Text
  | [], s => some s
  | _ :: _, [] => none
  | w :: word, c :: s => if w = c then after? word s else none

/-- The text that follows `word` at the front of `s`, where the case of ASCII letters in `s` does
not matter. The word is given in lowercase. -/
def afterIgnoringCase? : Text → Text → Option Text
  | [], s => some s
  | _ :: _, [] => none
  | w :: word, c :: s => if w = c.toLower then afterIgnoringCase? word s else none

/-- The offset of the first occurrence of `word` in `s`. The empty word occurs at the front. -/
def find? (word : Text) : Text → Option Nat
  | [] => if word = [] then some 0 else none
  | c :: s =>
    if (after? word (c :: s)).isSome then some 0
    else (find? word s).map (· + 1)

/-- The text before the first occurrence of `word` and the text after it. -/
def cut? (word : Text) : Text → Option (Text × Text)
  | [] => if word = [] then some ([], []) else none
  | c :: s =>
    match after? word (c :: s) with
    | some rest => some ([], rest)
    | none => (cut? word s).map fun (before, rest) => (c :: before, rest)

/-- The text before the last occurrence of `x` and the text after it. -/
def cutLast? (x : Char) : Text → Option (Text × Text)
  | [] => none
  | c :: s =>
    match cutLast? x s with
    | some (before, rest) => some (c :: before, rest)
    | none => if c = x then some ([], s) else none

/-- The text without the characters at its end that satisfy `p`. -/
def trimEnd (p : Char → Bool) (s : Text) : Text :=
  (s.reverse.dropWhile p).reverse

/-- The text without the characters at either end that satisfy `p`. -/
def trimBoth (p : Char → Bool) (s : Text) : Text :=
  trimEnd p (s.dropWhile p)

/-- The pieces of a text between the occurrences of `x`, of which there is one more than there are
occurrences. -/
def pieces (x : Char) : Text → List Text
  | [] => [[]]
  | c :: s =>
    if c = x then [] :: pieces x s
    else
      match pieces x s with
      | [] => [[c]]
      | piece :: rest => (c :: piece) :: rest

/-- The ASCII letters of a text in lowercase, everything else unchanged. -/
def toLowerAscii (s : Text) : Text :=
  s.map Char.toLower

/-! ### A word at the front -/

variable {word s rest : Text}

theorem after?_eq_some_iff : after? word s = some rest ↔ s = word ++ rest := by
  induction word generalizing s with
  | nil => simp [after?, eq_comm]
  | cons w word ih =>
    cases s with
    | nil => simp [after?]
    | cons c s =>
      simp only [after?, List.cons_append, List.cons.injEq]
      by_cases h : w = c
      · simp [h, ih]
      · simp [h, Ne.symm h]

@[simp] theorem after?_append (word rest : Text) : after? word (word ++ rest) = some rest :=
  after?_eq_some_iff.2 rfl

theorem length_of_after? (h : after? word s = some rest) :
    s.length = word.length + rest.length := by
  rw [after?_eq_some_iff] at h
  simp [h]

theorem length_of_afterIgnoringCase? (h : afterIgnoringCase? word s = some rest) :
    s.length = word.length + rest.length := by
  induction word generalizing s with
  | nil => simp_all [afterIgnoringCase?]
  | cons w word ih =>
    cases s with
    | nil => simp [afterIgnoringCase?] at h
    | cons c s =>
      simp only [afterIgnoringCase?] at h
      split at h
      · simp only [List.length_cons, ih h]
        omega
      · simp at h

/-! ### The first occurrence -/

theorem append_of_cut? {before : Text} (h : cut? word s = some (before, rest)) :
    s = before ++ word ++ rest := by
  induction s generalizing before with
  | nil =>
    simp only [cut?] at h
    split at h
    · simp_all
    · simp at h
  | cons c s ih =>
    simp only [cut?] at h
    split at h
    next r hr =>
      simp only [Option.some.injEq, Prod.mk.injEq] at h
      obtain ⟨rfl, rfl⟩ := h
      simpa using after?_eq_some_iff.1 hr
    next =>
      simp only [Option.map_eq_some_iff, Prod.exists, Prod.mk.injEq] at h
      obtain ⟨b, r, hbr, rfl, rfl⟩ := h
      simp [ih hbr]

theorem length_of_cut? {before : Text} (h : cut? word s = some (before, rest)) :
    s.length = before.length + word.length + rest.length := by
  simp [append_of_cut? h, Nat.add_assoc]

/-! ### Lowercase -/

@[simp] theorem toLowerAscii_toLowerAscii (s : Text) :
    toLowerAscii (toLowerAscii s) = toLowerAscii s := by
  rw [toLowerAscii, toLowerAscii, List.map_map]
  exact List.map_congr_left fun c _ => toLower_eq_self (by simp)

/-! ### Pieces -/

theorem pieces_ne_nil (x : Char) (s : Text) : pieces x s ≠ [] := by
  cases s with
  | nil => simp [pieces]
  | cons c s =>
    simp only [pieces]
    split
    · simp
    · split <;> simp

/-- The pieces with the separator between them are the text. -/
theorem intercalate_pieces (x : Char) (s : Text) : [x].intercalate (pieces x s) = s := by
  induction s with
  | nil => rfl
  | cons c s ih =>
    obtain ⟨piece, rest, hs⟩ := List.exists_cons_of_ne_nil (pieces_ne_nil x s)
    simp only [pieces, hs] at ih ⊢
    split
    next h =>
      rw [List.intercalate_cons_cons, ih, h]
      rfl
    next =>
      cases rest with
      | nil =>
        simp only [List.intercalate_singleton] at ih ⊢
        rw [ih]
      | cons next rest =>
        rw [List.intercalate_cons_cons] at ih ⊢
        rw [← ih]
        rfl

end Text

end TemplateMarkup
