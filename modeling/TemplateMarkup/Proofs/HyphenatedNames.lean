import TemplateMarkup.Text.Hyphen

/-!
# Hyphenated names

Where the hyphens of a hyphenated name stand. `splitHumps` looks at every pair of neighbours. To
replace pairs one after the other, none overlapping (`splitPairs`), comes to the same: a pair ends
with a capital letter, and no pair begins with one. On ASCII text the places are those between a
small letter or digit and a capital letter (`humpBehind`). Each gets one hyphen, and what is then in
lowercase has no such place any more.
-/

namespace TemplateMarkup

namespace Text

variable {s : Text} {a b : Char}

/-! ### Pairs -/

/-- The text with a hyphen inside each pair of a small letter or digit and a capital letter. A pair
is taken as a whole, and the next one is looked for behind it. -/
def splitPairs : Text → Text
  | a :: b :: s =>
    if isHump a b then a :: '-' :: b :: splitPairs s else a :: splitPairs (b :: s)
  | s => s

theorem isDecimalDigit_of_isUpper (capital : a.isUpper = true) : isDecimalDigit a = false := by
  have capitals := isUpper_iff_toNat.1 capital
  have outside : ∀ range ∈ decimalDigitRanges, range.2 < 0x41 ∨ 0x5A < range.1 := by decide
  refine List.any_eq_false.2 fun range member => ?_
  have := outside range member
  simp only [Bool.and_eq_true, decide_eq_true_eq]
  omega

theorem isHump_of_isUpper (capital : a.isUpper = true) : isHump a b = false := by
  have noSmall : a.isLower = false := by
    rw [Bool.eq_false_iff, Ne, isLower_iff_toNat]
    have := isUpper_iff_toNat.1 capital
    omega
  simp [isHump, noSmall, isDecimalDigit_of_isUpper capital]

/-- No hyphen stands behind a capital letter. -/
theorem splitHumps_cons_of_isUpper (capital : a.isUpper = true) (s : Text) :
    splitHumps (a :: s) = a :: splitHumps s := by
  cases s with
  | nil => rfl
  | cons b s => rw [splitHumps, if_neg (by simp [isHump_of_isUpper capital])]

/-- Taking whole pairs misses no place. -/
theorem splitPairs_eq_splitHumps : ∀ s : Text, splitPairs s = splitHumps s
  | [] => rfl
  | [_] => rfl
  | a :: b :: s => by
      rw [splitPairs, splitHumps]
      split
      next hump =>
        have capital : b.isUpper = true := by
          rw [isHump, Bool.and_eq_true] at hump
          exact hump.2
        rw [splitHumps_cons_of_isUpper capital, splitPairs_eq_splitHumps s]
      next noHump => rw [splitPairs_eq_splitHumps (b :: s)]

/-! ### Camel case -/

theorem splitHumps_eq_self (noCamel : isCamelCase s = false) : splitHumps s = s := by
  fun_induction splitHumps s with
  | case1 a b s hump ih => simp [isCamelCase, hump] at noCamel
  | case2 a b s noHump ih =>
      have later : isCamelCase (b :: s) = false := by
        simpa [isCamelCase, noHump] using noCamel
      rw [ih later]
  | case3 s short => rfl

theorem length_le_splitHumps (s : Text) : s.length ≤ (splitHumps s).length := by
  fun_induction splitHumps s with
  | case1 a b s hump ih | case2 a b s noHump ih =>
      simp only [List.length_cons] at ih ⊢
      omega
  | case3 s short => exact Nat.le_refl _

/-- A name in camelCase gets longer. -/
theorem length_lt_splitHumps (camel : isCamelCase s = true) : s.length < (splitHumps s).length := by
  fun_induction splitHumps s with
  | case1 a b s hump ih =>
      have later := length_le_splitHumps (b :: s)
      simp only [List.length_cons] at later ⊢
      omega
  | case2 a b s noHump ih =>
      have later := ih (by simpa [isCamelCase, noHump] using camel)
      simp only [List.length_cons] at later ⊢
      omega
  | case3 s short =>
      rw [isCamelCase] at camel
      · exact absurd camel Bool.false_ne_true
      · exact short

/-- Without capital letters there is no camelCase. -/
theorem isCamelCase_toLowerAscii (s : Text) : isCamelCase (toLowerAscii s) = false := by
  induction s with
  | nil => rfl
  | cons a s ih =>
      cases s with
      | nil => rfl
      | cons b s =>
          show (isHump a.toLower b.toLower || isCamelCase (toLowerAscii (b :: s))) = false
          simp [ih, isHump]

/-! ### Places -/

/-- The character at this place is a small letter or a digit and the next one a capital letter. -/
def humpBehind (s : Text) (i : Nat) : Bool :=
  s[i]?.any fun a => s[i + 1]?.any fun b => (a.isLower || a.isDigit) && b.isUpper

/-- The text with a further character behind each of some places. -/
def insertBehind (place : Nat → Bool) (x : Char) (s : Text) : Text :=
  s.zipIdx.flatMap fun (c, i) => if place i then [c, x] else [c]

theorem insertBehind_cons (place : Nat → Bool) (x c : Char) (s : Text) :
    insertBehind place x (c :: s) =
      (if place 0 then [c, x] else [c]) ++ insertBehind (fun i => place (i + 1)) x s := by
  rw [insertBehind, List.zipIdx_cons', List.flatMap_cons, List.flatMap_map]
  rfl

/-- Lowercase letters may be made before or after the insertion. -/
theorem toLowerAscii_insertBehind (place : Nat → Bool) {x : Char} (lower : x.toLower = x)
    (s : Text) : toLowerAscii (insertBehind place x s) = insertBehind place x (toLowerAscii s) := by
  induction s generalizing place with
  | nil => rfl
  | cons c s ih =>
      have lowered : toLowerAscii (c :: s) = c.toLower :: toLowerAscii s := rfl
      have later := ih fun i => place (i + 1)
      rw [toLowerAscii] at later
      rw [lowered, insertBehind_cons, insertBehind_cons, toLowerAscii, List.map_append, later]
      cases place 0 with
      | true => simp [lower]
      | false => simp

theorem isDecimalDigit_eq_isDigit {c : Char} (ascii : c.toNat < 0x80) :
    isDecimalDigit c = c.isDigit := by
  have first : decimalDigitRanges = (0x30, 0x39) :: decimalDigitRanges.tail := rfl
  have others : ∀ range ∈ decimalDigitRanges.tail, 0x80 ≤ range.1 := by decide
  have outside : CodeRanges.has decimalDigitRanges.tail c = false := by
    refine List.any_eq_false.2 fun range member => ?_
    have := others range member
    simp only [Bool.and_eq_true, decide_eq_true_eq]
    omega
  have split : isDecimalDigit c =
      ((decide (0x30 ≤ c.toNat) && decide (c.toNat ≤ 0x39)) ||
        CodeRanges.has decimalDigitRanges.tail c) := by
    rw [isDecimalDigit, first]
    rfl
  rw [split, outside, Bool.or_false, Bool.eq_iff_iff, Char.isDigit_iff_toNat, Bool.and_eq_true,
    decide_eq_true_eq, decide_eq_true_eq]
  rfl

theorem toNat_toLower_lt {c : Char} (ascii : c.toNat < 0x80) : c.toLower.toNat < 0x80 := by
  rw [toNat_toLower]
  split <;> omega

section Ascii

variable (ascii : ∀ c ∈ s, c.toNat < 0x80)

include ascii

/-- In ASCII text the places that get a hyphen are those in front of a capital letter and behind a
small one or a digit. -/
theorem splitHumps_eq_insertBehind : splitHumps s = insertBehind s.humpBehind '-' s := by
  have here : ∀ {a b : Char} {s : Text}, a.toNat < 0x80 →
      humpBehind (a :: b :: s) 0 = isHump a b := by
    intro a b s ascii
    simp [humpBehind, isHump, isDecimalDigit_eq_isDigit ascii]
  fun_induction splitHumps s with
  | case1 a b s hump ih =>
      have later := ih fun c member => ascii c (List.mem_cons_of_mem a member)
      rw [insertBehind_cons, here (ascii a List.mem_cons_self), if_pos hump, later]
      rfl
  | case2 a b s noHump ih =>
      have later := ih fun c member => ascii c (List.mem_cons_of_mem a member)
      rw [insertBehind_cons, here (ascii a List.mem_cons_self), if_neg noHump, later]
      rfl
  | case3 s short =>
      cases s with
      | nil => rfl
      | cons c s =>
          cases s with
          | nil => rfl
          | cons b s => exact absurd rfl (short c b s)

theorem toNat_lt_of_mem_splitHumps : ∀ c ∈ splitHumps s, c.toNat < 0x80 := by
  intro c member
  rcases mem_of_mem_splitHumps member with rfl | member
  · decide
  · exact ascii c member

theorem hyphenate_eq_toLowerAscii : hyphenate s = toLowerAscii (splitHumps s) :=
  toLower_eq_toLowerAscii (toNat_lt_of_mem_splitHumps ascii)

/-- A hyphenated name is in lowercase, so it is its own hyphenated form. -/
theorem hyphenate_toLowerAscii : hyphenate (toLowerAscii s) = toLowerAscii s := by
  have lowered : ∀ c ∈ toLowerAscii s, c.toNat < 0x80 := by
    intro c member
    obtain ⟨x, inside, rfl⟩ := List.mem_map.1 member
    exact toNat_toLower_lt (ascii x inside)
  rw [hyphenate_eq_toLowerAscii lowered, splitHumps_eq_self (isCamelCase_toLowerAscii s),
    toLowerAscii_toLowerAscii]

end Ascii

/-- The hyphenated form of an ASCII text is its lowercase with one hyphen at each place between a
small letter or digit and a capital letter, and replacing whole pairs finds all of these places.
There is no such place left in it, so to hyphenate again changes nothing. It is more than the
lowercase exactly if the text is in camelCase. -/
theorem hyphenate_ascii (ascii : ∀ c ∈ s, c.toNat < 0x80) :
    isCamelCase s.hyphenate = false ∧
      s.hyphenate.hyphenate = s.hyphenate ∧
      s.hyphenate = s.splitPairs.toLower ∧
      s.hyphenate = s.toLower.insertBehind s.humpBehind '-' ∧
      (s.hyphenate ≠ s.toLower ↔ isCamelCase s = true) := by
  have hyphenated := hyphenate_eq_toLowerAscii ascii
  have lowered := toLower_eq_toLowerAscii ascii
  refine ⟨?_, ?_, ?_, ?_, ?_⟩
  · rw [hyphenated]
    exact isCamelCase_toLowerAscii _
  · rw [hyphenated]
    exact hyphenate_toLowerAscii (toNat_lt_of_mem_splitHumps ascii)
  · rw [splitPairs_eq_splitHumps]
    rfl
  · rw [hyphenated, lowered, splitHumps_eq_insertBehind ascii]
    exact toLowerAscii_insertBehind _ (by decide) s
  · rw [hyphenated, lowered]
    constructor
    · intro different
      cases camel : isCamelCase s with
      | true => rfl
      | false =>
          rw [splitHumps_eq_self camel] at different
          exact absurd rfl different
    · intro camel same
      have longer := length_lt_splitHumps camel
      have lengths := congrArg List.length same
      rw [toLowerAscii, toLowerAscii, List.length_map, List.length_map] at lengths
      omega

/-- Places may follow each other closely, and digits count. -/
theorem hyphenate_ascii_run :
    let s : Text := ['a', '1', 'B', '2', 'C', 'd', 'E', 'F']
    (∀ c ∈ s, c.toNat < 0x80) ∧ s.hyphenate = "a1-b2-cd-ef".toList ∧
      isCamelCase s.hyphenate = false ∧
      s.hyphenate.hyphenate = s.hyphenate ∧
      s.hyphenate = s.splitPairs.toLower ∧
      s.hyphenate = s.toLower.insertBehind s.humpBehind '-' ∧
      (s.hyphenate ≠ s.toLower ↔ isCamelCase s = true) := by
  intro s
  have ascii : ∀ c ∈ s, c.toNat < 0x80 := by simp [s]
  exact ⟨ascii, by decide +kernel, hyphenate_ascii ascii⟩

end Text

end TemplateMarkup
