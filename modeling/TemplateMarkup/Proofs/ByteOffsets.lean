import TemplateMarkup.Proofs.Occurrence

/-!
# Byte offsets

Text in UTF-8 is addressed by the number of bytes in front of a place. Not every offset is a place
between two characters, and what would cut a character in two fails: `dropBytes?`, `truncate?` and
`slice?` are partial. A place is also given by the text that follows it. The offset of such a suffix
(`offsetOf`) is always one where a cut succeeds, and every place is of this form.

A scan over bytes takes each byte for the character of its value, which is right for ASCII only. A
test that treats all other characters alike nevertheless finds the places that it finds in the
text itself (`scanBytes_offsetOf`).
-/

namespace TemplateMarkup.Text

variable {word s before rest behind front : Text} {c q : Char} {n : Nat}

def utf8Length : Text → Nat
  | [] => 0
  | c :: s => c.utf8Size + utf8Length s

/-- The first `n` bytes of the text, if they are there and end where a character does. -/
def truncate? (n : Nat) : Text → Option Text
  | [] => if n = 0 then some [] else none
  | c :: s =>
    if n = 0 then some []
    else if c.utf8Size ≤ n then (truncate? (n - c.utf8Size) s).map (c :: ·)
    else none

/-- The text behind its first `n` bytes, if they are there and end where a character does. -/
def dropBytes? (n : Nat) : Text → Option Text
  | [] => if n = 0 then some [] else none
  | c :: s =>
    if n = 0 then some (c :: s)
    else if c.utf8Size ≤ n then dropBytes? (n - c.utf8Size) s
    else none

/-- The text from byte `i` up to byte `j`, if both are places between characters. -/
def slice? (i j : Nat) (s : Text) : Option Text :=
  if i ≤ j then (dropBytes? i s).bind (truncate? (j - i)) else none

/-- The offset is a place between two characters of the text, or one of its ends. -/
def IsBoundary (s : Text) (n : Nat) : Prop :=
  ∃ before rest, s = before ++ rest ∧ n = utf8Length before

/-- The offset at which a suffix of the text begins. -/
def offsetOf (s rest : Text) : Nat :=
  utf8Length s - utf8Length rest

@[simp] theorem utf8Length_nil : utf8Length [] = 0 := rfl

@[simp] theorem utf8Length_cons (c : Char) (s : Text) :
    utf8Length (c :: s) = c.utf8Size + utf8Length s := rfl

@[simp] theorem utf8Length_append (s t : Text) :
    utf8Length (s ++ t) = utf8Length s + utf8Length t := by
  induction s with
  | nil => exact (Nat.zero_add _).symm
  | cons c s ih => rw [List.cons_append, utf8Length_cons, utf8Length_cons, ih, Nat.add_assoc]

theorem utf8Length_eq_zero_iff : utf8Length s = 0 ↔ s = [] := by
  cases s with
  | nil => simp
  | cons c s =>
      have := c.utf8Size_pos
      simp only [utf8Length_cons, reduceCtorEq, iff_false]
      omega

theorem utf8Length_pos (nonempty : s ≠ []) : 0 < utf8Length s :=
  Nat.pos_of_ne_zero fun empty => nonempty (utf8Length_eq_zero_iff.1 empty)

/-! ### Cuts -/

theorem truncate?_append (s t : Text) : truncate? (utf8Length s) (s ++ t) = some s := by
  induction s with
  | nil => cases t <;> rfl
  | cons c s ih =>
      have nonempty := c.utf8Size_pos
      have behind : c.utf8Size + utf8Length s - c.utf8Size = utf8Length s :=
        Nat.add_sub_cancel_left _ _
      rw [utf8Length_cons, List.cons_append, truncate?, if_neg (by omega), if_pos (by omega),
        behind, ih, Option.map_some]

theorem dropBytes?_append (before rest : Text) :
    dropBytes? (utf8Length before) (before ++ rest) = some rest := by
  induction before with
  | nil => cases rest <;> rfl
  | cons c before ih =>
      have nonempty := c.utf8Size_pos
      have behind : c.utf8Size + utf8Length before - c.utf8Size = utf8Length before :=
        Nat.add_sub_cancel_left _ _
      rw [utf8Length_cons, List.cons_append, dropBytes?, if_neg (by omega), if_pos (by omega),
        behind, ih]

theorem exists_append_of_dropBytes? (dropped : dropBytes? n s = some rest) :
    ∃ before, s = before ++ rest ∧ n = utf8Length before := by
  induction s generalizing n with
  | nil =>
      simp only [dropBytes?, Option.ite_none_right_eq_some, Option.some.injEq] at dropped
      obtain ⟨rfl, rfl⟩ := dropped
      exact ⟨[], rfl, rfl⟩
  | cons c s ih =>
      rw [dropBytes?] at dropped
      split at dropped
      next front =>
        obtain rfl := Option.some.inj dropped
        exact ⟨[], rfl, front⟩
      next =>
        obtain ⟨fits, later⟩ := Option.ite_none_right_eq_some.1 dropped
        obtain ⟨before, rfl, length⟩ := ih later
        refine ⟨c :: before, rfl, ?_⟩
        rw [utf8Length_cons]
        omega

theorem isSome_dropBytes?_iff : (dropBytes? n s).isSome = true ↔ s.IsBoundary n := by
  constructor
  · intro dropped
    obtain ⟨rest, dropped⟩ := Option.isSome_iff_exists.1 dropped
    obtain ⟨before, whole, length⟩ := exists_append_of_dropBytes? dropped
    exact ⟨before, rest, whole, length⟩
  · rintro ⟨before, rest, rfl, rfl⟩
    rw [dropBytes?_append]
    rfl

instance (s : Text) (n : Nat) : Decidable (s.IsBoundary n) :=
  decidable_of_iff _ isSome_dropBytes?_iff

/-! ### Offsets of suffixes -/

theorem offsetOf_append (before rest : Text) :
    offsetOf (before ++ rest) rest = utf8Length before := by
  rw [offsetOf, utf8Length_append]
  omega

@[simp] theorem offsetOf_self (s : Text) : offsetOf s s = 0 :=
  Nat.sub_self _

@[simp] theorem offsetOf_nil (s : Text) : offsetOf s [] = utf8Length s :=
  rfl

theorem utf8Length_le_of_suffix (suffix : rest <:+ s) : utf8Length rest ≤ utf8Length s := by
  obtain ⟨before, rfl⟩ := suffix
  rw [utf8Length_append]
  omega

theorem offsetOf_le (s rest : Text) : offsetOf s rest ≤ utf8Length s :=
  Nat.sub_le _ _

theorem isBoundary_iff : s.IsBoundary n ↔ ∃ rest, rest <:+ s ∧ n = offsetOf s rest := by
  constructor
  · rintro ⟨before, rest, rfl, rfl⟩
    exact ⟨rest, List.suffix_append before rest, (offsetOf_append before rest).symm⟩
  · rintro ⟨rest, ⟨before, rfl⟩, rfl⟩
    exact ⟨before, rest, rfl, offsetOf_append before rest⟩

/-- What is passed over adds to the offset. -/
theorem offsetOf_eq_add (suffix : front ++ rest <:+ s) :
    offsetOf s rest = offsetOf s (front ++ rest) + utf8Length front := by
  have within := utf8Length_le_of_suffix suffix
  rw [offsetOf, offsetOf]
  rw [utf8Length_append] at within ⊢
  omega

/-- An ASCII character takes one byte. -/
theorem utf8Size_ascii (ascii : c.toNat < 0x80) : c.utf8Size = 1 :=
  Char.utf8Size_eq_one_iff.2 (Nat.le_of_lt_succ ascii)

theorem offsetOf_cons (ascii : c.toNat < 0x80) (suffix : c :: rest <:+ s) :
    offsetOf s rest = offsetOf s (c :: rest) + 1 := by
  have whole : [c] ++ rest <:+ s := suffix
  have next := offsetOf_eq_add whole
  rwa [utf8Length_cons, utf8Length_nil, utf8Size_ascii ascii] at next

theorem offsetOf_trans (suffix : rest <:+ s) (further : behind <:+ rest) :
    offsetOf s behind = offsetOf s rest + offsetOf rest behind := by
  obtain ⟨front, rfl⟩ := further
  rw [offsetOf_append, offsetOf_eq_add suffix]

/-- Of two suffixes the one that begins later is part of the other. -/
theorem suffix_of_offsetOf_le (suffix : rest <:+ s) (further : behind <:+ s)
    (order : offsetOf s rest ≤ offsetOf s behind) : behind <:+ rest := by
  obtain inside | ⟨front, rfl⟩ := List.suffix_or_suffix_of_suffix further suffix
  · exact inside
  · have same : front = [] := by
      have := offsetOf_eq_add further
      exact utf8Length_eq_zero_iff.1 (by omega)
    rw [same]
    exact List.suffix_rfl

theorem offsetOf_dropWhile (suffix : rest <:+ s) (p : Char → Bool) :
    offsetOf s (rest.dropWhile p) = offsetOf s rest + utf8Length (rest.takeWhile p) := by
  have whole := List.takeWhile_append_dropWhile (p := p) (l := rest)
  rw [← whole] at suffix
  rw [offsetOf_eq_add suffix, whole]

theorem offsetOf_lt_of_length_lt (suffix : rest <:+ s) (further : behind <:+ s)
    (shorter : behind.length < rest.length) : offsetOf s rest < offsetOf s behind := by
  obtain ⟨front, rfl⟩ := List.suffix_of_suffix_length_le further suffix (Nat.le_of_lt shorter)
  have nonempty : front ≠ [] := by
    rintro rfl
    exact Nat.lt_irrefl _ shorter
  have next := offsetOf_eq_add suffix
  have := utf8Length_pos nonempty
  omega

theorem dropBytes?_offsetOf (suffix : rest <:+ s) : dropBytes? (offsetOf s rest) s = some rest := by
  obtain ⟨before, rfl⟩ := suffix
  rw [offsetOf_append, dropBytes?_append]

theorem truncate?_offsetOf (front rest : Text) :
    truncate? (offsetOf (front ++ rest) rest) (front ++ rest) = some front := by
  rw [offsetOf_append, truncate?_append]

theorem slice?_offsetOf (suffix : front ++ rest <:+ s) :
    slice? (offsetOf s (front ++ rest)) (offsetOf s rest) s = some front := by
  have next := offsetOf_eq_add suffix
  have length : offsetOf s rest - offsetOf s (front ++ rest) = utf8Length front := by omega
  rw [slice?, if_pos (by omega), dropBytes?_offsetOf suffix, Option.bind_some, length,
    truncate?_append]

/-! ### Searches -/

/-- The byte offset of the first occurrence of `word` in `s`. -/
def findByte? (word s : Text) : Option Nat :=
  (cut? word s).map fun (before, _) => utf8Length before

theorem map_findByte? (suffix : rest <:+ s) (word : Text) :
    (findByte? word rest).map (offsetOf s rest + ·) =
      (cut? word rest).map fun (_, behind) => offsetOf s (word ++ behind) := by
  rw [findByte?, Option.map_map]
  refine Option.map_congr fun (before, behind) cut => ?_
  have whole : before ++ (word ++ behind) = rest := by
    rw [append_of_cut? cut, List.append_assoc]
  rw [← whole] at suffix
  show offsetOf s rest + utf8Length before = offsetOf s (word ++ behind)
  rw [offsetOf_eq_add suffix, whole]

/-! ### Bytes -/

def bytes (s : Text) : List UInt8 :=
  s.flatMap String.utf8EncodeChar

/-- The byte at this offset, taken for the character of its value. -/
def byteAt? (s : Text) (i : Nat) : Option Char :=
  s.bytes[i]?.map Char.ofUInt8

/-- The offset behind the bytes from `i` on that satisfy `p`, each taken for the character of its
value. -/
def scanBytes (p : Char → Bool) (s : Text) (i : Nat) : Nat :=
  i + ((s.bytes.drop i).takeWhile fun b => p (.ofUInt8 b)).length

theorem bytes_cons (c : Char) (s : Text) : bytes (c :: s) = String.utf8EncodeChar c ++ bytes s :=
  rfl

theorem bytes_append (s t : Text) : bytes (s ++ t) = bytes s ++ bytes t :=
  List.flatMap_append

theorem length_bytes (s : Text) : (bytes s).length = utf8Length s := by
  induction s with
  | nil => rfl
  | cons c s ih =>
      rw [bytes_cons, List.length_append, String.length_utf8EncodeChar, ih, utf8Length_cons]

theorem lt_of_byteAt? {i : Nat} (found : byteAt? s i = some c) : i < utf8Length s := by
  obtain ⟨b, there, -⟩ := Option.map_eq_some_iff.1 found
  rw [← length_bytes]
  exact (List.getElem?_eq_some_iff.1 there).1

theorem le_scanBytes (p : Char → Bool) (s : Text) (i : Nat) : i ≤ scanBytes p s i :=
  Nat.le_add_right _ _

theorem drop_bytes_offsetOf (suffix : rest <:+ s) :
    s.bytes.drop (offsetOf s rest) = bytes rest := by
  obtain ⟨before, rfl⟩ := suffix
  rw [offsetOf_append, bytes_append, ← length_bytes, List.drop_left]

/-- An ASCII character is its only byte. -/
theorem utf8EncodeChar_ascii (ascii : c.toNat < 0x80) :
    ∃ b, String.utf8EncodeChar c = [b] ∧ Char.ofUInt8 b = c := by
  have small : c.val.toNat ≤ 127 := Nat.le_of_lt_succ ascii
  refine ⟨UInt8.ofNat c.val.toNat, ?_, ?_⟩
  · simp only [String.utf8EncodeChar, if_pos small]
  · apply Char.toNat_inj.1
    show c.toNat % 256 = c.toNat
    omega

/-- No byte of another character is ASCII. -/
theorem utf8EncodeChar_beyondAscii (beyond : 0x80 ≤ c.toNat) :
    ∀ b ∈ String.utf8EncodeChar c, 0x80 ≤ (Char.ofUInt8 b).toNat := by
  have large : ¬ c.val.toNat ≤ 127 := Nat.not_le_of_lt beyond
  intro b member
  show 0x80 ≤ b.toNat
  simp only [String.utf8EncodeChar, if_neg large] at member
  split at member
  next two =>
    simp only [List.mem_cons, List.not_mem_nil, or_false] at member
    obtain rfl | rfl := member
    all_goals
      rw [UInt8.toNat_ofNat']
      omega
  split at member
  next three =>
    simp only [List.mem_cons, List.not_mem_nil, or_false] at member
    obtain rfl | rfl | rfl := member
    all_goals
      rw [UInt8.toNat_ofNat']
      omega
  next four =>
    simp only [List.mem_cons, List.not_mem_nil, or_false] at member
    obtain rfl | rfl | rfl | rfl := member
    all_goals
      rw [UInt8.toNat_ofNat']
      omega

/-- The test gives all characters beyond ASCII the same answer. -/
def IsBlindBeyondAscii (p : Char → Bool) : Prop :=
  ∃ answer, ∀ c : Char, 0x80 ≤ c.toNat → p c = answer

theorem ne_of_beyondAscii (beyond : 0x80 ≤ c.toNat) (ascii : q.toNat < 0x80) : c ≠ q := by
  rintro rfl
  omega

/-- A test that only ASCII characters pass. -/
theorem isBlindBeyondAscii_of_lt {p : Char → Bool} (bound : ∀ c, p c = true → c.toNat < 0x80) :
    IsBlindBeyondAscii p := by
  refine ⟨false, fun c beyond => ?_⟩
  rw [Bool.eq_false_iff]
  intro passes
  exact absurd (bound c passes) (Nat.not_lt_of_le beyond)

theorem isBlindBeyondAscii_eq (ascii : q.toNat < 0x80) : IsBlindBeyondAscii (· = q) :=
  ⟨false, fun _ beyond => decide_eq_false (ne_of_beyondAscii beyond ascii)⟩

theorem isBlindBeyondAscii_ne (ascii : q.toNat < 0x80) : IsBlindBeyondAscii (· ≠ q) :=
  ⟨true, fun _ beyond => decide_eq_true (ne_of_beyondAscii beyond ascii)⟩

namespace IsBlindBeyondAscii

variable {p q : Char → Bool}

theorem not (blind : IsBlindBeyondAscii p) : IsBlindBeyondAscii fun c => !p c := by
  obtain ⟨answer, all⟩ := blind
  exact ⟨!answer, fun c beyond => congrArg Bool.not (all c beyond)⟩

theorem and (left : IsBlindBeyondAscii p) (right : IsBlindBeyondAscii q) :
    IsBlindBeyondAscii fun c => p c && q c := by
  obtain ⟨a, left⟩ := left
  obtain ⟨b, right⟩ := right
  exact ⟨a && b, fun c beyond => by simp only [left c beyond, right c beyond]⟩

theorem or (left : IsBlindBeyondAscii p) (right : IsBlindBeyondAscii q) :
    IsBlindBeyondAscii fun c => p c || q c := by
  obtain ⟨a, left⟩ := left
  obtain ⟨b, right⟩ := right
  exact ⟨a || b, fun c beyond => by simp only [left c beyond, right c beyond]⟩

end IsBlindBeyondAscii

section Blind

variable {p : Char → Bool} (blind : IsBlindBeyondAscii p)

include blind

/-- Such a test holds of the bytes of a character as it does of the character. -/
theorem eq_of_mem_utf8EncodeChar : ∀ b ∈ String.utf8EncodeChar c, p (.ofUInt8 b) = p c := by
  intro b member
  obtain ascii | beyond := Nat.lt_or_ge c.toNat 0x80
  · obtain ⟨x, only, same⟩ := utf8EncodeChar_ascii ascii
    rw [only, List.mem_singleton] at member
    rw [member, same]
  · obtain ⟨answer, all⟩ := blind
    rw [all _ (utf8EncodeChar_beyondAscii beyond b member), all c beyond]

theorem any_head?_bytes (s : Text) :
    s.bytes.head?.any (fun b => p (.ofUInt8 b)) = s.head?.any p := by
  cases s with
  | nil => rfl
  | cons c s =>
      obtain ⟨b, more, encoded⟩ :=
        List.exists_cons_of_ne_nil (String.utf8EncodeChar_ne_nil (c := c))
      rw [bytes_cons, encoded]
      exact eq_of_mem_utf8EncodeChar blind b (by simp [encoded])

theorem takeWhile_bytes (s : Text) :
    (s.bytes.takeWhile fun b => p (.ofUInt8 b)) = bytes (s.takeWhile p) := by
  induction s with
  | nil => rfl
  | cons c s ih =>
      have alike := eq_of_mem_utf8EncodeChar blind (c := c)
      cases holds : p c with
      | true =>
          rw [bytes_cons, List.takeWhile_append_of_pos fun b member => (alike b member).trans holds,
            ih, List.takeWhile_cons_of_pos holds, bytes_cons]
      | false =>
          obtain ⟨b, more, encoded⟩ :=
            List.exists_cons_of_ne_nil (String.utf8EncodeChar_ne_nil (c := c))
          have first : p (.ofUInt8 b) = false := by rw [alike b (by simp [encoded]), holds]
          rw [bytes_cons, encoded, List.cons_append, List.takeWhile_cons_of_neg (by simp [first]),
            List.takeWhile_cons_of_neg (by simp [holds])]
          rfl

/-- A scan over bytes stops where one over characters does. -/
theorem scanBytes_offsetOf (suffix : rest <:+ s) :
    scanBytes p s (offsetOf s rest) = offsetOf s (rest.dropWhile p) := by
  rw [scanBytes, drop_bytes_offsetOf suffix, takeWhile_bytes blind, length_bytes,
    offsetOf_dropWhile suffix]

theorem any_byteAt?_offsetOf (suffix : rest <:+ s) :
    (byteAt? s (offsetOf s rest)).any p = rest.head?.any p := by
  rw [byteAt?, ← List.head?_drop, drop_bytes_offsetOf suffix, Option.any_map]
  exact any_head?_bytes blind rest

end Blind

theorem byteAt?_offsetOf_eq_none_iff (suffix : rest <:+ s) :
    byteAt? s (offsetOf s rest) = none ↔ rest = [] := by
  have within := utf8Length_le_of_suffix suffix
  rw [byteAt?, Option.map_eq_none_iff, List.getElem?_eq_none_iff, length_bytes, offsetOf,
    ← utf8Length_eq_zero_iff]
  omega

/-- A character of ASCII is found at its byte, and nowhere else. -/
theorem byteAt?_offsetOf_eq_some_iff (ascii : q.toNat < 0x80) (suffix : rest <:+ s) :
    byteAt? s (offsetOf s rest) = some q ↔ rest.head? = some q := by
  have same := any_byteAt?_offsetOf (isBlindBeyondAscii_eq ascii) suffix
  have eq_some : ∀ o : Option Char, o = some q ↔ o.any (· = q) = true := by
    intro o
    cases o <;> simp
  rw [eq_some, eq_some, same]

theorem byteAt?_offsetOf_cons (ascii : q.toNat < 0x80) (suffix : q :: rest <:+ s) :
    byteAt? s (offsetOf s (q :: rest)) = some q :=
  (byteAt?_offsetOf_eq_some_iff ascii suffix).2 rfl

theorem byteAt?_offsetOf_ne_some (ascii : q.toNat < 0x80) (suffix : rest <:+ s)
    (other : ∀ t, rest = q :: t → False) : byteAt? s (offsetOf s rest) ≠ some q := by
  intro found
  have first := (byteAt?_offsetOf_eq_some_iff ascii suffix).1 found
  obtain ⟨t, front⟩ := List.head?_eq_some_iff.1 first
  exact other t front

end TemplateMarkup.Text
