import TemplateMarkup.Text.Basic
import TemplateMarkup.Text.NamedCharacters

/-!
# Character references

A character reference is an ampersand, a body and a semicolon. `Text.decodeReferences` replaces in
one pass each reference that stands for a character, and leaves every other ampersand as it is. It
stands for the decoder of a library that is not part of the parser. What is proved of the parser
rests on one property of it, that text without an ampersand is left alone
(`Text.decodeReferences_eq_self`), and so holds of any decoder that has this property.
-/

namespace TemplateMarkup

/-- The value of a digit in bases up to sixteen. -/
def digitValue (c : Char) : Nat :=
  if c.isDigit then c.toNat - '0'.toNat
  else if c.isLower then c.toNat - 'a'.toNat + 10
  else c.toNat - 'A'.toNat + 10

def isHexDigit (c : Char) : Bool :=
  c.isDigit || ('a' ≤ c && c ≤ 'f') || ('A' ≤ c && c ≤ 'F')

/-- The number that the digits write in the given base. -/
def numeralValue (base : Nat) (digits : Text) : Nat :=
  digits.foldl (fun n c => n * base + digitValue c) 0

/-- The character with this code point, for the code points that a numeric reference may name:
those of characters, except controls below the space other than tab, line feed, form feed and
carriage return. -/
def referencedCharacter? (n : Nat) : Option Char :=
  if n.isValidChar && (0x20 ≤ n || n = 0x9 || n = 0xA || n = 0xC || n = 0xD) then
    some (Char.ofNat n)
  else none

namespace Text

/-- The character that a numeral of a numeric reference names. -/
def numericReference? (base : Nat) (isDigit : Char → Bool) (digits : Text) : Option Char :=
  if digits ≠ [] && digits.all isDigit then referencedCharacter? (numeralValue base digits)
  else none

def namedReference? (name : Text) : Option Char :=
  (namedCharacters.lookup (String.ofList name)).map Char.ofNat

/-- The character that the reference with this body stands for. -/
def reference? : Text → Option Char
  | '#' :: 'x' :: digits => numericReference? 16 isHexDigit digits
  | '#' :: 'X' :: digits => numericReference? 16 isHexDigit digits
  | '#' :: digits => numericReference? 10 Char.isDigit digits
  | name => namedReference? name

/-- The character may stand in the body of a reference. -/
def isReferenceBody (c : Char) : Bool :=
  c ≠ ';' && c ≠ '&'

/-- The text with its character references replaced, as the decoder of another library does it. A
reference that stands for no character stays, and so does an ampersand that another ampersand or the
end of the text cuts off from its semicolon. -/
def decodeReferences : Text → Text
  | [] => []
  | c :: s =>
    if c = '&' then
      let body := s.takeWhile isReferenceBody
      match _h : s.dropWhile isReferenceBody with
      | ';' :: rest =>
        match reference? body with
        | some x => x :: decodeReferences rest
        | none => '&' :: body ++ ';' :: decodeReferences rest
      | rest => '&' :: body ++ decodeReferences rest
    else c :: decodeReferences s
termination_by s => s.length
decreasing_by
  all_goals
    have := (List.dropWhile_sublist isReferenceBody (l := s)).length_le
    simp_all
    try omega

/-- Text without an ampersand has no references. No other property of the decoder is used
elsewhere. -/
theorem decodeReferences_eq_self {s : Text} (h : '&' ∉ s) : decodeReferences s = s := by
  induction s with
  | nil => simp [decodeReferences]
  | cons c s ih =>
    simp only [List.mem_cons, not_or] at h
    rw [decodeReferences, if_neg (Ne.symm h.1), ih h.2]

end Text

end TemplateMarkup
