import TemplateMarkup.Text.Basic
import TemplateMarkup.Text.CaseTable

/-!
# Lowercase

The full lowercase mapping of Unicode. It differs from the simple one in two places: the capital I
with a dot becomes an i and a combining dot, and a capital sigma at the end of a word becomes the
final sigma.
-/

namespace TemplateMarkup

/-- The image of the code point in the run, if it is one of the run. -/
def LowercaseRun.image? (run : LowercaseRun) (n : Nat) : Option Nat :=
  if run.first ≤ n && n ≤ run.last && (n - run.first) % run.step = 0 then
    some (run.image + (n - run.first))
  else none

def simpleLowercase (c : Char) : Char :=
  if c.toNat < 0x80 then c.toLower
  else
    match lowercaseRuns.findSome? (·.image? c.toNat) with
    | some n => Char.ofNat n
    | none => c

def isCased (c : Char) : Bool :=
  casedRanges.has c

def isCaseIgnorable (c : Char) : Bool :=
  caseIgnorableRanges.has c

namespace Text

/-- The first character that is not case-ignorable is a cased one. -/
def meetsCased (s : Text) : Bool :=
  match s.dropWhile isCaseIgnorable with
  | [] => false
  | c :: _ => isCased c

/-- The lowercase of `s`, where `before` holds the characters in front of it, the nearest first. -/
def toLowerAfter (before : Text) : Text → Text
  | [] => []
  | c :: s =>
    let lower : Text :=
      if c = 'İ' then ['i', '\u0307']
      else if c = 'Σ' then
        if meetsCased before && !meetsCased s then ['ς'] else ['σ']
      else [simpleLowercase c]
    lower ++ toLowerAfter (c :: before) s

/-- The lowercase of a text. A capital sigma is final when a cased letter stands before it and none
after it, case-ignorable characters not counted. -/
def toLower (s : Text) : Text :=
  toLowerAfter [] s

/-! ### ASCII -/

theorem simpleLowercase_eq_toLower {c : Char} (h : c.toNat < 0x80) :
    simpleLowercase c = c.toLower := by
  simp [simpleLowercase, h]

theorem toLowerAfter_eq_toLowerAscii {s : Text} (before : Text) (h : ∀ c ∈ s, c.toNat < 0x80) :
    toLowerAfter before s = s.toLowerAscii := by
  induction s generalizing before with
  | nil => rfl
  | cons c s ih =>
    have hc : c.toNat < 0x80 := h c (by simp)
    have hi : c ≠ 'İ' := by rintro rfl; exact absurd hc (by decide)
    have hs : c ≠ 'Σ' := by rintro rfl; exact absurd hc (by decide)
    have := ih (c :: before) (fun x hx => h x (by simp [hx]))
    simp [toLowerAfter, hi, hs, simpleLowercase_eq_toLower hc, this, toLowerAscii]

/-- On ASCII text the full mapping is the ASCII one. -/
theorem toLower_eq_toLowerAscii {s : Text} (h : ∀ c ∈ s, c.toNat < 0x80) :
    s.toLower = s.toLowerAscii :=
  toLowerAfter_eq_toLowerAscii [] h

end Text

end TemplateMarkup
