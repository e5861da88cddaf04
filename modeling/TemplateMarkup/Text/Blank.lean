import TemplateMarkup.Text.Basic

/-!
# Blanks and spaces

Two classes of separating characters. Blanks are the characters with the Unicode property
`White_Space`; text content and expressions are trimmed of them. Spaces are the five ASCII
characters that separate the parts of a tag; the vertical tab is a blank and not a space.
-/

namespace TemplateMarkup

/-- The characters with the property `White_Space`. -/
def blankRanges : CodeRanges := [
  (0x9, 0xD), (0x20, 0x20), (0x85, 0x85), (0xA0, 0xA0), (0x1680, 0x1680), (0x2000, 0x200A),
  (0x2028, 0x2029), (0x202F, 0x202F), (0x205F, 0x205F), (0x3000, 0x3000)]

def isBlank (c : Char) : Bool :=
  blankRanges.has c

/-- The character separates the parts of a tag: space, tab, line feed, form feed or carriage
return. -/
def isSpace (c : Char) : Bool :=
  c = ' ' || c = '\t' || c = '\n' || c = '\x0c' || c = '\r'

theorem notMem_of_isBlank {blanks : Text} (blank : ∀ c ∈ blanks, isBlank c = true) {c : Char}
    (solid : isBlank c = false) : c ∉ blanks := by
  intro member
  rw [blank c member] at solid
  exact Bool.noConfusion solid

namespace Text

def trim (s : Text) : Text :=
  trimBoth isBlank s

def isAllBlank (s : Text) : Bool :=
  s.all isBlank

def skipSpaces (s : Text) : Text :=
  s.dropWhile isSpace

end Text

end TemplateMarkup
