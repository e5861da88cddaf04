import TemplateMarkup.Text.PrintTable

/-!
# Quoted text

Two ways to write a text between quotes. In a JSON string literal the quotes, backslashes and the
control characters below the space are escaped, all other characters stand for themselves. Both the
JSON printer and the literals inside annotations are written this way. In a diagnostic every
character shows: those without a glyph, and those that attach themselves to the one before, are
written by their code points.
-/

namespace TemplateMarkup

/-! ### String literals -/

/-- The character as it stands in a JSON string literal. -/
def quotedChar (c : Char) : Text :=
  if c = '"' then ['\\', '"']
  else if c = '\\' then ['\\', '\\']
  else if c = '\n' then ['\\', 'n']
  else if c = '\r' then ['\\', 'r']
  else if c = '\t' then ['\\', 't']
  else if c = '\x08' then ['\\', 'b']
  else if c = '\x0c' then ['\\', 'f']
  else if c.toNat < 0x20 then
    ['\\', 'u', '0', '0', Nat.digitChar (c.toNat / 16), Nat.digitChar (c.toNat % 16)]
  else [c]

namespace Text

/-- The characters of a JSON string literal between its quotes. -/
def quotedBody (s : Text) : Text :=
  s.flatMap quotedChar

def quote (s : Text) : Text :=
  '"' :: s.quotedBody ++ ['"']

end Text

/-! ### Diagnostics -/

def isPrintable (c : Char) : Bool :=
  !glyphlessRanges.has c && !fillerRanges.has c && !graphemeExtendRanges.has c

/-- The code point in hexadecimal, between braces. -/
def codePointEscape (c : Char) : Text :=
  ['\\', 'u', '{'] ++ Nat.toDigits 16 c.toNat ++ ['}']

/-- The character as it stands in a diagnostic. -/
def debugChar (c : Char) : Text :=
  if c = '"' then ['\\', '"']
  else if c = '\\' then ['\\', '\\']
  else if c = '\n' then ['\\', 'n']
  else if c = '\r' then ['\\', 'r']
  else if c = '\t' then ['\\', 't']
  else if c = '\x00' then ['\\', '0']
  else if isPrintable c then [c]
  else codePointEscape c

/-- The text between quotes, each character in a form that shows. -/
def Text.debugQuote (s : Text) : Text :=
  '"' :: s.flatMap debugChar ++ ['"']

end TemplateMarkup
