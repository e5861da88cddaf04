import TemplateMarkup.Text.Quoted

/-!
# Delimiters

The two words between which an expression stands in text. A parse refuses empty ones, since an
empty word is found everywhere.
-/

namespace TemplateMarkup

/-- The words before and after an interpolated expression. -/
structure Delimiters where
  /-- The word before the expression. -/
  opening : Text
  /-- The word after the expression. -/
  closing : Text
deriving DecidableEq, Repr

/-- Delimiters of which one is empty, as they were given. -/
structure EmptyDelimiter where
  /-- The delimiters. -/
  given : Delimiters
deriving DecidableEq, Repr

/-- Why the delimiters are refused. -/
def EmptyDelimiter.message (e : EmptyDelimiter) : Text :=
  "interpolation delimiters must be non-empty (got ".toList ++ e.given.opening.debugQuote ++
    " and ".toList ++ e.given.closing.debugQuote ++ [')']

namespace Delimiters

/-- The delimiters of a template that chooses none. -/
def standard : Delimiters where
  opening := ['{', '{']
  closing := ['}', '}']

/-- The delimiters, unless one is empty. -/
def check (d : Delimiters) : Except EmptyDelimiter Delimiters :=
  if d.opening = [] ∨ d.closing = [] then .error ⟨d⟩ else .ok d

end Delimiters

end TemplateMarkup
