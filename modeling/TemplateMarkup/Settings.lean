import TemplateMarkup.Dialect
import TemplateMarkup.Interpolation.Delimiters

/-!
# Settings

What a caller chooses for reading a template. Nothing here changes while a template is read.
-/

namespace TemplateMarkup

/-- The choices for reading a template. -/
structure Settings where
  /-- The dialect of the host. -/
  dialect : Dialect := .web
  /-- Some tags close implicitly. -/
  expectHtml : Bool := true
  /-- Blank text between elements becomes a space. -/
  preserveWhitespace : Bool := true
  /-- The delimiters, if they are not the standard ones. -/
  delimiters : Option Delimiters := none

namespace Settings

/-- The delimiters in effect. -/
def resolvedDelimiters (settings : Settings) : Except EmptyDelimiter Delimiters :=
  match settings.delimiters with
  | none => .ok .standard
  | some d => d.check

/-- The choices as a diagnostic shows them. The dialect has no text. -/
def describe (settings : Settings) : Text :=
  let delimiters :=
    match settings.delimiters with
    | none => "None".toList
    | some d =>
      "Some(Delimiters \x7b open: ".toList ++ d.opening.debugQuote ++ ", close: ".toList ++
        d.closing.debugQuote ++ " \x7d)".toList
  "ParserOptions \x7b expect_html: ".toList ++ (toString settings.expectHtml).toList ++
    ", preserve_whitespace: ".toList ++ (toString settings.preserveWhitespace).toList ++
    ", delimiters: ".toList ++ delimiters ++ ", warn: false, .. \x7d".toList

end Settings

end TemplateMarkup
