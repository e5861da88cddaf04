import TemplateMarkup.Markup.Reading
import TemplateMarkup.Template.Builder

/-!
# Parsing

From the source of a template to the template and the warnings about it. Whatever the source holds,
parsing succeeds; only delimiters that cannot be used are refused. `compile` puts an optimizer and a
generator behind the parser.
-/

namespace TemplateMarkup

/-- A template and the warnings about its source, in order. -/
structure Parsed where
  template : Template
  warnings : List Warning
deriving DecidableEq

/-- The template of a source, and the warnings of each event, for delimiters that can be used. -/
def buildTemplate (settings : Settings) (d : Delimiters) (source : Text) :
    Builder × List (List Warning) :=
  Builder.run settings d {} (events settings.dialect settings.expectHtml source)

def parse (settings : Settings) (source : Text) : Except EmptyDelimiter Parsed :=
  settings.resolvedDelimiters.map fun d =>
    let (b, warnings) := buildTemplate settings d source
    ⟨b.template, warnings.flatten⟩

/-- The log of parsing a source: the records of each event and then those of its warnings. -/
def parseLog (settings : Settings) (source : Text) : List LogRecord :=
  match settings.resolvedDelimiters with
  | .error _ => []
  | .ok d =>
    let out := emissions settings.dialect settings.expectHtml source
    let warnings := (buildTemplate settings d source).2
    (out.zip warnings).flatMap fun (e, warnings) => e.records ++ warnings.map Warning.record

/-- What a generator made of a template, and the warnings about its source. -/
structure Compiled (α : Type) where
  /-- The output of the generator. -/
  output : α
  warnings : List Warning

/-- Parses a source without the blanks around it, and hands the template to an optimizer and then
to a generator. -/
def compile {α : Type} (settings : Settings) (optimize : Template → Settings → Template)
    (generate : Template → Settings → α) (source : Text) : Except EmptyDelimiter (Compiled α) :=
  (parse settings source.trim).map fun parsed =>
    ⟨generate (optimize parsed.template settings) settings, parsed.warnings⟩

end TemplateMarkup
