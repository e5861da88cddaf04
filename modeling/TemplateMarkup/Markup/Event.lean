import TemplateMarkup.Log
import TemplateMarkup.Markup.Attribute
import TemplateMarkup.Text.Quoted

/-!
# Events

A template read from left to right is a list of events: elements start and end, and text stands
between. An `Emission` is an event together with what gave rise to it, which only the log shows.
-/

namespace TemplateMarkup

/-- One step through a template. -/
inductive Event where
  /-- An element starts. A void start has no end. -/
  | start (tag : Text) (attributes : List Attribute) (isVoid : Bool)
  /-- The innermost open element ends. -/
  | finish (tag : Text)
  /-- A run of text. -/
  | text (content : Text)
  /-- An end tag that closes nothing. -/
  | unmatchedEnd (tag : Text)
deriving DecidableEq, Repr

/-- What gave rise to an event. -/
inductive Cause where
  /-- The source spells it out, or the source ended. -/
  | written
  /-- A tag that cannot stand in a paragraph closed one. -/
  | blockInParagraph (opened : Text)
  /-- A tag closed its left-open sibling. -/
  | siblingLeftOpen (opened : Text)
  /-- The reader supplied it without a record: a raw body, or the repair of a stray end tag. -/
  | supplied
deriving DecidableEq, Repr

/-- An event and what gave rise to it. -/
structure Emission where
  event : Event
  /-- What gave rise to it. -/
  cause : Cause := .written
deriving DecidableEq, Repr

namespace Cause

/-- The record of the decision behind an event, before that of the event itself. -/
def decision : Cause → List LogRecord
  | blockInParagraph opened =>
    [⟨.debug, '<' :: opened ++ "> implicitly closes <p>".toList⟩]
  | siblingLeftOpen opened =>
    [⟨.debug, '<' :: opened ++ "> implicitly closes the previous <".toList ++ opened ++ ['>']⟩]
  | _ => []

end Cause

namespace Event

def record : Event → LogRecord
  | start tag _ isVoid =>
    ⟨.trace, "start <".toList ++ tag ++ "> unary=".toList ++ (toString isVoid).toList⟩
  | finish tag => ⟨.trace, "end </".toList ++ tag ++ ['>']⟩
  | text content => ⟨.trace, "chars ".toList ++ content.debugQuote⟩
  | unmatchedEnd tag => ⟨.debug, "dropping unmatched </".toList ++ tag ++ ['>']⟩

end Event

namespace Emission

def records (e : Emission) : List LogRecord :=
  match e.cause with
  | .supplied => []
  | cause => cause.decision ++ [e.event.record]

end Emission

end TemplateMarkup
