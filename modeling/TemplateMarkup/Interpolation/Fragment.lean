import TemplateMarkup.Interpolation.Delimiters
import TemplateMarkup.Interpolation.Pipeline
import TemplateMarkup.Text.Quoted

/-!
# Interpolated text

A span is a stretch of text from an opening delimiter to the first closing one behind it, with at
least one character between them. Text with a span is cut into fragments: the spans, and the literal
text around them. A delimiter that is empty is found where the search for it begins.
-/

namespace TemplateMarkup

open Text

inductive Fragment where
  /-- Text that stands for itself. -/
  | literal (content : Text)
  /-- An expression to evaluate. -/
  | binding (pipeline : Pipeline)
deriving DecidableEq, Repr

/-- The first span of a text and what surrounds it. -/
structure Span where
  /-- The text before the opening delimiter. -/
  before : Text
  /-- The text between the delimiters. -/
  inner : Text
  /-- The text after the closing delimiter. -/
  rest : Text
deriving DecidableEq, Repr

/-- The span at the first opening delimiter. If that one is never closed there is no span, since
then no later one is closed either. -/
def Span.first? (d : Delimiters) (s : Text) : Option Span :=
  match cut? d.opening s with
  | none => none
  | some (_, []) => none
  | some (before, c :: r) =>
    (cut? d.closing r).map fun (inner, rest) => ⟨before, c :: inner, rest⟩

/-- What follows a span is shorter, since a span holds a character. -/
theorem Span.length_rest_lt {d : Delimiters} {s : Text} {span : Span}
    (h : first? d s = some span) : span.rest.length < s.length := by
  unfold first? at h
  split at h
  · simp at h
  · simp at h
  next before c r hcut =>
    simp only [Option.map_eq_some_iff, Prod.exists] at h
    obtain ⟨inner, rest, hclose, rfl⟩ := h
    have h₁ := length_of_cut? hcut
    have h₂ := length_of_cut? hclose
    simp only [List.length_cons] at h₁
    dsimp only
    omega

/-- The literal fragment of a text, if there is any text. -/
def Fragment.literals : Text → List Fragment
  | [] => []
  | s => [literal s]

def fragments (d : Delimiters) (s : Text) : List Fragment :=
  match _h : Span.first? d s with
  | none => Fragment.literals s
  | some span =>
    Fragment.literals span.before ++ .binding (Pipeline.ofText (trim span.inner)) ::
      fragments d span.rest
termination_by s.length
decreasing_by exact Span.length_rest_lt _h

/-- Text with at least one span, as its fragments. -/
structure Interpolation where
  /-- The fragments in order. -/
  fragments : List Fragment
deriving DecidableEq, Repr

namespace Interpolation

/-- The interpolation that a text writes, or `none` if it has no span. -/
def ofText? (d : Delimiters) (s : Text) : Option Interpolation :=
  if (Span.first? d s).isSome then some ⟨TemplateMarkup.fragments d s⟩ else none

/-- The pipelines of the expressions in the text. -/
def bindings (i : Interpolation) : List Pipeline :=
  i.fragments.filterMap fun
    | .literal _ => none
    | .binding pipeline => some pipeline

/-- A fragment as a term of an expression. -/
def term : Fragment → Text
  | .literal content => content.quote
  | .binding pipeline => "_s(".toList ++ pipeline.toText ++ [')']

/-- The interpolation as one expression, the sum of its fragments. -/
def toText (i : Interpolation) : Text :=
  ['+'].intercalate (i.fragments.map term)

end Interpolation

end TemplateMarkup
