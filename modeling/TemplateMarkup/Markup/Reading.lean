import TemplateMarkup.Markup.Construct
import TemplateMarkup.Markup.OpenTags
import TemplateMarkup.Markup.RawText

/-!
# Reading a template

A template is read from the front in steps: raw text, one construct, or one run of text. Every step
takes at least one character, so reading comes to an end whatever the source, and at the end every
tag that is still open closes.
-/

namespace TemplateMarkup

open Text

/-- How far a source has been read. -/
structure Reading where
  /-- The number of characters read. -/
  offset : Nat := 0
  /-- The characters that follow. -/
  rest : Text
  /-- The tags that are open. -/
  openTags : OpenTags := []
  /-- The searches made so far. -/
  searches : Terminators := {}

namespace Reading

def advance (r : Reading) (n : Nat) : Reading :=
  { r with offset := r.offset + n, rest := r.rest.drop n }

@[simp] theorem rest_advance (r : Reading) (n : Nat) : (r.advance n).rest = r.rest.drop n := rfl

@[simp] theorem offset_advance (r : Reading) (n : Nat) : (r.advance n).offset = r.offset + n := rfl

@[simp] theorem openTags_advance (r : Reading) (n : Nat) : (r.advance n).openTags = r.openTags :=
  rfl

/-- The tag whose raw text the reading is in, in lowercase. -/
def rawTag? (d : Dialect) (r : Reading) : Option Text :=
  r.openTags.top?.filter d.isRawText

/-- The event of raw text, unless it is empty. -/
def rawTextEvents (body : Text) : List Emission :=
  match unwrapRawText body with
  | [] => []
  | content => [⟨.text content, .supplied⟩]

/-- Takes the raw text of `tag` and its end tag, or the whole rest if there is none. -/
def rawTextStep (tag : Text) (r : Reading) : List Emission × Reading :=
  match readRawText? tag r.rest with
  | none => (rawTextEvents r.rest, r.advance r.rest.length)
  | some (body, rest) =>
    let (out, tags) := r.openTags.endTag tag
    (rawTextEvents body ++ out,
      { r.advance (r.rest.length - rest.length) with openTags := tags })

def constructStep (d : Dialect) (expectHtml : Bool) (construct : Construct) (length : Nat)
    (r : Reading) : List Emission × Reading :=
  match construct with
  | .skipped => ([], r.advance length)
  | .endTag name =>
    let (out, tags) := r.openTags.endTag name
    (out, { r.advance length with openTags := tags })
  | .startTag tag =>
    let (out, tags) := r.openTags.startTag d expectHtml tag
    (out, { r.advance length with openTags := tags })

/-- Takes the text up to the next construct. -/
def textStep (r : Reading) : List Emission × Reading :=
  let (content, searches) := textRun r.offset r.rest r.searches
  ([⟨.text content, .written⟩], { r.advance content.length with searches })

def step (d : Dialect) (expectHtml : Bool) (r : Reading) : List Emission × Reading :=
  match r.rawTag? d with
  | some tag => r.rawTextStep tag
  | none =>
    match Construct.read? r.offset r.rest r.searches with
    | (some (construct, length), searches) =>
      { r with searches }.constructStep d expectHtml construct length
    | (none, searches) => { r with searches }.textStep

theorem length_textRun_pos (offset : Nat) {s : Text} (searches : Terminators) (h : s ≠ []) :
    0 < (textRun offset s searches).1.length := by
  cases s with
  | nil => exact absurd rfl h
  | cons c s => simp [textRun]

theorem rest_constructStep (d : Dialect) (expectHtml : Bool) (construct : Construct)
    (length : Nat) (r : Reading) :
    (r.constructStep d expectHtml construct length).2.rest = r.rest.drop length := by
  cases construct <;> rfl

/-- Every step takes at least one character. -/
theorem length_rest_step_lt (d : Dialect) (expectHtml : Bool) {r : Reading} (h : r.rest ≠ []) :
    (r.step d expectHtml).2.rest.length < r.rest.length := by
  have nonempty : 0 < r.rest.length := List.length_pos_iff.2 h
  unfold step
  split
  next tag _ =>
    unfold rawTextStep
    split
    · simpa using nonempty
    next body rest hread =>
      have := length_lt_of_readRawText? hread
      simp only [rest_advance, List.length_drop]
      omega
  · split
    next construct length searches hread =>
      have := Construct.length_pos_of_read? (congrArg Prod.fst hread)
      rw [rest_constructStep, List.length_drop]
      dsimp only
      omega
    next searches _ =>
      have := length_textRun_pos r.offset searches h
      simp only [textStep, rest_advance, List.length_drop]
      omega

def run (d : Dialect) (expectHtml : Bool) (r : Reading) : List Emission :=
  if r.rest = [] then r.openTags.endOfSource
  else
    let taken := r.step d expectHtml
    taken.1 ++ taken.2.run d expectHtml
termination_by r.rest.length
decreasing_by exact length_rest_step_lt _ _ ‹_›

end Reading

/-- What a reader of the source meets, in order. Tags close implicitly only where `expectHtml` is
set. -/
def emissions (d : Dialect) (expectHtml : Bool) (source : Text) : List Emission :=
  Reading.run d expectHtml { rest := source }

def events (d : Dialect) (expectHtml : Bool) (source : Text) : List Event :=
  (emissions d expectHtml source).map (·.event)

end TemplateMarkup
