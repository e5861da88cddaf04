import TemplateMarkup.Markup.StartTag
import TemplateMarkup.Markup.Terminator

/-!
# Constructs

A construct is a piece of markup that is complete: a comment, a conditional comment, a doctype, an
end tag or a start tag. `Construct.read?` says which one starts at a place and how long it is. An
angle bracket that starts none is text.
-/

namespace TemplateMarkup

open Text

inductive Construct where
  /-- A comment, conditional comment or doctype, which leaves no event. -/
  | skipped
  /-- An end tag with its name as written. -/
  | endTag (name : Text)
  | startTag (tag : StartTag)
deriving DecidableEq, Repr

namespace Construct

/-- The text starts with a doctype, in any case. -/
def startsDoctype (s : Text) : Bool :=
  (afterIgnoringCase? "<!doctype".toList s).isSome

/-- The construct at the front of `s` and its length, where `s` is the source from `offset` on. A
comment or conditional comment may end with the characters that open it. -/
def read? (offset : Nat) (s : Text) (searches : Terminators) :
    Option (Construct × Nat) × Terminators :=
  if s.head? ≠ some '<' then (none, searches)
  else if (after? "<!--".toList s).isSome then
    let (stop, searches) := searches.find .comment offset s
    (stop.map fun i => (skipped, i - offset + 3), searches)
  else if (after? "<![".toList s).isSome then
    let (stop, searches) := searches.find .conditional offset s
    (stop.map fun i => (skipped, i - offset + 2), searches)
  else
    match searches.find .tag offset s with
    | (none, searches) => (none, searches)
    | (some i, searches) =>
      if startsDoctype s then (some (skipped, i - offset + 1), searches)
      else
        match after? "</".toList s with
        | some t => readEndTag? offset t searches
        | none =>
          ((StartTag.read? s).map fun (tag, rest) => (startTag tag, s.length - rest.length),
            searches)
where
  /-- The end tag whose name starts `t`, two characters after `offset`, and its length. -/
  readEndTag? (offset : Nat) (t : Text) (searches : Terminators) :
      Option (Construct × Nat) × Terminators :=
    match tagName t with
    | [] => (none, searches)
    | name =>
      let (stop, searches) :=
        searches.find .tag (offset + 2 + name.length) (t.drop name.length)
      (stop.map fun i => (endTag name, i - offset + 1), searches)

/-- A construct takes at least one character. -/
theorem length_pos_of_read? {offset length : Nat} {s : Text} {searches : Terminators}
    {construct : Construct} (h : (read? offset s searches).1 = some (construct, length)) :
    0 < length := by
  unfold read? at h
  split at h
  · simp at h
  split at h
  · simp only [Option.map_eq_some_iff, Prod.mk.injEq] at h
    obtain ⟨i, -, -, rfl⟩ := h
    omega
  split at h
  · simp only [Option.map_eq_some_iff, Prod.mk.injEq] at h
    obtain ⟨i, -, -, rfl⟩ := h
    omega
  split at h
  · simp at h
  split at h
  · simp only [Option.some.injEq, Prod.mk.injEq] at h
    omega
  split at h
  · unfold read?.readEndTag? at h
    split at h
    · simp at h
    · simp only [Option.map_eq_some_iff, Prod.mk.injEq] at h
      obtain ⟨i, -, -, rfl⟩ := h
      omega
  · simp only [Option.map_eq_some_iff, Prod.exists, Prod.mk.injEq] at h
    obtain ⟨tag, rest, hread, -, rfl⟩ := h
    have := StartTag.length_lt_of_read? hread
    omega

end Construct

/-- The text at the front of `s` before the next construct. -/
def textBeforeConstruct (offset : Nat) : Text → Terminators → Text × Terminators
  | [], searches => ([], searches)
  | c :: s, searches =>
    match Construct.read? offset (c :: s) searches with
    | (some _, searches) => ([], searches)
    | (none, searches) =>
      let (run, searches) := textBeforeConstruct (offset + 1) s searches
      (c :: run, searches)

/-- The run of text at the front of `s`, where no construct starts: the first character and what
follows before the next construct. -/
def textRun (offset : Nat) : Text → Terminators → Text × Terminators
  | [], searches => ([], searches)
  | c :: s, searches =>
    let (run, searches) := textBeforeConstruct (offset + 1) s searches
    (c :: run, searches)

end TemplateMarkup
