import TemplateMarkup.Markup.Attribute
import TemplateMarkup.Text.Blank
import TemplateMarkup.Text.Entity

/-!
# Start tags

The readers of tag names, attributes and start tags. Each takes what it reads from the front of a
text and hands back the rest. What does not fit the form is no start tag at all, so a reader that
fails says nothing about where.
-/

namespace TemplateMarkup

open Text

/-- The character continues a tag name. -/
def isTagNameChar (c : Char) : Bool :=
  c.isAlphanum || c = '_' || c = '-' || c = ':' || c = '.'

/-- The tag name at the front of the text: an ASCII letter and what continues it. It is empty if
the text does not start with a letter. -/
def tagName : Text → Text
  | [] => []
  | c :: s => if c.isAlpha then c :: s.takeWhile isTagNameChar else []

def isAttributeNameChar (c : Char) : Bool :=
  !isSpace c && c ≠ '"' && c ≠ '\'' && c ≠ '<' && c ≠ '>' && c ≠ '/' && c ≠ '='

def isUnquotedChar (c : Char) : Bool :=
  !isSpace c && c ≠ '"' && c ≠ '\'' && c ≠ '=' && c ≠ '<' && c ≠ '>' && c ≠ '`'

namespace Attribute

/-- The value as written, without its quotes, and the rest. A value without quotes has at least one
character. -/
def readValue? : Text → Option (Text × Text)
  | '"' :: s => cut? ['"'] s
  | '\'' :: s => cut? ['\''] s
  | s =>
    match s.takeWhile isUnquotedChar with
    | [] => none
    | value => some (value, s.dropWhile isUnquotedChar)

/-- An attribute and the rest. The value follows an equals sign, which spaces may surround, and its
character references are replaced. -/
def read? (s : Text) : Option (Attribute × Text) :=
  match s.takeWhile isAttributeNameChar with
  | [] => none
  | name =>
    let rest := s.dropWhile isAttributeNameChar
    match skipSpaces rest with
    | '=' :: t =>
      (readValue? (skipSpaces t)).map fun (value, rest) => (⟨name, decodeReferences value⟩, rest)
    | _ => some (⟨name, []⟩, rest)

end Attribute

theorem length_skipSpaces_le (s : Text) : (skipSpaces s).length ≤ s.length :=
  (List.dropWhile_sublist isSpace).length_le

namespace Attribute

variable {s rest : Text} {value : Text} {a : Attribute}

theorem length_le_of_readValue? (h : readValue? s = some (value, rest)) :
    rest.length ≤ s.length := by
  unfold readValue? at h
  split at h
  · have := Text.length_of_cut? h
    simp only [List.length_cons]
    omega
  · have := Text.length_of_cut? h
    simp only [List.length_cons]
    omega
  · split at h
    · simp at h
    · simp only [Option.some.injEq, Prod.mk.injEq] at h
      rw [← h.2]
      exact (List.dropWhile_sublist isUnquotedChar).length_le

/-- An attribute has a name, so reading one shortens the text. -/
theorem length_lt_of_read? (h : read? s = some (a, rest)) : rest.length < s.length := by
  have parts := List.takeWhile_append_dropWhile (p := isAttributeNameChar) (l := s)
  unfold read? at h
  split at h
  · simp at h
  next name hname =>
    have shorter : (s.dropWhile isAttributeNameChar).length < s.length := by
      have : 0 < (s.takeWhile isAttributeNameChar).length := List.length_pos_iff.2 hname
      have total := congrArg List.length parts
      rw [List.length_append] at total
      omega
    dsimp only at h
    split at h
    next t ht =>
      simp only [Option.map_eq_some_iff, Prod.exists, Prod.mk.injEq] at h
      obtain ⟨v, r, hv, -, rfl⟩ := h
      have h₁ := length_le_of_readValue? hv
      have h₂ := length_skipSpaces_le t
      have h₃ := length_skipSpaces_le (s.dropWhile isAttributeNameChar)
      rw [ht] at h₃
      simp only [List.length_cons] at h₃
      omega
    · simp only [Option.some.injEq, Prod.mk.injEq] at h
      rw [← h.2]
      exact shorter

/-- The attributes of a start tag, whether a slash ends it, and the rest behind the closing angle
bracket. -/
def readAll? (s : Text) : Option (List Attribute × Bool × Text) :=
  match skipSpaces s with
  | [] => none
  | '>' :: rest => some ([], false, rest)
  | '/' :: t =>
    match skipSpaces t with
    | '>' :: rest => some ([], true, rest)
    | _ => none
  | _ =>
    match _h : read? (skipSpaces s) with
    | none => none
    | some (a, rest) =>
      (readAll? rest).map fun (attributes, selfClosing, rest) =>
        (a :: attributes, selfClosing, rest)
termination_by s.length
decreasing_by
  have := length_lt_of_read? _h
  have := length_skipSpaces_le s
  omega

theorem length_lt_of_readAll? {attributes : List Attribute} {selfClosing : Bool}
    (h : readAll? s = some (attributes, selfClosing, rest)) : rest.length < s.length := by
  have spaces := length_skipSpaces_le s
  fun_induction readAll? s generalizing attributes with
  | case1 s hs => simp at h
  | case2 s r hs =>
    simp only [Option.some.injEq, Prod.mk.injEq] at h
    simp only [hs, List.length_cons] at spaces
    rw [← h.2.2]
    omega
  | case3 s t hs r ht =>
    simp only [Option.some.injEq, Prod.mk.injEq] at h
    have := length_skipSpaces_le t
    simp only [hs, ht, List.length_cons] at spaces this
    rw [← h.2.2]
    omega
  | case4 s t hs ht => simp at h
  | case5 s ha hs => simp at h
  | case6 s a r ha _ _ _ ih =>
    simp only [Option.map_eq_some_iff, Prod.exists, Prod.mk.injEq] at h
    obtain ⟨as, slash, r', hr', -, rfl, rfl⟩ := h
    have h₁ := length_lt_of_read? ha
    have h₂ := ih hr' (length_skipSpaces_le r)
    omega

end Attribute

structure StartTag where
  /-- The name as written. -/
  name : Text
  /-- The attributes in order. -/
  attributes : List Attribute
  /-- The tag ends with a slash, so it has no content. -/
  selfClosing : Bool
deriving DecidableEq, Repr

namespace StartTag

def read? : Text → Option (StartTag × Text)
  | '<' :: s =>
    match tagName s with
    | [] => none
    | name =>
      (Attribute.readAll? (s.drop name.length)).map fun (attributes, selfClosing, rest) =>
        (⟨name, attributes, selfClosing⟩, rest)
  | _ => none

/-- A start tag is not empty. -/
theorem length_lt_of_read? {s rest : Text} {tag : StartTag}
    (h : read? s = some (tag, rest)) : rest.length < s.length := by
  unfold read? at h
  split at h
  next t =>
    split at h
    · simp at h
    · simp only [Option.map_eq_some_iff, Prod.exists, Prod.mk.injEq] at h
      obtain ⟨as, slash, r, hr, -, rfl⟩ := h
      have h₁ := Attribute.length_lt_of_readAll? hr
      rw [List.length_drop] at h₁
      simp only [List.length_cons]
      omega
  · simp at h

end StartTag

end TemplateMarkup
