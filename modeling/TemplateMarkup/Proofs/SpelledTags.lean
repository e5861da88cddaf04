import TemplateMarkup.Proofs.Printing

/-!
# Spelled start tags

There are many ways to write the same start tag: spaces before an attribute and around its equals
sign, three forms of a value or none, spaces in front of the end. A `SpelledTag` is one of them. All
are read back as the tag they spell, whatever follows. What a part ends at is told by the character
behind it: a name ends in front of a space, an equals sign or the end of the tag, a value without
quotes in front of a space or the closing bracket, which is why a slash in front of the bracket
needs a space to be no part of a value.
-/

namespace TemplateMarkup

open Text

/-! ### Spellings -/

/-- A run of spaces between the parts of a tag, which may be empty. -/
structure Spaces where
  /-- The spaces. -/
  content : Text
  valid : ∀ c ∈ content, isSpace c = true

/-- A value as it is written behind an equals sign. -/
inductive SpelledValue where
  /-- Between quotes, of which the text holds none of the same kind. -/
  | quoted (quote : Char) (content : Text) (isQuote : quote = '"' ∨ quote = '\'')
    (inside : quote ∉ content)
  /-- Without quotes. -/
  | unquoted (content : Text) (nonempty : content ≠ [])
    (plain : ∀ c ∈ content, isUnquotedChar c = true)

namespace SpelledValue

/-- The text of the value, in which references may stand. -/
def content : SpelledValue → Text
  | quoted _ content _ _ => content
  | unquoted content _ _ => content

def spell : SpelledValue → Text
  | quoted quote content _ _ => quote :: (content ++ [quote])
  | unquoted content _ _ => content

end SpelledValue

/-- An equals sign and a value, with spaces around the sign. -/
structure SpelledAssignment where
  before : Spaces
  after : Spaces
  value : SpelledValue

namespace SpelledAssignment

def spell (a : SpelledAssignment) : Text :=
  a.before.content ++ '=' :: (a.after.content ++ a.value.spell)

end SpelledAssignment

/-- An attribute behind spaces, with a value or without. -/
structure SpelledAttribute where
  gap : Spaces
  separated : gap.content ≠ []
  name : Text
  nonempty : name ≠ []
  nameChars : ∀ c ∈ name, isAttributeNameChar c = true
  assignment : Option SpelledAssignment

namespace SpelledAttribute

/-- The attribute without the spaces in front of it. -/
def spellBare (a : SpelledAttribute) : Text :=
  a.name ++ (a.assignment.map SpelledAssignment.spell).getD []

def spell (a : SpelledAttribute) : Text :=
  a.gap.content ++ a.spellBare

/-- What the attribute says. Without a value it has the empty one. -/
def meaning (a : SpelledAttribute) : Attribute :=
  ⟨a.name, (a.assignment.map fun assignment =>
    decodeReferences assignment.value.content).getD []⟩

end SpelledAttribute

inductive TagEnding where
  | bracket (before : Spaces)
  /-- The slash stands apart, since it could continue a value. -/
  | slash (before : Spaces) (separated : before.content ≠ []) (after : Spaces)

namespace TagEnding

def selfClosing : TagEnding → Bool
  | bracket _ => false
  | slash _ _ _ => true

def spell : TagEnding → Text
  | bracket before => before.content ++ ['>']
  | slash before _ after => before.content ++ '/' :: (after.content ++ ['>'])

end TagEnding

structure SpelledTag where
  name : TagName
  attributes : List SpelledAttribute
  ending : TagEnding

namespace SpelledTag

def spell (t : SpelledTag) : Text :=
  '<' :: (t.name.name ++ (t.attributes.flatMap SpelledAttribute.spell ++ t.ending.spell))

def tag (t : SpelledTag) : StartTag :=
  ⟨t.name.name, t.attributes.map SpelledAttribute.meaning, t.ending.selfClosing⟩

end SpelledTag

/-! ### Where a part ends -/

section Characters

variable {c : Char}

theorem isAttributeNameChar_eq_false (ends : isSpace c = true ∨ c = '>' ∨ c = '=') :
    isAttributeNameChar c = false := by
  rcases ends with space | rfl | rfl
  · simp [isAttributeNameChar, space]
  · decide
  · decide

theorem isUnquotedChar_eq_false (ends : isSpace c = true ∨ c = '>') : isUnquotedChar c = false := by
  rcases ends with space | rfl
  · simp [isUnquotedChar, space]
  · decide

end Characters

section Runs

variable {p : Char → Bool} {front s : Text}

/-- A run of characters ends in front of one of another kind. -/
theorem Text.takeWhile_append_of_head (run : ∀ c ∈ front, p c = true)
    (stop : ∀ c ∈ s.head?, p c = false) : (front ++ s).takeWhile p = front := by
  rw [List.takeWhile_append_of_pos run]
  cases s with
  | nil => rw [List.takeWhile_nil, List.append_nil]
  | cons c s => rw [List.takeWhile_cons_of_neg (by simp [stop c rfl]), List.append_nil]

theorem Text.dropWhile_append_of_head (run : ∀ c ∈ front, p c = true)
    (stop : ∀ c ∈ s.head?, p c = false) : (front ++ s).dropWhile p = s := by
  rw [List.dropWhile_append_of_pos run]
  cases s with
  | nil => rfl
  | cons c s => exact List.dropWhile_cons_of_neg (by simp [stop c rfl])

end Runs

namespace Spaces

variable {c : Char} {s : Text}

theorem skipSpaces_append (spaces : Spaces) (solid : isSpace c = false) (s : Text) :
    skipSpaces (spaces.content ++ c :: s) = c :: s := by
  apply Text.dropWhile_append_of_head spaces.valid
  rintro x ⟨⟩
  exact solid

/-- Behind spaces, if there are any, the first character is one of them. -/
theorem of_mem_head? (spaces : Spaces) (first : c ∈ (spaces.content ++ s).head?) :
    isSpace c = true ∨ spaces.content = [] ∧ c ∈ s.head? := by
  obtain ⟨content, valid⟩ := spaces
  cases content with
  | nil => exact .inr ⟨rfl, first⟩
  | cons x content =>
      obtain rfl : x = c := Option.some.inj first
      exact .inl (valid x List.mem_cons_self)

end Spaces

/-- An attribute without quotes can end in front of this text: a space or the closing bracket
follows, and no equals sign behind the spaces. -/
structure EndsAttributeAt (s : Text) : Prop where
  stop : ∀ c ∈ s.head?, isSpace c = true ∨ c = '>'
  noEquals : (skipSpaces s).head? ≠ some '='

/-! ### Reading an attribute -/

namespace Attribute

variable {name s t : Text} (nonempty : name ≠ [])
  (nameChars : ∀ c ∈ name, isAttributeNameChar c = true)
  (stop : ∀ c ∈ s.head?, isAttributeNameChar c = false)

include nonempty nameChars stop

theorem read?_bare (noEquals : (skipSpaces s).head? ≠ some '=') :
    read? (name ++ s) = some (⟨name, []⟩, s) := by
  rw [read?, Text.takeWhile_append_of_head nameChars stop]
  split
  next => exact absurd rfl nonempty
  next =>
    rw [Text.dropWhile_append_of_head nameChars stop]
    dsimp only
    split
    next t equals => simp [equals] at noEquals
    next => rfl

theorem read?_assigned (equals : skipSpaces s = '=' :: t) :
    read? (name ++ s) = (readValue? (skipSpaces t)).map fun (value, rest) =>
      (⟨name, decodeReferences value⟩, rest) := by
  rw [read?, Text.takeWhile_append_of_head nameChars stop]
  split
  next => exact absurd rfl nonempty
  next =>
    rw [Text.dropWhile_append_of_head nameChars stop]
    simp only [equals]

end Attribute

namespace Attribute

variable {s t rest : Text}

theorem readAll?_of_bracket (closed : skipSpaces s = '>' :: rest) :
    readAll? s = some ([], false, rest) := by
  rw [readAll?]
  simp only [closed]

theorem readAll?_of_slash (slash : skipSpaces s = '/' :: t) (closed : skipSpaces t = '>' :: rest) :
    readAll? s = some ([], true, rest) := by
  rw [readAll?]
  simp only [slash, closed]

end Attribute

namespace SpelledValue

/-- A value starts with a quote or a character of its own. -/
theorem exists_spell_eq (v : SpelledValue) : ∃ c s, v.spell = c :: s ∧ isSpace c = false := by
  cases v with
  | quoted quote content isQuote inside =>
      refine ⟨quote, content ++ [quote], rfl, ?_⟩
      rcases isQuote with rfl | rfl <;> decide
  | unquoted content nonempty plain =>
      obtain ⟨c, s, rfl⟩ := List.exists_cons_of_ne_nil nonempty
      have first := plain c List.mem_cons_self
      refine ⟨c, s, rfl, ?_⟩
      simp only [isUnquotedChar, Bool.and_eq_true, Bool.not_eq_true'] at first
      exact first.1.1.1.1.1.1

theorem readValue?_spell (v : SpelledValue) {rest : Text}
    (stop : ∀ c ∈ rest.head?, isUnquotedChar c = false) :
    Attribute.readValue? (v.spell ++ rest) = some (v.content, rest) := by
  cases v with
  | quoted quote content isQuote inside =>
      have whole : (quoted quote content isQuote inside).spell ++ rest =
          quote :: (content ++ quote :: rest) := by simp [spell]
      rw [whole]
      rcases isQuote with rfl | rfl <;> exact cut?_of_notMem inside rest
  | unquoted content nonempty plain =>
      have taken := Text.takeWhile_append_of_head plain stop
      have left := Text.dropWhile_append_of_head plain stop
      obtain ⟨c, s, rfl⟩ := List.exists_cons_of_ne_nil nonempty
      have first := plain c List.mem_cons_self
      change Attribute.readValue? (c :: s ++ rest) = some (c :: s, rest)
      rw [Attribute.readValue?.eq_def]
      split
      next double =>
        obtain ⟨rfl, -⟩ := List.cons.inj double
        exact absurd first (by decide)
      next single =>
        obtain ⟨rfl, -⟩ := List.cons.inj single
        exact absurd first (by decide)
      next => rw [taken, left]

end SpelledValue

namespace SpelledAttribute

variable {rest : Text}

/-- An attribute without the spaces in front of it starts with its name. -/
theorem exists_spellBare_eq (a : SpelledAttribute) :
    ∃ c s, a.spellBare = c :: s ∧ isSpace c = false ∧ c ≠ '>' ∧ c ≠ '/' ∧ c ≠ '=' := by
  obtain ⟨c, s, whole⟩ := List.exists_cons_of_ne_nil a.nonempty
  have nameChar := a.nameChars c (by simp [whole])
  simp only [isAttributeNameChar, Bool.and_eq_true, Bool.not_eq_true',
    decide_eq_true_eq] at nameChar
  obtain ⟨⟨⟨⟨⟨⟨noSpace, -⟩, -⟩, -⟩, noBracket⟩, noSlash⟩, noEquals⟩ := nameChar
  refine ⟨c, s ++ (a.assignment.map SpelledAssignment.spell).getD [], ?_, noSpace, noBracket,
    noSlash, noEquals⟩
  rw [spellBare, whole, List.cons_append]

theorem read?_spellBare (a : SpelledAttribute) (ends : EndsAttributeAt rest) :
    Attribute.read? (a.spellBare ++ rest) = some (a.meaning, rest) := by
  rw [spellBare, meaning, List.append_assoc]
  cases a.assignment with
  | none =>
      have notName : ∀ c ∈ rest.head?, isAttributeNameChar c = false := by
        intro c first
        exact isAttributeNameChar_eq_false ((ends.stop c first).imp_right .inl)
      exact Attribute.read?_bare a.nonempty a.nameChars notName ends.noEquals
  | some g =>
      obtain ⟨c, s, front, noSpace⟩ := g.value.exists_spell_eq
      have split : g.spell ++ rest =
          g.before.content ++ '=' :: (g.after.content ++ (g.value.spell ++ rest)) := by
        simp [SpelledAssignment.spell]
      have equals : skipSpaces (g.spell ++ rest) =
          '=' :: (g.after.content ++ (g.value.spell ++ rest)) := by
        rw [split, g.before.skipSpaces_append (by decide)]
      have value : skipSpaces (g.after.content ++ (g.value.spell ++ rest)) =
          g.value.spell ++ rest := by
        rw [front]
        exact g.after.skipSpaces_append noSpace (s ++ rest)
      have notName : ∀ c ∈ (g.spell ++ rest).head?, isAttributeNameChar c = false := by
        intro c first
        rw [split] at first
        apply isAttributeNameChar_eq_false
        rcases g.before.of_mem_head? first with space | ⟨-, ⟨⟩⟩
        · exact .inl space
        · exact .inr (.inr rfl)
      have notValue : ∀ c ∈ rest.head?, isUnquotedChar c = false := by
        intro c first
        exact isUnquotedChar_eq_false (ends.stop c first)
      refine (Attribute.read?_assigned a.nonempty a.nameChars notName equals).trans ?_
      rw [value, g.value.readValue?_spell notValue]
      rfl

theorem skipSpaces_spell (a : SpelledAttribute) (rest : Text) :
    skipSpaces (a.spell ++ rest) = a.spellBare ++ rest := by
  obtain ⟨c, s, front, noSpace, -⟩ := a.exists_spellBare_eq
  rw [spell, List.append_assoc, front]
  exact a.gap.skipSpaces_append noSpace (s ++ rest)

/-- The spaces in front of an attribute end the one before it. -/
theorem endsAttributeAt_spell (a : SpelledAttribute) (rest : Text) :
    EndsAttributeAt (a.spell ++ rest) := by
  obtain ⟨c, s, front, -, -, -, noEquals⟩ := a.exists_spellBare_eq
  refine ⟨?_, ?_⟩
  · intro x first
    rw [spell, List.append_assoc] at first
    rcases a.gap.of_mem_head? first with space | ⟨empty, -⟩
    · exact .inl space
    · exact absurd empty a.separated
  · rw [skipSpaces_spell, front]
    simpa using noEquals

end SpelledAttribute

namespace TagEnding

variable (rest : Text)

theorem bracket_append (before : Spaces) :
    (bracket before).spell ++ rest = before.content ++ '>' :: rest := by
  simp [spell]

theorem slash_append (before : Spaces) (separated : before.content ≠ []) (after : Spaces) :
    (slash before separated after).spell ++ rest =
      before.content ++ '/' :: (after.content ++ '>' :: rest) := by
  simp [spell]

/-- The end of a tag ends the attribute before it. -/
theorem endsAttributeAt_spell (e : TagEnding) : EndsAttributeAt (e.spell ++ rest) := by
  cases e with
  | bracket before =>
      rw [bracket_append]
      refine ⟨?_, ?_⟩
      · intro c first
        rcases before.of_mem_head? first with space | ⟨-, ⟨⟩⟩
        · exact .inl space
        · exact .inr rfl
      · rw [before.skipSpaces_append (by decide)]
        simp
  | slash before separated after =>
      rw [slash_append]
      refine ⟨?_, ?_⟩
      · intro c first
        rcases before.of_mem_head? first with space | ⟨empty, -⟩
        · exact .inl space
        · exact absurd empty separated
      · rw [before.skipSpaces_append (by decide)]
        simp

theorem readAll?_spell (e : TagEnding) :
    Attribute.readAll? (e.spell ++ rest) = some ([], e.selfClosing, rest) := by
  cases e with
  | bracket before =>
      rw [bracket_append]
      exact Attribute.readAll?_of_bracket (before.skipSpaces_append (by decide) rest)
  | slash before separated after =>
      rw [slash_append]
      exact Attribute.readAll?_of_slash (before.skipSpaces_append (by decide) _)
        (after.skipSpaces_append (by decide) rest)

theorem exists_spell_eq (e : TagEnding) : ∃ front, e.spell = front ++ ['>'] := by
  cases e with
  | bracket before => exact ⟨before.content, rfl⟩
  | slash before separated after =>
      exact ⟨before.content ++ '/' :: after.content, by simp [spell]⟩

end TagEnding

/-! ### Reading a tag -/

/-- Attributes and the end of a tag are read one after the other. -/
theorem readAll?_spell (attributes : List SpelledAttribute) (e : TagEnding) (rest : Text) :
    EndsAttributeAt (attributes.flatMap SpelledAttribute.spell ++ (e.spell ++ rest)) ∧
      Attribute.readAll? (attributes.flatMap SpelledAttribute.spell ++ (e.spell ++ rest)) =
        some (attributes.map SpelledAttribute.meaning, e.selfClosing, rest) := by
  induction attributes with
  | nil => exact ⟨e.endsAttributeAt_spell rest, e.readAll?_spell rest⟩
  | cons a attributes ih =>
      obtain ⟨ends, others⟩ := ih
      obtain ⟨c, s, front, -, noBracket, noSlash, -⟩ := a.exists_spellBare_eq
      have read := a.read?_spellBare ends
      have skipped := a.skipSpaces_spell
        (attributes.flatMap SpelledAttribute.spell ++ (e.spell ++ rest))
      rw [front] at read skipped
      rw [List.flatMap_cons, List.append_assoc]
      refine ⟨a.endsAttributeAt_spell _, ?_⟩
      rw [Attribute.readAll?_of_read? skipped noBracket noSlash read, others]
      rfl

theorem isTagNameChar_eq_false {c : Char} (ends : isSpace c = true ∨ c = '>') :
    isTagNameChar c = false := by
  rcases ends with space | rfl
  · simp only [isSpace, Bool.or_eq_true, decide_eq_true_eq] at space
    rcases space with (((rfl | rfl) | rfl) | rfl) | rfl <;> decide
  · decide

/-- The name of a tag ends where an attribute can end. -/
theorem TagName.tagName_append_of_ends (name : TagName) {rest : Text}
    (ends : EndsAttributeAt rest) : tagName (name.name ++ rest) = name.name := by
  have nothing : rest.takeWhile isTagNameChar = [] := by
    have none : ∀ c ∈ ([] : Text), isTagNameChar c = true := by simp
    apply Text.takeWhile_append_of_head none
    intro c first
    exact isTagNameChar_eq_false (ends.stop c first)
  rw [name.tagName_append_eq, nothing, List.append_nil]

namespace SpelledTag

/-- However a start tag is spelled and whatever follows it, it is read as what it spells, up to its
closing bracket, and no other markup starts in its place. -/
theorem read?_spell (t : SpelledTag) (rest : Text) :
    StartTag.read? (t.spell ++ rest) = some (t.tag, rest) ∧
      (Construct.read? 0 (t.spell ++ rest) {}).1 = some (.startTag t.tag, t.spell.length) ∧
      t.spell.getLast? = some '>' := by
  obtain ⟨ends, attributes⟩ := readAll?_spell t.attributes t.ending rest
  have split : t.spell ++ rest = '<' :: (t.name.name ++
      (t.attributes.flatMap SpelledAttribute.spell ++ (t.ending.spell ++ rest))) := by
    simp [spell]
  have read : StartTag.read? (t.spell ++ rest) = some (t.tag, rest) := by
    rw [split, StartTag.read?, t.name.tagName_append_of_ends ends]
    split
    next nameless =>
      obtain ⟨c, s, whole, -⟩ := t.name.exists_name_eq
      simp [whole] at nameless
    next =>
      rw [List.drop_left, attributes]
      rfl
  refine ⟨read, ?_, ?_⟩
  · have place : t.spell ++ rest = (t.spell ++ rest).drop 0 := rfl
    obtain ⟨kept, whole, -⟩ :=
      Construct.read?_eq_direct? (Terminators.truthful_empty (t.spell ++ rest)) place
    have direct : Construct.direct? (t.spell ++ rest) = some (.startTag t.tag, rest) := by
      rw [split, t.name.direct?_append, ← split, Construct.startTag?, read]
      rfl
    rw [whole, direct]
    simp [Construct.withLength]
  · obtain ⟨front, last⟩ := t.ending.exists_spell_eq
    have whole : t.spell = '<' :: (t.name.name ++
        (t.attributes.flatMap SpelledAttribute.spell ++ front)) ++ ['>'] := by simp [spell, last]
    rw [whole]
    exact List.getLast?_concat

end SpelledTag

end TemplateMarkup
