import Mathlib.Tactic.SplitIfs
import TemplateMarkup.Proofs.QuotedText
import TemplateMarkup.Template.Outline

/-!
# Shown nodes

What an outline shows of a node, written out apart from the printers. The line of an element
consists of words with one space between them. A text stands between quotes; a table has the
characters that a letter escapes, and of the others those that do not show are written by their code
points. An expression is a sum. Filters are calls that enclose each other, so all of them open
before the expression that they are applied to and close behind it.
-/

namespace TemplateMarkup

/-! ### Characters -/

/-- The escape of a character by a letter, if the table has one. -/
def escape? (escapes : List (Char × Char)) (c : Char) : Option Text :=
  (escapes.find? (·.2 = c)).map fun e => ['\\', e.1]

/-- The letters that escape a character in a diagnostic, with that character. -/
def diagnosticEscapes : List (Char × Char) :=
  [('"', '"'), ('\\', '\\'), ('n', '\n'), ('r', '\r'), ('t', '\t'), ('0', '\x00')]

def isShown (c : Char) : Bool :=
  (glyphlessRanges ++ fillerRanges ++ graphemeExtendRanges).all fun range =>
    c.toNat < range.1 || range.2 < c.toNat

def shownInDiagnostic (c : Char) : Text :=
  (escape? diagnosticEscapes c).getD
    (if isShown c then [c] else ['\\', 'u', '{'] ++ Nat.toDigits 16 c.toNat ++ ['}'])

/-- The character in a string literal. The code point of a control has four digits. -/
def shownInLiteral (c : Char) : Text :=
  (escape? shortEscapes c).getD
    (if c.toNat < 0x20 then ['\\', 'u'] ++ (Nat.toDigits 16 c.toNat).leftpad 4 '0' else [c])

def betweenQuotes (shown : Char → Text) (s : Text) : Text :=
  ['"'] ++ s.flatMap shown ++ ['"']

/-- A character that no letter escapes. -/
theorem escape?_eq_none {escapes : List (Char × Char)} {c : Char}
    (other : ∀ e ∈ escapes, c ≠ e.2) : escape? escapes c = none := by
  rw [escape?, Option.map_eq_none_iff, List.find?_eq_none]
  intro e member same
  exact other e member (of_decide_eq_true same).symm

theorem isShown_eq (c : Char) : isShown c = isPrintable c := by
  have outside : ∀ ranges : CodeRanges,
      (ranges.all fun range => c.toNat < range.1 || range.2 < c.toNat) = !ranges.has c := by
    intro ranges
    rw [CodeRanges.has, List.not_any_eq_all_not]
    congr 1
    funext range
    simp [Bool.not_and, ← decide_not]
  rw [isShown, List.all_append, List.all_append, outside, outside, outside]
  rfl

theorem shownInDiagnostic_eq (c : Char) : shownInDiagnostic c = debugChar c := by
  rw [debugChar]
  split_ifs with quote backslash lineFeed carriageReturn tab null shows
  · rw [quote]; rfl
  · rw [backslash]; rfl
  · rw [lineFeed]; rfl
  · rw [carriageReturn]; rfl
  · rw [tab]; rfl
  · rw [null]; rfl
  all_goals
    have unescaped : escape? diagnosticEscapes c = none := by
      apply escape?_eq_none
      simp only [diagnosticEscapes, List.forall_mem_cons]
      exact ⟨quote, backslash, lineFeed, carriageReturn, tab, null, List.forall_mem_nil _⟩
    rw [shownInDiagnostic, unescaped, Option.getD_none, isShown_eq]
  · exact if_pos shows
  · exact if_neg shows

theorem leftpad_toDigits {n : Nat} (small : n < 0x20) :
    (Nat.toDigits 16 n).leftpad 4 '0' =
      ['0', '0', Nat.digitChar (n / 16), Nat.digitChar (n % 16)] := by
  have each : ∀ n < 0x20, (Nat.toDigits 16 n).leftpad 4 '0' =
      ['0', '0', Nat.digitChar (n / 16), Nat.digitChar (n % 16)] := by
    decide
  exact each n small

theorem shownInLiteral_eq (c : Char) : shownInLiteral c = quotedChar c := by
  rw [quotedChar]
  split_ifs with quote backslash lineFeed carriageReturn tab backspace formFeed control
  · rw [quote]; rfl
  · rw [backslash]; rfl
  · rw [lineFeed]; rfl
  · rw [carriageReturn]; rfl
  · rw [tab]; rfl
  · rw [backspace]; rfl
  · rw [formFeed]; rfl
  all_goals
    have unescaped : escape? shortEscapes c = none := by
      apply escape?_eq_none
      simp only [shortEscapes, List.forall_mem_cons]
      exact ⟨quote, backslash, backspace, formFeed, lineFeed, carriageReturn, tab,
        List.forall_mem_nil _⟩
    rw [shownInLiteral, unescaped, Option.getD_none]
  · rw [if_pos control, leftpad_toDigits control]
    rfl
  · exact if_neg control

/-! ### Expressions -/

def Filter.opens (f : Filter) : Text :=
  "_f(\"".toList ++ f.name ++ "\")(".toList

def Filter.closes (f : Filter) : Text :=
  f.args.toList.flatMap (',' :: ·) ++ [')']

/-- The filters around the expression, the last one outermost. -/
def Pipeline.shown (p : Pipeline) : Text :=
  p.filters.reverse.flatMap Filter.opens ++ p.expression ++ p.filters.flatMap Filter.closes

def Fragment.shown : Fragment → Text
  | literal content => betweenQuotes shownInLiteral content
  | binding pipeline => "_s(".toList ++ pipeline.shown ++ [')']

def Interpolation.shown (i : Interpolation) : Text :=
  ['+'].intercalate (i.fragments.map Fragment.shown)

theorem Filter.apply_eq (f : Filter) (expression : Text) :
    f.apply expression = f.opens ++ expression ++ f.closes := by
  obtain ⟨name, args⟩ := f
  cases args with
  | none =>
      show opens _ ++ expression ++ [] ++ [')'] = opens _ ++ expression ++ ([] ++ [')'])
      exact List.append_assoc ..
  | some args =>
      show opens _ ++ expression ++ (',' :: args) ++ [')'] =
        opens _ ++ expression ++ (',' :: args ++ [] ++ [')'])
      rw [List.append_nil, List.append_assoc]

theorem Pipeline.shown_eq (p : Pipeline) : p.shown = p.toText := by
  obtain ⟨expression, filters⟩ := p
  induction filters generalizing expression with
  | nil => simp [shown]
  | cons f filters ih =>
      rw [toText_cons, ← ih, f.apply_eq]
      simp [shown]

theorem Fragment.shown_eq (f : Fragment) : f.shown = Interpolation.term f := by
  cases f with
  | literal content =>
      rw [shown, betweenQuotes, funext shownInLiteral_eq]
      rfl
  | binding pipeline =>
      rw [shown, pipeline.shown_eq]
      rfl

theorem Interpolation.shown_eq (i : Interpolation) : i.shown = i.toText := by
  rw [shown, funext Fragment.shown_eq]
  rfl

/-! ### Elements -/

namespace Element

/-- The names of the item and of its position stand between parentheses. -/
def loopWord (h : LoopHeader) : Text :=
  "for=".toList ++
    h.position.elim h.item (fun position => ['('] ++ h.item ++ [',', ' '] ++ position ++ [')']) ++
    " in ".toList ++ h.expression

def labelledWord (label value : Text) : Text :=
  label ++ ['='] ++ value

def flagWord (word : String) (applies : Bool) : List Text :=
  if applies then [word.toList] else []

/-- The words of the line of an element, the tag first. -/
def words (e : Element) : List Text :=
  (['<'] ++ e.tag ++ ['>']) ::
    (e.loop.toList.map (fun loop => loopWord loop.header) ++
    e.condition.toList.map (labelledWord "if".toList) ++
    flagWord "else" e.isElse ++
    flagWord "once" e.once ++
    flagWord "pre" e.pre ++
    e.staticClass.toList.map (labelledWord "class".toList) ++
    e.classBinding.toList.map (labelledWord ":class".toList) ++
    (e.staticAttrs ++ e.attrs ++ e.props).map (fun a => labelledWord a.name a.value) ++
    e.handlers.map fun h => labelledWord ('@' :: h.event) h.value)

/-- Words with one space between them are the first one, and each of the others behind a space. -/
theorem intercalate_cons_eq_flatMap (first : Text) (words : List Text) :
    [' '].intercalate (first :: words) = first ++ words.flatMap (' ' :: ·) := by
  induction words generalizing first with
  | nil => simp
  | cons second words ih =>
      rw [List.intercalate_cons_cons, ih, List.flatMap_cons]
      simp

theorem outlineLoop_eq (h : LoopHeader) : outlineLoop h = ' ' :: loopWord h := by
  obtain ⟨item, position, expression⟩ := h
  cases position <;> rfl

theorem outlineField_eq (label : String) (field : Option Text) :
    outlineField label field =
      (field.toList.map (labelledWord label.toList)).flatMap (' ' :: ·) := by
  cases field <;> simp [labelledWord, outlineField]

theorem outlineFlag_eq (word : String) (applies : Bool) :
    outlineFlag applies word = (flagWord word applies).flatMap (' ' :: ·) := by
  cases applies <;> simp [flagWord, outlineFlag]

theorem flatMap_outlineAttribute_eq (attributes : List Attribute) :
    attributes.flatMap outlineAttribute =
      (attributes.map fun a => labelledWord a.name a.value).flatMap (' ' :: ·) := by
  have each : outlineAttribute = fun a => ' ' :: labelledWord a.name a.value := by
    funext a
    simp [outlineAttribute, labelledWord]
  rw [List.flatMap_map, each]

theorem intercalate_words (e : Element) : [' '].intercalate e.words = e.outline := by
  have loop : ((e.loop.map fun loop => outlineLoop loop.header).getD []) =
      (e.loop.toList.map fun loop => loopWord loop.header).flatMap (' ' :: ·) := by
    cases e.loop with
    | none => rfl
    | some loop => simp [outlineLoop_eq]
  have handlers : (e.handlers.flatMap fun h => " @".toList ++ h.event ++ '=' :: h.value) =
      (e.handlers.map fun h => labelledWord ('@' :: h.event) h.value).flatMap (' ' :: ·) := by
    rw [List.flatMap_map]
    congr 1
    funext h
    simp [labelledWord]
  rw [words, intercalate_cons_eq_flatMap, outline, loop, handlers, flatMap_outlineAttribute_eq]
  simp only [outlineField_eq, outlineFlag_eq, List.flatMap_append, List.append_assoc,
    List.cons_append, List.nil_append]

end Element

end TemplateMarkup
