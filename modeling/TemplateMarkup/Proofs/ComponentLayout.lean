import TemplateMarkup.Component.Parse
import TemplateMarkup.Proofs.Occurrence

/-!
# Layouts of component files

How a component file is written: which blocks it holds, what fills the places between them, and all
that reading drops, such as gaps and the marks around values. A layout can be printed, and it says
what the printed file holds. The grammar of component files is the set of printed layouts.

The parts carry what makes them readable: a comment holds no mark that would end it, a value no mark
like those around it, and the content of a script or a style no end tag of its own. The content of a
template is free here. Which contents are read to their end is another matter, and `Balanced`
describes those whose nested templates all have their end tags.
-/

namespace TemplateMarkup

open Text

/-! ### Filler -/

/-- A run of gap characters, which may be empty. -/
structure Gap where
  /-- The characters. -/
  content : Text
  gaps : ∀ c ∈ content, isGap c = true

/-- A gap character or a complete comment. -/
inductive FillerPart where
  | gap (c : Char) (isGap : isGap c = true)
  | comment (content : Text) (unended : ¬ "-->".toList <:+: content)

def FillerPart.print : FillerPart → Text
  | gap c _ => [c]
  | comment content _ => "<!--".toList ++ content ++ "-->".toList

/-- What may stand before, between and behind the blocks. -/
abbrev Filler := List FillerPart

def Filler.print (filler : Filler) : Text :=
  filler.flatMap FillerPart.print

namespace Text

variable {s rest : Text}

@[simp] theorem skipGap_append (g : Gap) (s : Text) : skipGap (g.content ++ s) = skipGap s :=
  List.dropWhile_append_of_pos g.gaps

theorem skipGap_cons {c : Char} (solid : isGap c = false) (s : Text) :
    skipGap (c :: s) = c :: s :=
  List.dropWhile_cons_of_neg (by simp [solid])

theorem exists_gap (s : Text) : ∃ g : Gap, s = g.content ++ skipGap s :=
  ⟨⟨s.takeWhile isGap, List.all_eq_true.1 List.all_takeWhile⟩, List.takeWhile_append_dropWhile.symm⟩

/-- The mark that ends a comment does not begin in front of the place where it stands. -/
theorem commentEnd_inside {content : Text} (nonempty : content ≠ [])
    (occurs : "-->".toList <+: content ++ "-->".toList ++ rest) : "-->".toList <+: content := by
  rcases content with _ | ⟨x, _ | ⟨y, _ | ⟨z, content⟩⟩⟩
  · exact absurd rfl nonempty
  · simp at occurs
  · simp at occurs
  · simpa using occurs

/-- A comment is read up to the first mark that ends it. -/
theorem afterComment?_eq_some_iff :
    afterComment? s = some rest ↔
      ∃ content, ¬ "-->".toList <:+: content ∧
        s = "<!--".toList ++ content ++ "-->".toList ++ rest := by
  rw [afterComment?]
  constructor
  · intro read
    split at read
    · simp at read
    next r opened =>
      obtain ⟨⟨content, behind⟩, ended, rfl⟩ := Option.map_eq_some_iff.1 read
      refine ⟨content, not_infix_of_cut? ended (by decide), ?_⟩
      rw [after?_eq_some_iff.1 opened, append_of_cut? ended]
      simp only [List.append_assoc]
  · rintro ⟨content, unended, rfl⟩
    have ended : cut? "-->".toList (content ++ "-->".toList ++ rest) = some (content, rest) := by
      refine cut?_append fun front behind split nonempty occurs => unended ?_
      rw [split]
      exact (commentEnd_inside nonempty occurs).isInfix.trans (List.suffix_append _ _).isInfix
    simp only [List.append_assoc, after?_append] at ended ⊢
    rw [ended]
    rfl

theorem skipFiller_eq (s : Text) :
    skipFiller s = ((afterComment? (skipGap s)).map skipFiller).getD (skipGap s) := by
  rw [skipFiller]
  split
  next absent => rw [absent, Option.map_none, Option.getD_none]
  next rest read => rw [read, Option.map_some, Option.getD_some]

/-- Filler is skipped whole. -/
theorem skipFiller_print (filler : Filler) (s : Text) :
    skipFiller (filler.print ++ s) = skipFiller s := by
  induction filler with
  | nil => rfl
  | cons part filler ih =>
      rw [Filler.print, List.flatMap_cons, List.append_assoc, ← ih, ← Filler.print]
      generalize Filler.print filler ++ s = t
      cases part with
      | gap c isGap =>
          have skipped : skipGap (c :: t) = skipGap t := List.dropWhile_cons_of_pos isGap
          rw [FillerPart.print, List.singleton_append, skipFiller_eq, skipped, ← skipFiller_eq]
      | comment content unended =>
          have read : afterComment? ("<!--".toList ++ content ++ "-->".toList ++ t) = some t :=
            afterComment?_eq_some_iff.2 ⟨content, unended, rfl⟩
          have solid : skipGap ("<!--".toList ++ content ++ "-->".toList ++ t) =
              "<!--".toList ++ content ++ "-->".toList ++ t := rfl
          rw [FillerPart.print, skipFiller_eq, solid, read, Option.map_some, Option.getD_some]

/-- A gap is filler. -/
theorem exists_filler_of_gap (g : Gap) : ∃ filler : Filler, filler.print = g.content := by
  obtain ⟨content, gaps⟩ := g
  induction content with
  | nil => exact ⟨[], rfl⟩
  | cons c content ih =>
      obtain ⟨filler, same⟩ := ih fun x member => gaps x (List.mem_cons_of_mem c member)
      refine ⟨.gap c (gaps c List.mem_cons_self) :: filler, ?_⟩
      exact congrArg (c :: ·) same

/-- What is skipped is filler. -/
theorem exists_filler (s : Text) : ∃ filler : Filler, s = filler.print ++ skipFiller s := by
  fun_induction skipFiller s with
  | case1 s absent =>
      obtain ⟨g, whole⟩ := exists_gap s
      obtain ⟨filler, same⟩ := exists_filler_of_gap g
      exact ⟨filler, by rw [same, ← whole]⟩
  | case2 s rest read ih =>
      obtain ⟨g, whole⟩ := exists_gap s
      obtain ⟨front, same⟩ := exists_filler_of_gap g
      obtain ⟨content, unended, comment⟩ := afterComment?_eq_some_iff.1 read
      obtain ⟨filler, behind⟩ := ih
      refine ⟨front ++ .comment content unended :: filler, ?_⟩
      have printed : Filler.print (front ++ .comment content unended :: filler) =
          g.content ++ ("<!--".toList ++ content ++ "-->".toList ++ filler.print) := by
        rw [← same, Filler.print, List.flatMap_append, List.flatMap_cons]
        rfl
      rw [printed, List.append_assoc, List.append_assoc, ← behind, ← comment, ← whole]

end Text

/-! ### Opening tags -/

/-- A value between marks, behind an equals sign that may stand between gaps. -/
structure ValueLayout where
  /-- The gap before the equals sign. -/
  before : Gap
  /-- The gap after it. -/
  after : Gap
  /-- The mark at both ends of the value. -/
  mark : Char
  isMark : mark = '"' ∨ mark = '\''
  value : Text
  unmarked : mark ∉ value

def ValueLayout.print (v : ValueLayout) : Text :=
  v.before.content ++ '=' :: v.after.content ++ v.mark :: v.value ++ [v.mark]

/-- The text can be the name of an attribute. -/
def OpeningTag.IsName (name : Text) : Prop :=
  ∃ c s, name = c :: s ∧ isNameStart c = true ∧ ∀ x ∈ s, isNamePart x = true

/-- An attribute behind a gap. -/
structure AttributeLayout where
  gap : Gap
  spaced : gap.content ≠ []
  name : Text
  isName : OpeningTag.IsName name
  /-- The value, if one is written. -/
  value? : Option ValueLayout

namespace AttributeLayout

/-- The attribute without the gap before it, as it is written. -/
def printBody (a : AttributeLayout) : Text :=
  a.name ++ (a.value?.map ValueLayout.print).getD []

def print (a : AttributeLayout) : Text :=
  a.gap.content ++ a.printBody

/-- The attribute that is written. One without a value has the empty value. -/
def toAttribute (a : AttributeLayout) : Attribute where
  name := a.name
  value := (a.value?.map (·.value)).getD []

end AttributeLayout

/-- The opening tag of a block: attributes, and a gap behind them. -/
structure OpeningLayout where
  attributes : List AttributeLayout
  gap : Gap

namespace OpeningLayout

def print (kind : BlockKind) (o : OpeningLayout) : Text :=
  '<' :: kind.tag ++ o.attributes.flatMap AttributeLayout.print ++ o.gap.content ++ ['>']

def toAttributes (o : OpeningLayout) : List Attribute :=
  o.attributes.map AttributeLayout.toAttribute

end OpeningLayout

/-! ### Blocks -/

def BlockKind.endTag (kind : BlockKind) (gap : Gap) : Text :=
  '<' :: '/' :: kind.tag ++ gap.content ++ ['>']

/-- Somewhere in the text is an end tag of this kind. -/
def BlockKind.HasEndTag (kind : BlockKind) (s : Text) : Prop :=
  ∃ gap, kind.endTag gap <:+: s

/-- A block. Only the content of a template may hold end tags of the block's own kind. -/
structure BlockLayout where
  /-- What the block holds. -/
  kind : BlockKind
  /-- The opening tag. -/
  opening : OpeningLayout
  content : Text
  unended : kind ≠ .template → ¬ kind.HasEndTag content
  /-- The gap in the end tag. -/
  endGap : Gap

namespace BlockLayout

def print (b : BlockLayout) : Text :=
  b.opening.print b.kind ++ b.content ++ b.kind.endTag b.endGap

def block (b : BlockLayout) : Block where
  kind := b.kind
  attributes := b.opening.toAttributes
  content := b.content

end BlockLayout

/-- A component file: blocks, each behind filler, and filler behind them all. -/
structure FileLayout where
  /-- The blocks with the filler before each. -/
  parts : List (Filler × BlockLayout)
  /-- The filler behind the last block. -/
  filler : Filler

namespace FileLayout

def print (file : FileLayout) : Text :=
  (file.parts.flatMap fun (filler, block) => filler.print ++ block.print) ++ file.filler.print

def blocks (file : FileLayout) : List Block :=
  file.parts.map fun (_, block) => block.block

end FileLayout

/-! ### What a component has to hold -/

/-- The last block of a kind, or `none` if there is no block of that kind. -/
def Block.IsLastOf (kind : BlockKind) (blocks : List Block) : Option Block → Prop
  | none => ∀ b ∈ blocks, b.kind ≠ kind
  | some b =>
    ∃ before after, blocks = before ++ b :: after ∧ b.kind = kind ∧ ∀ x ∈ after, x.kind ≠ kind

/-- The component is what these blocks say: the last template, the last script, and all styles in
order, of which those with the attribute are scoped. -/
structure Component.Says (c : Component) (blocks : List Block) : Prop where
  template : Block.IsLastOf .template blocks c.template
  script : Block.IsLastOf .script blocks c.script
  styles : c.styles = blocks.filter (·.kind = .style)
  scopedStyles : ∀ b ∈ c.styles, b.isScoped = true ↔ ∃ a ∈ b.attributes, a.name = "scoped".toList

/-! ### Contents of templates -/

/-- The text has no opening tag of a template in it, complete or not, and no end tag. -/
def HasNoTemplate (s : Text) : Prop :=
  ¬ "<template".toList <:+: s ∧ ¬ BlockKind.template.HasEndTag s

/-- Text in which every nested template has its end tag: stretches without templates, and between
them templates whose contents are balanced again. -/
inductive Balanced : Text → Prop where
  | plain {s : Text} (plain : HasNoTemplate s) : Balanced s
  | nested {s inside content rest : Text} {gap : Gap} (plain : HasNoTemplate s)
    (unended : '>' ∉ inside) (inner : Balanced content) (outer : Balanced rest) :
    Balanced (s ++ "<template".toList ++ inside ++ '>' :: content ++
      BlockKind.template.endTag gap ++ rest)

end TemplateMarkup
