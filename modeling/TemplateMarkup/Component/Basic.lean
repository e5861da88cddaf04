import TemplateMarkup.Log
import TemplateMarkup.Markup.Attribute

/-!
# Components

A component file holds a template, a script and styles, each in a block of its own. Of several
templates or scripts the last one counts; styles add up.
-/

namespace TemplateMarkup

inductive BlockKind where
  | template
  | script
  | style
deriving DecidableEq, Repr

namespace BlockKind

/-- The name in the tags of a block. -/
def tag : BlockKind → Text
  | template => "template".toList
  | script => "script".toList
  | style => "style".toList

def all : List BlockKind := [template, script, style]

theorem mem_all (kind : BlockKind) : kind ∈ all := by
  cases kind <;> decide

end BlockKind

structure Block where
  /-- What it holds. -/
  kind : BlockKind
  /-- The attributes of its opening tag. -/
  attributes : List Attribute
  /-- What stands between its tags. -/
  content : Text
deriving DecidableEq, Repr

namespace Block

def attribute? (b : Block) (name : Text) : Option Text :=
  Attribute.firstValue? name b.attributes

def lang? (b : Block) : Option Text :=
  b.attribute? "lang".toList

/-- A style that is meant for its own component alone. -/
def isScoped (b : Block) : Bool :=
  (b.attribute? "scoped".toList).isSome

def lastOf? (kind : BlockKind) (blocks : List Block) : Option Block :=
  (blocks.filter (·.kind = kind)).getLast?

/-- The blocks that replace an earlier template or script. -/
def replacements : List Block → List Block :=
  go []
where
  /-- The replacements in a list that follows blocks of the kinds `seen`. -/
  go (seen : List BlockKind) : List Block → List Block
    | [] => []
    | b :: rest =>
      if b.kind ≠ .style ∧ b.kind ∈ seen then b :: go seen rest
      else go (b.kind :: seen) rest

/-- The record of a block that replaces another one. -/
def replacementRecord (b : Block) : LogRecord :=
  ⟨.warn, "component has more than one <".toList ++ b.kind.tag ++
    "> block; using the last one".toList⟩

end Block

structure Component where
  template : Option Block
  script : Option Block
  /-- The styles, in order. -/
  styles : List Block
deriving DecidableEq, Repr

namespace Component

def ofBlocks (blocks : List Block) : Component where
  template := Block.lastOf? .template blocks
  script := Block.lastOf? .script blocks
  styles := blocks.filter (·.kind = .style)

end Component

end TemplateMarkup
