import TemplateMarkup.Component.Reading

/-!
# Attempts

When a component file cannot be read, the useful thing to say is what would have been in place where
reading came to a stop. An attempt to read a part of the file consists of the attempts to read what
that part is made of. The failures at the furthest place are what counts: a part that fails stands
for the parts inside of it that fail where it starts, unless there is exactly one of these, which
says more.
-/

namespace TemplateMarkup

open Text

/-- A part of a component file whose absence can be reported. -/
inductive Part where
  /-- Nothing more. -/
  | endOfFile
  /-- The whole file. -/
  | file
  /-- A block of any kind. -/
  | block
  /-- The name of an attribute. -/
  | name
  /-- A quoted value. -/
  | quoted
  /-- An attribute. -/
  | attr
  /-- A block of one kind. -/
  | blockOf (kind : BlockKind)
  /-- The opening tag of a block of one kind. -/
  | openingOf (kind : BlockKind)
deriving DecidableEq, Repr

namespace Part

/-- The part as a report calls it. -/
def title : Part → Text
  | endOfFile => "EOI".toList
  | file => "file".toList
  | block => "block".toList
  | name => "ident".toList
  | quoted => "quoted".toList
  | attr => "attribute".toList
  | blockOf kind => kind.tag
  | openingOf kind => kind.tag ++ "_open".toList

def all : List Part :=
  [endOfFile, file, block, name, quoted, attr] ++
    BlockKind.all.flatMap fun kind => [blockOf kind, openingOf kind]

theorem mem_all (p : Part) : p ∈ all := by
  cases p with
  | blockOf kind | openingOf kind => cases kind <;> decide
  | _ => decide

end Part

/-- An attempt to read a part of a component file. A place in the file is given by the number of
characters that are left there. -/
inductive Attempt where
  /-- The attempt to read `part` with `left` characters left, and the attempts it consists of. -/
  | made (part : Part) (left : Nat) (inner : List Attempt) (succeeded : Bool)

/-- The parts that could not be read at the furthest place where one failed. -/
structure Failures where
  /-- The number of characters left at that place. -/
  left : Nat
  parts : List Part := []
deriving DecidableEq, Repr

namespace Failures

/-- The number of failures at a place. -/
def countAt (f : Failures) (left : Nat) : Nat :=
  if f.left = left then f.parts.length else 0

/-- One more part has failed, at a place where `before` parts had failed when it was first tried. -/
def add (f : Failures) (part : Part) (left before : Nat) : Failures :=
  if f.countAt left = before + 1 then f
  else if left = f.left then { f with parts := f.parts.take before ++ [part] }
  else if left < f.left then ⟨left, [part]⟩
  else f

end Failures

mutual

def Attempt.failures (f : Failures) : Attempt → Failures
  | made part left inner succeeded =>
    let after := Attempt.failuresOfAll f inner
    if succeeded then after else after.add part left (f.countAt left)

def Attempt.failuresOfAll (f : Failures) : List Attempt → Failures
  | [] => f
  | a :: attempts => Attempt.failuresOfAll (a.failures f) attempts

end

namespace Attempt

def ofName (s : Text) : Attempt :=
  .made .name s.length [] (OpeningTag.readName? s).isSome

def ofQuoted (s : Text) : Attempt :=
  .made .quoted s.length [] (OpeningTag.readQuoted? s).isSome

def ofAttribute (s : Text) : Attempt :=
  let value :=
    (OpeningTag.readName? s).bind fun (_, rest) => (OpeningTag.afterEquals? rest).map ofQuoted
  .made .attr s.length (ofName s :: value.toList) (OpeningTag.readAttribute? s).isSome

/-- Reading attributes, up to the first that is not one. -/
def ofAttributes (s : Text) : List Attempt :=
  if skipGap s = s then []
  else
    ofAttribute (skipGap s) ::
      match _h : OpeningTag.readAttribute? (skipGap s) with
      | none => []
      | some (_, rest) => ofAttributes rest
termination_by s.length
decreasing_by
  have := OpeningTag.length_lt_of_readAttribute? _h
  have := length_skipGap_le s
  omega

/-- Reading the opening tag of a block of one kind. -/
def ofOpeningTag (kind : BlockKind) (s : Text) : Attempt :=
  .made (.openingOf kind) s.length
    (((after? ('<' :: kind.tag) s).map ofAttributes).getD [])
    (OpeningTag.read? kind s).isSome

/-- Reading a block of one kind. Any content can be read, so there is nothing to report of it. -/
def ofBlockOf (kind : BlockKind) (s : Text) : Attempt :=
  .made (.blockOf kind) s.length [ofOpeningTag kind s] (Block.readOf? kind s).isSome

/-- Reading a block of one kind after the other, up to the first that is there. -/
def ofKinds (s : Text) : List BlockKind → List Attempt
  | [] => []
  | kind :: kinds =>
    ofBlockOf kind s :: if (Block.readOf? kind s).isSome then [] else ofKinds s kinds

def ofBlock (s : Text) : Attempt :=
  .made .block s.length (ofKinds s BlockKind.all) (Block.read? s).isSome

/-- Reading blocks, up to the first that is not one, and then the end of the file. -/
def ofBlocks (source : Text) : List Attempt :=
  let s := skipFiller source
  ofBlock s ::
    match _h : Block.read? (skipFiller source) with
    | none => [.made .endOfFile s.length [] s.isEmpty]
    | some (_, rest) => ofBlocks rest
termination_by source.length
decreasing_by
  have := Block.length_lt_of_read? _h
  have := length_skipFiller_le source
  omega

def ofFile (source : Text) : Attempt :=
  .made .file source.length (ofBlocks source) (blocks? source).isSome

end Attempt

end TemplateMarkup
