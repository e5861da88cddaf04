import TemplateMarkup.Dialect
import TemplateMarkup.Markup.Event
import TemplateMarkup.Markup.StartTag

/-!
# Open tags

The names of the tags that are open at a place in the source, as written and innermost first. A
start tag may close the innermost one implicitly; an end tag closes the innermost tag of its name
and everything opened after it. Names are compared without regard to case.
-/

namespace TemplateMarkup

open Text

/-- The names of the open tags, innermost first. -/
abbrev OpenTags := List Text

namespace OpenTags

/-- The lowercase name of the innermost open tag. -/
def top? (tags : OpenTags) : Option Text :=
  tags.head?.map toLowerAscii

/-- The tags up to the innermost one with this lowercase name, and the tags that stay open. -/
def splitAt? (lower : Text) : OpenTags → Option (List Text × OpenTags)
  | [] => none
  | tag :: tags =>
    if toLowerAscii tag = lower then some ([tag], tags)
    else (splitAt? lower tags).map fun (closed, rest) => (tag :: closed, rest)

/-- The events that repair an end tag without a start tag: a line break and an empty paragraph are
taken for what was meant. -/
def stray (name : Text) : List Emission :=
  if toLowerAscii name = "br".toList then
    [⟨.start "br".toList [] true, .supplied⟩]
  else if toLowerAscii name = "p".toList then
    [⟨.start "p".toList [] false, .supplied⟩, ⟨.finish "p".toList, .supplied⟩]
  else
    [⟨.unmatchedEnd name, .written⟩]

def endTag (name : Text) (tags : OpenTags) : List Emission × OpenTags :=
  match tags.splitAt? (toLowerAscii name) with
  | some (closed, rest) => (closed.map fun tag => ⟨.finish tag, .written⟩, rest)
  | none => (stray name, tags)

/-- The innermost tag closes without an end tag. -/
def closeTop (cause : Cause) : OpenTags → List Emission × OpenTags
  | [] => ([], [])
  | tag :: tags => ([⟨.finish tag, cause⟩], tags)

/-- What a start tag does to the tags before it: one that cannot stand in a paragraph closes the
paragraph it is in, and then one that can be left open closes its sibling. -/
def makeRoom (d : Dialect) (lower : Text) (tags : OpenTags) : List Emission × OpenTags :=
  let (out₁, tags) :=
    if tags.top? = some "p".toList && d.isNonPhrasing lower then
      tags.closeTop (.blockInParagraph lower)
    else ([], tags)
  let (out₂, tags) :=
    if d.canBeLeftOpen lower && tags.top? = some lower then
      tags.closeTop (.siblingLeftOpen lower)
    else ([], tags)
  (out₁ ++ out₂, tags)

/-- What a start tag does. Tags close implicitly only where `expectHtml` is set. -/
def startTag (d : Dialect) (expectHtml : Bool) (tag : StartTag) (tags : OpenTags) :
    List Emission × OpenTags :=
  let lower := toLowerAscii tag.name
  let (out, tags) := if expectHtml then makeRoom d lower tags else ([], tags)
  let isVoid := d.isVoid lower || tag.selfClosing
  (out ++ [⟨.start tag.name tag.attributes isVoid, .written⟩],
    if isVoid then tags else tag.name :: tags)

/-- What the end of the source does: every open tag closes. -/
def endOfSource (tags : OpenTags) : List Emission :=
  tags.map fun tag => ⟨.finish tag, .written⟩

end OpenTags

end TemplateMarkup
