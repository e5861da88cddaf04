import TemplateMarkup.Text.Basic

/-!
# Dialects

What a host knows about tags and attributes. Reading a template asks these questions and no others,
so a host is described by its answers. `Dialect.base` knows only the raw-text tags; `Dialect.web`
is HTML in a browser.
-/

namespace TemplateMarkup

/-- The answers of a host to questions about tags and attributes. Each has a cautious default, so a
host states only what it knows. -/
structure Dialect where
  /-- The tag never has content, so its start is all there is of it. -/
  isVoid : Text → Bool := fun _ => false
  /-- The content of the tag is text up to its end tag, whatever it looks like. -/
  isRawText : Text → Bool := fun tag => tag = "script".toList || tag = "style".toList
  /-- The end tag may be left out before a sibling with the same tag. -/
  canBeLeftOpen : Text → Bool := fun _ => false
  /-- The tag cannot stand in a paragraph, so it closes an open one. -/
  isNonPhrasing : Text → Bool := fun _ => false
  /-- The namespace that the tag opens. -/
  namespaceOf : Text → Option Text := fun _ => none
  /-- On this tag, a bound attribute of this name sets a property of the node. -/
  mustUseProp : (tag : Text) → (name : Text) → Bool := fun _ _ => false

namespace Dialect

/-- The dialect of a host that knows nothing beyond the raw-text tags. -/
def base : Dialect := {}

private def voidTags : List Text :=
  ["area", "base", "br", "col", "embed", "frame", "hr", "img", "input", "isindex", "keygen",
    "link", "meta", "param", "source", "track", "wbr"].map String.toList

private def leftOpenTags : List Text :=
  ["colgroup", "dd", "dt", "li", "options", "p", "td", "tfoot", "th", "thead", "tr",
    "source"].map String.toList

private def nonPhrasingTags : List Text :=
  ["address", "article", "aside", "base", "blockquote", "body", "caption", "col", "colgroup",
    "dd", "details", "dialog", "div", "dl", "dt", "fieldset", "figcaption", "figure", "footer",
    "form", "h1", "h2", "h3", "h4", "h5", "h6", "head", "header", "hgroup", "hr", "html",
    "legend", "li", "menuitem", "meta", "optgroup", "option", "param", "rp", "rt", "source",
    "style", "summary", "tbody", "td", "tfoot", "th", "thead", "title", "tr",
    "track"].map String.toList

private def svgTags : List Text :=
  ["svg", "animate", "circle", "clippath", "cursor", "defs", "desc", "ellipse", "filter",
    "font", "font-face", "g", "glyph", "image", "line", "marker", "mask", "missing-glyph",
    "path", "pattern", "polygon", "polyline", "rect", "switch", "symbol", "text", "textpath",
    "tspan", "use", "view"].map String.toList

private def webNamespaceOf (tag : Text) : Option Text :=
  if tag ∈ svgTags then some "svg".toList
  else if tag = "math".toList then some "math".toList
  else none

/-- Form controls keep their state in properties of the node. -/
private def webMustUseProp (tag name : Text) : Bool :=
  (name = "value".toList &&
      ["input", "textarea", "option", "select"].any (tag = ·.toList)) ||
    (name = "selected".toList && tag = "option".toList) ||
    (name = "checked".toList && tag = "input".toList) ||
    (name = "muted".toList && tag = "video".toList)

/-- HTML in a browser: void tags, end tags that may be left out, the namespaces of SVG and MathML,
and the properties of form controls. Only void tags are recognised in any case. -/
def web : Dialect where
  isVoid tag := tag.toLowerAscii ∈ voidTags
  canBeLeftOpen tag := tag ∈ leftOpenTags
  isNonPhrasing tag := tag ∈ nonPhrasingTags
  namespaceOf := webNamespaceOf
  mustUseProp := webMustUseProp

/-- The dialect of a host that lists its tags. A tag outside the lists gets the default answers. -/
structure Lists where
  /-- The tags without content. -/
  void : List Text := []
  /-- The tags whose content is text, if the host names them itself. -/
  rawText : Option (List Text) := none
  /-- The tags whose end tag may be left out. -/
  leftOpen : List Text := []
  /-- The tags that cannot stand in a paragraph. -/
  nonPhrasing : List Text := []
  /-- The tags that open a namespace. -/
  namespaces : List (Text × Text) := []
  /-- The attributes that set properties, for each tag. -/
  props : List (Text × List Text) := []

def ofLists (l : Lists) : Dialect where
  isVoid tag := tag ∈ l.void
  isRawText := match l.rawText with
    | some tags => fun tag => tag ∈ tags
    | none => base.isRawText
  canBeLeftOpen tag := tag ∈ l.leftOpen
  isNonPhrasing tag := tag ∈ l.nonPhrasing
  namespaceOf tag := l.namespaces.lookup tag
  mustUseProp tag name := name ∈ (l.props.lookup tag).getD []

end Dialect

end TemplateMarkup
