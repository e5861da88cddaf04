import Mathlib.Algebra.BigOperators.Group.List.Basic
import Mathlib.Algebra.GroupWithZero.Nat
import TemplateMarkup.Proofs.Entries
import TemplateMarkup.Proofs.Outlines
import TemplateMarkup.Proofs.StringLiterals
import TemplateMarkup.Proofs.WrittenNames

/-!
# Lines of outlines

An outline ends each of its nodes with a line feed. What stands in front of it can hold others:
plain text is quoted and names have no spaces, but expressions are shown as they are written, and
the source may break them into lines. So an outline has as many line feeds as nodes, and those in
its expressions besides.
-/

namespace TemplateMarkup

open Text

/-! ### Counting line feeds -/

namespace Text

def lineFeeds (s : Text) : Nat :=
  s.count '\n'

variable {s : Text}

theorem lineFeeds_eq_zero : s.lineFeeds = 0 ↔ '\n' ∉ s :=
  List.count_eq_zero

@[simp] theorem lineFeeds_nil : lineFeeds [] = 0 := rfl

@[simp] theorem lineFeeds_append (s t : Text) :
    lineFeeds (s ++ t) = s.lineFeeds + t.lineFeeds :=
  List.count_append

@[simp] theorem lineFeeds_cons_of_ne {c : Char} (other : c ≠ '\n') (s : Text) :
    lineFeeds (c :: s) = s.lineFeeds :=
  List.count_cons_of_ne other

theorem lineFeeds_flatten (texts : List Text) :
    lineFeeds texts.flatten = (texts.map lineFeeds).sum :=
  List.count_flatten

theorem lineFeeds_flatMap {α : Type} (items : List α) (text : α → Text) :
    lineFeeds (items.flatMap text) = (items.map fun item => (text item).lineFeeds).sum :=
  List.count_flatMap

theorem lineFeeds_flatten_eq_zero {texts : List Text} :
    lineFeeds texts.flatten = 0 ↔ ∀ s ∈ texts, '\n' ∉ s := by
  rw [lineFeeds_eq_zero]
  simp only [List.mem_flatten, not_exists, not_and]

/-- Texts with another character between them have the line feeds that they have one by one. -/
theorem lineFeeds_intercalate {separator : Char} (other : separator ≠ '\n') (texts : List Text) :
    lineFeeds ([separator].intercalate texts) = lineFeeds texts.flatten := by
  induction texts with
  | nil => rfl
  | cons first texts ih =>
      cases texts with
      | nil => simp
      | cons second texts =>
          have parts : lineFeeds (first :: second :: texts).flatten =
              first.lineFeeds + lineFeeds (second :: texts).flatten :=
            lineFeeds_append ..
          rw [List.intercalate_cons_cons, lineFeeds_append, lineFeeds_append, ih, parts,
            lineFeeds_cons_of_ne other, lineFeeds_nil, Nat.add_zero]

/-! ### Quoted text -/

/-- A JSON string literal escapes all control characters. -/
theorem lineFeed_notMem_quote (s : Text) : '\n' ∉ s.quote := by
  intro member
  have printable := (isStringLiteral_of_unquote? (unquote?_quote s)).printable '\n' member
  exact absurd printable (by decide)

theorem lineFeed_notMem_toDigits (n : Nat) : '\n' ∉ Nat.toDigits 16 n := by
  have digit : ∀ m, '\n' ∉ [Nat.digitChar m] := by
    intro m member
    exact Nat.digitChar_ne '\n' rfl (List.mem_singleton.1 member).symm
  induction n using Nat.strongRecOn with
  | ind n ih =>
      rw [Nat.toDigits_eq_if (by decide)]
      split
      · exact digit n
      · rw [List.mem_append, not_or]
        exact ⟨ih (n / 16) (by omega), digit (n % 16)⟩

/-- A diagnostic escapes a line feed, and shows every other character or writes its code point. -/
theorem lineFeed_notMem_debugChar (c : Char) : '\n' ∉ debugChar c := by
  by_cases lineFeed : c = '\n'
  · subst lineFeed
    decide
  · have self : '\n' ∉ [c] := fun member => lineFeed (List.mem_singleton.1 member).symm
    have codePoint : '\n' ∉ codePointEscape c := by
      simp [codePointEscape, lineFeed_notMem_toDigits]
    rw [debugChar, if_neg lineFeed]
    split_ifs with quote backslash carriageReturn tab null shows
    · decide
    · decide
    · decide
    · decide
    · decide
    · exact self
    · exact codePoint

theorem lineFeed_notMem_debugQuote (s : Text) : '\n' ∉ s.debugQuote := by
  simp [debugQuote, lineFeed_notMem_debugChar]

end Text

/-! ### Expressions -/

/-- The texts of a pipeline, as the source has them between its marks. -/
def Pipeline.texts (p : Pipeline) : List Text :=
  p.expression :: p.filters.flatMap fun f => f.name :: f.args.toList

theorem Filter.lineFeeds_apply (f : Filter) (expression : Text) :
    (f.apply expression).lineFeeds =
      expression.lineFeeds + lineFeeds (f.name :: f.args.toList).flatten := by
  obtain ⟨name, args⟩ := f
  cases args with
  | none =>
      show lineFeeds ("_f(\"".toList ++ name ++ "\")(".toList ++ expression ++ [] ++ [')']) = _
      simp
      omega
  | some args =>
      show lineFeeds ("_f(\"".toList ++ name ++ "\")(".toList ++ expression ++ ',' :: args ++
        [')']) = _
      simp
      omega

theorem Pipeline.lineFeeds_toText (p : Pipeline) :
    p.toText.lineFeeds = lineFeeds p.texts.flatten := by
  obtain ⟨expression, filters⟩ := p
  induction filters generalizing expression with
  | nil => simp [texts]
  | cons f filters ih =>
      rw [toText_cons, ih]
      simp only [texts, List.flatten_cons, lineFeeds_append, f.lineFeeds_apply, List.flatMap_cons,
        List.flatten_append, List.cons_append]
      omega

def Interpolation.texts (i : Interpolation) : List Text :=
  i.bindings.flatMap Pipeline.texts

/-- Fragments of plain text are quoted. -/
theorem Interpolation.lineFeeds_toText (i : Interpolation) :
    i.toText.lineFeeds = lineFeeds i.texts.flatten := by
  rw [toText, lineFeeds_intercalate (by decide), texts, bindings]
  induction i.fragments with
  | nil => rfl
  | cons fragment fragments ih =>
      rw [List.map_cons, List.flatten_cons, lineFeeds_append, ih]
      cases fragment with
      | literal content =>
          have quoted := lineFeeds_eq_zero.2 (lineFeed_notMem_quote content)
          rw [term, quoted, Nat.zero_add]
          rfl
      | binding pipeline =>
          show _ = lineFeeds (pipeline.texts ++ List.flatMap Pipeline.texts _).flatten
          rw [List.flatten_append, lineFeeds_append, ← pipeline.lineFeeds_toText]
          simp [term]

/-! ### Elements -/

/-- What an outline shows of annotations, apart from expressions, stays on one line. -/
structure Annotations.StaysOnLine (a : Annotations) : Prop where
  staticClass : ∀ s ∈ a.staticClass, '\n' ∉ s
  staticAttrs : ∀ b ∈ a.staticAttrs, '\n' ∉ b.value
  names : ∀ b ∈ a.staticAttrs ++ a.attrs ++ a.props, '\n' ∉ b.name
  events : ∀ h ∈ a.handlers, '\n' ∉ h.event

namespace Element

/-- The texts of an element that an outline shows as the source has them: the parts of its loop, its
condition, and the values that are bound or handle events. -/
def texts (e : Element) : List Text :=
  (e.loop.toList.flatMap fun loop =>
    loop.header.item :: (loop.header.position.toList ++ [loop.header.expression])) ++
    e.condition.toList ++ e.classBinding.toList ++ (e.attrs ++ e.props).map (·.value) ++
    e.handlers.map (·.value)

/-- Everything else that an outline shows of an element stays on one line. -/
structure StaysOnLine (e : Element) : Prop where
  tag : '\n' ∉ e.tag
  annotations : e.toAnnotations.StaysOnLine

theorem lineFeeds_outlineLoop (header : LoopHeader) :
    (outlineLoop header).lineFeeds =
      lineFeeds (header.item :: (header.position.toList ++ [header.expression])).flatten := by
  obtain ⟨item, position, expression⟩ := header
  cases position with
  | none =>
      show lineFeeds (" for=".toList ++ item ++ " in ".toList ++ expression) = _
      simp
  | some position =>
      show lineFeeds (" for=".toList ++ ('(' :: item ++ ", ".toList ++ position ++ [')']) ++
        " in ".toList ++ expression) = _
      simp

theorem lineFeeds_outlineField (label : String) (noBreak : '\n' ∉ label.toList)
    (field : Option Text) :
    (outlineField label field).lineFeeds = lineFeeds field.toList.flatten := by
  cases field with
  | none => rfl
  | some s => simp [outlineField, lineFeeds_eq_zero.2 noBreak]

theorem lineFeeds_outlineFlag (word : String) (noBreak : '\n' ∉ word.toList) (applies : Bool) :
    (outlineFlag applies word).lineFeeds = 0 := by
  cases applies with
  | false => rfl
  | true => simp [outlineFlag, lineFeeds_eq_zero.2 noBreak]

theorem lineFeeds_outlineAttributes {attributes : List Attribute}
    (named : ∀ a ∈ attributes, '\n' ∉ a.name) :
    lineFeeds (attributes.flatMap outlineAttribute) =
      lineFeeds (attributes.map (·.value)).flatten := by
  rw [lineFeeds_flatMap, lineFeeds_flatten, List.map_map]
  congr 1
  apply List.map_congr_left
  intro a member
  simp [outlineAttribute, lineFeeds_eq_zero.2 (named a member)]

theorem lineFeeds_outlineHandlers {handlers : List Handler}
    (named : ∀ h ∈ handlers, '\n' ∉ h.event) :
    lineFeeds (handlers.flatMap fun h => " @".toList ++ h.event ++ '=' :: h.value) =
      lineFeeds (handlers.map (·.value)).flatten := by
  rw [lineFeeds_flatMap, lineFeeds_flatten, List.map_map]
  congr 1
  apply List.map_congr_left
  intro h member
  simp [lineFeeds_eq_zero.2 (named h member)]

/-- The line feeds in the line of an element are those of its texts. -/
theorem StaysOnLine.lineFeeds_outline {e : Element} (stays : e.StaysOnLine) :
    e.outline.lineFeeds = lineFeeds e.texts.flatten := by
  have loop : lineFeeds ((e.loop.map fun loop => outlineLoop loop.header).getD []) =
      lineFeeds (e.loop.toList.flatMap fun loop =>
        loop.header.item :: (loop.header.position.toList ++ [loop.header.expression])).flatten := by
    cases e.loop with
    | none => rfl
    | some loop => simpa using lineFeeds_outlineLoop loop.header
  have staticClass : lineFeeds e.staticClass.toList.flatten = 0 :=
    lineFeeds_flatten_eq_zero.2 fun s member =>
      stays.annotations.staticClass s (Option.mem_toList.1 member)
  have staticAttrs : lineFeeds (e.staticAttrs.map (·.value)).flatten = 0 := by
    apply lineFeeds_flatten_eq_zero.2
    intro s member
    obtain ⟨a, isAttr, rfl⟩ := List.mem_map.1 member
    exact stays.annotations.staticAttrs a isAttr
  have tag : lineFeeds ('<' :: e.tag ++ ['>']) = 0 := by
    simp [lineFeeds_eq_zero.2 stays.tag]
  rw [outline, texts]
  simp only [lineFeeds_append, List.flatten_append, List.map_append, loop,
    lineFeeds_outlineAttributes stays.annotations.names,
    lineFeeds_outlineHandlers stays.annotations.events,
    lineFeeds_outlineField "if" (by decide), lineFeeds_outlineField "class" (by decide),
    lineFeeds_outlineField ":class" (by decide), lineFeeds_outlineFlag "else" (by decide),
    lineFeeds_outlineFlag "once" (by decide), lineFeeds_outlineFlag "pre" (by decide)] at tag ⊢
  omega

end Element

/-! ### What is read stays on its line -/

/-- What an outline shows of an entry, apart from expressions, stays on one line. -/
def Entry.StaysOnLine : Entry → Prop
  | prop binding => '\n' ∉ binding.name
  | attr binding => '\n' ∉ binding.name
  | handler content => '\n' ∉ content.event
  | directive _ => True
  | plain literal => '\n' ∉ literal.name ∧ '\n' ∉ literal.value

theorem Entry.prop?_eq_some {e : Entry} {b : Attribute} : e.prop? = some b ↔ e = .prop b := by
  cases e <;> simp [prop?]

theorem Entry.attr?_eq_some {e : Entry} {b : Attribute} : e.attr? = some b ↔ e = .attr b := by
  cases e <;> simp [attr?]

theorem Entry.handler?_eq_some {e : Entry} {h : Handler} :
    e.handler? = some h ↔ e = .handler h := by
  cases e <;> simp [handler?]

theorem Entry.plain?_eq_some {e : Entry} {b : Attribute} : e.plain? = some b ↔ e = .plain b := by
  cases e <;> simp [plain?]

theorem Entry.staysOnLine_ofAttribute (dialect : Dialect) (tag : Text) {a : Attribute}
    (named : '\n' ∉ a.name) : (ofAttribute dialect tag a).StaysOnLine := by
  rw [ofAttribute]
  split
  next name binds =>
    have part : '\n' ∉ name := fun member =>
      named (AttributeName.subset_of_ofText_bind binds member)
    split <;> exact part
  next event modifiers handles =>
    exact fun member => named (AttributeName.subset_of_ofText_on handles member)
  · trivial
  · exact ⟨named, lineFeed_notMem_quote a.value⟩

namespace Annotations

/-- Annotations are made of entries, and of a class between quotes. -/
theorem Lists.staysOnLine {a : Annotations} {entries : List Entry} (lists : a.Lists entries)
    (stay : ∀ e ∈ entries, e.StaysOnLine) (staticClass : ∀ s ∈ a.staticClass, '\n' ∉ s) :
    a.StaysOnLine := by
  have plain : ∀ b ∈ a.staticAttrs, '\n' ∉ b.name ∧ '\n' ∉ b.value := by
    rw [lists.staticAttrs]
    intro b member
    obtain ⟨e, isEntry, selected⟩ := List.mem_filterMap.1 member
    obtain rfl := Entry.plain?_eq_some.1 selected
    exact stay _ isEntry
  have attrs : ∀ b ∈ a.attrs, '\n' ∉ b.name := by
    rw [lists.attrs]
    intro b member
    obtain ⟨e, isEntry, selected⟩ := List.mem_filterMap.1 member
    obtain rfl := Entry.attr?_eq_some.1 selected
    exact stay _ isEntry
  have props : ∀ b ∈ a.props, '\n' ∉ b.name := by
    rw [lists.props]
    intro b member
    obtain ⟨e, isEntry, selected⟩ := List.mem_filterMap.1 member
    obtain rfl := Entry.prop?_eq_some.1 selected
    exact stay _ isEntry
  refine ⟨staticClass, fun b member => (plain b member).2, ?_, ?_⟩
  · apply List.forall_mem_append.2 ⟨List.forall_mem_append.2 ⟨?_, attrs⟩, props⟩
    exact fun b member => (plain b member).1
  · rw [lists.handlers]
    intro h member
    obtain ⟨e, isEntry, selected⟩ := List.mem_filterMap.1 member
    obtain rfl := Entry.handler?_eq_some.1 selected
    exact stay _ isEntry

theorem staysOnLine_resolve (dialect : Dialect) (d : Delimiters) (tag : Text)
    (attributes : List Attribute) {p : Pending} (named : ∀ a ∈ p, '\n' ∉ a.name) :
    (resolve dialect d tag attributes p).1.StaysOnLine := by
  obtain ⟨claimed, -, left⟩ := leaves_unclaimed tag p
  apply (lists_resolve dialect d tag attributes p).staysOnLine
  · intro e isEntry
    obtain ⟨a, unclaimed, rfl⟩ := List.mem_map.1 isEntry
    rw [left] at unclaimed
    exact Entry.staysOnLine_ofAttribute dialect tag (named a (List.mem_filter.1 unclaimed).1)
  · have quoted : ∃ value : Option Text,
        (resolve dialect d tag attributes p).1.staticClass = value.map quote := by
      simp only [resolve]
      exact ⟨_, rfl⟩
    obtain ⟨value, same⟩ := quoted
    rw [same]
    intro s member
    obtain ⟨written, -, rfl⟩ := Option.map_eq_some_iff.1 member
    exact lineFeed_notMem_quote written

theorem staysOnLine_raw (opens : Bool) {attributes : List Attribute}
    (named : ∀ a ∈ attributes, '\n' ∉ a.name) : (raw opens attributes).StaysOnLine where
  staticClass s member := absurd member (by simp [raw])
  staticAttrs a member := absurd member List.not_mem_nil
  names := by
    intro b member
    simp only [raw, List.nil_append, List.append_nil] at member
    obtain ⟨a, written, rfl⟩ := List.mem_map.1 member
    split at written
    · exact named a (List.mem_filter.1 written).1
    · exact named a written
  events h member := absurd member List.not_mem_nil

theorem staysOnLine_ofAttributes (dialect : Dialect) (d : Delimiters) (tag : Text)
    {attributes : List Attribute} (named : ∀ a ∈ attributes, '\n' ∉ a.name)
    (inRawRegion : Bool) :
    (ofAttributes dialect d tag attributes inRawRegion).1.StaysOnLine := by
  rw [ofAttributes_eq]
  split
  · exact staysOnLine_raw false named
  · split
    · exact staysOnLine_raw true named
    · apply staysOnLine_resolve
      intro a member
      exact named a (List.mem_filter.1 member).1

end Annotations

/-- No name in a source has a line feed. -/
theorem Event.NamedAsWritten.staysOnLine {name : Text} {attributes : List Attribute}
    {isVoid : Bool} (named : (Event.start name attributes isVoid).NamedAsWritten)
    (settings : Settings) (d : Delimiters) (b : Builder) :
    (b.makeElement settings d name attributes).1.bare.StaysOnLine where
  tag member := by
    have isNameChar := isTagNameChar_canonicalTag named.1 '\n' member
    exact absurd isNameChar (by decide)
  annotations := by
    apply Annotations.staysOnLine_ofAttributes
    intro a isAttr member
    have isNameChar := named.2 a isAttr '\n' member
    exact absurd isNameChar (by decide)

/-! ### Nodes -/

def Child.isLeaf (child : Child) : Bool :=
  child.elementId?.isNone

theorem Child.elementId?_eq_some {child : Child} {id : Nat} :
    child.elementId? = some id ↔ child = .element id := by
  cases child <;> simp [elementId?]

namespace Template

def withLeaves (t : Template) (id : Nat) : List Child :=
  .element id :: (t.content id).filter Child.isLeaf

/-- The element at the top, its descendants, and the leaves that these elements hold. -/
def reachable (t : Template) : List Child :=
  ((t.root.map fun root => root :: t.descendants root).getD []).flatMap t.withLeaves

/-- The texts of a node that an outline shows as the source has them. -/
def texts (t : Template) : Child → List Text
  | .element id => ((t.get? id).map Element.texts).getD []
  | .text _ => []
  | .expression interpolation => interpolation.texts

/-- An outline has one line for each node, and another one for each line feed in an expression. -/
structure OutlineLines (t : Template) : Prop where
  /-- The nodes of the outline are those that can be reached. -/
  nodes : (t.outlineNodes.map Prod.snd).Perm t.reachable
  /-- Each node ends in a line feed, and the others are those in the expressions. -/
  lineFeeds : t.outline.lineFeeds =
    t.reachable.length + (t.reachable.map fun node => lineFeeds (t.texts node).flatten).sum
  /-- Each node has one line exactly if no expression has a line feed. -/
  oneEach : t.outline.lineFeeds = t.reachable.length ↔
    ∀ node ∈ t.reachable, ∀ s ∈ t.texts node, '\n' ∉ s

variable {t : Template}

/-- The nodes from some nodes on are the leaves among these, and the elements with their leaves. -/
theorem perm_nodesFrom (nodes : List (Nat × Child))
    (elements : ∀ depth id, (depth, .element id) ∈ nodes →
      ((t.preorder depth id).map Prod.snd).Perm
        ((elementIds (t.preorder depth id)).flatMap t.withLeaves)) :
    ((nodes.flatMap t.nodesFrom).map Prod.snd).Perm
      ((nodes.map Prod.snd).filter Child.isLeaf ++
        (elementIds (nodes.flatMap t.nodesFrom)).flatMap t.withLeaves) := by
  induction nodes with
  | nil => exact .nil
  | cons node nodes ih =>
      have rest := ih fun depth id member => elements depth id (List.mem_cons_of_mem node member)
      obtain ⟨depth, child⟩ := node
      cases named : child.elementId? with
      | none =>
          have noElement : elementIds ((depth, child) :: nodes.flatMap t.nodesFrom) =
              elementIds (nodes.flatMap t.nodesFrom) :=
            List.filterMap_cons_none named
          have isLeaf : child.isLeaf = true := by rw [Child.isLeaf, named]; rfl
          rw [List.flatMap_cons, nodesFrom_leaf named, List.singleton_append, noElement,
            List.map_cons, List.map_cons, List.filter_cons_of_pos isLeaf, List.cons_append]
          exact rest.cons child
      | some id =>
          obtain rfl := Child.elementId?_eq_some.1 named
          have first := elements depth id List.mem_cons_self
          have parts : elementIds (((depth, .element id) :: nodes).flatMap t.nodesFrom) =
              elementIds (t.preorder depth id) ++ elementIds (nodes.flatMap t.nodesFrom) :=
            List.filterMap_append
          rw [parts, List.flatMap_append, List.flatMap_cons, List.map_append, nodesFrom]
          exact (first.append rest).trans (List.perm_append_comm_assoc ..)

/-- Among what stands behind an element, the leaves are those that it holds. -/
theorem filter_nodesBehind (depth id : Nat) :
    ((t.nodesBehind depth id).map Prod.snd).filter Child.isLeaf =
      (t.content id).filter Child.isLeaf := by
  have branch : (((t.elseBranch? id).toList.map (depth, Child.element ·)).map Prod.snd).filter
      Child.isLeaf = [] := by
    cases t.elseBranch? id <;> rfl
  rw [nodesBehind, List.map_append, List.filter_append, branch, List.append_nil, List.map_map]
  exact congrArg _ (List.map_id _)

theorem Linked.perm_preorder (linked : t.Linked) (depth id : Nat) :
    ((t.preorder depth id).map Prod.snd).Perm
      ((elementIds (t.preorder depth id)).flatMap t.withLeaves) := by
  -- Whatever stands behind an element started after it, so fewer elements are left there.
  induction below : t.size - id using Nat.strongRecOn generalizing depth id with
  | ind n ih =>
      have behind := t.perm_nodesFrom (t.nodesBehind depth id) <| by
        intro depth' next member
        have after := linked.nodesBehind_between member
        exact ih (t.size - next) (by omega) depth' next rfl
      rw [filter_nodesBehind] at behind
      rw [linked.preorder_eq]
      exact behind.cons (.element id)

/-- The line of a node has its own line feed and those of its texts. -/
theorem lineFeeds_outlineLine (stays : ∀ id e, t.get? id = some e → e.StaysOnLine) (depth : Nat)
    (node : Child) :
    (t.outlineLine depth node).lineFeeds = 1 + lineFeeds (t.texts node).flatten := by
  have indentation : lineFeeds (List.replicate (2 * depth) ' ') = 0 :=
    lineFeeds_eq_zero.2 (by simp)
  have shown : (t.outlineNode node).lineFeeds = lineFeeds (t.texts node).flatten := by
    cases node with
    | text content => exact lineFeeds_eq_zero.2 (lineFeed_notMem_debugQuote content)
    | expression interpolation => exact interpolation.lineFeeds_toText
    | element id =>
        rw [outlineNode, texts]
        cases found : t.get? id with
        | none => rfl
        | some e => exact (stays id e found).lineFeeds_outline
  rw [outlineLine, lineFeeds_append, lineFeeds_append, indentation, shown, Nat.zero_add,
    Nat.add_comm]
  rfl

theorem Linked.outlineLines (linked : t.Linked) (contiguous : t.Contiguous)
    (stays : ∀ id e, t.get? id = some e → e.StaysOnLine) : t.OutlineLines := by
  have nodes : (t.outlineNodes.map Prod.snd).Perm t.reachable := by
    have elements := (linked.recursiveOutline contiguous).elements
    rw [reachable, ← elements, linked.outlineNodes_eq contiguous]
    cases t.root with
    | none => exact .nil
    | some root => exact linked.perm_preorder 0 root
  have count : t.outline.lineFeeds =
      t.reachable.length + (t.reachable.map fun node => lineFeeds (t.texts node).flatten).sum := by
    calc t.outline.lineFeeds
        = (t.outlineNodes.map fun node => (t.outlineLine node.1 node.2).lineFeeds).sum :=
          lineFeeds_flatMap ..
      _ = ((t.outlineNodes.map Prod.snd).map fun node =>
            1 + lineFeeds (t.texts node).flatten).sum := by
          rw [List.map_map]
          congr 1
          apply List.map_congr_left
          intro node _
          exact lineFeeds_outlineLine stays node.1 node.2
      _ = (t.reachable.map fun node => 1 + lineFeeds (t.texts node).flatten).sum :=
          (nodes.map _).sum_nat
      _ = t.reachable.length +
            (t.reachable.map fun node => lineFeeds (t.texts node).flatten).sum := by
          rw [List.sum_map_add]
          simp
  refine ⟨nodes, count, ?_⟩
  rw [count, Nat.add_eq_left, List.sum_eq_zero_iff_forall_eq_nat, List.forall_mem_map]
  exact forall₂_congr fun node _ => lineFeeds_flatten_eq_zero

end Template

/-- Whatever the source and the settings, the outline has one line for each node, and further ones
only for the line feeds in expressions. -/
theorem parse_outlineLines (settings : Settings) (source : Text) :
    ParsesWith settings source fun _ parsed => parsed.template.OutlineLines := by
  apply parsesWith_of_build
  intro d _ _
  have nested := Builder.nested_buildTemplate settings d source
  have stays : (buildTemplate settings d source).1.template.Every Element.StaysOnLine :=
    Builder.every_buildTemplate_of_mem fun b _ _ _ member =>
      (namedAsWritten_events member).staysOnLine settings d b
  apply nested.sound.linked.outlineLines nested.contiguous
  intro id e found
  obtain ⟨tag, annotations⟩ := stays id e.bare (Template.bare?_of_get? found)
  exact ⟨tag, annotations⟩

/-- Text with a line feed stays on its line, and a condition with one does not. -/
example :
    (parse {} "<div v-if=\"a\nb\">c\nd</div>".toList).toOption.map (fun p =>
      (p.template.outlineNode (.element 0), (p.template.content 0).map p.template.outlineNode)) =
    some ("<div> if=a\nb".toList, ["\"c\\nd\"".toList]) := by
  decide +kernel

end TemplateMarkup
