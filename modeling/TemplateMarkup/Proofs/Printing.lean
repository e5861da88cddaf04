import TemplateMarkup.Proofs.PlainReading

/-!
# Printing

Markup that is printed with care is read back as it was meant. What may be printed is a `Forest`:
elements, self-closed elements and runs of text, each made of parts that are read whole (`TagName`,
`WrittenAttribute`, `TextRun`). Attributes may hold anything but a quote and an ampersand, angle
brackets and comment marks included. Reading a printed forest has to find every boundary again; what
follows a part is known only as far as it ends a run of text (`Flushes`).
-/

namespace TemplateMarkup

open Text

/-! ### Parts -/

/-- A name that is read whole as the name of a tag. -/
structure TagName where
  name : Text
  valid : ∃ c s, name = c :: s ∧ c.isAlpha = true ∧ ∀ x ∈ s, isTagNameChar x = true

/-- The name of a tag that has content, and markup in it. -/
structure ContentTag (d : Dialect) extends TagName where
  notVoid : d.isVoid (toLowerAscii name) = false
  notRaw : d.isRawText (toLowerAscii name) = false

/-- An attribute that can be written between double quotes as it is. -/
structure WrittenAttribute extends Attribute where
  nonempty : name ≠ []
  nameChars : ∀ c ∈ name, isAttributeNameChar c = true
  noQuote : '"' ∉ value
  noReference : '&' ∉ value

/-- Text that starts no markup. -/
structure TextRun where
  /-- The text. -/
  content : Text
  nonempty : content ≠ []
  noMarkup : '<' ∉ content

/-- A sequence of trees. The last field of each constructor is what follows the first tree. -/
inductive Forest (d : Dialect) where
  | nil
  | element (name : ContentTag d) (attributes : List WrittenAttribute) (children rest : Forest d)
  | selfClosed (name : TagName) (attributes : List WrittenAttribute) (rest : Forest d)
  | text (run : TextRun) (rest : Forest d)

/-- An attribute behind a space. -/
def WrittenAttribute.print (a : WrittenAttribute) : Text :=
  ' ' :: a.name ++ '=' :: '"' :: a.value ++ ['"']

/-- A start tag up to its attributes. -/
def TagName.printStart (name : TagName) (attributes : List WrittenAttribute) : Text :=
  '<' :: name.name ++ attributes.flatMap WrittenAttribute.print

def TagName.printEnd (name : TagName) : Text :=
  '<' :: '/' :: name.name ++ ['>']

namespace Forest

variable {d : Dialect}

def startsWithText : Forest d → Bool
  | text _ _ => true
  | _ => false

def Separated : Forest d → Prop
  | nil => True
  | element _ _ children rest => children.Separated ∧ rest.Separated
  | selfClosed _ _ rest => rest.Separated
  | text _ rest => rest.startsWithText = false ∧ rest.Separated

def print : Forest d → Text
  | nil => []
  | element name attributes children rest =>
    name.printStart attributes ++ '>' :: children.print ++ name.printEnd ++ rest.print
  | selfClosed name attributes rest => name.printStart attributes ++ '/' :: '>' :: rest.print
  | text run rest => run.content ++ rest.print

/-- What is to be read when the forest is read. -/
def events : Forest d → List Event
  | nil => []
  | element name attributes children rest =>
    .start name.name (attributes.map (·.toAttribute)) false :: children.events ++
      .finish name.name :: rest.events
  | selfClosed name attributes rest =>
    .start name.name (attributes.map (·.toAttribute)) true :: rest.events
  | text run rest => .text run.content :: rest.events

end Forest

/-! ### Reading tags -/

/-- The name of a tag goes on as far as characters continue it. -/
theorem TagName.tagName_append_eq (name : TagName) (rest : Text) :
    tagName (name.name ++ rest) = name.name ++ rest.takeWhile isTagNameChar := by
  obtain ⟨first, more, whole, letter, continues⟩ := name.valid
  rw [whole, List.cons_append, tagName, if_pos letter, List.takeWhile_append_of_pos continues,
    List.cons_append]

/-- The name of a tag ends where no character continues it. -/
theorem TagName.tagName_append (name : TagName) {c : Char} (ends : isTagNameChar c = false)
    (rest : Text) : tagName (name.name ++ c :: rest) = name.name := by
  rw [name.tagName_append_eq, List.takeWhile_cons_of_neg (by simp [ends]), List.append_nil]

/-- What starts neither the end of the tag nor a slash is an attribute, and more may follow it. -/
theorem Attribute.readAll?_of_read? {s t rest : Text} {c : Char} {a : Attribute}
    (front : skipSpaces s = c :: t) (noBracket : c ≠ '>') (noSlash : c ≠ '/')
    (read : Attribute.read? (c :: t) = some (a, rest)) :
    Attribute.readAll? s = (Attribute.readAll? rest).map fun (attributes, selfClosing, rest) =>
      (a :: attributes, selfClosing, rest) := by
  rw [Attribute.readAll?]
  split
  next ended => simp [front] at ended
  next bracket =>
    rw [front] at bracket
    exact absurd (List.cons.inj bracket).1 noBracket
  next slash =>
    rw [front] at slash
    exact absurd (List.cons.inj slash).1 noSlash
  next =>
    split
    next unread =>
      rw [front, read] at unread
      simp at unread
    next a' rest' taken =>
      rw [front, read] at taken
      obtain ⟨rfl, rfl⟩ := Prod.mk.inj (Option.some.inj taken)
      rfl

namespace WrittenAttribute

theorem read?_append (a : WrittenAttribute) (rest : Text) :
    Attribute.read? (a.name ++ '=' :: '"' :: (a.value ++ '"' :: rest)) =
      some (a.toAttribute, rest) := by
  have ends : isAttributeNameChar '=' = false := rfl
  have nameRead : (a.name ++ '=' :: '"' :: (a.value ++ '"' :: rest)).takeWhile
      isAttributeNameChar = a.name := by
    rw [List.takeWhile_append_of_pos a.nameChars, List.takeWhile_cons_of_neg (by simp [ends]),
      List.append_nil]
  have behind : (a.name ++ '=' :: '"' :: (a.value ++ '"' :: rest)).dropWhile
      isAttributeNameChar = '=' :: '"' :: (a.value ++ '"' :: rest) := by
    rw [List.dropWhile_append_of_pos a.nameChars, List.dropWhile_cons_of_neg (by simp [ends])]
  have value : Attribute.readValue? ('"' :: (a.value ++ '"' :: rest)) = some (a.value, rest) :=
    cut?_of_notMem a.noQuote rest
  have equals : skipSpaces ('=' :: '"' :: (a.value ++ '"' :: rest)) =
      '=' :: '"' :: (a.value ++ '"' :: rest) := rfl
  have quote : skipSpaces ('"' :: (a.value ++ '"' :: rest)) =
      '"' :: (a.value ++ '"' :: rest) := rfl
  rw [Attribute.read?, nameRead]
  split
  next nameless => exact absurd nameless a.nonempty
  next =>
    simp only [behind, equals, quote, value, Option.map_some,
      decodeReferences_eq_self a.noReference]

/-- Spaces and brackets do not start an attribute. -/
theorem exists_name_eq (a : WrittenAttribute) :
    ∃ c s, a.name = c :: s ∧ isSpace c = false ∧ c ≠ '>' ∧ c ≠ '/' := by
  obtain ⟨c, s, whole⟩ := List.exists_cons_of_ne_nil a.nonempty
  have nameChar := a.nameChars c (by rw [whole]; exact List.mem_cons_self)
  simp only [isAttributeNameChar, Bool.and_eq_true, Bool.not_eq_true',
    decide_eq_true_eq] at nameChar
  exact ⟨c, s, whole, by simp_all⟩

/-- Printed attributes are read one by one, up to the end of the tag. -/
theorem readAll?_append (attributes : List WrittenAttribute) {ending rest : Text} {slash : Bool}
    (ends : Attribute.readAll? ending = some ([], slash, rest)) :
    Attribute.readAll? (attributes.flatMap print ++ ending) =
      some (attributes.map (·.toAttribute), slash, rest) := by
  induction attributes with
  | nil => exact ends
  | cons a attributes ih =>
      obtain ⟨c, s, whole, noSpace, noBracket, noSlash⟩ := a.exists_name_eq
      have read := a.read?_append (attributes.flatMap print ++ ending)
      have front : skipSpaces ((a :: attributes).flatMap print ++ ending) =
          a.name ++ '=' :: '"' :: (a.value ++ '"' :: (attributes.flatMap print ++ ending)) := by
        have spaced : (a :: attributes).flatMap print ++ ending = ' ' ::
            (a.name ++ '=' :: '"' :: (a.value ++ '"' :: (attributes.flatMap print ++ ending))) := by
          simp [print]
        rw [spaced, whole, List.cons_append, skipSpaces, List.dropWhile_cons_of_pos rfl,
          List.dropWhile_cons_of_neg (by simp [noSpace])]
      rw [whole, List.cons_append] at read front
      rw [Attribute.readAll?_of_read? front noBracket noSlash read, ih]
      rfl

end WrittenAttribute

namespace TagName

variable (name : TagName) (attributes : List WrittenAttribute)

/-- A tag name starts with a letter, so no other form of markup is opened in front of it. -/
theorem exists_name_eq : ∃ c s, name.name = c :: s ∧ c ≠ '!' ∧ c ≠ '/' := by
  obtain ⟨c, s, whole, letter, -⟩ := name.valid
  refine ⟨c, s, whole, ?_, ?_⟩
  · rintro rfl
    exact absurd letter (by decide)
  · rintro rfl
    exact absurd letter (by decide)

/-- Behind an angle bracket, the name of a tag starts a start tag or nothing. -/
theorem direct?_append (rest : Text) :
    Construct.direct? ('<' :: (name.name ++ rest)) =
      Construct.startTag? ('<' :: (name.name ++ rest)) := by
  obtain ⟨c, s, whole, noMark, noSlash⟩ := name.exists_name_eq
  apply Construct.direct?_of_startTag
  · simp [after?, whole, noMark.symm]
  · simp [after?, whole, noMark.symm]
  · intro doctype
    obtain ⟨_, _, same, -⟩ := Construct.eq_of_startsDoctype doctype
    rw [whole] at same
    exact noMark (List.cons.inj (List.cons.inj same).2).1
  · simp [after?, whole, noSlash.symm]

/-- A printed start tag is read up to its end. -/
theorem direct?_start {ending rest : Text} {slash : Bool}
    (ends : Attribute.readAll? ending = some ([], slash, rest))
    (outside : ∃ c t, ending = c :: t ∧ isTagNameChar c = false) :
    Construct.direct? (name.printStart attributes ++ ending) =
      some (.startTag ⟨name.name, attributes.map (·.toAttribute), slash⟩, rest) := by
  obtain ⟨c, s, whole, -⟩ := name.exists_name_eq
  have text : name.printStart attributes ++ ending =
      '<' :: (name.name ++ (attributes.flatMap WrittenAttribute.print ++ ending)) := by
    simp [printStart]
  have nameRead : tagName (name.name ++ (attributes.flatMap WrittenAttribute.print ++ ending)) =
      name.name := by
    cases attributes with
    | nil =>
        obtain ⟨c, t, rfl, outside⟩ := outside
        exact name.tagName_append outside t
    | cons a attributes =>
        rw [List.flatMap_cons, WrittenAttribute.print, List.append_assoc, List.append_assoc,
          List.cons_append]
        exact name.tagName_append rfl _
  have startRead : StartTag.read?
      ('<' :: (name.name ++ (attributes.flatMap WrittenAttribute.print ++ ending))) =
      some (⟨name.name, attributes.map (·.toAttribute), slash⟩, rest) := by
    rw [StartTag.read?, nameRead]
    split
    next nameless => simp [whole] at nameless
    next =>
      rw [List.drop_left, WrittenAttribute.readAll?_append attributes ends]
      rfl
  rw [text, name.direct?_append, Construct.startTag?, startRead]
  rfl

/-- A printed end tag is read whole. -/
theorem direct?_end (rest : Text) :
    Construct.direct? (name.printEnd ++ rest) = some (.endTag name.name, rest) := by
  have text : name.printEnd ++ rest = "</".toList ++ (name.name ++ '>' :: rest) := by
    simp [printEnd]
  have nameRead := name.tagName_append (c := '>') rfl rest
  have named : name.name ≠ [] := by
    obtain ⟨c, s, whole, -⟩ := name.valid
    simp [whole]
  have bracket : Construct.behind? .tag ('>' :: rest) = some rest := by
    have cut : Text.cut? ['>'] ('>' :: rest) = some ([], rest) :=
      Text.cut?_of_notMem List.not_mem_nil rest
    rw [Construct.behind?, Terminator.mark, cut]
    rfl
  rw [text, Construct.direct?_of_endTag (after?_append _ _), Construct.endTag?, after?_append,
    Option.bind_some, nameRead, if_neg named, List.drop_left, bracket]
  rfl

end TagName

/-! ### Reading a forest -/

section Reading

variable {d : Dialect} {expectHtml : Bool} {tags : OpenTags} {s rest : Text}

/-- Before anything else is read from this text, the run that is pending is emitted. -/
def Flushes (d : Dialect) (expectHtml : Bool) (tags : OpenTags) (s : Text) : Prop :=
  ∀ run, plainRun d expectHtml tags run s = pendingText run ++ plainRun d expectHtml tags [] s

theorem flushes_nil : Flushes d expectHtml tags [] := by
  intro run
  simp [pendingText]

theorem flushes_of_direct? {construct : Construct}
    (notRaw : tags.top?.filter d.isRawText = none)
    (found : Construct.direct? s = some (construct, rest)) : Flushes d expectHtml tags s := by
  intro run
  rw [plainRun_construct notRaw found, plainRun_construct notRaw found]
  simp [pendingText]

/-- Text without an angle bracket joins the run that is pending. -/
theorem plainRun_of_notMem (notRaw : tags.top?.filter d.isRawText = none) {content : Text}
    (noMarkup : '<' ∉ content) (run : Text) :
    plainRun d expectHtml tags run (content ++ rest) =
      plainRun d expectHtml tags (run ++ content) rest := by
  induction content generalizing run with
  | nil => simp
  | cons c content ih =>
      rw [List.mem_cons, not_or] at noMarkup
      have nothing : Construct.direct? (c :: (content ++ rest)) = none := by
        apply Construct.direct?_eq_none_of_head
        simpa using Ne.symm noMarkup.1
      rw [List.cons_append, plainRun_char notRaw nothing, ih noMarkup.2, List.append_assoc]
      rfl

end Reading

section Printed

variable {d : Dialect} {tags : OpenTags} (attributes : List WrittenAttribute)

theorem readAll?_bracket (rest : Text) :
    Attribute.readAll? ('>' :: rest) = some ([], false, rest) := by
  rw [Attribute.readAll?]
  rfl

theorem readAll?_slash (rest : Text) :
    Attribute.readAll? ('/' :: '>' :: rest) = some ([], true, rest) := by
  rw [Attribute.readAll?]
  rfl

/-- Only a forest that starts with text continues a run of text. -/
theorem Forest.flushes_print (notRaw : tags.top?.filter d.isRawText = none) {forest : Forest d}
    (noText : forest.startsWithText = false) {rest : Text} (flushes : Flushes d false tags rest) :
    Flushes d false tags (forest.print ++ rest) := by
  cases forest with
  | nil => exact flushes
  | element name attributes children more =>
      simp only [print, List.append_assoc, List.cons_append]
      exact flushes_of_direct? notRaw
        (name.direct?_start attributes (readAll?_bracket _) ⟨'>', _, rfl, rfl⟩)
  | selfClosed name attributes more =>
      simp only [print, List.append_assoc, List.cons_append]
      exact flushes_of_direct? notRaw
        (name.direct?_start attributes (readAll?_slash _) ⟨'/', _, rfl, rfl⟩)
  | text run more => simp [startsWithText] at noText

/-- A printed start tag opens an element. -/
theorem ContentTag.plainRun_start (name : ContentTag d)
    (notRaw : tags.top?.filter d.isRawText = none) (rest : Text) :
    plainRun d false tags [] (name.printStart attributes ++ '>' :: rest) =
      ⟨.start name.name (attributes.map (·.toAttribute)) false, .written⟩ ::
        plainRun d false (name.name :: tags) [] rest := by
  have found := name.direct?_start attributes (readAll?_bracket rest) ⟨'>', rest, rfl, rfl⟩
  rw [plainRun_construct notRaw found]
  simp [pendingText, Construct.take, OpenTags.startTag, name.notVoid]

/-- A printed start tag that closes itself opens nothing. -/
theorem TagName.plainRun_selfClosed (name : TagName)
    (notRaw : tags.top?.filter d.isRawText = none) (rest : Text) :
    plainRun d false tags [] (name.printStart attributes ++ '/' :: '>' :: rest) =
      ⟨.start name.name (attributes.map (·.toAttribute)) true, .written⟩ ::
        plainRun d false tags [] rest := by
  have found := name.direct?_start attributes (readAll?_slash rest) ⟨'/', '>' :: rest, rfl, rfl⟩
  rw [plainRun_construct notRaw found]
  simp [pendingText, Construct.take, OpenTags.startTag]

/-- A printed end tag closes the innermost element, if that has its name. -/
theorem TagName.plainRun_end (name : TagName)
    (notRaw : (OpenTags.top? (name.name :: tags)).filter d.isRawText = none) (rest : Text) :
    plainRun d false (name.name :: tags) [] (name.printEnd ++ rest) =
      ⟨.finish name.name, .written⟩ :: plainRun d false tags [] rest := by
  rw [plainRun_construct notRaw (name.direct?_end rest)]
  simp [pendingText, Construct.take, OpenTags.endTag, OpenTags.splitAt?]

/-- A run of text is emitted in one piece. -/
theorem TextRun.plainRun_content (run : TextRun) (notRaw : tags.top?.filter d.isRawText = none)
    {rest : Text} (flushes : Flushes d false tags rest) :
    plainRun d false tags [] (run.content ++ rest) =
      ⟨.text run.content, .written⟩ :: plainRun d false tags [] rest := by
  obtain ⟨c, s, whole⟩ := List.exists_cons_of_ne_nil run.nonempty
  rw [plainRun_of_notMem notRaw run.noMarkup, flushes, List.nil_append, whole]
  rfl

/-- A printed forest is read as it was meant, whatever is open around it, if what follows does not
continue its last run of text. -/
theorem Forest.plainRun_print (forest : Forest d) (separated : forest.Separated)
    (notRaw : tags.top?.filter d.isRawText = none) {rest : Text}
    (flushes : Flushes d false tags rest) :
    (plainRun d false tags [] (forest.print ++ rest)).map (·.event) =
      forest.events ++ (plainRun d false tags [] rest).map (·.event) := by
  induction forest generalizing tags rest with
  | nil => rfl
  | element name attributes children more ihChildren ihMore =>
      obtain ⟨within, behind⟩ := separated
      have inside : (OpenTags.top? (name.name :: tags)).filter d.isRawText = none := by
        simp [OpenTags.top?, name.notRaw]
      have ended : Flushes d false (name.name :: tags) (name.printEnd ++ (more.print ++ rest)) :=
        flushes_of_direct? inside (name.direct?_end (more.print ++ rest))
      simp only [print, events, List.append_assoc, List.cons_append]
      rw [name.plainRun_start attributes notRaw, List.map_cons, ihChildren within inside ended,
        name.plainRun_end inside, List.map_cons, ihMore behind notRaw flushes]
  | selfClosed name attributes more ih =>
      simp only [print, events, List.append_assoc, List.cons_append]
      rw [name.plainRun_selfClosed attributes notRaw, List.map_cons, ih separated notRaw flushes]
  | text run more ih =>
      obtain ⟨noText, behind⟩ := separated
      rw [print, events, List.append_assoc,
        run.plainRun_content notRaw (flushes_print notRaw noText flushes), List.map_cons,
        ih behind notRaw flushes, List.cons_append]

end Printed

/-- Reading undoes printing: the events of a printed forest are its own. -/
theorem events_print {d : Dialect} (forest : Forest d) (separated : forest.Separated) :
    events d false forest.print = forest.events := by
  have start : Reading.InSource forest.print { rest := forest.print } :=
    ⟨rfl, Terminators.truthful_empty forest.print⟩
  have atTop : (OpenTags.top? []).filter d.isRawText = none := rfl
  have whole := forest.plainRun_print separated atTop flushes_nil
  rw [List.append_nil] at whole
  rw [events, emissions, start.run_eq_plainRun d false, whole]
  simp [pendingText, OpenTags.endOfSource]

/-- A paragraph with a binding that looks like markup, text and a line break. -/
theorem events_print_paragraph :
    ∃ forest : Forest .web, forest.Separated ∧
      forest.print = "<p :a=\"</p><!--\">b<br/></p>".toList ∧
      events .web false forest.print =
        [.start ['p'] [⟨":a".toList, "</p><!--".toList⟩] false, .text ['b'],
          .start "br".toList [] true, .finish ['p']] := by
  let binding : WrittenAttribute :=
    { name := ":a".toList, value := "</p><!--".toList, nonempty := by decide,
      nameChars := List.all_eq_true.1 rfl, noQuote := by decide, noReference := by decide }
  let children : Forest .web :=
    .text ⟨['b'], by decide, by decide⟩
      (.selfClosed ⟨"br".toList, 'b', ['r'], rfl, rfl, List.all_eq_true.1 rfl⟩ [] .nil)
  let forest : Forest .web :=
    .element ⟨⟨['p'], 'p', [], rfl, rfl, List.all_eq_true.1 rfl⟩, by decide, by decide⟩ [binding]
      children .nil
  have separated : forest.Separated := ⟨⟨rfl, trivial⟩, trivial⟩
  exact ⟨forest, separated, rfl, by rw [events_print forest separated]; rfl⟩

end TemplateMarkup
