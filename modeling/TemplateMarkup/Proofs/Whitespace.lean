import TemplateMarkup.Proofs.Alike
import TemplateMarkup.Proofs.TextOfSource

/-!
# White space

Keeping the blanks between elements adds single spaces to what elements hold, and does nothing
else. The spaces have effects while a template is built: one that is kept can be taken away when its
element ends, and after one that is not kept an element may still be empty, so that the next one is
not kept either. But all of these effects are on spaces again. Where blanks are content, in
preformatted and raw text, they are kept in any case.
-/

namespace TemplateMarkup

open Text

def Child.space : Child :=
  .text [' ']

/-- What is held apart from single spaces. -/
def withoutSpaces (children : List Child) : List Child :=
  children.filter (· ≠ .space)

/-- Blanks are content in this element. -/
def Element.isVerbatim (dialect : Dialect) (e : Element) : Bool :=
  e.tag = "pre".toList || dialect.isRawText e.tag

/-- The elements differ in single spaces at most, and not at all where blanks are content. -/
structure Element.SameButSpaces (dialect : Dialect) (e e' : Element) : Prop where
  fields : e' = { e with children := e'.children }
  apart : withoutSpaces e'.children = withoutSpaces e.children
  verbatim : e.isVerbatim dialect = true → e'.children = e.children

namespace Template

/-- The templates have the same elements up to single spaces. -/
structure SameButSpaces (dialect : Dialect) (t t' : Template) : Prop where
  root : t'.root = t.root
  size : t'.size = t.size
  element : ∀ id e, t.get? id = some e →
    ∃ e', t'.get? id = some e' ∧ e.SameButSpaces dialect e'

/-- Where blanks are no content, no element begins with a single space. -/
def NoSpaceFirst (dialect : Dialect) (t : Template) : Prop :=
  ∀ id e, t.get? id = some e → e.isVerbatim dialect = false → e.children.head? ≠ some .space

/-- Where blanks are no content, no element holds a single space. -/
def NoSpaces (dialect : Dialect) (t : Template) : Prop :=
  ∀ id e, t.get? id = some e → e.isVerbatim dialect = false → .space ∉ e.children

/-- There is an element with this id, and blanks are no content in it. -/
def isOrdinary (dialect : Dialect) (t : Template) (id : Nat) : Bool :=
  (t.get? id).any fun e => !e.isVerbatim dialect

variable {dialect : Dialect} {t : Template} {id : Nat} {e : Element}

theorem isOrdinary_of_get? (found : t.get? id = some e) :
    t.isOrdinary dialect id = !e.isVerbatim dialect := by
  rw [isOrdinary, found, Option.any_some]

theorem isOrdinary_eq_bare :
    t.isOrdinary dialect id = (t.bare? id).any fun e => !e.isVerbatim dialect :=
  t.any_get?_eq_bare id fun _ => rfl

theorem isOrdinary_eq_false (outside : t.size ≤ id) : t.isOrdinary dialect id = false := by
  rw [isOrdinary, t.get?_eq_none id outside, Option.any_none]

end Template

/-! ### Children -/

section Children

variable {children : List Child}

@[simp] theorem withoutSpaces_append (children more : List Child) :
    withoutSpaces (children ++ more) = withoutSpaces children ++ withoutSpaces more :=
  List.filter_append ..

theorem withoutSpaces_dropTrailingSpace (children : List Child) :
    withoutSpaces (Builder.dropTrailingSpace children) = withoutSpaces children := by
  rw [Builder.dropTrailingSpace]
  split
  next last =>
    obtain ⟨before, rfl⟩ := List.getLast?_eq_some_iff.1 last
    simp [withoutSpaces, Child.space]
  · rfl

/-- No space comes first, and there is none at all if blanks are not kept. -/
structure Tidy (preserve : Bool) (children : List Child) : Prop where
  first : children.head? ≠ some .space
  none : preserve = false → .space ∉ children

namespace Tidy

variable {preserve : Bool}

theorem nil (preserve : Bool) : Tidy preserve [] :=
  ⟨by simp, fun _ => List.not_mem_nil⟩

/-- A space may be added only behind something else, and only if blanks are kept. -/
theorem concat (tidy : Tidy preserve children) {child : Child}
    (kept : child = .space → preserve = true ∧ children ≠ []) :
    Tidy preserve (children ++ [child]) := by
  refine ⟨?_, ?_⟩
  · intro first
    cases children with
    | nil =>
        have isSpace : child = .space := Option.some.inj first
        exact (kept isSpace).2 rfl
    | cons c children => exact tidy.first first
  · intro dropped member
    rcases List.mem_append.1 member with old | new
    · exact tidy.none dropped old
    · have preserved := (kept (List.mem_singleton.1 new).symm).1
      simp [dropped] at preserved

theorem dropTrailingSpace (tidy : Tidy preserve children) :
    Tidy preserve (Builder.dropTrailingSpace children) := by
  rw [Builder.dropTrailingSpace]
  split
  next last =>
    obtain ⟨before, rfl⟩ := List.getLast?_eq_some_iff.1 last
    rw [List.dropLast_concat]
    refine ⟨?_, ?_⟩
    · intro first
      apply tidy.first
      rw [List.head?_append, first]
      rfl
    · intro dropped member
      exact tidy.none dropped (List.mem_append_left _ member)
  · exact tidy

end Tidy

end Children

namespace Builder

open Template

/-! ### What is kept of text -/

section Kept

variable {settings settings' : Settings} {e e' : Element} {s : Text}

/-- Text that has content is kept, whatever is done with blanks. -/
theorem keptText_of_content (content : (e.isVerbatim settings.dialect || !isAllBlank s) = true) :
    keptText settings e s = decodeReferences s :=
  if_pos content

/-- Blanks are kept as a space if at all. -/
theorem keptText_of_blank (blank : (e.isVerbatim settings.dialect || !isAllBlank s) = false) :
    keptText settings e s =
      if settings.preserveWhitespace && !e.children.isEmpty then [' '] else [] :=
  if_neg (by rw [← Element.isVerbatim, blank]; exact Bool.false_ne_true)

theorem textChild_space (d : Delimiters) (inRawRegion : Bool) :
    textChild d inRawRegion [' '] = .space := by
  simp [textChild, Child.space]

theorem eq_space_of_textChild {d : Delimiters} {inRawRegion : Bool}
    (isSpace : textChild d inRawRegion s = .space) : s = [' '] := by
  rw [textChild] at isSpace
  split at isSpace
  · exact Child.text.inj isSpace
  · split at isSpace
    · simp [Child.space] at isSpace
    · exact Child.text.inj isSpace

/-- Blanks add nothing but a space. -/
theorem withoutSpaces_blank (d : Delimiters) (inRawRegion : Bool)
    (blank : (e.isVerbatim settings.dialect || !isAllBlank s) = false) :
    withoutSpaces (if keptText settings e s ≠ [] then
      [textChild d inRawRegion (keptText settings e s)] else []) = [] := by
  rw [keptText_of_blank blank]
  split
  · rw [textChild_space]
    split <;> rfl
  · simp [withoutSpaces]

/-- Without character references, text is kept as a space only if blanks are kept and something is
there before. -/
theorem preserved_of_space (ordinary : e.isVerbatim settings.dialect = false) (plain : '&' ∉ s)
    (isSpace : keptText settings e s = [' ']) :
    settings.preserveWhitespace = true ∧ e.children ≠ [] := by
  cases blank : isAllBlank s with
  | false =>
      have kept : keptText settings e s = decodeReferences s :=
        keptText_of_content (by simp [blank])
      rw [isSpace, decodeReferences_eq_self plain] at kept
      rw [← kept] at blank
      exact absurd blank (by decide)
  | true =>
      rw [keptText_of_blank (by simp [ordinary, blank])] at isSpace
      split at isSpace
      next kept => simpa using kept
      next => simp at isSpace

end Kept

/-! ### Tidy elements -/

/-- So far, all elements in which blanks are no content are tidy. -/
structure KeepsTidy (settings : Settings) (b : Builder) : Prop where
  sound : b.Sound
  tidy : ∀ i, b.template.isOrdinary settings.dialect i = true →
    Tidy settings.preserveWhitespace (b.template.content i)

/-- What has started stays ordinary, or not. -/
theorem isOrdinary_step {b : Builder} (sound : b.Sound) (settings : Settings) (d : Delimiters)
    (event : Event) {i : Nat} (started : i < b.template.size) (dialect : Dialect) :
    (b.step settings d event).1.template.isOrdinary dialect i =
      b.template.isOrdinary dialect i := by
  rw [isOrdinary_eq_bare, sound.bare?_step settings d event started, ← isOrdinary_eq_bare]

namespace KeepsTidy

variable {settings : Settings} {b : Builder} (keeps : b.KeepsTidy settings) (d : Delimiters)

include keeps

/-- What is ordinary after an event was tidy before it. -/
theorem before (event : Event) {i : Nat}
    (ordinary : (b.step settings d event).1.template.isOrdinary settings.dialect i = true) :
    Tidy settings.preserveWhitespace (b.template.content i) := by
  by_cases started : i < b.template.size
  · rw [isOrdinary_step keeps.sound settings d event started] at ordinary
    exact keeps.tidy i ordinary
  · rw [content_eq_nil _ _ (Nat.le_of_not_lt started)]
    exact .nil _

theorem step (event : Event) (plain : ∀ content, event = .text content → '&' ∉ content) :
    (b.step settings d event).1.KeepsTidy settings := by
  refine ⟨keeps.sound.step settings d event, ?_⟩
  intro i ordinary
  have tidy := keeps.before d event ordinary
  cases event with
  | start name attributes isVoid =>
      rw [Builder.step, content_start keeps.sound]
      split
      · exact tidy.concat (by simp [Child.space])
      · rwa [List.append_nil]
  | finish tag =>
      rw [Builder.step, content_finish keeps.sound]
      split
      · exact tidy.dropTrailingSpace
      · exact tidy
  | text s =>
      by_cases innermost : b.openIds.head? = some i
      · have inside := keeps.sound.open_lt i (List.mem_of_head? innermost)
        obtain ⟨e, found⟩ := exists_get?_of_lt inside
        rw [isOrdinary_step keeps.sound settings d (.text s) inside, isOrdinary_of_get? found,
          Bool.not_eq_true'] at ordinary
        rw [Builder.step, content_text keeps.sound settings d i innermost found]
        split
        · apply tidy.concat
          intro isSpace
          rw [content_of_get? b.template found]
          exact preserved_of_space ordinary (plain s rfl) (eq_space_of_textChild isSpace)
        · rwa [List.append_nil]
      · rw [Builder.step, content_text_of_ne keeps.sound settings d i innermost]
        exact tidy
  | unmatchedEnd tag => exact tidy

end KeepsTidy

theorem keepsTidy_empty (settings : Settings) : ({} : Builder).KeepsTidy settings where
  sound := sound_empty
  tidy _ _ := .nil _

/-! ### Two builders -/

/-- The builders hold the same but for single spaces, and where blanks are content those too. -/
structure SpacesApart (dialect : Dialect) (b b' : Builder) : Prop where
  sound : b.Sound
  sound' : b'.Sound
  alike : b.Alike b'
  apart : ∀ i, withoutSpaces (b'.template.content i) = withoutSpaces (b.template.content i)
  verbatim : ∀ i, b.template.isOrdinary dialect i = false →
    b'.template.content i = b.template.content i

namespace SpacesApart

variable {settings settings' : Settings} {b b' c c' : Builder}
variable (spaces : b.SpacesApart settings.dialect b') (d : Delimiters)

include spaces

/-- What is not ordinary after an event was not so before it. -/
theorem before (event : Event) {i : Nat}
    (verbatim : (b.step settings d event).1.template.isOrdinary settings.dialect i = false) :
    b.template.isOrdinary settings.dialect i = false := by
  by_cases started : i < b.template.size
  · rwa [isOrdinary_step spaces.sound settings d event started] at verbatim
  · exact isOrdinary_eq_false (Nat.le_of_not_lt started)

/-- Events that add the same but for spaces keep spaces apart. -/
theorem of_appended (event : Event)
    (alike : (b.step settings d event).1.Alike (b'.step settings' d event).1)
    (appended : ∀ i, ∃ more more',
      (b.step settings d event).1.template.content i = b.template.content i ++ more ∧
      (b'.step settings' d event).1.template.content i = b'.template.content i ++ more' ∧
      withoutSpaces more' = withoutSpaces more ∧
      (b.template.isOrdinary settings.dialect i = false → more' = more)) :
    (b.step settings d event).1.SpacesApart settings.dialect (b'.step settings' d event).1 where
  sound := spaces.sound.step settings d event
  sound' := spaces.sound'.step settings' d event
  alike := alike
  apart i := by
    obtain ⟨more, more', content, content', apart, -⟩ := appended i
    rw [content, content', withoutSpaces_append, withoutSpaces_append, spaces.apart, apart]
  verbatim i stays := by
    obtain ⟨more, more', content, content', -, verbatim⟩ := appended i
    have before := spaces.before d event stays
    rw [content, content', spaces.verbatim i before, verbatim before]

theorem finish (tag : Text) :
    (b.step settings d (.finish tag)).1.SpacesApart settings.dialect
      (b'.step settings' d (.finish tag)).1 where
  sound := spaces.sound.step settings d (.finish tag)
  sound' := spaces.sound'.step settings' d (.finish tag)
  alike := spaces.alike.finish
  apart i := by
    rw [Builder.step, Builder.step, content_finish spaces.sound, content_finish spaces.sound',
      spaces.alike.openIds]
    split
    · rw [withoutSpaces_dropTrailingSpace, withoutSpaces_dropTrailingSpace, spaces.apart]
    · exact spaces.apart i
  verbatim i stays := by
    have before := spaces.before d (.finish tag) stays
    rw [Builder.step, Builder.step, content_finish spaces.sound, content_finish spaces.sound',
      spaces.alike.openIds, spaces.verbatim i before]

variable (dialect : settings'.dialect = settings.dialect)

include dialect

theorem text (s : Text) :
    (b.step settings d (.text s)).1.SpacesApart settings.dialect
      (b'.step settings' d (.text s)).1 := by
  apply spaces.of_appended d (.text s) (spaces.alike.text settings settings' d d s)
  intro i
  refine spaces.alike.text_appended settings settings' d d spaces.sound spaces.sound'
    (R := fun more more' => withoutSpaces more' = withoutSpaces more ∧
      (b.template.isOrdinary settings.dialect i = false → more' = more)) s i ⟨rfl, fun _ => rfl⟩ ?_
  intro e innermost found
  dsimp only
  -- What it holds has no part in whether blanks are content.
  generalize same : { e with children := b'.template.content i } = e'
  have sameSort : e'.isVerbatim settings'.dialect = e.isVerbatim settings.dialect := by
    rw [← same, dialect]
    rfl
  cases blank : e.isVerbatim settings.dialect || !isAllBlank s with
  | true =>
      rw [keptText_of_content blank, keptText_of_content (by rwa [sameSort])]
      exact ⟨rfl, fun _ => rfl⟩
  | false =>
      -- The two may differ in what they hold so far, so one may keep a space and the other not.
      refine ⟨?_, ?_⟩
      · rw [withoutSpaces_blank d _ blank, withoutSpaces_blank d _ (by rwa [sameSort])]
      · intro verbatim
        rw [isOrdinary_of_get? found, Bool.not_eq_false'] at verbatim
        simp [verbatim] at blank

theorem start (name : Text) (attributes : List Attribute) (isVoid : Bool) :
    (b.step settings d (.start name attributes isVoid)).1.SpacesApart settings.dialect
        (b'.step settings' d (.start name attributes isVoid)).1 ∧
      (b'.step settings' d (.start name attributes isVoid)).2 =
        (b.step settings d (.start name attributes isVoid)).2 := by
  have made := spaces.alike.makeElement settings settings' d dialect name attributes
  obtain ⟨alike, linking, warnings, warnings'⟩ := spaces.alike.start settings settings' d d
    spaces.sound spaces.sound' (congrArg Prod.fst made) isVoid
  refine ⟨spaces.of_appended d (.start name attributes isVoid) alike ?_, ?_⟩
  · intro i
    refine ⟨_, _, content_start spaces.sound settings d i name attributes isVoid,
      content_start spaces.sound' settings' d i name attributes isVoid, ?_⟩
    rw [made, spaces.alike.size]
    exact ⟨rfl, fun _ => rfl⟩
  · rw [Builder.step, Builder.step, warnings, warnings', made]

theorem step (event : Event) :
    (b.step settings d event).1.SpacesApart settings.dialect (b'.step settings' d event).1 ∧
      (b'.step settings' d event).2 = (b.step settings d event).2 := by
  cases event with
  | start name attributes isVoid => exact spaces.start d dialect name attributes isVoid
  | finish tag => exact ⟨spaces.finish d tag, rfl⟩
  | text s => exact ⟨spaces.text d dialect s, spaces.alike.text_reports settings settings' d d s⟩
  | unmatchedEnd tag => exact ⟨spaces, rfl⟩

omit dialect

theorem sameButSpaces : b.template.SameButSpaces settings.dialect b'.template where
  root := root_of_withoutText spaces.alike.template
  size := spaces.alike.size
  element id e found := by
    have found' := spaces.alike.get?_of_get? found
    have content := content_of_get? b.template found
    refine ⟨_, found', rfl, ?_, ?_⟩
    · rw [← content]
      exact spaces.apart id
    · intro verbatim
      rw [← content]
      apply spaces.verbatim
      rw [isOrdinary_of_get? found, verbatim]
      rfl

end SpacesApart

theorem spacesApart_empty (dialect : Dialect) : ({} : Builder).SpacesApart dialect {} where
  sound := sound_empty
  sound' := sound_empty
  alike := ⟨rfl, rfl, rfl, rfl, rfl⟩
  apart _ := rfl
  verbatim _ _ := rfl

/-- What the settings say about blanks decides about single spaces and nothing else. -/
theorem spacesApart_run {settings settings' : Settings}
    (dialect : settings'.dialect = settings.dialect) (d : Delimiters) (events : List Event) :
    (({} : Builder).run settings d events).1.SpacesApart settings.dialect
        (({} : Builder).run settings' d events).1 ∧
      (({} : Builder).run settings' d events).2.flatten =
        (({} : Builder).run settings d events).2.flatten := by
  have begins : ({} : Builder).SpacesApart settings.dialect {} ∧ ([] : List Warning) = [] :=
    ⟨spacesApart_empty settings.dialect, rfl⟩
  refine run_preserves_both (P := fun b b' warnings warnings' =>
    b.SpacesApart settings.dialect b' ∧ warnings' = warnings) events ?_ begins
  rintro b b' warnings warnings' event ⟨spaces, same⟩
  obtain ⟨step, sameStep⟩ := spaces.step d dialect event
  exact ⟨step, by rw [same, sameStep]⟩

/-- Where there are no character references in text, elements are tidy. -/
theorem keepsTidy_run (settings : Settings) (d : Delimiters) {events : List Event}
    (plain : ∀ content, .text content ∈ events → '&' ∉ content) :
    (({} : Builder).run settings d events).1.KeepsTidy settings := by
  apply run_preserves_of_mem events
  · intro b event member keeps
    apply keeps.step d event
    rintro content rfl
    exact plain content member
  · exact keepsTidy_empty settings

theorem KeepsTidy.noSpaceFirst {settings : Settings} {b : Builder} (keeps : b.KeepsTidy settings) :
    b.template.NoSpaceFirst settings.dialect := by
  intro id e found ordinary
  rw [← content_of_get? b.template found]
  exact (keeps.tidy id (by rw [isOrdinary_of_get? found, ordinary]; rfl)).first

theorem KeepsTidy.noSpaces {settings : Settings} {b : Builder} (keeps : b.KeepsTidy settings)
    (dropped : settings.preserveWhitespace = false) :
    b.template.NoSpaces settings.dialect := by
  intro id e found ordinary
  rw [← content_of_get? b.template found]
  exact (keeps.tidy id (by rw [isOrdinary_of_get? found, ordinary]; rfl)).none dropped

end Builder

/-- Whatever the source, keeping blanks makes a difference to single spaces only, and none where
blanks are content. In a source without character references, no other element begins with a space,
and if blanks are not kept, none holds one. -/
theorem parse_whitespace (settings : Settings) (source : Text) :
    ParsesAlike { settings with preserveWhitespace := true }
      { settings with preserveWhitespace := false } source fun kept dropped =>
        dropped.warnings = kept.warnings ∧
        kept.template.SameButSpaces settings.dialect dropped.template ∧
        ('&' ∉ source → kept.template.NoSpaceFirst settings.dialect ∧
          dropped.template.NoSpaceFirst settings.dialect ∧
          dropped.template.NoSpaces settings.dialect) := by
  refine parsesAlike_of_build ?_ ?_
  · rfl
  intro d
  have dialect : Settings.dialect { settings with preserveWhitespace := false } =
      Settings.dialect { settings with preserveWhitespace := true } := rfl
  obtain ⟨spaces, warnings⟩ := Builder.spacesApart_run dialect d
    (events settings.dialect settings.expectHtml source)
  refine ⟨warnings, spaces.sameButSpaces, ?_⟩
  intro plain
  have plainText : ∀ content, .text content ∈ events settings.dialect settings.expectHtml source →
      '&' ∉ content := by
    intro content isText member
    exact plain (subset_source_of_text isText member)
  have kept := Builder.keepsTidy_run { settings with preserveWhitespace := true } d plainText
  have dropped := Builder.keepsTidy_run { settings with preserveWhitespace := false } d plainText
  exact ⟨kept.noSpaceFirst, dropped.noSpaceFirst, dropped.noSpaces rfl⟩

/-- Of the blanks around two elements, those between them are kept as a space. -/
example :
    let content (preserve : Bool) :=
      (parse { preserveWhitespace := preserve } "<p> <b></b> <i></i> </p>".toList).toOption.map
        fun parsed => parsed.template.content 0
    content true = some [.element 1, .space, .element 2] ∧
      content false = some [.element 1, .element 2] := by
  decide +kernel

end TemplateMarkup
