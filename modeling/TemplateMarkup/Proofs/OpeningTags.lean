import TemplateMarkup.Proofs.ComponentLayout

/-!
# Opening tags

Each reader of a part of an opening tag accepts the printed layouts of that part and nothing else.
Where a part ends is settled by what follows it: a name goes on as long as it can, and an attribute
has a value if an equals sign with a quoted value comes next, gaps not counted.
-/

namespace TemplateMarkup

open Text

/-! ### Characters -/

theorem isNamePart_of_isGap {c : Char} (gap : isGap c = true) :
    OpeningTag.isNamePart c = false := by
  simp only [isGap, Bool.or_eq_true, decide_eq_true_eq] at gap
  rcases gap with ((rfl | rfl) | rfl) | rfl <;> decide

theorem isGap_of_isNameStart {c : Char} (start : OpeningTag.isNameStart c = true) :
    isGap c = false := by
  rw [Bool.eq_false_iff]
  intro gap
  simp only [isGap, Bool.or_eq_true, decide_eq_true_eq] at gap
  rcases gap with ((rfl | rfl) | rfl) | rfl <;> exact absurd start (by decide)

namespace OpeningTag

variable {s name value rest : Text}

/-! ### Names and values -/

/-- The name at the front ends where no character continues it. -/
theorem readName?_eq_some_iff :
    readName? s = some (name, rest) ↔
      IsName name ∧ s = name ++ rest ∧ ∀ c ∈ rest.head?, isNamePart c = false := by
  constructor
  · intro read
    cases s with
    | nil => simp [readName?] at read
    | cons c s =>
        simp only [readName?] at read
        split at read
        next start =>
          obtain ⟨rfl, rfl⟩ := Prod.mk.inj (Option.some.inj read)
          refine ⟨⟨c, _, rfl, start, List.all_eq_true.1 List.all_takeWhile⟩, ?_, ?_⟩
          · rw [List.cons_append, List.takeWhile_append_dropWhile]
          · intro x front
            have ends := List.head?_dropWhile_not isNamePart s
            rwa [Option.mem_def.1 front] at ends
        · simp at read
  · rintro ⟨⟨c, part, rfl, start, continues⟩, rfl, ends⟩
    have stops : rest.takeWhile isNamePart = [] ∧ rest.dropWhile isNamePart = rest := by
      cases rest with
      | nil => exact ⟨rfl, rfl⟩
      | cons x rest =>
          have solid : ¬ isNamePart x = true := by rw [ends x rfl]; exact Bool.false_ne_true
          exact ⟨List.takeWhile_cons_of_neg solid, List.dropWhile_cons_of_neg solid⟩
    rw [List.cons_append, readName?, if_pos start, List.takeWhile_append_of_pos continues,
      List.dropWhile_append_of_pos continues, stops.1, stops.2, List.append_nil]

/-- A quoted value ends at the first mark like the one before it. -/
theorem readQuoted?_eq_some_iff :
    readQuoted? s = some (value, rest) ↔
      ∃ mark, (mark = '"' ∨ mark = '\'') ∧ mark ∉ value ∧ s = mark :: value ++ mark :: rest := by
  constructor
  · intro read
    have unmarked {mark : Char} {t : Text} (ended : cut? [mark] t = some (value, rest)) :
        mark ∉ value ∧ t = value ++ mark :: rest := by
      have absent := not_infix_of_cut? ended (List.cons_ne_nil mark [])
      refine ⟨fun member => ?_, ?_⟩
      · obtain ⟨front, behind, rfl⟩ := List.append_of_mem member
        exact absent ⟨front, behind, by rw [List.append_assoc, List.singleton_append]⟩
      · rw [append_of_cut? ended, List.append_assoc, List.singleton_append]
    rw [readQuoted?.eq_def] at read
    split at read
    next t =>
      obtain ⟨absent, rfl⟩ := unmarked read
      exact ⟨_, .inl rfl, absent, rfl⟩
    next t =>
      obtain ⟨absent, rfl⟩ := unmarked read
      exact ⟨_, .inr rfl, absent, rfl⟩
    · simp at read
  · rintro ⟨mark, isMark, unmarked, rfl⟩
    rcases isMark with rfl | rfl
    · exact cut?_of_notMem unmarked rest
    · exact cut?_of_notMem unmarked rest

/-- A value with its equals sign is read whole. -/
theorem readValue?_eq_some_iff :
    (afterEquals? s).bind readQuoted? = some (value, rest) ↔
      ∃ v : ValueLayout, v.value = value ∧ s = v.print ++ rest := by
  rw [afterEquals?]
  constructor
  · intro read
    obtain ⟨t, equals, quoted⟩ := Option.bind_eq_some_iff.1 read
    obtain ⟨r, sign, rfl⟩ := Option.map_eq_some_iff.1 equals
    obtain ⟨mark, isMark, unmarked, marked⟩ := readQuoted?_eq_some_iff.1 quoted
    obtain ⟨before, front⟩ := exists_gap s
    obtain ⟨after, behind⟩ := exists_gap r
    refine ⟨⟨before, after, mark, isMark, value, unmarked⟩, rfl, ?_⟩
    rw [front, after?_eq_some_iff.1 sign, behind, marked, ValueLayout.print]
    simp only [List.append_assoc, List.cons_append, List.nil_append]
  · rintro ⟨v, rfl, rfl⟩
    have solid : isGap v.mark = false := by rcases v.isMark with mark | mark <;> rw [mark] <;> rfl
    have quoted : readQuoted? (v.mark :: v.value ++ v.mark :: rest) = some (v.value, rest) :=
      readQuoted?_eq_some_iff.2 ⟨v.mark, v.isMark, v.unmarked, rfl⟩
    rw [List.cons_append] at quoted
    have equals : isGap '=' = false := rfl
    simp only [ValueLayout.print, List.append_assoc, List.cons_append, skipGap_append,
      List.nil_append, skipGap_cons equals, after?, if_pos, Option.map_some, skipGap_cons solid,
      Option.bind_some, quoted]

/-! ### Attributes -/

theorem ends_name_append {g : Gap} {c : Char}
    (noName : g.content ≠ [] ∨ isNamePart c = false) (s : Text) :
    ∀ x ∈ (g.content ++ c :: s).head?, isNamePart x = false := by
  intro x front
  cases whole : g.content with
  | nil =>
      rw [whole, List.nil_append, List.head?_cons, Option.mem_def, Option.some.injEq] at front
      rw [← front]
      exact noName.resolve_left fun nonempty => nonempty whole
  | cons b more =>
      rw [whole, List.cons_append, List.head?_cons, Option.mem_def, Option.some.injEq] at front
      rw [← front]
      exact isNamePart_of_isGap (g.gaps b (by rw [whole]; exact List.mem_cons_self))

/-- The text neither goes on with the name in front of it nor gives that name a value. -/
def EndsAttribute (s : Text) : Prop :=
  (∀ c ∈ s.head?, isNamePart c = false) ∧ afterEquals? s = none

theorem endsAttribute_append {g : Gap} {c : Char} (solid : isGap c = false) (noEquals : c ≠ '=')
    (noName : g.content ≠ [] ∨ isNamePart c = false) (s : Text) :
    EndsAttribute (g.content ++ c :: s) := by
  refine ⟨ends_name_append noName s, ?_⟩
  rw [afterEquals?, skipGap_append, skipGap_cons solid]
  simp [after?, noEquals.symm]

end OpeningTag

open OpeningTag

namespace AttributeLayout

variable {s rest : Text} {a : Attribute}

/-- A name begins an attribute as it is written behind its gap. -/
theorem exists_printBody_eq (l : AttributeLayout) :
    ∃ c s, l.printBody = c :: s ∧ isGap c = false ∧ c ≠ '=' := by
  obtain ⟨c, part, whole, start, -⟩ := l.isName
  refine ⟨c, part ++ (l.value?.map ValueLayout.print).getD [], ?_, isGap_of_isNameStart start, ?_⟩
  · rw [printBody, whole, List.cons_append]
  · rintro rfl
    exact absurd start (by decide)

theorem endsAttribute_print (l : AttributeLayout) (s : Text) : EndsAttribute (l.print ++ s) := by
  obtain ⟨c, body, whole, solid, noEquals⟩ := l.exists_printBody_eq
  rw [print, whole, List.append_assoc, List.cons_append]
  exact endsAttribute_append solid noEquals (.inl l.spaced) _

/-- A printed attribute is read whole if what follows ends it. -/
theorem readAttribute?_print (l : AttributeLayout) (ends : EndsAttribute rest) :
    readAttribute? (l.printBody ++ rest) = some (l.toAttribute, rest) := by
  cases written : l.value? with
  | none =>
      have named : readName? (l.name ++ rest) = some (l.name, rest) :=
        readName?_eq_some_iff.2 ⟨l.isName, rfl, ends.1⟩
      simp only [printBody, toAttribute, written, Option.map_none, Option.getD_none,
        List.append_nil, readAttribute?, named, ends.2, Option.bind_none]
  | some v =>
      have valued : (afterEquals? (v.print ++ rest)).bind readQuoted? = some (v.value, rest) :=
        readValue?_eq_some_iff.2 ⟨v, rfl, rfl⟩
      have named : readName? (l.name ++ (v.print ++ rest)) = some (l.name, v.print ++ rest) := by
        refine readName?_eq_some_iff.2 ⟨l.isName, rfl, ?_⟩
        have equals : isNamePart '=' = false := rfl
        simp only [ValueLayout.print, List.append_assoc, List.cons_append]
        exact ends_name_append (.inr equals) _
      simp only [printBody, toAttribute, written, Option.map_some, Option.getD_some,
        List.append_assoc, readAttribute?, named, valued]

/-- What is read as an attribute is written as one. -/
theorem exists_of_readAttribute? (read : readAttribute? s = some (a, rest)) {g : Gap}
    (spaced : g.content ≠ []) :
    ∃ l : AttributeLayout, l.gap = g ∧ l.toAttribute = a ∧ s = l.printBody ++ rest := by
  rw [readAttribute?] at read
  split at read
  · simp at read
  next name r named =>
    obtain ⟨isName, rfl, -⟩ := readName?_eq_some_iff.1 named
    split at read
    next =>
      obtain ⟨rfl, rfl⟩ := Prod.mk.inj (Option.some.inj read)
      exact ⟨⟨g, spaced, name, isName, none⟩, rfl, rfl, by simp [printBody]⟩
    next value t valued =>
      obtain ⟨rfl, rfl⟩ := Prod.mk.inj (Option.some.inj read)
      obtain ⟨v, rfl, rfl⟩ := readValue?_eq_some_iff.1 valued
      exact ⟨⟨g, spaced, name, isName, some v⟩, rfl, rfl, by simp [printBody]⟩

end AttributeLayout

namespace OpeningLayout

variable {s rest : Text}

/-- Printed attributes are read one by one, up to the bracket that ends the tag. -/
theorem readAttributes_print (attributes : List AttributeLayout) (g : Gap) (rest : Text) :
    readAttributes (attributes.flatMap AttributeLayout.print ++ (g.content ++ '>' :: rest)) =
      (attributes.map AttributeLayout.toAttribute, '>' :: rest) := by
  have solid : isGap '>' = false := rfl
  induction attributes with
  | nil =>
      have unread : readAttribute? ('>' :: rest) = none := rfl
      rw [List.flatMap_nil, List.nil_append, readAttributes, skipGap_append, skipGap_cons solid]
      split
      next gapless => rw [← gapless, List.map_nil]
      next => rw [unread, List.map_nil]
  | cons l attributes ih =>
      have ends : EndsAttribute
          (attributes.flatMap AttributeLayout.print ++ (g.content ++ '>' :: rest)) := by
        cases attributes with
        | nil => exact endsAttribute_append solid (by decide) (.inr rfl) rest
        | cons next more =>
            rw [List.flatMap_cons, List.append_assoc]
            exact next.endsAttribute_print _
      have read := l.readAttribute?_print ends
      obtain ⟨c, body, whole, front, -⟩ := l.exists_printBody_eq
      have skipped : skipGap (l.print ++
          (attributes.flatMap AttributeLayout.print ++ (g.content ++ '>' :: rest))) =
          l.printBody ++
            (attributes.flatMap AttributeLayout.print ++ (g.content ++ '>' :: rest)) := by
        rw [AttributeLayout.print, List.append_assoc, skipGap_append, whole, List.cons_append,
          skipGap_cons front]
      rw [List.flatMap_cons, List.append_assoc, readAttributes, skipped]
      split
      next gapless =>
        rw [AttributeLayout.print, List.append_assoc] at gapless
        exact absurd (List.append_left_eq_self.1 gapless.symm) l.spaced
      next =>
        split
        next unread => simp [read] at unread
        next a r taken =>
          obtain ⟨rfl, rfl⟩ := Prod.mk.inj (Option.some.inj (read.symm.trans taken))
          rw [ih, List.map_cons]

/-- What is read as attributes is written so. -/
theorem exists_of_readAttributes (s : Text) :
    ∃ o : OpeningLayout, o.toAttributes = (readAttributes s).1 ∧
      s = o.attributes.flatMap AttributeLayout.print ++ o.gap.content ++ (readAttributes s).2 := by
  fun_induction readAttributes s with
  | case1 s gapless => exact ⟨⟨[], ⟨[], by simp⟩⟩, rfl, rfl⟩
  | case2 s gapped unread =>
      obtain ⟨g, whole⟩ := exists_gap s
      exact ⟨⟨[], g⟩, rfl, whole⟩
  | case3 s gapped a rest read following ih =>
      obtain ⟨g, whole⟩ := exists_gap s
      have spaced : g.content ≠ [] := by
        intro empty
        rw [empty, List.nil_append] at whole
        exact gapped whole.symm
      obtain ⟨l, rfl, rfl, body⟩ := AttributeLayout.exists_of_readAttribute? read spaced
      obtain ⟨o, same, behind⟩ := ih
      refine ⟨⟨l :: o.attributes, o.gap⟩, congrArg (l.toAttribute :: ·) same, ?_⟩
      rw [List.flatMap_cons, AttributeLayout.print, List.append_assoc, List.append_assoc,
        List.append_assoc, ← List.append_assoc _ o.gap.content, ← behind, ← body]
      exact whole

/-- The opening tag at the front of a block. -/
theorem read?_eq_some_iff {kind : BlockKind} {attributes : List Attribute} :
    OpeningTag.read? kind s = some (attributes, rest) ↔
      ∃ o : OpeningLayout, o.toAttributes = attributes ∧ s = o.print kind ++ rest := by
  rw [OpeningTag.read?]
  constructor
  · intro read
    split at read
    · simp at read
    next r named =>
      obtain ⟨t, ended, same⟩ := Option.map_eq_some_iff.1 read
      obtain ⟨rfl, rfl⟩ := Prod.mk.inj same
      obtain ⟨o, same, whole⟩ := exists_of_readAttributes r
      refine ⟨o, same, ?_⟩
      rw [after?_eq_some_iff.1 named, whole, after?_eq_some_iff.1 ended, print]
      simp only [List.append_assoc]
  · rintro ⟨o, rfl, rfl⟩
    have named : after? ('<' :: kind.tag) (o.print kind ++ rest) =
        some (o.attributes.flatMap AttributeLayout.print ++ (o.gap.content ++ '>' :: rest)) := by
      rw [after?_eq_some_iff, print]
      simp only [List.append_assoc, List.cons_append, List.nil_append]
    simp only [named, readAttributes_print, after?, if_pos, Option.map_some, toAttributes]

end OpeningLayout

end TemplateMarkup
