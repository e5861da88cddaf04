import TemplateMarkup.Proofs.ComponentFiles

/-!
# Templates that are not closed

The content of a template may hold opening tags without end tags. Whether the block can be read then
does not depend on what the tags are called: `<template` opens a template as soon as a closing
bracket follows anywhere in the content, and what it opens takes the end tag of the block. So an
element with a longer name is enough to make the whole file unreadable, although the opening tag of
a block and all end tags have to carry the name itself.
-/

namespace TemplateMarkup

open Text BlockKind

variable {s : Text}

/-- Somewhere in the text `<template` has a closing bracket behind it. What stands between the two
does not matter. -/
def OpensTemplate (s : Text) : Prop :=
  ∃ rest, "<template".toList ++ rest <:+ s ∧ '>' ∈ rest

theorem not_opensTemplate_nil : ¬ OpensTemplate [] := by
  rintro ⟨rest, within, -⟩
  exact List.cons_ne_nil _ _ (List.suffix_nil.1 within)

theorem OpensTemplate.cons (opens : OpensTemplate s) (c : Char) : OpensTemplate (c :: s) := by
  obtain ⟨rest, within, closed⟩ := opens
  exact ⟨rest, within.trans (List.suffix_cons c s), closed⟩

/-- Where no opening tag begins, only the text behind can open a template. -/
theorem OpensTemplate.tail {c : Char} (opens : OpensTemplate (c :: s))
    (unopened : ¬ "<template".toList <+: c :: s) : OpensTemplate s := by
  obtain ⟨rest, within, closed⟩ := opens
  rcases List.suffix_cons_iff.1 within with whole | within
  · exact absurd ⟨rest, whole⟩ unopened
  · exact ⟨rest, within, closed⟩

/-- Where an opening tag begins, it opens a template if any tag behind it does. -/
theorem opensTemplate_opening {rest : Text} :
    OpensTemplate ("<template".toList ++ rest) ↔ '>' ∈ rest := by
  constructor
  · rintro ⟨later, within, closed⟩
    have inside : '>' ∈ "<template".toList ++ rest :=
      within.subset (List.mem_append_right _ closed)
    rcases List.mem_append.1 inside with named | behind
    · exact absurd named (by decide)
    · exact behind
  · intro closed
    exact ⟨rest, List.suffix_rfl, closed⟩

namespace BlockKind

variable {kind : BlockKind}

theorem HasEndTag.mono {t : Text} (ended : kind.HasEndTag s) (within : s <:+: t) :
    kind.HasEndTag t := by
  obtain ⟨g, occurs⟩ := ended
  exact ⟨g, occurs.trans within⟩

/-- The bracket at its end is the only one in an end tag. -/
theorem exists_endTag_eq (kind : BlockKind) (g : Gap) :
    ∃ front, kind.endTag g = front ++ ['>'] ∧ '>' ∉ front := by
  have name : '>' ∉ kind.tag := by cases kind <;> decide
  have gap : '>' ∉ g.content := fun member => absurd (g.gaps '>' member) (by decide)
  exact ⟨'<' :: '/' :: kind.tag ++ g.content, rfl, by simp [name, gap]⟩

/-- Where no end tag begins, none does with another one behind. -/
theorem afterEndTag?_append_endTag {c : Char} (unended : ¬ kind.HasEndTag (c :: s)) (g : Gap) :
    kind.afterEndTag? (c :: s ++ kind.endTag g) = none := by
  rw [hasEndTag_cons_iff, not_or] at unended
  refine Option.not_isSome_iff_eq_none.1 fun read => unended.1 ?_
  exact (isSome_afterEndTag?_append _).1 read

end BlockKind

/-! ### End tags behind a text -/

/-- Text that opens no template leaves the end tag behind it to the block. An opening tag that lacks
its bracket runs into the end tag, and gives it back. -/
theorem templateEnds_endTag_of_unopened (unended : ¬ template.HasEndTag s)
    (unopened : ¬ OpensTemplate s) (n : Nat) (g : Gap) :
    templateEnds (n + 1) (s ++ template.endTag g) = [template.endTag g] := by
  induction s with
  | nil =>
      have ends := templateEnds_endTag n g []
      rw [List.append_nil] at ends
      rw [List.nil_append, ends]
      cases n <;> rw [templateEnds]
  | cons c s ih =>
      by_cases opened : "<template".toList <+: c :: s
      · obtain ⟨rest, whole⟩ := opened
        rw [← whole] at unended unopened ⊢
        have uncut : '>' ∉ rest := fun closed => unopened (opensTemplate_opening.2 closed)
        obtain ⟨front, isEnd, unclosed⟩ := exists_endTag_eq template g
        have inside : '>' ∉ rest ++ front := by simp [uncut, unclosed]
        have swallowed : endTagWithin? (rest ++ front) = some (template.endTag g) := by
          have found := firstEnd?_append
            (fun ended => unended (ended.mono (List.suffix_append _ _).isInfix)) g []
          rwa [List.append_nil, isEnd, ← List.append_assoc, ← endTagWithin?, ← isEnd] at found
        have opening := templateEnds_opening n inside []
        rw [templateEnds, swallowed, List.append_assoc, ← isEnd] at opening
        rw [List.append_assoc, opening]
        exact congrArg ([·]) (List.append_nil _)
      · have unnamed := after?_template_append opened ('/' :: template.tag ++ g.content ++ ['>'])
        have passed := templateEnds_cons n unnamed (afterEndTag?_append_endTag unended g)
        rw [hasEndTag_cons_iff, not_or] at unended
        exact passed.trans (ih unended.2 fun opens => unopened (opens.cons c))

/-- A nested template takes an end tag from the templates around it. -/
theorem templateEnds_opening_tail (n : Nat) {inside : Text} (uncut : '>' ∉ inside)
    (unended : ¬ template.HasEndTag (inside ++ ['>'])) (inner : Text) :
    templateEnds (n + 1) ("<template".toList ++ (inside ++ '>' :: inner)) =
      (templateEnds (n + 2) inner).tail := by
  have unswallowed : endTagWithin? inside = none :=
    Option.not_isSome_iff_eq_none.1 fun found => unended (isSome_firstEnd?.1 found)
  rw [templateEnds_opening n uncut, unswallowed]
  cases templateEnds (n + 2) inner <;> rfl

/-- Text that opens a template and does not close it takes the end tag behind it, and leaves
none. -/
theorem templateEnds_endTag_of_opens {s : Text} (unended : ¬ template.HasEndTag s)
    (opens : OpensTemplate s) (n : Nat) (g : Gap) :
    templateEnds (n + 1) (s ++ template.endTag g) = [] := by
  match s with
  | [] => exact absurd opens not_opensTemplate_nil
  | c :: s =>
      by_cases opened : "<template".toList <+: c :: s
      · obtain ⟨rest, whole⟩ := opened
        rw [← whole, opensTemplate_opening] at opens
        obtain ⟨inside, inner, rfl, uncut⟩ := List.eq_append_cons_of_mem opens
        have parts : c :: s = "<template".toList ++ (inside ++ ['>']) ++ inner := by
          rw [← whole]
          simp only [List.append_assoc, List.singleton_append]
        rw [parts] at unended
        have unendedTag : ¬ template.HasEndTag (inside ++ ['>']) := fun ended =>
          unended (ended.mono ⟨_, _, rfl⟩)
        have unendedInner : ¬ template.HasEndTag inner := fun ended =>
          unended (ended.mono (List.suffix_append _ _).isInfix)
        have opening := templateEnds_opening_tail n uncut unendedTag (inner ++ template.endTag g)
        rw [← whole, List.append_assoc, List.append_assoc, List.cons_append, opening]
        by_cases again : OpensTemplate inner
        · have shorter : inner.length < (c :: s).length := by
            rw [parts]
            simp only [List.length_append, List.length_singleton]
            omega
          rw [templateEnds_endTag_of_opens unendedInner again (n + 1) g, List.tail_nil]
        · rw [templateEnds_endTag_of_unopened unendedInner again (n + 1) g, List.tail_cons]
      · have unnamed := after?_template_append opened ('/' :: template.tag ++ g.content ++ ['>'])
        have passed := templateEnds_cons n unnamed (afterEndTag?_append_endTag unended g)
        have unendedTail : ¬ template.HasEndTag s := fun ended =>
          unended (ended.mono (List.suffix_cons c s).isInfix)
        exact passed.trans (templateEnds_endTag_of_opens unendedTail (opens.tail opened) n g)
termination_by s.length
decreasing_by
  · exact shorter
  · exact Nat.lt_succ_self s.length

namespace BlockKind

variable {content : Text}

/-- The content of a template that opens none is read whole. -/
theorem readContent?_of_unopened (unended : ¬ template.HasEndTag content)
    (unopened : ¬ OpensTemplate content) (g : Gap) :
    template.readContent? (content ++ template.endTag g) = some (content, []) := by
  have ends := templateEnds_endTag_of_unopened unended unopened 0 g
  have read : template.afterEndTag? (template.endTag g) = some [] :=
    afterEndTag?_eq_some_iff.2 ⟨g, (List.append_nil _).symm⟩
  simp only [readContent?, contentEnd?, ends, List.head?_cons, read, Option.map_some,
    List.length_append, Nat.add_sub_cancel, List.take_left]

/-- There is nothing to read where the content opens a template that is not closed. -/
theorem readContent?_of_opens (unended : ¬ template.HasEndTag content)
    (opens : OpensTemplate content) (g : Gap) :
    template.readContent? (content ++ template.endTag g) = none := by
  have ends := templateEnds_endTag_of_opens unended opens 0 g
  simp only [readContent?, contentEnd?, ends, List.head?_nil]

end BlockKind

/-! ### Component files -/

theorem blocks?_eq {source : Text} (nonempty : skipFiller source ≠ []) :
    blocks? source = (Block.read? (skipFiller source)).bind fun (b, rest) =>
      (blocks? rest).map (b :: ·) := by
  rw [blocks?, if_neg nonempty]
  split
  next unread => rw [unread, Option.bind_none]
  next b rest read => rw [read, Option.bind_some]

/-- A file that is one block is read if the content of the block is. -/
theorem BlockLayout.blocks?_print (l : BlockLayout) :
    blocks? l.print =
      (l.kind.readContent? (l.content ++ l.kind.endTag l.endGap)).bind fun (content, rest) =>
        (blocks? rest).map (⟨l.kind, l.opening.toAttributes, content⟩ :: ·) := by
  have skipped := l.skipFiller_print []
  have nonempty := l.print_ne_nil []
  have read := (l.read?_print_eq []).trans (l.readOf?_print_eq [])
  rw [← skipped] at nonempty
  simp only [List.append_nil] at skipped nonempty read
  rw [blocks?_eq nonempty, skipped, read]
  cases l.kind.readContent? (l.content ++ l.kind.endTag l.endGap) <;> rfl

/-- A file that is one template without a nested end tag can be read exactly if nothing in the
template opens another one. Then the content is taken as it stands, and otherwise there is no
component at all. -/
theorem ofText?_unclosedTemplates (opening : OpeningLayout) (g : Gap) {body : Text}
    (unended : ¬ template.HasEndTag body) :
    let source := opening.print .template ++ body ++ template.endTag g
    (¬ OpensTemplate body → Component.ofText? source = .ok
      { template := some ⟨.template, opening.toAttributes, body⟩, script := none, styles := [] }) ∧
    (OpensTemplate body → Component.ofText? source = .error (.ofSource source)) := by
  intro source
  have read := BlockLayout.blocks?_print ⟨.template, opening, body, absurd rfl, g⟩
  rw [Component.ofText?]
  constructor
  · intro unopened
    have ended : blocks? [] = some [] := by rw [blocks?, skipFiller_eq]; rfl
    have blocks : blocks? source = some [⟨.template, opening.toAttributes, body⟩] := by
      rw [readContent?_of_unopened unended unopened, Option.bind_some] at read
      dsimp only at read
      rw [ended] at read
      exact read
    rw [blocks]
    rfl
  · intro opens
    have blocks : blocks? source = none := by
      rw [readContent?_of_opens unended opens] at read
      exact read
    rw [blocks]

/-- An element whose name is only longer than `template` takes the end tag of the block. -/
theorem ofText?_unclosedTemplates_longerName :
    let source := "<template><templates></templates></template>".toList
    Component.ofText? source = .error (.ofSource source) := by
  intro source
  let body := "<templates></templates>".toList
  let tight : Gap := ⟨[], List.all_eq_true.1 rfl⟩
  have unended : ¬ template.HasEndTag body := by decide +kernel
  have opens : OpensTemplate body :=
    ⟨"s></templates>".toList, List.suffix_rfl, by decide⟩
  exact (ofText?_unclosedTemplates ⟨[], tight⟩ tight unended).2 opens

end TemplateMarkup
