import TemplateMarkup.Proofs.BlockContents
import TemplateMarkup.Proofs.OpeningTags

/-!
# Component files

Splitting a component file is sound and complete. What is read is a printed layout, and the
component is what the blocks of the layout say: nothing of the file is passed over but filler. The
other way round every layout is read back, as long as its templates are balanced.
-/

namespace TemplateMarkup

open Text

/-! ### Blocks -/

namespace BlockKind

/-- No tag of a block is the front of another one. -/
theorem after?_tag_of_ne {kind other : BlockKind} (different : kind ≠ other) (rest : Text) :
    after? kind.tag (other.tag ++ rest) = none := by
  cases kind with
  | template => cases other with
    | template => exact absurd rfl different
    | script => rfl
    | style => rfl
  | script => cases other with
    | template => rfl
    | script => exact absurd rfl different
    | style => rfl
  | style => cases other with
    | template => rfl
    | script => rfl
    | style => exact absurd rfl different

/-- The tag of a block begins no comment. -/
theorem exists_tag_eq (kind : BlockKind) : ∃ c s, kind.tag = c :: s ∧ c ≠ '!' := by
  cases kind with
  | template => exact ⟨_, _, rfl, by decide⟩
  | script => exact ⟨_, _, rfl, by decide⟩
  | style => exact ⟨_, _, rfl, by decide⟩

end BlockKind

namespace BlockLayout

variable {s rest : Text} {b : Block}

/-- The opening tag of a block is that of no other kind. -/
theorem readOf?_print_of_ne (l : BlockLayout) {kind : BlockKind} (other : kind ≠ l.kind)
    (rest : Text) : Block.readOf? kind (l.print ++ rest) = none := by
  have unnamed (behind : Text) :
      after? ('<' :: kind.tag) ('<' :: (l.kind.tag ++ behind)) = none := by
    rw [after?, if_pos rfl, BlockKind.after?_tag_of_ne other]
  simp only [Block.readOf?, OpeningTag.read?, print, OpeningLayout.print, List.append_assoc,
    List.cons_append, unnamed]

/-- What is read of a printed block is what is read of its content. -/
theorem readOf?_print_eq (l : BlockLayout) (rest : Text) :
    Block.readOf? l.kind (l.print ++ rest) =
      (l.kind.readContent? (l.content ++ (l.kind.endTag l.endGap ++ rest))).map
        fun (content, rest) => (⟨l.kind, l.opening.toAttributes, content⟩, rest) := by
  have opened : OpeningTag.read? l.kind (l.print ++ rest) =
      some (l.opening.toAttributes, l.content ++ (l.kind.endTag l.endGap ++ rest)) := by
    refine OpeningLayout.read?_eq_some_iff.2 ⟨l.opening, rfl, ?_⟩
    simp only [print, List.append_assoc]
  simp only [Block.readOf?, opened]

/-- A printed block is read whole if nothing in its content ends it. -/
theorem readOf?_print (l : BlockLayout) (balanced : l.kind = .template → Balanced l.content)
    (rest : Text) : Block.readOf? l.kind (l.print ++ rest) = some (l.block, rest) := by
  have content := BlockKind.readContent?_append l.unended balanced l.endGap rest
  rw [readOf?_print_eq, content, Option.map_some, block]

/-- A printed block is read as one of its own kind. -/
theorem read?_print_eq (l : BlockLayout) (rest : Text) :
    Block.read? (l.print ++ rest) = Block.readOf? l.kind (l.print ++ rest) := by
  have unread (kind : BlockKind) (other : kind ≠ l.kind) := l.readOf?_print_of_ne other rest
  rw [Block.read?, BlockKind.all]
  cases named : l.kind with
  | template =>
      rw [named] at unread
      simp only [List.findSome?_cons, List.findSome?_nil, unread .script (by decide),
        unread .style (by decide)]
      cases Block.readOf? .template (l.print ++ rest) <;> rfl
  | script =>
      rw [named] at unread
      simp only [List.findSome?_cons, List.findSome?_nil, unread .template (by decide),
        unread .style (by decide)]
      cases Block.readOf? .script (l.print ++ rest) <;> rfl
  | style =>
      rw [named] at unread
      simp only [List.findSome?_cons, List.findSome?_nil, unread .template (by decide),
        unread .script (by decide)]
      cases Block.readOf? .style (l.print ++ rest) <;> rfl

theorem read?_print (l : BlockLayout) (balanced : l.kind = .template → Balanced l.content)
    (rest : Text) : Block.read? (l.print ++ rest) = some (l.block, rest) := by
  rw [read?_print_eq, l.readOf?_print balanced]

/-- What is read as a block is written as one. -/
theorem exists_of_read? (read : Block.read? s = some (b, rest)) :
    ∃ l : BlockLayout, l.block = b ∧ s = l.print ++ rest := by
  obtain ⟨kind, -, read⟩ := List.exists_of_findSome?_eq_some read
  rw [Block.readOf?] at read
  split at read
  · simp at read
  next attributes r opened =>
    obtain ⟨⟨content, behind⟩, taken, same⟩ := Option.map_eq_some_iff.1 read
    obtain ⟨rfl, rfl⟩ := Prod.mk.inj same
    obtain ⟨o, rfl, front⟩ := OpeningLayout.read?_eq_some_iff.1 opened
    obtain ⟨g, whole, unended⟩ := BlockKind.exists_of_readContent? taken
    refine ⟨⟨kind, o, content, unended, g⟩, rfl, ?_⟩
    rw [front, whole, print]
    simp only [List.append_assoc]

/-- A block is no filler. -/
theorem skipFiller_print (l : BlockLayout) (rest : Text) :
    skipFiller (l.print ++ rest) = l.print ++ rest := by
  have solid : skipGap (l.print ++ rest) = l.print ++ rest := rfl
  have noComment : afterComment? (l.print ++ rest) = none := by
    have noMark : after? "<!--".toList (l.print ++ rest) = none := by
      obtain ⟨c, name, named, noMark⟩ := l.kind.exists_tag_eq
      simp [print, OpeningLayout.print, named, after?, noMark.symm]
    rw [afterComment?, noMark]
  rw [skipFiller_eq, solid, noComment, Option.map_none, Option.getD_none]

theorem print_ne_nil (l : BlockLayout) (rest : Text) : l.print ++ rest ≠ [] :=
  List.cons_ne_nil _ _

end BlockLayout

/-! ### Files -/

namespace FileLayout

/-- A printed file is read block by block. -/
theorem blocks?_print (file : FileLayout)
    (balanced : ∀ b ∈ file.blocks, b.kind = .template → Balanced b.content) :
    blocks? file.print = some file.blocks := by
  obtain ⟨parts, last⟩ := file
  induction parts with
  | nil =>
      have printed : print ⟨[], last⟩ = last.print ++ [] := (List.append_nil _).symm
      have ended : skipFiller (print ⟨[], last⟩) = [] := by
        rw [printed, Text.skipFiller_print, skipFiller_eq]
        rfl
      rw [blocks?, if_pos ended]
      rfl
  | cons part parts ih =>
      obtain ⟨filler, l⟩ := part
      have printed : print ⟨(filler, l) :: parts, last⟩ =
          filler.print ++ (l.print ++ print ⟨parts, last⟩) := by
        simp only [print, List.flatMap_cons, List.append_assoc]
      obtain ⟨this, others⟩ := List.forall_mem_cons.1 balanced
      have read := l.read?_print this (print ⟨parts, last⟩)
      rw [printed, blocks?, Text.skipFiller_print, l.skipFiller_print, if_neg (l.print_ne_nil _)]
      split
      next unread => simp [read] at unread
      next b rest taken =>
        obtain ⟨rfl, rfl⟩ := Prod.mk.inj (Option.some.inj (read.symm.trans taken))
        rw [ih others]
        rfl

/-- What is read as a file is written as one. -/
theorem exists_of_blocks? {source : Text} {blocks : List Block}
    (read : blocks? source = some blocks) :
    ∃ file : FileLayout, file.print = source ∧ file.blocks = blocks := by
  fun_induction blocks? source generalizing blocks with
  | case1 source ended =>
      obtain ⟨filler, whole⟩ := exists_filler source
      rw [ended, List.append_nil] at whole
      obtain rfl := Option.some.inj read
      exact ⟨⟨[], filler⟩, whole.symm, rfl⟩
  | case2 source _ unread => simp at read
  | case3 source _ b rest taken ih =>
      obtain ⟨filler, whole⟩ := exists_filler source
      obtain ⟨others, behind, rfl⟩ := Option.map_eq_some_iff.1 read
      obtain ⟨l, rfl, front⟩ := BlockLayout.exists_of_read? taken
      obtain ⟨⟨parts, last⟩, rfl, rfl⟩ := ih behind
      refine ⟨⟨(filler, l) :: parts, last⟩, ?_, rfl⟩
      rw [whole, front]
      simp only [print, List.flatMap_cons, List.append_assoc]

end FileLayout

/-! ### Components -/

theorem Attribute.isSome_firstValue? {name : Text} {attributes : List Attribute} :
    (Attribute.firstValue? name attributes).isSome = true ↔ ∃ a ∈ attributes, a.name = name := by
  simp [Attribute.firstValue?]

theorem Block.isLastOf_lastOf? (kind : BlockKind) (blocks : List Block) :
    Block.IsLastOf kind blocks (Block.lastOf? kind blocks) := by
  rw [lastOf?]
  cases last : (blocks.filter (·.kind = kind)).getLast? with
  | none =>
      intro b member same
      have empty := List.getLast?_eq_none_iff.1 last
      exact List.filter_eq_nil_iff.1 empty b member (decide_eq_true same)
  | some b =>
      obtain ⟨front, split⟩ := List.getLast?_eq_some_iff.1 last
      obtain ⟨before, behind, rfl, -, ended⟩ := List.filter_eq_append_iff.1 split
      obtain ⟨between, after, rfl, _, same, none⟩ := List.filter_eq_cons_iff.1 ended
      refine ⟨before ++ between, after, ?_, of_decide_eq_true same, fun x member other => ?_⟩
      · rw [List.append_assoc]
      · exact List.filter_eq_nil_iff.1 none x member (decide_eq_true other)

theorem Component.says_ofBlocks (blocks : List Block) :
    (Component.ofBlocks blocks).Says blocks where
  template := Block.isLastOf_lastOf? .template blocks
  script := Block.isLastOf_lastOf? .script blocks
  styles := rfl
  scopedStyles := fun _ _ => Attribute.isSome_firstValue?

/-! ### Reading and printing -/

/-- A file that can be split is a printed layout, and the component is what the blocks of the layout
say. -/
theorem exists_layout_of_ofText? {source : Text} {c : Component}
    (read : Component.ofText? source = .ok c) :
    ∃ file : FileLayout, file.print = source ∧ c.Says file.blocks := by
  obtain ⟨blocks, taken, rfl⟩ := Component.ofText?_eq_ok_iff.1 read
  obtain ⟨file, printed, rfl⟩ := FileLayout.exists_of_blocks? taken
  exact ⟨file, printed, Component.says_ofBlocks file.blocks⟩

/-- A comment, two scripts of which the last one counts, and a scoped style. -/
theorem exists_layout_of_ofText?_twoScripts :
    let source := "<!-- a --><script>x</script>\n<script b = 'c'></scrip</script >".toList ++
      "<style scoped>y</style>".toList
    let c : Component :=
      { template := none
        script := some ⟨.script, [⟨['b'], ['c']⟩], "</scrip".toList⟩
        styles := [⟨.style, [⟨"scoped".toList, []⟩], ['y']⟩] }
    Component.ofText? source = .ok c ∧
      ∃ file : FileLayout, file.print = source ∧ c.Says file.blocks := by
  intro source c
  have taken : blocks? source = some [⟨.script, [], ['x']⟩,
      ⟨.script, [⟨['b'], ['c']⟩], "</scrip".toList⟩,
      ⟨.style, [⟨"scoped".toList, []⟩], ['y']⟩] := by
    decide +kernel
  have read : Component.ofText? source = .ok c :=
    Component.ofText?_eq_ok_iff.2 ⟨_, taken, by decide⟩
  exact ⟨read, exists_layout_of_ofText? read⟩

/-- A printed file is split into its blocks if its templates are balanced. -/
theorem ofText?_print (file : FileLayout)
    (balanced : ∀ b ∈ file.blocks, b.kind = .template → Balanced b.content) :
    ∃ c, Component.ofText? file.print = .ok c ∧ c.Says file.blocks := by
  have read := file.blocks?_print balanced
  exact ⟨.ofBlocks file.blocks, Component.ofText?_eq_ok_iff.2 ⟨file.blocks, read, rfl⟩,
    Component.says_ofBlocks file.blocks⟩

/-- A template with a nested one, behind a comment, and a style whose content almost ends it. -/
theorem ofText?_print_nested :
    ∃ file : FileLayout,
      (∀ b ∈ file.blocks, b.kind = .template → Balanced b.content) ∧
      file.print = ("<!--><!-->\n<template a=\"'\" >b<template #c=\"</template\">d</template >" ++
        "</template</template><style></style</style>").toList ∧
      ∃ c, Component.ofText? file.print = .ok c ∧ c.Says file.blocks := by
  let tight : Gap := ⟨[], List.all_eq_true.1 rfl⟩
  let space : Gap := ⟨[' '], List.all_eq_true.1 rfl⟩
  let filler : Filler := [.comment "><!".toList (by decide +kernel), .gap '\n' rfl]
  let value : ValueLayout := ⟨tight, tight, '"', .inl rfl, ['\''], by decide⟩
  let a : AttributeLayout :=
    ⟨space, by decide, ['a'], ⟨'a', [], rfl, rfl, List.all_eq_true.1 rfl⟩, some value⟩
  let nested : Text := ['b'] ++ "<template".toList ++ " #c=\"</template\"".toList ++
    '>' :: ['d'] ++ BlockKind.template.endTag space ++ "</template".toList
  let template : BlockLayout :=
    ⟨.template, ⟨[a], space⟩, nested, fun other => absurd rfl other, tight⟩
  let style : BlockLayout :=
    ⟨.style, ⟨[], tight⟩, "</style".toList, fun _ => by decide, tight⟩
  let file : FileLayout := ⟨[(filler, template), ([], style)], []⟩
  have inner : Balanced ['d'] := .plain (by decide +kernel)
  have outer : Balanced "</template".toList := .plain (by decide +kernel)
  have front : HasNoTemplate ['b'] := by decide +kernel
  have content : Balanced nested := .nested front (by decide) inner outer
  have balanced : ∀ b ∈ file.blocks, b.kind = .template → Balanced b.content := by
    intro b member isTemplate
    rcases List.mem_cons.1 member with rfl | member
    · exact content
    · obtain rfl := List.mem_singleton.1 member
      exact absurd isTemplate (by decide)
  exact ⟨file, balanced, by decide +kernel, ofText?_print file balanced⟩

end TemplateMarkup
