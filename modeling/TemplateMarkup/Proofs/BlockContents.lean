import TemplateMarkup.Proofs.ComponentLayout

/-!
# Contents of blocks

Where the content of a block ends. The end tag that is taken is one, whatever stands before it, and
no end tag of a script or a style is passed over. The other way round the content is read whole if
nothing in it can be taken for its end: no end tag in a script or a style, and in a template none
but those of the templates in it.

Neither an end tag nor the front of an opening tag has a second angle bracket in it. So none begins
in one part of a printed block and ends in the next, which begins with such a bracket.
-/

namespace TemplateMarkup

open Text

namespace BlockKind

variable {kind : BlockKind} {g : Gap} {s rest : Text}

/-! ### End tags -/

theorem endTag_ne_nil (kind : BlockKind) (g : Gap) : kind.endTag g ≠ [] :=
  List.cons_ne_nil _ _

theorem notMem_tail_endTag (kind : BlockKind) (g : Gap) : '<' ∉ (kind.endTag g).tail := by
  have name : '<' ∉ kind.tag := by cases kind <;> decide
  have gap : '<' ∉ g.content := fun member => absurd (g.gaps '<' member) (by decide)
  simp [endTag, name, gap]

theorem afterEndTag?_eq_some_iff :
    kind.afterEndTag? s = some rest ↔ ∃ g, s = kind.endTag g ++ rest := by
  rw [afterEndTag?]
  constructor
  · intro read
    split at read
    · simp at read
    next r named =>
      obtain ⟨g, whole⟩ := exists_gap r
      refine ⟨g, ?_⟩
      rw [after?_eq_some_iff.1 named, whole, after?_eq_some_iff.1 read, endTag]
      simp only [List.append_assoc]
  · rintro ⟨g, rfl⟩
    have named : after? ('<' :: '/' :: kind.tag) (kind.endTag g ++ rest) =
        some (g.content ++ '>' :: rest) := by
      rw [after?_eq_some_iff, endTag]
      simp only [List.append_assoc, List.cons_append, List.nil_append]
    have solid : isGap '>' = false := rfl
    simp only [named, skipGap_append, skipGap_cons solid, after?, if_pos]

theorem isSome_afterEndTag? :
    (kind.afterEndTag? s).isSome = true ↔ ∃ g, kind.endTag g <+: s := by
  rw [Option.isSome_iff_exists]
  constructor
  · rintro ⟨rest, read⟩
    obtain ⟨g, rfl⟩ := afterEndTag?_eq_some_iff.1 read
    exact ⟨g, List.prefix_append _ _⟩
  · rintro ⟨g, rest, rfl⟩
    exact ⟨rest, afterEndTag?_eq_some_iff.2 ⟨g, rfl⟩⟩

theorem not_hasEndTag_nil (kind : BlockKind) : ¬ kind.HasEndTag [] := by
  rintro ⟨g, occurs⟩
  exact kind.endTag_ne_nil g (List.infix_nil.1 occurs)

theorem hasEndTag_cons_iff {c : Char} :
    kind.HasEndTag (c :: s) ↔ (kind.afterEndTag? (c :: s)).isSome = true ∨ kind.HasEndTag s := by
  rw [isSome_afterEndTag?, HasEndTag, HasEndTag, ← exists_or]
  exact exists_congr fun g => List.infix_cons_iff

/-- An end tag in front of a bracket begins and ends there. -/
theorem isSome_afterEndTag?_append {c : Char} {front : Text} (rest : Text) :
    (kind.afterEndTag? (c :: front ++ '<' :: rest)).isSome = true ↔
      (kind.afterEndTag? (c :: front)).isSome = true := by
  simp only [isSome_afterEndTag?]
  refine exists_congr fun g => ⟨fun occurs => ?_, fun occurs => ?_⟩
  · exact prefix_of_prefix_append (List.cons_ne_nil c front) (kind.notMem_tail_endTag g) occurs
  · exact occurs.trans (List.prefix_append _ _)

/-! ### The first end tag -/

/-- The first end tag is one, and there is none in front of it. -/
theorem exists_of_firstEnd? {place : Text} (found : kind.firstEnd? s = some place) :
    ∃ before g rest, s = before ++ place ∧ place = kind.endTag g ++ rest ∧
      ¬ kind.HasEndTag before := by
  induction s with
  | nil => simp [firstEnd?] at found
  | cons c s ih =>
      rw [firstEnd?] at found
      split at found
      next here =>
        obtain ⟨rest, read⟩ := Option.isSome_iff_exists.1 here
        obtain ⟨g, whole⟩ := afterEndTag?_eq_some_iff.1 read
        obtain rfl := Option.some.inj found
        exact ⟨[], g, rest, rfl, whole, kind.not_hasEndTag_nil⟩
      next later =>
        obtain ⟨before, g, rest, rfl, same, unended⟩ := ih found
        refine ⟨c :: before, g, rest, rfl, same, fun ended => ?_⟩
        rcases hasEndTag_cons_iff.1 ended with here | ended
        · rw [same, endTag, List.cons_append, List.cons_append, List.cons_append] at later
          exact later ((isSome_afterEndTag?_append _).2 here)
        · exact unended ended

theorem isSome_firstEnd? : (kind.firstEnd? s).isSome = true ↔ kind.HasEndTag s := by
  induction s with
  | nil => simp [firstEnd?, not_hasEndTag_nil]
  | cons c s ih =>
      rw [firstEnd?, hasEndTag_cons_iff, ← ih]
      split
      next here => simp [here]
      next later => simp [later]

instance : Decidable (kind.HasEndTag s) :=
  decidable_of_iff _ isSome_firstEnd?

/-- Text without an end tag is passed over. -/
theorem firstEnd?_append (unended : ¬ kind.HasEndTag s) (g : Gap) (rest : Text) :
    kind.firstEnd? (s ++ (kind.endTag g ++ rest)) = some (kind.endTag g ++ rest) := by
  have bracket : kind.endTag g ++ rest =
      '<' :: ('/' :: kind.tag ++ g.content ++ ['>'] ++ rest) := rfl
  induction s with
  | nil =>
      have here : (kind.afterEndTag? (kind.endTag g ++ rest)).isSome = true :=
        isSome_afterEndTag?.2 ⟨g, List.prefix_append _ _⟩
      rw [bracket] at here ⊢
      rw [List.nil_append, firstEnd?, if_pos here]
  | cons c s ih =>
      rw [hasEndTag_cons_iff, not_or, ← isSome_afterEndTag?_append _, ← bracket] at unended
      rw [List.cons_append] at unended ⊢
      rw [firstEnd?, if_neg unended.1, ih unended.2]

end BlockKind

/-! ### Nested templates -/

open BlockKind

variable {s rest : Text}

instance : Decidable (HasNoTemplate s) :=
  inferInstanceAs (Decidable (_ ∧ _))

/-- Every place that is found is an end tag of a template. -/
theorem exists_of_mem_templateEnds {wanted : Nat} {place : Text}
    (found : place ∈ templateEnds wanted s) :
    place <:+ s ∧ ∃ g rest, place = template.endTag g ++ rest := by
  fun_induction templateEnds wanted s with
  | case1 => simp at found
  | case2 => simp at found
  | case3 => simp at found
  | case4 n c s r named inside inner cut _ =>
      obtain ⟨within, swallowed, rfl⟩ := List.mem_map.1 found
      obtain ⟨before, g, rest, whole, rfl, -⟩ := exists_of_firstEnd? (Option.mem_toList.1 swallowed)
      refine ⟨⟨"<template".toList ++ before, ?_⟩, g, rest ++ inner, List.append_assoc _ _ _⟩
      rw [after?_eq_some_iff.1 named, append_of_cut? cut, whole]
      simp only [List.append_assoc]
  | case5 n c s r named inside inner cut first outer ends ih =>
      obtain ⟨within, isEnd⟩ := ih (by rw [ends]; exact List.mem_cons_of_mem first found)
      refine ⟨within.trans ⟨"<template".toList ++ inside ++ ['>'], ?_⟩, isEnd⟩
      rw [after?_eq_some_iff.1 named, append_of_cut? cut]
      simp only [List.append_assoc]
  | case6 n c s _ rest read ih =>
      obtain ⟨g, whole⟩ := afterEndTag?_eq_some_iff.1 read
      rcases List.mem_cons.1 found with rfl | found
      · exact ⟨List.suffix_rfl, g, rest, whole⟩
      · obtain ⟨within, isEnd⟩ := ih found
        exact ⟨within.trans ⟨template.endTag g, whole.symm⟩, isEnd⟩
  | case7 n c s _ _ ih =>
      obtain ⟨within, isEnd⟩ := ih found
      exact ⟨within.trans (List.suffix_cons c s), isEnd⟩

/-- An end tag is taken for the innermost template that is open. -/
theorem templateEnds_endTag (n : Nat) (g : Gap) (rest : Text) :
    templateEnds (n + 1) (template.endTag g ++ rest) =
      (template.endTag g ++ rest) :: templateEnds n rest := by
  have read : template.afterEndTag? (template.endTag g ++ rest) = some rest :=
    afterEndTag?_eq_some_iff.2 ⟨g, rfl⟩
  have bracket : template.endTag g ++ rest =
      '<' :: ('/' :: template.tag ++ g.content ++ ['>'] ++ rest) := rfl
  rw [bracket] at read ⊢
  rw [templateEnds]
  split
  next r named => simp [after?] at named
  next => split <;> simp_all

/-- A nested template takes the first of the end tags behind it. If there is none, its opening tag
is text, and an end tag in that text may be taken for a template further out. -/
theorem templateEnds_opening (n : Nat) {inside : Text} (unended : '>' ∉ inside) (inner : Text) :
    templateEnds (n + 1) ("<template".toList ++ (inside ++ '>' :: inner)) =
      match templateEnds (n + 2) inner with
      | [] => (endTagWithin? inside).toList.map (· ++ inner)
      | _ :: outer => outer := by
  have named := after?_append "<template".toList (inside ++ '>' :: inner)
  have cut := cut?_of_notMem unended inner
  have bracket : "<template".toList ++ (inside ++ '>' :: inner) =
      '<' :: ("template".toList ++ (inside ++ '>' :: inner)) := rfl
  rw [bracket] at named ⊢
  rw [templateEnds]
  split
  next r found =>
    obtain rfl := Option.some.inj (named.symm.trans found)
    split
    next uncut => simp [cut] at uncut
    next inside' inner' cut' =>
      obtain ⟨rfl, rfl⟩ := Prod.mk.inj (Option.some.inj (cut.symm.trans cut'))
      rfl
  next unnamed => exact absurd (named.symm.trans unnamed) (Option.some_ne_none _)

/-- A character that begins no tag of a template is passed over. -/
theorem templateEnds_cons (n : Nat) {c : Char}
    (unnamed : after? "<template".toList (c :: s) = none)
    (unread : template.afterEndTag? (c :: s) = none) :
    templateEnds (n + 1) (c :: s) = templateEnds (n + 1) s := by
  rw [templateEnds]
  split
  next r named => exact absurd (named.symm.trans unnamed) (Option.some_ne_none r)
  next =>
    split
    next rest read => exact absurd (read.symm.trans unread) (Option.some_ne_none rest)
    next => rfl

/-- Where no opening tag of a template begins, none does with a bracket behind. -/
theorem after?_template_append {c : Char} (unopened : ¬ "<template".toList <+: c :: s)
    (rest : Text) : after? "<template".toList (c :: s ++ '<' :: rest) = none :=
  after?_eq_none_iff.2 fun occurs =>
    unopened (prefix_of_prefix_append (List.cons_ne_nil c s) (by decide) occurs)

/-- Text without templates is passed over. -/
theorem templateEnds_append_of_plain (n : Nat) (plain : HasNoTemplate s) :
    templateEnds (n + 1) (s ++ '<' :: rest) = templateEnds (n + 1) ('<' :: rest) := by
  induction s with
  | nil => rfl
  | cons c s ih =>
      obtain ⟨unopened, unended⟩ := plain
      rw [List.infix_cons_iff, not_or] at unopened
      rw [hasEndTag_cons_iff, not_or, ← isSome_afterEndTag?_append rest] at unended
      have unnamed := after?_template_append unopened.1 rest
      have unread := Option.not_isSome_iff_eq_none.1 unended.1
      rw [List.cons_append] at unnamed unread ⊢
      rw [templateEnds_cons n unnamed unread]
      exact ih ⟨unopened.2, unended.2⟩

/-- Balanced text is passed over. -/
theorem templateEnds_append_of_balanced (balanced : Balanced s) (n : Nat) (rest : Text) :
    templateEnds (n + 1) (s ++ '<' :: rest) = templateEnds (n + 1) ('<' :: rest) := by
  induction balanced generalizing n rest with
  | plain plain => exact templateEnds_append_of_plain n plain
  | @nested s inside content outside g plain unended inner outer ihInner ihOuter =>
      have ends : templateEnds (n + 2)
          (content ++ (template.endTag g ++ (outside ++ '<' :: rest))) =
          (template.endTag g ++ (outside ++ '<' :: rest)) ::
            templateEnds (n + 1) (outside ++ '<' :: rest) := by
        rw [← templateEnds_endTag]
        exact ihInner (n + 1) _
      have opened := templateEnds_opening n unended
        (content ++ (template.endTag g ++ (outside ++ '<' :: rest)))
      rw [ends] at opened
      dsimp only at opened
      have whole : s ++ "<template".toList ++ inside ++ '>' :: content ++ template.endTag g ++
          outside ++ '<' :: rest = s ++ ("<template".toList ++ (inside ++ '>' :: (content ++
            (template.endTag g ++ (outside ++ '<' :: rest))))) := by
        simp only [List.append_assoc, List.cons_append]
      rw [whole, ← ihOuter n rest, ← opened]
      exact templateEnds_append_of_plain n plain

namespace BlockKind

variable {kind : BlockKind} {content : Text}

/-! ### Contents -/

/-- The content at the front has an end tag behind it. -/
theorem exists_of_readContent? (read : kind.readContent? s = some (content, rest)) :
    ∃ g, s = content ++ (kind.endTag g ++ rest) ∧
      (kind ≠ .template → ¬ kind.HasEndTag content) := by
  rw [readContent?] at read
  split at read
  · simp at read
  next place found =>
    obtain ⟨behind, ended, same⟩ := Option.map_eq_some_iff.1 read
    obtain ⟨taken, rfl⟩ := Prod.mk.inj same
    obtain ⟨g, isEnd⟩ := afterEndTag?_eq_some_iff.1 ended
    have split : ∃ before, s = before ++ place ∧
        (kind ≠ .template → ¬ kind.HasEndTag before) := by
      cases kind with
      | template =>
          obtain ⟨⟨before, whole⟩, -⟩ :=
            exists_of_mem_templateEnds (List.mem_of_mem_head? found)
          exact ⟨before, whole.symm, fun other => absurd rfl other⟩
      | script =>
          obtain ⟨before, _, _, whole, -, unended⟩ := exists_of_firstEnd? found
          exact ⟨before, whole, fun _ => unended⟩
      | style =>
          obtain ⟨before, _, _, whole, -, unended⟩ := exists_of_firstEnd? found
          exact ⟨before, whole, fun _ => unended⟩
    obtain ⟨before, rfl, unended⟩ := split
    rw [List.length_append, Nat.add_sub_cancel, List.take_left] at taken
    subst taken
    exact ⟨g, by rw [isEnd], unended⟩

/-- Content is read whole if nothing in it ends it. -/
theorem readContent?_append (unended : kind ≠ .template → ¬ kind.HasEndTag content)
    (balanced : kind = .template → Balanced content) (g : Gap) (rest : Text) :
    kind.readContent? (content ++ (kind.endTag g ++ rest)) = some (content, rest) := by
  have found : kind.contentEnd? (content ++ (kind.endTag g ++ rest)) =
      some (kind.endTag g ++ rest) := by
    cases kind with
    | template =>
        have passed := templateEnds_append_of_balanced (balanced rfl) 0
          ('/' :: template.tag ++ g.content ++ ['>'] ++ rest)
        have ends := passed.trans (templateEnds_endTag 0 g rest)
        exact congrArg List.head? ends
    | script => exact firstEnd?_append (unended (by decide)) g rest
    | style => exact firstEnd?_append (unended (by decide)) g rest
  have read : kind.afterEndTag? (kind.endTag g ++ rest) = some rest :=
    afterEndTag?_eq_some_iff.2 ⟨g, rfl⟩
  simp only [readContent?, found, read, Option.map_some, List.length_append, Nat.add_sub_cancel,
    List.take_left]

end BlockKind

end TemplateMarkup
