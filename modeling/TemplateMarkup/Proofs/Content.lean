import TemplateMarkup.Proofs.Links

/-!
# Content

What an element holds, text included, and how each event changes it. A start adds to the element
around it, text to the innermost open one, and an end may take a last space away.
-/

namespace TemplateMarkup

namespace Template

def content (t : Template) (id : Nat) : List Child :=
  ((t.get? id).map (·.children)).getD []

variable (t : Template) {e : Element} {id : Nat} (i : Nat)

theorem content_of_get? (found : t.get? id = some e) : t.content id = e.children := by
  rw [content, found]
  rfl

theorem content_eq_nil (outside : t.size ≤ i) : t.content i = [] := by
  rw [content, t.get?_eq_none i outside]
  rfl

/-- An element is what it was when it started, what it holds now, and its else branch. -/
theorem get?_of_bare? {t' : Template} (found : t.get? id = some e)
    (same : t'.bare? id = t.bare? id) :
    t'.get? id =
      some { e with children := t'.content id, elseBranch := t'.elseBranch? id } := by
  rw [bare?, bare?, found] at same
  obtain ⟨e', there, settled⟩ := Option.map_eq_some_iff.1 same
  rw [content_of_get? t' there, elseBranch?, there, Option.bind_some]
  calc some e'
      = some { e'.bare with children := e'.children, elseBranch := e'.elseBranch } := rfl
    _ = some { e with children := e'.children, elseBranch := e'.elseBranch } := by
        rw [settled]
        rfl

theorem elseBranch?_of_get? (found : t.get? id = some e) : t.elseBranch? id = e.elseBranch := by
  rw [elseBranch?, found]
  rfl

theorem content_modify (inside : id < t.size) (change : List Child → List Child) :
    (t.modify id fun e => { e with children := change e.children }).content i =
      if id = i then change (t.content i) else t.content i := by
  unfold content
  rw [get?_modify]
  split
  next same =>
    subst same
    obtain ⟨e, found⟩ := exists_get?_of_lt inside
    simp [found]
  · rfl

theorem content_modify_of_keeps {f : Element → Element} (keeps : ∀ e, (f e).children = e.children) :
    (t.modify id f).content i = t.content i := by
  unfold content
  rw [map_get?_modify t id i keeps]

theorem content_add (empty : e.children = []) : (t.add e).content i = t.content i := by
  unfold content
  rw [get?_add]
  split
  next last =>
    rw [last, t.get?_eq_none t.size (Nat.le_refl _)]
    simp [empty]
  · rfl

end Template

namespace Builder

open Template

section Link

variable {t : Template} {e : Element} (i : Nat)

theorem content_linkElse (parent id : Nat) (tag : Text) :
    (linkElse t parent id tag).1.content i = t.content i := by
  rw [linkElse]
  split
  · rfl
  · split
    · exact t.content_modify_of_keeps i fun _ => rfl
    · rfl

/-- Linking the newest element adds it to what its parent holds, if it is to be a child. -/
theorem content_link (empty : e.children = []) (inside : ∀ p, e.parent = some p → p < t.size) :
    (link (t.add e) t.size e).1.content i =
      t.content i ++ if e.isChildOf i then [.element t.size] else [] := by
  have added := t.content_add i empty
  rw [link]
  split
  next atTop => simp [added, Element.isChildOf, atTop]
  next parent within =>
    by_cases forbidden : e.forbidden = true
    · simp [added, Element.isChildOf, forbidden]
    rw [if_neg forbidden]
    by_cases isElse : e.isElse = true
    · rw [if_pos isElse, content_linkElse, added]
      simp [Element.isChildOf, isElse]
    · have inside : parent < (t.add e).size := by
        rw [size_add]
        exact Nat.lt_succ_of_lt (inside parent within)
      have linked := content_modify (t.add e) i inside fun children =>
        children ++ [.element t.size]
      rw [if_neg isElse, linked, added]
      by_cases same : parent = i <;> simp [Element.isChildOf, within, forbidden, isElse, same]

end Link

variable {b : Builder} (sound : b.Sound) (settings : Settings) (d : Delimiters) (i : Nat)

include sound

theorem content_start (name : Text) (attributes : List Attribute) (isVoid : Bool) :
    (b.start settings d name attributes isVoid).1.template.content i =
      b.template.content i ++
        if (b.makeElement settings d name attributes).1.isChildOf i then
          [.element b.template.size]
        else [] := by
  obtain ⟨-, empty, -⟩ := b.makeElement_links settings d name attributes
  rw [start_template]
  exact content_link i empty fun p => sound.parent_lt settings d name attributes

theorem content_finish :
    b.finish.template.content i =
      if b.openIds.head? = some i then dropTrailingSpace (b.template.content i)
      else b.template.content i := by
  rw [finish]
  split
  next none => simp [none]
  next id openIds isOpen =>
    have inside : id < b.template.size := sound.open_lt id (by simp [isOpen])
    rw [content_modify b.template i inside dropTrailingSpace, isOpen]
    simp only [List.head?_cons, Option.some.injEq]

/-- Text goes to the innermost open element. -/
theorem content_text {e : Element} (innermost : b.openIds.head? = some i)
    (found : b.template.get? i = some e) (s : Text) :
    (b.text settings d s).1.template.content i =
      b.template.content i ++
        if keptText settings e s ≠ [] then [textChild d b.inRawRegion (keptText settings e s)]
        else [] := by
  obtain ⟨openIds, isOpen⟩ := List.head?_eq_some_iff.1 innermost
  have inside : i < b.template.size := sound.open_lt i (by simp [isOpen])
  simp only [text, isOpen, found, Option.map_some, Option.getD_some]
  split
  next nothing => simp [nothing]
  next something =>
    dsimp only
    have added := content_modify b.template i inside fun children =>
      children ++ [textChild d b.inRawRegion (keptText settings e s)]
    rw [added, if_pos rfl]

/-- All other elements hold what they did. -/
theorem content_text_of_ne (elsewhere : b.openIds.head? ≠ some i) (s : Text) :
    (b.text settings d s).1.template.content i = b.template.content i := by
  rw [text]
  split
  next outside =>
    rw [textOutside]
    split <;> rfl
  next id openIds isOpen =>
    have inside : id < b.template.size := sound.open_lt id (by simp [isOpen])
    have other : id ≠ i := by
      rintro rfl
      exact elsewhere (by rw [isOpen, List.head?_cons])
    dsimp only
    split
    · rfl
    · dsimp only
      have added := content_modify b.template i inside fun children =>
        children ++ [textChild d b.inRawRegion
          (((b.template.get? id).map fun e => keptText settings e s).getD [])]
      rw [added, if_neg other]

end Builder

end TemplateMarkup
