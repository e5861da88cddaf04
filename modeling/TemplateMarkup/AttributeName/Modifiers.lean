import TemplateMarkup.Text.Basic

/-!
# Modifiers

The flags behind a directive's name form a set: they are kept without repetition and in ascending
order, so sets with the same members are equal.
-/

namespace TemplateMarkup

/-- A set of flags. -/
structure Modifiers where
  /-- The flags in ascending order. -/
  names : List Text
  /-- The flags ascend, so none is repeated. -/
  sorted : names.Pairwise (· < ·)
deriving DecidableEq

namespace Modifiers

/-- Inserts a flag into an ascending list, unless it is there. -/
def insertSorted (name : Text) : List Text → List Text
  | [] => [name]
  | x :: l =>
    if name < x then name :: x :: l
    else if name = x then x :: l
    else x :: insertSorted name l

@[simp] theorem mem_insertSorted {name x : Text} {l : List Text} :
    x ∈ insertSorted name l ↔ x = name ∨ x ∈ l := by
  induction l with
  | nil => simp [insertSorted]
  | cons y l ih =>
    simp only [insertSorted]
    split
    · simp
    · split
      next h => subst h; simp
      next => simp only [List.mem_cons, ih, or_left_comm]

theorem sorted_insertSorted {name : Text} {l : List Text} (h : l.Pairwise (· < ·)) :
    (insertSorted name l).Pairwise (· < ·) := by
  induction l with
  | nil => simp [insertSorted]
  | cons y l ih =>
    obtain ⟨hy, hl⟩ := List.pairwise_cons.1 h
    simp only [insertSorted]
    split
    next hlt =>
      refine List.pairwise_cons.2 ⟨fun x hx => ?_, h⟩
      rcases List.mem_cons.1 hx with rfl | hx
      · exact hlt
      · exact List.lt_trans hlt (hy x hx)
    next hnlt =>
      split
      · exact h
      next hne =>
        refine List.pairwise_cons.2 ⟨fun x hx => ?_, ih hl⟩
        rcases mem_insertSorted.1 hx with rfl | hx
        · refine Decidable.byContradiction fun hyx => hne ?_
          exact List.le_antisymm (List.not_lt.1 hyx) (List.not_lt.1 hnlt)
        · exact hy x hx

def empty : Modifiers := ⟨[], List.Pairwise.nil⟩

instance : EmptyCollection Modifiers := ⟨empty⟩

def insert (m : Modifiers) (name : Text) : Modifiers :=
  ⟨insertSorted name m.names, sorted_insertSorted m.sorted⟩

def ofList (l : List Text) : Modifiers :=
  l.foldl insert ∅

def size (m : Modifiers) : Nat := m.names.length

def isEmpty (m : Modifiers) : Bool := m.names.isEmpty

def contains (m : Modifiers) (name : Text) : Bool := m.names.contains name

@[simp] theorem mem_names_insert {m : Modifiers} {name x : Text} :
    x ∈ (m.insert name).names ↔ x = name ∨ x ∈ m.names := mem_insertSorted

@[simp] theorem mem_names_ofList {l : List Text} {x : Text} : x ∈ (ofList l).names ↔ x ∈ l := by
  have inserted : ∀ m : Modifiers, x ∈ (l.foldl insert m).names ↔ x ∈ m.names ∨ x ∈ l := by
    induction l with
    | nil => simp
    | cons name l ih =>
      intro m
      rw [List.foldl_cons, ih, mem_names_insert, List.mem_cons, or_left_comm, or_assoc]
  rw [ofList, inserted]
  exact or_iff_right List.not_mem_nil

end Modifiers

end TemplateMarkup
