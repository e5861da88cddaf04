import TemplateMarkup.Interpolation.Pipeline
import TemplateMarkup.Proofs.Occurrence
import TemplateMarkup.Proofs.Trimming

/-!
# Pipes

Two texts with a pipe between them are one pipeline after the other, if no quote and no bracket of
the first is open at its end. What has to be known of the first text for that is only how its scan
ends: the scan reads the text behind the pipe as if it began there, and the blanks around the pipe
belong to neither side once the stages are trimmed.
-/

namespace TemplateMarkup

open Text

namespace PipeScan

/-- What is known after a whole text. -/
def afterAll (scan : PipeScan) (s : Text) : PipeScan :=
  s.foldl after scan

@[simp] theorem afterAll_cons (scan : PipeScan) (c : Char) (s : Text) :
    scan.afterAll (c :: s) = (scan.after c).afterAll s := rfl

@[simp] theorem afterAll_append (scan : PipeScan) (s s' : Text) :
    scan.afterAll (s ++ s') = (scan.afterAll s).afterAll s' := List.foldl_append

/-- The texts around the separating pipes. -/
def pieces (scan : PipeScan) (s : Text) : List Text :=
  (scan.split s).1 :: (scan.split s).2

variable {scan : PipeScan} {c : Char} {s : Text}

theorem split_cons (scan : PipeScan) (c : Char) (s : Text) :
    scan.split (c :: s) =
      if scan.separates c s.head? then ([], (scan.after c).pieces s)
      else (c :: ((scan.after c).split s).1, ((scan.after c).split s).2) := rfl

theorem pieces_separator (separator : scan.separates c s.head? = true) :
    scan.pieces (c :: s) = [] :: (scan.after c).pieces s := by
  rw [pieces, split_cons, if_pos separator]

theorem split_of_not_separates (inside : scan.separates c s.head? = false) :
    scan.split (c :: s) = (c :: ((scan.after c).split s).1, ((scan.after c).split s).2) := by
  rw [split_cons, if_neg (by simp [inside])]

theorem pieces_of_not_separates (inside : scan.separates c s.head? = false) :
    scan.pieces (c :: s) = ((scan.after c).pieces s).modifyHead (c :: ·) := by
  rw [pieces, split_of_not_separates inside, pieces, List.modifyHead_cons]

theorem separates_of_ne (other : c ≠ '|') (scan : PipeScan) (next : Option Char) :
    scan.separates c next = false := by
  simp [separates, other]

/-- At top level only the character before is of interest. -/
theorem eq_of_atTopLevel (closed : scan.atTopLevel = true) :
    scan = { previous := scan.previous } := by
  simp only [atTopLevel, Bool.and_eq_true, decide_eq_true_eq] at closed
  obtain ⟨⟨⟨unquoted, braces⟩, brackets⟩, parens⟩ := closed
  rw [mk.injEq]
  exact ⟨rfl, unquoted, braces, brackets, parens⟩

/-- A pipe between blanks separates at top level. -/
theorem pieces_pipe (closed : scan.atTopLevel = true) (s : Text) :
    scan.pieces (' ' :: '|' :: ' ' :: s) =
      [' '] :: (PipeScan.pieces { previous := some '|' } (' ' :: s)) := by
  rw [eq_of_atTopLevel closed, pieces_of_not_separates (separates_of_ne (by decide) _ _),
    pieces_separator (by rfl), List.modifyHead_cons]
  rfl

/-- The blank behind a pipe hides the pipe. -/
theorem pieces_behindPipe (s : Text) :
    PipeScan.pieces { previous := some '|' } (' ' :: s) =
      (PipeScan.pieces {} s).modifyHead (' ' :: ·) := by
  rw [pieces_of_not_separates (separates_of_ne (by decide) _ _)]
  congr 1
  cases s with
  | nil => rfl
  | cons c s => rfl

/-- The pieces of two texts with a pipe between them: the last piece of the first text ends with the
blank in front of the pipe. -/
theorem exists_pieces_append (a s : Text) (closed : (scan.afterAll a).atTopLevel = true) :
    ∃ front last, scan.pieces a = front ++ [last] ∧
      scan.pieces (a ++ ' ' :: '|' :: ' ' :: s) =
        front ++ (last ++ [' ']) :: PipeScan.pieces { previous := some '|' } (' ' :: s) := by
  induction a generalizing scan with
  | nil => exact ⟨[], [], rfl, pieces_pipe closed s⟩
  | cons c a ih =>
      obtain ⟨front, last, first, whole⟩ := ih closed
      -- What stands behind `c` is no pipe in one text exactly if it is none in the other.
      have next : scan.separates c (a ++ ' ' :: '|' :: ' ' :: s).head? =
          scan.separates c a.head? := by
        cases a with
        | nil => simp [separates]
        | cons d a => rfl
      rw [List.cons_append]
      cases separator : scan.separates c a.head? with
      | true =>
          rw [pieces_separator separator, pieces_separator (next.trans separator), first, whole]
          exact ⟨[] :: front, last, rfl, rfl⟩
      | false =>
          rw [pieces_of_not_separates separator, pieces_of_not_separates (next.trans separator),
            first, whole]
          cases front with
          | nil => exact ⟨[], c :: last, rfl, rfl⟩
          | cons piece front => exact ⟨(c :: piece) :: front, last, rfl, rfl⟩

end PipeScan

namespace Pipeline

/-- The stages of a pipeline as they are written: its expression, and a text for each filter. -/
def stages (s : Text) : List Text :=
  (PipeScan.pieces {} s).map trim

theorem ofText_of_stages {s expression : Text} {filters : List Text}
    (written : stages s = expression :: filters) :
    ofText s = ⟨expression, filters.map Filter.ofText⟩ := by
  rw [stages, PipeScan.pieces, List.map_cons, List.cons.injEq] at written
  obtain ⟨rfl, rfl⟩ := written
  rw [List.map_map]
  rfl

theorem exists_stages (s : Text) :
    ∃ filters, stages s = (ofText s).expression :: filters ∧
      (ofText s).filters = filters.map Filter.ofText := by
  refine ⟨((PipeScan.split {} s).2).map trim, rfl, ?_⟩
  rw [List.map_map]
  rfl

/-- One pipe more is one text after the other. -/
theorem stages_pipe {a : Text} (closed : (PipeScan.afterAll {} a).atTopLevel = true) (b : Text) :
    stages (a ++ ' ' :: '|' :: ' ' :: b) = stages a ++ stages b := by
  have blank : isBlank ' ' = true := by decide
  obtain ⟨front, last, first, whole⟩ := PipeScan.exists_pieces_append a b closed
  have firstStages : stages a = front.map trim ++ [trim last] := by
    rw [stages, first, List.map_append]
    rfl
  have secondStages : ((PipeScan.pieces {} b).modifyHead (' ' :: ·)).map trim = stages b := by
    rw [PipeScan.pieces, List.modifyHead_cons, List.map_cons, trim_cons blank]
    rfl
  rw [stages, whole, PipeScan.pieces_behindPipe, List.map_append, List.map_cons, secondStages,
    trim_concat last blank, firstStages, List.append_assoc]
  rfl

end Pipeline

namespace Filter

/-- A name without a parenthesis has no arguments. -/
theorem ofText_name {name : Text} (plain : '(' ∉ name) : ofText name = ⟨name, none⟩ := by
  rw [ofText, cut?_eq_none_of_notMem plain]

/-- The last parenthesis is the one that belongs to the first. -/
theorem ofText_call {name : Text} (trimmed : trim name = name) (plain : '(' ∉ name)
    (args : Text) : ofText (name ++ '(' :: args ++ [')']) = ⟨name, some args⟩ := by
  have cut : cut? ['('] (name ++ '(' :: args ++ [')']) = some (name, args ++ [')']) := by
    rw [List.append_assoc]
    exact cut?_of_notMem plain (args ++ [')'])
  have closing : trimEnd isBlank (args ++ [')']) = args ++ [')'] := by
    rw [trimEnd, List.reverse_concat, List.dropWhile_cons_of_neg (by decide), List.reverse_cons,
      List.reverse_reverse]
  rw [ofText, cut]
  dsimp only
  rw [closing, trimmed, List.getLast?_concat, if_pos rfl, List.dropLast_concat]

end Filter

/-- The pipeline of a text with a pipe behind it goes on with the pipeline of the text behind that
pipe, whose expression becomes a filter, if no quote and no bracket is open in front of it. And a
filter with arguments is read as it is written. -/
theorem ofText_piped :
    (∀ a b : Text, (PipeScan.afterAll {} a).atTopLevel = true →
      Pipeline.ofText (a ++ ' ' :: '|' :: ' ' :: b) =
        ⟨(Pipeline.ofText a).expression,
          (Pipeline.ofText a).filters ++
            Filter.ofText (Pipeline.ofText b).expression :: (Pipeline.ofText b).filters⟩) ∧
    ∀ name args : Text, trim name = name → '(' ∉ name →
      Filter.ofText (name ++ '(' :: args ++ [')']) = ⟨name, some args⟩ := by
  refine ⟨fun a b closed => ?_,
    fun name args trimmed plain => Filter.ofText_call trimmed plain args⟩
  obtain ⟨before, first, filters⟩ := Pipeline.exists_stages a
  obtain ⟨behind, second, filters'⟩ := Pipeline.exists_stages b
  have whole := Pipeline.stages_pipe closed b
  rw [first, second, List.cons_append] at whole
  rw [Pipeline.ofText_of_stages whole, filters, filters', List.map_append, List.map_cons]

/-- Pipes that separate nothing on one side, and two filters on the other. -/
theorem ofText_piped_twice :
    (PipeScan.afterAll {} "a || f('|') | trim".toList).atTopLevel = true ∧
      Pipeline.ofText ("a || f('|') | trim".toList ++ ' ' :: '|' :: ' ' :: "cut(3) | up".toList) =
        ⟨"a || f('|')".toList,
          [⟨"trim".toList, none⟩, ⟨"cut".toList, some ['3']⟩, ⟨"up".toList, none⟩]⟩ ∧
      trim "cut".toList = "cut".toList ∧ '(' ∉ "cut".toList ∧
      Filter.ofText ("cut".toList ++ '(' :: "'(', f(x) ".toList ++ [')']) =
        ⟨"cut".toList, some "'(', f(x) ".toList⟩ := by
  have closed : (PipeScan.afterAll {} "a || f('|') | trim".toList).atTopLevel = true := by decide
  refine ⟨closed, ?_, by decide, by decide, ofText_piped.2 _ _ (by decide) (by decide)⟩
  rw [ofText_piped.1 _ _ closed]
  decide

end TemplateMarkup
