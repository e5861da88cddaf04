import TemplateMarkup.Proofs.Pipes

/-!
# String literals in pipelines

Pipes inside of a string literal separate nothing, whatever else the literal holds. The scan does
not read a literal item by item, though. It ends a literal at a mark without a backslash in front of
it. Inside of the literal that comes to the same, since the backslash in front of a mark is there
for that mark. At its end it does not: there the backslash may be an item that is itself escaped. A
literal with such an item at its end stays open, and then the pipes behind it separate nothing
either.
-/

namespace TemplateMarkup

open Text

/-- What a string literal consists of between its marks. -/
inductive LiteralItem where
  /-- A character that stands for itself. -/
  | plain (c : Char)
  /-- A character with a backslash in front of it. -/
  | escaped (c : Char)
deriving DecidableEq, Repr

namespace LiteralItem

def print : LiteralItem → Text
  | plain c => [c]
  | escaped c => ['\\', c]

def printAll (items : List LiteralItem) : Text :=
  items.flatMap print

def last : LiteralItem → Char
  | plain c => c
  | escaped c => c

/-- The item may stand between such marks. -/
def Fits (mark : Char) : LiteralItem → Prop
  | plain c => c ≠ mark ∧ c ≠ '\\'
  | escaped _ => True

def literal (mark : Char) (items : List LiteralItem) : Text :=
  mark :: printAll items ++ [mark]

/-- The character marks the ends of string literals. -/
def IsMark (mark : Char) : Prop :=
  mark = '"' ∨ mark = '\'' ∨ mark = '`'

variable {mark : Char}

theorem IsMark.ne_backslash (isMark : IsMark mark) : mark ≠ '\\' := by
  rcases isMark with rfl | rfl | rfl <;> decide

theorem IsMark.ne_pipe (isMark : IsMark mark) : mark ≠ '|' := by
  rcases isMark with rfl | rfl | rfl <;> decide

theorem IsMark.isBlank_eq_false (isMark : IsMark mark) : isBlank mark = false := by
  rcases isMark with rfl | rfl | rfl <;> decide

theorem IsMark.isAlpha_eq_false (isMark : IsMark mark) : mark.isAlpha = false := by
  rcases isMark with rfl | rfl | rfl <;> decide

/-- The last character of the items, or `c` if there are none. -/
def lastOf (c : Char) (items : List LiteralItem) : Char :=
  (items.getLast?.map last).getD c

theorem lastOf_cons (c : Char) (item : LiteralItem) (items : List LiteralItem) :
    lastOf c (item :: items) = lastOf item.last items := by
  rw [lastOf, List.getLast?_cons, lastOf]
  cases items.getLast? <;> rfl

theorem lastOf_eq_backslash_iff (isMark : IsMark mark) {items : List LiteralItem}
    (fits : ∀ item ∈ items, item.Fits mark) :
    lastOf mark items = '\\' ↔ items.getLast? = some (.escaped '\\') := by
  rw [lastOf]
  cases ending : items.getLast? with
  | none => simp [isMark.ne_backslash]
  | some item =>
      have fitting := fits item (List.mem_of_getLast? ending)
      cases item with
      | plain c => simp [last, fitting.2]
      | escaped c => simp [last]

theorem trim_literal (isMark : IsMark mark) (items : List LiteralItem) :
    trim (literal mark items) = literal mark items := by
  refine trim_eq_self (fun c first => ?_) fun c ending => ?_
  · obtain rfl := Option.some.inj first
    exact isMark.isBlank_eq_false
  · rw [literal, List.getLast?_concat] at ending
    obtain rfl := Option.some.inj ending
    exact isMark.isBlank_eq_false

end LiteralItem

namespace PipeScan

open LiteralItem

/-- The same, behind the character `c`. -/
def behind (scan : PipeScan) (c : Char) : PipeScan :=
  { scan with previous := some c }

@[simp] theorem quote_behind (scan : PipeScan) (c : Char) :
    (scan.behind c).quote = scan.quote := rfl

@[simp] theorem behind_behind (scan : PipeScan) (c d : Char) :
    (scan.behind c).behind d = scan.behind d := rfl

variable {scan : PipeScan} {mark c : Char} {s : Text} {item : LiteralItem}
  {items : List LiteralItem}

/-! ### Behind an opening mark -/

theorem split_of_quoted (quoted : scan.quote = some mark) (c : Char) (s : Text) :
    scan.split (c :: s) = (c :: ((scan.after c).split s).1, ((scan.after c).split s).2) :=
  split_of_not_separates (by simp [separates, atTopLevel, quoted])

theorem after_of_quoted (quoted : scan.quote = some mark)
    (inside : c = mark → scan.previous = some '\\') : scan.after c = scan.behind c := by
  have stays : ¬ (c = mark ∧ scan.previous ≠ some '\\') := fun closing =>
    closing.2 (inside closing.1)
  rw [after, behind, quoted]
  dsimp only
  rw [if_neg stays]

/-- A text without the mark does not close the literal. -/
theorem split_of_notMem_mark (quoted : scan.quote = some mark) (absent : mark ∉ s) :
    scan.split s = (s, []) := by
  induction s generalizing scan with
  | nil => rfl
  | cons c s ih =>
      rw [List.mem_cons, not_or] at absent
      have inside := after_of_quoted quoted fun same => absurd same.symm absent.1
      have quoted' : (scan.behind c).quote = some mark := quoted
      rw [split_of_quoted quoted, inside, ih quoted' absent.2]

/-! ### Items -/

/-- An item leaves the literal open. -/
theorem afterAll_print (quoted : scan.quote = some mark) (isMark : IsMark mark)
    (fits : item.Fits mark) : scan.afterAll item.print = scan.behind item.last := by
  cases item with
  | plain c => exact after_of_quoted quoted fun same => absurd same fits.1
  | escaped c =>
      have backslash := after_of_quoted quoted fun same => absurd same.symm isMark.ne_backslash
      have quoted' : (scan.behind '\\').quote = some mark := quoted
      rw [print, afterAll_cons, backslash, afterAll_cons, after_of_quoted quoted' fun _ => rfl]
      rfl

/-- An item separates nothing. -/
theorem split_print_append (quoted : scan.quote = some mark) (isMark : IsMark mark)
    (fits : item.Fits mark) (s : Text) :
    scan.split (item.print ++ s) =
      (item.print ++ ((scan.behind item.last).split s).1, ((scan.behind item.last).split s).2) := by
  rw [← afterAll_print quoted isMark fits]
  cases item with
  | plain c => exact split_of_quoted quoted c s
  | escaped c =>
      have backslash := after_of_quoted quoted fun same => absurd same.symm isMark.ne_backslash
      have quoted' : (scan.after '\\').quote = some mark := by rw [backslash, quote_behind, quoted]
      rw [print, List.cons_append, split_of_quoted quoted, List.cons_append,
        split_of_quoted quoted']
      rfl

/-- Items leave the literal open. -/
theorem afterAll_printAll (quoted : scan.quote = some mark) (isMark : IsMark mark)
    (fits : ∀ item ∈ items, item.Fits mark) (c : Char) :
    (scan.behind c).afterAll (printAll items) = scan.behind (lastOf c items) := by
  induction items generalizing c with
  | nil => rfl
  | cons item items ih =>
      rw [List.forall_mem_cons] at fits
      have quoted' : (scan.behind c).quote = some mark := quoted
      rw [printAll, List.flatMap_cons, afterAll_append, afterAll_print quoted' isMark fits.1,
        behind_behind, lastOf_cons]
      exact ih fits.2 item.last

/-- Items separate nothing. -/
theorem split_printAll_append (quoted : scan.quote = some mark) (isMark : IsMark mark)
    (fits : ∀ item ∈ items, item.Fits mark) (c : Char) (s : Text) :
    (scan.behind c).split (printAll items ++ s) =
      (printAll items ++ ((scan.behind (lastOf c items)).split s).1,
        ((scan.behind (lastOf c items)).split s).2) := by
  induction items generalizing c with
  | nil => rfl
  | cons item items ih =>
      rw [List.forall_mem_cons] at fits
      have quoted' : (scan.behind c).quote = some mark := quoted
      have whole : printAll (item :: items) = item.print ++ printAll items := List.flatMap_cons
      rw [whole, List.append_assoc, split_print_append quoted' isMark fits.1, behind_behind,
        ih fits.2, lastOf_cons, List.append_assoc]

/-! ### The end of a literal -/

/-- What is known inside of a literal with such marks. -/
def inside (mark : Char) : PipeScan :=
  { quote := some mark }

@[simp] theorem quote_inside (mark c : Char) : ((inside mark).behind c).quote = some mark := rfl

theorem after_mark (isMark : IsMark mark) : after {} mark = (inside mark).behind mark := by
  rcases isMark with rfl | rfl | rfl <;> rfl

theorem afterAll_open (isMark : IsMark mark) (fits : ∀ item ∈ items, item.Fits mark) :
    afterAll {} (mark :: printAll items) = (inside mark).behind (lastOf mark items) := by
  have quoted : (inside mark).quote = some mark := rfl
  rw [afterAll_cons, after_mark isMark, afterAll_printAll quoted isMark fits]

theorem split_open (isMark : IsMark mark) (fits : ∀ item ∈ items, item.Fits mark) (s : Text) :
    split {} (mark :: printAll items ++ s) =
      (mark :: printAll items ++ (((inside mark).behind (lastOf mark items)).split s).1,
        (((inside mark).behind (lastOf mark items)).split s).2) := by
  have quoted : (inside mark).quote = some mark := rfl
  rw [List.cons_append, split_of_not_separates (separates_of_ne isMark.ne_pipe _ _),
    after_mark isMark, split_printAll_append quoted isMark fits]
  rfl

/-- A mark closes the literal unless it is behind a backslash. -/
theorem after_inside_of_ne (mark : Char) (other : c ≠ '\\') :
    ((inside mark).behind c).after mark = behind {} mark := by
  simp [after, inside, behind, other]

theorem after_inside_backslash (mark : Char) :
    ((inside mark).behind '\\').after mark = (inside mark).behind mark :=
  after_of_quoted (quote_inside mark '\\') fun _ => rfl

end PipeScan

namespace Pipeline

open LiteralItem

variable {mark : Char} {items : List LiteralItem}

theorem stages_literal (isMark : IsMark mark) (fits : ∀ item ∈ items, item.Fits mark) :
    stages (literal mark items) = [literal mark items] := by
  have whole : PipeScan.pieces {} (literal mark items) = [literal mark items] := by
    rw [PipeScan.pieces, literal, PipeScan.split_open isMark fits,
      PipeScan.split_of_quoted (PipeScan.quote_inside mark (lastOf mark items))]
    rfl
  rw [stages, whole, List.map_singleton, trim_literal isMark]

/-- A text without pipes has one stage. -/
theorem stages_of_notMem {s : Text} (absent : '|' ∉ s) : stages s = [trim s] := by
  have unsplit : ∀ scan : PipeScan, scan.pieces s = [s] := by
    induction s with
    | nil => exact fun scan => rfl
    | cons c s ih =>
        intro scan
        rw [List.mem_cons, not_or] at absent
        rw [PipeScan.pieces_of_not_separates (PipeScan.separates_of_ne (Ne.symm absent.1) _ _),
          ih absent.2]
        rfl
  rw [stages, unsplit, List.map_singleton]

end Pipeline

open LiteralItem

/-- A string literal with a filter behind it: if the literal does not end with an escaped backslash,
it is the whole expression and the filter is the only one. If it does, the whole text is the
expression, and there is no filter. -/
theorem ofText_literal {mark : Char} (isMark : IsMark mark) {items : List LiteralItem}
    (fits : ∀ item ∈ items, item.Fits mark) {name : Text} (letters : ∀ c ∈ name, c.isAlpha = true) :
    Pipeline.ofText (literal mark items ++ ' ' :: '|' :: ' ' :: name) =
      if items.getLast? = some (.escaped '\\') then
        ⟨trim (literal mark items ++ ' ' :: '|' :: ' ' :: name), []⟩
      else ⟨literal mark items, [⟨name, none⟩]⟩ := by
  have notLetter : ∀ {c : Char}, c.isAlpha = false → c ∉ name := by
    intro c other member
    rw [letters c member] at other
    exact Bool.noConfusion other
  split
  next escaped =>
    have backslash := (lastOf_eq_backslash_iff isMark fits).2 escaped
    have behind : mark ∉ ' ' :: '|' :: ' ' :: name := by
      have space : mark ≠ ' ' := by
        rintro rfl
        exact Bool.noConfusion isMark.isBlank_eq_false
      simp [space, isMark.ne_pipe, notLetter isMark.isAlpha_eq_false]
    have whole : Pipeline.stages (literal mark items ++ ' ' :: '|' :: ' ' :: name) =
        [trim (literal mark items ++ ' ' :: '|' :: ' ' :: name)] := by
      rw [Pipeline.stages, PipeScan.pieces, literal, List.append_assoc,
        PipeScan.split_open isMark fits, backslash, List.singleton_append,
        PipeScan.split_of_quoted (PipeScan.quote_inside mark '\\'),
        PipeScan.after_inside_backslash,
        PipeScan.split_of_notMem_mark (PipeScan.quote_inside mark mark) behind]
      rfl
    exact Pipeline.ofText_of_stages whole
  next unescaped =>
    have other : lastOf mark items ≠ '\\' := fun same =>
      unescaped ((lastOf_eq_backslash_iff isMark fits).1 same)
    have closed : (PipeScan.afterAll {} (literal mark items)).atTopLevel = true := by
      rw [literal, PipeScan.afterAll_append, PipeScan.afterAll_open isMark fits,
        PipeScan.afterAll_cons, PipeScan.after_inside_of_ne mark other]
      rfl
    have filter : Pipeline.stages name = [name] := by
      rw [Pipeline.stages_of_notMem (notLetter (by decide)), trim_eq_self_of_forall]
      exact fun c member => isBlank_eq_false_of_isAlpha (letters c member)
    have whole := Pipeline.stages_pipe closed name
    rw [Pipeline.stages_literal isMark fits, filter, List.singleton_append] at whole
    rw [Pipeline.ofText_of_stages whole, List.map_singleton,
      Filter.ofText_name (notLetter (by decide))]

/-- A literal that ends with an escaped backslash takes the filter behind it with it. -/
theorem ofText_literal_escapedBackslash :
    IsMark '\'' ∧ (∀ item ∈ [plain 'a', escaped '\\'], item.Fits '\'') ∧
      (∀ c ∈ "upper".toList, c.isAlpha = true) ∧
      Pipeline.ofText "'a\\\\' | upper".toList = ⟨"'a\\\\' | upper".toList, []⟩ := by
  have isMark : IsMark '\'' := .inr (.inl rfl)
  have fits : ∀ item ∈ [plain 'a', escaped '\\'], item.Fits '\'' := by simp [Fits]
  have letters : ∀ c ∈ "upper".toList, c.isAlpha = true := List.all_eq_true.1 (by decide)
  exact ⟨isMark, fits, letters, (ofText_literal isMark fits letters).trans (by decide)⟩

end TemplateMarkup
