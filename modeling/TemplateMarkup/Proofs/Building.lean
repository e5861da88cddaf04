import TemplateMarkup.Template.Parse

/-!
# Building

What one event does to the template that is being built, said once for all laws about templates. A
start adds one element and makes at most one link, to a child or to an else branch (`Grows`). All
other events change the text that an element holds and nothing else (`withoutText`). What every
event keeps holds of the template and the warnings that parsing yields (`parse_preserves`).
-/

namespace TemplateMarkup

/-! ### Views of an element -/

namespace Element

/-- The element without its links: everything about it that is settled when it starts. -/
def bare (e : Element) : Element :=
  { e with children := [], elseBranch := none }

/-- The element without the text it holds. -/
def withoutText (e : Element) : Element :=
  { e with children := e.childIds.map Child.element }

/-- The element is to be a child of the one with this id. -/
def isChildOf (parent : Nat) (e : Element) : Bool :=
  e.parent = some parent && !e.forbidden && !e.isElse

/-- The element is to be the else branch of one before it. -/
def isBranch (e : Element) : Bool :=
  e.parent.isSome && !e.forbidden && e.isElse

theorem isChildOf_iff {e : Element} {p : Nat} :
    e.isChildOf p = true ↔ e.parent = some p ∧ e.forbidden = false ∧ e.isElse = false := by
  simp [isChildOf, and_assoc]

theorem isBranch_iff {e : Element} :
    e.isBranch = true ↔ e.parent.isSome = true ∧ e.forbidden = false ∧ e.isElse = true := by
  simp [isBranch, and_assoc]

@[simp] theorem childIds_withoutText (e : Element) : e.withoutText.childIds = e.childIds := by
  rw [withoutText, childIds, List.filterMap_map]
  exact List.filterMap_some

end Element

/-! ### Views of a template -/

namespace Template

def parent? (t : Template) (id : Nat) : Option Nat :=
  (t.get? id).bind (·.parent)

def isConditional (t : Template) (id : Nat) : Bool :=
  (t.get? id).any (·.condition.isSome)

def bare? (t : Template) (id : Nat) : Option Element :=
  (t.get? id).map Element.bare

/-- The template without the text in its elements. -/
def withoutText (t : Template) : Template :=
  { t with elements := t.elements.map Element.withoutText }

/-- The element whose else branch a new one is to be: the last child so far of the element around
it, if that child is there under a condition. -/
def hostFor? (t : Template) (e : Element) : Option Nat :=
  (e.parent.bind fun p => (t.childIds p).getLast?).filter t.isConditional

variable (t : Template) (id i : Nat) (e : Element) (f : Element → Element)

theorem parent?_eq_bare : t.parent? id = (t.bare? id).bind (·.parent) := by
  rw [parent?, bare?]
  cases t.get? id <;> rfl

theorem bare?_of_get? {t : Template} {id : Nat} {e : Element} (found : t.get? id = some e) :
    t.bare? id = some e.bare := by
  rw [bare?, found, Option.map_some]

theorem isSome_condition :
    ((t.get? id).bind (·.condition)).isSome = t.isConditional id := by
  rw [isConditional]
  cases t.get? id <;> rfl

/-- What is asked about an element apart from its links can be asked without them. -/
theorem any_get?_eq_bare {test : Element → Bool} (bare : ∀ e, test e.bare = test e) :
    (t.get? id).any test = (t.bare? id).any test := by
  rw [bare?]
  cases t.get? id with
  | none => rfl
  | some e => exact (bare e).symm

theorem isConditional_eq_bare :
    t.isConditional id = (t.bare? id).any (·.condition.isSome) :=
  t.any_get?_eq_bare id fun _ => rfl

theorem get?_lt {t : Template} {id : Nat} {e : Element} (found : t.get? id = some e) :
    id < t.size :=
  (Array.getElem?_eq_some_iff.1 found).1

theorem get?_eq_none (outside : t.size ≤ id) : t.get? id = none :=
  Array.getElem?_eq_none outside

theorem exists_get?_of_lt {t : Template} {id : Nat} (inside : id < t.size) :
    ∃ e, t.get? id = some e :=
  ⟨t.elements[id], Array.getElem?_eq_getElem inside⟩

@[simp] theorem get?_withoutText :
    t.withoutText.get? id = (t.get? id).map Element.withoutText :=
  Array.getElem?_map

@[simp] theorem size_withoutText : t.withoutText.size = t.size :=
  Array.size_map

@[simp] theorem childIds_withoutText : t.withoutText.childIds id = t.childIds id := by
  rw [childIds, get?_withoutText, Option.map_map]
  congr 2
  funext e
  exact e.childIds_withoutText

@[simp] theorem elseBranch?_withoutText : t.withoutText.elseBranch? id = t.elseBranch? id := by
  unfold elseBranch?
  rw [get?_withoutText]
  cases t.get? id <;> rfl

@[simp] theorem bare?_withoutText : t.withoutText.bare? id = t.bare? id := by
  unfold bare?
  rw [get?_withoutText]
  cases t.get? id <;> rfl

@[simp] theorem parent?_withoutText : t.withoutText.parent? id = t.parent? id := by
  rw [parent?_eq_bare, bare?_withoutText, parent?_eq_bare]

@[simp] theorem isConditional_withoutText :
    t.withoutText.isConditional id = t.isConditional id := by
  rw [isConditional_eq_bare, bare?_withoutText, isConditional_eq_bare]

section SameWithoutText

variable {t' : Template} (same : t'.withoutText = t.withoutText)

include same

/-- Templates that differ in text only have the same elements otherwise. -/
theorem bare?_of_withoutText : t'.bare? i = t.bare? i := by
  rw [← bare?_withoutText, same, bare?_withoutText]

theorem parent?_of_withoutText : t'.parent? i = t.parent? i := by
  rw [← parent?_withoutText, same, parent?_withoutText]

theorem size_of_withoutText : t'.size = t.size := by
  rw [← size_withoutText, same, size_withoutText]

theorem childIds_of_withoutText : t'.childIds i = t.childIds i := by
  rw [← childIds_withoutText, same, childIds_withoutText]

theorem elseBranch?_of_withoutText : t'.elseBranch? i = t.elseBranch? i := by
  rw [← elseBranch?_withoutText, same, elseBranch?_withoutText]

theorem isConditional_of_withoutText : t'.isConditional i = t.isConditional i := by
  rw [← isConditional_withoutText, same, isConditional_withoutText]

end SameWithoutText

/-! ### Changing one element -/

/-- What a change keeps of the element it is made to, it keeps of every element. -/
theorem map_get?_modify {β : Type} {f : Element → Element} {view : Element → β}
    (keeps : ∀ e, view (f e) = view e) :
    ((t.modify id f).get? i).map view = (t.get? i).map view := by
  rw [get?_modify]
  split
  · rw [Option.map_map]
    congr 1
    funext e
    exact keeps e
  · rfl

theorem withoutText_modify {f : Element → Element}
    (keeps : ∀ e, (f e).withoutText = e.withoutText) :
    (t.modify id f).withoutText = t.withoutText := by
  have same : (t.modify id f).withoutText.elements = t.withoutText.elements := by
    apply Array.ext_getElem?
    intro i
    change (t.modify id f).withoutText.get? i = t.withoutText.get? i
    rw [get?_withoutText, get?_withoutText, map_get?_modify t id i keeps]
  exact congrArg (Template.mk · t.root) same

theorem childIds_modify {f : Element → Element} (keeps : ∀ e, (f e).childIds = e.childIds) :
    (t.modify id f).childIds i = t.childIds i := by
  unfold childIds
  rw [map_get?_modify t id i keeps]

theorem bare?_modify {f : Element → Element} (keeps : ∀ e, (f e).bare = e.bare) :
    (t.modify id f).bare? i = t.bare? i :=
  map_get?_modify t id i keeps

theorem elseBranch?_modify {f : Element → Element}
    (keeps : ∀ e, (f e).elseBranch = e.elseBranch) :
    (t.modify id f).elseBranch? i = t.elseBranch? i := by
  have viewed : ∀ t : Template, t.elseBranch? i = ((t.get? i).map (·.elseBranch)).join := by
    intro t
    rw [elseBranch?]
    cases t.get? i <;> rfl
  rw [viewed, viewed, map_get?_modify t id i keeps]

/-- A new last child shows among the children of its parent, and nowhere else. -/
theorem childIds_modify_append {parent : Nat} (inside : parent < t.size) (child : Nat) :
    (t.modify parent fun p => { p with children := p.children ++ [.element child] }).childIds i =
      t.childIds i ++ if parent = i then [child] else [] := by
  unfold childIds
  rw [get?_modify]
  split
  next same =>
    subst same
    obtain ⟨e, found⟩ := exists_get?_of_lt inside
    simp [found, Element.childIds, Child.elementId?]
  next => rw [List.append_nil]

/-- A new else branch is the one of the element it is given to. -/
theorem elseBranch?_modify_some {host : Nat} (inside : host < t.size) (branch : Nat) :
    (t.modify host fun e => { e with elseBranch := some branch }).elseBranch? i =
      if host = i then some branch else t.elseBranch? i := by
  rw [elseBranch?, get?_modify]
  split
  next same =>
    subst same
    obtain ⟨e, found⟩ := exists_get?_of_lt inside
    rw [found]
    rfl
  · rfl

/-! ### Adding one element -/

/-- The template with one more element, which is at the top if it is the first. -/
def add (t : Template) (e : Element) : Template :=
  { t.push e with root := some (t.root.getD t.size) }

theorem get?_add : (t.add e).get? id = if id = t.size then some e else t.get? id :=
  t.get?_push e id

@[simp] theorem size_add : (t.add e).size = t.size + 1 :=
  t.size_push e

theorem bare?_add : (t.add e).bare? id = if id = t.size then some e.bare else t.bare? id := by
  rw [bare?, get?_add]
  split <;> rfl

/-- An element that holds nothing yet has no children to show. -/
theorem childIds_add {e : Element} (empty : e.children = []) :
    (t.add e).childIds id = t.childIds id := by
  unfold childIds
  rw [get?_add]
  split
  next last =>
    rw [last, t.get?_eq_none t.size (Nat.le_refl _), Option.map_some, Option.map_none]
    simp [Element.childIds, empty]
  · rfl

theorem elseBranch?_add {e : Element} (unlinked : e.elseBranch = none) :
    (t.add e).elseBranch? id = t.elseBranch? id := by
  unfold elseBranch?
  rw [get?_add]
  split
  next last =>
    rw [last, t.get?_eq_none t.size (Nat.le_refl _), Option.bind_some, unlinked]
    rfl
  · rfl

theorem isConditional_add (inside : id < t.size) :
    (t.add e).isConditional id = t.isConditional id := by
  unfold isConditional
  rw [get?_add, if_neg (Nat.ne_of_lt inside)]

/-- The second template is the first after the element has started: it has one more element, and
that one is linked as a child, as an else branch or not at all. -/
structure Grows (t t' : Template) (e : Element) : Prop where
  size : t'.size = t.size + 1
  root : t'.root = some (t.root.getD t.size)
  bare : ∀ i, t'.bare? i = if i = t.size then some e.bare else t.bare? i
  childIds : ∀ i, t'.childIds i = t.childIds i ++ if e.isChildOf i then [t.size] else []
  elseBranch : ∀ i, t'.elseBranch? i =
    if e.isBranch ∧ t.hostFor? e = some i then some t.size else t.elseBranch? i

end Template

namespace Builder

open Template

section Link

variable {t : Template} {e : Element}

/-- An element that is neither child nor branch changes no link. -/
theorem grows_add (empty : e.children = []) (unlinked : e.elseBranch = none)
    (noChild : ∀ i, e.isChildOf i = false)
    (noBranch : e.isBranch = false ∨ t.hostFor? e = none) : t.Grows (t.add e) e where
  size := t.size_add e
  root := rfl
  bare i := t.bare?_add i e
  childIds i := by rw [t.childIds_add i empty, noChild i]; simp
  elseBranch i := by
    rw [t.elseBranch?_add i unlinked, if_neg]
    rintro ⟨branch, host⟩
    rcases noBranch with other | homeless
    · simp [other] at branch
    · simp [homeless] at host

/-- A child is added to the children of its parent. -/
theorem grows_child (empty : e.children = []) (unlinked : e.elseBranch = none) {parent : Nat}
    (inside : parent < t.size) (child : ∀ i, e.isChildOf i = decide (parent = i))
    (noBranch : e.isBranch = false) :
    t.Grows ((t.add e).modify parent fun p =>
      { p with children := p.children ++ [.element t.size] }) e where
  size := by rw [size_modify, size_add]
  root := rfl
  bare i := by
    rw [bare?_modify, bare?_add]
    exact fun _ => rfl
  childIds i := by
    have inside : parent < (t.add e).size := by rw [size_add]; omega
    rw [childIds_modify_append (t.add e) i inside, t.childIds_add i empty, child]
    simp
  elseBranch i := by
    rw [elseBranch?_modify, t.elseBranch?_add i unlinked]
    · simp [noBranch]
    · exact fun _ => rfl

/-- An else branch is given to its host. -/
theorem grows_branch (empty : e.children = []) (unlinked : e.elseBranch = none) {host : Nat}
    (inside : host < t.size) (noChild : ∀ i, e.isChildOf i = false) (branch : e.isBranch = true)
    (housed : t.hostFor? e = some host) :
    t.Grows ((t.add e).modify host fun h => { h with elseBranch := some t.size }) e where
  size := by rw [size_modify, size_add]
  root := rfl
  bare i := by
    rw [bare?_modify, bare?_add]
    exact fun _ => rfl
  childIds i := by
    rw [childIds_modify, t.childIds_add i empty, noChild]
    · simp
    · exact fun _ => rfl
  elseBranch i := by
    have inside : host < (t.add e).size := by rw [size_add]; omega
    rw [elseBranch?_modify_some (t.add e) i inside, t.elseBranch?_add i unlinked]
    simp [branch, housed]

/-- An else branch becomes the branch of its host; without a host there is a warning. -/
theorem grows_linkElse (empty : e.children = []) (unlinked : e.elseBranch = none) {parent : Nat}
    (within : e.parent = some parent) (noChild : ∀ i, e.isChildOf i = false)
    (branch : e.isBranch = true) (childInside : ∀ p c, c ∈ t.childIds p → c < t.size) :
    t.Grows (linkElse (t.add e) parent t.size e.tag).1 e ∧
      (linkElse (t.add e) parent t.size e.tag).2 =
        if t.hostFor? e = none then [.elseWithoutIf e.tag] else [] := by
  have host : t.hostFor? e = ((t.childIds parent).getLast?).filter t.isConditional := by
    rw [hostFor?, within, Option.bind_some]
  rw [linkElse, t.childIds_add parent empty]
  cases last : (t.childIds parent).getLast? with
  | none =>
      have homeless : t.hostFor? e = none := by rw [host, last]; rfl
      exact ⟨grows_add empty unlinked noChild (.inr homeless), by rw [if_pos homeless]⟩
  | some previous =>
      have before : previous < t.size := childInside parent _ (List.mem_of_getLast? last)
      have sameCondition := t.isConditional_add previous e before
      dsimp only
      rw [isSome_condition, sameCondition]
      by_cases conditional : t.isConditional previous = true
      · have housed : t.hostFor? e = some previous := by
          rw [host, last, Option.filter_some, if_pos conditional]
        rw [if_pos conditional, housed, if_neg (by simp)]
        exact ⟨grows_branch empty unlinked before noChild branch housed, rfl⟩
      · have homeless : t.hostFor? e = none := by
          rw [host, last, Option.filter_some, if_neg conditional]
        rw [if_neg conditional, if_pos homeless]
        exact ⟨grows_add empty unlinked noChild (.inr homeless), rfl⟩

/-- What linking the newest element does, and when it warns. -/
theorem grows_link (empty : e.children = []) (unlinked : e.elseBranch = none)
    (inside : ∀ p, e.parent = some p → p < t.size)
    (childInside : ∀ p c, c ∈ t.childIds p → c < t.size) :
    t.Grows (link (t.add e) t.size e).1 e ∧
      (link (t.add e) t.size e).2 =
        if e.isBranch ∧ t.hostFor? e = none then [.elseWithoutIf e.tag] else [] := by
  rw [link]
  split
  next atTop =>
    have noChild : ∀ i, e.isChildOf i = false := by simp [Element.isChildOf, atTop]
    have noBranch : e.isBranch = false := by simp [Element.isBranch, atTop]
    exact ⟨grows_add empty unlinked noChild (.inl noBranch), by simp [noBranch]⟩
  next parent within =>
    by_cases forbidden : e.forbidden = true
    · have noChild : ∀ i, e.isChildOf i = false := by simp [Element.isChildOf, forbidden]
      have noBranch : e.isBranch = false := by simp [Element.isBranch, forbidden]
      rw [if_pos forbidden]
      exact ⟨grows_add empty unlinked noChild (.inl noBranch), by simp [noBranch]⟩
    rw [if_neg forbidden]
    by_cases isElse : e.isElse = true
    · have noChild : ∀ i, e.isChildOf i = false := by simp [Element.isChildOf, isElse]
      have branch : e.isBranch = true := by simp [Element.isBranch, within, forbidden, isElse]
      rw [if_pos isElse]
      simpa [branch] using grows_linkElse empty unlinked within noChild branch childInside
    · have noBranch : e.isBranch = false := by simp [Element.isBranch, isElse]
      have child : ∀ i, e.isChildOf i = decide (parent = i) := by
        simp [Element.isChildOf, within, forbidden, isElse]
      rw [if_neg isElse]
      exact ⟨grows_child empty unlinked (inside parent within) child noBranch, by simp [noBranch]⟩

end Link

/-! ### The events -/

section Events

variable (settings : Settings) (d : Delimiters) (b : Builder)

/-- The element that starts is empty, unlinked, and inside the innermost open one. -/
theorem makeElement_links (name : Text) (attributes : List Attribute) :
    let e := (b.makeElement settings d name attributes).1
    e.parent = b.openIds.head? ∧ e.children = [] ∧ e.elseBranch = none :=
  ⟨rfl, rfl, rfl⟩

theorem addElement_template (e : Element) :
    (b.addElement e).1.template = b.template.add e := by
  rw [addElement, Template.add]
  cases atTop : b.template.root with
  | none => simp [Template.push, atTop]
  | some id =>
      simp only [Template.push, atTop, Option.getD_some]
      split <;> rfl

theorem addElement_openIds (e : Element) : (b.addElement e).1.openIds = b.openIds := by
  unfold addElement
  dsimp only
  split
  · rfl
  · split <;> rfl

theorem addElement_inRawRegion (e : Element) : (b.addElement e).1.inRawRegion = b.inRawRegion := by
  unfold addElement
  dsimp only
  split
  · rfl
  · split <;> rfl

theorem addElement_outsideReported (e : Element) :
    (b.addElement e).1.outsideReported = b.outsideReported := by
  unfold addElement
  dsimp only
  split
  · rfl
  · split <;> rfl

/-- The first element at the top that is not the root is reported. -/
theorem addElement_reports (e : Element) :
    (b.addElement e).2 =
      if b.template.root.isSome ∧ b.openIds = [] ∧ b.rootsReported = false then [.multipleRoots]
      else [] := by
  rw [addElement, Template.push]
  cases b.template.root with
  | none => rfl
  | some root =>
      simp only [Option.isSome_some, true_and]
      split <;> rfl

/-- It is known that there is another element at the top once one has been added. -/
theorem addElement_rootsReported (e : Element) :
    (b.addElement e).1.rootsReported =
      (b.rootsReported || (b.template.root.isSome && b.openIds.isEmpty)) := by
  rw [addElement, Template.push]
  cases b.template.root with
  | none => simp
  | some root =>
      dsimp only
      cases b.openIds with
      | nil => cases b.rootsReported <;> rfl
      | cons id openIds => simp

/-- Another element at the top is all that adding an element can warn about. -/
theorem addElement_warnings (e : Element) :
    ∀ w ∈ (b.addElement e).2, w = .multipleRoots := by
  rw [addElement_reports]
  split <;> simp

theorem start_template (name : Text) (attributes : List Attribute) (isVoid : Bool) :
    let e := (b.makeElement settings d name attributes).1
    (b.start settings d name attributes isVoid).1.template =
      (link (b.template.add e) b.template.size e).1 := by
  simp only [start, addElement_template]

theorem start_openIds (name : Text) (attributes : List Attribute) (isVoid : Bool) :
    (b.start settings d name attributes isVoid).1.openIds =
      if isVoid then b.openIds else b.template.size :: b.openIds := by
  simp only [start, addElement_openIds]

theorem inRawRegion_start (name : Text) (attributes : List Attribute) (isVoid : Bool) :
    (b.start settings d name attributes isVoid).1.inRawRegion =
      (b.inRawRegion || ((b.makeElement settings d name attributes).1.pre && !isVoid)) := by
  simp only [start, addElement_inRawRegion]

theorem rootsReported_start (name : Text) (attributes : List Attribute) (isVoid : Bool) :
    (b.start settings d name attributes isVoid).1.rootsReported =
      (b.rootsReported || (b.template.root.isSome && b.openIds.isEmpty)) :=
  b.addElement_rootsReported _

theorem outsideReported_start (name : Text) (attributes : List Attribute) (isVoid : Bool) :
    (b.start settings d name attributes isVoid).1.outsideReported = b.outsideReported :=
  b.addElement_outsideReported _

theorem start_warnings (name : Text) (attributes : List Attribute) (isVoid : Bool) :
    let made := b.makeElement settings d name attributes
    (b.start settings d name attributes isVoid).2 =
      made.2 ++ (b.addElement made.1).2 ++
        (link (b.template.add made.1) b.template.size made.1).2 := by
  simp only [start, addElement_template]

theorem dropTrailingSpace_elementIds (children : List Child) :
    (dropTrailingSpace children).filterMap Child.elementId? =
      children.filterMap Child.elementId? := by
  rw [dropTrailingSpace]
  split
  next last =>
    obtain ⟨before, rfl⟩ := List.getLast?_eq_some_iff.1 last
    simp [Child.elementId?]
  · rfl

theorem withoutText_finish : b.finish.template.withoutText = b.template.withoutText := by
  rw [finish]
  split
  · rfl
  · apply withoutText_modify
    intro e
    unfold Element.withoutText Element.childIds
    rw [dropTrailingSpace_elementIds]

theorem openIds_finish : b.finish.openIds = b.openIds.tail := by
  rw [finish]
  split
  next none => rw [none]; rfl
  next some => rw [some]; rfl

theorem inRawRegion_finish :
    b.finish.inRawRegion =
      (b.inRawRegion && !(b.openIds.head?.bind b.template.bare?).any (·.pre)) := by
  rw [finish]
  cases b.openIds with
  | nil => simp
  | cons id openIds =>
      dsimp only
      rw [List.head?_cons, Option.bind_some, Template.bare?]
      cases b.template.get? id <;> rfl

theorem rootsReported_finish : b.finish.rootsReported = b.rootsReported := by
  rw [finish]
  split <;> rfl

theorem outsideReported_finish : b.finish.outsideReported = b.outsideReported := by
  rw [finish]
  split <;> rfl

theorem elementId?_textChild (inRawRegion : Bool) (s : Text) :
    (textChild d inRawRegion s).elementId? = none := by
  rw [textChild]
  split
  · rfl
  · split <;> rfl

theorem withoutText_text (s : Text) :
    (b.text settings d s).1.template.withoutText = b.template.withoutText := by
  rw [text, textOutside]
  split
  · split <;> rfl
  · dsimp only
    split
    · rfl
    · apply withoutText_modify
      intro e
      simp [Element.withoutText, Element.childIds, elementId?_textChild]

theorem openIds_text (s : Text) : (b.text settings d s).1.openIds = b.openIds := by
  rw [text, textOutside]
  split
  · split <;> rfl
  · dsimp only
    split <;> rfl

theorem inRawRegion_text (s : Text) : (b.text settings d s).1.inRawRegion = b.inRawRegion := by
  rw [text, textOutside]
  split
  · split <;> rfl
  · dsimp only
    split <;> rfl

theorem rootsReported_text (s : Text) :
    (b.text settings d s).1.rootsReported = b.rootsReported := by
  rw [text, textOutside]
  split
  · split <;> rfl
  · dsimp only
    split <;> rfl

/-- The first text outside of all elements that is not only blanks is reported. -/
theorem text_reports (s : Text) :
    (b.text settings d s).2 =
      if b.openIds = [] ∧ s.trim ≠ [] ∧ b.outsideReported = false then
        [.contentOutsideElement s.trim]
      else [] := by
  rw [text]
  split
  next outside =>
    rw [textOutside]
    simp only [outside, true_and]
    split <;> rfl
  next id openIds isOpen =>
    have inside : ¬ (b.openIds = [] ∧ s.trim ≠ [] ∧ b.outsideReported = false) := by
      simp [isOpen]
    rw [if_neg inside]
    dsimp only
    split <;> rfl

/-- It is known that there is text outside of all elements once some has come. -/
theorem outsideReported_text (s : Text) :
    (b.text settings d s).1.outsideReported =
      (b.outsideReported || (b.openIds.isEmpty && decide (s.trim ≠ []))) := by
  rw [text]
  split
  next outside =>
    rw [textOutside, outside]
    by_cases blank : s.trim = []
    · simp [blank]
    · cases known : b.outsideReported <;> simp [blank, known]
  next id openIds isOpen =>
    rw [isOpen]
    dsimp only
    split <;> simp

/-- Text outside of all elements is all that a run of text can be warned about. -/
theorem text_warnings (s : Text) :
    ∀ w ∈ (b.text settings d s).2, ∃ content, w = .contentOutsideElement content := by
  rw [text_reports]
  split <;> simp

end Events

/-! ### Runs -/

theorem run_append (settings : Settings) (d : Delimiters) (b : Builder)
    (events later : List Event) :
    (b.run settings d (events ++ later)).1 =
      ((b.run settings d events).1.run settings d later).1 := by
  induction events generalizing b with
  | nil => rfl
  | cons first events ih => exact ih _

theorem run_concat (settings : Settings) (d : Delimiters) (b : Builder) (events : List Event)
    (event : Event) :
    (b.run settings d (events ++ [event])).1 =
      ((b.run settings d events).1.step settings d event).1 :=
  run_append settings d b events [event]

/-- The warnings of an event stand at its place. -/
theorem run_warnings (settings : Settings) (d : Delimiters) (b : Builder)
    (before after : List Event) (event : Event) :
    (b.run settings d (before ++ event :: after)).2[before.length]? =
      some ((b.run settings d before).1.step settings d event).2 := by
  induction before generalizing b with
  | nil => rfl
  | cons first before ih => exact ih _

/-- What every event keeps, a list of events keeps. It may speak of the events so far. -/
theorem run_preserves_after {settings : Settings} {d : Delimiters}
    {P : List Event → Builder → List Warning → Prop}
    (keeps : ∀ done b warnings event, P done b warnings →
      P (done ++ [event]) (b.step settings d event).1 (warnings ++ (b.step settings d event).2))
    (events done : List Event) {b : Builder} (warnings : List Warning)
    (begins : P done b warnings) :
    P (done ++ events) (b.run settings d events).1
      (warnings ++ (b.run settings d events).2.flatten) := by
  induction events generalizing done b warnings with
  | nil => simpa [run] using begins
  | cons event events ih =>
      have later := ih _ _ (keeps done b warnings event begins)
      simpa only [run, List.flatten_cons, List.append_assoc, List.singleton_append] using later

/-- What every event keeps, a list of events keeps. -/
theorem run_preserves {settings : Settings} {d : Delimiters}
    {P : Builder → List Warning → Prop}
    (keeps : ∀ b warnings event, P b warnings →
      P (b.step settings d event).1 (warnings ++ (b.step settings d event).2))
    (events : List Event) {b : Builder} {warnings : List Warning} (begins : P b warnings) :
    P (b.run settings d events).1 (warnings ++ (b.run settings d events).2.flatten) :=
  run_preserves_after (P := fun _ => P) (fun _ => keeps) events [] warnings begins

/-- What each event of a list keeps, the list keeps. -/
theorem run_preserves_of_mem {settings : Settings} {d : Delimiters} {P : Builder → Prop}
    (events : List Event)
    (keeps : ∀ b, ∀ event ∈ events, P b → P (b.step settings d event).1) {b : Builder}
    (begins : P b) : P (b.run settings d events).1 := by
  induction events generalizing b with
  | nil => exact begins
  | cons event events ih =>
      apply ih
      · intro b event member
        exact keeps b event (List.mem_cons_of_mem _ member)
      · exact keeps b event List.mem_cons_self begins

end Builder

/-! ### Parsing -/

/-- The delimiters, if some are chosen, are not empty. -/
def Settings.Usable (settings : Settings) : Prop :=
  ∀ d, settings.delimiters = some d → d.opening ≠ [] ∧ d.closing ≠ []

theorem Settings.Usable.resolvedDelimiters {settings : Settings} (usable : settings.Usable) :
    settings.resolvedDelimiters = .ok (settings.delimiters.getD .standard) := by
  rw [Settings.resolvedDelimiters]
  split
  next chosen => rw [chosen]; rfl
  next d chosen =>
    obtain ⟨opening, closing⟩ := usable d chosen
    simp [Delimiters.check, opening, closing, chosen]

/-- Parsing succeeds, and what every event keeps holds of its result. -/
theorem parse_preserves {settings : Settings} (usable : settings.Usable) (source : Text)
    (P : Builder → List Warning → Prop) (begins : P {} [])
    (keeps : ∀ d b warnings event, P b warnings →
      P (b.step settings d event).1 (warnings ++ (b.step settings d event).2)) :
    ∃ parsed b, parse settings source = .ok parsed ∧ b.template = parsed.template ∧
      P b parsed.warnings := by
  have built := Builder.run_preserves (keeps (settings.delimiters.getD .standard))
    (events settings.dialect settings.expectHtml source) begins
  rw [parse, usable.resolvedDelimiters]
  exact ⟨_, _, rfl, rfl, built⟩

/-- Parsing refuses delimiters of which one is empty. With all others it succeeds, and this holds of
the delimiters in effect and of the result. -/
def ParsesWith (settings : Settings) (source : Text) (holds : Delimiters → Parsed → Prop) : Prop :=
  match settings.resolvedDelimiters with
  | .error e => (e.given.opening = [] ∨ e.given.closing = []) ∧ parse settings source = .error e
  | .ok d => ∃ parsed, parse settings source = .ok parsed ∧ holds d parsed

/-- Delimiters in effect are not empty. -/
theorem Settings.nonempty_of_resolvedDelimiters {settings : Settings} {d : Delimiters}
    (resolved : settings.resolvedDelimiters = .ok d) : d.opening ≠ [] ∧ d.closing ≠ [] := by
  rw [Settings.resolvedDelimiters] at resolved
  split at resolved
  · obtain rfl := Except.ok.inj resolved
    decide
  · rw [Delimiters.check] at resolved
    split at resolved
    · simp at resolved
    next nonempty =>
      obtain rfl := Except.ok.inj resolved
      exact not_or.1 nonempty

/-- Delimiters are refused because one of them is empty. -/
theorem Settings.empty_of_resolvedDelimiters {settings : Settings} {e : EmptyDelimiter}
    (refused : settings.resolvedDelimiters = .error e) :
    e.given.opening = [] ∨ e.given.closing = [] := by
  rw [Settings.resolvedDelimiters] at refused
  split at refused
  · simp at refused
  · rw [Delimiters.check] at refused
    split at refused
    next empty =>
      obtain rfl := Except.error.inj refused
      exact empty
    · simp at refused

/-- What every event keeps holds of what the events of the source build. -/
theorem buildTemplate_preserves {settings : Settings} {d : Delimiters} (P : Builder → Prop)
    (begins : P {}) (keeps : ∀ b event, P b → P (b.step settings d event).1) (source : Text) :
    P (buildTemplate settings d source).1 :=
  Builder.run_preserves_of_mem (events settings.dialect settings.expectHtml source)
    (fun b event _ => keeps b event) begins

/-- What is asked of a parse is asked of what the events of the source build. -/
theorem parsesWith_of_build {settings : Settings} {source : Text}
    {holds : Delimiters → Parsed → Prop}
    (built : ∀ d, d.opening ≠ [] → d.closing ≠ [] →
      holds d ⟨(buildTemplate settings d source).1.template,
        (buildTemplate settings d source).2.flatten⟩) : ParsesWith settings source holds := by
  rw [ParsesWith, parse]
  cases resolved : settings.resolvedDelimiters with
  | error e => exact ⟨Settings.empty_of_resolvedDelimiters resolved, rfl⟩
  | ok d =>
      obtain ⟨opening, closing⟩ := Settings.nonempty_of_resolvedDelimiters resolved
      exact ⟨_, rfl, built d opening closing⟩

end TemplateMarkup
