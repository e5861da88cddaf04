import TemplateMarkup.Proofs.Ancestors
import TemplateMarkup.Proofs.Arena
import TemplateMarkup.Proofs.Content

/-!
# The frame of an event

A builder changes elements by their ids, in one array for the whole template, so any event could in
principle change any element. It does not: of what is there already, an event touches the innermost
open element and the last element in that one, and of these only what they hold and the else branch
(`MayBecome`). Hence a closed element can still be given an else branch and nothing else, and what
lies below it stays as it is, whatever events are to come.
-/

namespace TemplateMarkup

namespace Builder

open Template

/-- What an event may make of an element that has started before. -/
inductive MayBecome (settings : Settings) (d : Delimiters) (b : Builder) (id : Nat) (e : Element) :
    Event → Element → Prop
  | same {event : Event} : MayBecome settings d b id e event e
  | child {name : Text} {attributes : List Attribute} {isVoid : Bool}
      (innermost : b.openIds.head? = some id) :
      MayBecome settings d b id e (.start name attributes isVoid)
        { e with children := e.children ++ [.element b.template.size] }
  | branch {name : Text} {attributes : List Attribute} {isVoid : Bool} {around : Nat}
      (innermost : b.openIds.head? = some around)
      (last : (b.template.childIds around).getLast? = some id)
      (isElse : (b.makeElement settings d name attributes).1.isElse = true) :
      MayBecome settings d b id e (.start name attributes isVoid)
        { e with elseBranch := some b.template.size }
  | text {s : Text} {child : Child} (innermost : b.openIds.head? = some id)
      (isText : child.elementId? = none) :
      MayBecome settings d b id e (.text s) { e with children := e.children ++ [child] }
  | space {tag : Text} {before : List Child} (innermost : b.openIds.head? = some id)
      (held : e.children = before ++ [.text [' ']]) :
      MayBecome settings d b id e (.finish tag) { e with children := before }

/-- The element has started and ended. -/
structure Closed (b : Builder) (id : Nat) : Prop where
  started : id < b.template.size
  ended : id ∉ b.openIds

/-- The element is closed, and so is the one around it. -/
structure Sealed (b : Builder) (id : Nat) : Prop extends b.Closed id where
  around : ∀ p, b.template.parent? id = some p → p ∉ b.openIds

variable {b : Builder} {id x : Nat} {e e' : Element} (settings : Settings) (d : Delimiters)

/-! ### One event -/

section Step

variable (sound : b.Sound)

include sound

theorem mayBecome_start (found : b.template.get? id = some e) (name : Text)
    (attributes : List Attribute) (isVoid : Bool) :
    ∃ e', (b.start settings d name attributes isVoid).1.template.get? id = some e' ∧
      b.MayBecome settings d id e (.start name attributes isVoid) e' := by
  have grows := (sound.grows_start settings d name attributes isVoid).1
  have parent := (b.makeElement_links settings d name attributes).1
  have old : id ≠ b.template.size := Nat.ne_of_lt (get?_lt found)
  have kept := get?_of_bare? b.template found (by rw [grows.bare, if_neg old])
  rw [content_start sound, grows.elseBranch, content_of_get? b.template found,
    elseBranch?_of_get? b.template found] at kept
  refine ⟨_, kept, ?_⟩
  by_cases isChild : (b.makeElement settings d name attributes).1.isChildOf id = true
  · obtain ⟨within, -, notElse⟩ := Element.isChildOf_iff.1 isChild
    have noBranch : (b.makeElement settings d name attributes).1.isBranch = false := by
      rw [Element.isBranch, notElse, Bool.and_false]
    rw [if_pos isChild, if_neg (by simp [noBranch])]
    exact .child (parent ▸ within)
  · rw [if_neg isChild, List.append_nil]
    split
    next branch =>
      obtain ⟨isBranch, host⟩ := branch
      obtain ⟨around, within, last⟩ :=
        Option.bind_eq_some_iff.1 (Option.filter_eq_some_iff.1 host).1
      exact .branch (parent ▸ within) last (Element.isBranch_iff.1 isBranch).2.2
    next => exact .same

theorem mayBecome_text (found : b.template.get? id = some e) (s : Text) :
    ∃ e', (b.text settings d s).1.template.get? id = some e' ∧
      b.MayBecome settings d id e (.text s) e' := by
  have same := withoutText_text settings d b s
  have kept := get?_of_bare? b.template found (bare?_of_withoutText _ id same)
  rw [elseBranch?_of_withoutText _ id same, elseBranch?_of_get? b.template found] at kept
  refine ⟨_, kept, ?_⟩
  by_cases innermost : b.openIds.head? = some id
  · rw [content_text sound settings d id innermost found, content_of_get? b.template found]
    split
    · exact .text innermost (elementId?_textChild d _ _)
    · rw [List.append_nil]
      exact .same
  · rw [content_text_of_ne sound settings d id innermost, content_of_get? b.template found]
    exact .same

theorem mayBecome_finish (found : b.template.get? id = some e) (tag : Text) :
    ∃ e', b.finish.template.get? id = some e' ∧
      b.MayBecome settings d id e (.finish tag) e' := by
  have same := withoutText_finish b
  have kept := get?_of_bare? b.template found (bare?_of_withoutText _ id same)
  rw [elseBranch?_of_withoutText _ id same, elseBranch?_of_get? b.template found,
    content_finish sound, content_of_get? b.template found] at kept
  refine ⟨_, kept, ?_⟩
  split
  next innermost =>
    rw [dropTrailingSpace]
    split
    next last =>
      obtain ⟨before, held⟩ := List.getLast?_eq_some_iff.1 last
      have dropped : e.children.dropLast = before := by rw [held, List.dropLast_concat]
      rw [dropped]
      exact .space innermost held
    next => exact .same
  next => exact .same

/-- An event keeps what is there, but for one link or one piece of text. -/
theorem mayBecome_step (found : b.template.get? id = some e) (event : Event) :
    ∃ e', (b.step settings d event).1.template.get? id = some e' ∧
      b.MayBecome settings d id e event e' := by
  cases event with
  | start name attributes isVoid =>
      exact mayBecome_start settings d sound found name attributes isVoid
  | finish tag => exact mayBecome_finish settings d sound found tag
  | text content => exact mayBecome_text settings d sound found content
  | unmatchedEnd tag => exact ⟨e, found, .same⟩

end Step

/-- An event that changes a closed element gives it an else branch. -/
theorem MayBecome.of_closed {event : Event} (may : b.MayBecome settings d id e event e')
    (ended : id ∉ b.openIds) : ∃ branch, e' = { e with elseBranch := branch } := by
  cases may with
  | same => exact ⟨e.elseBranch, rfl⟩
  | branch innermost last isElse => exact ⟨some b.template.size, rfl⟩
  | child innermost => exact absurd (List.mem_of_head? innermost) ended
  | text innermost isText => exact absurd (List.mem_of_head? innermost) ended
  | space innermost held => exact absurd (List.mem_of_head? innermost) ended

/-- An event changes nothing within a closed element, because an else branch is given to children
of an open one only. -/
theorem MayBecome.of_sealed {event : Event} (sound : b.Sound)
    (may : b.MayBecome settings d id e event e') (isSealed : b.Sealed id) : e' = e := by
  cases may with
  | same => rfl
  | @branch _ _ _ around innermost last isElse =>
      -- The element that gets the branch is a child of an open one.
      obtain ⟨e, found, within, -⟩ := sound.linked.child (List.mem_of_getLast? last)
      have ended := isSealed.around around (by rw [parent?, found, Option.bind_some, within])
      exact absurd (List.mem_of_head? innermost) ended
  | child innermost => exact absurd (List.mem_of_head? innermost) isSealed.ended
  | text innermost isText => exact absurd (List.mem_of_head? innermost) isSealed.ended
  | space innermost held => exact absurd (List.mem_of_head? innermost) isSealed.ended

/-! ### Elements that have ended -/

section Ended

variable (sound : b.Sound) (event : Event)

include sound

/-- An event opens no element but the one that it starts. -/
theorem Closed.step (closed : b.Closed id) : (b.step settings d event).1.Closed id := by
  have keeps : ∀ {b' : Builder}, b'.template.withoutText = b.template.withoutText →
      b'.openIds ⊆ b.openIds → b'.Closed id := by
    intro b' same stillOpen
    refine ⟨?_, fun isOpen => closed.ended (stillOpen isOpen)⟩
    rw [size_of_withoutText _ same]
    exact closed.started
  cases event with
  | start name attributes isVoid =>
      have grows := (sound.grows_start settings d name attributes isVoid).1
      refine ⟨?_, ?_⟩
      · rw [Builder.step, grows.size]
        exact Nat.lt_succ_of_lt closed.started
      · rw [Builder.step, start_openIds]
        split
        · exact closed.ended
        · intro isOpen
          rcases List.mem_cons.1 isOpen with rfl | isOpen
          · exact Nat.lt_irrefl _ closed.started
          · exact closed.ended isOpen
  | finish tag =>
      refine keeps (withoutText_finish b) ?_
      rw [Builder.step, openIds_finish]
      exact (List.tail_suffix b.openIds).subset
  | text content =>
      refine keeps (withoutText_text settings d b content) ?_
      rw [Builder.step, openIds_text]
      exact List.Subset.refl _
  | unmatchedEnd tag => exact closed

theorem Sealed.step (isSealed : b.Sealed id) : (b.step settings d event).1.Sealed id := by
  refine ⟨isSealed.toClosed.step settings d sound event, ?_⟩
  intro p within
  rw [parent?_eq_bare, sound.bare?_step settings d event isSealed.started, ← parent?_eq_bare]
    at within
  have started := Nat.lt_trans (sound.linked.parent_lt id p within) isSealed.started
  have closed : b.Closed p := ⟨started, isSealed.around p within⟩
  exact (closed.step settings d sound event).ended

end Ended

/-- A closed element keeps everything but its else branch, whatever is to come. -/
theorem Closed.run (sound : b.Sound) (closed : b.Closed id) (found : b.template.get? id = some e)
    (later : List Event) :
    ∃ branch, (b.run settings d later).1.template.get? id =
      some { e with elseBranch := branch } := by
  induction later generalizing b e with
  | nil => exact ⟨e.elseBranch, found⟩
  | cons event later ih =>
      obtain ⟨e', there, may⟩ := mayBecome_step settings d sound found event
      obtain ⟨branch, rfl⟩ := may.of_closed settings d closed.ended
      obtain ⟨final, ended⟩ :=
        ih (sound.step settings d event) (closed.step settings d sound event) there
      exact ⟨final, ended⟩

/-- An element within a closed one keeps everything, whatever is to come. -/
theorem Sealed.run (sound : b.Sound) (isSealed : b.Sealed id) (later : List Event) :
    (b.run settings d later).1.template.get? id = b.template.get? id := by
  induction later generalizing b with
  | nil => rfl
  | cons event later ih =>
      obtain ⟨e, found⟩ := exists_get?_of_lt isSealed.started
      obtain ⟨e', there, may⟩ := mayBecome_step settings d sound found event
      obtain rfl := may.of_sealed settings d sound isSealed
      rw [found, ← there]
      exact ih (sound.step settings d event) (isSealed.step settings d sound event)

theorem Nested.sealed_of_isAncestor (nested : b.Nested) (ended : x ∉ b.openIds)
    (ancestor : b.template.IsAncestor x id) : b.Sealed id := by
  refine ⟨⟨?_, fun isOpen => ended (nested.mem_of_isAncestor isOpen ancestor)⟩, ?_⟩
  · obtain ⟨p, within, -⟩ := isAncestor_iff.1 ancestor
    obtain ⟨e, found, -⟩ := Option.bind_eq_some_iff.1 within
    exact get?_lt found
  · intro p within isOpen
    rcases (isAncestor_iff_of_parent within).1 ancestor with rfl | further
    · exact ended isOpen
    · exact ended (nested.mem_of_isAncestor isOpen further)

/-- What is left for events to change in what there is. -/
structure Framed (settings : Settings) (d : Delimiters) (b : Builder) : Prop where
  /-- An event touches the innermost open element and the last element in it, if any. -/
  step : ∀ event id e, b.template.get? id = some e →
    ∃ e', (b.step settings d event).1.template.get? id = some e' ∧
      b.MayBecome settings d id e event e'
  /-- A closed element keeps everything but its else branch. -/
  closed : ∀ id e, b.template.get? id = some e → id ∉ b.openIds → ∀ later,
    ∃ branch, (b.run settings d later).1.template.get? id = some { e with elseBranch := branch }
  /-- What lies below a closed element is never changed again. -/
  below : ∀ x id, x ∉ b.openIds → b.template.IsAncestor x id → ∀ later,
    (b.run settings d later).1.template.get? id = b.template.get? id

theorem Nested.framed (nested : b.Nested) : b.Framed settings d where
  step event _ _ found := mayBecome_step settings d nested.sound found event
  closed _ _ found ended :=
    Closed.run settings d nested.sound ⟨get?_lt found, ended⟩ found
  below _ _ ended ancestor :=
    (nested.sealed_of_isAncestor ended ancestor).run settings d nested.sound

/-- Whatever events have come, the next one changes an element in the few ways above, and closed
elements stay as they are but for an else branch. None is marked as static. -/
theorem run_framed (settings : Settings) :
    (∀ d past, (({} : Builder).run settings d past).1.Framed settings d) ∧
      ∀ source, ParsesWith settings source fun _ parsed =>
        ∀ id e, parsed.template.get? id = some e → e.isStatic = false ∧ e.staticRoot = false := by
  refine ⟨?_, ?_⟩
  · intro d past
    have nested : (({} : Builder).run settings d past).1.Nested :=
      run_preserves_of_mem past (fun b event _ nested => nested.step settings d event) nested_empty
    exact nested.framed settings d
  · intro source
    apply parsesWith_of_build
    intro d opening closing id e found
    have unmarked : (buildTemplate settings d source).1.template.Every fun e =>
        e.isStatic = false ∧ e.staticRoot = false :=
      every_buildTemplate (fun _ _ _ => ⟨rfl, rfl⟩) source
    exact unmarked id e.bare (by rw [bare?, found, Option.map_some])

end Builder

end TemplateMarkup
