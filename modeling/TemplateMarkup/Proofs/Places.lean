import Mathlib.Data.List.Infix
import TemplateMarkup.Proofs.Nesting

/-!
# Places in a list of events

Where an event stands in a list of events is told by the events before it, without a stack that is
carried along. Looking back from a place, an end hides the start it closes; the starts that nothing
hides are the elements open there, the nearest one innermost (`openStarts`). An element is known by
the number of starts before its own.
-/

namespace TemplateMarkup

namespace Event

def isStart : Event → Bool
  | start _ _ _ => true
  | _ => false

def starts (events : List Event) : Nat :=
  events.countP isStart

/-- The elements that are found open in looking back over events, the latest of them first, when the
starts that `ended` ends behind them have closed are still to be met. A void start opens nothing. -/
def lookBack : Nat → List Event → List Nat
  | _, [] => []
  | 0, start _ _ false :: before => starts before :: lookBack 0 before
  | ended + 1, start _ _ false :: before => lookBack ended before
  | ended, finish _ :: before => lookBack (ended + 1) before
  | ended, _ :: before => lookBack ended before

/-- The elements that are open behind the events, innermost first. -/
def openStarts (before : List Event) : List Nat :=
  lookBack 0 before.reverse

/-- Each event with the events before it. -/
def places (events : List Event) : List (List Event × Event) :=
  events.inits.zip events

/-- The places directly inside an element: those where it is the innermost open one. -/
def inside (events : List Event) (id : Nat) : List (List Event × Event) :=
  (places events).filter fun place => (openStarts place.1).head? = some id

variable {events before done : List Event} {event : Event} {id : Nat}

theorem starts_concat (done : List Event) (event : Event) :
    starts (done ++ [event]) = starts done + if event.isStart then 1 else 0 := by
  rw [starts, List.countP_append, List.countP_singleton]
  rfl

theorem starts_le_of_append (before after : List Event) :
    starts before ≤ starts (before ++ after) := by
  rw [starts, starts, List.countP_append]
  exact Nat.le_add_right _ _

theorem starts_reverse (before : List Event) : starts before.reverse = starts before :=
  List.countP_reverse

/-! ### Looking back -/

/-- One more end behind the events hides the innermost element. -/
theorem lookBack_succ (ended : Nat) (before : List Event) :
    lookBack (ended + 1) before = (lookBack ended before).tail := by
  induction before generalizing ended with
  | nil => cases ended <;> rfl
  | cons event before ih =>
      cases event with
      | start name attributes isVoid =>
          cases isVoid with
          | true => simpa only [lookBack] using ih ended
          | false =>
              cases ended with
              | zero => rfl
              | succ ended => simpa only [lookBack] using ih ended
      | finish tag => simpa only [lookBack] using ih (ended + 1)
      | text content => simpa only [lookBack] using ih ended
      | unmatchedEnd tag => simpa only [lookBack] using ih ended

/-- What the next event does to the open elements. -/
theorem openStarts_concat (done : List Event) (event : Event) :
    openStarts (done ++ [event]) =
      match event with
      | start _ _ false => starts done :: openStarts done
      | finish _ => (openStarts done).tail
      | _ => openStarts done := by
  rw [openStarts, List.reverse_append, List.reverse_singleton, List.singleton_append]
  cases event with
  | start name attributes isVoid =>
      cases isVoid with
      | true => rfl
      | false => simp only [lookBack, starts_reverse, openStarts]
  | finish tag => exact lookBack_succ 0 done.reverse
  | text content => rfl
  | unmatchedEnd tag => rfl

/-- An element that is open has started. -/
theorem lt_of_mem_openStarts (isOpen : id ∈ openStarts done) : id < starts done := by
  induction done using List.reverseRecOn with
  | nil => exact absurd isOpen List.not_mem_nil
  | append_singleton done event ih =>
      have kept : id ∈ openStarts done → id < starts (done ++ [event]) := by
        intro isOpen
        exact Nat.lt_of_lt_of_le (ih isOpen) (starts_le_of_append done [event])
      rw [openStarts_concat] at isOpen
      split at isOpen
      next =>
        rcases List.mem_cons.1 isOpen with rfl | isOpen
        · rw [starts_concat]
          exact Nat.lt_succ_self _
        · exact kept isOpen
      next => exact kept (List.mem_of_mem_tail isOpen)
      next => exact kept isOpen

/-- Elements that started later are open further inside. -/
theorem pairwise_openStarts (done : List Event) : (openStarts done).Pairwise (· > ·) := by
  induction done using List.reverseRecOn with
  | nil => exact .nil
  | append_singleton done event ih =>
      rw [openStarts_concat]
      split
      next => exact .cons (fun id isOpen => lt_of_mem_openStarts isOpen) ih
      next => exact ih.tail
      next => exact ih

/-- Where the ends replay, as many elements are open as tags. -/
theorem length_openStarts {tags : OpenTags} (replayed : replayAll? [] done = some tags) :
    (openStarts done).length = tags.length := by
  induction done using List.reverseRecOn generalizing tags with
  | nil =>
      obtain rfl := Option.some.inj replayed
      rfl
  | append_singleton done event ih =>
      rw [replayAll?, List.foldlM_append] at replayed
      obtain ⟨middle, first, last⟩ := Option.bind_eq_some_iff.1 replayed
      have last : event.replay? middle = some tags := by simpa using last
      have lengths := ih first
      rw [openStarts_concat]
      cases event with
      | start name attributes isVoid =>
          obtain rfl := Option.some.inj last
          cases isVoid <;> simp [lengths]
      | finish tag =>
          simp only [replay?] at last
          split at last
          · simp at last
          · split at last
            · obtain rfl := Option.some.inj last
              simp [lengths]
            · simp at last
      | text content =>
          obtain rfl := Option.some.inj last
          exact lengths
      | unmatchedEnd tag =>
          obtain rfl := Option.some.inj last
          exact lengths

/-! ### Places -/

/-- The last of the initial segments is the list itself. -/
theorem exists_inits_eq (done : List Event) :
    ∃ front, done.inits = front ++ [done] ∧ front.length = done.length := by
  cases done using List.reverseRecOn with
  | nil => exact ⟨[], rfl, rfl⟩
  | append_singleton done event => exact ⟨done.inits, by simp [List.inits_append], by simp⟩

theorem places_concat (done : List Event) (event : Event) :
    places (done ++ [event]) = places done ++ [(done, event)] := by
  obtain ⟨front, inits, length⟩ := exists_inits_eq done
  have longer : (done ++ [event]).inits = front ++ ([done] ++ [done ++ [event]]) := by
    simp [List.inits_append, inits]
  have shorter : places done = (front ++ [done]).zip (done ++ []) := by
    rw [places, inits, List.append_nil]
  rw [shorter, places, longer, List.zip_append length, List.zip_append length]
  simp

theorem inside_concat (done : List Event) (event : Event) (id : Nat) :
    inside (done ++ [event]) id =
      inside done id ++ if (openStarts done).head? = some id then [(done, event)] else [] := by
  rw [inside, places_concat, List.filter_append, inside, List.filter_cons, List.filter_nil]
  simp only [decide_eq_true_eq]

/-- Nothing stands inside an element that has not started. -/
theorem inside_eq_nil (later : starts done ≤ id) : inside done id = [] := by
  induction done using List.reverseRecOn with
  | nil => rfl
  | append_singleton done event ih =>
      have earlier := Nat.le_trans (starts_le_of_append done [event]) later
      rw [inside_concat, ih earlier, if_neg, List.append_nil]
      intro innermost
      have started := lt_of_mem_openStarts (List.mem_of_head? innermost)
      exact Nat.not_lt_of_le earlier started

/-- A place is a cut of the list right before an event. -/
theorem exists_of_mem_places (place : (before, event) ∈ places events) :
    ∃ after, events = before ++ event :: after := by
  induction events using List.reverseRecOn with
  | nil => exact absurd place List.not_mem_nil
  | append_singleton done last ih =>
      rw [places_concat, List.mem_append, List.mem_singleton] at place
      rcases place with earlier | here
      · obtain ⟨after, rfl⟩ := ih earlier
        exact ⟨after ++ [last], by simp⟩
      · obtain ⟨rfl, rfl⟩ := Prod.mk.inj here
        exact ⟨[], rfl⟩

/-- Each start has a place. -/
theorem exists_place_of_lt (started : id < starts events) :
    ∃ before name attributes isVoid,
      (before, .start name attributes isVoid) ∈ places events ∧ starts before = id := by
  induction events using List.reverseRecOn with
  | nil => exact absurd started (Nat.not_lt_zero _)
  | append_singleton done event ih =>
      rw [places_concat]
      by_cases earlier : id < starts done
      · obtain ⟨before, name, attributes, isVoid, place, same⟩ := ih earlier
        exact ⟨before, name, attributes, isVoid, List.mem_append_left _ place, same⟩
      · rw [starts_concat] at started
        cases event with
        | start name attributes isVoid =>
            have last : starts done = id :=
              Nat.le_antisymm (Nat.le_of_not_lt earlier) (Nat.le_of_lt_succ started)
            exact ⟨done, name, attributes, isVoid, List.mem_append_right _ List.mem_cons_self, last⟩
        | _ => exact absurd started earlier

theorem starts_lt_of_mem_places (place : (before, event) ∈ places events)
    (isStart : event.isStart = true) : starts before < starts events := by
  obtain ⟨after, rfl⟩ := exists_of_mem_places place
  have least := starts_le_of_append (before ++ [event]) after
  rw [starts_concat, if_pos isStart, List.append_assoc, List.singleton_append] at least
  exact Nat.lt_of_succ_le least

end Event

end TemplateMarkup
