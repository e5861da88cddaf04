import TemplateMarkup.Proofs.Nesting
import TemplateMarkup.Proofs.Places
import TemplateMarkup.Proofs.RawRegions

/-!
# Direct reading

What a template holds can be read off the events directly, element by element: an element holds what
stands right inside it. A builder does not read so. It keeps the open elements, and one bit about
raw regions, from event to event, and changes elements that it made long before. `Follows` relates
the two after any number of events; that they agree at the end is `parse_readsDirectly`.
-/

namespace TemplateMarkup

open Text Event

namespace Template

/-- The element is written with the attribute that opens a raw region. -/
def writesRaw (t : Template) (id : Nat) : Bool :=
  (t.get? id).any fun e => e.attributes.any (·.name = "v-pre".toList)

/-- The child that text makes: an expression if the text has a span, is more than one space and
stands in no raw region. -/
def written (d : Delimiters) (inRawRegion : Bool) (s : Text) : Child :=
  if s ≠ [' '] ∧ inRawRegion = false then
    (Interpolation.ofText? d s).elim (.text s) .expression
  else .text s

/-- What a run of text adds to an element with this tag, behind the children it has so far. -/
def textIn (settings : Settings) (d : Delimiters) (tag : Text) (inRawRegion : Bool)
    (earlier : List Child) (s : Text) : List Child :=
  if tag = "pre".toList ∨ settings.dialect.isRawText tag = true ∨ s.any (!isBlank ·) = true then
    if decodeReferences s = [] then [] else [written d inRawRegion (decodeReferences s)]
  else if settings.preserveWhitespace = true ∧ earlier ≠ [] then [.text [' ']]
  else []

/-- What an event adds to the element right inside which it stands: a start its element, unless that
is forbidden or an else branch, and a run of text what is kept of it. -/
def contribution (settings : Settings) (d : Delimiters) (t : Template) (tag : Text)
    (earlier : List Child) : List Event × Event → List Child
  | (before, .start _ _ _) =>
    if (t.get? (starts before)).any (fun e => e.forbidden || e.isElse) then []
    else [.element (starts before)]
  | (before, .text s) =>
    textIn settings d tag ((openStarts before).any t.writesRaw) earlier s
  | (_, .finish _) => []
  | (_, .unmatchedEnd _) => []

/-- What the events right inside an element add to it, one after the other. -/
def gathered (settings : Settings) (d : Delimiters) (t : Template) (tag : Text)
    (events : List Event) (id : Nat) : List Child :=
  (inside events id).foldl
    (fun earlier place => earlier ++ contribution settings d t tag earlier place) []

/-- All but the last of these, if that is a single space. -/
def withoutLastSpace : List Child → List Child
  | [] => []
  | child :: more =>
    if more = [] ∧ child = .text [' '] then [] else child :: withoutLastSpace more

/-- What an element holds after some events: all that was added to it, and once it has ended without
a single space at the end. -/
def heldAfter (settings : Settings) (d : Delimiters) (t : Template) (tag : Text)
    (done : List Event) (id : Nat) : List Child :=
  if id ∈ openStarts done then gathered settings d t tag done id
  else withoutLastSpace (gathered settings d t tag done id)

/-- The template is what the events say when they are read directly. -/
structure ReadsDirectly (settings : Settings) (d : Delimiters) (events : List Event)
    (t : Template) : Prop where
  /-- There is one element for each start. -/
  size : t.size = starts events
  /-- Elements come in the order of their starts, each within the one that was innermost there. -/
  element : ∀ before name attributes isVoid,
    (before, .start name attributes isVoid) ∈ places events →
    ∃ e, t.get? (starts before) = some e ∧ e.tag = (Builder.canonicalTag name).1 ∧
      e.attributes = attributes ∧ e.parent = (openStarts before).head?
  /-- An element holds what was added right inside it, without a single space at the end. -/
  children : ∀ id e, t.get? id = some e →
    e.children = withoutLastSpace (gathered settings d t e.tag events id)

variable {settings : Settings} {d : Delimiters} {t t' : Template} {tag : Text}
variable {done : List Event} {event : Event} {id : Nat}

/-- A single space is taken away if nothing comes behind it. What comes first stays. -/
theorem withoutLastSpace_append_cons (front back : List Child) (child : Child) :
    withoutLastSpace (front ++ child :: back) = front ++
      if back = [] ∧ child = .text [' '] then [] else child :: withoutLastSpace back := by
  induction front with
  | nil => rfl
  | cons first front ih =>
      have more : ¬ (front ++ child :: back = [] ∧ first = .text [' ']) := by simp
      rw [List.cons_append, withoutLastSpace, if_neg more, ih, List.cons_append]

theorem writesRaw_eq_bare :
    t.writesRaw id = (t.bare? id).any fun e => e.attributes.any (·.name = "v-pre".toList) :=
  t.any_get?_eq_bare id fun _ => rfl

theorem gathered_concat :
    gathered settings d t tag (done ++ [event]) id =
      gathered settings d t tag done id ++
        if (openStarts done).head? = some id then
          contribution settings d t tag (gathered settings d t tag done id) (done, event)
        else [] := by
  rw [gathered, inside_concat, List.foldl_append, ← gathered]
  split
  · rfl
  · exact (List.append_nil _).symm

/-- Nothing is gathered for an element that has not started. -/
theorem gathered_eq_nil (later : starts done ≤ id) : gathered settings d t tag done id = [] := by
  rw [gathered, inside_eq_nil later, List.foldl_nil]

/-- What is gathered depends only on what is settled when the elements so far start. -/
theorem gathered_congr (same : ∀ i < starts done, t'.bare? i = t.bare? i) :
    gathered settings d t' tag done id = gathered settings d t tag done id := by
  apply List.foldl_ext
  rintro earlier ⟨before, event⟩ member
  have place : (before, event) ∈ places done := List.mem_of_mem_filter member
  congr 1
  cases event with
  | start name attributes isVoid =>
      have unlinked : ∀ e : Element,
          (e.bare.forbidden || e.bare.isElse) = (e.forbidden || e.isElse) := fun _ => rfl
      rw [contribution, any_get?_eq_bare _ _ unlinked, same _ (starts_lt_of_mem_places place rfl),
        ← any_get?_eq_bare _ _ unlinked]
      rfl
  | text s =>
      obtain ⟨after, whole⟩ := exists_of_mem_places place
      have sameRaw : (openStarts before).any t'.writesRaw =
          (openStarts before).any t.writesRaw := by
        rw [Bool.eq_iff_iff, List.any_eq_true, List.any_eq_true]
        refine exists_congr fun i => and_congr_right fun isOpen => ?_
        have started := lt_of_mem_openStarts isOpen
        have still := starts_le_of_append before (.text s :: after)
        rw [← whole] at still
        rw [writesRaw_eq_bare, same i (Nat.lt_of_lt_of_le started still), ← writesRaw_eq_bare]
      rw [contribution, sameRaw]
      rfl
  | finish name => rfl
  | unmatchedEnd name => rfl

theorem heldAfter_congr (same : ∀ i < starts done, t'.bare? i = t.bare? i) :
    heldAfter settings d t' tag done id = heldAfter settings d t tag done id := by
  rw [heldAfter, gathered_congr same, ← heldAfter]

/-- An event that leaves the element open, or closed, adds to what it holds if it stands right
inside it. -/
theorem heldAfter_concat
    (stays : id ∈ openStarts (done ++ [event]) ↔ id ∈ openStarts done) :
    heldAfter settings d t tag (done ++ [event]) id =
      heldAfter settings d t tag done id ++
        if (openStarts done).head? = some id then
          contribution settings d t tag (heldAfter settings d t tag done id) (done, event)
        else [] := by
  rw [heldAfter, gathered_concat, heldAfter]
  simp only [stays]
  by_cases innermost : (openStarts done).head? = some id
  · have isOpen := List.mem_of_head? innermost
    simp only [innermost, isOpen, ↓reduceIte]
  · simp only [innermost, ↓reduceIte, List.append_nil]

/-- The end of an element takes a single space at the end away. -/
theorem heldAfter_finish {name : Text} :
    heldAfter settings d t tag (done ++ [.finish name]) id =
      if (openStarts done).head? = some id then
        withoutLastSpace (heldAfter settings d t tag done id)
      else heldAfter settings d t tag done id := by
  have nothing : ∀ earlier, contribution settings d t tag earlier (done, .finish name) = [] :=
    fun _ => rfl
  rw [heldAfter, gathered_concat, heldAfter, nothing, ite_self, List.append_nil, openStarts_concat]
  have decreasing := pairwise_openStarts done
  cases isOpen : openStarts done with
  | nil => simp
  | cons last outer =>
      rw [isOpen, List.pairwise_cons] at decreasing
      simp only [List.tail_cons, List.head?_cons, Option.some.injEq, List.mem_cons]
      by_cases same : last = id
      · have closed : id ∉ outer := by
          intro member
          exact absurd (decreasing.1 id member) (by omega)
        simp [same, closed]
      · by_cases isOuter : id ∈ outer <;> simp [same, Ne.symm same, isOuter]

/-- An element that has just started holds nothing yet. -/
theorem heldAfter_size : heldAfter settings d t tag (done ++ [event]) (starts done) = [] := by
  have outside : (openStarts done).head? ≠ some (starts done) := by
    intro innermost
    exact Nat.lt_irrefl _ (lt_of_mem_openStarts (List.mem_of_head? innermost))
  rw [heldAfter, gathered_concat, gathered_eq_nil (Nat.le_refl _), if_neg outside, List.append_nil,
    withoutLastSpace, ite_self]

/-- The element of a start, if it is to be a child. -/
theorem contribution_start {e : Element} {earlier : List Child} {name : Text}
    {attributes : List Attribute} {isVoid : Bool} (made : t.bare? (starts done) = some e) :
    contribution settings d t tag earlier (done, .start name attributes isVoid) =
      if e.forbidden || e.isElse then [] else [.element (starts done)] := by
  obtain ⟨e', found, rfl⟩ := Option.map_eq_some_iff.1 made
  rw [contribution, found]
  rfl

end Template

/-! ### Building -/

namespace Builder

open Template

theorem withoutLastSpace_eq (children : List Child) :
    withoutLastSpace children = dropTrailingSpace children := by
  rw [dropTrailingSpace]
  cases children using List.reverseRecOn with
  | nil => rfl
  | append_singleton front last =>
      rw [withoutLastSpace_append_cons, List.getLast?_concat, List.dropLast_concat]
      by_cases isSpace : last = .text [' ']
      · rw [if_pos ⟨rfl, isSpace⟩, if_pos (congrArg some isSpace), List.append_nil]
      · rw [if_neg fun both => isSpace both.2, if_neg fun same => isSpace (Option.some.inj same)]
        rfl

theorem written_eq (d : Delimiters) (inRawRegion : Bool) (s : Text) :
    written d inRawRegion s = textChild d inRawRegion s := by
  rw [written, textChild]
  cases inRawRegion with
  | true => simp
  | false =>
      by_cases single : s = [' ']
      · simp [single]
      · simp only [single, ne_eq, not_false_eq_true, and_self, ↓reduceIte, decide_false,
          Bool.or_self, Bool.false_eq_true]
        cases Interpolation.ofText? d s <;> rfl

/-- What a builder keeps of a run of text is what the text adds to the element. -/
theorem textIn_eq (settings : Settings) (d : Delimiters) (e : Element) (inRawRegion : Bool)
    (s : Text) :
    textIn settings d e.tag inRawRegion e.children s =
      if keptText settings e s ≠ [] then [textChild d inRawRegion (keptText settings e s)]
      else [] := by
  have content : (decide (e.tag = "pre".toList) || settings.dialect.isRawText e.tag ||
      !isAllBlank s) = true ↔
      e.tag = "pre".toList ∨ settings.dialect.isRawText e.tag = true ∨
        s.any (!isBlank ·) = true := by
    rw [Bool.or_eq_true, Bool.or_eq_true, decide_eq_true_iff, isAllBlank, List.not_all_eq_any_not,
      or_assoc]
  have separates : (settings.preserveWhitespace && !e.children.isEmpty) = true ↔
      settings.preserveWhitespace = true ∧ e.children ≠ [] := by
    simp
  rw [textIn, keptText]
  simp only [content, separates]
  split
  · rw [written_eq, ite_not]
  · split
    · rw [if_pos (List.cons_ne_nil _ _), ← written_eq]
      simp [written]
    · simp

namespace RawTracked

/-- A builder is in a raw region if an open element is written with the attribute for one. -/
theorem any_writesRaw {d : Delimiters} {b : Builder} (tracked : b.RawTracked d) :
    b.openIds.any b.template.writesRaw = b.inRawRegion := by
  rw [Bool.eq_iff_iff, tracked.inRawRegion_iff, List.any_eq_true]
  have written : ∀ {id e}, b.template.bare? id = some e →
      (b.template.writesRaw id = true ↔ ∃ a ∈ e.attributes, a.name = "v-pre".toList) := by
    intro id e found
    rw [writesRaw_eq_bare, found, Option.any_some, List.any_eq_true]
    simp only [decide_eq_true_eq]
  constructor
  · rintro ⟨id, isOpen, writes⟩
    obtain ⟨e, found⟩ : ∃ e, b.template.bare? id = some e := by
      rw [writesRaw_eq_bare, Option.any_eq_true] at writes
      exact ⟨_, writes.choose_spec.1⟩
    by_cases within : b.template.WithinRaw id
    · obtain ⟨a, ancestor, opens⟩ := within
      exact ⟨a, tracked.nested.mem_of_isAncestor isOpen ancestor, opens⟩
    · have opens := (tracked.marked id e found).pre_iff.2 ⟨(written found).1 writes, within⟩
      exact ⟨id, isOpen, by rw [opensRaw_eq_bare, found]; exact opens⟩
  · rintro ⟨id, isOpen, opens⟩
    rw [opensRaw_eq_bare, Option.any_eq_true] at opens
    obtain ⟨e, found, pre⟩ := opens
    exact ⟨id, isOpen, (written found).2 ((tracked.marked id e found).pre_iff.1 pre).1⟩

end RawTracked

/-- After these events the builder has what a direct reading of them has. -/
structure Follows (settings : Settings) (d : Delimiters) (done : List Event) (b : Builder) :
    Prop where
  tracked : b.RawTracked d
  openIds : b.openIds = openStarts done
  size : b.template.size = starts done
  element : ∀ before name attributes isVoid,
    (before, .start name attributes isVoid) ∈ places done →
    ∃ e, b.template.bare? (starts before) = some e ∧ e.tag = (canonicalTag name).1 ∧
      e.attributes = attributes ∧ e.parent = (openStarts before).head?
  content : ∀ id e, b.template.bare? id = some e →
    b.template.content id = heldAfter settings d b.template e.tag done id

namespace Follows

variable {settings : Settings} {d : Delimiters} {done : List Event} {event : Event}
variable {b b' : Builder} (follows : b.Follows settings d done)

include follows

/-- An event that starts nothing is followed if what the elements hold is. -/
theorem of_withoutText (tracked : b'.RawTracked d)
    (openIds : b'.openIds = openStarts (done ++ [event]))
    (same : b'.template.withoutText = b.template.withoutText) (noStart : event.isStart = false)
    (content : ∀ id e, b.template.bare? id = some e →
      b'.template.content id = heldAfter settings d b.template e.tag (done ++ [event]) id) :
    b'.Follows settings d (done ++ [event]) := by
  have sameBare : ∀ i, b'.template.bare? i = b.template.bare? i := by
    intro i
    exact bare?_of_withoutText _ i same
  refine ⟨tracked, openIds, ?_, ?_, ?_⟩
  · rw [size_of_withoutText _ same, follows.size, starts_concat, noStart]
    rfl
  · intro before name attributes isVoid place
    rw [places_concat, List.mem_append, List.mem_singleton] at place
    rcases place with earlier | here
    · rw [sameBare]
      exact follows.element before name attributes isVoid earlier
    · obtain ⟨-, rfl⟩ := Prod.mk.inj here
      simp [isStart] at noStart
  · intro id e found
    rw [sameBare] at found
    rw [content id e found, heldAfter_congr fun i _ => sameBare i]

theorem finish (name : Text) (tracked : b.finish.RawTracked d) :
    b.finish.Follows settings d (done ++ [.finish name]) := by
  refine follows.of_withoutText tracked ?_ (withoutText_finish b) rfl ?_
  · rw [openIds_finish, follows.openIds, openStarts_concat]
  · intro id e found
    rw [content_finish follows.tracked.nested.sound, follows.openIds, follows.content id e found,
      heldAfter_finish, withoutLastSpace_eq]

theorem unmatchedEnd (name : Text) : b.Follows settings d (done ++ [.unmatchedEnd name]) := by
  refine follows.of_withoutText follows.tracked ?_ rfl rfl ?_
  · rw [follows.openIds, openStarts_concat]
  · intro id e found
    have stays : id ∈ openStarts (done ++ [.unmatchedEnd name]) ↔ id ∈ openStarts done := by
      rw [openStarts_concat]
    rw [follows.content id e found, heldAfter_concat stays]
    simp [contribution]

theorem text (s : Text) (tracked : (b.text settings d s).1.RawTracked d) :
    (b.text settings d s).1.Follows settings d (done ++ [.text s]) := by
  refine follows.of_withoutText tracked ?_ (withoutText_text settings d b s) rfl ?_
  · rw [openIds_text, follows.openIds, openStarts_concat]
  · intro id e found
    have stays : id ∈ openStarts (done ++ [.text s]) ↔ id ∈ openStarts done := by
      rw [openStarts_concat]
    rw [heldAfter_concat stays, ← follows.content id e found, ← follows.openIds]
    by_cases innermost : b.openIds.head? = some id
    · obtain ⟨e', found', bare⟩ := Option.map_eq_some_iff.1 found
      have tag : e.tag = e'.tag := by
        rw [← bare]
        rfl
      rw [content_text follows.tracked.nested.sound settings d id innermost found', contribution,
        ← follows.openIds, follows.tracked.any_writesRaw, tag, content_of_get? _ found', textIn_eq]
      simp [innermost]
    · rw [content_text_of_ne follows.tracked.nested.sound settings d id innermost]
      simp [innermost]

section Start

variable (name : Text) (attributes : List Attribute) (isVoid : Bool)

theorem bare?_start_of_lt {i : Nat} (started : i < starts done) :
    (b.start settings d name attributes isVoid).1.template.bare? i = b.template.bare? i := by
  rw [follows.tracked.bare?_start, follows.size, if_neg (Nat.ne_of_lt started)]

theorem bare?_start_last :
    (b.start settings d name attributes isVoid).1.template.bare? (starts done) =
      some (b.makeElement settings d name attributes).1.bare := by
  rw [follows.tracked.bare?_start, follows.size, if_pos rfl]

/-- A new element is added to what the innermost open one holds, if it is to be a child. -/
theorem content_start_of_lt {i : Nat} {e : Element} (started : i < starts done)
    (found : b.template.bare? i = some e) :
    (b.start settings d name attributes isVoid).1.template.content i =
      heldAfter settings d (b.start settings d name attributes isVoid).1.template e.tag
        (done ++ [.start name attributes isVoid]) i := by
  have stays : i ∈ openStarts (done ++ [.start name attributes isVoid]) ↔ i ∈ openStarts done := by
    rw [openStarts_concat]
    cases isVoid with
    | true => rfl
    | false => simp [Nat.ne_of_lt started]
  have same : heldAfter settings d (b.start settings d name attributes isVoid).1.template e.tag
      done i = heldAfter settings d b.template e.tag done i :=
    heldAfter_congr fun _ started => follows.bare?_start_of_lt name attributes isVoid started
  rw [content_start follows.tracked.nested.sound, heldAfter_concat stays, same,
    contribution_start (follows.bare?_start_last name attributes isVoid),
    ← follows.content i e found, ← follows.openIds, ← follows.size]
  congr 1
  have parent := (b.makeElement_links settings d name attributes).1
  by_cases innermost : b.openIds.head? = some i
  · have child : (b.makeElement settings d name attributes).1.isChildOf i =
        !((b.makeElement settings d name attributes).1.bare.forbidden ||
          (b.makeElement settings d name attributes).1.bare.isElse) := by
      rw [Element.isChildOf, parent, innermost, decide_eq_true rfl, Bool.true_and, ← Bool.not_or]
      rfl
    rw [child, if_pos innermost]
    split
    next listed =>
      rw [Bool.not_eq_true'] at listed
      rw [listed]
      rfl
    next unlisted =>
      rw [Bool.not_eq_true', Bool.not_eq_false] at unlisted
      rw [unlisted]
      rfl
  · simp [Element.isChildOf, parent, innermost]

theorem start (tracked : (b.start settings d name attributes isVoid).1.RawTracked d) :
    (b.start settings d name attributes isVoid).1.Follows settings d
      (done ++ [.start name attributes isVoid]) := by
  have sound := follows.tracked.nested.sound
  have made := follows.bare?_start_last name attributes isVoid
  refine ⟨tracked, ?_, ?_, ?_, ?_⟩
  · rw [start_openIds, follows.openIds, follows.size, openStarts_concat]
    cases isVoid <;> rfl
  · rw [(sound.grows_start settings d name attributes isVoid).1.size, follows.size, starts_concat]
    rfl
  · intro before name' attributes' isVoid' place
    rw [places_concat, List.mem_append, List.mem_singleton] at place
    rcases place with earlier | here
    · rw [follows.bare?_start_of_lt name attributes isVoid (starts_lt_of_mem_places earlier rfl)]
      exact follows.element before name' attributes' isVoid' earlier
    · obtain ⟨rfl, same⟩ := Prod.mk.inj here
      obtain ⟨rfl, rfl, rfl⟩ := Event.start.inj same
      refine ⟨_, made, rfl, rfl, ?_⟩
      rw [← follows.openIds]
      rfl
  · intro id e found
    by_cases new : id = starts done
    · have noChild : (b.makeElement settings d name attributes).1.isChildOf id = false := by
        rw [Bool.eq_false_iff]
        intro isChild
        have within : (b.makeElement settings d name attributes).1.parent = some id := by
          simp [Element.isChildOf] at isChild
          exact isChild.1.1
        have before := sound.parent_lt settings d name attributes within
        rw [new, follows.size] at before
        exact Nat.lt_irrefl _ before
      have empty : b.template.content id = [] := by
        rw [Template.content, b.template.get?_eq_none id (by rw [follows.size, new])]
        rfl
      rw [content_start sound, noChild, empty, new, heldAfter_size]
      rfl
    · rw [follows.tracked.bare?_start, follows.size, if_neg new] at found
      obtain ⟨e', there, -⟩ := Option.map_eq_some_iff.1 found
      have started := get?_lt there
      rw [follows.size] at started
      exact follows.content_start_of_lt name attributes isVoid started found

end Start

theorem step (opening : d.opening ≠ []) (closing : d.closing ≠ []) (event : Event) :
    (b.step settings d event).1.Follows settings d (done ++ [event]) := by
  have tracked := follows.tracked.step settings opening closing event
  cases event with
  | start name attributes isVoid => exact follows.start name attributes isVoid tracked
  | finish name => exact follows.finish name tracked
  | text s => exact follows.text s tracked
  | unmatchedEnd name => exact follows.unmatchedEnd name

theorem run (opening : d.opening ≠ []) (closing : d.closing ≠ []) (later : List Event) :
    (b.run settings d later).1.Follows settings d (done ++ later) :=
  run_preserves_after (P := fun done b _ => b.Follows settings d done)
    (fun _ _ _ event follows => follows.step opening closing event) later done [] follows

/-- Once all elements have ended, the builder has made what a direct reading makes. -/
theorem readsDirectly (ended : openStarts done = []) :
    b.template.ReadsDirectly settings d done where
  size := follows.size
  element before name attributes isVoid place := by
    obtain ⟨e, found, tag, written, parent⟩ := follows.element before name attributes isVoid place
    obtain ⟨e', there, rfl⟩ := Option.map_eq_some_iff.1 found
    exact ⟨e', there, tag, written, parent⟩
  children id e found := by
    have held := follows.content id e.bare (by rw [bare?, found]; rfl)
    rw [content_of_get? _ found, heldAfter, ended, if_neg List.not_mem_nil] at held
    exact held

end Follows

theorem follows_empty (settings : Settings) (d : Delimiters) :
    ({} : Builder).Follows settings d [] where
  tracked := rawTracked_empty d
  openIds := rfl
  size := rfl
  element before name attributes isVoid place := absurd place List.not_mem_nil
  content id e found := absurd found (by simp [bare?, get?])

end Builder

/-- Whatever the source and the settings, the template is what the events of the source say when
they are read directly. -/
theorem parse_readsDirectly (settings : Settings) (source : Text) :
    ParsesWith settings source fun d parsed =>
      parsed.template.ReadsDirectly settings d
        (events settings.dialect settings.expectHtml source) := by
  apply parsesWith_of_build
  intro d opening closing
  have follows := (Builder.follows_empty settings d).run opening closing
    (events settings.dialect settings.expectHtml source)
  have ended : openStarts (events settings.dialect settings.expectHtml source) = [] := by
    have replay := Reading.replay_run settings.dialect settings.expectHtml { rest := source }
    exact List.eq_nil_of_length_eq_zero (length_openStarts replay.replayAll?_eq)
  exact follows.readsDirectly ended

/-- In this list the space between two items stays and the one behind the last does not, and a
style sheet between the items leaves no trace. -/
example : (parse {}
    "<ul> <li>a<br>b </li><style>c</style> <li v-pre>d</li> </ul>".toList).toOption.map
      (fun p => (List.range 5).map p.template.content) =
    some [[.element 1, .text [' '], .element 4], [.text ['a'], .element 2, .text ['b', ' ']], [],
      [.text ['c']], [.text ['d']]] := by
  decide +kernel

end TemplateMarkup
