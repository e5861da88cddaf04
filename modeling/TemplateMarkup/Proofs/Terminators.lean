import TemplateMarkup.Markup.Terminator
import TemplateMarkup.Proofs.Occurrence

/-!
# Truthful searches

A search that was kept is evidence about the source it was made in. `Terminators.Truthful` says that
all of it is correct, and a lookup in truthful searches is the fresh search that it saves: neither
the answer nor the invariant depends on where the search was made that gives it.
-/

namespace TemplateMarkup

/-- The offset of the first occurrence of the terminator in the source, from `offset` on. -/
def Terminator.firstFrom (t : Terminator) (source : Text) (offset : Nat) : Option Nat :=
  (Text.find? t.mark (source.drop offset)).map (offset + ·)

/-- The search found the first occurrence there is. -/
def Search.Truthful (source : Text) (t : Terminator) (search : Search) : Prop :=
  search.found = t.firstFrom source search.start

/-- A truthful search answers only with the first occurrence from the place it is asked about. -/
theorem Search.Truthful.answer {source : Text} {t : Terminator} {search : Search} {offset : Nat}
    {found : Option Nat} (truthful : search.Truthful source t)
    (answered : search.answer? offset = some found) : found = t.firstFrom source offset := by
  rw [answer?] at answered
  split at answered
  case isFalse => simp at answered
  case isTrue ahead =>
    have later : source.drop offset = (source.drop search.start).drop (offset - search.start) := by
      rw [List.drop_drop, Nat.add_sub_cancel' ahead]
    rw [Truthful, Terminator.firstFrom] at truthful
    rw [Terminator.firstFrom, later]
    split at answered
    next nothing =>
      obtain rfl := Option.some.inj answered
      rw [nothing] at truthful
      rw [Text.find?_drop_of_eq_none (Option.map_eq_none_iff.1 truthful.symm)]
      rfl
    next i place =>
      split at answered
      case isFalse => simp at answered
      case isTrue notBehind =>
        obtain rfl := Option.some.inj answered
        rw [place] at truthful
        obtain ⟨j, first, rfl⟩ := Option.map_eq_some_iff.1 truthful.symm
        rw [Text.find?_drop_of_le first (by omega), Option.map_some]
        congr 1
        omega

namespace Terminators

/-- What holds of all searches that were kept still does when one more is kept of which it holds. -/
theorem forall_keep {P : Terminator → Search → Prop} {searches : Terminators} {t : Terminator}
    {search : Search} (all : ∀ u other, searches.last? u = some other → P u other)
    (new : P t search) : ∀ u other, (searches.keep search t).last? u = some other → P u other := by
  intro u other kept
  by_cases same : u = t
  · subst u
    rw [last?_keep_self] at kept
    obtain rfl := Option.some.inj kept
    exact new
  · rw [last?_keep_of_ne searches search same] at kept
    exact all u other kept

/-- Every search that was kept is correct about the source. -/
def Truthful (source : Text) (searches : Terminators) : Prop :=
  ∀ t search, searches.last? t = some search → search.Truthful source t

theorem truthful_empty (source : Text) : Truthful source {} := by
  intro t search kept
  cases t <;> cases kept

theorem Truthful.keep {source : Text} {searches : Terminators} (truthful : searches.Truthful source)
    {t : Terminator} {search : Search} (correct : search.Truthful source t) :
    (searches.keep search t).Truthful source :=
  forall_keep truthful correct

/-- A lookup finds what a search from the same place finds, and what is kept stays correct. -/
theorem Truthful.find {source : Text} {searches : Terminators}
    (truthful : searches.Truthful source) (t : Terminator) {offset : Nat} {s : Text}
    (place : s = source.drop offset) :
    ∃ kept, searches.find t offset s = (t.firstFrom source offset, kept) ∧
      kept.Truthful source := by
  subst place
  rw [Terminators.find]
  split
  next found answered =>
    obtain ⟨search, last, answered⟩ := Option.bind_eq_some_iff.1 answered
    refine ⟨searches, ?_, truthful⟩
    rw [(truthful t search last).answer answered]
  next => exact ⟨_, rfl, truthful.keep rfl⟩

end Terminators

end TemplateMarkup
