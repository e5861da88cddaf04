import Mathlib.Data.List.Forall2
import TemplateMarkup.Proofs.ByteOffsets
import TemplateMarkup.Proofs.Terminators

/-!
# Lookups in any order

A reader looks for terminators from places that lie ever further on. The kept searches do not depend
on that: whatever lookups are made one after the other, from places forward or backward and of any
terminators, each is answered with the first occurrence from its own place on. That is so whether
offsets count characters (`find`) or bytes (`findByte?`); in bytes a search begins with a cut, and
the lookups succeed at all places between characters.
-/

namespace TemplateMarkup

open Text

/-- The answer is the first offset from `offset` on at which something holds, or `none` if it holds
at none. -/
def IsFirstFrom (holds : Nat → Prop) (offset : Nat) : Option Nat → Prop
  | some i => offset ≤ i ∧ holds i ∧ ∀ j, offset ≤ j → holds j → i ≤ j
  | none => ∀ j, offset ≤ j → ¬ holds j

namespace Terminator

/-- The terminator occurs in the source behind this number of characters. -/
def OccursAt (t : Terminator) (source : Text) (i : Nat) : Prop :=
  t.mark <+: source.drop i

/-- The terminator occurs in the source behind this number of bytes. -/
def OccursAtByte (t : Terminator) (source : Text) (i : Nat) : Prop :=
  ∃ s, dropBytes? i source = some s ∧ t.mark <+: s

end Terminator

variable {source rest : Text} {searches : Terminators} {t : Terminator}

/-! ### Offsets in characters -/

namespace Terminators

/-- The answers to lookups that are made one after the other, each of a terminator and from an
offset of the source on. -/
def answers (source : Text) (searches : Terminators) :
    List (Terminator × Nat) → List (Option Nat)
  | [] => []
  | (t, offset) :: calls =>
    let (found, kept) := searches.find t offset (source.drop offset)
    found :: answers source kept calls

end Terminators

theorem Terminator.isFirstFrom_firstFrom (t : Terminator) (source : Text) (offset : Nat) :
    IsFirstFrom (t.OccursAt source) offset (t.firstFrom source offset) := by
  have shift : ∀ j, offset ≤ j → source.drop j = (source.drop offset).drop (j - offset) := by
    intro j ahead
    rw [List.drop_drop, Nat.add_sub_cancel' ahead]
  rw [firstFrom, find?_eq_map_cut?]
  cases cut : cut? t.mark (source.drop offset) with
  | none =>
      rintro j ahead ⟨behind, occurs⟩
      apply find?_append_ne_none ((source.drop offset).take (j - offset)) t.mark behind
      rw [List.append_assoc, occurs, shift j ahead, List.take_append_drop, find?_eq_map_cut?, cut]
      rfl
  | some parts =>
      obtain ⟨before, behind⟩ := parts
      refine ⟨Nat.le_add_right offset before.length, ⟨behind, ?_⟩, ?_⟩
      · show t.mark ++ behind = source.drop (offset + before.length)
        rw [← List.drop_drop, append_of_cut? cut, List.append_assoc, List.drop_left]
      · intro j ahead occurs
        show offset + before.length ≤ j
        rw [OccursAt, shift j ahead] at occurs
        have := length_le_of_cut? cut occurs
        omega

theorem Terminators.Truthful.answers (truthful : searches.Truthful source)
    (calls : List (Terminator × Nat)) :
    List.Forall₂ (fun call => IsFirstFrom (call.1.OccursAt source) call.2) calls
      (searches.answers source calls) := by
  induction calls generalizing searches with
  | nil => exact .nil
  | cons call calls ih =>
      obtain ⟨t, offset⟩ := call
      obtain ⟨kept, found, still⟩ := truthful.find t rfl
      rw [Terminators.answers, found]
      exact .cons (t.isFirstFrom_firstFrom source offset) (ih still)

/-! ### Offsets in bytes -/

namespace Terminators

/-- `find`, with offsets that count bytes. The source is cut at the offset if no kept search
answers. -/
def findByte? (searches : Terminators) (t : Terminator) (offset : Nat) (source : Text) :
    Option (Option Nat × Terminators) :=
  match (searches.last? t).bind (·.answer? offset) with
  | some found => some (found, searches)
  | none =>
    (dropBytes? offset source).map fun s =>
      let found := (Text.findByte? t.mark s).map (offset + ·)
      (found, searches.keep ⟨offset, found⟩ t)

/-- `answers`, with offsets that count bytes. -/
def byteAnswers? (source : Text) (searches : Terminators) :
    List (Terminator × Nat) → Option (List (Option Nat))
  | [] => some []
  | (t, offset) :: calls =>
    (searches.findByte? t offset source).bind fun (found, kept) =>
      (byteAnswers? source kept calls).map (found :: ·)

end Terminators

/-- The byte offset of the first occurrence of the terminator in `rest`, where `rest` ends the
source. -/
def Terminator.firstByte (t : Terminator) (source rest : Text) : Option Nat :=
  (cut? t.mark rest).map fun (_, behind) => source.offsetOf (t.mark ++ behind)

/-- The search was made at a place between characters, in bytes, and found the first occurrence
there is. -/
def Search.TruthfulInBytes (source : Text) (t : Terminator) (search : Search) : Prop :=
  ∃ rest, rest <:+ source ∧ search.start = source.offsetOf rest ∧
    search.found = t.firstByte source rest

/-- A truthful search answers only with the first occurrence from the place it is asked about. -/
theorem Search.TruthfulInBytes.answer {search : Search} {found : Option Nat}
    (truthful : search.TruthfulInBytes source t) (suffix : rest <:+ source)
    (answered : search.answer? (source.offsetOf rest) = some found) :
    found = t.firstByte source rest := by
  obtain ⟨searched, inSource, start, first⟩ := truthful
  rw [answer?, start, first] at answered
  obtain ⟨ahead, answered⟩ := Option.ite_none_right_eq_some.1 answered
  obtain ⟨passed, rfl⟩ := suffix_of_offsetOf_le inSource suffix ahead
  have later : rest = (passed ++ rest).drop passed.length := List.drop_left.symm
  cases cut : cut? t.mark (passed ++ rest) with
  | none =>
      have absent : find? t.mark rest = none := by
        rw [later]
        exact find?_drop_of_eq_none (by rw [find?_eq_map_cut?, cut]; rfl) _
      rw [find?_eq_map_cut?, Option.map_eq_none_iff] at absent
      simp only [Terminator.firstByte, cut, Option.map_none, Option.some.injEq] at answered
      rw [← answered, Terminator.firstByte, absent]
      rfl
  | some parts =>
      obtain ⟨before, behind⟩ := parts
      simp only [Terminator.firstByte, cut, Option.map_some, Option.ite_none_right_eq_some,
        Option.some.injEq] at answered
      obtain ⟨notBehind, rfl⟩ := answered
      have whole := append_of_cut? cut
      have place : t.mark ++ behind <:+ passed ++ rest :=
        ⟨before, by rw [whole, List.append_assoc]⟩
      -- What the search passed over is before its find, so the find is in the rest.
      obtain ⟨between, inRest⟩ := suffix_of_offsetOf_le suffix (place.trans inSource) notBehind
      have length : before.length = passed.length + between.length := by
        have lengths := congrArg List.length whole
        rw [← inRest] at lengths
        simp only [List.length_append] at lengths
        omega
      have found : find? t.mark rest = some between.length := by
        have first : find? t.mark (passed ++ rest) = some before.length := by
          rw [find?_eq_map_cut?, cut]
          rfl
        have := find?_drop_of_le first (k := passed.length) (by omega)
        rwa [← later, length, Nat.add_sub_cancel_left] at this
      rw [find?_eq_map_cut?] at found
      obtain ⟨⟨front, last⟩, cutRest, sameLength⟩ := Option.map_eq_some_iff.1 found
      have split := append_of_cut? cutRest
      rw [List.append_assoc, ← inRest] at split
      obtain ⟨rfl, same⟩ := List.append_inj split sameLength.symm
      rw [Terminator.firstByte, cutRest, Option.map_some, same]

namespace Terminators

/-- Every search that was kept is correct about the bytes of the source. -/
def TruthfulInBytes (source : Text) (searches : Terminators) : Prop :=
  ∀ t search, searches.last? t = some search → search.TruthfulInBytes source t

theorem truthfulInBytes_empty (source : Text) : TruthfulInBytes source {} := by
  intro t search kept
  cases t <;> cases kept

/-- A lookup at a place between characters succeeds, finds what a search from there finds, and what
is kept stays correct. -/
theorem TruthfulInBytes.findByte? (truthful : searches.TruthfulInBytes source) (t : Terminator)
    (suffix : rest <:+ source) :
    ∃ kept, searches.findByte? t (source.offsetOf rest) source =
        some (t.firstByte source rest, kept) ∧ kept.TruthfulInBytes source := by
  rw [Terminators.findByte?]
  split
  next found answered =>
    obtain ⟨search, last, answered⟩ := Option.bind_eq_some_iff.1 answered
    refine ⟨searches, ?_, truthful⟩
    rw [(truthful t search last).answer suffix answered]
  next =>
    rw [dropBytes?_offsetOf suffix, Option.map_some, map_findByte? suffix]
    exact ⟨_, rfl, forall_keep truthful ⟨rest, suffix, rfl, rfl⟩⟩

end Terminators

theorem Terminator.isFirstFrom_firstByte (t : Terminator) (suffix : rest <:+ source) :
    IsFirstFrom (t.OccursAtByte source) (source.offsetOf rest) (t.firstByte source rest) := by
  have later : ∀ {j s}, source.offsetOf rest ≤ j → dropBytes? j source = some s →
      s <:+ rest ∧ j = source.offsetOf s := by
    intro j s ahead dropped
    obtain ⟨before, rfl, rfl⟩ := exists_append_of_dropBytes? dropped
    rw [← offsetOf_append before s] at ahead ⊢
    exact ⟨suffix_of_offsetOf_le suffix (List.suffix_append before s) ahead, rfl⟩
  rw [firstByte]
  cases cut : cut? t.mark rest with
  | none =>
      rintro j ahead ⟨s, dropped, behind, rfl⟩
      obtain ⟨⟨front, rfl⟩, -⟩ := later ahead dropped
      apply find?_append_ne_none front t.mark behind
      rw [List.append_assoc, find?_eq_map_cut?, cut]
      rfl
  | some parts =>
      obtain ⟨before, behind⟩ := parts
      have whole := append_of_cut? cut
      have place : t.mark ++ behind <:+ rest := ⟨before, by rw [whole, List.append_assoc]⟩
      refine ⟨?_, ⟨_, dropBytes?_offsetOf (place.trans suffix), List.prefix_append _ _⟩, ?_⟩
      · show source.offsetOf rest ≤ source.offsetOf (t.mark ++ behind)
        rw [offsetOf_trans suffix place]
        exact Nat.le_add_right _ _
      · rintro j ahead ⟨s, dropped, occurs⟩
        obtain ⟨⟨front, split⟩, rfl⟩ := later ahead dropped
        have early := length_le_of_cut? cut (k := front.length)
          (by rwa [← split, List.drop_left])
        have inside : s <:+ t.mark ++ behind := by
          refine List.suffix_of_suffix_length_le ⟨front, split⟩ place ?_
          have lengths := congrArg List.length (split.trans whole)
          simp only [List.length_append] at lengths ⊢
          omega
        show source.offsetOf (t.mark ++ behind) ≤ source.offsetOf s
        rw [offsetOf_trans (place.trans suffix) inside]
        exact Nat.le_add_right _ _

theorem Terminators.TruthfulInBytes.byteAnswers? (truthful : searches.TruthfulInBytes source)
    (calls : List (Terminator × Nat)) (boundaries : ∀ call ∈ calls, source.IsBoundary call.2) :
    ∃ answers, searches.byteAnswers? source calls = some answers ∧
      List.Forall₂ (fun call => IsFirstFrom (call.1.OccursAtByte source) call.2) calls
        answers := by
  induction calls generalizing searches with
  | nil => exact ⟨[], rfl, .nil⟩
  | cons call calls ih =>
      obtain ⟨t, offset⟩ := call
      obtain ⟨boundary, others⟩ := List.forall_mem_cons.1 boundaries
      obtain ⟨rest, suffix, rfl⟩ := isBoundary_iff.1 boundary
      obtain ⟨kept, found, still⟩ := truthful.findByte? t suffix
      obtain ⟨answers, made, first⟩ := ih still others
      refine ⟨t.firstByte source rest :: answers, ?_, .cons (t.isFirstFrom_firstByte suffix) first⟩
      simp only [Terminators.byteAnswers?, found, Option.bind_some, made, Option.map_some]

/-! ### Any lookups -/

/-- Lookups of any terminators, made one after the other and from places in any order, are each
answered with the first occurrence from their own place on, or with `none` if there is none.
Counted in bytes, they succeed at all places between characters and are answered alike. -/
theorem Terminators.answers_first (source : Text) (calls : List (Terminator × Nat)) :
    List.Forall₂ (fun call => IsFirstFrom (call.1.OccursAt source) call.2) calls
        (answers source {} calls) ∧
      ((∀ call ∈ calls, source.IsBoundary call.2) →
        ∃ found, byteAnswers? source {} calls = some found ∧
          List.Forall₂ (fun call => IsFirstFrom (call.1.OccursAtByte source) call.2) calls found) :=
  ⟨(truthful_empty source).answers calls, (truthfulInBytes_empty source).byteAnswers? calls⟩

/-- A lookup may go back behind the last one, and one that failed stays so. -/
theorem Terminators.answers_first_backward :
    let source : Text := ['é', '>', ']', '>', '-', '-', '>']
    let calls : List (Terminator × Nat) :=
      [(.tag, 4), (.comment, 2), (.tag, 0), (.conditional, 5), (.conditional, 7)]
    (∀ call ∈ calls, source.IsBoundary call.2) ∧
      byteAnswers? source {} calls = some [some 4, some 5, some 2, none, none] ∧
      ∃ found, byteAnswers? source {} calls = some found ∧
        List.Forall₂ (fun call => IsFirstFrom (call.1.OccursAtByte source) call.2) calls found := by
  intro source calls
  have boundaries : ∀ call ∈ calls, source.IsBoundary call.2 := by decide
  exact ⟨boundaries, by decide, (answers_first source calls).2 boundaries⟩

end TemplateMarkup
