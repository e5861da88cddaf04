import TemplateMarkup.Proofs.Spans

/-!
# Fragments

Cutting a text at its spans loses nothing. The fragments come from pieces of the text: literal text,
and the spans with their delimiters, whose inner texts are trimmed and read as pipelines. Written
one after the other the pieces are the text, and each piece is where it has to be: a span ends at
the first closing delimiter that leaves it a character, literal text before a span ends at the first
opening delimiter, and literal text at the end holds no span. All this holds for empty delimiters
too, which are found at once.
-/

namespace TemplateMarkup

open Text

inductive Piece where
  /-- Literal text. -/
  | literal (content : Text)
  /-- A span, given by the text between its delimiters. -/
  | span (inner : Text)

namespace Piece

def print (d : Delimiters) : Piece → Text
  | literal content => content
  | span inner => d.opening ++ inner ++ d.closing

def fragment : Piece → Fragment
  | literal content => .literal content
  | span inner => .binding (Pipeline.ofText (trim inner))

def printAll (d : Delimiters) (pieces : List Piece) : Text :=
  pieces.flatMap (print d)

/-- The piece is what has to be cut off in front of the pieces `after`. -/
def Fits (d : Delimiters) (after : List Piece) : Piece → Prop
  | literal content =>
    content ≠ [] ∧
      match after with
      | [] => ¬ d.HasSpan content
      | literal _ :: _ => False
      | span _ :: _ =>
        ∀ k < content.length, ¬ d.opening <+: (content ++ printAll d after).drop k
  | span inner =>
    inner ≠ [] ∧
      ∀ k, 1 ≤ k → k < inner.length →
        ¬ d.closing <+: (inner ++ d.closing ++ printAll d after).drop k

end Piece

/-- How a text is cut: the pieces are the text, and each fits in front of those behind it. -/
structure Cut (d : Delimiters) (s : Text) (pieces : List Piece) : Prop where
  text : Piece.printAll d pieces = s
  fits : ∀ piece after, piece :: after <:+ pieces → piece.Fits d after

namespace Cut

variable {d : Delimiters} {s : Text} {pieces : List Piece}

theorem nil (d : Delimiters) : Cut d [] [] :=
  ⟨rfl, fun _ _ ending => absurd (List.suffix_nil.1 ending) (List.cons_ne_nil _ _)⟩

/-- One more piece in front. -/
theorem cons (cut : Cut d s pieces) {piece : Piece} (fits : piece.Fits d pieces) :
    Cut d (piece.print d ++ s) (piece :: pieces) := by
  refine ⟨?_, fun p after ending => ?_⟩
  · rw [Piece.printAll, List.flatMap_cons, ← cut.text, Piece.printAll]
  · rcases List.suffix_cons_iff.1 ending with same | ending
    · obtain ⟨rfl, rfl⟩ := List.cons.inj same
      exact fits
    · exact cut.fits p after ending

/-- One piece less in front. -/
theorem tail {piece : Piece} (cut : Cut d s (piece :: pieces)) :
    Cut d (Piece.printAll d pieces) pieces :=
  ⟨rfl, fun p after ending => cut.fits p after (ending.trans (List.suffix_cons _ _))⟩

/-- A text without a span is one piece, if it is any. -/
theorem literals (spanless : ¬ d.HasSpan s) :
    ∃ pieces, Cut d s pieces ∧ Fragment.literals s = pieces.map Piece.fragment := by
  cases s with
  | nil => exact ⟨[], nil d, rfl⟩
  | cons c s =>
      refine ⟨[.literal (c :: s)], ?_, rfl⟩
      have fits : (Piece.literal (c :: s)).Fits d [] := ⟨List.cons_ne_nil c s, spanless⟩
      have cut := (nil d).cons fits
      rwa [List.append_nil] at cut

/-- A text with a span is cut off behind it, and in front of it if there is anything. -/
theorem first {span : Span} (found : Span.first? d s = some span)
    (cut : Cut d span.rest pieces) :
    ∃ front, Cut d s (front ++ .span span.inner :: pieces) ∧
      Fragment.literals span.before = front.map Piece.fragment := by
  obtain ⟨c, r, inner, opened, closed, isInner⟩ := Span.first?_eq_some found
  have behind : c :: r = span.inner ++ d.closing ++ span.rest := by
    rw [isInner, append_of_cut? closed, List.cons_append, List.cons_append]
  have fits : (Piece.span span.inner).Fits d pieces := by
    refine ⟨by rw [isInner]; exact List.cons_ne_nil c inner, fun k later earlier occurs => ?_⟩
    obtain ⟨k, rfl⟩ := Nat.exists_eq_add_of_le' later
    rw [cut.text, ← behind, List.drop_succ_cons] at occurs
    have := length_le_of_cut? closed occurs
    rw [isInner, List.length_cons] at earlier
    omega
  have spanned := cut.cons fits
  have whole : s = span.before ++ ((Piece.span span.inner).print d ++ span.rest) := by
    rw [append_of_cut? opened, behind, Piece.print]
    simp only [List.append_assoc]
  rw [whole] at opened ⊢
  generalize span.before = before at opened ⊢
  cases before with
  | nil => exact ⟨[], spanned, rfl⟩
  | cons b before =>
      have fits : (Piece.literal (b :: before)).Fits d (.span span.inner :: pieces) := by
        refine ⟨List.cons_ne_nil b before, fun k earlier occurs => ?_⟩
        rw [spanned.text] at occurs
        have := length_le_of_cut? opened occurs
        omega
      exact ⟨[.literal (b :: before)], spanned.cons fits, rfl⟩

/-- The fragments of a text come from a cut of it. -/
theorem exists_fragments (d : Delimiters) (s : Text) :
    ∃ pieces, Cut d s pieces ∧ fragments d s = pieces.map Piece.fragment := by
  fun_induction fragments d s with
  | case1 s absent =>
      exact literals fun hasSpan => Span.first?_ne_none hasSpan absent
  | case2 s span found ih =>
      obtain ⟨pieces, cut, same⟩ := ih
      obtain ⟨front, whole, before⟩ := cut.first found
      refine ⟨_, whole, ?_⟩
      rw [before, same, List.map_append, List.map_cons, Piece.fragment]

/-- A span takes a character of the text at least. -/
theorem length_bindings_le (cut : Cut d s pieces) :
    (Interpolation.mk (pieces.map Piece.fragment)).bindings.length ≤ s.length := by
  induction pieces generalizing s with
  | nil => exact Nat.zero_le _
  | cons piece pieces ih =>
      have behind := ih (tail cut)
      rw [← cut.text, Piece.printAll, List.flatMap_cons, List.length_append]
      cases piece with
      | literal content => exact Nat.le_add_left_of_le behind
      | span inner =>
          have nonempty := List.length_pos_iff.2 (cut.fits _ _ List.suffix_rfl).1
          have oneMore :
              (Interpolation.mk ((Piece.span inner :: pieces).map Piece.fragment)).bindings =
                Pipeline.ofText (trim inner) ::
                  (Interpolation.mk (pieces.map Piece.fragment)).bindings := rfl
          rw [Piece.printAll] at behind
          rw [oneMore, List.length_cons, Piece.print, List.length_append, List.length_append]
          omega

end Cut

/-- A text is interpolated if it has a span, and then its fragments are those of a cut: nothing is
lost, and every span is the leftmost and shortest one that is left. There are no more spans than
characters, whatever the delimiters. -/
theorem ofText?_cut (d : Delimiters) (s : Text) :
    match Interpolation.ofText? d s with
    | none => ¬ d.HasSpan s
    | some i =>
      d.HasSpan s ∧ i.bindings.length ≤ s.length ∧
        ∃ pieces, Cut d s pieces ∧ i.fragments = pieces.map Piece.fragment := by
  split
  next spanless => exact Interpolation.ofText?_eq_none_iff.1 spanless
  next i interpolated =>
    have hasSpan : d.HasSpan s := by
      refine Classical.byContradiction fun spanless => ?_
      rw [Interpolation.ofText?_eq_none_iff.2 spanless] at interpolated
      simp at interpolated
    obtain ⟨pieces, cut, same⟩ := Cut.exists_fragments d s
    rw [Interpolation.ofText?, if_pos (Option.isSome_iff_ne_none.2 (Span.first?_ne_none hasSpan)),
      Option.some.injEq] at interpolated
    subst interpolated
    refine ⟨hasSpan, ?_, pieces, cut, same⟩
    rw [same]
    exact cut.length_bindings_le

end TemplateMarkup
