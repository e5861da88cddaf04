import TemplateMarkup.Markup.RawText
import TemplateMarkup.Markup.StartTag

/-!
# Remainders

A reader hands back the rest of the text it was given, so how much it took is a matter of lengths
alone. Readers of tags stop right behind a closing angle bracket: where none is ahead, there is no
tag either.
-/

namespace TemplateMarkup

open Text

/-- What is left is what remains behind the characters taken. -/
theorem Text.drop_length_sub {s rest : Text} (suffix : rest <:+ s) :
    s.drop (s.length - rest.length) = rest :=
  (List.suffix_iff_eq_drop.1 suffix).symm

theorem Text.suffix_of_cut? {word s before rest : Text} (cut : cut? word s = some (before, rest)) :
    word ++ rest <:+ s :=
  ⟨before, by rw [append_of_cut? cut, List.append_assoc]⟩

theorem suffix_skipSpaces (s : Text) : skipSpaces s <:+ s :=
  List.dropWhile_suffix isSpace

namespace Attribute

variable {s rest value : Text} {a : Attribute}

theorem suffix_of_readValue? (read : readValue? s = some (value, rest)) : rest <:+ s := by
  unfold readValue? at read
  split at read
  · exact ((List.suffix_append _ _).trans (suffix_of_cut? read)).trans (List.suffix_cons _ _)
  · exact ((List.suffix_append _ _).trans (suffix_of_cut? read)).trans (List.suffix_cons _ _)
  · split at read
    · simp at read
    · obtain ⟨-, rfl⟩ := Prod.mk.inj (Option.some.inj read)
      exact List.dropWhile_suffix isUnquotedChar

theorem suffix_of_read? (read : read? s = some (a, rest)) : rest <:+ s := by
  have behindName : s.dropWhile isAttributeNameChar <:+ s := List.dropWhile_suffix _
  rw [read?] at read
  split at read
  · simp at read
  · dsimp only at read
    split at read
    next t equals =>
      simp only [Option.map_eq_some_iff, Prod.exists, Prod.mk.injEq] at read
      obtain ⟨value, rest, readValue, -, rfl⟩ := read
      have behindEquals : t <:+ skipSpaces (s.dropWhile isAttributeNameChar) := by
        rw [equals]
        exact List.suffix_cons _ _
      exact (suffix_of_readValue? readValue).trans <| (suffix_skipSpaces t).trans <|
        behindEquals.trans <| (suffix_skipSpaces _).trans behindName
    · obtain ⟨-, rfl⟩ := Prod.mk.inj (Option.some.inj read)
      exact behindName

/-- The attributes of a start tag end with its closing angle bracket. -/
theorem suffix_of_readAll? {attributes : List Attribute} {selfClosing : Bool}
    (read : readAll? s = some (attributes, selfClosing, rest)) : '>' :: rest <:+ s := by
  have spaces := suffix_skipSpaces s
  fun_induction readAll? s generalizing attributes with
  | case1 s ended => simp at read
  | case2 s r closed =>
      simp only [Option.some.injEq, Prod.mk.injEq] at read
      obtain ⟨-, -, rfl⟩ := read
      rwa [closed] at spaces
  | case3 s t slash r closed =>
      simp only [Option.some.injEq, Prod.mk.injEq] at read
      obtain ⟨-, -, rfl⟩ := read
      rw [slash] at spaces
      rw [← closed]
      exact (suffix_skipSpaces t).trans ((List.suffix_cons _ _).trans spaces)
  | case4 s t slash unclosed => simp at read
  | case5 s unread _ _ _ => simp at read
  | case6 s a r first _ _ _ ih =>
      simp only [Option.map_eq_some_iff, Prod.exists, Prod.mk.injEq] at read
      obtain ⟨as, slash, r', others, -, rfl, rfl⟩ := read
      exact (ih others (suffix_skipSpaces r)).trans ((suffix_of_read? first).trans spaces)

end Attribute

theorem StartTag.suffix_of_read? {s rest : Text} {tag : StartTag}
    (read : StartTag.read? s = some (tag, rest)) : '>' :: rest <:+ s := by
  unfold StartTag.read? at read
  split at read
  next t =>
    split at read
    · simp at read
    · simp only [Option.map_eq_some_iff, Prod.exists, Prod.mk.injEq] at read
      obtain ⟨as, slash, r, others, -, rfl⟩ := read
      exact (Attribute.suffix_of_readAll? others).trans
        ((List.drop_suffix _ t).trans (List.suffix_cons _ t))
  · simp at read

/-! ### Raw text -/

/-- A text in any case in front of the rest is passed over. -/
theorem Text.afterIgnoringCase?_eq_some_iff {word s rest : Text} :
    afterIgnoringCase? word s = some rest ↔
      ∃ front, s = front ++ rest ∧ toLowerAscii front = word := by
  induction word generalizing s with
  | nil => simp [afterIgnoringCase?, toLowerAscii, eq_comm]
  | cons w word ih =>
      cases s with
      | nil => simp [afterIgnoringCase?, toLowerAscii]
      | cons c s =>
          rw [afterIgnoringCase?]
          split
          next same =>
            rw [ih]
            constructor
            · rintro ⟨front, rfl, rfl⟩
              exact ⟨c :: front, rfl, by rw [same]; rfl⟩
            · rintro ⟨front, whole, lowered⟩
              obtain ⟨x, front, rfl⟩ := List.exists_cons_of_ne_nil (l := front) (by
                rintro rfl
                simp [toLowerAscii] at lowered)
              obtain ⟨rfl, rfl⟩ := List.cons.inj whole
              exact ⟨front, rfl, (List.cons.inj lowered).2⟩
          next other =>
            simp only [reduceCtorEq, false_iff]
            rintro ⟨front, whole, lowered⟩
            cases front with
            | nil => simp [toLowerAscii] at lowered
            | cons x front =>
                obtain ⟨rfl, -⟩ := List.cons.inj whole
                exact other (List.cons.inj lowered).1.symm

theorem Text.suffix_of_afterIgnoringCase? {word s rest : Text}
    (after : afterIgnoringCase? word s = some rest) : rest <:+ s := by
  obtain ⟨front, rfl, -⟩ := afterIgnoringCase?_eq_some_iff.1 after
  exact List.suffix_append front rest

/-- What is cut at, and what is left on both sides. -/
theorem Text.append_of_cutIgnoringCase? {word s before rest : Text}
    (cut : cutIgnoringCase? word s = some (before, rest)) :
    ∃ mark, s = before ++ mark ++ rest ∧ toLowerAscii mark = word := by
  induction s generalizing before with
  | nil =>
      obtain ⟨rfl, same⟩ := Option.ite_none_right_eq_some.1 cut
      obtain ⟨rfl, rfl⟩ := Prod.mk.inj (Option.some.inj same)
      exact ⟨[], rfl, rfl⟩
  | cons c s ih =>
      rw [cutIgnoringCase?] at cut
      split at cut
      next found =>
        obtain ⟨rfl, rfl⟩ := Prod.mk.inj (Option.some.inj cut)
        exact afterIgnoringCase?_eq_some_iff.1 found
      next =>
        obtain ⟨⟨inner, behind⟩, later, same⟩ := Option.map_eq_some_iff.1 cut
        obtain ⟨rfl, rfl⟩ := Prod.mk.inj same
        obtain ⟨mark, rfl, lowered⟩ := ih later
        exact ⟨mark, rfl, lowered⟩

theorem Text.suffix_of_cutIgnoringCase? {word s before rest : Text}
    (cut : cutIgnoringCase? word s = some (before, rest)) : rest <:+ s := by
  obtain ⟨mark, rfl, -⟩ := append_of_cutIgnoringCase? cut
  exact List.suffix_append _ rest

theorem suffix_of_readRawText? {tag s body rest : Text}
    (read : readRawText? tag s = some (body, rest)) : '>' :: rest <:+ s := by
  rw [readRawText?] at read
  split at read
  · simp at read
  next mark behind found =>
    simp only [Option.map_eq_some_iff, Prod.exists, Prod.mk.injEq] at read
    obtain ⟨inner, rest, closed, -, rfl⟩ := read
    exact (suffix_of_cut? closed).trans (suffix_of_cutIgnoringCase? found)

end TemplateMarkup
