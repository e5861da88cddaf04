import TemplateMarkup.Component.OpeningTag

/-!
# Contents of blocks

The content of a script or a style ends at the first end tag of its kind. In a template, templates
may nest: an end tag belongs to the innermost opening tag that has one. An opening tag for which no
end tag is left is text.
-/

namespace TemplateMarkup

open Text

/-- What follows the end tag at the front of a block of this kind. -/
def BlockKind.afterEndTag? (kind : BlockKind) (s : Text) : Option Text :=
  match after? ('<' :: '/' :: kind.tag) s with
  | none => none
  | some r => after? ['>'] (skipGap r)

theorem BlockKind.length_lt_of_afterEndTag? {kind : BlockKind} {s rest : Text}
    (h : kind.afterEndTag? s = some rest) : rest.length < s.length := by
  unfold afterEndTag? at h
  split at h
  · simp at h
  next r hr =>
    have h₁ := length_of_after? hr
    have h₂ := length_of_after? h
    have h₃ := length_skipGap_le r
    simp only [List.length_cons, List.length_nil] at h₁ h₂
    omega

/-- The first place that is an end tag of this kind. -/
def BlockKind.firstEnd? (kind : BlockKind) : Text → Option Text
  | [] => none
  | c :: s => if (kind.afterEndTag? (c :: s)).isSome then some (c :: s) else kind.firstEnd? s

/-- The end tag in the text of an opening tag that turned out to be none. The text is given from
behind the name up to the bracket that would have closed the tag. -/
def endTagWithin? (inside : Text) : Option Text :=
  BlockKind.template.firstEnd? (inside ++ ['>'])

/-- The places that are end tags of the templates around the front, innermost first, and no more of
them than `wanted`. A template that opens on the way takes the first of the end tags behind it; its
attributes are of no interest, and a longer name will do. If none is left for it, there are none for
the templates around it either, except for one that its opening tag had swallowed. -/
def templateEnds : (wanted : Nat) → Text → List Text
  | 0, _ => []
  | _ + 1, [] => []
  | n + 1, c :: s =>
    match _h₁ : after? "<template".toList (c :: s) with
    | some r =>
      match _h₂ : cut? ['>'] r with
      | none => []
      | some (inside, inner) =>
        match templateEnds (n + 2) inner with
        | [] => (endTagWithin? inside).toList.map (· ++ inner)
        | _ :: outer => outer
    | none =>
      match _h₃ : BlockKind.template.afterEndTag? (c :: s) with
      | some rest => (c :: s) :: templateEnds n rest
      | none => templateEnds (n + 1) s
termination_by _ s => s.length
decreasing_by
  · have := length_of_after? _h₁
    have := length_of_cut? _h₂
    simp only [String.reduceToList, List.length_cons, List.length_nil] at *
    omega
  · exact BlockKind.length_lt_of_afterEndTag? _h₃
  · simp

/-- The place of the end tag of a block whose content is at the front. -/
def BlockKind.contentEnd? : BlockKind → Text → Option Text
  | template, s => (templateEnds 1 s).head?
  | script, s => firstEnd? script s
  | style, s => firstEnd? style s

/-- The content at the front of a block of this kind, and what follows its end tag. -/
def BlockKind.readContent? (kind : BlockKind) (s : Text) : Option (Text × Text) :=
  match kind.contentEnd? s with
  | none => none
  | some place =>
    (kind.afterEndTag? place).map fun rest => (s.take (s.length - place.length), rest)

theorem BlockKind.length_le_of_firstEnd? {kind : BlockKind} {s place : Text}
    (h : kind.firstEnd? s = some place) : place.length ≤ s.length := by
  induction s with
  | nil => simp [firstEnd?] at h
  | cons c s ih =>
    simp only [firstEnd?] at h
    split at h
    · simp_all
    · have := ih h
      simp only [List.length_cons]
      omega

theorem length_le_of_mem_templateEnds {wanted : Nat} {s place : Text}
    (h : place ∈ templateEnds wanted s) : place.length ≤ s.length := by
  fun_induction templateEnds wanted s with
  | case1 => simp at h
  | case2 => simp at h
  | case3 => simp at h
  | case4 n c s r hr inside inner hcut _ =>
    have h₁ := length_of_after? hr
    have h₂ := length_of_cut? hcut
    simp only [List.mem_map, Option.mem_toList] at h
    obtain ⟨place, hplace, rfl⟩ := h
    have h₃ := BlockKind.length_le_of_firstEnd? hplace
    simp only [String.reduceToList, List.length_cons, List.length_nil, List.length_append] at *
    omega
  | case5 n c s r hr inside inner hcut first outer houter ih =>
    have h₁ := length_of_after? hr
    have h₂ := length_of_cut? hcut
    have := ih (by simp [houter, h])
    omega
  | case6 n c s _ rest hrest ih =>
    rcases List.mem_cons.1 h with rfl | h
    · exact Nat.le_refl _
    · have := BlockKind.length_lt_of_afterEndTag? hrest
      have := ih h
      omega
  | case7 n c s _ _ ih =>
    have := ih h
    simp only [List.length_cons]
    omega

theorem BlockKind.length_lt_of_readContent? {kind : BlockKind} {s content rest : Text}
    (h : kind.readContent? s = some (content, rest)) : rest.length < s.length := by
  unfold readContent? at h
  split at h
  · simp at h
  next place hplace =>
    simp only [Option.map_eq_some_iff, Prod.mk.injEq] at h
    obtain ⟨r, hr, -, rfl⟩ := h
    have hlt := length_lt_of_afterEndTag? hr
    have hle : place.length ≤ s.length := by
      cases kind with
      | template => exact length_le_of_mem_templateEnds (List.mem_of_mem_head? hplace)
      | script => exact length_le_of_firstEnd? hplace
      | style => exact length_le_of_firstEnd? hplace
    omega

end TemplateMarkup
