import TemplateMarkup.Proofs.RawEnds
import TemplateMarkup.Proofs.TextOfSource
import TemplateMarkup.Template.Builder

/-!
# Written names

Names can be read only if they consist of certain characters: a tag of ASCII letters, digits and
four marks, an attribute name of anything but spaces and what delimits the parts of a tag. That
stays so when a tag is hyphenated and lowercased, and when an attribute name is taken apart.
-/

namespace TemplateMarkup

open Text

/-! ### Start tags -/

namespace Attribute

variable {s rest : Text} {a : Attribute} {attributes : List Attribute} {selfClosing : Bool}

theorem nameChars_of_read? (read : read? s = some (a, rest)) :
    ∀ c ∈ a.name, isAttributeNameChar c = true := by
  unfold read? at read
  split at read
  · simp at read
  · dsimp only at read
    split at read
    · obtain ⟨⟨value, behind⟩, -, same⟩ := Option.map_eq_some_iff.1 read
      obtain ⟨rfl, -⟩ := Prod.mk.inj same
      exact fun c => List.mem_takeWhile_imp
    · obtain ⟨rfl, -⟩ := Prod.mk.inj (Option.some.inj read)
      exact fun c => List.mem_takeWhile_imp

theorem nameChars_of_readAll? (read : readAll? s = some (attributes, selfClosing, rest)) :
    ∀ a ∈ attributes, ∀ c ∈ a.name, isAttributeNameChar c = true := by
  fun_induction readAll? s generalizing attributes with
  | case1 s ended => simp at read
  | case2 s behind closed =>
      obtain ⟨rfl, -⟩ := Prod.mk.inj (Option.some.inj read)
      exact fun a member => absurd member List.not_mem_nil
  | case3 s t slash behind closed =>
      obtain ⟨rfl, -⟩ := Prod.mk.inj (Option.some.inj read)
      exact fun a member => absurd member List.not_mem_nil
  | case4 s t slash unclosed => simp at read
  | case5 s unread more => simp at read
  | case6 s first behind found _ _ _ ih =>
      simp only [Option.map_eq_some_iff, Prod.exists, Prod.mk.injEq] at read
      obtain ⟨others, slash, rest, later, rfl, rfl, rfl⟩ := read
      exact List.forall_mem_cons.2 ⟨nameChars_of_read? found, ih later⟩

end Attribute

theorem TagName.isTagNameChar_of_mem (name : TagName) :
    ∀ c ∈ name.name, isTagNameChar c = true := by
  obtain ⟨c, s, split, letter, others⟩ := name.valid
  rw [split]
  exact List.forall_mem_cons.2 ⟨by simp [isTagNameChar, Char.isAlphanum, letter], others⟩

/-! ### Events -/

/-- The names of a start consist of the characters that names may have. -/
def Event.NamedAsWritten : Event → Prop
  | .start name attributes _ =>
    (∀ c ∈ name, isTagNameChar c = true) ∧
      ∀ a ∈ attributes, ∀ c ∈ a.name, isAttributeNameChar c = true
  | _ => True

theorem StartTag.namedAsWritten {s rest : Text} {tag : StartTag}
    (read : StartTag.read? s = some (tag, rest)) (isVoid : Bool) :
    (Event.start tag.name tag.attributes isVoid).NamedAsWritten := by
  obtain ⟨name, same⟩ := exists_tagName read
  refine ⟨same ▸ name.isTagNameChar_of_mem, ?_⟩
  unfold StartTag.read? at read
  split at read
  · split at read
    · simp at read
    · obtain ⟨⟨attributes, selfClosing, behind⟩, found, same⟩ := Option.map_eq_some_iff.1 read
      obtain ⟨rfl, -⟩ := Prod.mk.inj same
      exact Attribute.nameChars_of_readAll? found
  · simp at read

namespace OpenTags

variable {tags : OpenTags} {e : Emission}

theorem namedAsWritten_finish {tag : Text} (ends : e.event = .finish tag) :
    e.event.NamedAsWritten := by
  rw [ends]
  trivial

theorem namedAsWritten_closed {closed : List Text} {cause : Cause}
    (emitted : e ∈ closed.map fun tag => ⟨.finish tag, cause⟩) : e.event.NamedAsWritten := by
  obtain ⟨tag, -, rfl⟩ := List.mem_map.1 emitted
  exact namedAsWritten_finish rfl

/-- The repair of a stray end tag has no names but those of line breaks and paragraphs. -/
theorem namedAsWritten_endTag {name : Text} (emitted : e ∈ (tags.endTag name).1) :
    e.event.NamedAsWritten := by
  rw [endTag] at emitted
  split at emitted
  · exact namedAsWritten_closed emitted
  · rw [stray] at emitted
    split at emitted
    · obtain rfl := List.mem_singleton.1 emitted
      exact ⟨List.all_eq_true.1 rfl, by simp⟩
    · split at emitted
      · rcases List.mem_cons.1 emitted with rfl | emitted
        · exact ⟨List.all_eq_true.1 rfl, by simp⟩
        · obtain rfl := List.mem_singleton.1 emitted
          exact namedAsWritten_finish rfl
      · obtain rfl := List.mem_singleton.1 emitted
        trivial

end OpenTags

theorem Construct.namedAsWritten_take {d : Dialect} {expectHtml : Bool} {construct : Construct}
    {tags : OpenTags} {e : Emission} {s rest : Text}
    (found : direct? s = some (construct, rest))
    (emitted : e ∈ (construct.take d expectHtml tags).1) : e.event.NamedAsWritten := by
  cases construct with
  | skipped => exact absurd emitted List.not_mem_nil
  | endTag name => exact OpenTags.namedAsWritten_endTag emitted
  | startTag tag =>
      rw [take, OpenTags.startTag_eq] at emitted
      rcases List.mem_append.1 emitted with first | last
      · obtain ⟨name, ends⟩ := OpenTags.exists_finish_of_mem_room first
        exact OpenTags.namedAsWritten_finish ends
      · obtain rfl := List.mem_singleton.1 last
        exact StartTag.namedAsWritten (read?_of_direct? found) _

theorem Event.namedAsWritten_of_isText {e : Event} (isText : e.isText = true) :
    e.NamedAsWritten := by
  cases e with
  | text content => trivial
  | start name attributes isVoid => exact absurd isText Bool.false_ne_true
  | finish tag => trivial
  | unmatchedEnd tag => trivial

theorem isText_pendingText {run : Text} {e : Emission} (emitted : e ∈ pendingText run) :
    e.event.isText = true := by
  cases run with
  | nil => exact absurd emitted List.not_mem_nil
  | cons c run =>
      obtain rfl := List.mem_singleton.1 emitted
      rfl

theorem isText_rawTextEvents {body : Text} {e : Emission}
    (emitted : e ∈ Reading.rawTextEvents body) : e.event.isText = true := by
  rw [Reading.rawTextEvents] at emitted
  split at emitted
  · exact absurd emitted List.not_mem_nil
  · obtain rfl := List.mem_singleton.1 emitted
    rfl

theorem namedAsWritten_plainRun (d : Dialect) (expectHtml : Bool) (tags : OpenTags)
    (run s : Text) : ∀ e ∈ plainRun d expectHtml tags run s, e.event.NamedAsWritten := by
  have pending : ∀ run, ∀ e ∈ pendingText run, e.event.NamedAsWritten :=
    fun _ _ emitted => Event.namedAsWritten_of_isText (isText_pendingText emitted)
  have raw : ∀ body, ∀ e ∈ Reading.rawTextEvents body, e.event.NamedAsWritten :=
    fun _ _ emitted => Event.namedAsWritten_of_isText (isText_rawTextEvents emitted)
  have ends : ∀ tags : OpenTags, ∀ e ∈ tags.endOfSource, e.event.NamedAsWritten :=
    fun _ _ => OpenTags.namedAsWritten_closed
  fun_induction plainRun d expectHtml tags run s with
  | case1 tags run =>
      exact List.forall_mem_append.2 ⟨pending run, ends tags⟩
  | case2 tags run c s tag isRaw unclosed =>
      exact List.forall_mem_append.2
        ⟨List.forall_mem_append.2 ⟨pending run, raw (c :: s)⟩, ends tags⟩
  | case3 tags run c s tag isRaw body rest closed out left ended ih =>
      have closes : ∀ e ∈ out, e.event.NamedAsWritten :=
        fun e emitted => OpenTags.namedAsWritten_endTag (by rwa [ended])
      have upTo := List.forall_mem_append.2 ⟨pending run, raw body⟩
      exact List.forall_mem_append.2 ⟨List.forall_mem_append.2 ⟨upTo, closes⟩, ih⟩
  | case4 tags run c s notRaw construct rest found out left taken ih =>
      have taken : ∀ e ∈ out, e.event.NamedAsWritten :=
        fun e emitted => Construct.namedAsWritten_take found (by rwa [taken])
      exact List.forall_mem_append.2 ⟨List.forall_mem_append.2 ⟨pending run, taken⟩, ih⟩
  | case5 tags run c s notRaw nothing ih => exact ih

/-- Whatever the source, its events have names that could be read. -/
theorem namedAsWritten_events {d : Dialect} {expectHtml : Bool} {source : Text} {event : Event}
    (member : event ∈ events d expectHtml source) : event.NamedAsWritten := by
  rw [events_eq_plainEvents, plainEvents] at member
  obtain ⟨e, emitted, rfl⟩ := List.mem_map.1 member
  exact namedAsWritten_plainRun d expectHtml [] [] source e emitted

/-! ### Tags -/

theorem toNat_lt_of_isTagNameChar {c : Char} (continues : isTagNameChar c = true) :
    c.toNat < 0x80 := by
  simp only [isTagNameChar, Char.isAlphanum, Bool.or_eq_true, decide_eq_true_eq,
    isAlpha_iff_toNat, Char.isDigit_iff_toNat] at continues
  rcases continues with ((((letter | digit) | rfl) | rfl) | rfl) | rfl
  · omega
  · exact Nat.lt_of_le_of_lt digit.2 (by decide)
  all_goals decide

theorem isTagNameChar_toLowerAscii {s : Text} (named : ∀ c ∈ s, isTagNameChar c = true) :
    ∀ c ∈ toLowerAscii s, isTagNameChar c = true := by
  intro c member
  obtain ⟨x, isChar, rfl⟩ := List.mem_map.1 member
  rw [isTagNameChar_toLower, named x isChar]

/-- A tag consists of the characters that its name may have. -/
theorem isTagNameChar_canonicalTag {name : Text} (named : ∀ c ∈ name, isTagNameChar c = true) :
    ∀ c ∈ (Builder.canonicalTag name).1, isTagNameChar c = true := by
  have split : ∀ c ∈ splitHumps name, isTagNameChar c = true := by
    intro c member
    rcases mem_of_mem_splitHumps member with rfl | member
    · rfl
    · exact named c member
  have hyphenated : hyphenate name = toLowerAscii (splitHumps name) :=
    toLower_eq_toLowerAscii fun c member => toNat_lt_of_isTagNameChar (split c member)
  rw [Builder.canonicalTag]
  split
  · show ∀ c ∈ toLowerAscii (hyphenate name), isTagNameChar c = true
    rw [hyphenated, toLowerAscii_toLowerAscii]
    exact isTagNameChar_toLowerAscii split
  · exact isTagNameChar_toLowerAscii named

/-! ### Attribute names -/

namespace AttributeName

variable {name piece : Text} {modifiers : Modifiers}

theorem splitAtDots_subset (name : Text) :
    (splitAtDots name).1 ⊆ name ∧ ((splitAtDots name).2 ≠ [] → '.' ∈ name) := by
  induction name with
  | nil => exact ⟨List.Subset.refl _, absurd rfl⟩
  | cons c s ih =>
      rw [splitAtDots]
      dsimp only
      split
      next isDot =>
        subst isDot
        exact ⟨List.nil_subset _, fun _ => List.mem_cons_self⟩
      next noDot =>
        exact ⟨List.cons_subset_cons c ih.1, fun more => List.mem_cons_of_mem c (ih.2 more)⟩

/-- Without its modifiers a name has no new characters: the dots that stay were there. -/
theorem withoutModifiers_subset (name : Text) : withoutModifiers name ⊆ name := by
  obtain ⟨first, dots⟩ := splitAtDots_subset name
  apply List.append_subset.2 ⟨first, ?_⟩
  intro c member
  obtain ⟨empty, isEmpty, rfl⟩ := List.mem_map.1 member
  exact dots (List.ne_nil_of_mem (List.mem_filter.1 isEmpty).1)

/-- What stands behind one of two prefixes is part of the text. -/
theorem subset_of_after? {word other s rest : Text}
    (found : (after? word s).or (after? other s) = some rest) : rest ⊆ s := by
  rcases Option.or_eq_some_iff.1 found with first | ⟨-, second⟩
  · rw [after?_eq_some_iff.1 first]
    exact List.subset_append_right word rest
  · rw [after?_eq_some_iff.1 second]
    exact List.subset_append_right other rest

/-- The bound name is part of the name of the attribute. -/
theorem subset_of_ofText_bind (binds : ofText name = .bind piece) : piece ⊆ name := by
  rw [ofText] at binds
  split at binds
  · dsimp only at binds
    split at binds
    next bound found =>
      obtain rfl := AttributeName.bind.inj binds
      exact List.Subset.trans (subset_of_after? found) (withoutModifiers_subset name)
    · split at binds <;> simp at binds
  · simp at binds

/-- The event is part of the name of the attribute. -/
theorem subset_of_ofText_on (handles : ofText name = .on piece modifiers) : piece ⊆ name := by
  rw [ofText] at handles
  split at handles
  · dsimp only at handles
    split at handles
    · simp at handles
    · split at handles
      next event found =>
        obtain ⟨rfl, -⟩ := AttributeName.on.inj handles
        exact List.Subset.trans (subset_of_after? found) (withoutModifiers_subset name)
      · simp at handles
  · simp at handles

end AttributeName

end TemplateMarkup
