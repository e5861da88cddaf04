import TemplateMarkup.Proofs.Content

/-!
# Alike but for text

Nothing but text depends on text: what is open, where an element is linked and what there is to
warn about is the same for two builders that differ in the text of their elements alone. They are
still `Alike` after every event, also where the settings treat text differently. So two parses are
compared by following what their elements hold.
-/

namespace TemplateMarkup

namespace Template

variable {t t' u u' : Template} {e : Element}

/-- Text aside, a template is its root and what its elements are, hold and link to. -/
theorem withoutText_ext (root : t'.root = t.root) (bare : ∀ i, t'.bare? i = t.bare? i)
    (childIds : ∀ i, t'.childIds i = t.childIds i)
    (elseBranch : ∀ i, t'.elseBranch? i = t.elseBranch? i) : t'.withoutText = t.withoutText := by
  have same : ∀ i, t'.withoutText.get? i = t.withoutText.get? i := by
    intro i
    rw [get?_withoutText, get?_withoutText]
    cases found : t.get? i with
    | none =>
        have missing : t'.bare? i = none := by rw [bare i, bare?, found, Option.map_none]
        rw [Option.map_eq_none_iff.1 missing]
    | some e =>
        have there := get?_of_bare? t found (bare i)
        have children := childIds i
        rw [Template.childIds, Template.childIds, there, found] at children
        have held : (t'.content i).filterMap Child.elementId? = e.childIds := children
        rw [elseBranch i, elseBranch?_of_get? t found] at there
        rw [there, Option.map_some, Option.map_some, Element.withoutText, Element.withoutText,
          Element.childIds, held]
  have elements : t'.withoutText.elements = t.withoutText.elements := Array.ext_getElem? same
  calc t'.withoutText
      = ⟨t'.withoutText.elements, t'.root⟩ := rfl
    _ = ⟨t.withoutText.elements, t.root⟩ := by rw [elements, root]
    _ = t.withoutText := rfl

theorem root_of_withoutText (same : t'.withoutText = t.withoutText) : t'.root = t.root := by
  calc t'.root
      = t'.withoutText.root := rfl
    _ = t.withoutText.root := by rw [same]
    _ = t.root := rfl

theorem hostFor?_of_withoutText (same : t'.withoutText = t.withoutText) (e : Element) :
    t'.hostFor? e = t.hostFor? e := by
  have conditional : t'.isConditional = t.isConditional := by
    funext i
    exact isConditional_of_withoutText _ i same
  simp only [hostFor?, childIds_of_withoutText _ _ same, conditional]

/-- One element more leaves templates the same but for text. -/
theorem Grows.of_withoutText (grows : t.Grows u e) (grows' : t'.Grows u' e)
    (same : t'.withoutText = t.withoutText) : u'.withoutText = u.withoutText := by
  have size := size_of_withoutText _ same
  apply withoutText_ext
  · rw [grows.root, grows'.root, root_of_withoutText same, size]
  · intro i
    rw [grows.bare, grows'.bare, size, bare?_of_withoutText _ i same]
  · intro i
    rw [grows.childIds, grows'.childIds, size, childIds_of_withoutText _ i same]
  · intro i
    rw [grows.elseBranch, grows'.elseBranch, size, hostFor?_of_withoutText same,
      elseBranch?_of_withoutText _ i same]

end Template

namespace Builder

open Template

/-- The builders differ in the text of their elements at most. -/
structure Alike (b b' : Builder) : Prop where
  template : b'.template.withoutText = b.template.withoutText
  openIds : b'.openIds = b.openIds
  inRawRegion : b'.inRawRegion = b.inRawRegion
  rootsReported : b'.rootsReported = b.rootsReported
  outsideReported : b'.outsideReported = b.outsideReported

namespace Alike

variable {b b' : Builder} (alike : b.Alike b') (settings settings' : Settings) (d d' : Delimiters)

include alike

theorem size : b'.template.size = b.template.size :=
  size_of_withoutText _ alike.template

theorem bare? (i : Nat) : b'.template.bare? i = b.template.bare? i :=
  bare?_of_withoutText _ i alike.template

/-- Elements at the same place are the same but for what they hold. -/
theorem get?_of_get? {id : Nat} {e : Element} (found : b.template.get? id = some e) :
    b'.template.get? id = some { e with children := b'.template.content id } := by
  have there := get?_of_bare? b.template found (alike.bare? id)
  rwa [elseBranch?_of_withoutText _ id alike.template, elseBranch?_of_get? b.template found]
    at there

/-- The text around an element has no part in what it is. -/
theorem makeElement (dialect : settings'.dialect = settings.dialect) (name : Text)
    (attributes : List Attribute) :
    b'.makeElement settings' d name attributes = b.makeElement settings d name attributes := by
  have viewed : ∀ (t : Template) (p : Nat),
      (t.get? p).bind (·.xmlNamespace) = (t.bare? p).bind (·.xmlNamespace) := by
    intro t p
    rw [Template.bare?]
    cases t.get? p <;> rfl
  have sameNamespace : ∀ p : Option Nat,
      (p.bind b'.template.get?).bind (·.xmlNamespace) =
        (p.bind b.template.get?).bind (·.xmlNamespace) := by
    intro p
    cases p with
    | none => rfl
    | some p => rw [Option.bind_some, Option.bind_some, viewed, viewed, alike.bare?]
  simp only [Builder.makeElement, alike.openIds, alike.inRawRegion, dialect, sameNamespace]

/-- If the same element starts in both, it is linked in the same way. -/
theorem start (sound : b.Sound) (sound' : b'.Sound) {name : Text} {attributes : List Attribute}
    (made : (b'.makeElement settings' d' name attributes).1 =
      (b.makeElement settings d name attributes).1) (isVoid : Bool) :
    (b.start settings d name attributes isVoid).1.Alike
        (b'.start settings' d' name attributes isVoid).1 ∧
      ∃ linking,
        (b.start settings d name attributes isVoid).2 =
          (b.makeElement settings d name attributes).2 ++ linking ∧
        (b'.start settings' d' name attributes isVoid).2 =
          (b'.makeElement settings' d' name attributes).2 ++ linking := by
  obtain ⟨grows, warnings⟩ := sound.grows_start settings d name attributes isVoid
  obtain ⟨grows', warnings'⟩ := sound'.grows_start settings' d' name attributes isVoid
  have root := root_of_withoutText alike.template
  rw [made] at grows' warnings'
  rw [List.append_assoc, addElement_reports] at warnings warnings'
  rw [root, alike.openIds, alike.rootsReported, hostFor?_of_withoutText alike.template]
    at warnings'
  refine ⟨⟨grows.of_withoutText grows' alike.template, ?_, ?_, ?_, ?_⟩, _, warnings, warnings'⟩
  · rw [start_openIds, start_openIds, alike.size, alike.openIds]
  · rw [inRawRegion_start, inRawRegion_start, made, alike.inRawRegion]
  · rw [rootsReported_start, rootsReported_start, root, alike.openIds, alike.rootsReported]
  · rw [outsideReported_start, outsideReported_start, alike.outsideReported]

theorem finish : b.finish.Alike b'.finish where
  template := by rw [withoutText_finish, withoutText_finish, alike.template]
  openIds := by rw [openIds_finish, openIds_finish, alike.openIds]
  inRawRegion := by
    have bare : b'.template.bare? = b.template.bare? := funext alike.bare?
    rw [inRawRegion_finish, inRawRegion_finish, alike.openIds, alike.inRawRegion, bare]
  rootsReported := by rw [rootsReported_finish, rootsReported_finish, alike.rootsReported]
  outsideReported := by rw [outsideReported_finish, outsideReported_finish, alike.outsideReported]

theorem text (s : Text) :
    (b.text settings d s).1.Alike (b'.text settings' d' s).1 where
  template := by rw [withoutText_text, withoutText_text, alike.template]
  openIds := by rw [openIds_text, openIds_text, alike.openIds]
  inRawRegion := by rw [inRawRegion_text, inRawRegion_text, alike.inRawRegion]
  rootsReported := by rw [rootsReported_text, rootsReported_text, alike.rootsReported]
  outsideReported := by
    rw [outsideReported_text, outsideReported_text, alike.openIds, alike.outsideReported]

theorem text_reports (s : Text) : (b'.text settings' d' s).2 = (b.text settings d s).2 := by
  rw [Builder.text_reports, Builder.text_reports, alike.openIds, alike.outsideReported]

/-- What text adds is related everywhere if what it adds to the innermost open element is. -/
theorem text_appended (sound : b.Sound) (sound' : b'.Sound) {R : List Child → List Child → Prop}
    (s : Text) (i : Nat) (nothing : R [] [])
    (added : ∀ e, b.openIds.head? = some i → b.template.get? i = some e →
      let kept := keptText settings e s
      let kept' := keptText settings' { e with children := b'.template.content i } s
      R (if kept ≠ [] then [textChild d b.inRawRegion kept] else [])
        (if kept' ≠ [] then [textChild d' b.inRawRegion kept'] else [])) :
    ∃ more more',
      (b.text settings d s).1.template.content i = b.template.content i ++ more ∧
      (b'.text settings' d' s).1.template.content i = b'.template.content i ++ more' ∧
      R more more' := by
  by_cases innermost : b.openIds.head? = some i
  · have innermost' : b'.openIds.head? = some i := by rw [alike.openIds, innermost]
    obtain ⟨e, found⟩ := exists_get?_of_lt (sound.open_lt i (List.mem_of_head? innermost))
    have content := content_text sound settings d i innermost found s
    have content' := content_text sound' settings' d' i innermost' (alike.get?_of_get? found) s
    rw [alike.inRawRegion] at content'
    exact ⟨_, _, content, content', added e innermost found⟩
  · have elsewhere' : b'.openIds.head? ≠ some i := by rwa [alike.openIds]
    refine ⟨[], [], ?_, ?_, nothing⟩
    · rw [content_text_of_ne sound settings d i innermost, List.append_nil]
    · rw [content_text_of_ne sound' settings' d' i elsewhere', List.append_nil]

end Alike

/-! ### Runs -/

/-- What every one of the events keeps of two builders, the list of them keeps. -/
theorem run_preserves_both {settings settings' : Settings} {d d' : Delimiters}
    {P : Builder → Builder → List Warning → List Warning → Prop} (events : List Event)
    (keeps : ∀ b b' warnings warnings' event, P b b' warnings warnings' →
      P (b.step settings d event).1 (b'.step settings' d' event).1
        (warnings ++ (b.step settings d event).2) (warnings' ++ (b'.step settings' d' event).2))
    {b b' : Builder} {warnings warnings' : List Warning} (begins : P b b' warnings warnings') :
    P (b.run settings d events).1 (b'.run settings' d' events).1
      (warnings ++ (b.run settings d events).2.flatten)
      (warnings' ++ (b'.run settings' d' events).2.flatten) := by
  induction events generalizing b b' warnings warnings' with
  | nil => simpa [run] using begins
  | cons event events ih =>
      have later := ih (keeps b b' warnings warnings' event begins)
      simpa only [run, List.flatten_cons, List.append_assoc] using later

end Builder

/-! ### Parsing -/

/-- Parsing in two ways succeeds in both, and this holds of the results, or delimiters are refused
in both. -/
def ParsesAlike (settings settings' : Settings) (source : Text) (holds : Parsed → Parsed → Prop) :
    Prop :=
  match parse settings source, parse settings' source with
  | .ok parsed, .ok parsed' => holds parsed parsed'
  | .error e, .error e' => e' = e
  | _, _ => False

/-- What is asked of two parses with the same delimiters is asked of what the events build. -/
theorem parsesAlike_of_build {settings settings' : Settings} {source : Text}
    {holds : Parsed → Parsed → Prop} (delimiters : settings'.delimiters = settings.delimiters)
    (built : ∀ d, holds
      ⟨(buildTemplate settings d source).1.template, (buildTemplate settings d source).2.flatten⟩
      ⟨(buildTemplate settings' d source).1.template,
        (buildTemplate settings' d source).2.flatten⟩) :
    ParsesAlike settings settings' source holds := by
  have resolved : settings'.resolvedDelimiters = settings.resolvedDelimiters := by
    rw [Settings.resolvedDelimiters, Settings.resolvedDelimiters, delimiters]
  rw [ParsesAlike, parse, parse, resolved]
  cases settings.resolvedDelimiters with
  | error e => rfl
  | ok d => exact built d

end TemplateMarkup
