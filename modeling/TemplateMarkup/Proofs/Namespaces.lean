import TemplateMarkup.Proofs.Ancestors

/-!
# Namespaces

An element gets its namespace when it starts. It is the one of the element around it, and only if
that one has none the dialect is asked about the tag (`Inherits`). So on the way from the top down
to an element the first tag with a namespace decides, and everything below that tag's element is in
the same one, also where the dialect would say something else about a tag there.
-/

namespace TemplateMarkup

namespace Template

def namespace? (t : Template) (id : Nat) : Option Text :=
  (t.get? id).bind (·.xmlNamespace)

def tagNamespace? (t : Template) (dialect : Dialect) (id : Nat) : Option Text :=
  (t.get? id).bind fun e => dialect.namespaceOf e.tag

/-- An element is in the namespace of the one around it, and otherwise in that of its tag. -/
def Inherits (t : Template) (dialect : Dialect) : Prop :=
  ∀ id e, t.bare? id = some e →
    e.xmlNamespace = (e.parent.bind t.namespace?).or (dialect.namespaceOf e.tag)

/-- The outermost tag with a namespace decides for all that lies below it. -/
structure OutermostNamespaces (t : Template) (dialect : Dialect) : Prop where
  /-- The elements around an element lead to the top, in one way only. -/
  path : ∀ id, ∃ outer, t.Spine (id :: outer) ∧
    ∀ outer', t.Spine (id :: outer') → outer' = outer
  /-- From the top down, the first tag with a namespace is the one that counts. -/
  outermost : ∀ id e outer, t.get? id = some e → t.Spine (id :: outer) →
    e.xmlNamespace = (id :: outer).reverse.findSome? (t.tagNamespace? dialect)
  /-- What lies below an element with a namespace is in the same one. -/
  below : ∀ a c e ns, t.namespace? a = some ns → t.IsAncestor a c → t.get? c = some e →
    e.xmlNamespace = some ns

variable {t t' : Template} {dialect : Dialect} {id a c : Nat} {e : Element} {ns : Text}

theorem namespace?_eq_bare : t.namespace? id = (t.bare? id).bind (·.xmlNamespace) := by
  rw [namespace?, bare?]
  cases t.get? id <;> rfl

theorem namespace?_of_get? (found : t.get? id = some e) : t.namespace? id = e.xmlNamespace := by
  rw [namespace?, found, Option.bind_some]

/-! ### Paths from the top -/

/-- There is only one way from an element to the top. -/
theorem Spine.unique {outer outer' : List Nat} (spine : t.Spine (id :: outer))
    (spine' : t.Spine (id :: outer')) : outer' = outer := by
  induction outer generalizing id outer' with
  | nil =>
      have atTop : outer'.head? = none := spine'.parent?.symm.trans spine.parent?
      exact List.head?_eq_none_iff.1 atTop
  | cons p outer ih =>
      have within : outer'.head? = some p := spine'.parent?.symm.trans spine.parent?
      obtain ⟨outer', rfl⟩ := List.head?_eq_some_iff.1 within
      have further : outer' = outer := ih spine.tail spine'.tail
      rw [further]

theorem exists_spine (parent_lt : ∀ id p, t.parent? id = some p → p < id) (id : Nat) :
    ∃ outer, t.Spine (id :: outer) := by
  induction id using Nat.strongRecOn with
  | ind id ih =>
      cases within : t.parent? id with
      | none => exact ⟨[], .cons within .nil⟩
      | some p =>
          obtain ⟨outer, spine⟩ := ih p (parent_lt id p within)
          exact ⟨p :: outer, .cons within spine⟩

namespace Inherits

variable (inherits : t.Inherits dialect)

include inherits

theorem namespace?_eq :
    t.namespace? id = ((t.parent? id).bind t.namespace?).or (t.tagNamespace? dialect id) := by
  cases found : t.get? id with
  | none => simp only [namespace?, parent?, tagNamespace?, found, Option.bind_none, Option.or_none]
  | some e =>
      have inherited := inherits id e.bare (bare?_of_get? found)
      calc t.namespace? id
          = e.xmlNamespace := namespace?_of_get? found
        _ = (e.parent.bind t.namespace?).or (dialect.namespaceOf e.tag) := inherited
        _ = ((t.parent? id).bind t.namespace?).or (t.tagNamespace? dialect id) := by
            rw [parent?, tagNamespace?, found, Option.bind_some, Option.bind_some]

/-- The first tag with a namespace decides, by induction on the elements around the last one. -/
theorem namespace?_eq_findSome? {outer : List Nat} (spine : t.Spine (id :: outer)) :
    t.namespace? id = (id :: outer).reverse.findSome? (t.tagNamespace? dialect) := by
  induction outer generalizing id with
  | nil =>
      have atTop : t.parent? id = none := spine.parent?
      rw [inherits.namespace?_eq, atTop]
      simp
  | cons p outer ih =>
      have within : t.parent? id = some p := spine.parent?
      have around := ih spine.tail
      rw [inherits.namespace?_eq, within, Option.bind_some, around, List.reverse_cons (a := id),
        List.findSome?_append]
      simp

theorem namespace?_of_isAncestor (found : t.namespace? a = some ns)
    (ancestor : t.IsAncestor a c) : t.namespace? c = some ns := by
  induction ancestor with
  | parent within => rw [inherits.namespace?_eq, within, Option.bind_some, found, Option.some_or]
  | above within _ ih => rw [inherits.namespace?_eq, within, Option.bind_some, ih, Option.some_or]

theorem outermostNamespaces (parent_lt : ∀ id p, t.parent? id = some p → p < id) :
    t.OutermostNamespaces dialect where
  path id := by
    obtain ⟨outer, spine⟩ := exists_spine parent_lt id
    exact ⟨outer, spine, fun outer' spine' => spine.unique spine'⟩
  outermost id e outer found spine := by
    rw [← namespace?_of_get? found]
    exact inherits.namespace?_eq_findSome? spine
  below a c e ns opened ancestor found := by
    rw [← namespace?_of_get? found]
    exact inherits.namespace?_of_isAncestor opened ancestor

end Inherits

end Template

/-! ### Building -/

namespace Builder

open Template

variable {b : Builder} {dialect : Dialect}

/-- A start leaves the namespaces as they are, and gives the new element its own. -/
theorem Sound.inherits_start (sound : b.Sound) (settings : Settings) (d : Delimiters)
    (inherits : b.template.Inherits settings.dialect) (name : Text) (attributes : List Attribute)
    (isVoid : Bool) :
    (b.start settings d name attributes isVoid).1.template.Inherits settings.dialect := by
  have grows := (sound.grows_start settings d name attributes isVoid).1
  have old : ∀ p < b.template.size,
      (b.start settings d name attributes isVoid).1.template.namespace? p =
        b.template.namespace? p := by
    intro p started
    rw [namespace?_eq_bare, grows.bare, if_neg (Nat.ne_of_lt started), ← namespace?_eq_bare]
  -- Whatever is around an element started before it.
  have around : ∀ {parent : Option Nat}, (∀ p, parent = some p → p < b.template.size) →
      parent.bind (b.start settings d name attributes isVoid).1.template.namespace? =
        parent.bind b.template.namespace? := by
    intro parent started
    exact Option.bind_congr fun p within => old p (started p within)
  intro id e found
  rw [grows.bare] at found
  split at found
  next new =>
    obtain rfl := Option.some.inj found
    have made : (b.makeElement settings d name attributes).1.bare.xmlNamespace =
        ((b.makeElement settings d name attributes).1.parent.bind b.template.namespace?).or
          (settings.dialect.namespaceOf (b.makeElement settings d name attributes).1.tag) := by
      show ((b.openIds.head?.bind b.template.get?).bind (·.xmlNamespace)).or _ = _
      rw [Option.bind_assoc]
      rfl
    rw [made, ← around fun p => sound.parent_lt settings d name attributes]
    rfl
  next =>
    have inherited := inherits id e found
    rw [inherited, ← around]
    intro p within
    obtain ⟨e', there, rfl⟩ := Option.map_eq_some_iff.1 found
    have within : b.template.parent? id = some p := by
      rw [parent?, there, Option.bind_some]
      exact within
    exact Nat.lt_trans (sound.linked.parent_lt id p within) (get?_lt there)

theorem Sound.inherits_step (sound : b.Sound) (settings : Settings) (d : Delimiters)
    (inherits : b.template.Inherits settings.dialect) (event : Event) :
    (b.step settings d event).1.template.Inherits settings.dialect := by
  have of_withoutText : ∀ {t : Template}, t.withoutText = b.template.withoutText →
      t.Inherits settings.dialect := by
    intro t same id e found
    have sameNamespace : t.namespace? = b.template.namespace? := by
      funext p
      rw [namespace?_eq_bare, bare?_of_withoutText _ p same, ← namespace?_eq_bare]
    rw [bare?_of_withoutText _ id same] at found
    rw [sameNamespace]
    exact inherits id e found
  cases event with
  | start name attributes isVoid =>
      exact sound.inherits_start settings d inherits name attributes isVoid
  | finish tag => exact of_withoutText (withoutText_finish b)
  | text content => exact of_withoutText (withoutText_text settings d b content)
  | unmatchedEnd tag => exact inherits

end Builder

/-- Whatever the source and the settings, the namespace of an element is the one that the outermost
tag with a namespace opens, among its own and those around it. -/
theorem parse_outermostNamespaces (settings : Settings) (source : Text) :
    ParsesWith settings source fun _ parsed =>
      parsed.template.OutermostNamespaces settings.dialect := by
  apply parsesWith_of_build
  intro d _ _
  have kept : (buildTemplate settings d source).1.Sound ∧
      (buildTemplate settings d source).1.template.Inherits settings.dialect := by
    apply buildTemplate_preserves
      (fun b => b.Sound ∧ b.template.Inherits settings.dialect)
    · refine ⟨Builder.sound_empty, ?_⟩
      intro id e found
      exact absurd found (by simp [Template.bare?, Template.get?])
    · rintro b event ⟨sound, inherits⟩
      exact ⟨sound.step settings d event, sound.inherits_step settings d inherits event⟩
  exact kept.2.outermostNamespaces kept.1.linked.parent_lt

/-- Mathematics inside of a drawing is in the namespace of the drawing. -/
example : (parse {} "<p><svg><math></math></svg><math><svg></svg></math></p>".toList).toOption.map
      (fun p => (List.range 5).map p.template.namespace?) =
    some [none, some "svg".toList, some "svg".toList, some "math".toList,
      some "math".toList] := by
  decide +kernel

end TemplateMarkup
