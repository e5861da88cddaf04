import TemplateMarkup.Proofs.Lookups

/-!
# Claiming

The claims that settle the attributes of an element, as a sequence. Which name is claimed next
depends on what the claims before have yielded: the long form of a name is asked for only if the
short one had no value, and the key of a loop only if the loop can be read. A `Claiming` is such a
sequence as data, so that one can speak of the points between its claims.

At each point the attributes that are left are those whose names have not been claimed, in their
order. This is so whatever the sequence. That the attributes of an element are settled by one is the
other half: `reading` makes the claims of `Annotations.ofAttributes`, and yields the same.
-/

namespace TemplateMarkup

open Text

/-- A sequence of claims with a result. Each may depend on what those before have yielded. -/
inductive Claiming (α : Type) where
  /-- The result. -/
  | done (result : α)
  /-- Claims all attributes of a name, and goes on with the value. -/
  | claim (name : Text) (next : Option Text → Claiming α)
  /-- Goes on with the attributes that are left, of which none is taken. -/
  | look (next : Pending → Claiming α)

namespace Claiming

variable {α β : Type}

def andThen : Claiming α → (α → Claiming β) → Claiming β
  | done result, next => next result
  | claim name more, next => claim name fun value => (more value).andThen next
  | look more, next => look fun p => (more p).andThen next

instance : Monad Claiming where
  pure := done
  bind := andThen

/-- The result with these attributes pending, and the attributes that stay so. -/
def run : Claiming α → Pending → α × Pending
  | done result, p => (result, p)
  | claim name next, p => (next (p.claim name).1).run (p.claim name).2
  | look next, p => (next p).run p

@[simp] theorem run_pure (result : α) (p : Pending) :
    (pure result : Claiming α).run p = (result, p) := rfl

@[simp] theorem run_bind (first : Claiming α) (next : α → Claiming β) (p : Pending) :
    (first >>= next).run p = (next (first.run p).1).run (first.run p).2 := by
  induction first generalizing p with
  | done result => rfl
  | claim name more ih => exact ih (p.claim name).1 (p.claim name).2
  | look more ih => exact ih p p

/-! ### Points -/

structure Point where
  /-- The names that have been claimed. -/
  claimed : List Text
  /-- The attributes that are left. -/
  left : Pending

def Point.first (attributes : List Attribute) : Point :=
  ⟨[], attributes⟩

def Point.after (point : Point) (name : Text) : Point :=
  ⟨point.claimed ++ [name], (point.left.claim name).2⟩

/-- The points that a sequence of claims comes to from one of them, itself included. -/
def points : Claiming α → Point → List Point
  | done _, here => [here]
  | claim name next, here => here :: (next (here.left.claim name).1).points (here.after name)
  | look next, here => (next here.left).points here

/-- What is left at the point are the attributes whose names have not been claimed. -/
def Point.Agrees (attributes : List Attribute) (point : Point) : Prop :=
  point.left = attributes.filter (·.name ∉ point.claimed)

namespace Point.Agrees

variable {attributes : List Attribute} {point : Point}

theorem first (attributes : List Attribute) : (Point.first attributes).Agrees attributes := by
  simp [Agrees, Point.first]

theorem after (agrees : point.Agrees attributes) (name : Text) :
    (point.after name).Agrees attributes := by
  rw [Agrees, Point.after, Pending.claim_snd, agrees, List.filter_filter]
  refine List.filter_congr fun a _ => ?_
  simp [Bool.and_comm]

/-- A claim yields what the table has, once. -/
theorem claim_fst (agrees : point.Agrees attributes) (name : Text) :
    (point.left.claim name).1 =
      if name ∈ point.claimed then none
      else Attribute.firstValue? name (Attribute.table attributes) := by
  have found := @Attribute.lastValue?_filter name (fun n => n ∉ point.claimed) attributes
  rw [Pending.claim_fst, agrees, found, Attribute.firstValue?_table]
  by_cases claimed : name ∈ point.claimed <;> simp [claimed]

end Point.Agrees

/-- Whatever the sequence, it leaves at each point what has not been claimed. -/
theorem agrees_of_mem_points {attributes : List Attribute} (sequence : Claiming α) {here : Point}
    (agrees : here.Agrees attributes) :
    ∀ point ∈ sequence.points here, point.Agrees attributes := by
  induction sequence generalizing here with
  | done result =>
      intro point member
      obtain rfl := List.mem_singleton.1 member
      exact agrees
  | claim name next ih =>
      intro point member
      rcases List.mem_cons.1 member with rfl | later
      · exact agrees
      · exact ih _ (agrees.after name) point later
  | look next ih => exact ih _ agrees

/-! ### Single claims -/

/-- The last value of a name. -/
def take (name : Text) : Claiming (Option Text) :=
  claim name done

def left : Claiming Pending :=
  look done

@[simp] theorem run_take (name : Text) (p : Pending) : (take name).run p = p.claim name := rfl

@[simp] theorem run_left (p : Pending) : left.run p = (p, p) := rfl

def takeFlag (name : Text) : Claiming Bool := do
  return (← take name).isSome

def takeNonempty (name : Text) : Claiming (Option Text) := do
  return (← take name).filter (· ≠ [])

def takeBinding (name : Text) : Claiming (Option Text) := do
  match ← take (':' :: name) with
  | some (c :: value) => return some (c :: value)
  | _ => take ("v-bind:".toList ++ name)

def takeBindingOrLiteral (name : Text) : Claiming (Option Text) := do
  match ← takeBinding name with
  | some value => return some value
  | none => return (← take name).map quote

@[simp] theorem run_takeFlag (name : Text) (p : Pending) :
    (takeFlag name).run p = p.claimFlag name := rfl

@[simp] theorem run_takeNonempty (name : Text) (p : Pending) :
    (takeNonempty name).run p = p.claimNonempty name := rfl

@[simp] theorem run_takeBinding (name : Text) (p : Pending) :
    (takeBinding name).run p = p.claimBinding name := by
  rw [takeBinding, run_bind, run_take, Pending.claimBinding]
  rcases p.claim (':' :: name) with ⟨_ | _ | ⟨c, value⟩, left⟩ <;> rfl

@[simp] theorem run_takeBindingOrLiteral (name : Text) (p : Pending) :
    (takeBindingOrLiteral name).run p = p.claimBindingOrLiteral name := by
  rw [takeBindingOrLiteral, run_bind, run_takeBinding, Pending.claimBindingOrLiteral]
  rcases p.claimBinding name with ⟨_ | value, left⟩ <;> rfl

/-! ### The claims of an element -/

open Annotations

def loop : Claiming (Option Loop × List Warning) := do
  match ← takeNonempty "v-for".toList with
  | none => return (none, [])
  | some value =>
    match LoopHeader.ofText? value with
    | none => return (none, [.invalidLoop value])
    | some header => return (some ⟨header, ← takeNonempty "track-by".toList⟩, [])

def slot (tag : Text) : Claiming (Option Text × Option Text) := do
  if tag = "slot".toList then
    return (← takeBindingOrLiteral "name".toList, none)
  else
    return (none, (← takeBindingOrLiteral "slot".toList).filter (· ≠ []))

def transition : Claiming (Option Transition) := do
  match ← takeBindingOrLiteral "transition".toList with
  | none => return none
  | some [] => return none
  | some value =>
    let effect := if value = "\"\"".toList then .standard else .binding value
    return some ⟨effect, (← takeBindingOrLiteral "transition-on-appear".toList).isSome⟩

theorem run_loop (p : Pending) :
    loop.run p = (((claimLoop p).1, (claimLoop p).2.1), (claimLoop p).2.2) := by
  rw [loop, run_bind, run_takeNonempty, claimLoop]
  rcases p.claimNonempty "v-for".toList with ⟨_ | value, left⟩
  · rfl
  · dsimp only
    cases LoopHeader.ofText? value <;> rfl

theorem run_slot (tag : Text) (p : Pending) :
    (slot tag).run p = (((claimSlot tag p).1, (claimSlot tag p).2.1), (claimSlot tag p).2.2) := by
  rw [slot, claimSlot]
  split
  · simp
  · simp

theorem run_transition (p : Pending) : transition.run p = claimTransition p := by
  rw [transition, run_bind, run_takeBindingOrLiteral, claimTransition]
  rcases p.claimBindingOrLiteral "transition".toList with ⟨_ | _ | ⟨c, value⟩, left⟩
  · rfl
  · rfl
  · simp

def classWarnings (d : Delimiters) (staticClass : Option Text) : List Warning :=
  match staticClass with
  | none => []
  | some value => spanWarnings d "class".toList value

/-- What the attributes of an element outside of raw regions mean, and the warnings about them. -/
def resolve (dialect : Dialect) (d : Delimiters) (tag : Text) (attributes : List Attribute) :
    Claiming (Annotations × List Warning) := do
  let (loop, loopWarnings) ← loop
  let condition ← takeNonempty "v-if".toList
  let isElse ← takeFlag "v-else".toList
  let once ← takeFlag "v-once".toList
  let plain := (loop.bind (·.key)).isNone && (← left).isEmpty
  let isRender := tag = "render".toList
  let (slotName, slotTarget) ← slot tag
  let component ← takeBindingOrLiteral "is".toList
  let inlineTemplate ← takeFlag "inline-template".toList
  let staticClass ← take "class".toList
  let classBinding ← takeBinding "class".toList
  let styleBinding ← takeBinding "style".toList
  let transition ← transition
  let p ← left
  let bound := p.filterMap bound?
  let literal := plainAttributes p
  return ({ loop, condition, isElse, once, plain, slotName, slotTarget, inlineTemplate, transition
            render := if isRender then some (renderCall attributes) else none
            component := component.filter (· ≠ [])
            staticClass := staticClass.map quote
            classBinding := classBinding.filter (· ≠ [])
            styleBinding := styleBinding.filter (· ≠ [])
            props := bound.filter fun a => dialect.mustUseProp tag a.name
            attrs := bound.filter fun a => !dialect.mustUseProp tag a.name
            staticAttrs := literals literal
            handlers := p.filterMap handler?
            directives := p.filterMap directive? },
    loopWarnings ++
      (if isRender then renderWarnings attributes else []) ++
      classWarnings d staticClass ++
      literal.flatMap fun a => spanWarnings d a.name a.value)

theorem run_resolve (dialect : Dialect) (d : Delimiters) (tag : Text)
    (attributes : List Attribute) (p : Pending) :
    (resolve dialect d tag attributes).run p =
      (Annotations.resolve dialect d tag attributes p, unclaimed tag p) := by
  simp only [resolve, run_bind, run_loop, run_takeNonempty, run_takeFlag, run_left, run_slot,
    run_takeBindingOrLiteral, run_take, run_takeBinding, run_transition, run_pure,
    Annotations.resolve, unclaimed]
  rfl

/-- The claims that settle what the attributes of an element mean. -/
def reading (dialect : Dialect) (d : Delimiters) (tag : Text) (attributes : List Attribute)
    (inRawRegion : Bool) : Claiming (Annotations × List Warning) := do
  if inRawRegion then
    return ({ rawPassthrough := true, attrs := literals (← left) }, [])
  else if ← takeFlag "v-pre".toList then
    return ({ pre := true, rawPassthrough := true, attrs := literals (← left) }, [])
  else resolve dialect d tag attributes

/-- An element is annotated by these claims. -/
theorem run_reading (dialect : Dialect) (d : Delimiters) (tag : Text)
    (attributes : List Attribute) (inRawRegion : Bool) :
    ((reading dialect d tag attributes inRawRegion).run attributes).1 =
      ofAttributes dialect d tag attributes inRawRegion := by
  rw [reading, ofAttributes]
  cases inRawRegion with
  | true => rfl
  | false =>
      rw [if_neg Bool.false_ne_true, run_bind, run_takeFlag]
      rcases Pending.claimFlag attributes "v-pre".toList with ⟨_ | _, p⟩
      · exact congrArg Prod.fst (run_resolve dialect d tag attributes p)
      · rfl

/-- Where the short form of a name has a value, the long one is not claimed. -/
example :
    let attributes : List Attribute := [⟨":is".toList, ['a']⟩, ⟨"v-bind:is".toList, ['b']⟩]
    ((reading .web .standard "p".toList attributes false).points (.first attributes)).all
      (fun point => "v-bind:is".toList ∉ point.claimed) = true := by
  decide +kernel

end Claiming

end TemplateMarkup
