import TemplateMarkup.Text.Basic

/-!
# Terminators

Markup that is not a start tag runs to a fixed terminator, and so much of it may lack one that a
fresh search for each would read the rest of the source again and again. `Terminators` keeps the
last search for each terminator and answers from it while it still holds.
-/

namespace TemplateMarkup

inductive Terminator where
  /-- The end of a comment. -/
  | comment
  /-- The end of a conditional comment. -/
  | conditional
  /-- The end of a tag or doctype. -/
  | tag
deriving DecidableEq, Repr

def Terminator.mark : Terminator → Text
  | comment => ['-', '-', '>']
  | conditional => [']', '>']
  | tag => ['>']

/-- A search that was made: it began at `start`, and `found` is the offset of the first occurrence
from there on. -/
structure Search where
  /-- Where the search began. -/
  start : Nat
  /-- What it found. -/
  found : Option Nat
deriving DecidableEq, Repr

/-- What the search says about the first occurrence from `offset` on. It knows nothing of what lies
before its start or behind its find. -/
def Search.answer? (search : Search) (offset : Nat) : Option (Option Nat) :=
  if search.start ≤ offset then
    match search.found with
    | none => some none
    | some i => if offset ≤ i then some (some i) else none
  else none

/-- The last search for each terminator. -/
structure Terminators where
  /-- The last search for the end of a comment. -/
  comment : Option Search := none
  /-- The last search for the end of a conditional comment. -/
  conditional : Option Search := none
  /-- The last search for the end of a tag. -/
  tag : Option Search := none
deriving DecidableEq, Repr

namespace Terminators

def last? (searches : Terminators) : Terminator → Option Search
  | .comment => searches.comment
  | .conditional => searches.conditional
  | .tag => searches.tag

/-- Keeps a search as the last one for its terminator. -/
def keep (searches : Terminators) (search : Search) : Terminator → Terminators
  | .comment => { searches with comment := some search }
  | .conditional => { searches with conditional := some search }
  | .tag => { searches with tag := some search }

@[simp] theorem last?_keep_self (searches : Terminators) (search : Search) (t : Terminator) :
    (searches.keep search t).last? t = some search := by
  cases t <;> rfl

theorem last?_keep_of_ne (searches : Terminators) (search : Search) {t u : Terminator}
    (h : u ≠ t) : (searches.keep search t).last? u = searches.last? u := by
  cases t <;> cases u <;> first | rfl | exact absurd rfl h

/-- The offset of the first occurrence of the terminator from `offset` on, where `s` is the source
from there on. The last search answers if it can; otherwise the new one is kept. -/
def find (searches : Terminators) (t : Terminator) (offset : Nat) (s : Text) :
    Option Nat × Terminators :=
  match (searches.last? t).bind (·.answer? offset) with
  | some found => (found, searches)
  | none =>
    let found := (Text.find? t.mark s).map (offset + ·)
    (found, searches.keep ⟨offset, found⟩ t)

end Terminators

end TemplateMarkup
