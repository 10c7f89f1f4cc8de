/-
Definitions that differ between the two sides of a delta. A change has a base, a head or both, and
which of them it has is its kind; `ofSides?` builds it from two sides that may be absent and refuses
only the pair that lacks both. A draft asks for a change by its sides or under the name of a kind; the
name only says which sides count, and the kind is still that of the sides that are there.
-/
import CodeAddress.Ref.Definition

namespace CodeAddress

/-- A definition as one side of a delta has it: where it is, its name and what it is. -/
structure Symbol where
  place : Definition
  name : Text
  kind : Text := []
deriving DecidableEq, Repr

/-- A definition that differs between base and head. -/
inductive DefChange where
  | added (head : Symbol)
  /-- It is in both, in different forms. -/
  | changed (base head : Symbol)
  | deleted (base : Symbol)
deriving DecidableEq, Repr

inductive DefChange.Kind where
  | added
  | changed
  | deleted
deriving DecidableEq, Repr

namespace DefChange

/-- The change between two sides, one of which may be absent. -/
def ofSides? : (base head : Option Symbol) → Option DefChange
  | none, none => none
  | none, some head => some (.added head)
  | some base, none => some (.deleted base)
  | some base, some head => some (.changed base head)

/-- What is said of a change without sides. -/
def noSidesMessage : String := "DefDelta requires a base or a head definition"

def base? : DefChange → Option Symbol
  | added _ => none
  | changed base _ => some base
  | deleted base => some base

def head? : DefChange → Option Symbol
  | added head => some head
  | changed _ head => some head
  | deleted _ => none

def kind : DefChange → Kind
  | added _ => .added
  | changed _ _ => .changed
  | deleted _ => .deleted

def Kind.name : Kind → String
  | .added => "added"
  | .changed => "changed"
  | .deleted => "deleted"

/-- A change that is asked for, by its two sides or under the name of a kind with the sides of that kind. Any side
may be missing. -/
inductive Draft where
  | sides (base head : Option Symbol)
  | added (head : Option Symbol)
  | changed (base head : Option Symbol)
  | deleted (base : Option Symbol)
deriving DecidableEq, Repr

def Draft.base? : Draft → Option Symbol
  | sides base _ => base
  | added _ => none
  | changed base _ => base
  | deleted base => base

def Draft.head? : Draft → Option Symbol
  | sides _ head => head
  | added head => head
  | changed _ head => head
  | deleted _ => none

/-- The change of a draft, if it has a side. -/
def ofDraft? (d : Draft) : Option DefChange := ofSides? d.base? d.head?

/-- The sides of a change are the ones it was built from. -/
theorem ofSides?_eq_some_iff {base head : Option Symbol} {c : DefChange} :
    ofSides? base head = some c ↔ c.base? = base ∧ c.head? = head := by
  cases base <;> cases head <;> cases c <;> simp [ofSides?, base?, head?] <;> grind

end DefChange

end CodeAddress
