/-
A list of changed definitions that grows and shrinks, with its parts by kind and their sizes, and
the pair of revisions that a summary is drawn up for.
-/
import CodeAddress.Change.DefChange
import CodeAddress.Ref.Delta

namespace CodeAddress

/-- The changed definitions of a delta, in the order they were found. -/
structure Summary where
  changes : List DefChange := []
deriving DecidableEq, Repr

/-- How many changes there are of each kind. -/
structure Summary.Counts where
  added : Nat
  changed : Nat
  deleted : Nat
deriving DecidableEq, Repr

namespace Summary

def size (s : Summary) : Nat := s.changes.length

def ofKind (k : DefChange.Kind) (s : Summary) : List DefChange := s.changes.filter fun c => c.kind = k

def counts (s : Summary) : Counts where
  added := s.changes.countP fun c => c.kind = .added
  changed := s.changes.countP fun c => c.kind = .changed
  deleted := s.changes.countP fun c => c.kind = .deleted

/-! ## Edits -/

/-- The summary with one more change at the end, if the draft makes one. -/
def append? (s : Summary) (d : DefChange.Draft) : Option Summary :=
  (DefChange.ofDraft? d).map fun c => { changes := s.changes ++ [c] }

/-- The summary without the change at an index; unchanged if there is none. -/
def erase (s : Summary) (i : Nat) : Summary := { changes := s.changes.eraseIdx i }

/-- The place in a list of some size that an index stands for; a negative one counts from the end. -/
def place? (size : Nat) : Int → Option Nat
  | .ofNat i => if i < size then some i else none
  | .negSucc i => if i < size then some (size - (i + 1)) else none

inductive Edit where
  | append (d : DefChange.Draft)
  | erase (i : Int)
deriving DecidableEq, Repr

/-- The summary after an edit; an append of a draft that makes no change leaves it as it was, and so does an index
that stands for no place. -/
def edit (s : Summary) : Edit → Summary
  | .append d => (s.append? d).getD s
  | .erase i => ((place? s.size i).map s.erase).getD s

/-- The summary after a history of edits, starting from none. -/
def ofEdits (edits : List Edit) : Summary := edits.foldl edit {}

end Summary

/-- Two revisions to compare, with the commits they were found at if those are known. -/
structure Comparison where
  base : Revision
  head : Revision
  baseCommit : Option Text := none
  headCommit : Option Text := none
deriving DecidableEq, Repr

def Comparison.delta (c : Comparison) : Delta where
  base := c.base
  head := c.head

end CodeAddress
