/-
Changes dealt out by kind. After any history of edits, each change of the summary is in the part of one kind, the parts
keep the order of the summary, and their sizes are the counts (`Summary.ofEdits_partition`). The kind is that of the
sides which a change has, whatever name it was drafted under.
-/
import CodeAddress.Change.Summary
import Mathlib.Data.List.FinRange
import Mathlib.Data.List.InsertIdx

namespace CodeAddress

/-! ## Lists dealt out by keys -/

section Dealt

variable {α κ : Type} [DecidableEq κ]

/-- Each position of the list belongs to one key, and the part of a key is what stands at its positions, in order. -/
def Dealt (l : List α) (part : κ → List α) : Prop :=
  ∃ owner : Fin l.length → κ, ∀ k, part k = ((List.finRange l.length).filter fun i => owner i = k).map l.get

theorem dealt_filter (key : α → κ) (l : List α) : Dealt l fun k => l.filter fun a => key a = k := by
  refine ⟨fun i => key (l.get i), fun k => ?_⟩
  calc l.filter (fun a => key a = k)
      = ((List.finRange l.length).map l.get).filter fun a => key a = k := by rw [List.map_get_finRange]
    _ = _ := List.filter_map

end Dealt

/-! ## Sides of a change -/

namespace DefChange

variable {c : DefChange} {d : Draft}

def sides (c : DefChange) : Option Symbol × Option Symbol := (c.base?, c.head?)

theorem ofDraft?_eq_some_iff : ofDraft? d = some c ↔ c.sides = (d.base?, d.head?) := by
  rw [ofDraft?, ofSides?_eq_some_iff, sides, Prod.mk.injEq]

theorem ofDraft?_eq_none_iff : ofDraft? d = none ↔ d.base? = none ∧ d.head? = none := by
  unfold ofDraft?
  cases d.base? <;> cases d.head? <;> simp [ofSides?]

theorem kind_eq_added_iff : c.kind = .added ↔ c.base? = none ∧ c.head? ≠ none := by
  cases c <;> simp [kind, base?, head?]

theorem kind_eq_changed_iff : c.kind = .changed ↔ c.base? ≠ none ∧ c.head? ≠ none := by
  cases c <;> simp [kind, base?, head?]

theorem kind_eq_deleted_iff : c.kind = .deleted ↔ c.base? ≠ none ∧ c.head? = none := by
  cases c <;> simp [kind, base?, head?]

end DefChange

/-! ## Summaries -/

namespace Summary

variable {c : DefChange} {k : DefChange.Kind}

theorem mem_ofKind_iff {s : Summary} : c ∈ s.ofKind k ↔ c ∈ s.changes ∧ c.kind = k := by
  rw [ofKind, List.mem_filter, decide_eq_true_eq]

/-! ## Histories -/

/-- What an edit does to the pairs of sides: an append adds the pair of its draft, unless both sides are missing, and an
erasure takes the pair at its place away. -/
def editPairs (pairs : List (Option Symbol × Option Symbol)) : Edit → List (Option Symbol × Option Symbol)
  | .append d => if d.base? = none ∧ d.head? = none then pairs else pairs ++ [(d.base?, d.head?)]
  | .erase i => ((place? pairs.length i).map pairs.eraseIdx).getD pairs

theorem map_sides_edit (s : Summary) (e : Edit) :
    (s.edit e).changes.map DefChange.sides = editPairs (s.changes.map DefChange.sides) e := by
  cases e with
  | append d =>
    rw [edit, append?, editPairs]
    cases h : DefChange.ofDraft? d with
    | none =>
      rw [if_pos (DefChange.ofDraft?_eq_none_iff.1 h)]
      rfl
    | some c =>
      have hsome : ¬ (d.base? = none ∧ d.head? = none) := by
        rw [← DefChange.ofDraft?_eq_none_iff, h]
        exact Option.some_ne_none c
      rw [if_neg hsome, ← DefChange.ofDraft?_eq_some_iff.1 h]
      exact List.map_append
  | erase i =>
    rw [edit, editPairs, List.length_map, size]
    cases place? s.changes.length i with
    | none => rfl
    | some p => exact (List.eraseIdx_map ..).symm

/-- The sides of the changes after a history are what the history makes of the pairs. -/
theorem map_sides_ofEdits (edits : List Edit) :
    (ofEdits edits).changes.map DefChange.sides = edits.foldl editPairs [] :=
  (List.foldl_hom (fun s => s.changes.map DefChange.sides) fun s e => (map_sides_edit s e).symm).symm

/-! ## Parts and counts -/

theorem counts_eq (s : Summary) : s.counts =
    { added := (s.ofKind .added).length, changed := (s.ofKind .changed).length,
      deleted := (s.ofKind .deleted).length } := by
  simp only [counts, ofKind, List.countP_eq_length_filter]

/-- Every change is counted, and counted once. -/
theorem sum_counts (s : Summary) : s.counts.added + s.counts.changed + s.counts.deleted = s.size := by
  rw [counts, size]
  induction s.changes with
  | nil => rfl
  | cons c cs ih =>
    simp only [List.countP_cons, List.length_cons] at ih ⊢
    cases hc : c.kind <;> simp <;> omega

/-- The parts of a summary hold each of its changes once, each part the changes with the sides of its kind, and the
counts are the sizes of the parts. -/
structure Partitioned (s : Summary) : Prop where
  dealt : Dealt s.changes fun k => s.ofKind k
  added : ∀ c, c ∈ s.ofKind .added ↔ c ∈ s.changes ∧ c.base? = none ∧ c.head? ≠ none
  changed : ∀ c, c ∈ s.ofKind .changed ↔ c ∈ s.changes ∧ c.base? ≠ none ∧ c.head? ≠ none
  deleted : ∀ c, c ∈ s.ofKind .deleted ↔ c ∈ s.changes ∧ c.base? ≠ none ∧ c.head? = none
  counts : s.counts =
    { added := (s.ofKind .added).length, changed := (s.ofKind .changed).length,
      deleted := (s.ofKind .deleted).length }
  total : s.counts.added + s.counts.changed + s.counts.deleted = s.size

theorem partitioned (s : Summary) : s.Partitioned where
  dealt := dealt_filter DefChange.kind s.changes
  added c := by rw [mem_ofKind_iff, DefChange.kind_eq_added_iff]
  changed c := by rw [mem_ofKind_iff, DefChange.kind_eq_changed_iff]
  deleted c := by rw [mem_ofKind_iff, DefChange.kind_eq_deleted_iff]
  counts := s.counts_eq
  total := s.sum_counts

/-- After any history of edits the summary holds the sides that were appended and not erased, where a draft without
sides is refused and changes nothing, and it is dealt out to its parts by these sides. -/
theorem ofEdits_partition (edits : List Edit) :
    (∀ d, DefChange.ofDraft? d = none ↔ d.base? = none ∧ d.head? = none) ∧
    (ofEdits edits).changes.map DefChange.sides = edits.foldl editPairs [] ∧
    (ofEdits edits).Partitioned :=
  ⟨fun _ => DefChange.ofDraft?_eq_none_iff, map_sides_ofEdits edits, partitioned _⟩

/-- A change drafted without its base is an added one, a deletion without a base is refused, and the index before the
first is that of the last change. -/
example (a b : Symbol) :
    let s := ofEdits [.append (.changed none (some b)), .append (.deleted none), .append (.sides (some a) (some b)),
      .append (.deleted (some a)), .append (.deleted (some a)), .erase (-1), .erase 7]
    s.changes = [.added b, .changed a b, .deleted a] ∧ s.counts = { added := 1, changed := 1, deleted := 1 } :=
  ⟨rfl, rfl⟩

end Summary

end CodeAddress
