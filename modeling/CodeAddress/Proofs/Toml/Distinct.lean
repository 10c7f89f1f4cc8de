/-
Every table of a document has each of its keys once (`Document.distinct_of_read`), the inline ones and those within
arrays too. A tree whose tables have this grows into another with every statement, since a key that is present has its
node replaced in its place (`Fields.Distinct.put`).
-/
import CodeAddress.Proofs.Outcome
import CodeAddress.Toml.Document

namespace CodeAddress

/-- A value that is neither a list nor a table. -/
def Value.IsLeaf : Value → Prop
  | .list _ => False
  | .table _ => False
  | _ => True

/-- Every table within a value has each of its keys once. -/
inductive Value.Distinct : Value → Prop
  | leaf {v : Value} (h : v.IsLeaf) : v.Distinct
  | list {items : List Value} (h : ∀ v ∈ items, v.Distinct) : (Value.list items).Distinct
  | table {fields : List (Text × Value)} (hkeys : (fields.map Prod.fst).Nodup) (h : ∀ p ∈ fields, p.2.Distinct) :
      (Value.table fields).Distinct

namespace Toml

variable {fs fs' sub : Fields} {k : Text} {path : List Text} {node : Node} {v : Value} {s rest : Text}

/-- Every table that a node holds has each of its keys once. -/
inductive Node.Distinct : Node → Prop
  | value {v : Value} (h : v.Distinct) : (Node.value v).Distinct
  | table {origin : Origin} {fields : Fields} (hkeys : (fields.map Prod.fst).Nodup) (h : ∀ p ∈ fields, p.2.Distinct) :
      (Node.table origin fields).Distinct
  | tables {closed : List Value} {fields : Fields} (hclosed : ∀ v ∈ closed, v.Distinct)
      (hkeys : (fields.map Prod.fst).Nodup) (h : ∀ p ∈ fields, p.2.Distinct) : (Node.tables closed fields).Distinct

/-- The fields of a table have each key once, and so do the tables below. -/
structure Fields.Distinct (fs : Fields) : Prop where
  nodup_keys : (fs.map Prod.fst).Nodup
  nodes : ∀ p ∈ fs, p.2.Distinct

/-! ## Values of a tree -/

theorem fieldValues_eq_map (fs : Fields) : fieldValues fs = fs.map fun p => (p.1, p.2.toValue) := by
  induction fs with
  | nil => rfl
  | cons p fs ih => rw [fieldValues, ih, List.map_cons]

theorem map_fst_fieldValues (fs : Fields) : (fieldValues fs).map Prod.fst = fs.map Prod.fst := by
  rw [fieldValues_eq_map, List.map_map]
  rfl

theorem distinct_table_fieldValues (hkeys : (fs.map Prod.fst).Nodup) (h : ∀ p ∈ fs, p.2.toValue.Distinct) :
    (Value.table (fieldValues fs)).Distinct := by
  refine .table (by rwa [map_fst_fieldValues]) fun p hp => ?_
  rw [fieldValues_eq_map] at hp
  obtain ⟨q, hq, rfl⟩ := List.mem_map.1 hp
  exact h q hq

theorem Node.Distinct.toValue (h : node.Distinct) : node.toValue.Distinct := by
  induction h with
  | value h => exact h
  | table hkeys _ ih => exact distinct_table_fieldValues hkeys ih
  | tables hclosed hkeys _ ih =>
    refine .list fun v hv => ?_
    rcases List.mem_append.1 hv with hv | hv
    · exact hclosed v hv
    · rw [List.mem_singleton.1 hv]
      exact distinct_table_fieldValues hkeys ih

namespace Fields

theorem Distinct.toValue (h : Distinct fs) : (Value.table (fieldValues fs)).Distinct :=
  distinct_table_fieldValues h.nodup_keys fun p hp => (h.nodes p hp).toValue

/-! ## Growth -/

theorem Distinct.nil : Distinct [] := ⟨List.nodup_nil, by simp⟩

theorem Distinct.put (h : Distinct fs) (hnode : node.Distinct) : Distinct (Ordered.put k node fs) := by
  refine ⟨Ordered.nodup_put h.nodup_keys, fun p hp => ?_⟩
  rcases Ordered.mem_put hp with rfl | hp
  · exact hnode
  · exact h.nodes p hp

theorem Distinct.of_lookup (h : Distinct fs) (hnode : fs.lookup k = some node) : node.Distinct :=
  h.nodes _ (Ordered.mem_of_lookup hnode)

theorem Distinct.table {origin : Origin} (h : Distinct sub) : (Node.table origin sub).Distinct :=
  .table h.nodup_keys h.nodes

theorem Distinct.of_table {origin : Origin} (h : (Node.table origin sub).Distinct) : Distinct sub := by
  cases h with
  | table hkeys h => exact ⟨hkeys, h⟩

theorem Distinct.of_tables {closed : List Value} (h : (Node.tables closed sub).Distinct) :
    (∀ v ∈ closed, v.Distinct) ∧ Distinct sub := by
  cases h with
  | tables hclosed hkeys h => exact ⟨hclosed, hkeys, h⟩

/-- A change that keeps keys distinct does so below a path. -/
theorem Distinct.within {change : Fields → Option Fields}
    (hchange : ∀ gs gs', Distinct gs → change gs = some gs' → Distinct gs') (h : Distinct fs)
    (hfs' : within change path fs = some fs') : Distinct fs' := by
  induction path generalizing fs fs' with
  | nil => exact hchange fs fs' h hfs'
  | cons key path ih =>
    rw [Fields.within] at hfs'
    split at hfs'
    · obtain ⟨sub', hsub', rfl⟩ := Option.map_eq_some_iff.1 hfs'
      exact h.put (ih .nil hsub').table
    · next hnode =>
      obtain ⟨sub', hsub', rfl⟩ := Option.map_eq_some_iff.1 hfs'
      exact h.put (ih (of_table (h.of_lookup hnode)) hsub').table
    · next hnode =>
      obtain ⟨sub', hsub', rfl⟩ := Option.map_eq_some_iff.1 hfs'
      obtain ⟨hclosed, hsub⟩ := of_tables (h.of_lookup hnode)
      have := ih hsub hsub'
      exact h.put (.tables hclosed this.nodup_keys this.nodes)
    · cases hfs'

theorem Distinct.declare (h : Distinct fs) (hfs' : declare k fs = some fs') : Distinct fs' := by
  unfold Fields.declare at hfs'
  split at hfs'
  · cases hfs'
    exact h.put Distinct.nil.table
  · next hnode =>
    cases hfs'
    exact h.put (of_table (h.of_lookup hnode)).table
  · cases hfs'

theorem Distinct.openNext (h : Distinct fs) (hfs' : openNext k fs = some fs') : Distinct fs' := by
  unfold Fields.openNext at hfs'
  split at hfs'
  · cases hfs'
    exact h.put (.tables (by simp) List.nodup_nil (by simp))
  · next hnode =>
    cases hfs'
    obtain ⟨hclosed, hsub⟩ := of_tables (h.of_lookup hnode)
    refine h.put (.tables (fun v hv => ?_) List.nodup_nil (by simp))
    rcases List.mem_append.1 hv with hv | hv
    · exact hclosed v hv
    · rw [List.mem_singleton.1 hv]
      exact hsub.toValue
  · cases hfs'

theorem Distinct.assign {part : Nat} (hv : v.Distinct) (h : Distinct fs) (hfs' : assign part v path fs = some fs') :
    Distinct fs' := by
  induction path generalizing fs fs' with
  | nil => cases hfs'
  | cons key path ih =>
    cases path with
    | nil =>
      rw [Fields.assign] at hfs'
      split at hfs'
      · cases hfs'
      · cases hfs'
        exact h.put (.value hv)
    | cons next path =>
      -- with more of the path to come the key leads through a table, which is there or made for it
      have hthrough : ∀ {sub}, Distinct sub → ((Fields.assign part v (next :: path) sub).map fun sub =>
          Ordered.put key (.table (.dotted part) sub) fs) = some fs' → Distinct fs' := by
        intro sub hsub heq
        obtain ⟨sub', hsub', rfl⟩ := Option.map_eq_some_iff.1 heq
        exact h.put (ih hsub hsub').table
      rw [Fields.assign] at hfs'
      dsimp only at hfs'
      split at hfs'
      · exact hthrough .nil hfs'
      · next hnode => exact hthrough (of_table (h.of_lookup hnode)) hfs'
      · next hnode =>
        split at hfs'
        · exact hthrough (of_table (h.of_lookup hnode)) hfs'
        · cases hfs'
      · cases hfs'
      · simp

end Fields

/-! ## Scalars -/

/-- What is read there, if anything is, holds nothing else. -/
def Leaves (found : Option (Read Value)) : Prop := ∀ v rest, found = some (.ok (v, rest)) → v.IsLeaf

theorem Leaves.orElse {found : Option (Read Value)} {other : Unit → Option (Read Value)} (h : Leaves found)
    (hother : Leaves (other ())) : Leaves (found.orElse other) := by
  cases found with
  | none => exact hother
  | some r => exact h

theorem Leaves.isLeaf {found : Option (Read Value)} (h : Leaves found)
    (hread : found.getD (.error .malformed) = .ok (v, rest)) : v.IsLeaf := by
  cases found with
  | none => cases hread
  | some r => exact h v rest (congrArg some hread)

theorem leaves_map {α : Type} {found : Option (α × Text)} {f : α → Value} (h : ∀ a, (f a).IsLeaf) :
    Leaves (found.map fun p => .ok (f p.1, p.2)) := by
  intro v rest hfound
  obtain ⟨p, -, heq⟩ := Option.map_eq_some_iff.1 hfound
  cases heq
  exact h p.1

theorem leaves_map_ok {found : Option (Value × Text)} (h : ∀ v rest, found = some (v, rest) → v.IsLeaf) :
    Leaves (found.map .ok) := by
  intro v rest hfound
  obtain ⟨p, hp, heq⟩ := Option.map_eq_some_iff.1 hfound
  cases heq
  exact h v rest hp

theorem isLeaf_of_boolean? (h : boolean? s = some (v, rest)) : v.IsLeaf := by
  unfold boolean? at h
  split at h
  · cases h
    trivial
  · obtain ⟨_, -, heq⟩ := Option.map_eq_some_iff.1 h
    cases heq
    trivial

theorem isLeaf_of_named? (h : named? s = some (v, rest)) : v.IsLeaf := by
  unfold named? at h
  dsimp only at h
  split at h
  · cases h
    trivial
  · obtain ⟨_, -, heq⟩ := Option.map_eq_some_iff.1 h
    cases heq
    trivial

theorem leaves_moment? (s : Text) : Leaves (moment? s) := by
  intro v rest h
  obtain ⟨⟨date, s⟩, -, h⟩ := Option.bind_eq_some_iff.1 h
  dsimp only at h
  split at h
  · cases h
  · split at h
    · cases h
      trivial
    · split at h
      · cases h
        trivial
      · cases h
        trivial

theorem leaves_decimal? (s : Text) : Leaves (decimal? s) := by
  intro v rest h
  obtain ⟨⟨whole, after⟩, -, h⟩ := Option.bind_eq_some_iff.1 h
  dsimp only at h
  split at h
  · cases h
    trivial
  · split at h
    · cases h
      trivial
    · split at h
      · cases h
      · cases h
        trivial

/-- A scalar is a leaf, whichever way it is read. -/
theorem isLeaf_of_scalar (h : scalar s = .ok (v, rest)) : v.IsLeaf := by
  refine Leaves.isLeaf ?_ h
  refine (leaves_map_ok fun _ _ => isLeaf_of_boolean?).orElse ?_
  refine (leaves_moment? s).orElse ?_
  refine (leaves_map (f := .clock) fun _ => trivial).orElse ?_
  refine (leaves_map (f := .integer) fun _ => trivial).orElse ?_
  exact (leaves_decimal? s).orElse (leaves_map_ok fun _ _ => isLeaf_of_named?)

/-! ## Reading -/

/-- What is read with a bound on the depth is distinct; the fields of an inline table are, if those before them are. -/
structure ReadsDistinct (n : Nat) : Prop where
  value : ∀ {s v rest}, valueFrom n s = .ok (v, rest) → v.Distinct
  items : ∀ {s vs rest}, itemsFrom n s = .ok (vs, rest) → ∀ v ∈ vs, v.Distinct
  fields : ∀ {fs s fs' rest}, Fields.Distinct fs → fieldsFrom n fs s = .ok (fs', rest) → Fields.Distinct fs'
  pair : ∀ {s path v rest}, pairFrom n s = .ok (path, v, rest) → v.Distinct

theorem readsDistinct (n : Nat) : ReadsDistinct n := by
  -- the readers call each other with a smaller bound, so all four go by one induction
  induction n with
  | zero =>
    refine ⟨fun h => ?_, fun h => ?_, fun _ h => ?_, fun h => ?_⟩
    · simp [valueFrom] at h
    · cases h
    · cases h
    · cases h
  | succ n ih =>
    refine ⟨fun {s v rest} h => ?_, fun {s vs rest} h => ?_, fun {fs s fs' rest} hfs h => ?_,
      fun {s path v rest} h => ?_⟩
    · cases s with
      | nil => simp [valueFrom] at h
      | cons c s =>
        rw [valueFrom] at h
        split at h
        · obtain ⟨_, -, heq⟩ := map_eq_ok_iff.1 h
          cases heq
          exact .leaf trivial
        · split at h
          · obtain ⟨_, -, h⟩ := exists_of_bind_eq_ok h
            obtain ⟨⟨items, _⟩, hitems, h⟩ := exists_of_bind_eq_ok h
            cases h
            exact .list (ih.items hitems)
          · split at h
            · split at h
              · cases h
                exact .table List.nodup_nil (by simp)
              · obtain ⟨⟨fields, _⟩, hfields, h⟩ := exists_of_bind_eq_ok h
                cases h
                exact (ih.fields .nil hfields).toValue
            · exact .leaf (isLeaf_of_scalar h)
    · rw [itemsFrom] at h
      split at h
      · cases h
        simp
      · obtain ⟨⟨v, _⟩, hv, h⟩ := exists_of_bind_eq_ok h
        obtain ⟨after, -, h⟩ := exists_of_bind_eq_ok h
        dsimp only at h
        split at h
        · obtain ⟨_, -, h⟩ := exists_of_bind_eq_ok h
          obtain ⟨⟨vs, _⟩, hvs, h⟩ := exists_of_bind_eq_ok h
          cases h
          exact List.forall_mem_cons.2 ⟨ih.value hv, ih.items hvs⟩
        · cases h
          exact List.forall_mem_singleton.2 (ih.value hv)
        · cases h
    · rw [fieldsFrom] at h
      obtain ⟨⟨path, v, _⟩, hpair, h⟩ := exists_of_bind_eq_ok h
      dsimp only at h
      split at h
      · cases h
      · next hassign =>
        have hnext := hfs.assign (ih.pair hpair) hassign
        split at h
        · exact ih.fields hnext h
        · cases h
          exact hnext
        · cases h
    · rw [pairFrom] at h
      obtain ⟨⟨_, _⟩, -, h⟩ := exists_of_bind_eq_ok h
      dsimp only at h
      split at h
      · cases h
      · obtain ⟨⟨v, _⟩, hv, h⟩ := exists_of_bind_eq_ok h
        cases h
        exact ih.value hv

/-! ## Statements -/

namespace Draft

variable {d d' : Draft}

theorem distinct_of_enter {change : Text → Fields → Option Fields}
    (hchange : ∀ key gs gs', Fields.Distinct gs → change key gs = some gs' → Fields.Distinct gs')
    (h : d.fields.Distinct) (hd' : d.enter path change = .ok d') : d'.fields.Distinct := by
  unfold enter at hd'
  split at hd'
  · cases hd'
  · split at hd'
    · cases hd'
    · next hfields =>
      cases hd'
      exact h.within (hchange _) hfields

/-- Headers of either kind read a key, go to its table and end with a mark. -/
theorem distinct_of_header {change : Text → Fields → Option Fields} {mark : Text}
    (hchange : ∀ key gs gs', Fields.Distinct gs → change key gs = some gs' → Fields.Distinct gs')
    (h : d.fields.Distinct)
    (hd' : (do
      let (path, rest) ← key (skipBlanks s)
      let d ← d.enter path change
      match Text.after? mark rest with
      | none => throw .malformed
      | some rest => return (d, rest) : Except Fault (Draft × Text)) = .ok (d', rest)) : d'.fields.Distinct := by
  obtain ⟨⟨path, _⟩, -, hd'⟩ := exists_of_bind_eq_ok hd'
  obtain ⟨e, he, hd'⟩ := exists_of_bind_eq_ok hd'
  have := distinct_of_enter hchange h he
  split at hd'
  · cases hd'
  · cases hd'
    exact this

theorem distinct_of_arrayHeader (h : d.fields.Distinct) (hd' : d.arrayHeader s = .ok (d', rest)) : d'.fields.Distinct :=
  distinct_of_header (fun _ _ _ => Fields.Distinct.openNext) h hd'

theorem distinct_of_tableHeader (h : d.fields.Distinct) (hd' : d.tableHeader s = .ok (d', rest)) : d'.fields.Distinct :=
  distinct_of_header (fun _ _ _ => Fields.Distinct.declare) h hd'

theorem distinct_of_assign (h : d.fields.Distinct) (hd' : d.assign s = .ok (d', rest)) : d'.fields.Distinct := by
  obtain ⟨⟨path, v, _⟩, hpair, hd'⟩ := exists_of_bind_eq_ok hd'
  have hv : v.Distinct := (readsDistinct _).pair hpair
  dsimp only at hd'
  split at hd'
  · cases hd'
  · next hfields =>
    cases hd'
    exact h.within (fun _ _ hgs => hgs.assign hv) hfields

theorem distinct_of_statement (h : d.fields.Distinct) (hd' : d.statement s = .ok (d', rest)) : d'.fields.Distinct := by
  unfold statement at hd'
  split at hd'
  · cases hd'
    exact h
  · exact distinct_of_arrayHeader h hd'
  · exact distinct_of_tableHeader h hd'
  · split at hd'
    · cases hd'
      exact h
    · exact distinct_of_assign h hd'

/-- Line by line the fields stay distinct. -/
theorem distinct_of_lines {n : Nat} (h : d.fields.Distinct) (hd' : d.lines n s = .ok d') : d'.fields.Distinct := by
  induction n generalizing d s with
  | zero => cases hd'
  | succ n ih =>
    obtain ⟨⟨e, _⟩, he, hd'⟩ := exists_of_bind_eq_ok hd'
    obtain ⟨_, -, hd'⟩ := exists_of_bind_eq_ok hd'
    have := distinct_of_statement h he
    split at hd'
    · cases hd'
      exact this
    · exact ih this hd'
    · cases hd'

end Draft

/-- Every table of a document has each of its keys once. -/
theorem Document.distinct_of_read {fields : List (Text × Value)} (h : Document.read s = .ok fields) :
    (Value.table fields).Distinct := by
  obtain ⟨d, hd, rfl⟩ := map_eq_ok_iff.1 h
  exact (Draft.distinct_of_lines .nil hd).toValue

end Toml

end CodeAddress
