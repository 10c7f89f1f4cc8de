/-
Tables that keep the order in which their keys first came: a list of pairs, where writing to a key
that is present replaces its value in place.
-/

namespace CodeAddress.Ordered

variable {α β : Type} [DecidableEq α]

/-- The table with a value written under a key. -/
def put (key : α) (value : β) : List (α × β) → List (α × β)
  | [] => [(key, value)]
  | p :: ps => if p.1 = key then (key, value) :: ps else p :: put key value ps

/-- The table of pairs written one after another: a key keeps its first place and its last value. -/
def ofPairs (ps : List (α × β)) : List (α × β) := ps.foldl (fun t p => put p.1 p.2 t) []

theorem map_fst_put_of_mem {key : α} {value : β} {t : List (α × β)} (h : key ∈ t.map Prod.fst) :
    (put key value t).map Prod.fst = t.map Prod.fst := by
  induction t with
  | nil => simp at h
  | cons p ps ih =>
    by_cases hp : p.1 = key
    · simp [put, hp]
    · have : key ∈ ps.map Prod.fst := by
        rcases List.mem_cons.1 h with h | h
        · exact absurd h.symm hp
        · exact h
      simp [put, hp, ih this]

theorem put_of_notMem {key : α} {value : β} {t : List (α × β)} (h : key ∉ t.map Prod.fst) :
    put key value t = t ++ [(key, value)] := by
  induction t with
  | nil => rfl
  | cons p ps ih =>
    simp only [List.map_cons, List.mem_cons, not_or] at h
    simp [put, Ne.symm h.1, ih h.2]

/-- Writing a key leaves the keys distinct. -/
theorem nodup_put {key : α} {value : β} {t : List (α × β)} (h : (t.map Prod.fst).Nodup) :
    ((put key value t).map Prod.fst).Nodup := by
  by_cases hmem : key ∈ t.map Prod.fst
  · rwa [map_fst_put_of_mem hmem]
  · rw [put_of_notMem hmem, List.map_append, List.nodup_append]
    refine ⟨h, by simp, fun k hk k' hk' heq => ?_⟩
    rw [List.map_singleton, List.mem_singleton] at hk'
    rw [heq, hk'] at hk
    exact hmem hk

/-- A pair of the table is the written one, or one that was there. -/
theorem mem_put {key : α} {value : β} {p : α × β} {t : List (α × β)} (h : p ∈ put key value t) :
    p = (key, value) ∨ p ∈ t := by
  induction t with
  | nil => exact .inl (List.mem_singleton.1 h)
  | cons q t ih =>
    rw [put] at h
    split at h
    · rcases List.mem_cons.1 h with h | h
      · exact .inl h
      · exact .inr (List.mem_cons_of_mem q h)
    · rcases List.mem_cons.1 h with h | h
      · exact .inr (h ▸ List.mem_cons_self ..)
      · exact (ih h).imp_right (List.mem_cons_of_mem q)

theorem foldl_put_of_nodup {t ps : List (α × β)} (h : ((t ++ ps).map Prod.fst).Nodup) :
    ps.foldl (fun t p => put p.1 p.2 t) t = t ++ ps := by
  induction ps generalizing t with
  | nil => simp
  | cons p ps ih =>
    have hp : p.1 ∉ t.map Prod.fst := by
      rw [List.map_append, List.nodup_append] at h
      intro hmem
      exact h.2.2 _ hmem _ (List.mem_cons_self ..) rfl
    rw [List.foldl_cons, put_of_notMem hp]
    have happ : t ++ p :: ps = (t ++ [p]) ++ ps := by simp
    rw [happ] at h ⊢
    exact ih h

/-- Pairs with keys of their own are their table. -/
theorem ofPairs_of_nodup {ps : List (α × β)} (h : (ps.map Prod.fst).Nodup) : ofPairs ps = ps :=
  foldl_put_of_nodup h

omit [DecidableEq α] in
theorem mem_of_lookup [BEq α] [LawfulBEq α] {key : α} {value : β} {t : List (α × β)} (h : t.lookup key = some value) :
    (key, value) ∈ t := by
  obtain ⟨l, r, rfl, -⟩ := List.lookup_eq_some_iff.1 h
  exact List.mem_append_right l (List.mem_cons_self ..)

omit [DecidableEq α] in
/-- Where keys are distinct, what is found under one is what is paired with it. -/
theorem lookup_eq_some_iff_mem [BEq α] [LawfulBEq α] {key : α} {value : β} {t : List (α × β)}
    (hn : (t.map Prod.fst).Nodup) : t.lookup key = some value ↔ (key, value) ∈ t := by
  refine ⟨mem_of_lookup, fun h => ?_⟩
  obtain ⟨l, r, rfl⟩ := List.append_of_mem h
  refine List.lookup_eq_some_iff.2 ⟨l, r, rfl, fun p hp => ?_⟩
  rw [List.map_append, List.nodup_append] at hn
  have hne := hn.2.2 p.1 (List.mem_map_of_mem hp) key (List.mem_cons_self ..)
  exact bne_iff_ne.2 hne.symm

end CodeAddress.Ordered
