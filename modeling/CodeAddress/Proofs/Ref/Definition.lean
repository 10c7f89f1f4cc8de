/-
The route variables of a definition. A definition that is written is read back unless its path is the dot that stands
for the empty path, and these two paths are all that share their variables. What is read never has the dot for its path,
so it is written again and read as the same (`vars_domain_and_collisions`).
-/
import CodeAddress.Ref.Definition

namespace CodeAddress.Definition

variable {d e : Definition} {v w : Vars} {p q t : Text}

/-! ## Paths -/

theorem emptyPath_ne_nil : emptyPath ≠ [] := by decide

/-- Every path but the dot is read back. -/
theorem readPath_writePath_iff : readPath (writePath p) = p ↔ p ≠ emptyPath := by
  unfold writePath readPath
  by_cases hp : p = []
  · rw [if_pos hp, if_pos rfl, hp]
    exact iff_of_true rfl emptyPath_ne_nil.symm
  · rw [if_neg hp]
    split
    · next hdot => exact iff_of_false (fun h => hp h.symm) (not_not_intro hdot)
    · next hdot => exact iff_of_true rfl hdot

theorem readPath_ne_emptyPath (t : Text) : readPath t ≠ emptyPath := by
  unfold readPath
  split
  · exact emptyPath_ne_nil.symm
  · assumption

/-- The dot is written for two paths. -/
theorem writePath_eq_iff :
    writePath p = writePath q ↔ p = q ∨ (p = [] ∧ q = emptyPath) ∨ (p = emptyPath ∧ q = []) := by
  unfold writePath
  by_cases hp : p = [] <;> by_cases hq : q = []
  · simp [hp, hq]
  · simp [hp, hq, emptyPath_ne_nil.symm, Ne.symm hq, eq_comm]
  · simp [hp, hq]
  · simp [hp, hq]

/-! ## Variables -/

/-- The definition has all that it cannot do without. -/
def IsWhole (d : Definition) : Prop := d.repo ≠ [] ∧ d.unitType ≠ [] ∧ d.unit ≠ []

theorem vars_eq_ok_iff :
    d.vars = .ok v ↔ d.IsWhole ∧ v = [(Var.repo, d.repo), (Var.unitType, d.unitType), (Var.unit, d.unit),
      (Var.path, writePath d.path)] ++ if d.commit = [] then [] else [(Var.rev, d.commit)] := by
  unfold vars IsWhole
  split
  · next h => simp [h]
  split
  · next h => simp [h]
  split
  · next h => simp [h]
  · next hrepo htype hunit => simp [hrepo, htype, hunit, eq_comm]

/-- The variables under their names; without a commit there is none under the name of the revision. -/
theorem get_of_vars (h : d.vars = .ok v) :
    v.get Var.repo = d.repo ∧ v.get Var.unitType = d.unitType ∧ v.get Var.unit = d.unit ∧
      v.get Var.path = writePath d.path ∧ v.get Var.rev = d.commit := by
  obtain ⟨-, rfl⟩ := vars_eq_ok_iff.1 h
  refine ⟨rfl, rfl, rfl, rfl, ?_⟩
  by_cases hc : d.commit = []
  · rw [if_pos hc, hc]
    rfl
  · rw [if_neg hc]
    rfl

/-- How variables are read, each under its name, and which they must have. -/
theorem ofVars_eq_ok_iff :
    ofVars v = .ok d ↔ d.IsWhole ∧ v.get Var.repo = d.repo ∧ v.get Var.unitType = d.unitType ∧
      v.get Var.unit = d.unit ∧ readPath (v.get Var.path) = d.path ∧ v.get Var.rev = d.commit := by
  obtain ⟨repo, unitType, unit, path, commit⟩ := d
  unfold ofVars IsWhole
  constructor
  · intro h
    split at h
    · cases h
    split at h
    · cases h
    split at h
    · cases h
    next hrepo htype hunit =>
    cases h
    exact ⟨⟨hrepo, htype, hunit⟩, rfl, rfl, rfl, rfl, rfl⟩
  · rintro ⟨⟨hrepo, htype, hunit⟩, rfl, rfl, rfl, rfl, rfl⟩
    rw [if_neg hrepo, if_neg htype, if_neg hunit]

/-- What is written is read back exactly if the path is. -/
theorem ofVars_of_vars_iff (h : d.vars = .ok v) : ofVars v = .ok d ↔ d.path ≠ emptyPath := by
  obtain ⟨hrepo, htype, hunit, hpath, hrev⟩ := get_of_vars h
  have hwhole := (vars_eq_ok_iff.1 h).1
  rw [ofVars_eq_ok_iff, hpath, readPath_writePath_iff]
  simp only [hwhole, hrepo, htype, hunit, hrev, true_and, and_true]

/-- What is read can be written. -/
theorem exists_vars_of_read (h : ofVars v = .ok d) : ∃ w, d.vars = .ok w :=
  ⟨_, vars_eq_ok_iff.2 ⟨(ofVars_eq_ok_iff.1 h).1, rfl⟩⟩

theorem path_ne_emptyPath_of_ofVars (h : ofVars v = .ok d) : d.path ≠ emptyPath := by
  obtain ⟨-, -, -, -, hpath, -⟩ := ofVars_eq_ok_iff.1 h
  rw [← hpath]
  exact readPath_ne_emptyPath _

/-! ## Collisions -/

/-- Two definitions that differ in the path, of which the one is empty and the other the dot written for it. -/
def Collides (d e : Definition) : Prop :=
  d = { e with path := d.path } ∧ ((d.path = [] ∧ e.path = emptyPath) ∨ (d.path = emptyPath ∧ e.path = []))

/-- The variables of two definitions agree under every name exactly if the definitions are the same or collide. -/
theorem lookup_eq_iff (hv : d.vars = .ok v) (hw : e.vars = .ok w) :
    (∀ n, v.lookup n = w.lookup n) ↔ d = e ∨ Collides d e := by
  constructor
  · intro h
    have hget (n : Text) : v.get n = w.get n := by rw [Vars.get, Vars.get, h]
    obtain ⟨hrepo, htype, hunit, hpath, hrev⟩ := get_of_vars hv
    obtain ⟨hrepo', htype', hunit', hpath', hrev'⟩ := get_of_vars hw
    rw [hget, hrepo'] at hrepo
    rw [hget, htype'] at htype
    rw [hget, hunit'] at hunit
    rw [hget, hpath', eq_comm, writePath_eq_iff] at hpath
    rw [hget, hrev'] at hrev
    have hothers : d = { e with path := d.path } := by rw [hrepo, htype, hunit, hrev]
    rcases hpath with h | h
    · exact .inl (hothers.trans (by rw [h]))
    · exact .inr ⟨hothers, h⟩
  · intro h
    have hwrite : d = { e with path := d.path } ∧ writePath d.path = writePath e.path := by
      rcases h with rfl | ⟨hothers, hpath⟩
      · exact ⟨rfl, rfl⟩
      · exact ⟨hothers, writePath_eq_iff.2 (.inr hpath)⟩
    obtain ⟨hothers, hpath⟩ := hwrite
    obtain ⟨-, rfl⟩ := vars_eq_ok_iff.1 hv
    obtain ⟨-, rfl⟩ := vars_eq_ok_iff.1 hw
    intro n
    rw [hpath, hothers]

/-! ## Main statement -/

/-- A definition that is written is read back exactly if its path is not the dot. Two that are written have the same
variables exactly if they are the same, or differ in the path alone, which is empty in one and the dot in the other.
What is read from any variables is written again, and read from what is written. -/
theorem vars_domain_and_collisions :
    (∀ d v, vars d = .ok v → (ofVars v = .ok d ↔ d.path ≠ emptyPath)) ∧
    (∀ d e v w, vars d = .ok v → vars e = .ok w → ((∀ n, v.lookup n = w.lookup n) ↔ d = e ∨ Collides d e)) ∧
    ∀ v d, ofVars v = .ok d → ∃ w, vars d = .ok w ∧ ofVars w = .ok d := by
  refine ⟨fun d v => ofVars_of_vars_iff, fun d e v w => lookup_eq_iff, fun v d h => ?_⟩
  obtain ⟨w, hw⟩ := exists_vars_of_read h
  exact ⟨w, hw, (ofVars_of_vars_iff hw).2 (path_ne_emptyPath_of_ofVars h)⟩

/-- The dot as a path is read as the empty one, which has the same variables; variables without a path, with an empty
revision and with one that is no definition's are read, and what is read is written with the dot. -/
theorem vars_domain_and_collisions_dot :
    (∃ v, vars ⟨"r", "t", "u", ".", "c"⟩ = .ok v ∧ ofVars v ≠ .ok ⟨"r", "t", "u", ".", "c"⟩ ∧
      ∃ w, vars ⟨"r", "t", "u", [], "c"⟩ = .ok w ∧ ∀ n, v.lookup n = w.lookup n) ∧
    ∃ d w, ofVars [(Var.rev, []), (Var.unit, "u"), ("x", "y"), (Var.repo, "r"), (Var.unitType, "t")] = .ok d ∧
      vars d = .ok w ∧ ofVars w = .ok d ∧ w.get Var.path = emptyPath := by
  obtain ⟨hback, hsame, hagain⟩ := vars_domain_and_collisions
  have hdot : vars ⟨"r", "t", "u", ".", "c"⟩ =
      .ok [(Var.repo, "r"), (Var.unitType, "t"), (Var.unit, "u"), (Var.path, "."), (Var.rev, "c")] := rfl
  have hempty : vars ⟨"r", "t", "u", [], "c"⟩ =
      .ok [(Var.repo, "r"), (Var.unitType, "t"), (Var.unit, "u"), (Var.path, "."), (Var.rev, "c")] := rfl
  have hread : ofVars [(Var.rev, []), (Var.unit, "u"), ("x", "y"), (Var.repo, "r"), (Var.unitType, "t")] =
      .ok ⟨"r", "t", "u", [], []⟩ := rfl
  refine ⟨⟨_, hdot, fun h => (hback _ _ hdot).1 h rfl, _, hempty, ?_⟩, ?_⟩
  · exact (hsame _ _ _ _ hdot hempty).2 (.inr ⟨rfl, .inr ⟨rfl, rfl⟩⟩)
  · obtain ⟨w, hw, hd⟩ := hagain _ _ hread
    exact ⟨_, w, hread, hw, hd, (get_of_vars hw).2.2.2.1⟩

end CodeAddress.Definition
