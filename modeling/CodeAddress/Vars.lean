/-
Route variables: named texts that fill the slots of a path template, and what a path gives back. They
may be in other letters than characters. A name that is absent counts as empty.
-/
import CodeAddress.Text.Basic

namespace CodeAddress

/-- Named texts, in characters unless other letters are named. -/
abbrev Vars (α : Type := Char) := List (Text × List α)

namespace Vars

variable {α : Type}

/-- The text under a name, empty if there is none. -/
def get (vars : Vars α) (name : Text) : List α := (vars.lookup name).getD []

theorem get_cons (name other : Text) (value : List α) (vars : Vars α) :
    get ((other, value) :: vars) name = if name = other then value else get vars name := by
  by_cases h : name = other
  · simp [get, h]
  · have hb : (name == other) = false := by simpa using h
    simp [get, List.lookup_cons, hb, h]

theorem get_map {names : List Text} {n : Text} (f : Text → List α) (h : n ∈ names) :
    get (names.map fun n => (n, f n)) n = f n := by
  induction names with
  | nil => cases h
  | cons m names ih =>
    rw [List.map_cons, get_cons]
    split
    · next hm => rw [hm]
    · next hm => exact ih (List.mem_of_ne_of_mem hm h)

/-! ## Names of their own -/

variable {v : Vars α} {n : Text} {t : List α}

theorem get_of_mem (hn : (v.map Prod.fst).Nodup) (h : (n, t) ∈ v) : v.get n = t := by
  induction v with
  | nil => cases h
  | cons q v ih =>
    obtain ⟨m, u⟩ := q
    obtain ⟨hm, hn⟩ := List.nodup_cons.1 hn
    rw [get_cons]
    rcases List.mem_cons.1 h with heq | h
    · cases heq
      exact if_pos rfl
    · have hmem : n ∈ v.map Prod.fst := List.mem_map_of_mem (f := Prod.fst) h
      rw [if_neg, ih hn h]
      rintro rfl
      exact hm hmem

/-- The variables are the values under their names. -/
theorem map_get (hn : (v.map Prod.fst).Nodup) : (v.map Prod.fst).map (fun n => (n, v.get n)) = v := by
  rw [List.map_map]
  refine (List.map_congr_left fun q hq => ?_).trans (List.map_id v)
  show (q.1, v.get q.1) = q
  rw [get_of_mem hn hq]

theorem mk_get_mem (hn : (v.map Prod.fst).Nodup) (h : n ∈ v.map Prod.fst) : (n, v.get n) ∈ v := by
  have hmem := List.mem_map_of_mem (f := fun n => (n, v.get n)) h
  rwa [map_get hn] at hmem

end Vars

namespace Var

def repo : Text := "RepoSpec"

def rev : Text := "Rev"

/-- The head of a delta. -/
def deltaHead : Text := "DeltaHeadRev"

/-- The type of the unit that holds a definition. -/
def unitType : Text := "UnitType"

/-- The unit that holds a definition. -/
def unit : Text := "Unit"

/-- The path of a definition within its unit. -/
def path : Text := "Path"

end Var

end CodeAddress
