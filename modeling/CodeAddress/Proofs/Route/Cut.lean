/-
The cuts of a path along a template, as a relation: each literal stands as it is written, and each slot takes a
non-empty run of characters it may take, behind its lead, or is left out (`Cut`). Reading a path finds a cut
(`Cut.of_cutAlong`), and finds one whenever there is one (`Cut.isSome_cutAlong`).
-/
import CodeAddress.Proofs.Text.Basic
import CodeAddress.Route.Endpoint

namespace CodeAddress.Endpoint

variable {α : Type} [DecidableEq α] [Letter α] {name : Text} {run rest s : List α}

/-! ## Runs -/

/-- The letters of `run` are such that the slot of a name may take them in front of `rest`. -/
def Run (name : Text) (run rest : List α) : Prop := ∀ b, b ≠ [] → b <:+ run → admits name (b ++ rest) = true

theorem run_nil (name : Text) (rest : List α) : Run name [] rest := fun _ hne hb => absurd (List.suffix_nil.1 hb) hne

theorem run_cons {c : α} :
    Run name (c :: run) rest ↔ admits name (c :: (run ++ rest)) = true ∧ Run name run rest := by
  constructor
  · intro h
    exact ⟨h _ (List.cons_ne_nil _ _) (List.suffix_refl _), fun b hne hb => h b hne (hb.trans (List.suffix_cons ..))⟩
  · rintro ⟨hc, h⟩ b hne hb
    rcases List.suffix_cons_iff.1 hb with rfl | hb
    · exact hc
    · exact h b hne hb

/-- Two runs that begin one text and end where the slot may take no more are the same run. -/
theorem Run.eq_of_append_eq {run₁ run₂ rest₁ rest₂ : List α} (h₁ : Run name run₁ rest₁) (h₂ : Run name run₂ rest₂)
    (e₁ : admits name rest₁ = false) (e₂ : admits name rest₂ = false) (h : run₁ ++ rest₁ = run₂ ++ rest₂) :
    run₁ = run₂ ∧ rest₁ = rest₂ := by
  -- what one run has more begins the rest of the other, of which the slot takes nothing
  rcases List.append_eq_append_iff.1 h with ⟨b, rfl, rfl⟩ | ⟨b, rfl, rfl⟩
  · by_cases hb : b = []
    · simp [hb]
    · rw [h₂ b hb (List.suffix_append ..)] at e₁
      cases e₁
  · by_cases hb : b = []
    · simp [hb]
    · rw [h₁ b hb (List.suffix_append ..)] at e₂
      cases e₂

section Longest

variable {β : Type} {next : List α → Option β} {a : β}

theorem longest_eq_some (h : longest name next s = some (run, a)) :
    run ≠ [] ∧ ∃ rest, s = run ++ rest ∧ Run name run rest ∧ next rest = some a := by
  induction s generalizing run with
  | nil => cases h
  | cons c s ih =>
    unfold longest at h
    split at h
    · next hc =>
      split at h
      · next run' a' hl =>
        cases h
        obtain ⟨-, rest, rfl, hrun, hnext⟩ := ih hl
        exact ⟨List.cons_ne_nil _ _, rest, rfl, run_cons.2 ⟨hc, hrun⟩, hnext⟩
      · obtain ⟨a', hnext, he⟩ := Option.map_eq_some_iff.1 h
        cases he
        exact ⟨List.cons_ne_nil _ _, s, rfl, run_cons.2 ⟨hc, run_nil _ _⟩, hnext⟩
    · cases h

theorem isSome_longest (hne : run ≠ []) (hrun : Run name run rest) (hnext : (next rest).isSome) :
    (longest name next (run ++ rest)).isSome := by
  induction run with
  | nil => exact absurd rfl hne
  | cons c run ih =>
    obtain ⟨hc, hrun⟩ := run_cons.1 hrun
    rw [List.cons_append, longest, if_pos hc]
    split
    · rfl
    · next hl =>
      -- a longer run would have been found, so the run ends here
      cases run with
      | nil => simpa using hnext
      | cons d run =>
        have := ih (List.cons_ne_nil _ _) hrun
        rw [hl] at this
        cases this

/-- No longer run after which `next` succeeds begins the text. -/
theorem length_le_of_longest {run' : List α} (h : longest name next (run' ++ rest) = some (run, a))
    (hrun : Run name run' rest) (hnext : (next rest).isSome) : run'.length ≤ run.length := by
  induction run' generalizing run with
  | nil => exact Nat.zero_le _
  | cons c run' ih =>
    obtain ⟨hc, hrun⟩ := run_cons.1 hrun
    rw [List.cons_append, longest, if_pos hc] at h
    split at h
    · next hl =>
      cases h
      exact Nat.succ_le_succ (ih hl hrun)
    · next hl =>
      -- nothing is found behind the first character, so the run is this character
      obtain ⟨_, -, hq⟩ := Option.map_eq_some_iff.1 h
      cases hq
      by_cases hne : run' = []
      · rw [hne]
      · have hsome := isSome_longest hne hrun hnext
        rw [hl] at hsome
        cases hsome

end Longest

/-! ## Cuts -/

/-- The text is cut along the segments into these values of the slots; a slot that is left out has the empty
value. -/
inductive Cut : List Segment → List α → Vars α → Prop
  | done : Cut [] [] []
  | literal {t : Text} {segs : List Segment} {s : List α} {values : Vars α} :
      Cut segs s values → Cut (.literal t :: segs) (Letter.ofText t ++ s) values
  | filled {slot : Slot} {segs : List Segment} {run s : List α} {values : Vars α} :
      run ≠ [] → Run slot.name run s → Cut segs s values →
        Cut (.slot slot :: segs) (Letter.ofText slot.lead.toList ++ (run ++ s)) ((slot.name, run) :: values)
  | leftOut {slot : Slot} {segs : List Segment} {s : List α} {values : Vars α} :
      slot.optional = true → Cut segs s values → Cut (.slot slot :: segs) s ((slot.name, []) :: values)

variable {segs : List Segment} {values : Vars α}

theorem cut_nil_iff : Cut [] s values ↔ s = [] ∧ values = [] := by
  constructor
  · rintro ⟨⟩
    exact ⟨rfl, rfl⟩
  · rintro ⟨rfl, rfl⟩
    exact .done

theorem cut_literal_iff {t : Text} :
    Cut (.literal t :: segs) s values ↔ ∃ r, s = Letter.ofText t ++ r ∧ Cut segs r values := by
  constructor
  · rintro ⟨⟩
    next r h => exact ⟨r, rfl, h⟩
  · rintro ⟨r, rfl, h⟩
    exact .literal h

theorem cut_slot_iff {slot : Slot} :
    Cut (.slot slot :: segs) s values ↔
      (∃ run rest values', run ≠ [] ∧ Run slot.name run rest ∧ Cut segs rest values' ∧
        s = Letter.ofText slot.lead.toList ++ (run ++ rest) ∧ values = (slot.name, run) :: values') ∨
      ∃ values', slot.optional = true ∧ Cut segs s values' ∧ values = (slot.name, []) :: values' := by
  constructor
  · rintro (_ | _ | ⟨hne, hrun, h⟩ | ⟨hopt, h⟩)
    · exact .inl ⟨_, _, _, hne, hrun, h, rfl, rfl⟩
    · exact .inr ⟨_, hopt, h, rfl⟩
  · rintro (⟨run, rest, values', hne, hrun, h, rfl, rfl⟩ | ⟨values', hopt, h, rfl⟩)
    · exact .filled hne hrun h
    · exact .leftOut hopt h

/-- The values are those of the slots, in order. -/
theorem Cut.map_fst (h : Cut segs s values) : values.map Prod.fst = Template.names segs := by
  induction h with
  | done => rfl
  | literal _ ih => exact ih
  | filled _ _ _ ih => exact congrArg (_ :: ·) ih
  | leftOut _ _ ih => exact congrArg (_ :: ·) ih

/-- A cut has a value for each slot, which is empty only if the slot may be left out. -/
theorem Cut.exists_of_slot {slot : Slot} (h : Cut segs s values) (hs : .slot slot ∈ segs) :
    ∃ value, (slot.name, value) ∈ values ∧ (value = [] → slot.optional = true) := by
  induction h with
  | done => cases hs
  | literal _ ih =>
    rcases List.mem_cons.1 hs with heq | hs
    · cases heq
    · exact ih hs
  | @filled _ _ run _ _ hne _ _ ih =>
    rcases List.mem_cons.1 hs with heq | hs
    · cases heq
      exact ⟨run, List.mem_cons_self .., fun h => absurd h hne⟩
    · obtain ⟨value, hmem, hvalue⟩ := ih hs
      exact ⟨value, List.mem_cons_of_mem _ hmem, hvalue⟩
  | leftOut hopt _ ih =>
    rcases List.mem_cons.1 hs with heq | hs
    · cases heq
      exact ⟨[], List.mem_cons_self .., fun _ => hopt⟩
    · obtain ⟨value, hmem, hvalue⟩ := ih hs
      exact ⟨value, List.mem_cons_of_mem _ hmem, hvalue⟩

/-- Behind the same beginning, a text can also be cut along other segments that its rest is cut along. -/
theorem Cut.exists_tail {pre : List Segment} (h : Cut (pre ++ segs) s values) :
    ∃ u rest v, values = u ++ v ∧ Cut segs rest v ∧
      ∀ {segs' v'}, Cut segs' rest v' → Cut (pre ++ segs') s (u ++ v') := by
  induction pre generalizing s values with
  | nil => exact ⟨[], s, values, rfl, h, fun h' => h'⟩
  | cons seg pre ih =>
    cases seg with
    | literal t =>
      obtain ⟨r, rfl, hr⟩ := cut_literal_iff.1 h
      obtain ⟨u, rest, v, rfl, hv, hother⟩ := ih hr
      exact ⟨u, rest, v, rfl, hv, fun h' => .literal (hother h')⟩
    | slot slot =>
      rcases cut_slot_iff.1 h with ⟨run, r, values', hne, hrun, hr, rfl, rfl⟩ | ⟨values', hopt, hr, rfl⟩
      · obtain ⟨u, rest, v, rfl, hv, hother⟩ := ih hr
        exact ⟨(slot.name, run) :: u, rest, v, rfl, hv, fun h' => .filled hne hrun (hother h')⟩
      · obtain ⟨u, rest, v, rfl, hv, hother⟩ := ih hr
        exact ⟨(slot.name, []) :: u, rest, v, rfl, hv, fun h' => .leftOut hopt (hother h')⟩

/-! ## Reading -/

/-- The values if a slot is filled from the start of the text. -/
def takeSlot (name : Text) (segs : List Segment) (s : List α) : Option (Vars α) :=
  (longest name (cutAlong segs) s).map fun p => (name, p.1) :: p.2

theorem cutAlong_literal (t : Text) (segs : List Segment) (s : List α) :
    cutAlong (.literal t :: segs) s = (Text.after? (Letter.ofText t) s).bind (cutAlong segs) := rfl

theorem cutAlong_slot (name : Text) (segs : List Segment) (s : List α) :
    cutAlong (.slot { name } :: segs) s = takeSlot name segs s := rfl

theorem cutAlong_slot_lead (name : Text) (c : Char) (segs : List Segment) (s : List α) :
    cutAlong (.slot { name, lead := some c } :: segs) s =
      ((Text.after? (Letter.ofText [c]) s).bind (takeSlot name segs)).or
        ((cutAlong segs s).map fun values => (name, []) :: values) := by
  rw [cutAlong]
  cases h : (Text.after? (Letter.ofText [c]) s).bind (takeSlot name segs) with
  | none =>
    unfold takeSlot at h
    simp only [h, Option.none_or]
  | some values =>
    unfold takeSlot at h
    simp only [h, Option.some_or]

theorem takeSlot_eq_some (h : takeSlot name segs s = some values) :
    ∃ run rest values', run ≠ [] ∧ s = run ++ rest ∧ Run name run rest ∧ cutAlong segs rest = some values' ∧
      values = (name, run) :: values' := by
  obtain ⟨⟨run, values'⟩, hl, rfl⟩ := Option.map_eq_some_iff.1 h
  obtain ⟨hne, rest, hs, hrun, hnext⟩ := longest_eq_some hl
  exact ⟨run, rest, values', hne, hs, hrun, hnext, rfl⟩

theorem isSome_takeSlot (hne : run ≠ []) (hrun : Run name run rest)
    (h : (cutAlong segs rest).isSome) : (takeSlot name segs (run ++ rest)).isSome := by
  rw [takeSlot, Option.isSome_map]
  exact isSome_longest hne hrun h

/-- What a path is read as is a cut of it. -/
theorem Cut.of_cutAlong (h : cutAlong segs s = some values) : Cut segs s values := by
  induction segs generalizing s values with
  | nil =>
    simp only [cutAlong, Option.ite_none_right_eq_some, Option.some.injEq] at h
    obtain ⟨rfl, rfl⟩ := h
    exact .done
  | cons seg segs ih =>
    rcases seg with t | ⟨name, _ | c⟩
    · rw [cutAlong_literal] at h
      obtain ⟨r, hr, h⟩ := Option.bind_eq_some_iff.1 h
      rw [Text.after?_eq_some_iff.1 hr]
      exact .literal (ih h)
    · rw [cutAlong_slot] at h
      obtain ⟨run, rest, values', hne, rfl, hrun, hrest, rfl⟩ := takeSlot_eq_some h
      have hcut : Cut (.slot { name } :: segs) (Letter.ofText [] ++ (run ++ rest)) _ := .filled hne hrun (ih hrest)
      rwa [Letter.ofText_nil, List.nil_append] at hcut
    · rw [cutAlong_slot_lead] at h
      rcases Option.or_eq_some_iff.1 h with h | ⟨-, h⟩
      · obtain ⟨r, hr, h⟩ := Option.bind_eq_some_iff.1 h
        obtain ⟨run, rest, values', hne, rfl, hrun, hrest, rfl⟩ := takeSlot_eq_some h
        rw [Text.after?_eq_some_iff.1 hr]
        have hcut : Cut (.slot { name, lead := some c } :: segs) (Letter.ofText [c] ++ (run ++ rest)) _ :=
          .filled hne hrun (ih hrest)
        exact hcut
      · obtain ⟨values', hv, rfl⟩ := Option.map_eq_some_iff.1 h
        exact .leftOut rfl (ih hv)

/-- A path that can be cut is read. -/
theorem Cut.isSome_cutAlong (h : Cut segs s values) : (cutAlong segs s).isSome := by
  induction h with
  | done => rfl
  | literal _ ih =>
    rw [cutAlong_literal, Text.after?_eq_some_iff.2 rfl]
    exact ih
  | @filled slot segs run s values hne hrun _ ih =>
    obtain ⟨name, _ | c⟩ := slot
    · show (cutAlong _ (Letter.ofText [] ++ (run ++ s))).isSome = true
      rw [Letter.ofText_nil, List.nil_append, cutAlong_slot]
      exact isSome_takeSlot hne hrun ih
    · have ha : Text.after? (Letter.ofText [c]) (Letter.ofText [c] ++ (run ++ s)) = some (run ++ s) :=
        Text.after?_eq_some_iff.2 rfl
      show (cutAlong _ (Letter.ofText [c] ++ (run ++ s))).isSome = true
      rw [cutAlong_slot_lead, Option.isSome_or, ha, Option.bind_some, isSome_takeSlot hne hrun ih, Bool.true_or]
  | @leftOut slot segs s values hopt _ ih =>
    obtain ⟨name, _ | c⟩ := slot
    · cases hopt
    · rw [cutAlong_slot_lead, Option.isSome_or, Option.isSome_map, ih, Bool.or_true]

end CodeAddress.Endpoint
