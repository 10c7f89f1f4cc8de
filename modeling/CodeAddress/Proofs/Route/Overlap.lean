/-
What two templates have in common, decided on the templates alone. `shared pre a b` says that texts cut along
`pre ++ a` and along `pre ++ b` agree on the slots of `pre` (`exists_of_shared`), so a template that is `definite`
cuts a text in one way only (`Cut.eq_of_definite`); `apart a b` says that no text is cut along both
(`not_cut_of_apart`).

The tests look at how a slot ends: what follows it must begin with something the slot does not take, so that the
length of its value is no matter of choice, and if it may be left out, the text must tell whether it is.
-/
import CodeAddress.Proofs.Route.Cut

namespace CodeAddress.Template

open Endpoint

variable {name run rest s : Text} {c : Char} {slot : Slot} {segs pre a b : List Segment} {v w : List (Text × Text)}

/-! ## How a text begins -/

/-- Whether a text that is cut along the segments may begin with the character. -/
def mayBegin (c : Char) : List Segment → Bool
  | [] => false
  | .literal [] :: segs => mayBegin c segs
  | .literal (d :: _) :: _ => c = d
  | .slot slot :: segs =>
    match slot.lead with
    | none => true
    | some d => c = d || mayBegin c segs

theorem mayBegin_of_cut (h : Cut segs (c :: s) v) : mayBegin c segs = true := by
  induction segs generalizing v with
  | nil => cases (cut_nil_iff.1 h).1
  | cons seg segs ih =>
    rcases seg with (_ | ⟨d, t⟩) | ⟨name, _ | d⟩
    · obtain ⟨r, rfl, h⟩ := cut_literal_iff.1 h
      exact ih h
    · obtain ⟨r, hr, -⟩ := cut_literal_iff.1 h
      cases hr
      exact decide_eq_true rfl
    · rfl
    · rw [mayBegin, Bool.or_eq_true, decide_eq_true_eq]
      rcases cut_slot_iff.1 h with ⟨run, rest, values, -, -, -, hs, -⟩ | ⟨values, -, h, -⟩
      · cases hs
        exact .inl rfl
      · exact .inr (ih h)

/-- The literal text that the segments begin with. -/
def opening : List Segment → Text
  | .literal t :: segs => t ++ opening segs
  | _ => []

theorem opening_prefix (h : Cut segs s v) : opening segs <+: s := by
  induction h with
  | literal _ ih => exact List.prefix_append_right_inj _ |>.2 ih
  | _ => exact List.nil_prefix

/-- Whether the slot of a name takes nothing of a text that is cut along the segments. -/
def stops (name : Text) : List Segment → Bool
  | [] => true
  | .literal t :: segs => opening (.literal t :: segs) ≠ [] && !admits name (opening (.literal t :: segs))
  | .slot slot :: segs => slot.lead = some '@' && stops name segs

theorem admits_of_append {t : Text} (ht : t ≠ []) (h : admits name (t ++ s) = true) : admits name t = true := by
  cases t with
  | nil => exact absurd rfl ht
  | cons c t =>
    simp only [admits, List.cons_append] at h ⊢
    split at h
    · cases h
    next hc =>
    rw [if_neg hc]
    split at h
    · next hn => rwa [if_pos hn]
    · next hn =>
      rw [if_neg hn]
      simp only [decide_eq_true_eq, Text.beginsWith_iff] at h ⊢
      exact fun hp => h (hp.trans (List.prefix_append ..))

theorem admits_eq_false (h : stops name segs = true) (hc : Cut segs s v) : admits name s = false := by
  induction segs generalizing v with
  | nil =>
    rw [(cut_nil_iff.1 hc).1]
    rfl
  | cons seg segs ih =>
    cases seg with
    | literal t =>
      obtain ⟨r, rfl⟩ := opening_prefix hc
      simp only [stops, Bool.and_eq_true, decide_eq_true_eq, Bool.not_eq_true'] at h
      refine Bool.eq_false_iff.2 fun ha => ?_
      rw [admits_of_append h.1 ha] at h
      cases h.2
    | slot slot =>
      simp only [stops, Bool.and_eq_true, decide_eq_true_eq] at h
      rcases cut_slot_iff.1 hc with ⟨run, rest, values, -, -, -, rfl, -⟩ | ⟨values, -, hc, -⟩
      · rw [h.1]
        rfl
      · exact ih h.2 hc

/-! ## A slot in two templates -/

/-- The text of segments that are all literal. -/
def text? : List Segment → Option Text
  | [] => some []
  | .literal t :: segs => (text? segs).map (t ++ ·)
  | .slot _ :: _ => none

theorem eq_of_text? {t : Text} (ht : text? segs = some t) (h : Cut segs s v) : s = t := by
  induction segs generalizing s t with
  | nil =>
    cases ht
    exact (cut_nil_iff.1 h).1
  | cons seg segs ih =>
    cases seg with
    | literal u =>
      obtain ⟨t', ht', rfl⟩ := Option.map_eq_some_iff.1 ht
      obtain ⟨r, rfl, hr⟩ := cut_literal_iff.1 h
      rw [ih ht' hr]
      rfl
    | slot slot => cases ht

/-- Whether no text is cut along `a` behind the lead and a value, and along `b` as a whole. -/
def uncrossed (c : Char) (a b : List Segment) : Bool :=
  !mayBegin c b ||
    match text? a, text? b with
    | some t, some u => !decide (t <:+ u.drop 2)
    | _, _ => false

theorem not_cut_of_uncrossed (h : uncrossed c a b = true) (hne : run ≠ []) (ha : Cut a rest v)
    (hb : Cut b (c :: (run ++ rest)) w) : False := by
  rw [uncrossed, Bool.or_eq_true, mayBegin_of_cut hb] at h
  rcases h with h | h
  · cases h
  split at h
  · next t u ht hu =>
    -- the value is at least one character, so what follows it is a suffix behind the first two
    obtain ⟨d, run, rfl⟩ := List.exists_cons_of_ne_nil hne
    have hs := eq_of_text? hu hb
    rw [eq_of_text? ht ha] at hs
    rw [← hs, Bool.not_eq_true', decide_eq_false_iff_not] at h
    exact h (List.suffix_append run t)
  · cases h

/-- Whether the slot has the same value in every text that is cut along it and `a` and along it and `b`. -/
def settled (slot : Slot) (a b : List Segment) : Bool :=
  stops slot.name a && stops slot.name b &&
    match slot.lead with
    | none => true
    | some c => uncrossed c a b && uncrossed c b a

theorem exists_of_settled (h : settled slot a b = true) (hv : Cut (.slot slot :: a) s v)
    (hw : Cut (.slot slot :: b) s w) :
    ∃ value rest v' w', v = (slot.name, value) :: v' ∧ w = (slot.name, value) :: w' ∧
      Cut a rest v' ∧ Cut b rest w' := by
  obtain ⟨name, lead⟩ := slot
  simp only [settled, Bool.and_eq_true] at h
  obtain ⟨⟨ha, hb⟩, hlead⟩ := h
  -- filled in both texts, in one of them or in neither
  rcases cut_slot_iff.1 hv with ⟨run, rest, v', hne, hrun, hv', rfl, rfl⟩ | ⟨v', hopt, hv', rfl⟩
  · rcases cut_slot_iff.1 hw with ⟨run', rest', w', -, hrun', hw', hs, rfl⟩ | ⟨w', hopt, hw', rfl⟩
    · obtain ⟨rfl, rfl⟩ := hrun.eq_of_append_eq hrun' (admits_eq_false ha hv') (admits_eq_false hb hw')
        (List.append_cancel_left hs)
      exact ⟨run, rest, v', w', rfl, rfl, hv', hw'⟩
    · cases lead with
      | none => cases hopt
      | some c => exact (not_cut_of_uncrossed (Bool.and_eq_true_iff.1 hlead).1 hne hv' hw').elim
  · rcases cut_slot_iff.1 hw with ⟨run, rest, w', hne, -, hw', rfl, rfl⟩ | ⟨w', -, hw', rfl⟩
    · cases lead with
      | none => cases hopt
      | some c => exact (not_cut_of_uncrossed (Bool.and_eq_true_iff.1 hlead).2 hne hw' hv').elim
    · exact ⟨[], s, v', w', rfl, rfl, hv', hw'⟩

/-! ## Common beginnings -/

/-- Whether every slot of `pre` is settled in front of the rest of `pre` and either continuation. -/
def shared : (pre a b : List Segment) → Bool
  | [], _, _ => true
  | .literal _ :: pre, a, b => shared pre a b
  | .slot slot :: pre, a, b => settled slot (pre ++ a) (pre ++ b) && shared pre a b

/-- Texts cut along templates with a common beginning agree on its slots, and what is left is cut along what is
left of the templates. -/
theorem exists_of_shared (h : shared pre a b = true) (hv : Cut (pre ++ a) s v) (hw : Cut (pre ++ b) s w) :
    ∃ u rest v' w', v = u ++ v' ∧ w = u ++ w' ∧ Cut a rest v' ∧ Cut b rest w' := by
  induction pre generalizing s v w with
  | nil => exact ⟨[], s, v, w, rfl, rfl, hv, hw⟩
  | cons seg pre ih =>
    cases seg with
    | literal t =>
      obtain ⟨r, rfl, hv'⟩ := cut_literal_iff.1 hv
      obtain ⟨r', hr, hw'⟩ := cut_literal_iff.1 hw
      cases List.append_cancel_left hr
      exact ih h hv' hw'
    | slot slot =>
      rw [shared, Bool.and_eq_true] at h
      obtain ⟨value, r, v', w', rfl, rfl, hv, hw⟩ := exists_of_settled h.1 hv hw
      obtain ⟨u, rest, v'', w'', rfl, rfl, hv, hw⟩ := ih h.2 hv hw
      exact ⟨(slot.name, value) :: u, rest, v'', w'', rfl, rfl, hv, hw⟩

/-- Whether the template cuts a text in at most one way. -/
def definite (segs : List Segment) : Bool := shared segs [] []

theorem Cut.eq_of_definite (h : definite segs = true) (hv : Cut segs s v) (hw : Cut segs s w) : v = w := by
  -- the whole template is the common beginning of itself and itself
  rw [← List.append_nil segs] at hv hw
  obtain ⟨u, rest, v', w', rfl, rfl, hv, hw⟩ := exists_of_shared h hv hw
  rw [(cut_nil_iff.1 hv).2, (cut_nil_iff.1 hw).2]

/-- A path is read along a definite template as the one cut it has. -/
theorem cutAlong_of_cut (h : definite segs = true) (hv : Cut segs s v) : cutAlong segs s = some v := by
  obtain ⟨w, hw⟩ := Option.isSome_iff_exists.1 hv.isSome_cutAlong
  rw [hw, Cut.eq_of_definite h hv (.of_cutAlong hw)]

/-! ## Templates apart -/

/-- The template with each literal written character by character. -/
def spelled (segs : List Segment) : List Segment :=
  segs.flatMap fun
    | .literal t => t.map fun c => .literal [c]
    | .slot slot => [.slot slot]

theorem cut_map_literal (t : Text) (h : Cut segs s v) :
    Cut (t.map (fun c => .literal [c]) ++ segs) (t ++ s) v := by
  induction t with
  | nil => exact h
  | cons c t ih => exact .literal (t := [c]) ih

theorem cut_spelled (h : Cut segs s v) : Cut (spelled segs) s v := by
  induction h with
  | done => exact .done
  | literal _ ih => exact cut_map_literal _ ih
  | filled hne hrun _ ih => exact .filled hne hrun ih
  | leftOut hopt _ ih => exact .leftOut hopt ih

/-- Whether the slot takes no part of a text that is cut along the segments. -/
def unfilled (slot : Slot) (segs : List Segment) : Bool :=
  match slot.lead with
  | none => segs = []
  | some c => !mayBegin c segs

theorem exists_of_unfilled (h : unfilled slot b = true) (hv : Cut (.slot slot :: a) s v) (hw : Cut b s w) :
    slot.optional = true ∧ ∃ v', Cut a s v' := by
  rcases cut_slot_iff.1 hv with ⟨run, rest, v', hne, -, -, rfl, -⟩ | ⟨v', hopt, hv', -⟩
  · unfold unfilled at h
    split at h
    · rw [decide_eq_true_eq] at h
      rw [h, cut_nil_iff, List.append_eq_nil_iff, List.append_eq_nil_iff] at hw
      exact absurd hw.1.2.1 hne
    · next c hlead =>
      rw [hlead] at hw
      rw [mayBegin_of_cut hw] at h
      cases h
  · exact ⟨hopt, v', hv'⟩

/-- Whether the templates come to a difference behind a common beginning; where only one has a slot, it must be
the first. -/
def differ : (a b : List Segment) → Bool
  | [], b =>
    match b with
    | .literal (_ :: _) :: _ => true
    | _ => false
  | .literal t :: a, b =>
    match b with
    | [] => t ≠ []
    | .literal u :: b => t.length = u.length && (t ≠ u || differ a b)
    | .slot _ :: _ => false
  | .slot slot :: a, b =>
    match b with
    | .slot slot' :: b => slot = slot' && settled slot a b && differ a b
    | b => unfilled slot b && (!slot.optional || differ a b)

theorem not_cut_of_differ (h : differ a b = true) (hv : Cut a s v) (hw : Cut b s w) : False := by
  induction a generalizing b s v w with
  | nil =>
    rw [(cut_nil_iff.1 hv).1] at hw
    rcases b with _ | ⟨(_ | ⟨c, t⟩) | slot, b⟩
    · cases h
    · cases h
    · obtain ⟨r, hr, -⟩ := cut_literal_iff.1 hw
      cases hr
    · cases h
  | cons seg a ih =>
    -- a slot that the other template does not have is left out
    have hleft {slot : Slot} {b : List Segment} (h : (unfilled slot b && (!slot.optional || differ a b)) = true)
        (hv : Cut (.slot slot :: a) s v) (hw : Cut b s w) : False := by
      rw [Bool.and_eq_true, Bool.or_eq_true, Bool.not_eq_true'] at h
      obtain ⟨hopt, v', hv'⟩ := exists_of_unfilled h.1 hv hw
      rcases h.2 with h | h
      · rw [h] at hopt
        cases hopt
      · exact ih h hv' hw
    rcases seg with t | slot <;> rcases b with _ | ⟨u | slot', b⟩
    · obtain ⟨r, rfl, -⟩ := cut_literal_iff.1 hv
      rw [differ, decide_eq_true_eq] at h
      exact h (List.append_eq_nil_iff.1 (cut_nil_iff.1 hw).1).1
    · obtain ⟨r, rfl, hv'⟩ := cut_literal_iff.1 hv
      obtain ⟨r', hr, hw'⟩ := cut_literal_iff.1 hw
      simp only [differ, Bool.and_eq_true, Bool.or_eq_true, decide_eq_true_eq] at h
      obtain ⟨rfl, rfl⟩ := List.append_inj hr h.1
      rcases h.2 with h | h
      · exact h rfl
      · exact ih h hv' hw'
    · cases h
    · exact hleft h hv hw
    · exact hleft h hv hw
    · simp only [differ, Bool.and_eq_true, decide_eq_true_eq] at h
      obtain ⟨⟨rfl, hs⟩, h⟩ := h
      obtain ⟨value, r, v', w', -, -, hv', hw'⟩ := exists_of_settled hs hv hw
      exact ih h hv' hw'

/-- Whether the templates come to a difference once they are spelled out. -/
def apart (a b : List Segment) : Bool := differ (spelled a) (spelled b) || differ (spelled b) (spelled a)

theorem not_cut_of_apart (h : apart a b = true) (hv : Cut a s v) (hw : Cut b s w) : False := by
  rcases Bool.or_eq_true_iff.1 h with h | h
  · exact not_cut_of_differ h (cut_spelled hv) (cut_spelled hw)
  · exact not_cut_of_differ h (cut_spelled hw) (cut_spelled hv)

end CodeAddress.Template
