/-
What a filled template is read as. A path is filled exactly if each segment of its template can be written, and is
what these are written as, one after another (`fillSegments_eq_ok_iff`). A quoted value is a run of its slot, since
the check on filling looks one slash beyond the value and what follows a slot never begins with a hyphen
(`run_quoteValue`); so a filled path is cut along its template into the quoted values (`cut_fill`), and a definite
template reads back its own variables (`read?_fill`).
-/
import CodeAddress.Proofs.Outcome
import CodeAddress.Proofs.Route.Overlap
import CodeAddress.Proofs.Route.Quote

namespace CodeAddress

open Template

namespace Template

theorem definite_slot {slot : Slot} {segs : List Segment} :
    definite (.slot slot :: segs) = true ↔ settled slot segs segs = true ∧ definite segs = true := by
  rw [definite, shared, List.append_nil, Bool.and_eq_true, definite]

theorem stops_of_settled {slot : Slot} {a b : List Segment} (h : settled slot a b = true) :
    stops slot.name a = true := by
  simp only [settled, Bool.and_eq_true] at h
  exact h.1.1

end Template

namespace Endpoint

variable {route : Route} {v w : Vars} {seg : Segment} {segs : List Segment} {t : Text}

/-! ## Filling -/

/-- What a segment is written as. -/
def written (v : Vars) : Segment → Text
  | .literal t => t
  | .slot s => if v.get s.name = [] then [] else s.lead.toList ++ Route.quoteValue s.name (v.get s.name)

/-- A segment can be written: a slot with no value may be left out, and no value reads as the separator. -/
def Fillable (v : Vars) : Segment → Prop
  | .literal _ => True
  | .slot s => (v.get s.name = [] → s.optional = true) ∧
      Text.holds Route.separator (Route.quoteValue s.name (v.get s.name) ++ ['/']) = false

theorem fillSegment_eq_ok_iff : fillSegment route v seg = .ok t ↔ Fillable v seg ∧ t = written v seg := by
  cases seg with
  | literal u => simp [fillSegment, Fillable, written, eq_comm]
  | slot s =>
    have hslash : Text.holds Route.separator ['/'] = false := by decide
    simp only [fillSegment, Fillable, written]
    by_cases hv : v.get s.name = []
    · rw [if_pos hv, if_pos hv, hv, Route.quoteValue_nil, List.nil_append, hslash]
      cases s.optional <;> simp [eq_comm]
    · rw [if_neg hv, if_neg hv, Letter.text_char]
      dsimp only
      split
      · next hs => simp [hs]
      · next hs =>
        constructor
        · intro h
          cases h
          exact ⟨⟨fun h => absurd h hv, Bool.eq_false_iff.2 hs⟩, rfl⟩
        · rintro ⟨-, rfl⟩
          rfl

theorem fillSegments_eq_ok_iff :
    fillSegments route v segs = .ok t ↔ (∀ seg ∈ segs, Fillable v seg) ∧ t = segs.flatMap (written v) := by
  induction segs generalizing t with
  | nil => simp [fillSegments, eq_comm]
  | cons seg segs ih =>
    constructor
    · intro h
      obtain ⟨u, hu, h⟩ := exists_of_bind_eq_ok h
      obtain ⟨r, hr, h⟩ := exists_of_bind_eq_ok h
      cases h
      obtain ⟨hseg, rfl⟩ := fillSegment_eq_ok_iff.1 hu
      obtain ⟨hsegs, rfl⟩ := ih.1 hr
      exact ⟨List.forall_mem_cons.2 ⟨hseg, hsegs⟩, rfl⟩
    · rintro ⟨h, rfl⟩
      obtain ⟨hseg, hsegs⟩ := List.forall_mem_cons.1 h
      rw [fillSegments, fillSegment_eq_ok_iff.2 ⟨hseg, rfl⟩, ok_bind, ih.2 ⟨hsegs, rfl⟩]
      rfl

section Letters

variable {α : Type} [Letter α] {v : Vars α}

/-- What can be filled does so at each of its segments. -/
theorem exists_of_fillSegments_eq_ok (h : fillSegments route v segs = .ok t) :
    ∀ seg ∈ segs, ∃ u, fillSegment route v seg = .ok u := by
  induction segs generalizing t with
  | nil => exact fun _ hmem => absurd hmem List.not_mem_nil
  | cons seg segs ih =>
    obtain ⟨u, hu, h⟩ := exists_of_bind_eq_ok h
    obtain ⟨r, hr, -⟩ := exists_of_bind_eq_ok h
    exact List.forall_mem_cons.2 ⟨⟨u, hu⟩, ih hr⟩

/-- What cannot be filled fails at one of its segments. -/
theorem exists_of_fillSegments_eq_error {err : EncodeError} (h : fillSegments route v segs = .error err) :
    ∃ seg ∈ segs, fillSegment route v seg = .error err := by
  induction segs with
  | nil => cases h
  | cons seg segs ih =>
    rcases bind_eq_error_iff.1 h with hseg | ⟨t, -, h⟩
    · exact ⟨seg, List.mem_cons_self .., hseg⟩
    rcases bind_eq_error_iff.1 h with hsegs | ⟨ts, -, h⟩
    · obtain ⟨other, hmem, hother⟩ := ih hsegs
      exact ⟨other, List.mem_cons_of_mem _ hmem, hother⟩
    · cases h

end Letters

theorem fillSegments_append_eq_ok_iff {a b : List Segment} :
    fillSegments route v (a ++ b) = .ok t ↔
      ∃ x y, fillSegments route v a = .ok x ∧ fillSegments route v b = .ok y ∧ t = x ++ y := by
  simp only [fillSegments_eq_ok_iff, List.forall_mem_append, List.flatMap_append]
  constructor
  · rintro ⟨⟨ha, hb⟩, rfl⟩
    exact ⟨_, _, ⟨ha, rfl⟩, ⟨hb, rfl⟩, rfl⟩
  · rintro ⟨_, _, ⟨ha, rfl⟩, ⟨hb, rfl⟩, rfl⟩
    exact ⟨⟨ha, hb⟩, rfl⟩

theorem fillSegments_congr (h : ∀ n ∈ Template.names segs, v.get n = w.get n) :
    fillSegments route v segs = fillSegments route w segs := by
  induction segs with
  | nil => rfl
  | cons seg segs ih =>
    cases seg with
    | literal t => rw [fillSegments, fillSegments, ih h]; rfl
    | slot s =>
      obtain ⟨hs, h⟩ := List.forall_mem_cons.1 h
      rw [fillSegments, fillSegments, ih h, fillSegment, fillSegment, hs]

/-! ## Reading back -/

theorem separator_eq : Route.separator = ['/', '-', '/'] := by decide

/-- A quoted value that does not read as the separator is a run of its slot, in front of any text that the slot
takes nothing of. -/
theorem run_quoteValue {name value rest : Text}
    (hsep : Text.holds Route.separator (Route.quoteValue name value ++ ['/']) = false)
    (hrest : admits name rest = false) : Run name (Route.quoteValue name value) rest := by
  intro b hne hb
  have hnot : ¬ Route.separator <:+: Route.quoteValue name value ++ ['/'] := by
    rw [← Text.holds_iff (by decide), hsep]
    exact Bool.false_ne_true
  obtain ⟨c, b, rfl⟩ := List.exists_cons_of_ne_nil hne
  have hmem : c ∈ Route.quoteValue name value := hb.mem (List.mem_cons_self ..)
  have hat : c ≠ '@' := by
    rintro rfl
    rcases Route.mem_quoteValue hmem with h | h | ⟨h, -⟩ <;> revert h <;> decide
  -- quoting leaves no `@`, and of the slashes those of a unit type are quoted too
  rw [List.cons_append, admits, Letter.ofChar_char, if_neg hat]
  split
  · next hn =>
    rw [decide_eq_true_eq]
    rintro rfl
    rcases Route.mem_quoteValue hmem with h | h | ⟨-, h⟩
    · revert h
      decide
    · revert h
      decide
    · exact h hn
  · next hn =>
    rw [decide_eq_true_eq, Text.beginsWith_iff]
    rw [separator_eq] at hnot ⊢
    rintro ⟨r, hr⟩
    -- how far the separator reaches into what follows the value
    rcases b with _ | ⟨d, _ | ⟨e, b⟩⟩
    · cases hr
      simp [admits, hn, Text.beginsWith, Text.after?, separator_eq] at hrest
    · cases hr
      obtain ⟨q, hq⟩ := hb
      exact hnot ⟨q, [], by rw [← hq]; simp⟩
    · cases hr
      have hbegins : ['/', '-', '/'] <:+: '/' :: '-' :: '/' :: b := (List.prefix_append ['/', '-', '/'] b).isInfix
      exact hnot (hbegins.trans (hb.isInfix.trans (List.prefix_append ..).isInfix))

/-- A filled path is cut along its template into the quoted values. -/
theorem cut_written (hd : definite segs = true) (hf : ∀ seg ∈ segs, Fillable v seg) :
    Cut segs (segs.flatMap (written v)) ((Template.names segs).map fun n => (n, Route.quoteValue n (v.get n))) := by
  induction segs with
  | nil => exact .done
  | cons seg segs ih =>
    obtain ⟨hseg, hsegs⟩ := List.forall_mem_cons.1 hf
    cases seg with
    | literal t => exact .literal (ih hd hsegs)
    | slot s =>
      obtain ⟨hset, hd⟩ := definite_slot.1 hd
      have hcut := ih hd hsegs
      by_cases hv : v.get s.name = []
      · have := Cut.leftOut (hseg.1 hv) hcut
        simpa [Template.names, written, hv, Route.quoteValue_nil] using this
      · have hrun := run_quoteValue hseg.2 (admits_eq_false (stops_of_settled hset) hcut)
        have := Cut.filled (mt Route.quoteValue_eq_nil_iff.1 hv) hrun hcut
        simpa [Template.names, written, hv] using this

theorem cut_fill {e : Endpoint} {p : Text} (hd : definite e.segments = true) (hp : e.fill v = .ok p) :
    Cut e.segments p (e.names.map fun n => (n, Route.quoteValue n (v.get n))) := by
  obtain ⟨hf, rfl⟩ := fillSegments_eq_ok_iff.1 hp
  exact cut_written hd hf

/-- A filled path is read as the values of the template's variables. -/
theorem read?_fill {e : Endpoint} {p : Text} (hd : definite e.segments = true) (hp : e.fill v = .ok p) :
    e.read? p = some (e.names.map fun n => (n, v.get n)) := by
  rw [read?, cutAlong_of_cut hd (cut_fill hd hp), Option.map_some, List.map_map]
  simp [Function.comp_def, Route.unquote_quoteValue]

/-- A path that is filled along a template is not read along another that is apart from it. -/
theorem read?_fill_eq_none {e f : Endpoint} {p : Text} (hd : definite e.segments = true)
    (ha : apart f.segments e.segments = true) (hp : e.fill v = .ok p) : f.read? p = none := by
  rw [read?, Option.map_eq_none_iff]
  cases h : cutAlong f.segments p with
  | none => rfl
  | some values => exact (not_cut_of_apart ha (.of_cutAlong h) (cut_fill hd hp)).elim

end Endpoint

end CodeAddress
