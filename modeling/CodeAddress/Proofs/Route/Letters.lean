/-
Routing in rows of code points. Characters and code points are routed alike: a text is read, found and built as the row
of its characters is (`Endpoint.read?_map_char`, `Router.find_map_char_eq_ok_iff`, `Router.path_points`). What a row
holds besides characters, reading keeps and building refuses: a path with a surrogate is read as variables of which one
has a surrogate (`Endpoint.exists_hasSurrogate_of_read?`), and these fill no template
(`Endpoint.not_hasSurrogate_of_fill`).
-/
import CodeAddress.Proofs.Route.Order
import CodeAddress.Proofs.Text.CodePoint

namespace CodeAddress

/-! ## Reading -/

section After

variable {α β : Type} [DecidableEq α] [DecidableEq β] {f : α → β}

theorem Text.after?_map (hf : Function.Injective f) (mark s : List α) :
    after? (mark.map f) (s.map f) = (after? mark s).map (List.map f) := by
  induction mark generalizing s with
  | nil => rfl
  | cons m mark ih =>
    cases s with
    | nil => rfl
    | cons c s =>
      by_cases h : m = c
      · simp [after?, h, ih]
      · simp [after?, h, hf.eq_iff]

theorem Text.beginsWith_map (hf : Function.Injective f) (mark s : List α) :
    beginsWith (mark.map f) (s.map f) = beginsWith mark s := by
  rw [beginsWith, after?_map hf, Option.isSome_map, beginsWith]

end After

/-- The variables, their values as rows of code points. -/
def Vars.points (v : Vars) : Vars CodePoint := v.map fun q => (q.1, q.2.map .char)

namespace Endpoint

variable {name : Text} {segs : List Segment}

theorem admits_map_char (name s : Text) : admits name (s.map CodePoint.char) = admits name s := by
  cases s with
  | nil => rfl
  | cons c s =>
    have hsep := Text.beginsWith_map CodePoint.char_injective Route.separator (c :: s)
    have hat : CodePoint.char c = Letter.ofChar '@' ↔ c = '@' := CodePoint.char_injective.eq_iff
    have hslash : CodePoint.char c = Letter.ofChar '/' ↔ c = '/' := CodePoint.char_injective.eq_iff
    simp only [List.map_cons, admits, Letter.ofChar_char, Letter.ofText_char, Letter.ofText_codePoint, hat, hslash,
      ne_eq] at hsep ⊢
    simp only [hsep]

theorem longest_map_char {β γ : Type} {next : Text → Option β} {next' : List CodePoint → Option γ} {f : β → γ}
    (h : ∀ s : Text, next' (s.map .char) = (next s).map f) (s : Text) :
    longest name next' (s.map .char) = (longest name next s).map fun p => (p.1.map .char, f p.2) := by
  induction s with
  | nil => rfl
  | cons c s ih =>
    rw [List.map_cons, longest, ← List.map_cons, admits_map_char, ih, h, longest]
    split
    · cases longest name next s with
      | none =>
        rw [Option.map_none, Option.map_map, Option.map_map]
        rfl
      | some p => rfl
    · rfl

theorem takeSlot_map_char (h : ∀ s : Text, cutAlong segs (s.map CodePoint.char) = (cutAlong segs s).map Vars.points)
    (s : Text) : takeSlot name segs (s.map CodePoint.char) = (takeSlot name segs s).map Vars.points := by
  rw [takeSlot, longest_map_char h, takeSlot, Option.map_map, Option.map_map]
  rfl

theorem cutAlong_map_char (segs : List Segment) (s : Text) :
    cutAlong segs (s.map CodePoint.char) = (cutAlong segs s).map Vars.points := by
  induction segs generalizing s with
  | nil => cases s <;> rfl
  | cons seg segs ih =>
    rcases seg with t | ⟨name, _ | c⟩
    · rw [cutAlong_literal, cutAlong_literal, Letter.ofText_codePoint, Text.after?_map CodePoint.char_injective,
        Letter.ofText_char]
      cases Text.after? t s with
      | none => rfl
      | some r => exact ih r
    · rw [cutAlong_slot, cutAlong_slot, takeSlot_map_char ih]
    · rw [cutAlong_slot_lead, cutAlong_slot_lead, Letter.ofText_codePoint, Text.after?_map CodePoint.char_injective,
        Letter.ofText_char, ih, Option.map_or, Option.map_map, Option.map_map]
      cases Text.after? [c] s with
      | none => rfl
      | some r => rw [Option.map_some, Option.bind_some, Option.bind_some, takeSlot_map_char ih]; rfl

theorem read?_map_char (e : Endpoint) (s : Text) : e.read? (s.map CodePoint.char) = (e.read? s).map Vars.points := by
  rw [read?, cutAlong_map_char, read?, Option.map_map, Option.map_map]
  refine congrFun (congrArg Option.map (funext fun values => ?_)) _
  simp only [Function.comp_apply, Vars.points, List.map_map, Letter.unquote_char, Letter.unquote_codePoint]
  exact List.map_congr_left fun q _ => Prod.ext rfl (CodePoint.unquote_map_char q.2)

end Endpoint

namespace Router

variable {method : Text} {e : Endpoint}

theorem relative_map_char (s : Text) : relative (s.map CodePoint.char) = (relative s).map .char := by
  rw [relative, List.dropWhile_map, relative]
  refine congrArg (List.map _) (congrFun (congrArg List.dropWhile (funext fun c => ?_)) s)
  exact decide_eq_decide.2 CodePoint.char_injective.eq_iff

theorem reading_map_char (s method : Text) (e : Endpoint) :
    reading (s.map CodePoint.char) method e = (reading s method e).map fun q => (q.1, q.2.points) := by
  rw [reading, relative_map_char, Endpoint.read?_map_char, reading]
  split
  · rw [Option.map_map, Option.map_map]
    rfl
  · rfl

/-- A text is found as its row of code points is. -/
theorem find_map_char_eq_ok_iff {router : Router} {s : Text} {w : Vars CodePoint} :
    router.find (s.map CodePoint.char) method = .ok (e, w) ↔ ∃ v, w = v.points ∧ router.find s method = .ok (e, v) := by
  have hreading : reading (s.map CodePoint.char) method =
      fun e => (reading s method e).map fun q => (q.1, q.2.points) := funext (reading_map_char s method)
  simp only [find_eq_ok_iff, hreading]
  rw [← Function.comp_def (Option.map _), ← List.map_findSome?, Option.map_eq_some_iff]
  constructor
  · rintro ⟨⟨f, v⟩, hv, hq⟩
    cases hq
    exact ⟨v, rfl, hv⟩
  · rintro ⟨v, rfl, hv⟩
    exact ⟨_, hv, rfl⟩

end Router

/-! ## Building -/

theorem Vars.get_points (v : Vars) (n : Text) : v.points.get n = (v.get n).map .char := by
  induction v with
  | nil => rfl
  | cons q v ih =>
    obtain ⟨m, t⟩ := q
    rw [points, List.map_cons, ← points, get_cons, get_cons, ih]
    split <;> rfl

namespace Endpoint

theorem fillSegment_points (route : Route) (v : Vars) (seg : Segment) :
    fillSegment route v.points seg = fillSegment route v seg := by
  cases seg with
  | literal t => rfl
  | slot s =>
    simp only [fillSegment, Vars.get_points, List.map_eq_nil_iff, Letter.text_codePoint, CodePoint.text_map_char,
      Letter.text_char]

theorem fillSegments_points (route : Route) (v : Vars) (segs : List Segment) :
    fillSegments route v.points segs = fillSegments route v segs := by
  induction segs with
  | nil => rfl
  | cons seg segs ih => rw [fillSegments, fillSegment_points, ih, fillSegments]

end Endpoint

/-- A path is built of variables as of their rows of code points. -/
theorem Router.path_points (router : Router) (route : Route) (v : Vars) :
    router.path route v.points = router.path route v := by
  rw [path, path]
  exact congrArg _ (funext fun e => Endpoint.fillSegments_points e.route v e.segments)

/-! ## Surrogates -/

namespace Endpoint

variable {e : Endpoint} {p : List CodePoint} {v : Vars CodePoint} {segs : List Segment} {slot : Slot} {t : Text}

theorem Cut.exists_of_surrogate {n : Fin 2048} (h : Cut segs p v) (hn : .surrogate n ∈ p) :
    ∃ q ∈ v, .surrogate n ∈ q.2 := by
  induction h with
  | done => cases hn
  | literal _ ih =>
    rcases List.mem_append.1 hn with hn | hn
    · exact absurd ⟨n, hn⟩ (CodePoint.not_hasSurrogate_map_char _)
    · exact ih hn
  | filled _ _ _ ih =>
    rcases List.mem_append.1 hn with hn | hn
    · exact absurd ⟨n, hn⟩ (CodePoint.not_hasSurrogate_map_char _)
    rcases List.mem_append.1 hn with hn | hn
    · exact ⟨_, List.mem_cons_self .., hn⟩
    · obtain ⟨q, hq, hmem⟩ := ih hn
      exact ⟨q, List.mem_cons_of_mem _ hq, hmem⟩
  | leftOut _ _ ih =>
    obtain ⟨q, hq, hmem⟩ := ih hn
    exact ⟨q, List.mem_cons_of_mem _ hq, hmem⟩

/-- What is no character stands in one of the values. -/
theorem exists_hasSurrogate_of_read? (h : e.read? p = some v) (hp : CodePoint.HasSurrogate p) :
    ∃ q ∈ v, CodePoint.HasSurrogate q.2 := by
  obtain ⟨n, hn⟩ := hp
  obtain ⟨values, hcut, rfl⟩ := Route.exists_cut_of_read? h
  obtain ⟨q, hq, hmem⟩ := hcut.exists_of_surrogate hn
  exact ⟨_, List.mem_map_of_mem hq, n, CodePoint.surrogate_mem_unquote_iff.2 hmem⟩

/-- A template is filled with texts only. -/
theorem not_hasSurrogate_of_fill (h : e.fill v = .ok t) (hs : .slot slot ∈ e.segments) :
    ¬ CodePoint.HasSurrogate (v.get slot.name) := by
  obtain ⟨u, hu⟩ := exists_of_fillSegments_eq_ok h _ hs
  rw [fillSegment] at hu
  dsimp only at hu
  split at hu
  · next hv =>
    rw [hv]
    exact CodePoint.not_hasSurrogate_map_char []
  split at hu
  · cases hu
  · next value hvalue => exact CodePoint.exists_map_char_iff.1 ⟨value, CodePoint.text_eq_ok_iff.1 hvalue⟩

end Endpoint

theorem Router.hasSurrogate_relative {p : List CodePoint} (h : CodePoint.HasSurrogate p) :
    CodePoint.HasSurrogate (relative p) := by
  obtain ⟨n, hn⟩ := h
  rw [← List.takeWhile_append_dropWhile (p := (· = Letter.ofChar '/')) (l := p)] at hn
  rcases List.mem_append.1 hn with hn | hn
  · -- only slashes are left out
    have hall : (p.takeWhile (· = Letter.ofChar '/')).all (· = Letter.ofChar '/') = true := List.all_takeWhile
    cases of_decide_eq_true (List.all_eq_true.1 hall _ hn)
  · exact ⟨n, hn⟩

end CodeAddress
