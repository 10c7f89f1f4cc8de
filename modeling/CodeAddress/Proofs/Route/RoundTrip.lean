/-
Paths of the service and what they are read as. A path that the router builds is found as the route it was built
for, with the values of its variables (`Router.find_path`), and two paths are equal only for one route and equal
values (`Router.path_eq_iff`), with one exception: the path of a part of a delta without a head is at the same time
the path of the delta whose head is that part behind a hyphen and a slash.

The exception comes from the slash that leads the head. Filling checks a value together with the slash that may
follow it but not with the one before it, so a head may begin with the last two characters of a separator.
-/
import CodeAddress.Proofs.Route.Table

namespace CodeAddress

open Endpoint Template

variable {r s : Route} {v w : Vars} {p q part : Text}

namespace Route

/-! ## Parts of a delta -/

/-- The route gives a part of a delta, but the variables have no head for it. -/
def Headless (r : Route) (v : Vars) : Prop := r.deltaPart?.isSome = true ∧ v.get Var.deltaHead = []

/-- What is decided on the seven parts: where their templates go on from the delta's, and that the part makes a
head. -/
theorem deltaPart_spec : ∀ r, ∀ part ∈ deltaPart? r,
    shape r = baseShape ++ [.slot headSlot, fixed part] ∧
    shared baseShape [.slot headSlot] [.slot headSlot, fixed part] = true ∧
    quoteValue Var.deltaHead ("-/" ++ part) = "-/" ++ part ∧
    Text.holds separator ("-/" ++ part ++ ['/']) = false ∧ r.method = delta.method :=
  forall_of_all (by decide +kernel)

theorem not_headless_delta : ¬ Headless delta v := fun h => Bool.false_ne_true h.1

theorem eq_of_deltaPart? : ∀ r s, (deltaPart? r).isSome = true → deltaPart? r = deltaPart? s → r = s :=
  forall_pair_of_all (by decide +kernel)

theorem shape_delta : shape delta = baseShape ++ [.slot headSlot] := rfl

/-- What both the delta and a part of it could go on with has no head in the part: a head of the delta would run
over the separator before the part. -/
theorem eq_of_cut_head {rest : Text} {values values' : List (Text × Text)} (hd : Cut [.slot headSlot] rest values)
    (hr : Cut [.slot headSlot, fixed part] rest values') : values' = [(Var.deltaHead, [])] := by
  rcases cut_slot_iff.1 hr with ⟨run, rest', tail, -, -, htail, hrest, -⟩ | ⟨tail, -, htail, rfl⟩
  · obtain ⟨_, rfl, hend⟩ := cut_literal_iff.1 htail
    obtain ⟨rfl, -⟩ := cut_nil_iff.1 hend
    rcases cut_slot_iff.1 hd with ⟨run', _, _, -, hrun', hend', hrest', -⟩ | ⟨_, -, hend', -⟩
    · obtain ⟨rfl, -⟩ := cut_nil_iff.1 hend'
      rw [hrest, List.append_nil, List.append_nil] at hrest'
      -- the run would hold the separator before the part
      have hrun := List.append_cancel_left hrest'
      have := hrun' (separator ++ part) (by simp [separator_eq]) ⟨run, hrun⟩
      simp [admits, separator_eq, Text.beginsWith, Text.after?, headSlot, show Var.deltaHead ≠ Var.unitType by decide]
        at this
    · obtain ⟨rfl, -⟩ := cut_nil_iff.1 hend'
      cases hrest
  · obtain ⟨_, -, hend⟩ := cut_literal_iff.1 htail
    rw [(cut_nil_iff.1 hend).2]
    rfl

/-- A path of a part with a head is no path of the delta. -/
theorem read?_delta_eq_none (hpart : r.deltaPart? = some part) (hne : v.get Var.deltaHead ≠ [])
    (hp : r.endpoint.fill v = .ok p) : delta.endpoint.read? p = none := by
  obtain ⟨hshape, hshared, -⟩ := deltaPart_spec r part hpart
  rw [read?, Option.map_eq_none_iff]
  refine Option.eq_none_iff_forall_ne_some.2 fun values hread => hne ?_
  have hcut : Cut r.shape p ((Template.names r.shape).map fun n => (n, quoteValue n (v.get n))) :=
    cut_fill (definite_shape r) hp
  -- both cuts agree up to the head, and there the part goes on with its separator
  rw [hshape] at hcut
  obtain ⟨u, rest, v', w', -, hw', hd, hr⟩ := exists_of_shared hshared (.of_cutAlong hread) hcut
  rw [eq_of_cut_head hd hr, Template.names, List.filterMap_append, List.map_append] at hw'
  have hvalue := (List.append_inj' hw' rfl).2
  simpa [headSlot, fixed, quoteValue_eq_nil_iff] using hvalue

end Route

namespace Router

theorem relative_fill (hp : r.endpoint.fill v = .ok p) : relative p = p := by
  have hcut := cut_fill (Route.definite_shape r) hp
  cases p with
  | nil => rfl
  | cons c p =>
    -- no template begins with a slash
    refine List.dropWhile_cons_of_neg fun hc => ?_
    rw [of_decide_eq_true hc] at hcut
    have := mayBegin_of_cut hcut
    rw [Letter.ofChar_char, show mayBegin '/' r.endpoint.segments = false from Route.mayBegin_slash_shape r] at this
    cases this

/-- A path is found as the route it was filled for, except for a part of a delta without a head. -/
theorem find_fill (hp : r.endpoint.fill v = .ok p) (hr : ¬ Route.Headless r v) :
    standard.find p r.method = .ok (r.endpoint, r.endpoint.names.map fun n => (n, v.get n)) := by
  refine find_standard ?_ ?_
  · rw [relative_fill hp]
    exact read?_fill (Route.definite_shape r) hp
  · intro s hm hne
    rw [relative_fill hp]
    rcases Route.apart_shape s r hm hne with h | ⟨rfl, hpart⟩ | ⟨rfl, hpart⟩
    -- the templates are apart, or the other route is the delta and this one a part, or the other way round
    · exact .inl (read?_fill_eq_none (e := r.endpoint) (f := s.endpoint) (Route.definite_shape r) h hp)
    · obtain ⟨part, hr'⟩ := Option.isSome_iff_exists.1 hpart
      exact .inl (Route.read?_delta_eq_none hr' (fun hv => hr ⟨hpart, hv⟩) hp)
    · exact .inr ⟨rfl, hpart⟩

/-! ## A delta that reads as a part -/

/-- The variables with another head. -/
def withHead (v : Vars) (head : Text) : Vars := (Var.deltaHead, head) :: v

theorem get_withHead (v : Vars) (head n : Text) :
    (withHead v head).get n = if n = Var.deltaHead then head else v.get n := Vars.get_cons ..

/-- The path of a part without a head is the path of the delta whose head begins where a separator goes on. -/
theorem fill_delta (hpart : r.deltaPart? = some part) (hv : v.get Var.deltaHead = []) (hp : r.endpoint.fill v = .ok p) :
    Route.delta.endpoint.fill (withHead v ("-/" ++ part)) = .ok p := by
  obtain ⟨hshape, -, hquote, hsep, -⟩ := Route.deltaPart_spec r part hpart
  have hbase : ∀ n ∈ Template.names Route.baseShape, v.get n = (withHead v ("-/" ++ part)).get n := by
    intro n hn
    rw [get_withHead, if_neg]
    rintro rfl
    revert hn
    decide
  rw [fill, show r.endpoint.segments = r.shape from rfl, hshape, fillSegments_append_eq_ok_iff] at hp
  obtain ⟨x, y, hx, hy, rfl⟩ := hp
  -- behind the base, the part writes its separator and the delta the lead and the head
  have hy' : y = Route.separator ++ part := by
    rw [(fillSegments_eq_ok_iff.1 hy).2]
    simp [written, Route.headSlot, Route.fixed, hv]
  refine fillSegments_append_eq_ok_iff.2 ⟨x, y, ?_, ?_, rfl⟩
  · rw [fillSegments_congr hbase, fillSegments_eq_ok_iff] at hx
    exact fillSegments_eq_ok_iff.2 hx
  · have hne : ("-/" ++ part : Text) ≠ [] := List.append_ne_nil_of_left_ne_nil (by decide) _
    have hhead : (withHead v ("-/" ++ part)).get Route.headSlot.name = "-/" ++ part :=
      (get_withHead ..).trans (if_pos rfl)
    rw [fillSegments_eq_ok_iff, hy']
    constructor
    · intro seg hseg
      rw [List.mem_singleton.1 hseg, Fillable, hhead]
      refine ⟨fun h => absurd h hne, ?_⟩
      show Text.holds Route.separator (Route.quoteValue Var.deltaHead ("-/" ++ part) ++ ['/']) = false
      rw [hquote, hsep]
    · show Route.separator ++ part = written _ (.slot Route.headSlot) ++ []
      rw [written, hhead, if_neg hne, List.append_nil]
      show Route.separator ++ part = '/' :: Route.quoteValue Var.deltaHead ("-/" ++ part)
      rw [hquote]
      rfl

/-- The path of a part without a head is found as the delta. -/
theorem find_headless (hpart : r.deltaPart? = some part) (hv : v.get Var.deltaHead = [])
    (hp : r.endpoint.fill v = .ok p) :
    standard.find p r.method = .ok (Route.delta.endpoint, Route.delta.endpoint.names.map fun n =>
      (n, (withHead v ("-/" ++ part)).get n)) := by
  rw [(Route.deltaPart_spec r part hpart).2.2.2.2]
  exact find_fill (fill_delta hpart hv hp) Route.not_headless_delta

theorem names_delta : Route.delta.endpoint.names = [Var.repo, Var.rev, Var.deltaHead] := by decide

/-! ## Main statements -/

/-- A path that is built for a route is found as this route, with the values of the template's variables. Only where
the route is a part of a delta and there is no head, it is found as the delta whose head is the part behind a hyphen
and a slash. -/
theorem find_path (h : standard.path r v = .ok p) :
    ∃ e d, standard.get r = .ok e ∧ e.route = r ∧ standard.get .delta = .ok d ∧ d.route = .delta ∧
      (¬ Route.Headless r v →
        standard.find p e.method = .ok (e, e.names.map fun n => (n, v.get n))) ∧
      ∀ part, r.deltaPart? = some part → v.get Var.deltaHead = [] →
        e.template = d.template ++ Route.separator ++ part ∧
        standard.find p e.method =
          .ok (d, [(Var.repo, v.get Var.repo), (Var.rev, v.get Var.rev), (Var.deltaHead, "-/" ++ part)]) := by
  rw [path_standard_eq_ok_iff] at h
  refine ⟨r.endpoint, Route.delta.endpoint, get_standard r, rfl, get_standard .delta, rfl, find_fill h, ?_⟩
  intro part hpart hv
  constructor
  · show text r.shape = text Route.delta.shape ++ Route.separator ++ part
    rw [(Route.deltaPart_spec r part hpart).1, Route.shape_delta]
    simp [text, Route.fixed]
  · have hrepo : Var.repo ≠ Var.deltaHead := by decide
    have hrev : Var.rev ≠ Var.deltaHead := by decide
    have hfind := find_headless hpart hv h
    show standard.find p r.method = _
    simpa [names_delta, get_withHead, hrepo, hrev] using hfind

/-- Dot segments, a hyphen segment and characters that are escaped come back, and a part without a head is found as a
delta. -/
theorem find_path_escaped :
    (∃ e, standard.get .definitionAuthors = .ok e ∧
      standard.find ("repos/a/%2E%2E/b%20c@%C3%A9%401/-/def/Go%2FP/-/u/-/%2E/-/authors" : Text) e.method =
        .ok (e, e.names.map fun n => (n, Vars.get ([(Var.path, "."), (Var.unit, "-/u"), (Var.unitType, "Go/P"),
          (Var.rev, "é@1"), (Var.repo, "a/../b c")] : Vars) n))) ∧
    ∃ e d, standard.get .deltaDefs = .ok e ∧ standard.get .delta = .ok d ∧
      standard.find ("repos/a@b/-/delta/-/defs" : Text) e.method =
        .ok (d, [(Var.repo, "a"), (Var.rev, "b"), (Var.deltaHead, "-/defs")]) := by
  constructor
  · have hpath : standard.path .definitionAuthors ([(Var.path, "."), (Var.unit, "-/u"), (Var.unitType, "Go/P"),
        (Var.rev, "é@1"), (Var.repo, "a/../b c")] : Vars) =
        .ok "repos/a/%2E%2E/b%20c@%C3%A9%401/-/def/Go%2FP/-/u/-/%2E/-/authors" :=
      path_standard_eq_ok_iff.2 (by decide +kernel)
    obtain ⟨e, d, he, -, -, -, hfind, -⟩ := find_path hpath
    exact ⟨e, he, hfind fun h => Bool.false_ne_true h.1⟩
  · have hpath : standard.path .deltaDefs ([(Var.repo, "a"), (Var.rev, "b")] : Vars) = .ok "repos/a@b/-/delta/-/defs" :=
      path_standard_eq_ok_iff.2 (by decide +kernel)
    obtain ⟨e, d, he, -, hd, -, -, hfind⟩ := find_path hpath
    exact ⟨e, d, he, hd, (hfind "defs" rfl rfl).2⟩

/-! ## Equal paths -/

/-- The first path is a delta's and the second that of a part of the same base without a head, and the head of the
first is the second's part behind a hyphen and a slash. -/
def Collides (r s : Route) (v w : Vars) : Prop :=
  r = .delta ∧ w.get Var.deltaHead = [] ∧ v.get Var.repo = w.get Var.repo ∧ v.get Var.rev = w.get Var.rev ∧
    ∃ part, s.deltaPart? = some part ∧ v.get Var.deltaHead = "-/" ++ part

theorem Collides.headless (h : Collides r s v w) : Route.Headless s w := by
  obtain ⟨-, hw, -, -, part, hpart, -⟩ := h
  exact ⟨by rw [hpart]; rfl, hw⟩

theorem not_headless_of_collides (h : Collides r s v w) : ¬ Route.Headless r v := by
  rw [h.1]
  exact Route.not_headless_delta

theorem fill_eq_iff (hm : r.method = s.method) (hp : r.endpoint.fill v = .ok p) (hq : s.endpoint.fill w = .ok q)
    (hr : ¬ Route.Headless r v) (hs : ¬ Route.Headless s w) :
    p = q ↔ r = s ∧ ∀ n ∈ r.endpoint.names, v.get n = w.get n := by
  constructor
  · rintro rfl
    have hfind := find_fill hp hr
    rw [hm, find_fill hq hs] at hfind
    simp only [Except.ok.injEq, Prod.mk.injEq] at hfind
    have hrs : r = s := congrArg Endpoint.route hfind.1.symm
    subst hrs
    exact ⟨rfl, fun n hn => congrArg Prod.snd ((List.map_inj_left.1 hfind.2 n hn).symm)⟩
  · rintro ⟨rfl, h⟩
    have hfill : r.endpoint.fill v = r.endpoint.fill w := fillSegments_congr h
    rw [hp, hq] at hfill
    cases hfill
    rfl

theorem forall_names_delta :
    (∀ n ∈ Route.delta.endpoint.names, v.get n = w.get n) ↔
      v.get Var.repo = w.get Var.repo ∧ v.get Var.rev = w.get Var.rev ∧ v.get Var.deltaHead = w.get Var.deltaHead := by
  simp [names_delta]

theorem names_of_deltaPart? (hpart : r.deltaPart? = some part) :
    r.endpoint.names = Route.delta.endpoint.names := by
  show Template.names r.shape = Template.names Route.delta.shape
  rw [(Route.deltaPart_spec r part hpart).1, Route.shape_delta]
  simp [Template.names, Route.fixed]

/-- A route that agrees on its variables is a part without a head for both or for neither. -/
theorem headless_congr (h : ∀ n ∈ r.endpoint.names, v.get n = w.get n) : Route.Headless r v ↔ Route.Headless r w := by
  refine and_congr_right fun hpart => ?_
  obtain ⟨part, hpart⟩ := Option.isSome_iff_exists.1 hpart
  rw [names_of_deltaPart? hpart, forall_names_delta] at h
  rw [h.2.2]

theorem get_withHead_base (v : Vars) (head : Text) :
    (withHead v head).get Var.repo = v.get Var.repo ∧ (withHead v head).get Var.rev = v.get Var.rev ∧
      (withHead v head).get Var.deltaHead = head := by
  refine ⟨?_, ?_, ?_⟩
  · rw [get_withHead, if_neg (by decide)]
  · rw [get_withHead, if_neg (by decide)]
  · rw [get_withHead, if_pos rfl]

/-- A part without a head has its path in common with the delta of the one head. -/
theorem fill_headless_eq_iff (hm : r.method = s.method) (hp : r.endpoint.fill v = .ok p)
    (hq : s.endpoint.fill w = .ok q) (hpart : r.deltaPart? = some part) (hv : v.get Var.deltaHead = [])
    (hs : ¬ Route.Headless s w) : p = q ↔ Collides s r w v := by
  obtain ⟨hrepo, hrev, hhead⟩ := get_withHead_base v ("-/" ++ part)
  have hmd : Route.delta.method = s.method := by rw [← (Route.deltaPart_spec r part hpart).2.2.2.2, hm]
  rw [fill_eq_iff hmd (fill_delta hpart hv hp) hq Route.not_headless_delta hs, forall_names_delta, hrepo, hrev, hhead]
  constructor
  · rintro ⟨rfl, h1, h2, h3⟩
    exact ⟨rfl, hv, h1.symm, h2.symm, part, hpart, h3.symm⟩
  · rintro ⟨rfl, -, h1, h2, part', hpart', h3⟩
    rw [hpart] at hpart'
    cases hpart'
    exact ⟨rfl, h1.symm, h2.symm, h3.symm⟩

/-- Of two parts without a head each is the path of a delta, and the heads of the deltas tell the parts. -/
theorem fill_headless_both_eq_iff (hp : r.endpoint.fill v = .ok p) (hq : s.endpoint.fill w = .ok q)
    (hr : Route.Headless r v) (hs : Route.Headless s w) :
    p = q ↔ r = s ∧ ∀ n ∈ r.endpoint.names, v.get n = w.get n := by
  obtain ⟨part, hpart⟩ := Option.isSome_iff_exists.1 hr.1
  obtain ⟨part', hpart'⟩ := Option.isSome_iff_exists.1 hs.1
  have heq : p = q ↔ _ := fill_eq_iff rfl (fill_delta hpart hr.2 hp) (fill_delta hpart' hs.2 hq)
    Route.not_headless_delta Route.not_headless_delta
  obtain ⟨hrepo, hrev, hhead⟩ := get_withHead_base v ("-/" ++ part)
  obtain ⟨hrepo', hrev', hhead'⟩ := get_withHead_base w ("-/" ++ part')
  rw [heq, forall_names_delta, hrepo, hrev, hhead, hrepo', hrev', hhead', names_of_deltaPart? hpart,
    forall_names_delta]
  constructor
  · rintro ⟨-, h1, h2, h3⟩
    refine ⟨Route.eq_of_deltaPart? r s hr.1 ?_, h1, h2, hr.2.trans hs.2.symm⟩
    rw [hpart, hpart', List.append_cancel_left h3]
  · rintro ⟨rfl, h1, h2, -⟩
    rw [hpart] at hpart'
    cases hpart'
    exact ⟨rfl, h1, h2, rfl⟩

/-- Two paths of one method are equal exactly if they are built for one route from the same values of its variables,
or if one is a delta's and the other that of a part without a head that collides with it. -/
theorem path_eq_iff {e f : Endpoint} (he : standard.get r = .ok e) (hf : standard.get s = .ok f)
    (hm : e.method = f.method) (hp : standard.path r v = .ok p) (hq : standard.path s w = .ok q) :
    p = q ↔ (r = s ∧ ∀ n ∈ e.names, v.get n = w.get n) ∨ Collides r s v w ∨ Collides s r w v := by
  rw [get_standard] at he hf
  cases he
  cases hf
  rw [path_standard_eq_ok_iff] at hp hq
  by_cases hr : Route.Headless r v <;> by_cases hs : Route.Headless s w
  · rw [fill_headless_both_eq_iff hp hq hr hs]
    refine ⟨.inl, ?_⟩
    rintro (h | h | h)
    · exact h
    · exact absurd hr (not_headless_of_collides h)
    · exact absurd hs (not_headless_of_collides h)
  · obtain ⟨part, hpart⟩ := Option.isSome_iff_exists.1 hr.1
    rw [fill_headless_eq_iff hm hp hq hpart hr.2 hs]
    refine ⟨fun h => .inr (.inr h), ?_⟩
    rintro (⟨rfl, h⟩ | h | h)
    · exact absurd ((headless_congr h).1 hr) hs
    · exact absurd hr (not_headless_of_collides h)
    · exact h
  · obtain ⟨part, hpart⟩ := Option.isSome_iff_exists.1 hs.1
    rw [eq_comm, fill_headless_eq_iff hm.symm hq hp hpart hs.2 hr]
    refine ⟨fun h => .inr (.inl h), ?_⟩
    rintro (⟨rfl, h⟩ | h | h)
    · exact absurd ((headless_congr h).2 hs) hr
    · exact h
    · exact absurd hs (not_headless_of_collides h)
  · rw [fill_eq_iff hm hp hq hr hs]
    refine ⟨.inl, ?_⟩
    rintro (h | h | h)
    · exact h
    · exact absurd h.headless hs
    · exact absurd h.headless hr

theorem path_defs :
    standard.path .delta ([(Var.repo, "a"), (Var.deltaHead, "-/defs")] : Vars) = .ok "repos/a/-/delta/-/defs" ∧
      standard.path .deltaDefs ([(Var.repo, "a")] : Vars) = .ok "repos/a/-/delta/-/defs" :=
  ⟨path_standard_eq_ok_iff.2 (by decide +kernel), path_standard_eq_ok_iff.2 (by decide +kernel)⟩

theorem path_eq_iff_defs :
    standard.get .delta = .ok Route.delta.endpoint ∧ standard.get .deltaDefs = .ok Route.deltaDefs.endpoint ∧
      Route.delta.endpoint.method = Route.deltaDefs.endpoint.method ∧
      Collides .delta .deltaDefs [(Var.repo, "a"), (Var.deltaHead, "-/defs")] [(Var.repo, "a")] := by
  have heq := (path_eq_iff (get_standard .delta) (get_standard .deltaDefs) rfl path_defs.1 path_defs.2).1 rfl
  refine ⟨get_standard _, get_standard _, rfl, ?_⟩
  rcases heq with ⟨h, -⟩ | h | ⟨h, -⟩
  · cases h
  · exact h
  · cases h

/-- A path does not tell its route: the head of a delta may read as a separator behind the slash that leads it. -/
theorem not_path_injective :
    ¬ ∀ (r s : Route) (e f : Endpoint) (v w : Vars) (p : Text), standard.get r = .ok e → standard.get s = .ok f →
      e.method = f.method → standard.path r v = .ok p → standard.path s w = .ok p →
        r = s ∧ ∀ n ∈ e.names, v.get n = w.get n := by
  intro h
  have hrs := h .delta .deltaDefs _ _ _ _ _ (get_standard _) (get_standard _) rfl path_defs.1 path_defs.2
  cases hrs.1

end Router

end CodeAddress
