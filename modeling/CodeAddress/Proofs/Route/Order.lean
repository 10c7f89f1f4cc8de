/-
Which routes a path fits, and what the order of the table has to do with it. Two routes of one method read the same path
only if one is the delta and the other a part of it that has no head in the path (`Route.eq_or_headless`), and a path
that a part reads without a head is read by the delta too (`Route.isSome_read?_delta`). Where the delta is tried before
its parts, a path is therefore found as the one route that does not read it as a part without a head
(`Router.find_ofRoutes_eq_ok_iff`), which says nothing of the order of the routes otherwise.
-/
import CodeAddress.Proofs.Route.RoundTrip
import Mathlib.Data.List.Rotate

namespace CodeAddress

open Endpoint Template

variable {r s : Route} {v w : Vars} {p method part : Text} {rs : List Route} {values : List (Text × Text)}

namespace Route

/-! ## Routes that read one path -/

theorem exists_cut_of_read? {α : Type} [DecidableEq α] [Letter α] {e : Endpoint} {p : List α} {v : Vars α}
    (h : e.read? p = some v) :
    ∃ values, Cut e.segments p values ∧ v = values.map fun q => (q.1, Letter.unquote q.2) := by
  obtain ⟨values, hcut, rfl⟩ := Option.map_eq_some_iff.1 h
  exact ⟨values, .of_cutAlong hcut, rfl⟩

theorem isSome_read?_of_cut {e : Endpoint} (h : Cut e.segments p values) : (e.read? p).isSome := by
  rw [read?, Option.isSome_map]
  exact h.isSome_cutAlong

/-- A path of a part of a delta is cut into repository, revision and head. -/
theorem exists_of_cut_part (hpart : r.deltaPart? = some part) (h : Cut r.shape p values) :
    ∃ repo rev head, values = [(Var.repo, repo), (Var.rev, rev), (Var.deltaHead, head)] := by
  have hnames : values.map Prod.fst = [Var.repo, Var.rev, Var.deltaHead] :=
    h.map_fst.trans ((Router.names_of_deltaPart? hpart).trans Router.names_delta)
  obtain ⟨⟨_, repo⟩, _, rfl, rfl, h1⟩ := List.map_eq_cons_iff.1 hnames
  obtain ⟨⟨_, rev⟩, _, rfl, rfl, h2⟩ := List.map_eq_cons_iff.1 h1
  obtain ⟨⟨_, head⟩, _, rfl, rfl, h3⟩ := List.map_eq_cons_iff.1 h2
  rw [List.map_eq_nil_iff.1 h3]
  exact ⟨repo, rev, head, rfl⟩

/-- The head of a part is read as empty exactly if the path has none. -/
theorem get_deltaHead_eq_nil_iff {repo rev head : Text} :
    Vars.get ([(Var.repo, repo), (Var.rev, rev), (Var.deltaHead, head)].map fun q => (q.1, Percent.unquote q.2))
      Var.deltaHead = [] ↔ head = [] := by
  have hrepo : Var.deltaHead ≠ Var.repo := by decide
  have hrev : Var.deltaHead ≠ Var.rev := by decide
  simp [Vars.get_cons, hrepo, hrev, Percent.unquote_eq_nil_iff]

/-- A part that reads a path of the delta reads it without a head. -/
theorem headless_of_read?_delta (hpart : r.deltaPart? = some part) (hd : delta.endpoint.read? p = some w)
    (hr : r.endpoint.read? p = some v) : Headless r v := by
  obtain ⟨hshape, hshared, -⟩ := deltaPart_spec r part hpart
  obtain ⟨dvalues, hdcut, -⟩ := exists_cut_of_read? hd
  obtain ⟨values, hcut, rfl⟩ := exists_cut_of_read? hr
  obtain ⟨repo, rev, head, rfl⟩ := exists_of_cut_part hpart hcut
  -- both cuts agree up to the head, and there the part must go on with its separator
  rw [show r.endpoint.segments = r.shape from rfl, hshape] at hcut
  obtain ⟨u, rest, v', w', -, hw', hdrest, hrest⟩ := exists_of_shared hshared hdcut hcut
  rw [eq_of_cut_head hdrest hrest] at hw'
  have happend : [(Var.repo, repo), (Var.rev, rev)] ++ [(Var.deltaHead, head)] = _ := hw'
  have hhead := (List.append_inj' happend rfl).2
  refine ⟨by rw [hpart]; rfl, get_deltaHead_eq_nil_iff.2 ?_⟩
  cases hhead
  rfl

theorem cut_head (hpart : r.deltaPart? = some part) :
    Cut [.slot headSlot] (separator ++ part) [(Var.deltaHead, "-/".toList ++ part)] := by
  obtain ⟨-, -, hquote, hsep, -⟩ := deltaPart_spec r part hpart
  have hrun : Run Var.deltaHead ("-/".toList ++ part) [] := by
    rw [← hquote]
    exact run_quoteValue (by rw [hquote]; exact hsep) rfl
  have hne : ("-/".toList ++ part) ≠ [] := List.append_ne_nil_of_left_ne_nil (by decide) _
  have hcut : Cut [.slot headSlot] ('/' :: ("-/".toList ++ part ++ [])) _ := .filled hne hrun .done
  rwa [List.append_nil] at hcut

/-- Where a part reads a path without a head, the delta reads the separator and the part as one. -/
theorem isSome_read?_delta (hr : r.endpoint.read? p = some v) (hv : Headless r v) :
    (delta.endpoint.read? p).isSome := by
  obtain ⟨part, hpart⟩ := Option.isSome_iff_exists.1 hv.1
  obtain ⟨values, hcut, rfl⟩ := exists_cut_of_read? hr
  obtain ⟨repo, rev, head, rfl⟩ := exists_of_cut_part hpart hcut
  cases get_deltaHead_eq_nil_iff.1 hv.2
  rw [show r.endpoint.segments = r.shape from rfl, (deltaPart_spec r part hpart).1] at hcut
  obtain ⟨u, rest, tail, hvalues, htail, hother⟩ := hcut.exists_tail
  have hrest : rest = separator ++ part := by
    rcases cut_slot_iff.1 htail with ⟨run, rest', values', hne, -, htail', -, rfl⟩ | ⟨values', -, htail', -⟩
    · -- the head would be filled, but the last of the values is empty
      obtain ⟨_, -, hend⟩ := cut_literal_iff.1 htail'
      rw [(cut_nil_iff.1 hend).2] at hvalues
      have happend : [(Var.repo, repo), (Var.rev, rev)] ++ [(Var.deltaHead, [])] = _ := hvalues
      have hlast := (List.append_inj' happend rfl).2
      cases hlast
      exact absurd rfl hne
    · obtain ⟨_, rfl, hend⟩ := cut_literal_iff.1 htail'
      rw [(cut_nil_iff.1 hend).1, List.append_nil, Letter.ofText_char]
  exact isSome_read?_of_cut (e := delta.endpoint) (hother (hrest ▸ cut_head hpart))

/-- Two routes of one method that read the same path are the same, or one is the delta and the other a part of it
without a head. -/
theorem eq_or_headless (hm : r.method = s.method) (hr : r.endpoint.read? p = some v)
    (hs : s.endpoint.read? p = some w) :
    r = s ∨ r = delta ∧ Headless s w ∨ s = delta ∧ Headless r v := by
  by_cases hne : r = s
  · exact .inl hne
  rcases apart_shape r s hm hne with h | ⟨rfl, hpart⟩ | ⟨rfl, hpart⟩
  · obtain ⟨_, hrcut, -⟩ := exists_cut_of_read? hr
    obtain ⟨_, hscut, -⟩ := exists_cut_of_read? hs
    exact (not_cut_of_apart h hrcut hscut).elim
  · obtain ⟨part, hpart⟩ := Option.isSome_iff_exists.1 hpart
    exact .inr (.inl ⟨rfl, headless_of_read?_delta hpart hr hs⟩)
  · obtain ⟨part, hpart⟩ := Option.isSome_iff_exists.1 hpart
    exact .inr (.inr ⟨rfl, headless_of_read?_delta hpart hs hr⟩)

end Route

/-! ## The search -/

namespace Router

section Letters

variable {α : Type} [DecidableEq α] [Letter α] {p : List α} {v : Vars α}

/-- What an endpoint gives for a path if it is of the method. -/
def reading (p : List α) (method : Text) (e : Endpoint) : Option (Endpoint × Vars α) :=
  if e.method = method then (e.read? (relative p)).map fun v => (e, v) else none

theorem reading_eq_some_iff {e f : Endpoint} :
    reading p method e = some (f, v) ↔ f = e ∧ e.method = method ∧ e.read? (relative p) = some v := by
  unfold reading
  split
  · next h =>
    rw [Option.map_eq_some_iff]
    constructor
    · rintro ⟨w, hw, hq⟩
      cases hq
      exact ⟨rfl, h, hw⟩
    · rintro ⟨rfl, -, hw⟩
      exact ⟨v, hw, rfl⟩
  · next h => simp [h]

theorem find_eq_ok_iff {router : Router} {q : Endpoint × Vars α} :
    router.find p method = .ok q ↔ router.endpoints.findSome? (reading p method) = some q := by
  have hfound : (router.endpoints.findSome? fun e =>
      if e.method = method then (e.read? (relative p)).map fun v => (e, v) else none) =
        router.endpoints.findSome? (reading p method) := rfl
  unfold find
  dsimp only
  rw [hfound]
  cases router.endpoints.findSome? (reading p method) <;> simp

end Letters

/-- Two routers that find the same paths also refuse the others alike. -/
theorem find_eq_of_ok_iff {router router' : Router}
    (h : ∀ q, router.find p method = .ok q ↔ router'.find p method = .ok q) :
    router.find p method = router'.find p method := by
  have hrefuse {router : Router} {e : NotFound} (h : router.find p method = .error e) : e = ⟨relative p⟩ := by
    unfold find at h
    dsimp only at h
    split at h
    · cases h
    · cases h
      rfl
  cases hq : router.find p method with
  | ok q => exact ((h q).1 hq).symm
  | error e =>
    cases hq' : router'.find p method with
    | ok q =>
      rw [(h q).2 hq'] at hq
      cases hq
    | error e' => rw [hrefuse hq, hrefuse hq']

/-! ## Orders -/

/-- The router that tries the routes of the service in an order. -/
def ofRoutes (rs : List Route) : Router := ⟨rs.map Route.endpoint⟩

/-- A path is found as the first route of its method that reads it. -/
theorem find_ofRoutes_eq_ok_iff {e : Endpoint} :
    (ofRoutes rs).find p method = .ok (e, v) ↔
      ∃ before r after, rs = before ++ r :: after ∧ (e = r.endpoint ∧ r.method = method ∧
        r.endpoint.read? (relative p) = some v) ∧ ∀ s ∈ before, reading p method s.endpoint = none := by
  rw [find_eq_ok_iff, ofRoutes, List.findSome?_map, List.findSome?_eq_some_iff]
  simp only [Function.comp_apply, reading_eq_some_iff]
  rfl

theorem exists_find (hmem : r ∈ rs) (hr : r.endpoint.read? (relative p) = some v) :
    ∃ q, (ofRoutes rs).find p r.method = .ok q := by
  have hsome : ((ofRoutes rs).endpoints.findSome? (reading p r.method)).isSome := by
    rw [List.findSome?_isSome_iff]
    refine ⟨r.endpoint, List.mem_map_of_mem hmem, ?_⟩
    have hreading : reading p r.method r.endpoint = some (r.endpoint, v) := reading_eq_some_iff.2 ⟨rfl, rfl, hr⟩
    rw [hreading]
    rfl
  obtain ⟨q, hq⟩ := Option.isSome_iff_exists.1 hsome
  exact ⟨q, find_eq_ok_iff.2 hq⟩

/-- The delta stands before each of its parts. -/
def DeltaFirst (rs : List Route) : Prop := ∀ r : Route, r.deltaPart?.isSome → [.delta, r].Sublist rs

theorem mem_of_sublist_pair {α : Type} {a b : α} {before after : List α} (hn : (before ++ b :: after).Nodup)
    (h : [a, b].Sublist (before ++ b :: after)) : a ∈ before := by
  obtain ⟨l₁, l₂, hl, ha, hb⟩ := List.cons_sublist_iff.1 h
  have hb' := List.singleton_sublist.1 hb
  rcases List.append_eq_append_iff.1 hl with ⟨x, rfl, hx⟩ | ⟨x, rfl, -⟩
  · cases x with
    | nil => simpa using ha
    | cons c x =>
      -- `b` would stand on both sides
      cases hx
      rw [hl, List.nodup_append] at hn
      exact absurd rfl (hn.2.2 b (by simp) b hb')
  · exact List.mem_append_left _ ha

/-- Where the delta is tried before its parts, a path is found as the route of its method that reads it other than as a
part without a head. -/
theorem find_of_deltaFirst {e : Endpoint} (hall : rs.Perm Route.all) (hfirst : DeltaFirst rs) :
    (ofRoutes rs).find p method = .ok (e, v) ↔
      ∃ r : Route, e = r.endpoint ∧ r.method = method ∧ r.endpoint.read? (relative p) = some v ∧ ¬ r.Headless v := by
  have hforward {e : Endpoint} {v : Vars} (h : (ofRoutes rs).find p method = .ok (e, v)) :
      ∃ r : Route, e = r.endpoint ∧ r.method = method ∧ r.endpoint.read? (relative p) = some v ∧ ¬ r.Headless v := by
    obtain ⟨before, r, after, hrs, ⟨rfl, hm, hr⟩, hbefore⟩ := find_ofRoutes_eq_ok_iff.1 h
    refine ⟨r, rfl, hm, hr, fun hless => ?_⟩
    -- the delta reads the path as well, and is tried before
    obtain ⟨w, hw⟩ := Option.isSome_iff_exists.1 (Route.isSome_read?_delta hr hless)
    have hdelta : .delta ∈ before := mem_of_sublist_pair (by rw [← hrs]; exact hall.nodup_iff.2 (by decide))
      (hrs ▸ hfirst r hless.1)
    obtain ⟨part, hpart⟩ := Option.isSome_iff_exists.1 hless.1
    have hmd : Route.delta.method = method := by rw [← (Route.deltaPart_spec r part hpart).2.2.2.2, hm]
    have hnone := hbefore _ hdelta
    rw [reading_eq_some_iff.2 ⟨rfl, hmd, hw⟩] at hnone
    cases hnone
  constructor
  · exact hforward
  · rintro ⟨r, rfl, rfl, hr, hless⟩
    obtain ⟨⟨e, w⟩, hfind⟩ := exists_find (hall.mem_iff.2 (Route.mem_all r)) hr
    obtain ⟨s, rfl, hm, hs, hless'⟩ := hforward hfind
    rcases Route.eq_or_headless hm hs hr with rfl | ⟨-, h⟩ | ⟨-, h⟩
    · rw [hr] at hs
      cases hs
      exact hfind
    · exact absurd h hless
    · exact absurd h hless'

theorem deltaFirst_all : DeltaFirst Route.all := Route.forall_of_all (by decide +kernel)

theorem find_standard_eq_ok_iff {e : Endpoint} :
    standard.find p method = .ok (e, v) ↔
      ∃ r : Route, e = r.endpoint ∧ r.method = method ∧ r.endpoint.read? (relative p) = some v ∧ ¬ r.Headless v := by
  rw [standard_eq]
  exact find_of_deltaFirst (.refl _) deltaFirst_all

theorem find_eq_of_deltaFirst (hall : rs.Perm Route.all) (hfirst : DeltaFirst rs) (p method : Text) :
    (ofRoutes rs).find p method = standard.find p method :=
  find_eq_of_ok_iff fun _ => (find_of_deltaFirst hall hfirst).trans find_standard_eq_ok_iff.symm

/-- Every part has a path without a head. -/
theorem exists_headless (hpart : r.deltaPart? = some part) :
    ∃ p v, r.endpoint.read? (relative p) = some v ∧ r.Headless v := by
  have hok : ∀ r : Route, r.deltaPart?.isSome → (r.endpoint.fill ([(Var.repo, "a")] : Vars)).toBool = true :=
    Route.forall_of_all (by decide +kernel)
  have hsome : r.deltaPart?.isSome = true := by
    rw [hpart]
    rfl
  have hr := hok r hsome
  cases hp : r.endpoint.fill ([(Var.repo, "a")] : Vars) with
  | error e =>
    rw [hp] at hr
    cases hr
  | ok p =>
    refine ⟨p, _, by rw [relative_fill hp]; exact read?_fill (Route.definite_shape r) hp, hsome, ?_⟩
    rw [Vars.get_map _ (by rw [names_of_deltaPart? hpart, names_delta]; decide)]
    decide

/-- Where a part is tried before the delta, a path that it reads without a head is not found as the delta. -/
theorem exists_find_ne (hall : rs.Perm Route.all) (h : ¬ DeltaFirst rs) :
    ∃ p method : Text, (ofRoutes rs).find p method ≠ standard.find p method := by
  unfold DeltaFirst at h
  push Not at h
  obtain ⟨r, hpart, hnot⟩ := h
  obtain ⟨part, hpart⟩ := Option.isSome_iff_exists.1 hpart
  obtain ⟨p, v, hread, hless⟩ := exists_headless hpart
  obtain ⟨before, after, hrs, hbefore⟩ := List.eq_append_cons_of_mem (hall.mem_iff.2 (Route.mem_all r))
  have hdelta : Route.delta ∉ before := by
    intro hmem
    refine hnot ?_
    rw [hrs]
    exact List.cons_sublist_iff.2 ⟨before, r :: after, rfl, hmem, List.singleton_sublist.2 (List.mem_cons_self ..)⟩
  -- only the delta reads the path besides, so the search comes to the part
  have hnone : ∀ s ∈ before, reading p r.method s.endpoint = none := by
    intro s hs
    refine Option.eq_none_iff_forall_ne_some.2 fun q hq => ?_
    obtain ⟨-, hm, hw⟩ := reading_eq_some_iff.1 hq
    rcases Route.eq_or_headless hm hw hread with rfl | ⟨rfl, -⟩ | ⟨rfl, -⟩
    · exact hbefore hs
    · exact hdelta hs
    · cases hpart
  refine ⟨p, r.method, fun heq => ?_⟩
  rw [find_ofRoutes_eq_ok_iff.2 ⟨before, r, after, hrs, ⟨rfl, rfl, hread⟩, hnone⟩, eq_comm] at heq
  obtain ⟨s, hs, -, -, hless'⟩ := find_standard_eq_ok_iff.1 heq
  cases congrArg Endpoint.route hs
  exact hless' hless

/-! ## Tables -/

/-- A table in another order is compiled to the endpoints in this order. -/
theorem ofTable?_of_perm {table : RouteTable} (h : table.Perm RouteTable.standard) :
    (table.map Prod.fst).Perm Route.all ∧ ofTable? table = some (ofRoutes (table.map Prod.fst)) := by
  have hfst : (RouteTable.standard.map Prod.fst) = Route.all := by
    rw [RouteTable.standard_eq, List.map_map]
    exact List.map_id _
  have hroutes : (table.map Prod.fst).Perm Route.all := by
    rw [← hfst]
    exact h.map _
  have htable : table = (table.map Prod.fst).map fun r => (r, r.method, Template.text r.shape) := by
    rw [List.map_map]
    refine (List.map_id _).symm.trans (List.map_congr_left fun row hrow => ?_)
    rw [h.mem_iff, RouteTable.standard_eq] at hrow
    obtain ⟨r, -, rfl⟩ := List.mem_map.1 hrow
    rfl
  refine ⟨hroutes, ?_⟩
  rw [ofTable?, Ordered.ofPairs_of_nodup (hroutes.nodup_iff.2 (by decide))]
  conv_lhs => rw [htable, mapM_compile?]
  rfl

/-! ## Main statement -/

theorem mem_standard {e : Endpoint} : e ∈ standard.endpoints ↔ ∃ r : Route, r.endpoint = e := by
  rw [standard_eq, List.mem_map]
  exact exists_congr fun r => and_iff_right (Route.mem_all r)

/-- Two endpoints of one method read the same path only if they are the same or one is the delta and the other a part of
it that reads the path without a head, and such a path the delta does read. So the routes may be tried in another order
exactly if the delta stays before its parts: then every path is found as the same route with the same variables, or is
refused alike. -/
theorem overlap_and_order :
    (∀ (p : Text) (e f : Endpoint) (v w : Vars), e ∈ standard.endpoints → f ∈ standard.endpoints → e.method = f.method →
      e.read? p = some v → f.read? p = some w →
        e = f ∨ e.route = .delta ∧ f.route.Headless w ∨ f.route = .delta ∧ e.route.Headless v) ∧
    (∀ (p : Text) (e : Endpoint) (v : Vars), e ∈ standard.endpoints → e.read? p = some v → e.route.Headless v →
      ∀ f ∈ standard.endpoints, f.method = e.method → ((f.read? p).isSome ↔ f = e ∨ f.route = .delta)) ∧
    ∀ table : RouteTable, table.Perm RouteTable.standard → ∃ router, ofTable? table = some router ∧
      (DeltaFirst (table.map Prod.fst) ↔ ∀ p method : Text, router.find p method = standard.find p method) := by
  refine ⟨?_, ?_, ?_⟩
  · intro p e f v w he hf hm hv hw
    obtain ⟨r, rfl⟩ := mem_standard.1 he
    obtain ⟨s, rfl⟩ := mem_standard.1 hf
    rcases Route.eq_or_headless hm hv hw with rfl | h | h
    · exact .inl rfl
    · exact .inr (.inl h)
    · exact .inr (.inr h)
  · intro p e v he hv hless f hf hm
    obtain ⟨r, rfl⟩ := mem_standard.1 he
    obtain ⟨s, rfl⟩ := mem_standard.1 hf
    constructor
    · intro hs
      obtain ⟨w, hw⟩ := Option.isSome_iff_exists.1 hs
      rcases Route.eq_or_headless hm hw hv with rfl | ⟨h, -⟩ | ⟨rfl, -⟩
      · exact .inl rfl
      · exact .inr h
      · exact absurd hless Route.not_headless_delta
    · rintro (h | rfl)
      · rw [h, hv]
        rfl
      · exact Route.isSome_read?_delta hv hless
  · intro table htable
    obtain ⟨hall, hrouter⟩ := ofTable?_of_perm htable
    refine ⟨_, hrouter, find_eq_of_deltaFirst hall, fun h => ?_⟩
    by_contra hfirst
    obtain ⟨p, method, hne⟩ := exists_find_ne hall hfirst
    exact hne (h p method)

/-- The path of the definitions of a delta is the delta's too, and the table may begin with its last row. -/
theorem overlap_and_order_defs :
    (Route.delta.endpoint.read? ("repos/a@b/-/delta/-/defs" : Text)).isSome ∧
      ∃ router, ofTable? (RouteTable.standard.rotate 33) = some router ∧
        router.find ("//repos/a@b/-/delta/-/defs" : Text) "GET" = standard.find "//repos/a@b/-/delta/-/defs" "GET" := by
  constructor
  · have hread : Route.deltaDefs.endpoint.read? ("repos/a@b/-/delta/-/defs" : Text) =
        some [(Var.repo, "a".toList), (Var.rev, "b".toList), (Var.deltaHead, [])] := by decide +kernel
    have hdelta := overlap_and_order.2.1 _ _ _ (mem_standard.2 ⟨_, rfl⟩) hread ⟨rfl, rfl⟩ _
      (mem_standard.2 ⟨.delta, rfl⟩) rfl
    exact hdelta.2 (.inr rfl)
  · obtain ⟨router, hrouter, h⟩ := overlap_and_order.2.2 (RouteTable.standard.rotate 33) (List.rotate_perm _ _)
    refine ⟨router, hrouter, h.1 ?_ _ _⟩
    exact Route.forall_of_all (by decide +kernel)

end Router

end CodeAddress
