/-
What the URLs of a client are resolved to. The URL of a route and a reference is resolved to this route and this
reference, wherever the base URL points and whatever parameters the URL carries (`Client.resolve_urlFor`); only a
part of a delta to the default branch of its own repository is resolved as another delta.

The path of the route stands unchanged behind the path of the base, so what is left of the URL's path is the route's
path, but for slashes in front of it; from there on it is for the router to read the path and for the reader of
references to read its variables.
-/
import CodeAddress.Client.Basic
import CodeAddress.Proofs.Ref.Delta
import CodeAddress.Proofs.Route.Link
import CodeAddress.Proofs.Route.RoundTrip

namespace CodeAddress

variable {idna : Idna} {r : Route} {v w : Vars} {p : Text} {a : Option Address} {part : Text}

/-! ## Reading variables -/

/-- The variables that a kind of reference is read from. -/
def Address.Kind.names : Kind → List Text
  | .repo => [Var.repo]
  | .revision => [Var.repo, Var.rev]
  | .delta => [Var.repo, Var.rev, Var.deltaHead]
  | .definition => [Var.repo, Var.rev, Var.unitType, Var.unit, Var.path]

theorem Address.Kind.read_congr {kind : Kind} (h : ∀ n ∈ kind.names, v.get n = w.get n) :
    kind.read v = kind.read w := by
  cases kind <;> simp only [names, List.forall_mem_cons] at h
  · simp only [read, Repo.ofVars, h]
  · simp only [read, Revision.ofVars, h]
  · simp only [read, Delta.ofVars, Revision.ofVars, h]
  · simp only [read, Definition.ofVars, h]

theorem Route.names_subset : ∀ r : Route, ∀ kind ∈ r.endpoint.addressKind?, ∀ n ∈ kind.names, n ∈ r.endpoint.names :=
  forall_of_all (by decide +kernel)

/-- A reference is read from the variables of the template alone. -/
theorem Client.readVars_congr (h : ∀ n ∈ r.endpoint.names, v.get n = w.get n) :
    readVars r.endpoint v = readVars r.endpoint w := by
  unfold readVars
  cases hk : r.endpoint.addressKind? with
  | none => rfl
  | some kind =>
    dsimp only
    rw [Address.Kind.read_congr fun n hn => h n (Route.names_subset r kind hk n hn)]

theorem Client.readVars_map (r : Route) (v : Vars) :
    readVars r.endpoint (r.endpoint.names.map fun n => (n, v.get n)) = readVars r.endpoint v :=
  readVars_congr fun _ hn => Vars.get_map v.get hn

/-! ## Paths behind a base -/

theorem Router.find_congr {router : Router} {p q method : Text} (h : relative p = relative q) :
    router.find p method = router.find q method := by
  unfold find
  rw [h]

/-- A path below a base goes on behind the base's target as the route's path does, but for a slash. -/
theorem Url.exists_of_below {b : Url} {q : Text} (hquery : b.query = none) (hq : b.path = q ∨ b.path = q ++ ['/'])
    (p : Text) : ∃ rest, q ++ '/' :: p = b.target ++ rest ∧ Router.relative rest = Router.relative p := by
  rw [target_of_query hquery]
  rcases hq with hq | hq
  · by_cases hne : q = []
    · subst hne
      rw [if_pos hq]
      exact ⟨p, rfl, rfl⟩
    · rw [if_neg (hq ▸ hne), hq]
      exact ⟨'/' :: p, rfl, rfl⟩
  · rw [if_neg (by simp [hq]), hq]
    exact ⟨p, by simp, rfl⟩

namespace Client

/-- What a path behind the base addresses by a method. -/
def readPath (path method : Text) : Except ResolveError Resolved := do
  let (e, v) ← (Router.standard.find path method).mapError .notFound
  let a ← (readVars e v).mapError .decode
  return { route := e.route, address := a }

theorem resolve_eq {s : Settings} {b : Url} (hb : Url.ofText idna s.baseUrl = .ok b) (u : Url) (method : Text) :
    resolve idna { settings := s } u method =
      match Text.after? b.target (u.target.takeWhile (· ≠ '?')) with
      | none => .error (.notFound ⟨u.target.takeWhile (· ≠ '?')⟩)
      | some rest => readPath rest method := by
  unfold resolve
  rw [hb, mapError_ok, ok_bind]
  rfl

theorem resolve_of_append {s : Settings} {b u : Url} {rest : Text} (hb : Url.ofText idna s.baseUrl = .ok b)
    (hu : u.target.takeWhile (· ≠ '?') = b.target ++ rest) (method : Text) :
    resolve idna { settings := s } u method = readPath rest method := by
  rw [resolve_eq hb, Text.after?_eq_some_iff.2 hu]

theorem readPath_congr {q : Text} (h : Router.relative p = Router.relative q) (method : Text) :
    readPath p method = readPath q method := by
  unfold readPath
  rw [Router.find_congr h]

theorem readPath_of_find {method : Text} {e : Endpoint} (hfind : Router.standard.find p method = .ok (e, w))
    (hread : readVars e w = .ok a) : readPath p method = .ok { route := e.route, address := a } := by
  simp only [readPath, hfind, mapError_ok, ok_bind, hread]
  rfl

/-- The URL of a route below a base is resolved as the route's path is found. -/
theorem resolve_below {s : Settings} {u : Url} {ps : Params} {method : Text} {e : Endpoint}
    (hbase : Url.IsBase s.baseUrl) (hp : r.endpoint.fill v = .ok p)
    (hu : Router.standard.link idna s.baseUrl r v ps = .ok u) (hfind : Router.standard.find p method = .ok (e, w))
    (hread : readVars e w = .ok a) :
    resolve idna { settings := s } u method = .ok { route := e.route, address := a } := by
  obtain ⟨b, p', q, hb, hquery, hbq, hp', hbelow⟩ := Router.link_below hbase hu
  rw [hp] at hp'
  cases hp'
  obtain ⟨rest, htarget, hrest⟩ := Url.exists_of_below hquery hbq p
  rw [resolve_of_append hb (hbelow.trans htarget), readPath_congr hrest, readPath_of_find hfind hread]

theorem resolve_link {s : Settings} {b u : Url} {ps : Params} {method : Text} {e : Endpoint}
    (hb : Url.ofText idna s.baseUrl = .ok b) (hscheme : b.scheme ≠ []) (hhost : b.host ≠ []) (hq : '?' ∉ s.baseUrl)
    (hh : '#' ∉ s.baseUrl) (hp : r.endpoint.fill v = .ok p) (hu : Router.standard.link idna s.baseUrl r v ps = .ok u)
    (hfind : Router.standard.find p method = .ok (e, w)) (hread : readVars e w = .ok a) :
    resolve idna { settings := s } u method = .ok { route := e.route, address := a } :=
  resolve_below (Url.isBase_of_host hb hscheme hhost hh hq) hp hu hfind hread

/-! ## Deltas and their parts -/

/-- What is decided on the seven parts: they address deltas, and the head that reads as the part is a revision with
no other meaning. -/
theorem deltaPart_head : ∀ r : Route, ∀ part ∈ r.deltaPart?,
    r.endpoint.addressKind? = some .delta ∧ Delta.crossMark ∉ ("-/" ++ part : Text) ∧
      Revision.splitToken ("-/" ++ part) = ("-/" ++ part, []) :=
  Route.forall_of_all (by decide +kernel)

theorem readVars_of_kind {e : Endpoint} {kind : Address.Kind} (hk : e.addressKind? = some kind) :
    readVars e v = (kind.read v).map some := by
  rw [readVars, hk]

/-- What a part of a delta is read as is a delta. -/
theorem exists_delta_of_readVars (hpart : r.deltaPart? = some part) (h : readVars r.endpoint v = .ok a) :
    ∃ d, a = some (.delta d) ∧ Delta.ofVars v = .ok d := by
  rw [readVars_of_kind (deltaPart_head r part hpart).1, map_eq_ok_iff] at h
  obtain ⟨_, h, rfl⟩ := h
  obtain ⟨d, hd, rfl⟩ := map_eq_ok_iff.1 h
  exact ⟨d, rfl, hd⟩

end Client

/-- With the part for its head, a delta has this head in the repository of its base. -/
theorem Delta.ofVars_withHead {d : Delta} {r : Route} (hpart : r.deltaPart? = some part) (h : Delta.ofVars v = .ok d) :
    Delta.ofVars (Router.withHead v ("-/" ++ part)) =
      .ok { base := d.base, head := { repo := d.base.repo, rev := "-/" ++ part } } := by
  obtain ⟨-, hcolon, hsplit⟩ := Client.deltaPart_head r part hpart
  obtain ⟨hrepo, hrev, hhead⟩ := Router.get_withHead_base v ("-/" ++ part)
  obtain ⟨base, hbase, h⟩ := exists_of_bind_eq_ok h
  obtain ⟨head, -, h⟩ := exists_of_bind_eq_ok h
  cases h
  have hbase' : Revision.ofVars (Router.withHead v ("-/" ++ part)) = .ok base := by
    rw [Revision.ofVars, hrepo, hrev]
    exact hbase
  have hhead' : Revision.ofTokens (v.get Var.repo) ("-/" ++ part) = .ok { repo := base.repo, rev := "-/" ++ part } :=
    Revision.ofTokens_eq_ok_iff.2 ⟨(Revision.ofTokens_eq_ok_iff.1 hbase).1, hsplit, fun h => h.2 rfl⟩
  rw [ofVars, hbase', ok_bind, hrepo, hhead, ofHeadToken_of_notMem hcolon, hhead']
  rfl

namespace Client

/-- The variables of a reference have no head for a part exactly if the reference is a delta to a default branch. -/
theorem headless_iff {d : Delta} (hpart : r.deltaPart? = some part) (hv : d.vars = .ok v) :
    Route.Headless r v ↔ d.HasDefaultHead := by
  obtain ⟨repo, rev, head, -, -, hhead, rfl⟩ := Delta.vars_eq_ok_iff.1 hv
  have h1 : Var.deltaHead ≠ Var.repo := by decide
  have h2 : Var.deltaHead ≠ Var.rev := by decide
  simp [← Delta.headToken_eq_nil_iff hhead, Route.Headless, hpart, Vars.get_cons, h1, h2]

/-! ## Main statement -/

theorem urlFor_of_path {s : Settings} {r : Route} {a : Option Address} {v : Vars} {p : Text} (hv : varsOf a = .ok v)
    (hp : r.endpoint.fill v = .ok p) (ps : Params) :
    urlFor idna { settings := s } r a ps = (do
      let u ← (Url.ofText idna (Text.slashed s.baseUrl ++ p)).mapError .url
      if ¬ ps.all fun q => q.2.isWritable then throw .longInteger
      (u.withParams idna ps).mapError .url) := by
  unfold urlFor Router.link
  rw [hv, mapError_ok, ok_bind, Router.path_standard_eq_ok_iff.2 hp]
  rfl

/-- The URL of a route for a reference that its own variables give is resolved to the route and the reference. Only
where the route is a part of a delta whose head is the default branch of its base's repository, it is resolved to the
delta whose head is the part behind a hyphen and a slash. -/
theorem resolve_urlFor {s : Settings} {b u : Url} {e : Endpoint} {ps : Params} (hb : Url.ofText idna s.baseUrl = .ok b)
    (hscheme : b.scheme = "http".toList ∨ b.scheme = "https".toList) (hhost : b.host ≠ []) (hq : '?' ∉ s.baseUrl)
    (hh : '#' ∉ s.baseUrl) (he : Router.standard.get r = .ok e) (hv : varsOf a = .ok v) (hread : readVars e v = .ok a)
    (hu : urlFor idna { settings := s } r a ps = .ok u) :
    ((∀ d, a = some (.delta d) → r.deltaPart?.isSome = true → ¬ d.HasDefaultHead) →
      resolve idna { settings := s } u e.method = .ok { route := r, address := a }) ∧
    ∀ part d, r.deltaPart? = some part → a = some (.delta d) → d.HasDefaultHead →
      resolve idna { settings := s } u e.method = .ok
        { route := .delta
          address := some (.delta { base := d.base, head := { repo := d.base.repo, rev := "-/" ++ part } }) } := by
  rw [Router.get_standard] at he
  cases he
  have hne : b.scheme ≠ [] := by
    rcases hscheme with h | h
    · rw [h]
      decide
    · rw [h]
      decide
  unfold urlFor at hu
  rw [hv, mapError_ok, ok_bind] at hu
  obtain ⟨p, hp, -⟩ := exists_of_bind_eq_ok hu
  rw [mapError_eq_ok_iff, Router.path_standard_eq_ok_iff] at hp
  constructor
  · intro hhead
    -- a part without a head can only come from a delta with the default head
    have hnot : ¬ Route.Headless r v := by
      rintro ⟨hpart, hempty⟩
      obtain ⟨part, hpart'⟩ := Option.isSome_iff_exists.1 hpart
      obtain ⟨d, rfl, -⟩ := exists_delta_of_readVars hpart' hread
      exact hhead d rfl hpart ((headless_iff hpart' hv).1 ⟨hpart, hempty⟩)
    exact resolve_link hb hne hhost hq hh hp hu (Router.find_fill hp hnot) (by rw [readVars_map, hread])
  · rintro part d hpart rfl hd
    obtain ⟨d', hd', hread'⟩ := exists_delta_of_readVars hpart hread
    cases hd'
    -- the path is that of the delta with another head, and so are the variables that are read
    have hempty := ((headless_iff hpart hv).2 hd).2
    refine resolve_link hb hne hhost hq hh hp hu (Router.find_headless hpart hempty hp) ?_
    rw [readVars_map, readVars_of_kind (show Route.delta.endpoint.addressKind? = some .delta by decide),
      Address.Kind.read, Delta.ofVars_withHead hpart hread']
    rfl

/-- Dot segments in the base and in a value, and a part of a delta to the default branch, below a host beyond ASCII. -/
theorem resolve_urlFor_dots :
    (∃ u, urlFor .oneName { settings := { baseUrl := "https://bücher.example/x/../api" } } .repoCommit
        (some (.revision { repo := { uri := "a/../b" }, rev := "@é" })) [("q", .flag true)] = .ok u ∧
      resolve .oneName { settings := { baseUrl := "https://bücher.example/x/../api" } } u "GET" =
        .ok ⟨.repoCommit, some (.revision { repo := { uri := "a/../b" }, rev := "@é" })⟩) ∧
    ∃ u, urlFor .oneName { settings := { baseUrl := "https://bücher.example/x/../api" } } .deltaDefs
        (some (.delta { base := { repo := { id := 7 } }, head := { repo := { id := 7 } } })) [] = .ok u ∧
      resolve .oneName { settings := { baseUrl := "https://bücher.example/x/../api" } } u "GET" =
        .ok ⟨.delta,
          some (.delta { base := { repo := { id := 7 } }, head := { repo := { id := 7 }, rev := "-/defs" } })⟩ := by
  have hb : Url.ofText .oneName "https://bücher.example/x/../api" =
      .ok { scheme := "https", host := "xn--bcher-kva.example", path := "/api" } := by decide +kernel
  constructor
  · have hv : varsOf (some (.revision { repo := { uri := "a/../b" }, rev := "@é" })) =
        .ok [(Var.repo, "a/../b"), (Var.rev, "@é")] := by decide
    have hp : Route.repoCommit.endpoint.fill ([(Var.repo, "a/../b"), (Var.rev, "@é")] : Vars) =
        .ok "repos/a/%2E%2E/b@%40%C3%A9/-/commit" := by decide +kernel
    have hu : urlFor .oneName { settings := { baseUrl := "https://bücher.example/x/../api" } } .repoCommit
        (some (.revision { repo := { uri := "a/../b" }, rev := "@é" })) [("q", .flag true)] =
        .ok { scheme := "https", host := "xn--bcher-kva.example",
              path := "/api/repos/a/%2E%2E/b@%40%C3%A9/-/commit", query := some "q=true" } := by
      rw [urlFor_of_path hv hp]
      decide +kernel
    refine ⟨_, hu, ?_⟩
    exact (resolve_urlFor hb (.inr rfl) (by decide) (by decide) (by decide) (Router.get_standard _) hv (by decide) hu).1
      (fun d hd => by cases hd)
  · have hv : varsOf (some (.delta { base := { repo := { id := 7 } }, head := { repo := { id := 7 } } })) =
        .ok [(Var.repo, "R$7"), (Var.rev, ""), (Var.deltaHead, "")] := by decide +kernel
    have hp : Route.deltaDefs.endpoint.fill ([(Var.repo, "R$7"), (Var.rev, ""), (Var.deltaHead, "")] : Vars) =
        .ok "repos/R%247/-/delta/-/defs" := by decide +kernel
    have hu : urlFor .oneName { settings := { baseUrl := "https://bücher.example/x/../api" } } .deltaDefs
        (some (.delta { base := { repo := { id := 7 } }, head := { repo := { id := 7 } } })) [] =
        .ok { scheme := "https", host := "xn--bcher-kva.example", path := "/api/repos/R%247/-/delta/-/defs" } := by
      rw [urlFor_of_path hv hp]
      decide +kernel
    refine ⟨_, hu, ?_⟩
    exact (resolve_urlFor hb (.inr rfl) (by decide) (by decide) (by decide) (Router.get_standard _) hv
      (by decide +kernel) hu).2 _ _ rfl rfl ⟨rfl, rfl, rfl⟩

end Client

end CodeAddress
