/-
Clients of accepted settings. A base URL is accepted by its first and its last characters, so it may hold a query or a
fragment, or end where its host should begin. Behind every other accepted base the URLs that a client builds are
resolved to what they were built for. Behind a query or a fragment none is found, and behind a base without a host the
first word of the path is taken for the host (`Client.resolve_urlFor_accepted`).
-/
import CodeAddress.Proofs.Client.Within
import CodeAddress.Proofs.Settings.Raw

namespace CodeAddress

variable {idna : Idna} {scheme rest base p t : Text} {s : Settings} {r : Route} {v : Vars} {a : Option Address}
  {u : Url} {ps : Params}

namespace Url

/-! ## Bases without a path of their own -/

/-- A text with a query or a fragment. -/
def Marked (s : Text) : Prop := '?' ∈ s ∨ '#' ∈ s

/-- A scheme and two slashes with nothing behind them. -/
def Bare (s : Text) : Prop := s = "http://".toList ∨ s = "https://".toList

instance (s : Text) : Decidable (Marked s) := inferInstanceAs (Decidable ('?' ∈ s ∨ '#' ∈ s))

instance (s : Text) : Decidable (Bare s) := inferInstanceAs (Decidable (s = "http://".toList ∨ s = "https://".toList))

theorem cutScheme_of_http (hscheme : scheme = "http".toList ∨ scheme = "https".toList) (rest : Text) :
    scheme ≠ [] ∧ cutScheme (scheme ++ ':' :: rest) = (scheme, rest) := by
  have hletters : scheme ≠ [] ∧ ':' ∉ scheme ∧ isScheme scheme = true := by
    rcases hscheme with rfl | rfl <;> decide
  obtain ⟨hne, hcolon, hletters⟩ := hletters
  rw [cutScheme, Text.cut?_append_cons hcolon]
  exact ⟨hne, if_pos hletters⟩

theorem mark_mem_of_http {m : Char} (hscheme : scheme = "http".toList ∨ scheme = "https".toList)
    (hm : m = '?' ∨ m = '#') : m ∈ scheme ++ ':' :: '/' :: '/' :: rest ↔ m ∈ rest := by
  rcases hscheme with rfl | rfl <;> rcases hm with rfl | rfl <;> simp

/-- A path behind a bare scheme loses its first word, which becomes the host. -/
theorem path_of_bare (hscheme : scheme = "http".toList ∨ scheme = "https".toList) (hsafe : ∀ c ∈ p, safeInPath c = true)
    (hp : Straight p) (hu : ofText idna (scheme ++ ':' :: '/' :: '/' :: p) = .ok u) :
    u.scheme ≠ [] ∧ u.path = p.dropWhile (· ≠ '/') := by
  obtain ⟨-, -, hparts⟩ := ofText_eq_ok_iff.1 hu
  obtain ⟨hne, hcut⟩ := cutScheme_of_http hscheme ('/' :: '/' :: p)
  have hh : '#' ∉ scheme ++ ':' :: '/' :: '/' :: p := by
    rw [mark_mem_of_http hscheme (.inr rfl)]
    exact fun h => (not_mark_of_safe (hsafe _ h)).1 rfl
  have hq : '?' ∉ scheme ++ ':' :: '/' :: '/' :: p := by
    rw [mark_mem_of_http hscheme (.inl rfl)]
    exact fun h => (not_mark_of_safe (hsafe _ h)).2 rfl
  obtain ⟨authority, path, rfl, ha, hpath⟩ := exists_authority p
  have hs : (Parts.ofText (scheme ++ ':' :: '/' :: '/' :: (authority ++ path))).scheme ≠ [] := by
    rwa [scheme_ofText, hcut]
  have hkept : Percent.quote safeInPath (straighten path) = path := by
    rcases hpath with rfl | ⟨t, rfl⟩
    · rfl
    · exact quote_straighten_below (.inl rfl) (straight_of_append_slash hp)
        fun c hc => hsafe c (List.mem_append_right _ (List.mem_cons_of_mem _ hc))
  have hpathu : u.path = path := by
    rw [path_of_ofParts hs hparts, Parts.ofText_of_place hh hq (by rw [hcut]; rfl) ha hpath]
    exact hkept
  exact ⟨(scheme_ne_nil_iff hparts).2 hs, by rw [hpathu, (span_authority ha hpath).2]⟩

end Url

namespace Settings.IsHttp

theorem cutScheme (h : IsHttp scheme rest base) : scheme ≠ [] ∧ Url.cutScheme base = (scheme, '/' :: '/' :: rest) := by
  rw [h.eq_append]
  exact Url.cutScheme_of_http h.known _

theorem marked_iff (h : IsHttp scheme rest base) : Url.Marked base ↔ '?' ∈ rest ∨ '#' ∈ rest := by
  rw [Url.Marked, h.eq_append, Url.mark_mem_of_http h.known (.inl rfl), Url.mark_mem_of_http h.known (.inr rfl)]

/-- Paths can be written behind every other accepted base URL. -/
theorem isBase (h : IsHttp scheme rest base) (hmarked : ¬ Url.Marked base) (hbare : ¬ Url.Bare base) :
    Url.IsBase base := by
  obtain ⟨hne, hcut⟩ := h.cutScheme
  refine ⟨by rwa [hcut], ⟨rest, ?_, by rw [hcut]; rfl⟩, fun h => hmarked (.inl h), fun h => hmarked (.inr h)⟩
  rintro rfl
  refine hbare ?_
  rw [h.eq_append]
  exact h.known.imp (by rintro rfl; rfl) (by rintro rfl; rfl)

end Settings.IsHttp

namespace Client

/-! ## What is resolved behind accepted bases -/

/-- Behind a query or a fragment the path of a route is no part of the URL's path. -/
theorem resolve_of_marked (hbase : Settings.IsHttp scheme rest s.baseUrl) (hmarked : Url.Marked s.baseUrl)
    (hu : Router.standard.link idna s.baseUrl r v ps = .ok u) (method : Text) :
    ∃ f, resolve idna { settings := s } u method = .error (.notFound f) := by
  obtain ⟨p, u₀, hp, hu₀, hwith⟩ := Router.exists_of_link hu
  obtain ⟨hsafe, hcolon, -⟩ := Route.plain_fill hp
  obtain ⟨hs, hcut⟩ := hbase.cutScheme
  have hmark : '?' ∈ (Url.cutScheme s.baseUrl).2 ∨ '#' ∈ (Url.cutScheme s.baseUrl).2 := by
    rw [hcut]
    exact (hbase.marked_iff.1 hmarked).imp (fun h => by simp [h]) fun h => by simp [h]
  rw [hbase.slashed] at hu₀
  obtain ⟨b, hb, hscheme, hpath, -⟩ := Url.exists_of_append_mark
    (fun c hc => ⟨fun h => hcolon (h ▸ hc), Url.not_mark_of_safe (hsafe c hc)⟩) hmark hu₀
  obtain ⟨-, -, hparts⟩ := Url.ofText_eq_ok_iff.1 hb
  have hne : u₀.scheme ≠ [] := by
    rwa [hscheme, Url.scheme_ne_nil_iff hparts, Url.scheme_ofText, hcut]
  rcases resolve_cases hb u method with ⟨rest, htarget, hrest⟩ | h
  · -- the path of the URL is that of the base, so nothing is left behind the target
    rw [Url.takeWhile_target_of_withParams hu₀ hne hwith, hpath, Url.target, List.append_assoc,
      List.self_eq_append_right, List.append_eq_nil_iff] at htarget
    rw [htarget.2] at hrest
    exact absurd rfl hrest
  · exact h

/-- Behind a bare scheme the path of a route is resolved without its first word. -/
theorem resolve_of_bare (hbare : Url.Bare s.baseUrl) (hu : Router.standard.link idna s.baseUrl r v ps = .ok u)
    (method : Text) :
    ∃ p, r.endpoint.fill v = .ok p ∧
      resolve idna { settings := s } u method = readPath (p.dropWhile (· ≠ '/')) method := by
  obtain ⟨p, u₀, hp, hu₀, hwith⟩ := Router.exists_of_link hu
  obtain ⟨hsafe, -, hstraight⟩ := Route.plain_fill hp
  have hbase : ∃ scheme, (scheme = "http".toList ∨ scheme = "https".toList) ∧ s.baseUrl = scheme ++ [':', '/', '/'] ∧
      Text.slashed s.baseUrl = s.baseUrl ∧ Url.ofText idna s.baseUrl = .ok { scheme } := by
    rcases hbare with h | h
    · exact ⟨_, .inl rfl, h, by rw [h]; decide, by rw [h]; rfl⟩
    · exact ⟨_, .inr rfl, h, by rw [h]; decide, by rw [h]; rfl⟩
  obtain ⟨scheme, hscheme, hbase, hslashed, hb⟩ := hbase
  rw [hslashed, hbase, List.append_assoc] at hu₀
  obtain ⟨hne, hpath⟩ := Url.path_of_bare hscheme hsafe hstraight hu₀
  have htarget := Url.takeWhile_target_of_withParams hu₀ hne hwith
  rw [hpath] at htarget
  refine ⟨p, hp, ?_⟩
  rcases Url.rooted_dropWhile p with h | ⟨t, h⟩
  · rw [h, if_pos rfl] at htarget
    rw [h]
    exact resolve_of_append hb htarget method
  · have hslash : Router.relative ('/' :: t) = Router.relative t := rfl
    rw [h, if_neg (List.cons_ne_nil _ _)] at htarget
    rw [h, readPath_congr hslash]
    exact resolve_of_append hb htarget method

/-! ## Main statement -/

/-- With accepted settings, the URL of a route that is no part of a delta, for a reference that its own variables give,
is resolved to the route and the reference if the base has neither query nor fragment and something behind its scheme.
With a query or a fragment in the base it is not found, and behind a bare scheme it is resolved as the route's path is
without its first word. -/
theorem resolve_urlFor_accepted {raw : Raw} {e : Endpoint} (hs : Settings.ofRaw raw = .ok s) (hr : r.deltaPart? = none)
    (he : Router.standard.get r = .ok e) (hv : varsOf a = .ok v) (hread : readVars e v = .ok a)
    (hu : urlFor idna { settings := s } r a ps = .ok u) :
    (¬ Url.Marked s.baseUrl → ¬ Url.Bare s.baseUrl →
      resolve idna { settings := s } u e.method = .ok { route := r, address := a }) ∧
    (Url.Marked s.baseUrl → ∃ f, resolve idna { settings := s } u e.method = .error (.notFound f)) ∧
    (Url.Bare s.baseUrl → ∃ p, Router.standard.path r v = .ok p ∧
      resolve idna { settings := s } u e.method = readPath (p.dropWhile (· ≠ '/')) e.method) := by
  rw [Router.get_standard] at he
  cases he
  unfold urlFor at hu
  rw [hv, mapError_ok, ok_bind] at hu
  obtain ⟨scheme, rest, hbase⟩ := Settings.exists_of_ofRaw hs
  refine ⟨fun hmarked hbare => ?_, fun hmarked => resolve_of_marked hbase hmarked hu _, fun hbare => ?_⟩
  · obtain ⟨p, hp, -⟩ := exists_of_bind_eq_ok hu
    rw [mapError_eq_ok_iff, Router.path_standard_eq_ok_iff] at hp
    have hnot : ¬ Route.Headless r v := fun h => by simp [Route.Headless, hr] at h
    exact resolve_below (hbase.isBase hmarked hbare) hp hu (Router.find_fill hp hnot)
      (by rw [readVars_map, hread])
  · obtain ⟨p, hp, hresolve⟩ := resolve_of_bare hbare hu r.method
    exact ⟨p, Router.path_standard_eq_ok_iff.2 hp, hresolve⟩

/-- A base with a host beyond ASCII, blanks around it and dot segments in it, and one with nothing behind its scheme,
where the URL of a repository is resolved to another repository. -/
theorem resolve_urlFor_accepted_hosts :
    (∃ s u, Settings.ofRaw { baseUrl := some (.text " https://bücher.example/x/../a b ") } = .ok s ∧
      urlFor .oneName { settings := s } .repo (some (.repo { uri := "repos/r" })) [] = .ok u ∧
      resolve .oneName { settings := s } u "GET" = .ok ⟨.repo, some (.repo { uri := "repos/r" })⟩) ∧
    ∃ s u, Settings.ofRaw { baseUrl := some (.text "http://") } = .ok s ∧
      urlFor .oneName { settings := s } .repo (some (.repo { uri := "repos/r" })) [] = .ok u ∧
      resolve .oneName { settings := s } u "GET" = .ok ⟨.repo, some (.repo { uri := "r" })⟩ := by
  have hv : varsOf (some (.repo { uri := "repos/r" })) = .ok [(Var.repo, "repos/r")] := by decide +kernel
  have hread : readVars Route.repo.endpoint [(Var.repo, "repos/r")] = .ok (some (.repo { uri := "repos/r" })) := by
    decide +kernel
  have hp : Route.repo.endpoint.fill ([(Var.repo, "repos/r")] : Vars) = .ok "repos/repos/r" := by decide +kernel
  constructor
  · have hs : Settings.ofRaw { baseUrl := some (.text " https://bücher.example/x/../a b ") } =
        .ok { baseUrl := "https://bücher.example/x/../a b/" } := by decide +kernel
    have hu : urlFor .oneName { settings := { baseUrl := "https://bücher.example/x/../a b/" } } .repo
        (some (.repo { uri := "repos/r" })) [] =
        .ok { scheme := "https", host := "xn--bcher-kva.example", path := "/a%20b/repos/repos/r" } := by
      rw [urlFor_of_path hv hp]
      decide +kernel
    exact ⟨_, _, hs, hu, (resolve_urlFor_accepted hs rfl (Router.get_standard _) hv hread hu).1 (by decide) (by decide)⟩
  · have hs : Settings.ofRaw { baseUrl := some (.text "http://") } = .ok { baseUrl := "http://" } := by decide +kernel
    have hu : urlFor .oneName { settings := { baseUrl := "http://" } } .repo (some (.repo { uri := "repos/r" })) [] =
        .ok { scheme := "http", host := "repos", path := "/repos/r" } := by
      rw [urlFor_of_path hv hp]
      decide +kernel
    obtain ⟨p, hpath, hresolve⟩ :=
      (resolve_urlFor_accepted hs rfl (Router.get_standard _) hv hread hu).2.2 (.inl rfl)
    rw [Router.path_standard_eq_ok_iff, hp] at hpath
    cases hpath
    have hother : Route.repo.endpoint.fill ([(Var.repo, "r")] : Vars) = .ok "repos/r" := by decide +kernel
    have hrest : Router.relative ("repos/repos/r".toList.dropWhile (· ≠ '/')) = Router.relative "repos/r".toList := by
      decide
    refine ⟨_, _, hs, hu, hresolve.trans ?_⟩
    rw [readPath_congr hrest]
    exact readPath_of_find (Router.find_fill hother fun h => by cases h.1) (by decide +kernel)

/-- Behind an accepted base with a query, a client does not find the URL that it builds, whatever the encoder. -/
theorem not_forall_resolve_accepted :
    ¬ ∃ idna : Idna, ∀ (raw : Raw) (s : Settings) (r : Route) (e : Endpoint) (a : Option Address) (v : Vars) (u : Url),
      Settings.ofRaw raw = .ok s → r.deltaPart? = none → Router.standard.get r = .ok e → varsOf a = .ok v →
      readVars e v = .ok a → urlFor idna { settings := s } r a [] = .ok u →
      ∃ x, resolve idna { settings := s } u e.method = .ok x ∧ x.route = r := by
  rintro ⟨idna, h⟩
  have hs : Settings.ofRaw { baseUrl := some (.text "https://h/?key=1") } = .ok { baseUrl := "https://h/?key=1/" } := by
    decide +kernel
  have hp : Route.repos.endpoint.fill ([] : Vars) = .ok "repos" := by decide +kernel
  have hu : urlFor idna { settings := { baseUrl := "https://h/?key=1/" } } .repos none [] =
      .ok { scheme := "https", host := "h", path := "/", query := some "key=1/repos" } := by
    rw [urlFor_of_path rfl hp]
    rfl
  obtain ⟨x, hx, -⟩ := h _ _ .repos _ none [] _ hs rfl (Router.get_standard _) rfl rfl hu
  have hb : Url.ofText idna "https://h/?key=1/" =
      .ok { scheme := "https", host := "h", path := "/", query := some "key=1/" } := rfl
  rw [resolve_eq hb] at hx
  cases hx

end Client

end CodeAddress
