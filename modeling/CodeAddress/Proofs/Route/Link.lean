/-
Links and the base they are written behind. The path of a route holds nothing that a URL would quote or read as a mark
(`Route.plain_fill`), so behind a base it stands in the link as it was built, and everything in front of it is the
base's (`Router.link_below`). In particular no value of a variable leads out of the base or puts a query into the link
(`Router.link_confined`).
-/
import CodeAddress.Proofs.Route.Straight
import CodeAddress.Proofs.Route.Table
import CodeAddress.Proofs.Url.Below
import CodeAddress.Proofs.Url.Host
import CodeAddress.Route.Link

namespace CodeAddress

variable {idna : Idna} {r : Route} {v : Vars} {base p : Text} {b u : Url} {ps : Params}

/-! ## Paths of routes -/

namespace Route

theorem tame_shape : ∀ r, Template.tame (shape r) = true := forall_of_all (by decide +kernel)

/-- A path of a route is straight and holds no character with a meaning of its own in a URL. -/
theorem plain_fill (hp : r.endpoint.fill v = .ok p) :
    (∀ c ∈ p, Url.safeInPath c = true) ∧ ':' ∉ p ∧ Url.Straight p := by
  obtain ⟨hf, rfl⟩ := Endpoint.fillSegments_eq_ok_iff.1 hp
  have hchars (c : Char) (hc : c ∈ r.endpoint.segments.flatMap (Endpoint.written v)) :=
    Endpoint.safeInPath_of_mem_written (tame_shape r) hc
  exact ⟨fun c hc => (hchars c hc).1, fun hc => (hchars _ hc).2 rfl,
    Endpoint.straight_written (tame_shape r) (definite_shape r) hf⟩

end Route

/-! ## Links -/

namespace Router

/-- A link comes from the path of the route behind the slashed base. -/
theorem exists_of_link (hu : standard.link idna base r v ps = .ok u) :
    ∃ p u₀, r.endpoint.fill v = .ok p ∧ Url.ofText idna (Text.slashed base ++ p) = .ok u₀ ∧
      u₀.withParams idna ps = .ok u := by
  unfold link at hu
  obtain ⟨p, hp, hu⟩ := exists_of_bind_eq_ok hu
  obtain ⟨u₀, hu₀, hu⟩ := exists_of_bind_eq_ok hu
  dsimp only at hu
  split at hu
  · cases hu
  rw [mapError_eq_ok_iff] at hp hu₀ hu
  exact ⟨p, u₀, path_standard_eq_ok_iff.1 hp, hu₀, hu⟩

/-- The link of a route whose variables have a path: the URL behind the base, and then the parameters. -/
theorem link_eq (hp : r.endpoint.fill v = .ok p) (base : Text) (ps : Params) :
    standard.link idna base r v ps = (do
      let u ← (Url.ofText idna (Text.slashed base ++ p)).mapError .url
      if ¬ ps.all fun p => p.2.isWritable then throw .longInteger
      (u.withParams idna ps).mapError .url) := by
  unfold link
  rw [path_standard_eq_ok_iff.2 hp, mapError_ok, ok_bind]

theorem link_of_path (hp : r.endpoint.fill v = .ok p) (base : Text) :
    standard.link idna base r v [] = (Url.ofText idna (Text.slashed base ++ p)).mapError .url := by
  rw [link_eq hp]
  cases Url.ofText idna (Text.slashed base ++ p) <;> rfl

/-- What a link asks its host for, up to the query, is the path of its route behind the path of the base and a slash. -/
theorem link_below (hbase : Url.IsBase base) (hu : standard.link idna base r v ps = .ok u) :
    ∃ b p q, Url.ofText idna base = .ok b ∧ b.query = none ∧ (b.path = q ∨ b.path = q ++ ['/']) ∧
      r.endpoint.fill v = .ok p ∧ u.target.takeWhile (· ≠ '?') = q ++ '/' :: p := by
  obtain ⟨p, u₀, hp, hu₀, hwith⟩ := exists_of_link hu
  obtain ⟨hsafe, hcolon, hstraight⟩ := Route.plain_fill hp
  obtain ⟨b, q, hb, -, rfl, hq, hscheme, hquery, -⟩ := hbase.exists_of_append hsafe hcolon hstraight hu₀
  refine ⟨b, p, q, hb, hquery, hq, hp, ?_⟩
  rw [Url.takeWhile_target_of_withParams hu₀ hscheme hwith, if_neg (by simp)]

/-! ## Main statement -/

/-- Without parameters, a link has the place of the base, neither query nor fragment, and for its target that of the
slashed base with the path of the route behind it. The link is there whenever the path is and the text is not too long.
-/
theorem link_confined (hb : Url.ofText idna base = .ok b)
    (hscheme : b.scheme = "http".toList ∨ b.scheme = "https".toList) (hhost : b.host ≠ []) (hq : '?' ∉ base)
    (hh : '#' ∉ base) (r : Route) (v : Vars) :
    (∀ u, standard.link idna base r v [] = .ok u →
      (u.scheme = b.scheme ∧ u.userinfo = b.userinfo ∧ u.host = b.host ∧ u.port = b.port) ∧
      (u.query = none ∧ u.fragment = none) ∧
      ∃ c p, Url.ofText idna (Text.slashed base) = .ok c ∧ standard.path r v = .ok p ∧ u.target = c.target ++ p) ∧
    ∀ p, standard.path r v = .ok p → (Text.slashed base ++ p).length ≤ Url.lengthLimit →
      ∃ u, standard.link idna base r v [] = .ok u := by
  have hbase := Url.isBase_of_http hb hscheme hhost hh hq
  constructor
  · intro u hu
    obtain ⟨p, u₀, hp, hu₀, hwith⟩ := exists_of_link hu
    cases hwith
    obtain ⟨hsafe, hcolon, hstraight⟩ := Route.plain_fill hp
    obtain ⟨b', q, hb', hc, rfl, -, -, hquery, hfragment⟩ := hbase.exists_of_append hsafe hcolon hstraight hu₀
    rw [hb] at hb'
    cases hb'
    refine ⟨⟨rfl, rfl, rfl, rfl⟩, ⟨hquery, hfragment⟩, _, p, hc, path_standard_eq_ok_iff.2 hp, ?_⟩
    simp [Url.target, Url.queryText, hquery]
  · intro p hp hlen
    rw [path_standard_eq_ok_iff] at hp
    obtain ⟨hsafe, hcolon, hstraight⟩ := Route.plain_fill hp
    obtain ⟨u, hu⟩ := hbase.exists_ofText_append hb hsafe hcolon hstraight hlen
    exact ⟨u, by rw [link_of_path hp, hu]; rfl⟩

/-- Dot segments, marks of a URL and escapes in a value, behind a base with a port, a userinfo, dot segments and a host
beyond ASCII. -/
theorem link_confined_dots :
    standard.link .oneName "http://me@bücher.example:8080/x/../a b" .repoCommit
        [(Var.repo, "../?#%2e"), (Var.rev, "//..")] [] =
      .ok { scheme := "http", userinfo := "me", host := "xn--bcher-kva.example", port := some 8080,
            path := "/a%20b/repos/%2E%2E/%3F%23%252e@//%2E%2E/-/commit" } ∧
      ∃ c p, Url.ofText .oneName "http://me@bücher.example:8080/x/../a b/" = .ok c ∧
        standard.path .repoCommit ([(Var.repo, "../?#%2e"), (Var.rev, "//..")] : Vars) = .ok p ∧
        "/a%20b/repos/%2E%2E/%3F%23%252e@//%2E%2E/-/commit".toList = c.target ++ p := by
  have hb : Url.ofText .oneName "http://me@bücher.example:8080/x/../a b" =
      .ok { scheme := "http", userinfo := "me", host := "xn--bcher-kva.example", port := some 8080,
            path := "/a%20b" } := by decide +kernel
  have hp : Route.repoCommit.endpoint.fill ([(Var.repo, "../?#%2e"), (Var.rev, "//..")] : Vars) =
      .ok "repos/%2E%2E/%3F%23%252e@//%2E%2E/-/commit" := by decide +kernel
  have hu : standard.link .oneName "http://me@bücher.example:8080/x/../a b" .repoCommit
        [(Var.repo, "../?#%2e"), (Var.rev, "//..")] [] =
      .ok { scheme := "http", userinfo := "me", host := "xn--bcher-kva.example", port := some 8080,
            path := "/a%20b/repos/%2E%2E/%3F%23%252e@//%2E%2E/-/commit" } := by
    rw [link_of_path hp]
    decide +kernel
  exact ⟨hu, ((link_confined hb (.inl rfl) (by decide) (by decide) (by decide) _ _).1 _ hu).2.2⟩

end Router

end CodeAddress
