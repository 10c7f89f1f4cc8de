/-
Links with parameters. The query of a link is read back, as form data, as the parameters in their order, so no two links
with different parameters are the same. All else is as in the link without parameters, once its parts are read once more
(`Router.link_params`).
-/
import CodeAddress.Proofs.Route.Link
import CodeAddress.Proofs.Url.Reread

namespace CodeAddress.Router

variable {idna : Idna} {r : Route} {v : Vars} {base p : Text} {u : Url} {ps : Params}

/-- What stands behind a base without marks is a URL without marks. -/
theorem mark_notMem_of_fill {m : Char} (hm : m = '#' ∨ m = '?') (hbase : m ∉ base) (hp : r.endpoint.fill v = .ok p) :
    m ∉ Text.slashed base ++ p := by
  obtain ⟨hsafe, -, -⟩ := Route.plain_fill hp
  rw [List.mem_append, not_or]
  constructor
  · obtain ⟨t, ht, hbase'⟩ := Text.exists_slashed base
    rw [ht, List.mem_append, List.mem_singleton, not_or]
    constructor
    · rcases hbase' with rfl | rfl
      · exact hbase
      · exact fun h => hbase (List.mem_append_left _ h)
    · rcases hm with rfl | rfl <;> decide
  · intro h
    have hmark := Url.not_mark_of_safe (hsafe _ h)
    exact hm.elim hmark.1 hmark.2

/-- The scheme of a link is that of its base. -/
theorem scheme_of_fill (base : Text) (hp : r.endpoint.fill v = .ok p) :
    (Url.Parts.ofText (Text.slashed base ++ p)).scheme = (Url.cutScheme base).1 := by
  obtain ⟨-, hcolon, -⟩ := Route.plain_fill hp
  rw [Url.scheme_ofText, Url.cutScheme_append hcolon]
  unfold Text.slashed
  split
  · rfl
  · rw [Url.cutScheme_append (by decide)]

/-- A link with parameters, from the one without. -/
theorem exists_link_of_params (hidna : idna.Lawful) (hq : '?' ∉ base) (hh : '#' ∉ base)
    (hkeys : (ps.map Prod.fst).Nodup) (hu : standard.link idna base r v ps = .ok u) :
    ∃ u₀ parts, standard.link idna base r v [] = .ok u₀ ∧ Url.ofParts idna parts = .ok u₀ ∧
      parts.scheme = (Url.cutScheme base).1 ∧ u₀.query = none ∧
      u = if ps = [] then u₀ else { u₀.reread with query := some (Form.render ps.rendered) } := by
  obtain ⟨p, u₀, hp, hu₀, hwith⟩ := exists_of_link hu
  have hquery := Url.query_of_ofText (mark_notMem_of_fill (.inr rfl) hq hp) (mark_notMem_of_fill (.inl rfl) hh hp) hu₀
  obtain ⟨-, -, hparts⟩ := Url.ofText_eq_ok_iff.1 hu₀
  refine ⟨u₀, _, by rw [link_of_path hp, hu₀]; rfl, hparts, scheme_of_fill base hp, hquery, ?_⟩
  split
  · next hne =>
    rw [hne] at hwith
    cases hwith
    rfl
  · next hne => exact Url.withParams_eq hidna hparts hquery hne hkeys hwith

/-- The pairs of a link's query. -/
def queryPairs (u : Url) : List (Text × Text) := Form.parse (u.query.getD [])

theorem queryPairs_of_link (hidna : idna.Lawful) (hq : '?' ∉ base) (hh : '#' ∉ base)
    (hkeys : (ps.map Prod.fst).Nodup) (hu : standard.link idna base r v ps = .ok u) : queryPairs u = ps.rendered := by
  obtain ⟨u₀, -, -, -, -, hquery, rfl⟩ := exists_link_of_params hidna hq hh hkeys hu
  split
  · next hne =>
    rw [queryPairs, hquery, hne]
    rfl
  · exact Form.parse_render _

/-! ## Main statement -/

/-- Behind a base without marks, the query of a link with parameters is read, as form data, as these parameters in their
order, and links with other parameters are other links. Without its query it is the link without parameters, read once
more, and the very link if the base has its scheme in lower case and the host no escapes. -/
theorem link_params (hidna : idna.Lawful) (hq : '?' ∉ base) (hh : '#' ∉ base) (hne : ps ≠ [])
    (hkeys : (ps.map Prod.fst).Nodup) (hu : standard.link idna base r v ps = .ok u) :
    (∃ q, u.query = some q ∧ Form.parse q = ps.rendered) ∧
    (∃ u₀, standard.link idna base r v [] = .ok u₀ ∧ { u with query := none } = u₀.reread ∧
      (Text.lower (Url.cutScheme base).1 = (Url.cutScheme base).1 → '%' ∉ u₀.host → { u with query := none } = u₀)) ∧
    ∀ base' r' v' ps', '?' ∉ base' → '#' ∉ base' → (ps'.map Prod.fst).Nodup → ps'.rendered ≠ ps.rendered →
      standard.link idna base' r' v' ps' ≠ .ok u := by
  refine ⟨?_, ?_, ?_⟩
  · obtain ⟨u₀, -, -, -, -, -, rfl⟩ := exists_link_of_params hidna hq hh hkeys hu
    rw [if_neg hne]
    exact ⟨_, rfl, Form.parse_render _⟩
  · obtain ⟨u₀, parts, hu₀, hparts, hscheme, hquery, rfl⟩ := exists_link_of_params hidna hq hh hkeys hu
    rw [if_neg hne]
    have hsame : { u₀.reread with query := none } = u₀.reread := by rw [Url.reread, hquery]
    refine ⟨u₀, hu₀, hsame, fun hlower hhost => ?_⟩
    rw [← hscheme] at hlower
    exact hsame.trans (Url.reread_eq_self hidna hparts hlower hhost)
  · intro base' r' v' ps' hq' hh' hkeys' hdiffer hu'
    exact hdiffer ((queryPairs_of_link hidna hq' hh' hkeys' hu').symm.trans (queryPairs_of_link hidna hq hh hkeys hu))

/-- Marks of a query, a blank, a percent sign, an empty key and a letter beyond ASCII among the parameters, behind a
base whose host is beyond ASCII. -/
theorem link_params_marks :
    ∃ u, standard.link .oneName "https://bücher.example/api" .repos []
        [("a b", .text "&=+%"), ([], .integer (-1)), ("é", .flag true)] = .ok u ∧
      u.query = some "a+b=%26%3D%2B%25&=-1&%C3%A9=true".toList ∧
      Form.parse "a+b=%26%3D%2B%25&=-1&%C3%A9=true" =
        [("a b".toList, "&=+%".toList), ([], "-1".toList), ("é".toList, "true".toList)] ∧
      standard.link .oneName "https://bücher.example/api" .repos [] [] = .ok { u with query := none } ∧
      standard.link .oneName "https://bücher.example/api" .repos [] [("a", .text "b")] ≠ .ok u := by
  have hp : Route.repos.endpoint.fill ([] : Vars) = .ok "repos" := by decide +kernel
  have hu₀ : standard.link .oneName "https://bücher.example/api" .repos [] [] =
      .ok { scheme := "https", host := "xn--bcher-kva.example", path := "/api/repos" } := by
    rw [link_of_path hp]
    decide +kernel
  have hu : standard.link .oneName "https://bücher.example/api" .repos []
        [("a b", .text "&=+%"), ([], .integer (-1)), ("é", .flag true)] =
      .ok { scheme := "https", host := "xn--bcher-kva.example", path := "/api/repos",
            query := some "a+b=%26%3D%2B%25&=-1&%C3%A9=true" } := by
    rw [link_eq hp]
    decide +kernel
  obtain ⟨⟨q, hq, hparse⟩, ⟨u₀, h₀, -, hsame⟩, hother⟩ :=
    link_params Idna.oneName_lawful (by decide) (by decide) (by decide) (by decide) hu
  rw [hu₀] at h₀
  cases h₀
  cases hq
  refine ⟨_, hu, rfl, hparse.trans (by decide +kernel), ?_,
    hother _ _ _ _ (by decide) (by decide) (by decide) (by decide)⟩
  rw [hu₀, hsame (by decide) (by decide)]

/-- A URL whose port is written out although it is the one of its scheme. -/
def withPort : Url := { scheme := "https", host := "h", port := some 443, path := "/repos" }

theorem withParams_withPort (idna : Idna) :
    withPort.withParams idna [("a", .text "b")] = .ok { withPort with port := none, query := some "a=b" } := by
  have hmerge : Params.merge [("a", .text "b")] [] = "a=b" := by decide +kernel
  have hlong : ({ withPort with query := some "a=b".toList }).longPart? = none := by decide +kernel
  have hparts : ({ withPort with query := some "a=b".toList }).parts =
      { scheme := "https", host := "h", port := "443", path := "/repos", query := some "a=b" } := by decide +kernel
  rw [Url.withParams, if_neg (by simp), show withPort.query = none from rfl, Option.getD_none, hmerge, Url.withQuery]
  dsimp only
  rw [hlong, hparts]
  rfl

/-- The port that a scheme in capital letters leaves in a link goes when parameters are written, whatever the encoder.
-/
theorem not_forall_link_params :
    ¬ ∃ idna : Idna, ∀ (base : Text) (r : Route) (v : Vars) (ps : Params) (u u₀ : Url), '?' ∉ base → '#' ∉ base →
      ps ≠ [] → (ps.map Prod.fst).Nodup → standard.link idna base r v ps = .ok u →
        standard.link idna base r v [] = .ok u₀ → { u with query := none } = u₀ := by
  rintro ⟨idna, h⟩
  have hp : Route.repos.endpoint.fill ([] : Vars) = .ok "repos" := by decide +kernel
  have hread : Url.ofText idna (Text.slashed "HTTPS://h:443" ++ "repos".toList) = .ok withPort := rfl
  have hu₀ : standard.link idna "HTTPS://h:443" .repos [] [] = .ok withPort := by
    rw [link_of_path hp, hread, mapError_ok]
  have hu : standard.link idna "HTTPS://h:443" .repos [] [("a", .text "b")] =
      .ok { withPort with port := none, query := some "a=b" } := by
    rw [link_eq hp, hread, mapError_ok, ok_bind, withParams_withPort]
    rfl
  have hsame := h _ _ _ _ _ _ (by decide) (by decide) (by decide) (by decide) hu hu₀
  cases congrArg Url.port hsame

end CodeAddress.Router
