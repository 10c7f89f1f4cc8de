/-
URLs whose parts are read once more, as they are when parameters are written into the query. Nearly all of a normal form
stays; a host name loses its capital letters, which it holds only in escapes, and a port that goes without saying for
the scheme in lower case is left out (`Url.reread`). So the URL with parameters is the one without them, read once more,
and a query that holds the parameters and nothing else (`Url.withParams_eq`).
-/
import CodeAddress.Proofs.Text.Form
import CodeAddress.Proofs.Text.Numeral
import CodeAddress.Proofs.Url.Below
import CodeAddress.Proofs.Url.Host

namespace CodeAddress

/-- Parameters as they are written: each under its key, in their order. -/
def Params.rendered (ps : Params) : List (Text × Text) := ps.map fun p => (p.1, p.2.value)

namespace Url

variable {idna : Idna} {u w : Url} {parts : Parts} {ps : Params} {q : Text}

/-! ## URLs read once more -/

/-- A URL whose parts are read once more: the host is, and the port is left out if it is the default of the scheme. -/
def reread (u : Url) : Url :=
  { u with host := Host.reread u.host, port := if u.port = defaultPort? u.scheme then none else u.port }

theorem readPort_eq_ok {scheme port : Text} {n : Int} (h : readPort scheme port = .ok (some n)) :
    defaultPort? scheme ≠ some n := by
  unfold readPort at h
  split at h
  · cases h
  split at h
  · cases h
  · split at h
    · cases h
    · cases h
      assumption

theorem readPort_ofInt {scheme : Text} {port port' : Option Int}
    (h : readPort scheme ((port.map Numeral.ofInt).getD []) = .ok port') :
    port' = if port = defaultPort? scheme then none else port := by
  cases port with
  | none =>
    cases h
    rw [ite_self]
  | some n =>
    rw [Option.map_some, Option.getD_some, readPort, if_neg (Numeral.ofInt_ne_nil n), Numeral.readInt?_ofInt] at h
    by_cases hn : Numeral.isWritable n = true
    · rw [if_pos hn] at h
      cases h
      simp only [eq_comm]
    · rw [if_neg hn] at h
      cases h

/-- Whether a URL says where its path begins stays the same. -/
theorem isAbsolute_eq (hscheme : w.scheme = u.scheme) (huserinfo : w.userinfo = u.userinfo)
    (hhost : w.host = Host.reread u.host) (hport : w.port = if u.port = defaultPort? u.scheme then none else u.port) :
    w.isAbsolute = u.isAbsolute := by
  unfold isAbsolute hasAuthority
  rw [hscheme, huserinfo, hhost, hport]
  by_cases hs : u.scheme = []
  · have hdefault : defaultPort? [] = none := by decide
    have hport : (if u.port = none then none else u.port) = u.port := by
      split
      · next h => exact h.symm
      · rfl
    simp only [hs, hdefault, hport, Host.reread_eq_nil_iff, ne_eq]
  · simp [hs]

/-- A URL whose parts are read with another query is the URL read once more, but for the query. -/
theorem eq_of_ofParts_parts (hidna : idna.Lawful) (hu : ofParts idna parts = .ok u)
    (hw : ofParts idna { u with query := some q }.parts = .ok w) :
    w = { u.reread with query := some (Percent.quote safeInQuery q) } := by
  have hu := isNormalOf_of_ofParts hu
  have hw := isNormalOf_of_ofParts hw
  have hscheme : w.scheme = u.scheme := by
    rw [hw.scheme]
    change Text.lower u.scheme = u.scheme
    rw [hu.scheme, Text.lower_lower]
  have huserinfo : w.userinfo = u.userinfo := by
    rw [hw.userinfo]
    change Percent.quote safeInUserinfo u.userinfo = u.userinfo
    rw [hu.userinfo, Percent.quote_quote (by decide) (by decide)]
  have hhost : w.host = Host.reread u.host := Host.eq_reread_of_read hidna hu.host hw.host
  have hport : w.port = if u.port = defaultPort? u.scheme then none else u.port := readPort_ofInt hw.port
  have hpath : w.path = u.path := by
    rw [hw.path, isAbsolute_eq hscheme huserinfo hhost hport]
    change Percent.quote safeInPath (if u.isAbsolute then straighten u.path else u.path) = u.path
    rw [hu.path]
    split
    · exact straighten_quote _
    · exact Percent.quote_quote safeInPath_percent safeInPath_hexDigit _
  have hfragment : w.fragment = u.fragment := by
    rw [hw.fragment]
    change u.fragment.map (Percent.quote safeInFragment) = u.fragment
    rw [hu.fragment, Option.map_map]
    exact congrArg (Option.map · _) (funext fun f => Percent.quote_quote (by decide) (by decide) f)
  have hquery : w.query = some (Percent.quote safeInQuery q) := hw.query
  obtain ⟨scheme, userinfo, host, port, path, query, fragment⟩ := w
  dsimp only at hscheme huserinfo hhost hport hpath hfragment hquery
  subst hscheme huserinfo hhost hport hpath hfragment hquery
  rfl

/-- A URL without escapes in its host, whose scheme was written in lower case, is read as the same. -/
theorem reread_eq_self (hidna : idna.Lawful) (hu : ofParts idna parts = .ok u)
    (hscheme : Text.lower parts.scheme = parts.scheme) (hhost : '%' ∉ u.host) :
    u.reread = u := by
  have hu := isNormalOf_of_ofParts hu
  have hport : (if u.port = defaultPort? u.scheme then none else u.port) = u.port := by
    rw [hu.scheme, hscheme]
    cases hp : u.port with
    | none => exact ite_self _
    | some n =>
      have hread := hu.port
      rw [hp] at hread
      exact if_neg (readPort_eq_ok hread).symm
  rw [reread, Host.reread_of_read hidna hu.host hhost, hport]

/-! ## Parameters -/

theorem query_of_ofText {s : Text} (hq : '?' ∉ s) (hh : '#' ∉ s) (hu : ofText idna s = .ok u) : u.query = none := by
  obtain ⟨-, -, hparts⟩ := ofText_eq_ok_iff.1 hu
  rw [(isNormalOf_of_ofParts hparts).query, (Parts.query_ofText hh hq).1]
  rfl

/-- A rendered query is not quoted again. -/
theorem quote_render (pairs : List (Text × Text)) :
    Percent.quote safeInQuery (Form.render pairs) = Form.render pairs := by
  refine Percent.quote_of_forall fun c hc => ?_
  rcases Form.mem_render hc with h | h
  · exact (Bool.and_eq_true_iff.1 (safeInPath_of_unreserved h)).1
  · have hall : ['%', '+', '=', '&'].all safeInQuery = true := by decide
    exact List.all_eq_true.1 hall c h

/-- Behind no query, parameters with keys of their own are written in their order. -/
theorem merge_nil (hkeys : (ps.map Prod.fst).Nodup) : ps.merge [] = Form.render ps.rendered := by
  have hgroups : ps.foldl (fun groups p => Ordered.put p.1 [p.2.value] groups) [] =
      ps.map fun p => (p.1, [p.2.value]) := by
    have hpairs : ((ps.map fun p => (p.1, [p.2.value])).map Prod.fst).Nodup := by rwa [List.map_map]
    have hfold := Ordered.ofPairs_of_nodup hpairs
    rwa [Ordered.ofPairs, List.foldl_map] at hfold
  change Form.render (Params.ungrouped (ps.foldl _ [])) = _
  rw [hgroups, Params.ungrouped, List.flatMap_map, Params.rendered, List.map_eq_flatMap]
  rfl

/-- Parameters with keys of their own, written to a URL without a query. -/
theorem withParams_eq (hidna : idna.Lawful) (hu : ofParts idna parts = .ok u) (hq : u.query = none) (hne : ps ≠ [])
    (hkeys : (ps.map Prod.fst).Nodup) (hw : u.withParams idna ps = .ok w) :
    w = { u.reread with query := some (Form.render ps.rendered) } := by
  rw [withParams, if_neg hne, hq, Option.getD_none, merge_nil hkeys] at hw
  unfold withQuery at hw
  dsimp only at hw
  split at hw
  · cases hw
  · rw [eq_of_ofParts_parts hidna hu hw, quote_render]

end Url

end CodeAddress
