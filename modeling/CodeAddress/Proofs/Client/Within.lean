/-
Which URLs a client resolves. What is resolved goes on behind the target of the base URL, but nothing says that it goes
on behind a slash. A base whose target ends in a slash resolves only what lies in its directory; one whose target does
not also resolves what stands beside the directory, as if it lay in it (`Client.resolve_within`).
-/
import CodeAddress.Proofs.Client.Resolve
import CodeAddress.Proofs.Route.Order

namespace CodeAddress

variable {idna : Idna} {base p path t rest : Text} {b u : Url}

namespace Url

/-! ## Directories -/

/-- The target of a base with one slash at its end; the slash is added to the target, or to the base before it is read
as a URL. -/
def IsDirectory (idna : Idna) (base : Text) (b : Url) (t : Text) : Prop :=
  t = Text.slashed b.target ∨ ∃ c, ofText idna (Text.slashed base) = .ok c ∧ t = c.target

/-- The path goes on behind the directory. -/
def Within (t path : Text) : Prop := ∃ rest, rest ≠ [] ∧ path = t ++ rest

/-- The path goes on behind the target of the base, but without the slash that the target lacks. -/
def Beside (b : Url) (t path : Text) : Prop :=
  t = b.target ++ ['/'] ∧ ∃ rest, rest ≠ [] ∧ rest.head? ≠ some '/' ∧ path = b.target ++ rest

/-- A slashed base is the base with a slash at the end of its path. -/
theorem IsBase.exists_of_slashed {c : Url} (h : IsBase base) (hc : ofText idna (Text.slashed base) = .ok c) :
    ∃ b q, ofText idna base = .ok b ∧ (b.path = q ∨ b.path = q ++ ['/']) ∧
      b.target = (if b.path = [] then ['/'] else b.path) ∧ c.target = q ++ ['/'] := by
  obtain ⟨b, q, hb, -, rfl, hq, -, hquery, -⟩ :=
    h.exists_of_append (p := []) (by simp) (by simp) straight_nil (by rwa [List.append_nil])
  have htarget := target_of_query (u := { b with path := q ++ ['/'] }) hquery
  exact ⟨b, q, hb, hq, target_of_query hquery, htarget.trans (if_neg (by simp))⟩

/-- The target of a base is its directory, or lacks the slash at the end. -/
theorem IsBase.directory_cases (h : IsBase base) (hb : ofText idna base = .ok b) (ht : IsDirectory idna base b t) :
    t = b.target ∨ t = b.target ++ ['/'] := by
  rcases ht with rfl | ⟨c, hc, rfl⟩
  · unfold Text.slashed
    split
    · exact .inl rfl
    · exact .inr rfl
  · obtain ⟨b', q, hb', hq, hbtarget, hctarget⟩ := h.exists_of_slashed hc
    rw [hb] at hb'
    cases hb'
    rw [hctarget, hbtarget]
    rcases hq with hq | hq
    · by_cases hne : q = []
      · exact .inl (by rw [hq, if_pos hne, hne]; rfl)
      · exact .inr (by rw [hq, if_neg hne])
    · exact .inl (by rw [hq, if_neg (by simp)])

/-- A base that ends in a slash has its target for its directory. -/
theorem IsBase.directory_of_slash (h : IsBase base) (hb : ofText idna base = .ok b)
    (hslash : Text.endsWith ['/'] base = true) (ht : IsDirectory idna base b t) : t = b.target := by
  have hslashed : Text.slashed base = base := if_pos hslash
  obtain ⟨-, q, -, -, -, htarget⟩ := h.exists_of_slashed (hslashed.symm ▸ hb)
  rcases ht with rfl | ⟨c, hc, rfl⟩
  · exact if_pos (Text.endsWith_iff.2 ⟨q, htarget⟩)
  · rw [hslashed, hb] at hc
    cases hc
    rfl

theorem not_within_of_beside (h : Beside b t path) : ¬ Within t path := by
  obtain ⟨rfl, rest, -, hhead, rfl⟩ := h
  rintro ⟨rest', -, hrest⟩
  rw [List.append_assoc] at hrest
  rw [List.append_cancel_left hrest] at hhead
  exact hhead rfl

/-- What goes on behind the target of a base lies in its directory or beside it. -/
theorem within_or_beside (ht : t = b.target ∨ t = b.target ++ ['/']) (hrest : Router.relative rest ≠ [])
    (hpath : path = b.target ++ rest) : Within t path ∨ Beside b t path := by
  have hne : rest ≠ [] := by
    rintro rfl
    exact hrest rfl
  rcases ht with rfl | rfl
  · exact .inl ⟨rest, hne, hpath⟩
  · by_cases hhead : rest.head? = some '/'
    · obtain ⟨c, rest', rfl⟩ := List.exists_cons_of_ne_nil hne
      cases hhead
      refine .inl ⟨rest', ?_, by rw [hpath, List.append_assoc]; rfl⟩
      rintro rfl
      exact hrest rfl
    · exact .inr ⟨rfl, rest, hne, hhead, hpath⟩

end Url

namespace Client

/-! ## What is resolved -/

theorem read?_nil : ∀ r : Route, r.endpoint.read? ([] : Text) = none := Route.forall_of_all (by decide +kernel)

/-- Slashes alone are the path of no route. -/
theorem exists_readPath_nil (hrest : Router.relative rest = []) (method : Text) :
    ∃ e, readPath rest method = .error (.notFound e) := by
  unfold readPath
  cases hfind : Router.standard.find rest method with
  | error e => exact ⟨e, rfl⟩
  | ok q =>
    obtain ⟨r, -, -, hread, -⟩ := Router.find_standard_eq_ok_iff.1 hfind
    rw [hrest, read?_nil] at hread
    cases hread

/-- What is resolved goes on behind the target of the base, with more than slashes. -/
theorem resolve_cases {s : Settings} (hb : Url.ofText idna s.baseUrl = .ok b) (u : Url) (method : Text) :
    (∃ rest, u.target.takeWhile (· ≠ '?') = b.target ++ rest ∧ Router.relative rest ≠ []) ∨
      ∃ e, resolve idna { settings := s } u method = .error (.notFound e) := by
  rw [resolve_eq hb]
  cases hafter : Text.after? b.target (u.target.takeWhile (· ≠ '?')) with
  | none => exact .inr ⟨_, rfl⟩
  | some rest =>
    by_cases hrest : Router.relative rest = []
    · exact .inr (exists_readPath_nil hrest method)
    · exact .inl ⟨rest, Text.after?_eq_some_iff.1 hafter, hrest⟩

/-- What stands beside the directory of a base is resolved as if it stood in it. -/
theorem resolve_beside {s : Settings} (hb : Url.ofText idna s.baseUrl = .ok b) {u w : Url}
    (hu : u.target.takeWhile (· ≠ '?') = b.target ++ rest)
    (hw : w.target.takeWhile (· ≠ '?') = b.target ++ '/' :: rest) (method : Text) :
    resolve idna { settings := s } u method = resolve idna { settings := s } w method := by
  have hslash : Router.relative ('/' :: rest) = Router.relative rest := rfl
  rw [resolve_of_append hb hu, resolve_of_append hb hw, readPath_congr hslash]

/-! ## Main statement -/

/-- A URL is resolved only if its path lies in the directory of the base, or beside it where the target of the base
lacks the slash at the end; all others are not found. A base that ends in a slash does not lack it. What lies
beside the directory is resolved like what lies in it. -/
theorem resolve_within {s : Settings} (hb : Url.ofText idna s.baseUrl = .ok b)
    (hscheme : b.scheme = "http".toList ∨ b.scheme = "https".toList) (hhost : b.host ≠ []) (hq : '?' ∉ s.baseUrl)
    (hh : '#' ∉ s.baseUrl) (ht : Url.IsDirectory idna s.baseUrl b t) (u : Url) (method : Text) :
    (∀ x, resolve idna { settings := s } u method = .ok x →
      Url.Within t (u.target.takeWhile (· ≠ '?')) ∨ Url.Beside b t (u.target.takeWhile (· ≠ '?'))) ∧
    (¬ Url.Within t (u.target.takeWhile (· ≠ '?')) → ¬ Url.Beside b t (u.target.takeWhile (· ≠ '?')) →
      ∃ e, resolve idna { settings := s } u method = .error (.notFound e)) ∧
    (Text.endsWith ['/'] s.baseUrl = true → ¬ Url.Beside b t (u.target.takeWhile (· ≠ '?'))) ∧
    ∀ w rest, t = b.target ++ ['/'] → u.target.takeWhile (· ≠ '?') = b.target ++ rest →
      w.target.takeWhile (· ≠ '?') = t ++ rest →
        resolve idna { settings := s } u method = resolve idna { settings := s } w method := by
  have hbase := Url.isBase_of_http hb hscheme hhost hh hq
  refine ⟨?_, ?_, ?_, ?_⟩
  · intro x hx
    rcases resolve_cases hb u method with ⟨rest, hpath, hrest⟩ | ⟨e, he⟩
    · exact Url.within_or_beside (hbase.directory_cases hb ht) hrest hpath
    · rw [hx] at he
      cases he
  · intro hwithin hbeside
    rcases resolve_cases hb u method with ⟨rest, hpath, hrest⟩ | h
    · rcases Url.within_or_beside (hbase.directory_cases hb ht) hrest hpath with h | h
      · exact absurd h hwithin
      · exact absurd h hbeside
    · exact h
  · rintro hslash ⟨hne, -⟩
    rw [hbase.directory_of_slash hb hslash ht] at hne
    exact absurd hne (by simp)
  · rintro w rest rfl hu hw
    exact resolve_beside hb hu (by rw [hw, List.append_assoc]; rfl) method

/-- Below a base with a slash at its end, a URL of the base's origin outside the directory is not found. -/
theorem resolve_within_slash :
    ∃ b u, Url.ofText .oneName "https://bücher.example/api/" = .ok b ∧
      Url.ofText .oneName "https://bücher.example/apirepos" = .ok u ∧
      Url.IsDirectory .oneName "https://bücher.example/api/" b "/api/" ∧
      ∃ e, resolve .oneName { settings := { baseUrl := "https://bücher.example/api/" } } u "GET" =
        .error (.notFound e) := by
  have hb : Url.ofText .oneName "https://bücher.example/api/" =
      .ok { scheme := "https", host := "xn--bcher-kva.example", path := "/api/" } := by decide +kernel
  have hu : Url.ofText .oneName "https://bücher.example/apirepos" =
      .ok { scheme := "https", host := "xn--bcher-kva.example", path := "/apirepos" } := by decide +kernel
  have ht : Url.IsDirectory .oneName "https://bücher.example/api/"
      { scheme := "https", host := "xn--bcher-kva.example", path := "/api/" } "/api/" := .inl (by decide +kernel)
  refine ⟨_, _, hb, hu, ht, ?_⟩
  obtain ⟨-, hout, hslash, -⟩ := resolve_within (s := { baseUrl := "https://bücher.example/api/" }) hb (.inr rfl)
    (by decide) (by decide) (by decide) ht
    { scheme := "https", host := "xn--bcher-kva.example", path := "/apirepos" } "GET"
  have hnot : ¬ ("/api/".toList <+: "/apirepos".toList) := by decide
  refine hout ?_ (hslash (by decide +kernel))
  rintro ⟨rest, -, hrest⟩
  exact hnot ⟨rest, hrest.symm⟩

/-- A URL of the base's origin may be resolved that only begins with the same characters as the base does, whatever the
encoder. -/
theorem not_forall_within :
    ¬ ∃ idna : Idna, ∀ (s : Settings) (b u : Url) (t method : Text) (x : Resolved), Url.ofText idna s.baseUrl = .ok b →
      b.scheme = "http".toList ∨ b.scheme = "https".toList → b.host ≠ [] → '?' ∉ s.baseUrl → '#' ∉ s.baseUrl →
      Url.IsDirectory idna s.baseUrl b t → u.scheme = b.scheme ∧ u.host = b.host ∧ u.port = b.port →
      resolve idna { settings := s } u method = .ok x → Url.Within t (u.target.takeWhile (· ≠ '?')) := by
  rintro ⟨idna, h⟩
  have hb : Url.ofText idna "https://h/api" = .ok { scheme := "https", host := "h", path := "/api" } := rfl
  have hrepos : resolve idna { settings := { baseUrl := "https://h/api" } }
      { scheme := "https", host := "h", path := "/apirepos" } "GET" = .ok { route := .repos, address := none } := by
    have hfill : Route.repos.endpoint.fill ([] : Vars) = .ok "repos" := by decide +kernel
    have hpath : ({ scheme := "https", host := "h", path := "/apirepos" } : Url).target.takeWhile (· ≠ '?') =
        ({ scheme := "https", host := "h", path := "/api" } : Url).target ++ "repos".toList := by decide
    rw [resolve_of_append hb hpath]
    exact readPath_of_find (Router.find_fill hfill fun h => by cases h.1) rfl
  have hbeside : Url.Beside { scheme := "https", host := "h", path := "/api" } "/api/" "/apirepos" :=
    ⟨by decide, "repos", by decide, by decide, by decide⟩
  exact Url.not_within_of_beside hbeside (h { baseUrl := "https://h/api" } _
    { scheme := "https", host := "h", path := "/apirepos" } "/api/" "GET" _ hb (.inr rfl) (by decide) (by decide)
    (by decide) (.inl (by decide +kernel)) ⟨rfl, rfl, rfl⟩ hrepos)

end Client

end CodeAddress
