/-
The table of the service, route by route. `Route.method` and `Route.shape` give the method and the cut template of
each route, and `Router.standard_eq` says that the router of the service holds these endpoints, in the order of
`Route.all`. What is decided on the shapes holds of the router then: every template is definite (`definite_shape`),
and of two routes of one method the templates are apart, unless one is the delta and the other a part of it
(`apart_shape`).
-/
import CodeAddress.Proofs.Route.Fill
import CodeAddress.Proofs.Route.Template
import CodeAddress.Route.Router

namespace CodeAddress

namespace Route

/-! ## Shapes -/

/-- Fixed text behind a separator. -/
def fixed (t : Text) : Segment := .literal (separator ++ t)

def repoShape : List Segment := [.literal "repos/", .slot { name := Var.repo }]

def revisionShape : List Segment := repoShape ++ [.slot { name := Var.rev, lead := some '@' }]

/-- The path of a delta up to its head. -/
def baseShape : List Segment := revisionShape ++ [fixed "delta"]

/-- The head of a delta. -/
def headSlot : Slot := { name := Var.deltaHead, lead := some '/' }

def definitionShape : List Segment :=
  revisionShape ++ [fixed "def/", .slot { name := Var.unitType }, .literal "/", .slot { name := Var.unit },
    .literal separator, .slot { name := Var.path }]

/-- The part of a delta that a route gives, if it gives a part of one. -/
def deltaPart? : Route → Option Text
  | deltaDefs => some "defs"
  | deltaDependencies => some "dependencies"
  | deltaFiles => some "files"
  | deltaAffectedAuthors => some "affected-authors"
  | deltaAffectedClients => some "affected-clients"
  | deltaAffectedDependents => some "affected-dependents"
  | deltaReviewers => some "reviewers"
  | _ => none

/-- The template of a route, cut into its segments. -/
def shape : Route → List Segment
  | repos | reposCreate => [.literal "repos"]
  | repo | reposGetOrCreate => repoShape
  | repoSettings | repoSettingsUpdate => repoShape ++ [fixed "settings"]
  | repoRefreshProfile => repoShape ++ [fixed "refresh-profile"]
  | repoRefreshVcsData => repoShape ++ [fixed "refresh-vcs-data"]
  | repoCommits => repoShape ++ [fixed "commits"]
  | repoBranches => repoShape ++ [fixed "branches"]
  | repoTags => repoShape ++ [fixed "tags"]
  | repoBadges => repoShape ++ [fixed "badges"]
  | repoCounters => repoShape ++ [fixed "counters"]
  | repoCommit => revisionShape ++ [fixed "commit"]
  | repoStats | repoComputeStats => revisionShape ++ [fixed "stats"]
  | repoCombinedStatus | repoStatusCreate => revisionShape ++ [fixed "status"]
  | repoBuild => revisionShape ++ [fixed "build"]
  | repoReadme => revisionShape ++ [fixed "readme"]
  | deltasIncoming => revisionShape ++ [fixed "deltas/incoming"]
  | defs => [.literal "defs"]
  | definition => definitionShape
  | definitionRefs => definitionShape ++ [fixed "refs"]
  | definitionExamples => definitionShape ++ [fixed "examples"]
  | definitionAuthors => definitionShape ++ [fixed "authors"]
  | r => baseShape ++ .slot headSlot :: (r.deltaPart?.map fixed).toList

/-- The method of a route. -/
def method : Route → Text
  | reposCreate | repoStatusCreate => "POST"
  | reposGetOrCreate | repoSettingsUpdate | repoRefreshProfile | repoRefreshVcsData | repoComputeStats => "PUT"
  | _ => "GET"

def endpoint (r : Route) : Endpoint :=
  { route := r, method := r.method, template := Template.text r.shape, segments := r.shape }

theorem mem_all (r : Route) : r ∈ all := by cases r <;> decide

theorem forall_of_all {p : Route → Prop} (h : ∀ r ∈ all, p r) (r : Route) : p r := h r (mem_all r)

theorem forall_pair_of_all {p : Route → Route → Prop} (h : ∀ r ∈ all, ∀ s ∈ all, p r s) (r s : Route) : p r s :=
  h r (mem_all r) s (mem_all s)

theorem plain_shape : ∀ r, Template.Plain (shape r) := forall_of_all (by decide +kernel)

theorem wellNamed_shape : ∀ r, Template.wellNamed (shape r) = true := forall_of_all (by decide +kernel)

/-! ## What is decided on the shapes -/

theorem definite_shape : ∀ r, Template.definite (shape r) = true := forall_of_all (by decide +kernel)

/-- No path begins with a slash. -/
theorem mayBegin_slash_shape : ∀ r, Template.mayBegin '/' (shape r) = false := forall_of_all (by decide +kernel)

/-- Two routes of one method have no path in common, unless one is the delta and the other a part of it. -/
theorem apart_shape : ∀ r s, r.method = s.method → r ≠ s →
    Template.apart (shape r) (shape s) = true ∨ r = delta ∧ s.deltaPart?.isSome ∨ s = delta ∧ r.deltaPart?.isSome :=
  forall_pair_of_all (by decide +kernel)

/-- What stands before a route in the table is other routes, and no part of the delta stands before it. -/
theorem all_eq : ∀ r, all = all.takeWhile (· ≠ r) ++ r :: (all.dropWhile (· ≠ r)).tail ∧
    ∀ s ∈ all.takeWhile (· ≠ r), s ≠ r ∧ (r = delta → s.deltaPart? = none) :=
  forall_of_all (by decide +kernel)

end Route

/-! ## The router of the service -/

theorem RouteTable.standard_eq :
    RouteTable.standard = Route.all.map fun r => (r, r.method, Template.text r.shape) := by
  simp only [RouteTable.standard, RouteTable.row, RouteTable.delta, RouteTable.definition, RouteTable.revision,
    RouteTable.repo, String.toList_append]
  decide +kernel

namespace Router

theorem compile?_text (r : Route) :
    Endpoint.compile? r r.method (Template.text r.shape) = some r.endpoint := by
  unfold Endpoint.compile?
  rw [Template.segments_text (Route.plain_shape r), if_pos (Route.wellNamed_shape r)]
  rfl

theorem mapM_compile? (rs : List Route) :
    ((rs.map fun r => (r, r.method, Template.text r.shape)).mapM fun p => Endpoint.compile? p.1 p.2.1 p.2.2) =
      some (rs.map Route.endpoint) := by
  induction rs with
  | nil => rfl
  | cons r rs ih =>
    rw [List.map_cons, List.mapM_cons, compile?_text, ih]
    rfl

/-- The router of the service holds the endpoint of every route. -/
theorem standard_eq : standard = ⟨Route.all.map Route.endpoint⟩ := by
  have hkeys : ((Route.all.map fun r => (r, r.method, Template.text r.shape)).map Prod.fst).Nodup := by
    rw [List.map_map]
    decide +kernel
  rw [standard, ofTable?, RouteTable.standard_eq, Ordered.ofPairs_of_nodup hkeys, mapM_compile?]
  rfl

theorem get_standard (r : Route) : standard.get r = .ok r.endpoint := by
  have hfind : ∀ rs : List Route, r ∈ rs → (rs.map Route.endpoint).find? (fun e => e.route = r) = some r.endpoint := by
    intro rs hr
    induction rs with
    | nil => cases hr
    | cons s rs ih =>
      by_cases h : s = r
      · simp [h, Route.endpoint]
      · rw [List.map_cons, List.find?_cons_of_neg (by rw [decide_eq_true_eq]; exact h)]
        exact ih (List.mem_of_ne_of_mem (Ne.symm h) hr)
  rw [get, standard_eq, hfind _ (Route.mem_all r)]

theorem path_standard {α : Type} [DecidableEq α] [Letter α] (r : Route) (v : Vars α) :
    standard.path r v = r.endpoint.fill v := by
  rw [path, get_standard, ok_bind]

theorem path_standard_eq_ok_iff {r : Route} {v : Vars} {p : Text} :
    standard.path r v = .ok p ↔ r.endpoint.fill v = .ok p := by
  rw [path_standard]

/-- A path is found as the first route that reads it. -/
theorem find_standard {r : Route} {v : Vars} {p : Text} (hr : r.endpoint.read? (relative p) = some v)
    (hs : ∀ s, s.method = r.method → s ≠ r →
      s.endpoint.read? (relative p) = none ∨ r = .delta ∧ s.deltaPart?.isSome) :
    standard.find p r.method = .ok (r.endpoint, v) := by
  obtain ⟨hall, hbefore⟩ := Route.all_eq r
  have hnone : ∀ s ∈ Route.all.takeWhile (· ≠ r), s.method = r.method → s.endpoint.read? (relative p) = none := by
    intro s hmem hm
    obtain ⟨hne, hpart⟩ := hbefore s hmem
    rcases hs s hm hne with h | ⟨hd, h⟩
    · exact h
    · rw [hpart hd] at h
      cases h
  -- the routes before this one read nothing, so the search comes to it
  rw [find, standard_eq, hall, List.map_append, List.findSome?_append, List.findSome?_eq_none_iff.2, Option.none_or,
    List.map_cons, List.findSome?_cons, if_pos (show r.endpoint.method = r.method from rfl), hr]
  · rfl
  · intro e he
    obtain ⟨s, hmem, rfl⟩ := List.mem_map.1 he
    split
    · next hm => rw [hnone s hmem hm, Option.map_none]
    · rfl

end Router

end CodeAddress
