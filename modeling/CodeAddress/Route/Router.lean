/-
Routers: endpoints in the order in which a path is tried against them, and the table of the service.
-/
import CodeAddress.Ordered
import CodeAddress.Route.Endpoint

namespace CodeAddress

/-- Endpoints in the order in which they are tried. -/
structure Router where
  endpoints : List Endpoint
deriving DecidableEq, Repr

/-- The method and template of each route. -/
abbrev RouteTable := List (Route × Text × Text)

namespace Router

/-- The router of a table, if all its templates compile. A route that is given twice keeps its first
place and its last template. -/
def ofTable? (table : RouteTable) : Option Router :=
  ((Ordered.ofPairs table).mapM fun p => Endpoint.compile? p.1 p.2.1 p.2.2).map Router.mk

def get (r : Router) (route : Route) : Except EncodeError Endpoint :=
  match r.endpoints.find? fun e => e.route = route with
  | some e => .ok e
  | none => .error (.unknownRoute route)

/-! ## Paths -/

section Letters

variable {α : Type} [DecidableEq α] [Letter α]

def path (r : Router) (route : Route) (v : Vars α) : Except EncodeError Text := do (← r.get route).fill v

/-- The path without its leading slashes. -/
def relative (path : List α) : List α := path.dropWhile (· = Letter.ofChar '/')

/-- No endpoint fits a path. -/
structure NotFound (α : Type := Char) where
  path : List α
deriving DecidableEq, Repr

def NotFound.message (e : NotFound α) : String := s!"No route matches path {Letter.shown e.path}"

/-- The first endpoint of a method that a path fits, with its variables. -/
def find (r : Router) (path : List α) (method : Text) : Except (NotFound α) (Endpoint × Vars α) :=
  let found := r.endpoints.findSome? fun e =>
    if e.method = method then (e.read? (relative path)).map fun v => (e, v) else none
  match found with
  | some p => .ok p
  | none => .error ⟨relative path⟩

end Letters

end Router

/-! ## The table of the service -/

namespace RouteTable

def repo : String := "repos/\x7bRepoSpec\x7d"

def revision : String := repo ++ "\x7b@Rev\x7d"

def delta : String := revision ++ "/-/delta\x7b/DeltaHeadRev\x7d"

def definition : String := revision ++ "/-/def/\x7bUnitType\x7d/\x7bUnit\x7d/-/\x7bPath\x7d"

def row (route : Route) (method template : String) : Route × Text × Text := (route, method, template)

/-- The routes of the service, each with its method and template. -/
def standard : RouteTable :=
  [row .repos "GET" "repos",
   row .reposCreate "POST" "repos",
   row .repo "GET" repo,
   row .reposGetOrCreate "PUT" repo,
   row .repoSettings "GET" (repo ++ "/-/settings"),
   row .repoSettingsUpdate "PUT" (repo ++ "/-/settings"),
   row .repoRefreshProfile "PUT" (repo ++ "/-/refresh-profile"),
   row .repoRefreshVcsData "PUT" (repo ++ "/-/refresh-vcs-data"),
   row .repoCommits "GET" (repo ++ "/-/commits"),
   row .repoBranches "GET" (repo ++ "/-/branches"),
   row .repoTags "GET" (repo ++ "/-/tags"),
   row .repoBadges "GET" (repo ++ "/-/badges"),
   row .repoCounters "GET" (repo ++ "/-/counters"),
   row .repoCommit "GET" (revision ++ "/-/commit"),
   row .repoStats "GET" (revision ++ "/-/stats"),
   row .repoComputeStats "PUT" (revision ++ "/-/stats"),
   row .repoCombinedStatus "GET" (revision ++ "/-/status"),
   row .repoStatusCreate "POST" (revision ++ "/-/status"),
   row .repoBuild "GET" (revision ++ "/-/build"),
   row .repoReadme "GET" (revision ++ "/-/readme"),
   row .delta "GET" delta,
   row .deltaDefs "GET" (delta ++ "/-/defs"),
   row .deltaDependencies "GET" (delta ++ "/-/dependencies"),
   row .deltaFiles "GET" (delta ++ "/-/files"),
   row .deltaAffectedAuthors "GET" (delta ++ "/-/affected-authors"),
   row .deltaAffectedClients "GET" (delta ++ "/-/affected-clients"),
   row .deltaAffectedDependents "GET" (delta ++ "/-/affected-dependents"),
   row .deltaReviewers "GET" (delta ++ "/-/reviewers"),
   row .deltasIncoming "GET" (revision ++ "/-/deltas/incoming"),
   row .defs "GET" "defs",
   row .definition "GET" definition,
   row .definitionRefs "GET" (definition ++ "/-/refs"),
   row .definitionExamples "GET" (definition ++ "/-/examples"),
   row .definitionAuthors "GET" (definition ++ "/-/authors")]

end RouteTable

def Router.standard : Router := (Router.ofTable? RouteTable.standard).getD ⟨[]⟩

end CodeAddress
