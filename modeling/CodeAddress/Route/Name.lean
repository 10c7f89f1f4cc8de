/-
The endpoints of the service by name. A name is lower-case words parted by dots and hyphens; its
label writes them in upper case parted by low lines.
-/
import CodeAddress.Text.Basic

namespace CodeAddress

/-- An endpoint of the service. -/
inductive Route where
  | repos
  | reposCreate
  | repo
  | reposGetOrCreate
  | repoSettings
  | repoSettingsUpdate
  | repoRefreshProfile
  | repoRefreshVcsData
  | repoCommits
  | repoBranches
  | repoTags
  | repoBadges
  | repoCounters
  | repoCommit
  | repoStats
  | repoComputeStats
  | repoCombinedStatus
  | repoStatusCreate
  | repoBuild
  | repoReadme
  | delta
  | deltaDefs
  | deltaDependencies
  | deltaFiles
  | deltaAffectedAuthors
  | deltaAffectedClients
  | deltaAffectedDependents
  | deltaReviewers
  | deltasIncoming
  | defs
  | definition
  | definitionRefs
  | definitionExamples
  | definitionAuthors
deriving DecidableEq, Repr

namespace Route

def all : List Route :=
  [.repos, .reposCreate, .repo, .reposGetOrCreate, .repoSettings, .repoSettingsUpdate,
   .repoRefreshProfile, .repoRefreshVcsData, .repoCommits, .repoBranches, .repoTags, .repoBadges,
   .repoCounters, .repoCommit, .repoStats, .repoComputeStats, .repoCombinedStatus,
   .repoStatusCreate, .repoBuild, .repoReadme, .delta, .deltaDefs, .deltaDependencies, .deltaFiles,
   .deltaAffectedAuthors, .deltaAffectedClients, .deltaAffectedDependents, .deltaReviewers,
   .deltasIncoming, .defs, .definition, .definitionRefs, .definitionExamples, .definitionAuthors]

def name : Route → String
  | repos => "repos"
  | reposCreate => "repos.create"
  | repo => "repo"
  | reposGetOrCreate => "repos.get-or-create"
  | repoSettings => "repo.settings"
  | repoSettingsUpdate => "repo.settings.update"
  | repoRefreshProfile => "repo.refresh-profile"
  | repoRefreshVcsData => "repo.refresh-vcs-data"
  | repoCommits => "repo.commits"
  | repoBranches => "repo.branches"
  | repoTags => "repo.tags"
  | repoBadges => "repo.badges"
  | repoCounters => "repo.counters"
  | repoCommit => "repo.commit"
  | repoStats => "repo.stats"
  | repoComputeStats => "repo.compute-stats"
  | repoCombinedStatus => "repo.combined-status"
  | repoStatusCreate => "repo.status.create"
  | repoBuild => "repo.build"
  | repoReadme => "repo.readme"
  | delta => "delta"
  | deltaDefs => "delta.defs"
  | deltaDependencies => "delta.dependencies"
  | deltaFiles => "delta.files"
  | deltaAffectedAuthors => "delta.affected-authors"
  | deltaAffectedClients => "delta.affected-clients"
  | deltaAffectedDependents => "delta.affected-dependents"
  | deltaReviewers => "delta.reviewers"
  | deltasIncoming => "deltas.incoming"
  | defs => "defs"
  | definition => "def"
  | definitionRefs => "def.refs"
  | definitionExamples => "def.examples"
  | definitionAuthors => "def.authors"

def ofName? (s : String) : Option Route := all.find? fun r => r.name == s

/-- The name in upper case, its words parted by low lines. -/
def label (r : Route) : String :=
  r.name.map fun c => if c = '.' ∨ c = '-' then '_' else c.toUpper

end Route

end CodeAddress
