/-
References to revisions of a repository. A revision is named by a branch, tag or other text, empty
for the default branch, and may carry the commit it resolves to; both travel in one token, joined
by `===`.
-/
import CodeAddress.Ref.Repo

namespace CodeAddress

/-- A revision of a repository, with the commit it resolves to if that is known. -/
structure Revision where
  repo : Repo
  rev : Text := []
  commit : Text := []
deriving DecidableEq, Repr

namespace Revision

/-- What joins a revision and its commit. -/
def commitMark : Text := "==="

/-! ## Writing -/

/-- The token of a revision within its repository. -/
def token (r : Revision) : Except EncodeError Text :=
  if r.commit = [] then .ok r.rev
  else if r.rev = [] then .error (.commitWithoutRev r.commit)
  else .ok (r.rev ++ commitMark ++ r.commit)

def vars (r : Revision) : Except EncodeError Vars := do
  let repo ← r.repo.token
  let rev ← r.token
  return [(Var.repo, repo), (Var.rev, rev)]

/-! ## Reading -/

/-- The revision before the first mark of a token and the commit after it. -/
def splitToken (t : Text) : Text × Text := (Text.cut? commitMark t).getD (t, [])

def ofTokens (repoToken revToken : Text) : Except DecodeError Revision := do
  let repo ← Repo.ofToken repoToken
  let (rev, commit) := splitToken revToken
  if rev = [] ∧ commit ≠ [] then throw (.invalid .revision Var.rev revToken .commitWithoutRev)
  return { repo, rev, commit }

def ofVars (v : Vars) : Except DecodeError Revision := ofTokens (v.get Var.repo) (v.get Var.rev)

end Revision

end CodeAddress
