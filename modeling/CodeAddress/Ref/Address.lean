/-
What a route can address: a repository, a revision, a delta or a definition. `Address.vars` writes
any of them as route variables, `Address.Kind.read` reads back one of a given kind.
-/
import CodeAddress.Ref.Definition
import CodeAddress.Ref.Delta

namespace CodeAddress

inductive Address where
  | repo (r : Repo)
  | revision (r : Revision)
  | delta (d : Delta)
  | definition (d : Definition)
deriving DecidableEq, Repr

inductive Address.Kind where
  | repo
  | revision
  | delta
  | definition
deriving DecidableEq, Repr

namespace Address

def kind : Address → Kind
  | repo _ => .repo
  | revision _ => .revision
  | delta _ => .delta
  | definition _ => .definition

def vars : Address → Except EncodeError Vars
  | repo r => r.vars
  | revision r => r.vars
  | delta d => d.vars
  | definition d => d.vars

/-- The reference of a kind that route variables give. -/
def Kind.read : Kind → Vars → Except DecodeError Address
  | .repo, v => (Repo.ofVars v).map .repo
  | .revision, v => (Revision.ofVars v).map .revision
  | .delta, v => (Delta.ofVars v).map .delta
  | .definition, v => (Definition.ofVars v).map .definition

end Address

end CodeAddress
