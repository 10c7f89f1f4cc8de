/-
Query parameters. `Params.merge` writes parameters over the pairs of a query: a parameter takes the
place of all values of its key, where the first of them stands, and a new key comes last.
-/
import CodeAddress.Ordered
import CodeAddress.Text.Form
import CodeAddress.Url.Basic

namespace CodeAddress

inductive Param where
  | text (t : Text)
  | integer (n : Int)
  | flag (b : Bool)
deriving DecidableEq, Repr

/-- A value as it is written in a query. -/
def Param.value : Param → Text
  | text t => t
  | integer n => Numeral.ofInt n
  | flag true => "true"
  | flag false => "false"

/-- Whether a value is no integer of too many digits. -/
def Param.isWritable : Param → Bool
  | integer n => Numeral.isWritable n
  | _ => true

abbrev Params := List (Text × Param)

namespace Params

/-- The pairs by key, each key where it first stands, with its values in order. -/
def grouped (pairs : List (Text × Text)) : List (Text × List Text) :=
  pairs.foldl (fun groups p => Ordered.put p.1 ((groups.lookup p.1).getD [] ++ [p.2]) groups) []

def ungrouped (groups : List (Text × List Text)) : List (Text × Text) :=
  groups.flatMap fun g => g.2.map fun value => (g.1, value)

/-- The query with parameters written over its own. -/
def merge (ps : Params) (query : Text) : Text :=
  let groups := grouped (Form.parse query)
  Form.render (ungrouped (ps.foldl (fun groups p => Ordered.put p.1 [p.2.value] groups) groups))

end Params

/-- The URL with parameters merged into its query; without any it stays as it is. -/
def Url.withParams (idna : Idna) (u : Url) (ps : Params) : Except UrlError Url :=
  if ps = [] then .ok u else u.withQuery idna (ps.merge (u.query.getD []))

end CodeAddress
