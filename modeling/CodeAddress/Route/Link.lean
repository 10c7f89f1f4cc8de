/-
Links: the absolute URLs of routes, below a base URL that is given as text.
-/
import CodeAddress.Route.Router
import CodeAddress.Url.Query

namespace CodeAddress

inductive LinkError where
  | encode (e : EncodeError)
  | url (e : UrlError)
  /-- An integer among the parameters has more digits than one is written with. -/
  | longInteger
deriving DecidableEq, Repr

/-- The link of a route: its path behind the base, which counts as ending in a slash, with parameters
merged into the query. -/
def Router.link (idna : Idna) (r : Router) (base : Text) (route : Route) (v : Vars) (ps : Params) :
    Except LinkError Url := do
  let path ← (r.path route v).mapError .encode
  let u ← (Url.ofText idna (Text.slashed base ++ path)).mapError .url
  if ¬ ps.all fun p => p.2.isWritable then throw .longInteger
  (u.withParams idna ps).mapError .url

end CodeAddress
