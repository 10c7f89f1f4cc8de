/-
Clients: settings and a router. A client gives references their URLs (`urlFor`), makes requests
(`request`) and reads URLs back as references (`resolve`).
-/
import CodeAddress.Request.Basic
import CodeAddress.Route.Link
import CodeAddress.Settings.Basic

namespace CodeAddress

structure Client where
  settings : Settings := {}
  router : Router := Router.standard
deriving DecidableEq, Repr

namespace Client

/-! ## From references to URLs -/

/-- The route variables of a reference, none if there is no reference. -/
def varsOf : Option Address → Except EncodeError Vars
  | none => .ok []
  | some a => a.vars

def urlFor (idna : Idna) (c : Client) (route : Route) (a : Option Address) (ps : Params) : Except LinkError Url := do
  let v ← (varsOf a).mapError .encode
  c.router.link idna c.settings.baseUrl route v ps

inductive BuildError where
  | link (e : LinkError)
  | request (e : RequestError)
deriving DecidableEq, Repr

/-- The request to a route for a reference, by the method of the route. -/
def request (idna : Idna) (c : Client) (route : Route) (a : Option Address) (ps : Params) (json : Option Json) :
    Except BuildError Request := do
  let endpoint ← (c.router.get route).mapError fun e => .link (.encode e)
  let url ← (c.urlFor idna route a ps).mapError .link
  (Request.make endpoint.method url c.settings.userAgent json c.settings.timeout).mapError .request

/-! ## From URLs to references -/

/-- Why a URL addresses nothing. -/
inductive ResolveError where
  | url (e : UrlError)
  | notFound (e : Router.NotFound)
  | decode (e : DecodeError)
deriving DecidableEq, Repr

/-- A route and what it addresses, if it addresses anything. -/
structure Resolved where
  route : Route
  address : Option Address
deriving DecidableEq, Repr

/-- The reference of an endpoint's variables. -/
def readVars (e : Endpoint) (v : Vars) : Except DecodeError (Option Address) :=
  match e.addressKind? with
  | none => .ok none
  | some kind => (kind.read v).map some

/-- What a URL addresses by a method: its path, without the base URL's own, read by the router. -/
def resolve (idna : Idna) (c : Client) (u : Url) (method : Text) : Except ResolveError Resolved := do
  let path := u.target.takeWhile (· ≠ '?')
  let base ← (Url.ofText idna c.settings.baseUrl).mapError .url
  match Text.after? base.target path with
  | none => throw (.notFound ⟨path⟩)
  | some rest =>
    let (endpoint, v) ← (c.router.find rest method).mapError .notFound
    let address ← (readVars endpoint v).mapError .decode
    return { route := endpoint.route, address }

/-- What the URL of a text addresses by a method. -/
def resolveText (idna : Idna) (c : Client) (url method : Text) : Except ResolveError Resolved := do
  c.resolve idna (← (Url.ofText idna url).mapError .url) method

end Client

end CodeAddress
