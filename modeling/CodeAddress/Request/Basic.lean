/-
Requests that are ready to be sent. `Request.make` puts the headers together: the host and the length
of an empty body first, then what the client says of itself, then length and type of a JSON body.
-/
import CodeAddress.Request.Json
import CodeAddress.Text.Ascii
import CodeAddress.Url.Basic

namespace CodeAddress

/-- How long to wait for each step of an exchange, in seconds. -/
structure Timeouts where
  connect : Binary64
  read : Binary64
  write : Binary64
  pool : Binary64
deriving DecidableEq, Repr

def Timeouts.all (seconds : Binary64) : Timeouts := ⟨seconds, seconds, seconds, seconds⟩

/-- A request; a body that is absent is empty. -/
structure Request where
  method : Text
  url : Url
  headers : List (Text × Text)
  body : Text
  timeouts : Timeouts
deriving DecidableEq, Repr

inductive RequestError where
  | header (fault : Ascii.Fault)
  /-- A number of the body has no JSON numeral. -/
  | body
deriving DecidableEq, Repr

def RequestError.message : RequestError → String
  | header fault => fault.message
  | body => "Out of range float values are not JSON compliant"

namespace Request

/-- The media type that is sent and asked for. -/
def mediaType : Text := "application/json"

/-- The methods that announce a body even when there is none. -/
def announcesBody (method : Text) : Bool :=
  ["POST", "PUT", "PATCH"].any fun m => m.toList = method

/-- The header that names the host, if the URL has one. -/
def hostHeader (url : Url) : List (Text × Text) := if url.host = [] then [] else [("Host", url.place)]

/-- The headers of a body, or of its absence. -/
def bodyHeaders : Option Text → List (Text × Text)
  | none => []
  | some body =>
    [("Content-Length", Numeral.ofNat (Utf8.encode body).length), ("Content-Type", mediaType)]

def emptyBodyHeader (method : Text) (body : Option Text) : List (Text × Text) :=
  if body.isNone && announcesBody method then [("Content-Length", "0")] else []

/-- What the client says of itself and asks for. -/
def clientHeaders (userAgent : Text) : List (Text × Text) :=
  [("user-agent", userAgent), ("accept", mediaType)]

/-- Refuses headers of which a value is not ASCII, as the zone of a host may be. -/
def checkHeaders (headers : List (Text × Text)) : Except RequestError Unit :=
  match headers.findSome? fun h => Ascii.fault? h.2 with
  | some fault => .error (.header fault)
  | none => .ok ()

/-- The request of a method, which is sent in upper case, to a URL; what the client says of itself is
checked first, and the host after the body. -/
def make (method : Text) (url : Url) (userAgent : Text) (json : Option Json) (timeout : Binary64) :
    Except RequestError Request := do
  checkHeaders (clientHeaders userAgent)
  let body ← match json with
    | none => .ok none
    | some v => match v.text? with
      | none => .error .body
      | some t => .ok (some t)
  checkHeaders (hostHeader url)
  let method := Text.upper method
  return {
    method, url
    headers := hostHeader url ++ emptyBodyHeader method body ++ clientHeaders userAgent ++ bodyHeaders body
    body := body.getD []
    timeouts := .all timeout }

end Request

end CodeAddress
