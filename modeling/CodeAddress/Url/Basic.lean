/-
URLs in normal form. `Parts.ofText` cuts a text at the marks of a URL, `Url.ofParts` checks the parts
and brings each into its normal form, and `Url.text` writes the URL. In normal form the scheme and a
host name are lower-case, the port of a well-known scheme is left out, an absolute path has no dot
segments, and characters that do not belong into a part are escaped. A host name beyond ASCII is in normal
form as its encoder gives it (`Idna`).
-/
import CodeAddress.Url.Host

namespace CodeAddress

/-- A URL in normal form. -/
structure Url where
  scheme : Text := []
  userinfo : Text := []
  host : Text := []
  port : Option Int := none
  path : Text := []
  query : Option Text := none
  fragment : Option Text := none
deriving DecidableEq, Repr

namespace Url

/-- The most characters of a text that is read as a URL, and of each part of a URL. -/
def lengthLimit : Nat := 65536

/-! ## Parts -/

/-- The parts of a URL as they are written; an empty port is none. -/
structure Parts where
  scheme : Text := []
  userinfo : Text := []
  host : Text := []
  port : Text := []
  path : Text := []
  query : Option Text := none
  fragment : Option Text := none
deriving DecidableEq, Repr

/-- Whether a text is a scheme: nothing, or a letter and then letters, digits and three marks. -/
def isScheme : Text → Bool
  | [] => true
  | c :: s => c.isAlpha && s.all fun d => d.isAlphanum || d == '+' || d == '.' || d == '-'

/-- The scheme before the first colon, and the text after it. -/
def cutScheme (s : Text) : Text × Text :=
  match Text.cut? [':'] s with
  | some (scheme, rest) => if isScheme scheme then (scheme, rest) else ([], s)
  | none => ([], s)

/-- The text before the first mark and, if there is a mark, the text after it. -/
def cutMark (mark : Char) (s : Text) : Text × Option Text :=
  match Text.cut? [mark] s with
  | some (before, after) => (before, some after)
  | none => (s, none)

/-- The text before the last of a character and the text after it; all of it comes after if there is
none. -/
def cutLast (mark : Char) (s : Text) : Text × Text :=
  match Text.cut? [mark] s.reverse with
  | some (after, before) => (before.reverse, after.reverse)
  | none => ([], s)

/-- The host at the start of an authority, and the text after it: up to the last bracket if it begins
with one, else up to the first colon. -/
def cutHost (s : Text) : Text × Text :=
  if s.head? = some '[' ∧ ']' ∈ s then
    let (inner, rest) := cutLast ']' s
    (inner ++ [']'], rest)
  else (s.takeWhile (· ≠ ':'), s.dropWhile (· ≠ ':'))

def Parts.withAuthority (p : Parts) (authority : Text) : Parts :=
  let (userinfo, place) := cutLast '@' authority
  let (host, rest) := cutHost place
  { p with userinfo, host, port := (Text.after? [':'] rest).getD rest }

def Parts.ofText (s : Text) : Parts :=
  let (scheme, s) := cutScheme s
  let (s, fragment) := cutMark '#' s
  let (s, query) := cutMark '?' s
  match Text.after? ['/', '/'] s with
  | none => { scheme, path := s, query, fragment }
  | some s =>
    Parts.withAuthority { scheme, path := s.dropWhile (· ≠ '/'), query, fragment } (s.takeWhile (· ≠ '/'))

/-! ## Normal forms -/

/-- The printable ASCII characters but the blank. -/
def visible (c : Char) : Bool := '!' ≤ c && c ≤ '~'

/-- The characters of a query that are not quoted. -/
def safeInQuery (c : Char) : Bool := visible c && !"\"#<>".toList.contains c

/-- The characters of a path that are not quoted. -/
def safeInPath (c : Char) : Bool := safeInQuery c && !"?`\x7b\x7d".toList.contains c

/-- The characters of a fragment that are not quoted. -/
def safeInFragment (c : Char) : Bool := visible c && !"\"<>`".toList.contains c

/-- The characters of a userinfo that are not quoted. -/
def safeInUserinfo (c : Char) : Bool := safeInPath c && !"/;=@[\\]^|".toList.contains c

/-- The port that goes without saying for a scheme. -/
def defaultPort? (scheme : Text) : Option Int :=
  if scheme = "ftp".toList then some 21
  else if scheme = "http".toList ∨ scheme = "ws".toList then some 80
  else if scheme = "https".toList ∨ scheme = "wss".toList then some 443
  else none

/-- The port of a text, none for the default port of the scheme as it is written. -/
def readPort (scheme port : Text) : Except UrlError (Option Int) :=
  if port = [] then .ok none
  else match Numeral.readInt? port with
    | none => .error (.badPort port)
    | some n => .ok (if defaultPort? scheme = some n then none else some n)

/-- The path segments without dot segments, of which two dots take back the segment before them unless
that is the root; `kept` holds the segments so far, latest first. -/
def dropDots (kept : List Text) : List Text → List Text
  | [] => kept.reverse
  | ['.'] :: segs => dropDots kept segs
  | ['.', '.'] :: segs => dropDots (if kept = [[]] then kept else kept.drop 1) segs
  | seg :: segs => dropDots (seg :: kept) segs

def straighten (path : Text) : Text := Text.joined '/' (dropDots [] (Text.pieces '/' path))

/-- Whether the URL names a place: userinfo, host or port. -/
def hasAuthority (u : Url) : Bool := u.userinfo ≠ [] || u.host ≠ [] || u.port.isSome

/-- Whether the URL says where its path begins. -/
def isAbsolute (u : Url) : Bool := u.scheme ≠ [] || u.hasAuthority

/-- Refuses a path that would read as another part of the URL. -/
def checkPath (u : Url) (path : Text) : Except UrlError Unit :=
  if u.hasAuthority then
    if path = [] ∨ Text.beginsWith ['/'] path then .ok () else .error .unrootedPath
  else if u.isAbsolute then .ok ()
  else if Text.beginsWith ['/', '/'] path then .error .pathLikeAuthority
  else if Text.beginsWith [':'] path then .error .pathLikeScheme
  else .ok ()

def ofParts (idna : Idna) (p : Parts) : Except UrlError Url := do
  let host ← Host.read idna p.host
  let port ← readPort p.scheme p.port
  let u : Url :=
    { scheme := Text.lower p.scheme
      userinfo := Percent.quote safeInUserinfo p.userinfo
      host, port
      query := p.query.map (Percent.quote safeInQuery)
      fragment := p.fragment.map (Percent.quote safeInFragment) }
  u.checkPath p.path
  return { u with path := Percent.quote safeInPath (if u.isAbsolute then straighten p.path else p.path) }

/-! ## Reading -/

/-- The first ASCII control character and its position. -/
def control? (s : Text) : Option (Char × Nat) :=
  (s.zipIdx.find? fun p => p.1.toNat < 0x20 || p.1.toNat == 0x7F)

def ofText (idna : Idna) (s : Text) : Except UrlError Url :=
  if lengthLimit < s.length then .error .tooLong
  else match control? s with
    | some (c, position) => .error (.control c position)
    | none => ofParts idna (Parts.ofText s)

/-! ## Writing -/

def place (u : Url) : Text :=
  Host.text u.host ++ match u.port with
    | none => []
    | some n => ':' :: Numeral.ofInt n

def authority (u : Url) : Text := (if u.userinfo = [] then [] else u.userinfo ++ ['@']) ++ u.place

def queryText (u : Url) : Text :=
  match u.query with
  | none => []
  | some q => '?' :: q

def text (u : Url) : Text :=
  (if u.scheme = [] then [] else u.scheme ++ [':']) ++
    (if u.authority = [] then [] else '/' :: '/' :: u.authority) ++ u.path ++ u.queryText ++
    match u.fragment with
    | none => []
    | some f => '#' :: f

/-- What a request asks the host for: the path, at least a slash, and the query. -/
def target (u : Url) : Text := (if u.path = [] then ['/'] else u.path) ++ u.queryText

/-! ## Changing a part -/

/-- The parts that a URL is written with. -/
def parts (u : Url) : Parts where
  scheme := u.scheme
  userinfo := u.userinfo
  host := Host.text u.host
  port := (u.port.map Numeral.ofInt).getD []
  path := u.path
  query := u.query
  fragment := u.fragment

/-- The first part that exceeds the length limit. -/
def longPart? (u : Url) : Option String :=
  ([("scheme", u.scheme), ("authority", u.authority), ("path", u.path), ("query", u.query.getD []),
    ("fragment", u.fragment.getD [])].find? fun p => lengthLimit < p.2.length).map Prod.fst

/-- The URL with another query, brought into normal form afresh. -/
def withQuery (idna : Idna) (u : Url) (query : Text) : Except UrlError Url :=
  let v : Url := { u with query := some query }
  match v.longPart? with
  | some part => .error (.partTooLong part)
  | none => ofParts idna v.parts

end Url

end CodeAddress
