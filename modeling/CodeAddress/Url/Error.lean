/-
Why a text is no URL, or the parts of one do not make a URL.
-/
import CodeAddress.Text.Quoted

namespace CodeAddress

inductive UrlError where
  | tooLong
  /-- A part exceeds the length limit once it is quoted. -/
  | partTooLong (part : String)
  /-- The first of the ASCII control characters, and where it stands. -/
  | control (c : Char) (position : Nat)
  /-- The host looks like a dotted quad and is none. -/
  | badQuad (host : Text)
  /-- The host in brackets is no address of eight groups. -/
  | badGroups (host : Text)
  /-- The host holds a character beyond ASCII, and the encoder of such names refuses it. -/
  | badName (host : Text)
  | badPort (port : Text)
  /-- The path after an authority lacks its leading slash. -/
  | unrootedPath
  /-- The path begins with the slashes that would announce an authority. -/
  | pathLikeAuthority
  /-- The path begins with the colon that would end a scheme. -/
  | pathLikeScheme
deriving DecidableEq, Repr

def UrlError.message : UrlError → String
  | tooLong => "URL too long"
  | partTooLong part => s!"URL component '{part}' too long"
  | control c position =>
    s!"Invalid non-printable ASCII character in URL, {Text.shown [c]} at position {position}."
  | badQuad host => s!"Invalid IPv4 address: {Text.shown host}"
  | badGroups host => s!"Invalid IPv6 address: {Text.shown host}"
  | badName host => s!"Invalid IDNA hostname: {Text.shown host}"
  | badPort port => s!"Invalid port: {Text.shown port}"
  | unrootedPath => "For absolute URLs, path must be empty or begin with '/'"
  | pathLikeAuthority => "Relative URLs cannot have a path starting with '//'"
  | pathLikeScheme => "Relative URLs cannot have a path starting with ':'"

end CodeAddress
