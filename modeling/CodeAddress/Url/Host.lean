/-
Hosts of URLs. A host is an address in dotted-quad form, an address of eight groups in brackets, or
a name; `Host.read` checks the two address forms, lower-cases and quotes a name in ASCII and hands any
other name to an encoder (`Idna`). A host that is held in a URL has no brackets, so it is an address of
groups exactly if it holds a colon.
-/
import CodeAddress.Text.Numeral
import CodeAddress.Text.Percent
import CodeAddress.Url.Error

namespace CodeAddress

/-! ## Names beyond ASCII -/

/-- The encoder of internationalised host names: what `idna.encode` makes of the name in lower case, none where it
raises `IDNAError`. The `idna` package is no part of this library, so its encoder is a parameter of all that reads a
URL. -/
structure Idna where
  encode? : Text → Option Text

/-- Whether a character may stand in an encoded name: lower-case letters, digits and hyphens make up its labels, and
points stand between them. -/
def Idna.isNameChar (c : Char) : Bool := c.isLower || c.isDigit || c == '-' || c == '.'

/-- What is assumed of the encoder where an encoded name is read again. `idna.encode` gives A-labels and labels that
were in ASCII already, after it has checked each of their code points. -/
structure Idna.Lawful (idna : Idna) : Prop where
  isNameChar : ∀ {name encoded}, idna.encode? name = some encoded → ∀ c ∈ encoded, isNameChar c = true

namespace Host

/-! ## Dotted quads -/

/-- Whether the text is a number from 0 to 255 without leading zeros. -/
def isOctet (s : Text) : Bool :=
  s ≠ [] && s.length ≤ 3 && s.all Char.isDigit && (s = ['0'] || s.head? ≠ some '0') &&
    Numeral.toNat s ≤ 255

/-- Whether the text is four octets parted by dots. -/
def isQuad (s : Text) : Bool :=
  let octets := Text.pieces '.' s
  octets.length = 4 && octets.all isOctet

/-- Whether the text is four runs of digits parted by dots; such a text is meant as an address, so it is
no name even if the numbers are too great. Nothing but a dot parts them: httpx 0.28.1 takes `12345678`,
`192.168.1`, `127a0a0a1` and `10-20-30-40` for names, and refuses `1.2.3.1000` and `01.2.3.4`. -/
def looksLikeQuad (s : Text) : Bool :=
  let runs := Text.pieces '.' s
  runs.length = 4 && runs.all fun run => run ≠ [] && run.all Char.isDigit

/-! ## Addresses of eight groups -/

/-- Whether the text is one to four hexadecimal digits. -/
def isGroup (s : Text) : Bool :=
  s ≠ [] && s.length ≤ 4 && s.all fun c => (Percent.hexValue? c).isSome

/-- How many groups a row stands for, if each is well formed; a dotted quad that ends the address
stands for two. -/
def width? (final : Bool) : List Text → Option Nat
  | [] => some 0
  | [g] => if isGroup g then some 1 else if final && isQuad g then some 2 else none
  | g :: gs => if isGroup g then (width? final gs).map (· + 1) else none

/-- The groups on one side of a gap. -/
def side (s : Text) : List Text := if s = [] then [] else Text.pieces ':' s

/-- Whether the text is eight groups, or fewer with one gap for all that are left out. -/
def isGroups (s : Text) : Bool :=
  match Text.cut? [':', ':'] s with
  | none => width? true (Text.pieces ':' s) == some 8
  | some (before, after) =>
    match width? false (side before), width? true (side after) with
    | some m, some n => m + n ≤ 7
    | _, _ => false

/-- Whether the text is an address of eight groups, with a zone behind a percent sign or without. -/
def isZonedGroups (s : Text) : Bool :=
  match Text.cut? ['%'] s with
  | none => isGroups s
  | some (address, zone) => isGroups address && zone ≠ [] && '%' ∉ zone

/-! ## Reading and writing -/

/-- The characters of a name that are not quoted. -/
def safe (c : Char) : Bool := Percent.unreserved c || "!$&'()*+,;=\"`\x7b\x7d%|\\".toList.contains c

/-- The host within brackets, if the text is one. -/
def bracketed? : Text → Option Text
  | '[' :: s => if s.getLast? = some ']' then some s.dropLast else none
  | _ => none

/-- The host of a text. Only a name beyond ASCII depends on the encoder. -/
def read (idna : Idna) (s : Text) : Except UrlError Text :=
  if s = [] then .ok []
  else if looksLikeQuad s then if isQuad s then .ok s else .error (.badQuad s)
  else match bracketed? s with
    | some inner => if isZonedGroups inner then .ok inner else .error (.badGroups s)
    | none =>
      if s.all Text.isAscii then .ok (Percent.quote safe (Text.lower s))
      else match idna.encode? s with
        | some name => .ok name
        | none => .error (.badName s)

/-- The text of a host, in brackets if it is an address of groups. -/
def text (host : Text) : Text := if ':' ∈ host then '[' :: host ++ [']'] else host

end Host

end CodeAddress
