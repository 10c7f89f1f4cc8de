/-
Percent escapes. `quote` writes a text over an alphabet of safe characters, with each other
character as the escapes of its UTF-8 bytes; where the percent sign is safe, escapes that are already
there stay. `unquote` reads escapes back: each run of ASCII characters is unescaped to bytes and read
as UTF-8 on its own, and a `%` that begins no escape stands for itself.
-/
import CodeAddress.Text.Utf8

namespace CodeAddress.Percent

/-! ## Escapes -/

/-- The upper-case hexadecimal digit of a number below sixteen. -/
def hexDigit (n : Nat) : Char := if n < 10 then Char.ofNat (48 + n) else Char.ofNat (55 + n)

/-- The value of a hexadecimal digit of either case. -/
def hexValue? (c : Char) : Option Nat :=
  if '0' ≤ c ∧ c ≤ '9' then some (c.toNat - 48)
  else if 'A' ≤ c ∧ c ≤ 'F' then some (c.toNat - 55)
  else if 'a' ≤ c ∧ c ≤ 'f' then some (c.toNat - 87)
  else none

/-- The escape of a byte: a percent sign and two upper-case digits. -/
def escape (b : UInt8) : Text := ['%', hexDigit (b.toNat / 16), hexDigit (b.toNat % 16)]

def byte? (hi lo : Char) : Option UInt8 := do
  let h ← hexValue? hi
  let l ← hexValue? lo
  return UInt8.ofNat (16 * h + l)

/-! ## Writing -/

/-- Letters, digits and the four marks that no part of a URL gives a meaning to. -/
def unreserved (c : Char) : Bool := c.isAlphanum || c == '_' || c == '.' || c == '-' || c == '~'

/-- A character as itself if it is safe, else as the escapes of its bytes. -/
def quoteChar (safe : Char → Bool) (c : Char) : Text :=
  if safe c then [c] else (Utf8.encode [c]).flatMap escape

/-- The text over the safe characters. -/
def quote (safe : Char → Bool) (s : Text) : Text := s.flatMap (quoteChar safe)

/-! ## Reading -/

/-- Reads the text with the bytes of the present ASCII run, latest first, in `run`. -/
def unquoteFrom (run : List UInt8) : Text → Text
  | [] => Utf8.decodeLossy run.reverse
  | '%' :: hi :: lo :: s =>
    match byte? hi lo with
    | some b => unquoteFrom (b :: run) s
    | none => unquoteFrom (37 :: run) (hi :: lo :: s)
  | c :: s =>
    if Text.isAscii c then unquoteFrom (UInt8.ofNat c.toNat :: run) s
    else Utf8.decodeLossy run.reverse ++ c :: unquoteFrom [] s

def unquote (s : Text) : Text := unquoteFrom [] s

end CodeAddress.Percent
