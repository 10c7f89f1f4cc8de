/-
UTF-8 over byte lists. A lead byte announces how many bytes follow it and in which range the first
of them lies; `scan` reads a byte sequence into pieces, each a character or a maximal part that
starts no character. `decode` refuses the first bad part and says where it lies, `decodeLossy`
writes one replacement character for each.
-/
import CodeAddress.Text.Basic

namespace CodeAddress.Utf8

def encode (s : Text) : List UInt8 := s.flatMap String.utf8EncodeChar

/-! ## Lead bytes -/

/-- A character in the making: its bits so far, the number of bytes owed, the range of the next one,
and the number of bytes read. -/
structure Partial where
  bits : Nat
  owed : Nat
  low : Nat := 0x80
  high : Nat := 0xBF
  taken : Nat := 1
deriving DecidableEq, Repr

/-- What a byte of 0x80 or above announces as a lead byte, if it can be one. -/
def lead? (b : Nat) : Option Partial :=
  if b < 0xC2 then none
  else if b < 0xE0 then some { bits := b - 0xC0, owed := 1 }
  else if b = 0xE0 then some { bits := 0, owed := 2, low := 0xA0 }
  else if b = 0xED then some { bits := 0xD, owed := 2, high := 0x9F }
  else if b < 0xF0 then some { bits := b - 0xE0, owed := 2 }
  else if b = 0xF0 then some { bits := 0, owed := 3, low := 0x90 }
  else if b < 0xF4 then some { bits := b - 0xF0, owed := 3 }
  else if b = 0xF4 then some { bits := 4, owed := 3, high := 0x8F }
  else none

/-! ## Scanning -/

/-- Why a part of the bytes is no character. -/
inductive Flaw where
  /-- No character begins with this byte. -/
  | badLead
  /-- The next byte does not continue the character. -/
  | badFollower
  /-- The bytes end inside the character. -/
  | cutShort
deriving DecidableEq, Repr

/-- One piece of a byte sequence: a character, or a part of some length that is none. -/
inductive Piece where
  | char (c : Char)
  | bad (length : Nat) (why : Flaw)
deriving DecidableEq, Repr

/-- Reads `b` where a character may begin. -/
def start (b : UInt8) : List Piece × Option Partial :=
  if b.toNat < 0x80 then ([.char (Char.ofNat b.toNat)], none)
  else match lead? b.toNat with
    | none => ([.bad 1 .badLead], none)
    | some p => ([], some p)

/-- Reads `b` inside a character: it continues the character, or ends it as bad and is read afresh. -/
def follow (p : Partial) (b : UInt8) : List Piece × Option Partial :=
  if p.low ≤ b.toNat ∧ b.toNat ≤ p.high then
    let bits := p.bits * 64 + b.toNat % 64
    if p.owed = 1 then ([.char (Char.ofNat bits)], none)
    else ([], some { bits, owed := p.owed - 1, taken := p.taken + 1 })
  else
    let (pieces, next) := start b
    (.bad p.taken .badFollower :: pieces, next)

/-- The pieces of a byte sequence, from inside a character or between two. -/
def scan : Option Partial → List UInt8 → List Piece
  | none, [] => []
  | some p, [] => [.bad p.taken .cutShort]
  | none, b :: bs => (start b).1 ++ scan (start b).2 bs
  | some p, b :: bs => (follow p b).1 ++ scan (follow p b).2 bs

/-! ## Decoding -/

/-- The first bad part of a byte sequence: its first byte, where it begins, how long it is. -/
structure Fault where
  byte : UInt8
  position : Nat
  length : Nat
  why : Flaw
deriving DecidableEq, Repr

def Piece.size : Piece → Nat
  | .char c => c.utf8Size
  | .bad n _ => n

/-- The characters before the first bad piece, or where that piece begins. -/
def collect (position : Nat) : List Piece → Except (Nat × Nat × Flaw) Text
  | [] => .ok []
  | .char c :: ps => (collect (position + c.utf8Size) ps).map (c :: ·)
  | .bad n why :: _ => .error (position, n, why)

/-- The text of a byte sequence, if all of it is UTF-8. -/
def decode (bs : List UInt8) : Except Fault Text :=
  match collect 0 (scan none bs) with
  | .ok s => .ok s
  | .error (position, length, why) => .error { byte := bs.getD position 0, position, length, why }

/-- The text of a byte sequence with U+FFFD for each bad part. -/
def decodeLossy (bs : List UInt8) : Text :=
  (scan none bs).map fun
    | .char c => c
    | .bad _ _ => Char.ofNat 0xFFFD

/-! ## Wording -/

def Flaw.words : Flaw → String
  | .badLead => "invalid start byte"
  | .badFollower => "invalid continuation byte"
  | .cutShort => "unexpected end of data"

def hexPair (n : Nat) : String := String.ofList [Nat.digitChar (n / 16 % 16), Nat.digitChar (n % 16)]

/-- The fault in words: one byte is shown, a longer part is given by its first and last position. -/
def Fault.message (f : Fault) : String :=
  let span :=
    if f.length = 1 then s!"byte 0x{hexPair f.byte.toNat} in position {f.position}"
    else s!"bytes in position {f.position}-{f.position + f.length - 1}"
  s!"'utf-8' codec can't decode {span}: {f.why.words}"

end CodeAddress.Utf8
