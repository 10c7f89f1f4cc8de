/-
Base64 over the alphabet that is safe in URLs, with padding. `encode` writes three bytes as four
letters and pads the last group to four places. `Spelling.decode` reads letters followed by at most two
pads; it refuses pads that are missing, stand first or exceed the group, and it accepts pads after
whole groups and any values of the bits that a last group leaves over. A text of other characters has
no spelling at all.
-/
import CodeAddress.Text.Basic

namespace CodeAddress.Base64Url

/-! ## Letters -/

/-- The letter of a number below sixty-four. -/
def letter (n : Nat) : Char :=
  if n < 26 then Char.ofNat (65 + n)
  else if n < 52 then Char.ofNat (71 + n)
  else if n < 62 then Char.ofNat (n - 4)
  else if n = 62 then '-'
  else '_'

def value? (c : Char) : Option Nat :=
  if 'A' ≤ c ∧ c ≤ 'Z' then some (c.toNat - 65)
  else if 'a' ≤ c ∧ c ≤ 'z' then some (c.toNat - 71)
  else if '0' ≤ c ∧ c ≤ '9' then some (c.toNat + 4)
  else if c = '-' then some 62
  else if c = '_' then some 63
  else none

/-! ## Writing -/

/-- The letters of a byte sequence, padded to a multiple of four. -/
def encode : List UInt8 → Text
  | [] => []
  | [a] => [letter (a.toNat / 4), letter (a.toNat % 4 * 16), '=', '=']
  | [a, b] =>
    [letter (a.toNat / 4), letter (a.toNat % 4 * 16 + b.toNat / 16), letter (b.toNat % 16 * 4), '=']
  | a :: b :: c :: r =>
    letter (a.toNat / 4) :: letter (a.toNat % 4 * 16 + b.toNat / 16)
      :: letter (b.toNat % 16 * 4 + c.toNat / 64) :: letter (c.toNat % 64) :: encode r

/-! ## Reading -/

/-- A text of the alphabet: the values of its letters and the number of pads after them. -/
structure Spelling where
  values : List Nat
  pads : Nat
deriving DecidableEq, Repr

/-- The values of the leading letters and the text after them. -/
def letters : Text → List Nat × Text
  | [] => ([], [])
  | c :: s =>
    match value? c with
    | some n => (n :: (letters s).1, (letters s).2)
    | none => ([], c :: s)

/-- The spelling of a text that is letters followed by at most two pads. -/
def spelling? (s : Text) : Option Spelling :=
  match letters s with
  | (values, []) => some ⟨values, 0⟩
  | (values, ['=']) => some ⟨values, 1⟩
  | (values, ['=', '=']) => some ⟨values, 2⟩
  | _ => none

/-- Why a spelling encodes no bytes. -/
inductive Fault where
  /-- The text begins with a pad. -/
  | leadingPad
  /-- One letter stands alone in the last group; the number of letters. -/
  | strayLetter (letters : Nat)
  /-- A pad stands after a full group. -/
  | excessPad
  /-- The last group lacks a pad. -/
  | missingPad
deriving DecidableEq, Repr

/-- The bytes of the letters, with the bits left over dropped. -/
def bytes : List Nat → List UInt8
  | a :: b :: c :: d :: r =>
    UInt8.ofNat (a * 4 + b / 16) :: UInt8.ofNat (b % 16 * 16 + c / 4) :: UInt8.ofNat (c % 4 * 64 + d)
      :: bytes r
  | [a, b, c] => [UInt8.ofNat (a * 4 + b / 16), UInt8.ofNat (b % 16 * 16 + c / 4)]
  | [a, b] => [UInt8.ofNat (a * 4 + b / 16)]
  | _ => []

def Spelling.decode (s : Spelling) : Except Fault (List UInt8) :=
  if s.values = [] ∧ s.pads ≠ 0 then .error .leadingPad
  else if s.values.length % 4 = 1 then .error (.strayLetter s.values.length)
  else if s.values.length % 4 = 3 ∧ s.pads = 2 then .error .excessPad
  else if s.values.length % 4 ≠ 0 ∧ s.values.length % 4 + s.pads < 4 then .error .missingPad
  else .ok (bytes s.values)

def Fault.message : Fault → String
  | .leadingPad => "Leading padding not allowed"
  | .strayLetter n =>
    s!"Invalid base64-encoded string: number of data characters ({n}) cannot be 1 more than a multiple of 4"
  | .excessPad => "Excess data after padding"
  | .missingPad => "Incorrect padding"

end CodeAddress.Base64Url
