/-
Reading a double-precision number from text: white space around it, a sign, then `inf`, `infinity` or
`nan` in any case, or digits with an optional point and exponent. Digits may be of any script and
may be grouped by single low lines.
-/
import CodeAddress.Real.Binary64

namespace CodeAddress.Binary64

/-- The exponent of a numeral: nothing, or the letter e with a signed row of digits. -/
def readExponent? : Text → Option Int
  | [] => some 0
  | c :: s =>
    let (negative, digits) := Numeral.unsigned s
    if c.toLower ≠ 'e' ∨ digits = [] ∨ ¬ digits.all Char.isDigit then none
    else some (if negative then -(Numeral.toNat digits : Int) else Numeral.toNat digits)

/-- The digits before the point, the digits after it and the text that follows. -/
def splitPoint (s : Text) : Text × Text × Text :=
  let whole := s.takeWhile Char.isDigit
  match s.dropWhile Char.isDigit with
  | '.' :: r => (whole, r.takeWhile Char.isDigit, r.dropWhile Char.isDigit)
  | r => (whole, [], r)

def readUnsigned? (negative : Bool) (s : Text) : Option Binary64 :=
  let word := Text.lower s
  if word = "inf".toList ∨ word = "infinity".toList then some (.infinite negative)
  else if word = "nan".toList then some .nan
  else do
    let (whole, fraction, rest) := splitPoint s
    if whole = [] ∧ fraction = [] then none
    else
      let e ← readExponent? rest
      return ofDecimal negative (Numeral.toNat (whole ++ fraction)) (e - fraction.length)

def read? (s : Text) : Option Binary64 := do
  let t ← Numeral.ungroup? false (Numeral.plain (Text.unspaced s))
  let (negative, digits) := Numeral.unsigned t
  readUnsigned? negative digits

end CodeAddress.Binary64
