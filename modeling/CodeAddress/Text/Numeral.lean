/-
Decimal numerals. `ofNat` and `ofInt` write them; `toNat` gives the value of a row of ASCII digits.
Numerals that people type may use the digits of any script and single low lines between digits:
`plain` writes the digits in ASCII and `ungroup?` takes the low lines out, or refuses one that does
not stand between two digits. A numeral of more than `digitLimit` digits is neither read nor
written.
-/
import CodeAddress.Text.Blank
import CodeAddress.Text.DecimalDigit

namespace CodeAddress.Numeral

/-! ## Writing -/

def digit (n : Nat) : Char := Char.ofNat (48 + n)

/-- The digits of a number, without leading zeros. -/
def ofNat (n : Nat) : Text := if n < 10 then [digit n] else ofNat (n / 10) ++ [digit (n % 10)]

/-- The digits of an integer, behind a minus sign if it is negative. -/
def ofInt : Int → Text
  | .ofNat n => ofNat n
  | .negSucc n => '-' :: ofNat (n + 1)

/-! ## Reading -/

/-- The value of a row of ASCII digits. -/
def toNat (s : Text) : Nat := s.foldl (fun n c => 10 * n + (c.toNat - 48)) 0

/-- The most digits a numeral may have, leading zeros counted, to be read as an integer or written. -/
def digitLimit : Nat := 4300

/-- Whether an integer has few enough digits to be written. -/
def isWritable (n : Int) : Bool := (ofNat n.natAbs).length ≤ digitLimit

/-- The text with each decimal digit written in ASCII. -/
def plain (s : Text) : Text :=
  s.map fun c => match Text.decimalDigit? c with
    | some d => digit d
    | none => c

/-- The text without its low lines, if each stands between two digits; `after` tells whether a digit
stands before the text. -/
def ungroup? (after : Bool) : Text → Option Text
  | [] => some []
  | '_' :: c :: s => if after && c.isDigit then ungroup? false (c :: s) else none
  | ['_'] => none
  | c :: s => (ungroup? c.isDigit s).map (c :: ·)

/-- A text without its sign, and whether the sign is a minus. -/
def unsigned : Text → Bool × Text
  | '-' :: s => (true, s)
  | '+' :: s => (false, s)
  | s => (false, s)

/-- The integer of a numeral with white space around it, a sign, and low lines between its digits. -/
def readInt? (s : Text) : Option Int := do
  let t ← ungroup? false (plain (Text.unspaced s))
  let (negative, digits) := unsigned t
  if digits = [] ∨ ¬ digits.all Char.isDigit ∨ digitLimit < digits.length then none
  else some (if negative then -(toNat digits : Int) else toNat digits)

/-- What is said of an integer whose numeral would have too many digits. -/
def tooLongToWriteMessage : String :=
  s!"Exceeds the limit ({digitLimit} digits) for integer string conversion; " ++
    "use sys.set_int_max_str_digits() to increase the limit"

/-- What is said of a numeral with too many digits. -/
def tooLongMessage (digits : Nat) : String :=
  s!"Exceeds the limit ({digitLimit} digits) for integer string conversion: value has {digits} digits; " ++
    "use sys.set_int_max_str_digits() to increase the limit"

end CodeAddress.Numeral
