/-
The text of a double-precision number: the fewest significant digits that read back to it and, among
those, the nearest. `readsBack` is the test, by exact comparison with the two ends of the interval
of numbers that round to it; `shortest?` tries the two neighbours of the value on the grid of one,
two, … seventeen digits; `layout` places the point.
-/
import CodeAddress.Real.Binary64

namespace CodeAddress.Binary64

/-! ## Digits -/

/-- A decimal, `digits * 10 ^ exponent`. -/
structure Decimal where
  digits : Nat
  exponent : Int
deriving DecidableEq, Repr

/-- Compares `a * 10 ^ i` with `n * 2 ^ j`. -/
def compareScaled (a : Nat) (i : Int) (n : Nat) (j : Int) : Ordering :=
  compare (a * Nat.pow 10 i.toNat * Nat.pow 2 (-j).toNat) (n * Nat.pow 2 j.toNat * Nat.pow 10 (-i).toNat)

/-- Whether the decimal rounds to `m * 2 ^ q`: it lies between the halfway points to the neighbours,
which belong to the even mantissa. Below a power of two the lower neighbour is half as far away. -/
def readsBack (m : Nat) (q : Int) (d : Decimal) : Bool :=
  let low := if m = Nat.pow 2 52 ∧ leastExponent < q then 4 * m - 1 else 4 * m - 2
  let overLow := compareScaled d.digits d.exponent low (q - 2)
  let underHigh := compareScaled d.digits d.exponent (4 * m + 2) (q - 2)
  (overLow == .gt || (overLow == .eq && m % 2 == 0)) &&
    (underHigh == .lt || (underHigh == .eq && m % 2 == 0))

/-- The least `k` with `m * 2 ^ q < 10 ^ k`, for a positive `m`: an estimate from the binary order,
then the first of the next few exponents that exceeds the value. -/
def decimalOrder (m : Nat) (q : Int) : Int :=
  let estimate := ((m.log2 : Int) + q) * 30103 / 100000 - 1
  let exceeds (k : Nat) : Bool := compareScaled 1 (estimate + k) m q == .gt
  estimate + ((List.range 5).find? exceeds).getD 5

/-- The nearest of the decimals on the grid `10 ^ e` that read back, if one does; of two equally near,
the one with an even last digit. -/
def onGrid? (m : Nat) (q e : Int) : Option Decimal :=
  let below := (m * Nat.pow 2 q.toNat * Nat.pow 10 (-e).toNat) / (Nat.pow 2 (-q).toNat * Nat.pow 10 e.toNat)
  match readsBack m q ⟨below, e⟩, readsBack m q ⟨below + 1, e⟩ with
  | false, false => none
  | true, false => some ⟨below, e⟩
  | false, true => some ⟨below + 1, e⟩
  | true, true => match compareScaled (2 * below + 1) e (2 * m) q with
    | .gt => some ⟨below, e⟩
    | .lt => some ⟨below + 1, e⟩
    | .eq => some (if below % 2 = 0 then ⟨below, e⟩ else ⟨below + 1, e⟩)

def exact (m : Nat) (q : Int) : Decimal :=
  if 0 ≤ q then ⟨m * Nat.pow 2 q.toNat, 0⟩ else ⟨m * Nat.pow 5 (-q).toNat, q⟩

/-- The decimal with the fewest digits that reads back, for a positive `m`. Seventeen digits are
enough for every number of the format. -/
def shortest (m : Nat) (q : Int) : Decimal :=
  let k := decimalOrder m q
  ((List.range 17).findSome? fun n : Nat => onGrid? m q (k - (n + 1 : Int))).getD (exact m q)

/-! ## Layout -/

/-- How a number is laid out: the decimal orders that are written with a point in place, and the least
number of digits of the exponent in all other cases. -/
structure Layout where
  plainFrom : Int
  plainBelow : Int
  exponentWidth : Nat
deriving DecidableEq, Repr

/-- Numbers from 10^-4 to below 10^16 have a point in place and always a digit on either side of it;
the others have a signed exponent of at least two digits. -/
def layout : Layout where
  plainFrom := -4
  plainBelow := 16
  exponentWidth := 2

/-- The digits of a row without the zeros at its end. -/
def significant (ds : Text) : Text := (ds.reverse.dropWhile (· = '0')).reverse

/-- The row of digits with the point after `before` of them, filled up with zeros on either side. -/
def pointed (ds : Text) (before : Int) : Text :=
  if before ≤ 0 then '0' :: '.' :: List.replicate (-before).toNat '0' ++ ds
  else
    let whole := ds.take before.toNat
    let fraction := ds.drop before.toNat
    whole ++ List.replicate (before.toNat - whole.length) '0' ++ '.' ::
      (if fraction = [] then ['0'] else fraction)

/-- The row of digits with the point after the first and an exponent. -/
def scientific (l : Layout) (ds : Text) (order : Int) : Text :=
  let power := Numeral.ofNat order.natAbs
  ds.take 1 ++ (if ds.length ≤ 1 then [] else '.' :: ds.drop 1) ++ 'e' :: (if order < 0 then '-' else '+') ::
    (List.replicate (l.exponentWidth - power.length) '0' ++ power)

def Decimal.text (l : Layout) (d : Decimal) : Text :=
  let row := Numeral.ofNat d.digits
  let order := d.exponent + row.length - 1
  if l.plainFrom ≤ order ∧ order < l.plainBelow then pointed (significant row) (order + 1)
  else scientific l (significant row) order

def text : Binary64 → Text
  | .nan => "nan"
  | .infinite negative => sign negative "inf"
  | .finite negative m q => sign negative (if m = 0 then "0.0" else (shortest m q).text layout)
where
  /-- The text behind a minus sign, for a negative number. -/
  sign (negative : Bool) (s : Text) : Text := if negative then '-' :: s else s

end CodeAddress.Binary64
