/-
Numbers, days and times of TOML documents.
-/
import CodeAddress.Settings.Value
import CodeAddress.Text.Percent
import CodeAddress.Toml.Fault

namespace CodeAddress.Toml

/-! ## Digits -/

/-- The digits at the start of a text, which single low lines may group, and the text after them. -/
def groupedFrom (p : Char → Bool) : Text → Text × Text
  | '_' :: c :: s => if p c then (c :: (groupedFrom p s).1, (groupedFrom p s).2) else ([], '_' :: c :: s)
  | c :: s => if p c then (c :: (groupedFrom p s).1, (groupedFrom p s).2) else ([], c :: s)
  | [] => ([], [])

/-- One digit or more at the start of a text, and the text after them. -/
def digits? (p : Char → Bool) : Text → Option (Text × Text)
  | [] => none
  | c :: s => if p c then some (c :: (groupedFrom p s).1, (groupedFrom p s).2) else none

/-- The value of a row of digits in a base. -/
def valueIn (base : Nat) (ds : Text) : Nat :=
  ds.foldl (fun n c => base * n + (Percent.hexValue? c).getD 0) 0

/-- Whether the character is a digit of a base up to sixteen. -/
def isDigitIn (base : Nat) (c : Char) : Bool := (Percent.hexValue? c).any fun d => d < base

/-! ## Numbers -/

/-- The integer behind a mark for its base. -/
def based? : Text → Option (Int × Text)
  | '0' :: mark :: s =>
    let base := if mark = 'x' then 16 else if mark = 'o' then 8 else if mark = 'b' then 2 else 0
    (digits? (isDigitIn base) s).map fun p => ((valueIn base p.1 : Nat), p.2)
  | _ => none

/-- The digits before the point: a zero, or digits that do not begin with one. -/
def whole? : Text → Option (Text × Text)
  | '0' :: s => some (['0'], s)
  | s => digits? Char.isDigit s

/-- The digits after a point, if there are any, and the text after them. -/
def fraction : Text → Text × Text
  | '.' :: s => (digits? Char.isDigit s).getD ([], '.' :: s)
  | s => ([], s)

/-- The exponent, if there is one, and the text after it. -/
def exponent? : Text → Option (Int × Text)
  | [] => none
  | c :: s =>
    if c = 'e' ∨ c = 'E' then
      let (negative, s) := Numeral.unsigned s
      (digits? Char.isDigit s).map fun p =>
        (if negative then -(Numeral.toNat p.1 : Int) else Numeral.toNat p.1, p.2)
    else none

/-- A decimal number: real if it has a fraction or an exponent, else an integer. -/
def decimal? (s : Text) : Option (Read Value) := do
  let (negative, unsigned) := Numeral.unsigned s
  let (whole, rest) ← whole? unsigned
  let (fraction, rest) := fraction rest
  match exponent? rest with
  | some (e, rest) => return .ok (.real (real negative whole fraction e), rest)
  | none =>
    if fraction ≠ [] then return .ok (.real (real negative whole fraction 0), rest)
    else if Numeral.digitLimit < whole.length then return .error (.numeralTooLong whole.length)
    else return .ok (.integer (if negative then -(Numeral.toNat whole : Int) else Numeral.toNat whole), rest)
where
  /-- The number of the digits around a point. -/
  real (negative : Bool) (whole fraction : Text) (e : Int) : Binary64 :=
    .ofDecimal negative (Numeral.toNat (whole ++ fraction)) (e - fraction.length)

/-- An infinite number, or none at all, by its name. -/
def named? (s : Text) : Option (Value × Text) :=
  let (negative, unsigned) := Numeral.unsigned s
  match Text.after? ['i', 'n', 'f'] unsigned with
  | some rest => some (.real (.infinite negative), rest)
  | none => (Text.after? ['n', 'a', 'n'] unsigned).map fun rest => (.real .nan, rest)

/-! ## Days and times -/

/-- The number of `width` digits at the start of a text, if it lies between two others. -/
def fixed? (width low high : Nat) (s : Text) : Option (Nat × Text) :=
  let ds := s.take width
  if ds.length = width ∧ ds.all Char.isDigit ∧ low ≤ Numeral.toNat ds ∧ Numeral.toNat ds ≤ high then
    some (Numeral.toNat ds, s.drop width)
  else none

/-- The day at the start of a text. -/
def date? (s : Text) : Option (Date × Text) := do
  let (year, s) ← fixed? 4 0 9999 s
  let (month, s) ← fixed? 2 1 12 (← Text.after? ['-'] s)
  let (day, s) ← fixed? 2 1 31 (← Text.after? ['-'] s)
  return ({ year, month, day }, s)

/-- The microseconds of a fraction of a second, of which further digits do not count. -/
def micro : Text → Nat × Text
  | '.' :: s =>
    let ds := s.takeWhile Char.isDigit
    if ds = [] then (0, '.' :: s)
    else (Numeral.toNat ((ds ++ List.replicate 5 '0').take 6), s.dropWhile Char.isDigit)
  | s => (0, s)

/-- The time of day at the start of a text. -/
def clock? (s : Text) : Option (Clock × Text) := do
  let (hour, s) ← fixed? 2 0 23 s
  let (minute, s) ← fixed? 2 0 59 (← Text.after? [':'] s)
  let (second, s) ← fixed? 2 0 59 (← Text.after? [':'] s)
  let (micro, s) := micro s
  return ({ hour, minute, second, micro }, s)

/-- The offset from universal time at the start of a text, in minutes. -/
def offset? : Text → Option (Int × Text)
  | [] => none
  | sign :: s =>
    if sign = 'Z' ∨ sign = 'z' then some (0, s)
    else if sign = '+' ∨ sign = '-' then do
      let (hours, s) ← fixed? 2 0 23 s
      let (minutes, s) ← fixed? 2 0 59 (← Text.after? [':'] s)
      let n : Int := 60 * hours + minutes
      return (if sign = '-' then -n else n, s)
    else none

/-- The time of day behind the mark that parts it from its day. -/
def clockBehind? : Text → Option (Clock × Text)
  | [] => none
  | c :: s => if c = 'T' ∨ c = 't' ∨ c = ' ' then clock? s else none

/-- The day at the start of a text, with a time and an offset if they follow it. -/
def moment? (s : Text) : Option (Read Value) := do
  let (date, s) ← date? s
  if ¬ date.isValid then return .error .malformed
  match clockBehind? s with
  | none => return .ok (.date date, s)
  | some (clock, s) =>
    match offset? s with
    | none => return .ok (.moment { date, clock }, s)
    | some (minutes, s) => return .ok (.moment { date, clock, offset := some minutes }, s)

/-! ## Scalars -/

/-- The boolean at the start of a text. -/
def boolean? (s : Text) : Option (Value × Text) :=
  match Text.after? ['t', 'r', 'u', 'e'] s with
  | some rest => some (.boolean true, rest)
  | none => (Text.after? ['f', 'a', 'l', 's', 'e'] s).map fun rest => (.boolean false, rest)

/-- The boolean, day, time or number at the start of a text. -/
def scalar (s : Text) : Read Value :=
  let found := (boolean? s).map .ok
    <|> moment? s
    <|> (clock? s).map (fun p => .ok (.clock p.1, p.2))
    <|> (based? s).map (fun p => .ok (.integer p.1, p.2))
    <|> decimal? s
    <|> (named? s).map .ok
  found.getD (.error .malformed)

end CodeAddress.Toml
