/-
Dates and times of day as settings documents give them, with two texts for each: the plain one, year
first and parted by signs, and the one that shows how the value is built.
-/
import CodeAddress.Text.Numeral

namespace CodeAddress

structure Date where
  year : Nat
  month : Nat
  day : Nat
deriving DecidableEq, Repr

/-- A time of day, to the microsecond. -/
structure Clock where
  hour : Nat
  minute : Nat
  second : Nat
  micro : Nat := 0
deriving DecidableEq, Repr

/-- A time on a day, with the minutes that local time runs ahead of universal time if that is given. -/
structure Moment where
  date : Date
  clock : Clock
  offset : Option Int := none
deriving DecidableEq, Repr

namespace Date

def isLeap (year : Nat) : Bool := year % 4 = 0 && (year % 100 ≠ 0 || year % 400 = 0)

def daysIn (year month : Nat) : Nat :=
  if month = 2 then if isLeap year then 29 else 28
  else if month = 4 ∨ month = 6 ∨ month = 9 ∨ month = 11 then 30
  else 31

/-- Whether the calendar has the day; its years count from 1. -/
def isValid (d : Date) : Bool :=
  1 ≤ d.year && 1 ≤ d.month && d.month ≤ 12 && 1 ≤ d.day && d.day ≤ daysIn d.year d.month

end Date

/-! ## Plain texts -/

/-- A number with zeros before it, up to a width. -/
def Numeral.padded (width n : Nat) : Text :=
  List.replicate (width - (Numeral.ofNat n).length) '0' ++ Numeral.ofNat n

def Date.text (d : Date) : Text :=
  Numeral.padded 4 d.year ++ '-' :: Numeral.padded 2 d.month ++ '-' :: Numeral.padded 2 d.day

/-- Hour, minute and second, and the microseconds if there are any. -/
def Clock.text (t : Clock) : Text :=
  Numeral.padded 2 t.hour ++ ':' :: Numeral.padded 2 t.minute ++ ':' :: Numeral.padded 2 t.second ++
    if t.micro = 0 then [] else '.' :: Numeral.padded 6 t.micro

/-- An offset in hours and minutes. -/
def Moment.offsetText (minutes : Int) : Text :=
  (if minutes < 0 then '-' else '+') :: Numeral.padded 2 (minutes.natAbs / 60) ++
    ':' :: Numeral.padded 2 (minutes.natAbs % 60)

def Moment.text (m : Moment) : Text :=
  m.date.text ++ ' ' :: m.clock.text ++
    match m.offset with
    | none => []
    | some minutes => offsetText minutes

/-! ## Built-up texts -/

/-- A name with arguments in parentheses. -/
def Text.call (name : String) (arguments : List Text) : Text :=
  name.toList ++ '(' :: List.intercalate [',', ' '] arguments ++ [')']

def Date.numbers (d : Date) : List Text := [d.year, d.month, d.day].map Numeral.ofNat

/-- The numbers of a time; seconds and microseconds that are zero are left out from the end. -/
def Clock.numbers (t : Clock) : List Text :=
  ([t.hour, t.minute] ++
    if t.micro ≠ 0 then [t.second, t.micro] else if t.second ≠ 0 then [t.second] else []).map Numeral.ofNat

def Date.shown (d : Date) : Text := Text.call "datetime.date" d.numbers

def Clock.shown (t : Clock) : Text := Text.call "datetime.time" t.numbers

/-- An offset as it is built: whole days back, and then seconds ahead. -/
def Moment.shownOffset (minutes : Int) : Text :=
  if minutes = 0 then "datetime.timezone.utc".toList
  else
    let seconds := "seconds=".toList ++ Numeral.ofInt ((minutes * 60).emod 86400)
    let parts := if minutes < 0 then ["days=-1".toList, seconds] else [seconds]
    Text.call "datetime.timezone" [Text.call "datetime.timedelta" parts]

def Moment.shown (m : Moment) : Text :=
  Text.call "datetime.datetime" (m.date.numbers ++ m.clock.numbers ++
    match m.offset with
    | none => []
    | some minutes => ["tzinfo=".toList ++ shownOffset minutes])

end CodeAddress
