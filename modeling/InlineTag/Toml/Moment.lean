/-!
# InlineTag.Toml.Moment

Dates and times: a date, a time of day, both, or both with an offset from Coordinated Universal
Time. The written form is that of RFC 3339, with as many digits of a fraction of a second as are
needed.
-/

namespace InlineTag
namespace Toml

structure Date where
  year : Nat
  month : Nat
  day : Nat
  deriving DecidableEq, Repr, Inhabited

/-- A time of day; a second 60 is a leap second. -/
structure TimeOfDay where
  hour : Nat
  minute : Nat
  second : Nat
  nanosecond : Nat
  deriving DecidableEq, Repr, Inhabited

inductive Offset where
  | utc
  | minutes (east : Int)
  deriving DecidableEq, Repr, Inhabited

inductive Moment where
  | date (day : Date)
  | time (clock : TimeOfDay)
  | zoneless (day : Date) (clock : TimeOfDay)
  | fixed (day : Date) (clock : TimeOfDay) (offset : Offset)
  deriving DecidableEq, Repr, Inhabited

/-- The days of a month; February has one more in a leap year. -/
def daysIn (year month : Nat) : Nat :=
  if month = 2 then
    if year % 4 = 0 ∧ (year % 100 ≠ 0 ∨ year % 400 = 0) then 29 else 28
  else if month = 4 ∨ month = 6 ∨ month = 9 ∨ month = 11 then 30
  else 31

def Date.valid (day : Date) : Bool :=
  1 ≤ day.month && day.month ≤ 12 && 1 ≤ day.day && day.day ≤ daysIn day.year day.month

def TimeOfDay.valid (clock : TimeOfDay) : Bool :=
  clock.hour ≤ 23 && clock.minute ≤ 59 && clock.second ≤ 60

/-! ## Written form -/

/-- The decimal digits of a number, filled with zeros to a width. -/
def padded (width n : Nat) : List Char :=
  let digits := Nat.toDigits 10 n
  List.replicate (width - digits.length) '0' ++ digits

def Date.text (day : Date) : List Char :=
  padded 4 day.year ++ '-' :: padded 2 day.month ++ '-' :: padded 2 day.day

/-- A fraction of a second: its nine digits without the zeros at the end. -/
def fractionText (nanosecond : Nat) : List Char :=
  if nanosecond = 0 then []
  else '.' :: ((padded 9 nanosecond).reverse.dropWhile (· == '0')).reverse

def TimeOfDay.text (clock : TimeOfDay) : List Char :=
  padded 2 clock.hour ++ ':' :: padded 2 clock.minute ++ ':' :: padded 2 clock.second ++
    fractionText clock.nanosecond

def Offset.text : Offset → List Char
  | .utc => ['Z']
  | .minutes east =>
    (if east < 0 then '-' else '+') ::
      (padded 2 (east.natAbs / 60) ++ ':' :: padded 2 (east.natAbs % 60))

def Moment.text : Moment → String
  | .date day => String.ofList day.text
  | .time clock => String.ofList clock.text
  | .zoneless day clock => String.ofList (day.text ++ 'T' :: clock.text)
  | .fixed day clock offset => String.ofList (day.text ++ 'T' :: clock.text ++ offset.text)

/-- The key of the one entry that a date or time has where it counts as a table. -/
def momentKey : String :=
  "$__toml_private_datetime"

end Toml
end InlineTag
