import InlineTag.Number.Binary64

/-!
# InlineTag.Number.Shortest

The shortest decimal that reads back as the same number. The decimals that read back fill an
interval around the number; the coarsest decimal grid with a point in it gives the fewest digits,
and of the number's two neighbours on that grid the nearer one is taken, the upper one in a tie.
-/

namespace InlineTag
namespace Binary64

/-- The decimals that read back as a number, as a centre, two ends and a unit: the ends belong to
the interval when the significand is even. -/
structure Interval where
  low : Nat
  centre : Nat
  high : Nat
  closed : Bool
  /-- The unit of the three as a quotient. -/
  unit : Nat × Nat

/-- The interval of a positive number, in quarters of its last binary place. Below a power of two
the numbers lie twice as close. -/
def interval (significand : Nat) (exponent : Int) : Interval where
  low := 4 * significand - (if significand = Nat.pow 2 52 ∧ -1074 < exponent then 1 else 2)
  centre := 4 * significand
  high := 4 * significand + 2
  closed := significand % 2 == 0
  unit := power 2 (exponent - 2)

/-- The point to take of the grid of step ten to `place`, as a count of steps; none when the
interval misses the grid. -/
def gridPoint (range : Interval) (place : Int) : Option Nat :=
  let (stepUp, stepDown) := power 10 place
  let unit := range.unit.1 * stepDown
  let step := stepUp * range.unit.2
  let inside (count : Nat) : Bool :=
    if range.closed then range.low * unit ≤ count * step && count * step ≤ range.high * unit
    else range.low * unit < count * step && count * step < range.high * unit
  let below := range.centre * unit / step
  match inside below, inside (below + 1) with
  | true, true =>
    if 2 * (range.centre * unit - below * step) < step then some below else some (below + 1)
  | true, false => some below
  | false, true => some (below + 1)
  | false, false => none

/-- The first grid point found from `place` downwards, in at most `places` places. -/
def search (range : Interval) : Nat → Int → Nat × Int
  | 0, place => (0, place)
  | places + 1, place =>
    match gridPoint range place with
    | some count => (count, place)
    | none => search range places (place - 1)

/-- The digits and the place of the last digit of the shortest decimal of a positive number.
Seventeen digits always suffice, and the search begins at most three places above the first. -/
def shortest (significand : Nat) (exponent : Int) : Nat × Int :=
  let bits : Int := (Nat.log2 significand : Int) + 1 + exponent
  search (interval significand exponent) 24 (bits * 30103 / 100000 + 1)

/-- A decimal without exponent, and with a fraction even if it is whole. -/
def positional (digits : Nat) (place : Int) : String :=
  let shown := Nat.toDigits 10 digits
  let whole : Int := (shown.length : Int) + place
  String.ofList <|
    if 0 ≤ place then shown ++ List.replicate place.toNat '0' ++ ['.', '0']
    else if 0 < whole then shown.take whole.toNat ++ '.' :: shown.drop whole.toNat
    else '0' :: '.' :: (List.replicate (-whole).toNat '0' ++ shown)

/-- The written form of a number in a document: no exponent, and always a fraction. -/
def text : Binary64 → String
  | .nan => "nan"
  | .infinite negative => if negative then "-inf" else "inf"
  | .finite negative significand exponent =>
    let magnitude :=
      if significand = 0 then "0.0"
      else
        let (digits, place) := shortest significand exponent
        positional digits place
    if negative then "-" ++ magnitude else magnitude

/-- The form in which a misplaced number is reported: as `text`, save for a NaN. -/
def reported : Binary64 → String
  | .nan => "NaN"
  | number => number.text

end Binary64
end InlineTag
