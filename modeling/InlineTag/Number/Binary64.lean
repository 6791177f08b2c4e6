/-!
# InlineTag.Number.Binary64

Double precision numbers, with exact arithmetic only: a finite number is a whole significand times
a power of two. `ofDecimal` is the number nearest to a decimal, and of two equally near ones the
one with the even significand.
-/

namespace InlineTag

/-- A NaN has no sign. A finite number is its significand times two to its exponent. Numbers made by `ofDecimal` have
the one significand below 2⁵³ that needs the smallest exponent, which is at least -1074. -/
inductive Binary64 where
  | nan
  | infinite (negative : Bool)
  | finite (negative : Bool) (significand : Nat) (exponent : Int)
  deriving DecidableEq, Repr, Inhabited

namespace Binary64

def zero (negative : Bool) : Binary64 :=
  .finite negative 0 (-1074)

/-- The nearest whole number to a quotient, a half going to the even neighbour. -/
def roundQuotient (num den : Nat) : Nat :=
  let floor := num / den
  let twice := 2 * (num % den)
  if den < twice ∨ (twice = den ∧ floor % 2 = 1) then floor + 1 else floor

/-- The power of the base as a quotient of whole numbers. -/
def power (base : Nat) (exponent : Int) : Nat × Nat :=
  if 0 ≤ exponent then (Nat.pow base exponent.toNat, 1) else (1, Nat.pow base (-exponent).toNat)

/-- The least exponent at which the quotient has at most 53 binary digits. -/
def fittingExponent (num den : Nat) : Int :=
  let low : Int := (Nat.log2 num : Int) - (Nat.log2 den : Int) - 53
  let (up, down) := power 2 low
  let exponent := if num * down / (den * up) < Nat.pow 2 53 then low else low + 1
  max exponent (-1074)

/-- The number nearest to a positive quotient. -/
def ofQuotient (negative : Bool) (num den : Nat) : Binary64 :=
  let exponent := fittingExponent num den
  let (up, down) := power 2 exponent
  let significand := roundQuotient (num * down) (den * up)
  let (significand, exponent) :=
    if significand = Nat.pow 2 53 then (Nat.pow 2 52, exponent + 1) else (significand, exponent)
  if 971 < exponent then .infinite negative else .finite negative significand exponent

/-- The number nearest to `digits` times ten to `exponent`. Decimals far beyond either end of the
range are settled by their size alone. -/
def ofDecimal (negative : Bool) (digits : Nat) (exponent : Int) : Binary64 :=
  if digits = 0 then zero negative
  else
    let size : Int := ((Nat.toDigits 10 digits).length : Int) + exponent
    if 400 < size then .infinite negative
    else if size < -400 then zero negative
    else
      let (up, down) := power 10 exponent
      ofQuotient negative (digits * up) down

/-- Equality of numbers: a NaN differs from everything, and the two zeros are equal. -/
def same : Binary64 → Binary64 → Bool
  | .nan, _ => false
  | _, .nan => false
  | .infinite a, .infinite b => a == b
  | .infinite _, .finite .. => false
  | .finite .., .infinite _ => false
  | .finite a m e, .finite b n f => (m == 0 && n == 0) || (a == b && m == n && e == f)

end Binary64
end InlineTag
