import InlineTag.Toml.MomentReader
import InlineTag.Toml.Value

/-!
# InlineTag.Toml.Scalar

Reading of numbers and of the other values that are made of no values.
-/

namespace InlineTag
namespace Toml

open Number

/-! ## Numbers -/

/-- The whole part of a number, which begins with a zero only if it is zero. -/
def wholePart : Reader (List Char)
  | '0' :: rest => some (['0'], rest)
  | text => someDigits Char.isDigit text

/-- The exponent, if there is one. -/
def exponent : Reader (Option Int)
  | [] => some (none, [])
  | c :: text =>
    if c = 'e' ∨ c = 'E' then
      let (negative, text) := signed text
      match someDigits Char.isDigit text with
      | none => none
      | some (shown, rest) =>
        some (some (withSign negative (numeral 10 shown)), rest)
    else some (none, c :: text)

/-- A number beyond the largest positive double is refused; one beyond the largest negative is the
negative infinity. -/
def inRange : Binary64 → Option Value
  | .infinite false => none
  | number => some (.float number)

/-- Integers have 64 bits. -/
def integerInRange (number : Int) : Option Value :=
  if Int64.minValue.toInt ≤ number ∧ number ≤ Int64.maxValue.toInt then some (.integer number)
  else none

/-- A decimal number: an integer, unless a fraction or an exponent follows the whole part. -/
def decimal : Reader Value := fun text => do
  let (negative, text) := signed text
  let (whole, text) ← wholePart text
  let (decimals, text) ←
    match text with
    | '.' :: text =>
      match someDigits Char.isDigit text with
      | none => none
      | some (shown, rest) => some (some shown, rest)
    | text => some (none, text)
  let (power, text) ← exponent text
  match decimals, power with
  | none, none =>
    let number ← integerInRange (withSign negative (numeral 10 whole))
    some (number, text)
  | _, _ =>
    let shown := decimals.getD []
    let place : Int := power.getD 0 - shown.length
    let number ← inRange (Binary64.ofDecimal negative (numeral 10 (whole ++ shown)) place)
    some (number, text)

/-- An unsigned integer in another base, after its mark. -/
def based (base : Nat) (isDigit : Char → Bool) : Reader Value := fun text => do
  let (shown, rest) ← someDigits isDigit text
  let number ← integerInRange (numeral base shown)
  some (number, rest)

/-- The infinities, and NaN with a sign that says nothing. -/
def special : Reader Value := fun text =>
  let (negative, text) := signed text
  match word ['i', 'n', 'f'] text, word ['n', 'a', 'n'] text with
  | some rest, _ => some (.float (.infinite negative), rest)
  | _, some rest => some (.float .nan, rest)
  | none, none => none

def number : Reader Value
  | '0' :: 'x' :: rest => based 16 isHexDigit rest
  | '0' :: 'o' :: rest => based 8 isOctalDigit rest
  | '0' :: 'b' :: rest => based 2 isBinaryDigit rest
  | text =>
    match special text with
    | some found => some found
    | none => decimal text

def boolean : Reader Value := fun text =>
  match word "true".toList text, word "false".toList text with
  | some rest, _ => some (.boolean true, rest)
  | _, some rest => some (.boolean false, rest)
  | none, none => none

/-- A value that is neither a string nor made of other values. A date wins over a number. -/
def scalar : Reader Value := fun text =>
  match moment text with
  | some (found, rest) => some (.moment found, rest)
  | none =>
    match number text with
    | some found => some found
    | none => boolean text

end Toml
end InlineTag
