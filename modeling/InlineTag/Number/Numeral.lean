import InlineTag.Number.Binary64
import InlineTag.Number.Digits

/-!
# InlineTag.Number.Numeral

Reading of a double from its decimal text: a sign, digits with a point among them, and an exponent,
of which only some digits must be there.
-/

namespace InlineTag
namespace Binary64

open Number

/-- The exponent that makes up the rest of a text, zero if nothing is left. -/
def exponent? : List Char → Option Int
  | [] => some 0
  | c :: rest =>
    let (negative, digits) := signed rest
    if (c = 'e' ∨ c = 'E') ∧ digits ≠ [] ∧ digits.all Char.isDigit then
      some (withSign negative (numeral 10 digits))
    else none

/-- The digits behind a point and what follows them. -/
def decimals : List Char → List Char × List Char
  | '.' :: rest => (rest.takeWhile Char.isDigit, rest.dropWhile Char.isDigit)
  | rest => ([], rest)

/-- The number nearest to the one that a text gives, in letters of either case. -/
def ofText? (text : String) : Option Binary64 :=
  let (negative, magnitude) := signed text.toList
  let name := magnitude.map Char.toLower
  if name = "nan".toList then some .nan
  else if name = "inf".toList ∨ name = "infinity".toList then some (.infinite negative)
  else
    let whole := magnitude.takeWhile Char.isDigit
    let (fraction, rest) := decimals (magnitude.dropWhile Char.isDigit)
    if whole = [] ∧ fraction = [] then none
    else
      (exponent? rest).map fun exponent =>
        ofDecimal negative (numeral 10 (whole ++ fraction)) (exponent - fraction.length)

end Binary64
end InlineTag
