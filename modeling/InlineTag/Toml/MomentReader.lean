import InlineTag.Toml.Moment
import InlineTag.Toml.Reader

/-!
# InlineTag.Toml.MomentReader

Reading of dates and times, at the front of a text (`moment`) or as the whole of one
(`Moment.ofText?`).
-/

namespace InlineTag
namespace Toml

open Number

/-! ## The parts -/

def date : Reader Date := fun text => do
  let (year, text) ← digits 4 text
  let text ← mark '-' text
  let (month, text) ← digits 2 text
  let text ← mark '-' text
  let (day, text) ← digits 2 text
  let found : Date := ⟨year, month, day⟩
  if found.valid then some (found, text) else none

/-- A fraction of a second in nanoseconds; digits beyond the ninth are dropped. -/
def fraction : Reader Nat
  | '.' :: text =>
    let shown := text.takeWhile Char.isDigit
    if shown.isEmpty then none
    else
      let kept := shown.take 9
      some (numeral 10 kept * Nat.pow 10 (9 - kept.length), text.dropWhile Char.isDigit)
  | text => some (0, text)

def timeOfDay : Reader TimeOfDay := fun text => do
  let (hour, text) ← digits 2 text
  let text ← mark ':' text
  let (minute, text) ← digits 2 text
  let text ← mark ':' text
  let (second, text) ← digits 2 text
  let (nanosecond, text) ← fraction text
  let found : TimeOfDay := ⟨hour, minute, second, nanosecond⟩
  if found.valid then some (found, text) else none

/-- An offset, or none where the text has none. -/
def offset : Reader (Option Offset)
  | [] => some (none, [])
  | c :: text =>
    if c = 'Z' ∨ c = 'z' then some (some .utc, text)
    else if c = '+' ∨ c = '-' then do
      let (hour, text) ← digits 2 text
      let text ← mark ':' text
      let (minute, text) ← digits 2 text
      let east : Int := hour * 60 + minute
      if hour ≤ 23 ∧ minute ≤ 59 then
        some (some (.minutes (if c = '-' then -east else east)), text)
      else none
    else some (none, c :: text)

/-- What may stand between a date and its time. -/
def isTimeMark (c : Char) : Bool :=
  c == 'T' || c == 't' || c == ' '

/-! ## The whole -/

/-- The time after a date; where none follows, the date stands alone. -/
def momentOn (day : Date) : Reader Moment
  | [] => some (.date day, [])
  | c :: text =>
    if isTimeMark c then
      match timeOfDay text with
      | none => some (.date day, c :: text)
      | some (clock, rest) =>
        match offset rest with
        | none => none
        | some (none, after) => some (.zoneless day clock, after)
        | some (some shift, after) => some (.fixed day clock shift, after)
    else some (.date day, c :: text)

def moment : Reader Moment := fun text =>
  match date text with
  | some (day, rest) => momentOn day rest
  | none => (timeOfDay text).map fun (clock, rest) => (.time clock, rest)

/-- The date or time that a whole text gives. -/
def Moment.ofText? (text : String) : Option Moment :=
  match moment text.toList with
  | some (found, []) => some found
  | _ => none

end Toml
end InlineTag
