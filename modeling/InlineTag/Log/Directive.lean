import InlineTag.Event
import InlineTag.Log.Pattern
import InlineTag.Number.Numeral
import InlineTag.Text.Bytes

/-!
# InlineTag.Log.Directive

A directive of the log: what it is about and the least level that it lets through, and the reading
of it.

White space around a directive does not keep it from being read, but its parts are then taken from
the untrimmed text at the places that they have in the trimmed one. So white space in front moves
every part: a target begins with it, and where a level follows an equals sign the sign gets into the
level. White space at the end belongs to a level or target that ends the directive.

Places are counted in bytes. Where white space in front takes more than one, a part may begin or end
inside a character. Such a text is torn, and is told apart from one that is no directive.
-/

namespace InlineTag

open Text

/-- The least level that is logged; none if nothing is. -/
abbrev Threshold := Option Level

def Threshold.admits (threshold : Threshold) (event : Event) : Bool :=
  match threshold with
  | none => false
  | some level => level.rank ≤ event.level.rank

namespace Log

/-- Why a text is not read. -/
inductive Misread where
  /-- It is none of what is read. -/
  | refused
  /-- A part of it would begin or end inside a character. -/
  | torn
  deriving DecidableEq, Repr

/-- What was found, or else the reason for finding nothing. -/
def Misread.unless {α : Type} (misread : Misread) : Option α → Except Misread α
  | none => .error misread
  | some found => .ok found

@[simp] theorem Misread.unless_some_bind {α β : Type} (misread : Misread) (found : α)
    (next : α → Except Misread β) : (misread.unless (some found) >>= next) = next found := rfl

/-- What a directive is about, besides the origin of an event. -/
inductive Scope where
  | everything
  /-- The events that have a field of this name. -/
  | field (name : List Char)
  /-- The events within some span, or spans with some value. The program opens no spans. -/
  | span
  deriving DecidableEq, Repr

/-- A directive. The target is what the origin of an event begins with; it may be empty. -/
structure Directive where
  target : List Char
  scope : Scope
  threshold : Threshold
  deriving DecidableEq, Repr

/-! ## Levels -/

/-- A level by its number. -/
def numbered? (text : List Char) : Option Threshold :=
  let digits := if text.head? = some '+' then text.tail else text
  if digits = [] || !digits.all Char.isDigit then none
  else
    match Number.numeral 10 digits with
    | 0 => some none
    | 1 => some (some .error)
    | 2 => some (some .warn)
    | 3 => some (some .info)
    | 4 => some (some .debug)
    | 5 => some (some .trace)
    | _ => none

/-- A level by its name, in letters of either case. -/
def named? (text : List Char) : Option Threshold :=
  let name := String.ofList (text.map Char.toLower)
  if name = "off" then some none
  else if name = "error" then some (some .error)
  else if name = "warn" then some (some .warn)
  else if name = "info" then some (some .info)
  else if name = "debug" then some (some .debug)
  else if name = "trace" then some (some .trace)
  else none

def threshold? (text : List Char) : Option Threshold :=
  (numbered? text).orElse fun _ => named? text

/-- The level from a place in a directive on. Without one everything is let through. -/
def readLevel (given : List Char) (place : Nat) : Except Misread Threshold :=
  match dropBytes place given with
  | none => .error .torn
  | some [] => .ok (some .trace)
  | some text => Misread.refused.unless (threshold? text)

/-- The level behind a place up to which a directive has been read. -/
def readLevelPart (given : List Char) (place : Nat) : List Char → Except Misread Threshold
  | [] => .ok (some .trace)
  | '=' :: _ => readLevel given (place + 1)
  | _ => .error .refused

/-! ## Scopes -/

/-- What may be asked of a value: to be a number, or to fit a pattern. The two truth values are
patterns too. -/
def isValue (text : List Char) : Bool :=
  (Binary64.ofText? (String.ofList text)).isSome || isPattern text

/-- The scope that a span and the text in braces give. A second equals sign ends the value. -/
def readFieldScope (span field : List Char) : Except Misread Scope :=
  match cutAt '=' field with
  | none => .ok (if span = [] then .field field else .span)
  | some (_, text) =>
    if isValue (text.takeWhile (· != '=')) then .ok .span else .error .refused

/-- The field in braces behind the name of a span, and what follows the closing bracket with its
place. -/
def readField (given span : List Char) (place : Nat) (text : List Char) :
    Except Misread (Scope × Nat × List Char) :=
  match cutAt '\x7d' text with
  | none => .error .refused
  | some (field, rest) => do
    let stop := place + byteLength field
    let field ← Misread.torn.unless (bytesBetween place stop given)
    if field = [] then .error .refused
    else
      let scope ← readFieldScope span field
      if rest.head? = some ']' then .ok (scope, stop + 2, rest.tail) else .error .refused

/-- What stands in brackets, without the opening one, and what follows them with its place: the
name of a span, the name of a field in braces, with or without a value, or both. -/
def readScope (given : List Char) (place : Nat) (text : List Char) :
    Except Misread (Scope × Nat × List Char) :=
  let isInside (c : Char) : Bool := c != ']' && c != '\x7b'
  let stop := place + byteLength (text.takeWhile isInside)
  match text.dropWhile isInside with
  | [] => .error .refused
  | c :: rest => do
    let span ← Misread.torn.unless (bytesBetween place stop given)
    if c = ']' then .ok (.span, stop + 1, rest) else readField given span (stop + 1) rest

/-! ## Directives -/

/-- A character that a target may begin with. -/
def isTargetStart (c : Char) : Bool :=
  c == '_' || c == ':' || c == '-' || isAlphanumeric c

/-- A directive without equals sign and brackets: a level or else a target. -/
def wholeDirective (given : List Char) : Directive :=
  match threshold? given with
  | some threshold => ⟨[], .everything, threshold⟩
  | none => ⟨given, .everything, some .trace⟩

/-- A directive: a level alone, or a target, a scope, or both, with or without a level. -/
def readDirective (given : List Char) : Except Misread Directive :=
  match trim given with
  | [] => .error .refused
  | c :: text =>
    if c != '[' && !isTargetStart c then .error .refused
    else
      let isInside (c : Char) : Bool := c != '=' && c != '['
      let stop := byteLength ((c :: text).takeWhile isInside)
      match (c :: text).dropWhile isInside with
      | [] => .ok (wholeDirective given)
      | '[' :: rest => do
        let target ← Misread.torn.unless (bytesBetween 0 stop given)
        let (scope, place, rest) ← readScope given (stop + 1) rest
        let threshold ← readLevelPart given place rest
        .ok ⟨target, scope, threshold⟩
      | rest => do
        let target ← Misread.torn.unless (bytesBetween 0 stop given)
        let threshold ← readLevelPart given stop rest
        .ok ⟨target, .everything, threshold⟩

end Log
end InlineTag
