import InlineTag.Number.Digits
import InlineTag.Text.Blank
import InlineTag.Text.Cut
import InlineTag.Text.Letter

/-!
# InlineTag.Log.Pattern

Regular expressions, as far as it takes to say which texts are some (`isPattern`). A directive of
the log may give a pattern for the value of a field. The text of such a pattern has no closing
brace, equals sign or comma, as these end the value; so what needs a closing brace is refused here.

A pattern is matched byte by byte, without looking back. Hence it must not ask for the bounds of
words of all scripts, nor match a part of a character.

While a pattern is read, of each of its parts only the height is kept: the number of groups,
repetitions, brackets, sequences and choices within each other. It must not exceed a limit.
-/

namespace InlineTag
namespace Log
namespace Pattern

open Number Text

/-- What switches set. -/
structure Modes where
  /-- White space and comments stand for nothing. -/
  spaced : Bool
  /-- Characters of all scripts count, not only those of ASCII. -/
  unicode : Bool
  deriving DecidableEq, Repr

/-! ## Gaps -/

/-- Drops white space and comments; a comment goes from a number sign to the end of the line. -/
def dropGaps (inComment : Bool) : List Char → List Char
  | [] => []
  | c :: rest =>
    if inComment then dropGaps (c != '\n') rest
    else if c = '#' then dropGaps true rest
    else if isBlank c then dropGaps false rest
    else c :: rest

def skipGaps (modes : Modes) (text : List Char) : List Char :=
  if modes.spaced then dropGaps false text else text

theorem length_dropGaps_le (inComment : Bool) (text : List Char) :
    (dropGaps inComment text).length ≤ text.length := by
  fun_induction dropGaps inComment text with
  | case1 => simp
  | case2 c rest ih => exact Nat.le_succ_of_le ih
  | case3 inComment rest hcomment ih => exact Nat.le_succ_of_le ih
  | case4 inComment c rest hcomment hc hblank ih => exact Nat.le_succ_of_le ih
  | case5 => exact Nat.le_refl _

theorem length_skipGaps_le (modes : Modes) (text : List Char) :
    (skipGaps modes text).length ≤ text.length := by
  rw [skipGaps]
  split
  · exact length_dropGaps_le false text
  · exact Nat.le_refl _

/-! ## Heights -/

/-- The height of parts that stand together: a single part adds nothing. -/
def joint : List Nat → Nat
  | [] => 0
  | [height] => height
  | heights => heights.foldl max 0 + 1

/-- The greatest height of a pattern. -/
def heightLimit : Nat := 250

/-! ## Escapes -/

/-- What a character or an escape stands for. -/
inductive Atom where
  | literal (code : Nat)
  /-- A class of characters. -/
  | many
  /-- A place between characters. -/
  | place
  deriving DecidableEq, Repr

/-- Some hexadecimal digits, perhaps with gaps in front of each. -/
def hexDigits (modes : Modes) : Nat → List Char → Option (List Char × List Char)
  | 0, text => some ([], text)
  | count + 1, text =>
    match skipGaps modes text with
    | [] => none
    | c :: rest =>
      if isHexDigit c then
        (hexDigits modes count rest).map fun (digits, after) => (c :: digits, after)
      else none

/-- A character by its number. Two digits stand for a byte, which in ASCII is at most 127. -/
def numbered (modes : Modes) (count : Nat) (text : List Char) : Option (Atom × List Char) := do
  let (digits, rest) ← hexDigits modes count text
  let code := numeral 16 digits
  if code.isValidChar ∧ (modes.unicode ∨ count ≠ 2 ∨ code < 0x80) then some (.literal code, rest)
  else none

/-- The letters that name a category of characters. -/
def isCategory (c : Char) : Bool :=
  "clmnpsz".toList.contains c.toLower

def category (modes : Modes) (text : List Char) : Option (Atom × List Char) :=
  match skipGaps modes text with
  | [] => none
  | c :: rest => if modes.unicode && isCategory c then some (.many, rest) else none

/-- The controls that have a letter of their own. -/
def control? (c : Char) : Option Nat :=
  if c = 'a' then some 0x07
  else if c = 't' then some 0x09
  else if c = 'n' then some 0x0A
  else if c = 'v' then some 0x0B
  else if c = 'f' then some 0x0C
  else if c = 'r' then some 0x0D
  else none

/-- What may be escaped although it need not: all of ASCII but letters, digits and angles. -/
def isEscapable (c : Char) : Bool :=
  c.toNat < 0x80 && !c.isAlphanum && c != '<' && c != '>'

/-- An escape, without its backslash. -/
def escape (modes : Modes) : List Char → Option (Atom × List Char)
  | [] => none
  | c :: rest =>
    if c = 'x' then numbered modes 2 rest
    else if c = 'u' then numbered modes 4 rest
    else if c = 'U' then numbered modes 8 rest
    else if c = 'p' ∨ c = 'P' then category modes rest
    else if "dsw".toList.contains c then some (.many, rest)
    else if "DSW".toList.contains c then if modes.unicode then some (.many, rest) else none
    else if "bB<>".toList.contains c then if modes.unicode then none else some (.place, rest)
    else if c = 'A' ∨ c = 'z' then some (.place, rest)
    else if isEscapable c then some (.literal c.toNat, rest)
    else (control? c).map fun code => (.literal code, rest)

/-! ## Brackets -/

/-- A bracket that is still open: the heights of its members, and of what stands on the left of
the last operation on sets. -/
structure Bracket where
  members : List Nat
  left : Option Nat
  deriving DecidableEq, Repr

namespace Bracket

def height (bracket : Bracket) : Nat :=
  match bracket.left with
  | none => joint bracket.members
  | some left => max left (joint bracket.members) + 1

def add (bracket : Bracket) (member : Nat) : Bracket :=
  { bracket with members := member :: bracket.members }

/-- All that has been read becomes the left side of an operation. -/
def operate (bracket : Bracket) : Bracket :=
  ⟨[], some bracket.height⟩

end Bracket

def classNames : List String :=
  ["alnum", "alpha", "ascii", "blank", "cntrl", "digit", "graph", "lower", "print", "punct",
    "space", "upper", "word", "xdigit"]

/-- A class by its name between colons, without the first bracket: whether it is negated. -/
def named? : List Char → Option (Bool × List Char)
  | ':' :: text =>
    let negated := text.head? = some '^'
    match cutAt ':' (if negated then text.tail else text) with
    | some (name, ']' :: rest) =>
      if classNames.contains (String.ofList name) then some (negated, rest) else none
    | _ => none
  | _ => none

/-- The hyphens with which a bracket begins stand for themselves. -/
def hyphens (modes : Modes) : List Char → List Nat × List Char
  | '-' :: rest =>
    let (found, after) := hyphens modes (skipGaps modes rest)
    (0 :: found, after)
  | text => ([], text)
termination_by text => text.length
decreasing_by exact Nat.lt_succ_of_le (length_skipGaps_le modes rest)

/-- The members with which a bracket begins, behind its first character: a closing bracket stands
for itself there. -/
def firstMembers (modes : Modes) (text : List Char) : Bracket × List Char :=
  match hyphens modes text with
  | ([], ']' :: rest) => (⟨[0], none⟩, rest)
  | (found, rest) => (⟨found, none⟩, rest)

/-- The begin of a bracket. A negated one holds all other scripts too. -/
def openBracket (modes : Modes) (text : List Char) : Option (Bracket × List Char) :=
  match skipGaps modes text with
  | '^' :: rest => if modes.unicode then some (firstMembers modes (skipGaps modes rest)) else none
  | rest => some (firstMembers modes rest)

/-- A single member of a bracket. -/
def member (modes : Modes) (text : List Char) : Option (Atom × List Char) :=
  let found :=
    match text with
    | [] => none
    | '\\' :: rest => escape modes rest
    | c :: rest => some (.literal c.toNat, rest)
  match found with
  | some (.literal code, rest) =>
    if modes.unicode ∨ code < 0x80 then some (.literal code, rest) else none
  | found => found

/-- The next character that counts; in a comment the first one counts. -/
def nextShown (modes : Modes) (text : List Char) : Option Char :=
  if modes.spaced then
    match text.dropWhile isBlank with
    | '#' :: comment => (comment.dropWhile isBlank).head?
    | rest => rest.head?
  else text.head?

/-- The text behind a member or a range of members. -/
def afterMember (modes : Modes) (text : List Char) : Option (List Char) := do
  let (first, rest) ← member modes text
  let alone : Option (List Char) := if first = .place then none else some (skipGaps modes rest)
  match skipGaps modes rest with
  | '-' :: rest =>
    let next := nextShown modes rest
    if next = some ']' ∨ next = some '-' then alone
    else
      let (last, after) ← member modes (skipGaps modes rest)
      match first, last with
      | .literal low, .literal high => if low ≤ high then some after else none
      | _, _ => none
  | _ => alone

/-- Brackets within each other, or the height of the outermost one when it is closed. -/
inductive Brackets where
  | within (inner : Bracket) (around : List Bracket)
  | closed (height : Nat)

/-- Reads on in a bracket, which stands in others. -/
def bracketStep (modes : Modes) (inner : Bracket) (around : List Bracket) :
    List Char → Option (Brackets × List Char)
  | [] => none
  | '[' :: rest =>
    match named? rest with
    | some (negated, after) =>
      if negated ∧ !modes.unicode then none else some (.within (inner.add 0) around, after)
    | none =>
      (openBracket modes rest).map fun (found, after) => (.within found (inner :: around), after)
  | ']' :: rest =>
    match around with
    | [] => some (.closed (inner.height + 1), rest)
    | outer :: others => some (.within (outer.add (inner.height + 1)) others, rest)
  | '&' :: '&' :: rest => some (.within inner.operate around, rest)
  | '-' :: '-' :: rest => some (.within inner.operate around, rest)
  | '~' :: '~' :: rest => some (.within inner.operate around, rest)
  | text => (afterMember modes text).map fun rest => (.within (inner.add 0) around, rest)

/-- Reads up to the end of the outermost bracket; the result is its height. -/
def brackets (modes : Modes) (inner : Bracket) (around : List Bracket) (text : List Char) :
    Option (Nat × List Char) :=
  match bracketStep modes inner around (skipGaps modes text) with
  | none => none
  | some (.closed height, rest) => some (height, rest)
  | some (.within inner around, rest) =>
    if rest.length < text.length then brackets modes inner around rest else none
termination_by text.length

def bracketed (modes : Modes) (text : List Char) : Option (Nat × List Char) := do
  let (inner, rest) ← openBracket modes text
  brackets modes inner [] rest

/-! ## Groups -/

/-- A part of a sequence: switches, which cannot be repeated, or something of a height. -/
inductive Part where
  | switches
  | piece (height : Nat)
  deriving DecidableEq, Repr

def Part.height : Part → Nat
  | .switches => 0
  | .piece height => height

/-- A choice of which the last sequence is still being read: the heights of the others, and the
parts of the last one, backwards. -/
structure Choice where
  others : List Nat
  parts : List Part
  deriving DecidableEq, Repr

namespace Choice

def empty : Choice := ⟨[], []⟩

def add (choice : Choice) (part : Part) : Choice :=
  { choice with parts := part :: choice.parts }

/-- The height of the last sequence. -/
def sequenceHeight (choice : Choice) : Nat :=
  joint (choice.parts.map Part.height)

def height (choice : Choice) : Nat :=
  joint (choice.sequenceHeight :: choice.others)

/-- Begins another sequence. -/
def branch (choice : Choice) : Choice :=
  ⟨choice.sequenceHeight :: choice.others, []⟩

/-- Repeats the last part. -/
def repeatLast (choice : Choice) : Option Choice :=
  match choice.parts with
  | .piece height :: before => some { choice with parts := .piece (height + 1) :: before }
  | _ => none

end Choice

/-- How far a pattern has been read: the choice in the innermost open group, and the groups around
it with the modes that hold again behind them. -/
structure State where
  modes : Modes
  names : List (List Char)
  inner : Choice
  around : List (Modes × Choice)
  deriving DecidableEq, Repr

namespace State

def start : State :=
  ⟨⟨false, true⟩, [], .empty, []⟩

def add (state : State) (part : Part) : State :=
  { state with inner := state.inner.add part }

/-- Opens a group in which the given modes hold. -/
def openGroup (state : State) (modes : Modes) : State :=
  ⟨modes, state.names, .empty, (state.modes, state.inner) :: state.around⟩

def closeGroup (state : State) : Option State :=
  match state.around with
  | [] => none
  | (modes, outer) :: around =>
    some ⟨modes, state.names, outer.add (.piece (state.inner.height + 1)), around⟩

end State

def isNameStart (c : Char) : Bool :=
  c == '_' || isAlphabetic c

def isNameChar (c : Char) : Bool :=
  "_.[]".toList.contains c || isAlphanumeric c

def isName : List Char → Bool
  | [] => false
  | c :: rest => isNameStart c && rest.all isNameChar

/-- Opens a group with a name, which no other group has. -/
def namedGroup (state : State) (text : List Char) : Option (State × List Char) :=
  match cutAt '>' text with
  | none => none
  | some (name, rest) =>
    if isName name ∧ name ∉ state.names then
      some ({ state.openGroup state.modes with names := name :: state.names }, rest)
    else none

/-- Switches, each at most once; those behind a minus sign are turned off. -/
def areSwitches (text : List Char) : Bool :=
  text.all (fun c => "imsUuRx-".toList.contains c) && text.Nodup && text.getLast? != some '-'

/-- A mode after switches. -/
def switched (switch : Char) (switches : List Char) (mode : Bool) : Bool :=
  if (switches.takeWhile (· != '-')).contains switch then true
  else if switches.contains switch then false
  else mode

def Modes.after (switches : List Char) (modes : Modes) : Modes :=
  ⟨switched 'x' switches modes.spaced, switched 'u' switches modes.unicode⟩

/-- Switches for the rest of a group, or for a group of their own. -/
def switchGroup (state : State) (text : List Char) : Option (State × List Char) :=
  let isSwitch (c : Char) : Bool := c != ':' && c != ')'
  let switches := text.takeWhile isSwitch
  if !areSwitches switches then none
  else
    let modes := state.modes.after switches
    match text.dropWhile isSwitch with
    | ':' :: rest => some (state.openGroup modes, rest)
    | ')' :: rest =>
      if switches = [] then none else some ({ state.add .switches with modes := modes }, rest)
    | _ => none

/-- What follows an opening parenthesis. -/
def group (state : State) (text : List Char) : Option (State × List Char) :=
  match skipGaps state.modes text with
  | '?' :: 'P' :: '<' :: rest => namedGroup state rest
  | '?' :: '<' :: rest => namedGroup state rest
  | '?' :: rest => switchGroup state rest
  | rest => some (state.openGroup state.modes, rest)

/-! ## The whole -/

/-- A repetition sign, and the question mark that may follow it. -/
def repetition (state : State) (text : List Char) : Option (State × List Char) :=
  state.inner.repeatLast.map fun choice =>
    ({ state with inner := choice }, if text.head? = some '?' then text.tail else text)

def step (state : State) : List Char → Option (State × List Char)
  | [] => none
  | c :: rest =>
    if c = '(' then group state rest
    else if c = ')' then state.closeGroup.map fun state => (state, rest)
    else if c = '|' then some ({ state with inner := state.inner.branch }, rest)
    else if c = '[' then
      (bracketed state.modes rest).map fun (height, after) => (state.add (.piece height), after)
    else if c = '?' ∨ c = '*' ∨ c = '+' then repetition state rest
    else if c = '{' then none
    else if c = '\\' then
      (escape state.modes rest).map fun (_, after) => (state.add (.piece 0), after)
    else if c = '.' ∧ !state.modes.unicode then none
    else some (state.add (.piece 0), rest)

/-- Reads a pattern to its end. -/
def finish (state : State) (text : List Char) : Option State :=
  match skipGaps state.modes text with
  | [] => some state
  | c :: after =>
    match step state (c :: after) with
    | none => none
    | some (state, rest) => if rest.length < text.length then finish state rest else none
termination_by text.length

end Pattern

def isPattern (text : List Char) : Bool :=
  match Pattern.finish .start text with
  | none => false
  | some state => state.around.isEmpty && state.inner.height ≤ Pattern.heightLimit

end Log
end InlineTag
