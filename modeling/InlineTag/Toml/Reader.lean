import InlineTag.Number.Digits

/-!
# InlineTag.Toml.Reader

The small readers of a document: each takes what it reads from the front of the text and gives the
rest. A text that is no document is refused without a reason, so there is nothing but `none` to
fail with.
-/

namespace InlineTag
namespace Toml

/-- Reads something from the front of a text. -/
abbrev Reader (α : Type) := List Char → Option (α × List Char)

/-- How many keys, and how many arrays and inline tables, are too many within each other. -/
def nestingLimit : Nat := 80

/-- One given character. -/
def mark (wanted : Char) : List Char → Option (List Char)
  | [] => none
  | c :: rest => if c = wanted then some rest else none

/-- Several given characters. -/
def word : List Char → List Char → Option (List Char)
  | [], text => some text
  | c :: wanted, text =>
    match mark c text with
    | none => none
    | some rest => word wanted rest

/-! ## Classes of characters -/

/-- What a bare key is made of: letters and digits of ASCII, the low line and the hyphen. -/
def isBareChar (c : Char) : Bool :=
  c.isAlphanum || c == '_' || c == '-'

/-! ## Spaces, lines and comments -/

def isSpace (c : Char) : Bool :=
  c == ' ' || c == '\t'

def skipSpaces (text : List Char) : List Char :=
  text.dropWhile isSpace

/-- A newline, alone or after a carriage return. -/
def newline : List Char → Option (List Char)
  | '\n' :: rest => some rest
  | '\r' :: '\n' :: rest => some rest
  | _ => none

/-- What may stand in comments and strings: everything but controls; the tab is none of these. -/
def isPlain (c : Char) : Bool :=
  c == '\t' || (0x20 ≤ c.toNat && c.toNat ≤ 0x7E) || 0x80 ≤ c.toNat

def skipComment : List Char → List Char
  | '#' :: rest => rest.dropWhile isPlain
  | text => text

/-- The end of a line after spaces and perhaps a comment: a newline or the end of the text. -/
def lineEnd (text : List Char) : Option (List Char) :=
  match skipComment (skipSpaces text) with
  | [] => some []
  | rest => newline rest

/-- Spaces, newlines and comments in any number, as they may stand between the items of an
array. -/
def skipGaps (text : List Char) : List Char :=
  match text with
  | [] => []
  | c :: rest =>
    if isSpace c || c == '\n' then skipGaps rest
    else if c = '#' then skipGaps (rest.dropWhile isPlain)
    else
      match newline (c :: rest), rest with
      | some _, _ :: after => skipGaps after
      | _, _ => c :: rest
termination_by text.length
decreasing_by
  · simp
  · exact Nat.lt_succ_of_le (List.dropWhile_sublist _).length_le
  · simp only [List.length_cons]; omega

/-! ## Digits -/

/-- The digits after the first, of which an underscore may separate two. -/
def moreDigits (isDigit : Char → Bool) : Reader (List Char)
  | [] => some ([], [])
  | ['_'] => none
  | '_' :: c :: rest =>
    if isDigit c then
      match moreDigits isDigit rest with
      | none => none
      | some (digits, after) => some (c :: digits, after)
    else none
  | c :: rest =>
    if isDigit c then
      match moreDigits isDigit rest with
      | none => none
      | some (digits, after) => some (c :: digits, after)
    else some ([], c :: rest)

/-- At least one digit. -/
def someDigits (isDigit : Char → Bool) : Reader (List Char)
  | [] => none
  | c :: rest =>
    if isDigit c then
      match moreDigits isDigit rest with
      | none => none
      | some (digits, after) => some (c :: digits, after)
    else none

/-- Exactly `count` decimal digits, as a number. -/
def digits (count : Nat) : Reader Nat := fun text =>
  let taken := text.take count
  if taken.length = count ∧ taken.all Char.isDigit then
    some (Number.numeral 10 taken, text.drop count)
  else none

end Toml
end InlineTag
