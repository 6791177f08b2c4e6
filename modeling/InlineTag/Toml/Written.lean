import InlineTag.Toml.Reader
import InlineTag.Toml.Value

/-!
# InlineTag.Toml.Written

The written form of a value on one line, save for strings with newlines. A string takes the first
of five forms that can hold it: plain quotes, single quotes, triple quotes, triple single quotes,
or quotes with escapes. A string with control characters is always escaped. `Value.text` is the text
of a value that stands alone, not within another one.
-/

namespace InlineTag
namespace Toml

/-! ## Strings -/

/-- A control character other than the tab and the newline. -/
def isControl (c : Char) : Bool :=
  (c.toNat < 0x20 && c != '\t' && c != '\n') || c.toNat == 0x7F

/-- The length of the longest unbroken run of `mark`, when `run` of them stand before the text. -/
def longestRun (mark : Char) (run : Nat) : List Char → Nat
  | [] => run
  | c :: rest =>
    if c = mark then longestRun mark (run + 1) rest else max run (longestRun mark 0 rest)

/-- Four digits of a code point, in upper case hexadecimal. -/
def hexFour (n : Nat) : List Char :=
  let digits := (Nat.toDigits 16 n).map Char.toUpper
  List.replicate (4 - digits.length) '0' ++ digits

/-- A character inside quotes. With three quotes around it a newline stands for itself. -/
def escapedChar (triple : Bool) (c : Char) : List Char :=
  if c = '\x08' then ['\\', 'b']
  else if c = '\t' then ['\\', 't']
  else if c = '\x0c' then ['\\', 'f']
  else if c = '\r' then ['\\', 'r']
  else if c = '\\' then ['\\', '\\']
  else if c = '\n' then (if triple then ['\n'] else ['\\', 'n'])
  else if isControl c then '\\' :: 'u' :: hexFour c.toNat
  else [c]

/-- The text inside quotes. With three quotes around it only the third quote of an unbroken run is
escaped, and the run is counted anew after it. -/
def escapedText (triple : Bool) : Nat → List Char → List Char
  | _, [] => []
  | run, c :: rest =>
    if c = '"' then
      if triple && run < 2 then '"' :: escapedText triple (run + 1) rest
      else '\\' :: '"' :: escapedText triple 0 rest
    else escapedChar triple c ++ escapedText triple 0 rest

/-- A text between three quotes on either side; a newline follows the first three when the text
has one. -/
def tripled (quote : Char) (text : List Char) (inner : List Char) : List Char :=
  let quotes := [quote, quote, quote]
  quotes ++ (if text.contains '\n' then ['\n'] else []) ++ inner ++ quotes

def escapedString (text : List Char) : List Char :=
  if text.contains '\n' then tripled '"' text (escapedText true 0 text)
  else '"' :: (escapedText false 0 text ++ ['"'])

def stringText (text : List Char) : List Char :=
  if text.any isControl then escapedString text
  else if !text.contains '\\' && !text.contains '"' && !text.contains '\n' then
    '"' :: (escapedText false 0 text ++ ['"'])
  else if !text.contains '\'' && !text.contains '\n' then '\'' :: (text ++ ['\''])
  else if !text.contains '\\' && longestRun '"' 0 text ≤ 2 then
    tripled '"' text (escapedText true 0 text)
  else if longestRun '\'' 0 text ≤ 2 then tripled '\'' text text
  else escapedString text

/-! ## Keys -/

/-- A key stands bare if it can. Otherwise it stands in quotes, in single ones if those save it from
an escaped quote or backslash and can hold it. -/
def keyText (key : List Char) : List Char :=
  let awkward := key.contains '"' || key.contains '\\'
  let simple := key.all fun c => !isControl c && c != '\n' && c != '\''
  if !key.isEmpty && key.all isBareChar then key
  else if awkward && simple then '\'' :: (key ++ ['\''])
  else '"' :: (escapedText false 0 key ++ ['"'])

/-! ## Values -/

namespace Value

mutual

def written : Value → List Char
  | .string text => stringText text.toList
  | .integer number => (toString number).toList
  | .float number => number.text.toList
  | .boolean truth => (if truth then "true" else "false").toList
  | .moment instant => instant.text.toList
  | .array items => '[' :: (writtenItems items ++ [']'])
  | .table [] => ['{', '}']
  | .table (entry :: rest) => '{' :: ' ' :: (writtenEntries (entry :: rest) ++ [' ', '}'])

/-- The items of an array, separated by commas. -/
def writtenItems : List Value → List Char
  | [] => []
  | [item] => written item
  | item :: rest => written item ++ ',' :: ' ' :: writtenItems rest

/-- The entries of a table, separated by commas. -/
def writtenEntries : List (String × Value) → List Char
  | [] => []
  | [(key, value)] => keyText key.toList ++ ' ' :: '=' :: ' ' :: written value
  | (key, value) :: rest =>
    keyText key.toList ++ ' ' :: '=' :: ' ' :: (written value ++ ',' :: ' ' :: writtenEntries rest)

end

/-- The text of a value that stands alone. A date or time is written as the table of one entry that
it counts as; only within arrays and tables it has its own form. -/
def text : Value → String
  | .moment instant => String.ofList (written (.table [(momentKey, .string instant.text)]))
  | value => String.ofList value.written

end Value
end Toml
end InlineTag
