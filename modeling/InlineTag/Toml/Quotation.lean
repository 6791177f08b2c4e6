import InlineTag.Toml.Reader

/-!
# InlineTag.Toml.Quotation

Reading of strings and keys. A string stands in double quotes, with escapes, or in single quotes,
without; three quotes on either side allow it to run over lines. A key is bare or a string on one
line, and keys joined by points name a path.
-/

namespace InlineTag
namespace Toml

/-! ## Escapes -/

/-- The character of a code point in hexadecimal digits; none for a surrogate or beyond the last
plane. -/
def codePoint (digits : List Char) : Option Char :=
  let n := Number.numeral 16 digits
  if digits.all Number.isHexDigit ∧ n.isValidChar then some (Char.ofNat n) else none

/-- What stands after a backslash. -/
def escape : Reader Char
  | 'b' :: rest => some ('\x08', rest)
  | 't' :: rest => some ('\t', rest)
  | 'n' :: rest => some ('\n', rest)
  | 'f' :: rest => some ('\x0c', rest)
  | 'r' :: rest => some ('\r', rest)
  | '"' :: rest => some ('"', rest)
  | '\\' :: rest => some ('\\', rest)
  | 'u' :: rest =>
    if 4 ≤ rest.length then (codePoint (rest.take 4)).map fun c => (c, rest.drop 4) else none
  | 'U' :: rest =>
    if 8 ≤ rest.length then (codePoint (rest.take 8)).map fun c => (c, rest.drop 8) else none
  | _ => none

/-- Spaces and newlines in any number. -/
def skipLines : List Char → List Char
  | '\r' :: '\n' :: rest => skipLines rest
  | c :: rest => if isSpace c || c == '\n' then skipLines rest else c :: rest
  | [] => []

/-- A line that ends in a backslash goes on at the next character that is neither a space nor a
newline. -/
def continuation (text : List Char) : Option (List Char) :=
  (newline (skipSpaces text)).map skipLines

/-! ## Strings -/

/-- The rest of a string on one line, up to the closing quote. -/
def shortString (quote : Char) (text : List Char) : Option (List Char × List Char) :=
  match text with
  | [] => none
  | c :: rest =>
    if c = quote then some ([], rest)
    else if c = '\\' ∧ quote = '"' then
      match escape rest with
      | none => none
      | some (d, after) =>
        if _shorter : after.length ≤ rest.length then
          (shortString quote after).map fun (content, tail) => (d :: content, tail)
        else none
    else if isPlain c then
      (shortString quote rest).map fun (content, tail) => (c :: content, tail)
    else none
termination_by text.length
decreasing_by
  · exact Nat.lt_succ_of_le _shorter
  · exact Nat.lt_succ_self _

/-- The rest of a string between triple quotes. Up to two quotes in a row are content; of three to
five the last three close it. -/
def longString (quote : Char) (text : List Char) : Option (List Char × List Char) :=
  match text with
  | [] => none
  | c :: rest =>
    if c = quote then
      let run := (rest.takeWhile (· == quote)).length + 1
      let after := rest.dropWhile (· == quote)
      if run < 3 then
        (longString quote after).map fun (content, tail) =>
          (List.replicate run quote ++ content, tail)
      else if run ≤ 5 then some (List.replicate (run - 3) quote, after)
      else none
    else if c = '\\' ∧ quote = '"' then
      match continuation rest, escape rest with
      | some after, _ => if _shorter : after.length ≤ rest.length then longString quote after else none
      | none, some (d, after) =>
        if _shorter : after.length ≤ rest.length then
          (longString quote after).map fun (content, tail) => (d :: content, tail)
        else none
      | none, none => none
    else
      match newline (c :: rest) with
      | some after =>
        if _shorter : after.length ≤ rest.length then
          (longString quote after).map fun (content, tail) => ('\n' :: content, tail)
        else none
      | none =>
        if isPlain c then
          (longString quote rest).map fun (content, tail) => (c :: content, tail)
        else none
termination_by text.length
decreasing_by
  · exact Nat.lt_succ_of_le (List.dropWhile_sublist _).length_le
  · exact Nat.lt_succ_of_le _shorter
  · exact Nat.lt_succ_of_le _shorter
  · exact Nat.lt_succ_of_le _shorter
  · exact Nat.lt_succ_self _

/-- A newline directly after the opening quotes is no content. -/
def openLong (quote : Char) (text : List Char) : Option (List Char × List Char) :=
  match newline text with
  | some after => longString quote after
  | none => longString quote text

def isQuote (c : Char) : Bool :=
  c == '"' || c == '\''

/-- A string of any of the four kinds. -/
def string : Reader String
  | a :: b :: c :: rest =>
    if ! isQuote a then none
    else if a = b ∧ b = c then (openLong a rest).map fun (s, tail) => (String.ofList s, tail)
    else (shortString a (b :: c :: rest)).map fun (s, tail) => (String.ofList s, tail)
  | a :: rest =>
    if ! isQuote a then none
    else (shortString a rest).map fun (s, tail) => (String.ofList s, tail)
  | [] => none

/-! ## Keys -/

def simpleKey : Reader String
  | [] => none
  | c :: rest =>
    if isQuote c then (shortString c rest).map fun (s, tail) => (String.ofList s, tail)
    else if isBareChar c then
      some (String.ofList ((c :: rest).takeWhile isBareChar), (c :: rest).dropWhile isBareChar)
    else none

/-- Keys joined by points, with spaces around each. -/
def dottedKeys (text : List Char) : Option (List String × List Char) :=
  match simpleKey (skipSpaces text) with
  | none => none
  | some (key, rest) =>
    match skipSpaces rest with
    | '.' :: after =>
      if after.length < text.length then
        (dottedKeys after).map fun (keys, tail) => (key :: keys, tail)
      else none
    | after => some ([key], after)
termination_by text.length

/-- The path to a table or a value, of fewer keys than the limit of nesting. -/
def keyPath : Reader (List String) := fun text =>
  match dottedKeys text with
  | none => none
  | some (path, rest) => if path.length < nestingLimit then some (path, rest) else none

end Toml
end InlineTag
