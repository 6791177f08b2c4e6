import InlineTag.Toml.Draft
import InlineTag.Toml.Quotation
import InlineTag.Toml.Scalar

/-!
# InlineTag.Toml.Document

Reading of a whole document, by the grammar of TOML 1.0: lines of keys and values, under headers.
`read` gives the entries of the top table in the order in which their keys first appear.

Where a reader goes on with the rest of a text it first compares the lengths. The rest is always
the shorter one; the comparison shows that reading ends.
-/

namespace InlineTag
namespace Toml

/-! ## Arrays and inline tables -/

/-- The items of an array up to its closing bracket; a comma may follow the last. -/
def items (element : Reader Value) (text : List Char) : Option (List Value × List Char) :=
  match skipGaps text with
  | ']' :: rest => some ([], rest)
  | start =>
    match element start with
    | none => none
    | some (item, rest) =>
      match skipGaps rest with
      | ']' :: after => some ([item], after)
      | ',' :: after =>
        if after.length < text.length then
          (items element after).map fun (others, tail) => (item :: others, tail)
        else none
      | _ => none
termination_by text.length

/-- A key path, an equals sign and a value. -/
def keyValue (element : Reader Value) : Reader (List String × Value) := fun text => do
  let (path, text) ← keyPath text
  let text ← mark '=' text
  let (value, text) ← element (skipSpaces text)
  some ((path, value), text)

/-- The entries of an inline table up to its closing brace, on one line. -/
def inlineEntries (element : Reader Value) (text : List Char) :
    Option (List (List String × Value) × List Char) :=
  match keyValue element text with
  | none => none
  | some (entry, rest) =>
    match skipSpaces rest with
    | '}' :: after => some ([entry], after)
    | ',' :: after =>
      if after.length < text.length then
        (inlineEntries element after).map fun (others, tail) => (entry :: others, tail)
      else none
    | _ => none
termination_by text.length

def inlineTable (element : Reader Value) (text : List Char) : Option (Value × List Char) :=
  match skipSpaces text with
  | '}' :: rest => some (.table [], rest)
  | start =>
    match inlineEntries element start with
    | none => none
    | some (assignments, rest) =>
      let filled := assignments.foldlM
        (fun entries (path, value) => Draft.assign path value entries) []
      filled.map fun entries => (.table (Draft.valueEntries entries), rest)

/-- A value that is neither an array nor an inline table. -/
def plainValue : Reader Value
  | [] => none
  | c :: rest =>
    if isQuote c then (string (c :: rest)).map fun (found, tail) => (.string found, tail)
    else scalar (c :: rest)

/-- A value with no more than `depth` arrays and inline tables within each other. -/
def value : Nat → Reader Value
  | depth + 1, '[' :: rest =>
    (items (value depth) rest).map fun (found, tail) => (.array found, tail)
  | depth + 1, '{' :: rest => inlineTable (value depth) rest
  | _, text => plainValue text

/-! ## Lines -/

/-- A header without its first bracket: whether it opens a table of an array, and its path. -/
def header (text : List Char) : Option ((Bool × List String) × List Char) :=
  match text with
  | '[' :: rest =>
    match keyPath rest with
    | some (path, ']' :: ']' :: after) => some ((true, path), after)
    | _ => none
  | rest =>
    match keyPath rest with
    | some (path, ']' :: after) => some ((false, path), after)
    | _ => none

/-- Opens the table that a header names. -/
def openHeader (inArray : Bool) (path : List String) (entries : Draft.Entries) :
    Option Draft.Entries :=
  match path.reverse with
  | [] => none
  | key :: front =>
    Draft.within (if inArray then Draft.openItem key else Draft.openTable key) front.reverse entries

/-- Reads one line that is neither blank nor a comment: a header, which moves to its table, or a
key with its value, which goes into the table of the last header. -/
def line (place : List String) (entries : Draft.Entries) :
    Reader (List String × Draft.Entries)
  | '[' :: text => do
    let ((inArray, path), text) ← header text
    let entries ← openHeader inArray path entries
    some ((path, entries), text)
  | text => do
    let ((path, found), text) ← keyValue (value (nestingLimit - 1)) text
    let entries ← Draft.within (Draft.assign path found) place entries
    some ((place, entries), text)

/-- Reads lines to the end of the text. -/
def lines (place : List String) (entries : Draft.Entries) (text : List Char) :
    Option Draft.Entries :=
  match skipComment (skipSpaces text) with
  | [] => some entries
  | c :: rest =>
    match newline (c :: rest) with
    | some after => if after.length < text.length then lines place entries after else none
    | none =>
      match line place entries (c :: rest) with
      | none => none
      | some ((place, entries), rest) =>
        match lineEnd rest with
        | none => none
        | some after => if after.length < text.length then lines place entries after else none
termination_by text.length

/-- The text without a byte order mark at its front. -/
def skipMark : List Char → List Char
  | c :: rest => if c.toNat = 0xFEFF then rest else c :: rest
  | [] => []

/-- The entries of a document; none when the text is no document. -/
def read (text : String) : Option (List (String × Value)) :=
  (lines [] [] (skipMark text.toList)).map Draft.valueEntries

end Toml
end InlineTag
