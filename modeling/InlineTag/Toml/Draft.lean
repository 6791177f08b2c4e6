import InlineTag.Toml.Value

/-!
# InlineTag.Toml.Draft

A table under construction. What may still be added to a table depends on how it came to be: by a
header of its own, only as a part of a longer header, or as a part of a dotted key. A table may
have one header; dotted keys may only go on in tables that dotted keys made, or pass through
tables that have no header yet; values written in one piece are closed.
-/

namespace InlineTag
namespace Toml

inductive Origin where
  /-- Named by a header of its own. -/
  | header
  /-- Named by the front of a longer header only. -/
  | passage
  /-- Named by a dotted key. -/
  | dotted
  deriving DecidableEq, Repr

inductive Draft where
  /-- A value written in one piece. -/
  | closed (value : Value)
  | table (origin : Origin) (entries : List (String × Draft))
  /-- The tables of an array that headers in double brackets fill, in order. -/
  | tables (items : List (List (String × Draft)))
  deriving Inhabited

namespace Draft

abbrev Entries := List (String × Draft)

/-- Replaces the draft of a key where it stands. -/
def replace (key : String) (draft : Draft) : Entries → Entries
  | [] => []
  | (other, kept) :: rest =>
    if other = key then (key, draft) :: rest else (other, kept) :: replace key draft rest

/-- Removes a key. -/
def remove (key : String) (entries : Entries) : Entries :=
  entries.filter fun entry => entry.1 != key

/-- Changes the last of a list of tables. -/
def changeLast (change : Entries → Option Entries) : List Entries → Option (List Entries)
  | [] => none
  | [last] => (change last).map fun entries => [entries]
  | item :: rest => (changeLast change rest).map fun items => item :: items

/-! ## Headers -/

/-- Changes the table that a header path leads to. The path goes through the last table of an
array, and makes the tables that are missing. -/
def within (change : Entries → Option Entries) : List String → Entries → Option Entries
  | [], entries => change entries
  | key :: path, entries =>
    match entries.lookup key with
    | none => (within change path []).map fun inner => entries ++ [(key, .table .passage inner)]
    | some (.closed _) => none
    | some (.table origin inner) =>
      (within change path inner).map fun inner => replace key (.table origin inner) entries
    | some (.tables items) =>
      (changeLast (within change path) items).map fun items => replace key (.tables items) entries

/-- Opens a table by its own header. A table that was only passed through before moves to the end
of its parent. -/
def openTable (key : String) (entries : Entries) : Option Entries :=
  match entries.lookup key with
  | none => some (entries ++ [(key, .table .header [])])
  | some (.table .passage inner) => some (remove key entries ++ [(key, .table .header inner)])
  | _ => none

/-- Opens one more table of an array. -/
def openItem (key : String) (entries : Entries) : Option Entries :=
  match entries.lookup key with
  | none => some (entries ++ [(key, .tables [[]])])
  | some (.tables items) => some (replace key (.tables (items ++ [[]])) entries)
  | _ => none

/-! ## Values -/

/-- Adds a key that must be new. -/
def add (key : String) (value : Value) (entries : Entries) : Option Entries :=
  match entries.lookup key with
  | none => some (entries ++ [(key, .closed value)])
  | some _ => none

/-- Adds a key behind the front of a dotted key, which has led to a table of the given origin. -/
def assignIn (key : String) (value : Value) : List String → Origin → Entries → Option Entries
  | [], origin, entries => if origin = .dotted then add key value entries else none
  | part :: path, _, entries =>
    match entries.lookup part with
    | none =>
      (assignIn key value path .dotted []).map fun inner =>
        entries ++ [(part, .table .dotted inner)]
    | some (.closed _) => none
    | some (.table .header _) => none
    | some (.table origin inner) =>
      (assignIn key value path origin inner).map fun inner =>
        replace part (.table origin inner) entries
    | some (.tables items) =>
      (changeLast (assignIn key value path .header) items).map fun items =>
        replace part (.tables items) entries

/-- Adds a dotted key to a table. -/
def assign (path : List String) (value : Value) (entries : Entries) : Option Entries :=
  match path.reverse with
  | [] => none
  | [key] => add key value entries
  | key :: front => assignIn key value front.reverse .header entries

/-! ## The finished value -/

mutual

def value : Draft → Value
  | .closed value => value
  | .table _ entries => .table (valueEntries entries)
  | .tables items => .array (valueItems items)

def valueEntries : List (String × Draft) → List (String × Value)
  | [] => []
  | (key, draft) :: rest => (key, value draft) :: valueEntries rest

def valueItems : List (List (String × Draft)) → List Value
  | [] => []
  | entries :: rest => .table (valueEntries entries) :: valueItems rest

end

end Draft
end Toml
end InlineTag
