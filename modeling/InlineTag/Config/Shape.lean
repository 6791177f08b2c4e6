import InlineTag.Config
import InlineTag.Toml.MomentReader
import InlineTag.Toml.Value

/-!
# InlineTag.Config.Shape

The shape of a configuration document: the two tables `types` and `options`, and in each type a
list of attributes, a template and a table of defaults. Everything may be missing and nothing may
be added. Faults are found in the order of the document, and the first one is reported.

Two shapes are let in besides. A type may be an array, whose items are taken for the attributes,
the template and the defaults, in this order. And a date or time counts as a table with one entry,
under a key of its own; in turn, a table among the options whose first key is that one is read as a
date or time.
-/

namespace InlineTag
namespace Config

open Text Toml

/-- What a value is, in the report of a value at the wrong place. -/
def found : Value → String
  | .string text => "string " ++ quoted text
  | .integer number => "integer `" ++ toString number ++ "`"
  | .float number => "floating point `" ++ number.reported ++ "`"
  | .boolean truth => "boolean `" ++ toString truth ++ "`"
  | .moment _ => "map"
  | .array _ => "sequence"
  | .table _ => "map"

def misplaced {α : Type} (value : Value) (expected : String) : Except DocumentFault α :=
  .error (.invalidType (found value) expected)

/-! ## The parts -/

def readText : Value → Except DocumentFault String
  | .string text => .ok text
  | value => misplaced value "a string"

def readTexts : List Value → Except DocumentFault (List String)
  | [] => .ok []
  | item :: rest =>
    match readText item with
    | .error fault => .error fault
    | .ok text =>
      match readTexts rest with
      | .error fault => .error fault
      | .ok texts => .ok (text :: texts)

def readAttributes : Value → Except DocumentFault (List String)
  | .array items => readTexts items
  | value => misplaced value "a sequence"

/-- The entries of a table. -/
def readEntries : Value → Except DocumentFault (List (String × Value))
  | .table entries => .ok entries
  | .moment instant => .ok [(momentKey, .string instant.text)]
  | value => misplaced value "a map"

def readDefaultEntries : List (String × Value) → Except DocumentFault (List (String × String))
  | [] => .ok []
  | (key, value) :: rest =>
    match readText value with
    | .error fault => .error fault
    | .ok text =>
      match readDefaultEntries rest with
      | .error fault => .error fault
      | .ok defaults => .ok ((key, text) :: defaults)

def readDefaults (value : Value) : Except DocumentFault (NameMap String) :=
  match readEntries value with
  | .error fault => .error fault
  | .ok entries =>
    match readDefaultEntries entries with
    | .error fault => .error fault
    | .ok defaults => .ok (NameMap.ofList defaults)

/-! ## Types -/

/-- One part of a type, by its key. -/
def readPart (type : TypeConfig) (key : String) (value : Value) :
    Except DocumentFault TypeConfig :=
  if key = "attributes" then
    match readAttributes value with
    | .error fault => .error fault
    | .ok attributes => .ok { type with attributes }
  else if key = "template" then
    match readText value with
    | .error fault => .error fault
    | .ok template => .ok { type with template := some template }
  else if key = "defaults" then
    match readDefaults value with
    | .error fault => .error fault
    | .ok defaults => .ok { type with defaults }
  else .error (.unknownField key "one of `attributes`, `template`, `defaults`")

/-- The parts of a type, one after the other. -/
def readParts (type : TypeConfig) : List (String × Value) → Except DocumentFault TypeConfig
  | [] => .ok type
  | (key, value) :: rest =>
    match readPart type key value with
    | .error fault => .error fault
    | .ok type => readParts type rest

/-- The parts of a type in the order in which an array gives them. -/
def partKeys : List String :=
  ["attributes", "template", "defaults"]

def readType : Value → Except DocumentFault TypeConfig
  | .table entries => readParts {} entries
  | .moment instant => readParts {} [(momentKey, .string instant.text)]
  | .array items => readParts {} (partKeys.zip items)
  | value => misplaced value "struct TypeConfig"

def readTypeEntries :
    List (String × Value) → Except DocumentFault (List (String × TypeConfig))
  | [] => .ok []
  | (name, value) :: rest =>
    match readType value with
    | .error fault => .error fault
    | .ok type =>
      match readTypeEntries rest with
      | .error fault => .error fault
      | .ok types => .ok ((name, type) :: types)

def readTypes (value : Value) : Except DocumentFault (NameMap TypeConfig) :=
  match readEntries value with
  | .error fault => .error fault
  | .ok entries =>
    match readTypeEntries entries with
    | .error fault => .error fault
    | .ok types => .ok (NameMap.ofList types)

/-! ## Options -/

def readMoment : Value → Except DocumentFault Value
  | .string text =>
    match Moment.ofText? text with
    | some instant => .ok (.moment instant)
    | none => .error (.invalidMoment text)
  | value => misplaced value "string containing a datetime"

mutual

/-- An option as it is taken over. The first key of a table tells whether it stands for a date or
time; what follows that key is then passed over. -/
def readOption : Value → Except DocumentFault Value
  | .table [] => .ok (.table [])
  | .table ((key, value) :: rest) =>
    if key = momentKey then readMoment value
    else
      match readOptionEntries ((key, value) :: rest) with
      | .error fault => .error fault
      | .ok entries => .ok (.table entries)
  | .array items =>
    match readOptionItems items with
    | .error fault => .error fault
    | .ok items => .ok (.array items)
  | value => .ok value

def readOptionItems : List Value → Except DocumentFault (List Value)
  | [] => .ok []
  | item :: rest =>
    match readOption item with
    | .error fault => .error fault
    | .ok item =>
      match readOptionItems rest with
      | .error fault => .error fault
      | .ok items => .ok (item :: items)

def readOptionEntries : List (String × Value) → Except DocumentFault (List (String × Value))
  | [] => .ok []
  | (key, value) :: rest =>
    match readOption value with
    | .error fault => .error fault
    | .ok value =>
      match readOptionEntries rest with
      | .error fault => .error fault
      | .ok entries => .ok ((key, value) :: entries)

end

/-! ## The whole -/

def readOptions (value : Value) : Except DocumentFault Bag :=
  match readEntries value with
  | .error fault => .error fault
  | .ok entries =>
    match readOptionEntries entries with
    | .error fault => .error fault
    | .ok entries => .ok (Value.bag entries)

/-- The tables of a document, one after the other. -/
def readTables (config : Config) : List (String × Value) → Except DocumentFault Config
  | [] => .ok config
  | (key, value) :: rest =>
    if key = "types" then
      match readTypes value with
      | .error fault => .error fault
      | .ok types => readTables { config with types } rest
    else if key = "options" then
      match readOptions value with
      | .error fault => .error fault
      | .ok options => readTables { config with options } rest
    else .error (.unknownField key "`types` or `options`")

/-- The configuration of a document's entries. -/
def ofEntries (entries : List (String × Value)) : Except DocumentFault Config :=
  readTables {} entries

end Config
end InlineTag
