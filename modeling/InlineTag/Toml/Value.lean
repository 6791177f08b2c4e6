import InlineTag.NameMap
import InlineTag.Number.Shortest
import InlineTag.Toml.Moment

/-!
# InlineTag.Toml.Value

The values of a document. The entries of a table stand in some order: the reader keeps the order
in which the keys first appear, and `Value.ordered` puts every table, at every depth, into
ascending order of keys. A bag is a table at the top level, in that order.
-/

namespace InlineTag
namespace Toml

inductive Value where
  | string (text : String)
  | integer (number : Int)
  | float (number : Binary64)
  | boolean (truth : Bool)
  | moment (instant : Moment)
  | array (items : List Value)
  | table (entries : List (String × Value))
  deriving Inhabited

/-- The named values handed to a tag. -/
abbrev Bag := NameMap Value

namespace Value

/-! ## Equality -/

mutual

/-- Equality of values. Numbers are equal as numbers, so a NaN is equal to nothing, and an integer
is never equal to a float. -/
def same : Value → Value → Bool
  | .string a, .string b => a == b
  | .integer a, .integer b => a == b
  | .float a, .float b => a.same b
  | .boolean a, .boolean b => a == b
  | .moment a, .moment b => a == b
  | .array a, .array b => sameItems a b
  | .table a, .table b => sameEntries a b
  | _, _ => false

def sameItems : List Value → List Value → Bool
  | [], [] => true
  | a :: as, b :: bs => same a b && sameItems as bs
  | _, _ => false

def sameEntries : List (String × Value) → List (String × Value) → Bool
  | [], [] => true
  | (j, a) :: as, (k, b) :: bs => j == k && same a b && sameEntries as bs
  | _, _ => false

end

/-! ## Order of keys -/

mutual

/-- Puts the keys of all tables into ascending order. -/
def ordered : Value → Value
  | .array items => .array (orderedItems items)
  | .table entries => .table (NameMap.ofList (orderedEntries entries)).entries
  | value => value

def orderedItems : List Value → List Value
  | [] => []
  | item :: rest => ordered item :: orderedItems rest

def orderedEntries : List (String × Value) → List (String × Value)
  | [] => []
  | (key, value) :: rest => (key, ordered value) :: orderedEntries rest

end

/-- The bag of a table's entries. -/
def bag (entries : List (String × Value)) : Bag :=
  NameMap.ofList (orderedEntries entries)

/-- The text of a string; none for any other value. -/
def asText : Value → Option String
  | .string text => some text
  | _ => none

end Value

/-- Equality of bags: the same keys with equal values. -/
def Bag.same (a b : Bag) : Bool :=
  Value.sameEntries a.entries b.entries

end Toml
end InlineTag
