import InlineTag.Fault
import InlineTag.Text.Blank
import InlineTag.Toml.Value

/-!
# InlineTag.Data

The data of a tag as it is given on the command line: pairs of a key and a text with an equals sign
between them. White space around a key does not count, a text is kept as it is, and of two pairs
with one key the later holds. The first bad pair is the one reported.
-/

namespace InlineTag

open Text Toml

inductive DataFault where
  | missingEquals (pair : String)
  | emptyKey (pair : String)
  deriving DecidableEq, Repr, Inhabited

def DataFault.message : DataFault → String
  | .missingEquals pair => "Invalid --data pair: " ++ pair
  | .emptyKey pair => "Invalid --data pair (empty key): " ++ pair

def DataFault.toFault (fault : DataFault) : Fault :=
  .config fault.message

/-- The key and the text of a pair. -/
def splitPair (pair : String) : Except DataFault (String × String) :=
  match cutAt '=' pair.toList with
  | none => .error (.missingEquals pair)
  | some (key, text) =>
    if trim key = [] then .error (.emptyKey pair)
    else .ok (String.ofList (trim key), String.ofList text)

/-- Adds pairs to a bag, one after the other. -/
def addPairs (bag : Bag) : List String → Except DataFault Bag
  | [] => .ok bag
  | pair :: rest =>
    match splitPair pair with
    | .error fault => .error fault
    | .ok (key, text) => addPairs (bag.insert key (.string text)) rest

/-- The bag of a list of pairs. -/
def dataBag (pairs : List String) : Except DataFault Bag :=
  addPairs NameMap.empty pairs

end InlineTag
