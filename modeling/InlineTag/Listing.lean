import InlineTag.Registry

/-!
# InlineTag.Listing

The list of the tag types, a row for each. The attributes of all rows begin in one column: every
name is filled with spaces up to the size of the largest name in UTF-8 bytes, which no name exceeds
in characters.
-/

namespace InlineTag

/-- What the list tells about a type. -/
structure TypeSummary where
  name : String
  attributes : List String
  renderable : Bool
  deriving DecidableEq, Repr, Inhabited

namespace TypeSummary

def ofType (type : TagType) : TypeSummary :=
  ⟨type.name, type.attributes, type.hasHandler⟩

def attributeText (summary : TypeSummary) : String :=
  if summary.attributes.isEmpty then "-" else ", ".intercalate summary.attributes

/-- The row of a type, with its name filled up to a width. -/
def row (width : Nat) (summary : TypeSummary) : String :=
  summary.name ++ String.ofList (List.replicate (width - summary.name.length) ' ') ++ "  " ++
    summary.attributeText ++ (if summary.renderable then "" else "  (no handler)") ++ "\n"

/-- The size of the largest name. -/
def width (summaries : List TypeSummary) : Nat :=
  summaries.foldl (fun width summary => max width summary.name.utf8ByteSize) 0

/-- The rows of all types. -/
def list (summaries : List TypeSummary) : String :=
  if summaries.isEmpty then "No tag types found"
  else String.join (summaries.map (row (width summaries)))

end TypeSummary

/-- The summaries of all types of a table, in ascending order of names. -/
def Registry.summaries (registry : Registry) : List TypeSummary :=
  registry.types.entries.map fun (_, type) => TypeSummary.ofType type

end InlineTag
