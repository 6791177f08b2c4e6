import InlineTag.Handler
import InlineTag.Text.Quoted

/-!
# InlineTag.Registry

Tag types and the table of them. A type declares the attributes that its tags may have and perhaps
a handler. The table holds one type per name, the one registered last.
-/

namespace InlineTag

open Text

/-- A list without repetitions: of equal members the first stays. -/
def firstOccurrences : List String → List String
  | [] => []
  | name :: rest => name :: (firstOccurrences rest).filter (· != name)

structure TagType where
  name : String
  attributes : List String
  handler : Option Handler

namespace TagType

/-- A type with the given attributes, each kept once. -/
def declare (name : String) (attributes : List String) (handler : Option Handler) : TagType :=
  ⟨name, firstOccurrences attributes, handler⟩

def hasAttribute (type : TagType) (name : String) : Bool :=
  type.attributes.contains name

def hasHandler (type : TagType) : Bool :=
  type.handler.isSome

/-- A description of the type for the reader of a log. -/
def describe (type : TagType) : String :=
  "TagTypeDefinition \x7b name: " ++ quoted type.name ++ ", attribute_names: " ++
    quotedList type.attributes ++ ", has_handler: " ++ toString type.hasHandler ++ " \x7d"

end TagType

/-- A table of tag types; each stands under its own name. -/
structure Registry where
  types : NameMap TagType
  named : ∀ name type, types.get? name = some type → type.name = name

namespace Registry

def empty : Registry :=
  ⟨NameMap.empty, by simp⟩

instance : Inhabited Registry := ⟨empty⟩

/-- Adds a type, replacing an earlier one of the same name. -/
def register (registry : Registry) (type : TagType) : Registry where
  types := registry.types.insert type.name type
  named := by
    intro name found h
    by_cases hname : name = type.name
    · subst hname
      rw [NameMap.get?_insert_self] at h
      cases h
      rfl
    · rw [NameMap.get?_insert_ne _ hname] at h
      exact registry.named name found h

def lookup (registry : Registry) (name : String) : Option TagType :=
  registry.types.get? name

def contains (registry : Registry) (name : String) : Bool :=
  registry.types.contains name

/-- The names of the types, in ascending order. -/
def names (registry : Registry) : List String :=
  registry.types.names

def size (registry : Registry) : Nat :=
  registry.types.size

def isEmpty (registry : Registry) : Bool :=
  registry.types.isEmpty

end Registry
end InlineTag
