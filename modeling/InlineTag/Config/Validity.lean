import InlineTag.Config
import InlineTag.Fault

/-!
# InlineTag.Config.Validity

Which names a configuration may use. The name of a type is not empty, has no colon in it and no
white space at either end; the name of an attribute is not empty and has neither a colon nor white
space in it; and only an attribute of the type may have a default. Types are looked at in ascending
order of names, and in each type first its name, then its attributes as they are listed, then its
defaults in ascending order. The first fault is the one reported.
-/

namespace InlineTag

open Text

inductive NameFault where
  | badType (type : String)
  | badAttribute (word type : String)
  | strayDefault (word type : String)
  deriving DecidableEq, Repr, Inhabited

namespace NameFault

def message : NameFault → String
  | .badType type => "Invalid tag type name: '" ++ type ++ "'"
  | .badAttribute word type =>
    "Invalid attribute name '" ++ word ++ "' for tag type '" ++ type ++ "'"
  | .strayDefault word type =>
    "Default for undeclared attribute '" ++ word ++ "' in tag type '" ++ type ++ "'"

def toFault (fault : NameFault) : Fault :=
  .config fault.message

end NameFault

/-- Whether a type may have the name. -/
def isTypeName (name : String) : Bool :=
  trim name.toList == name.toList && !name.isEmpty && !name.toList.contains ':'

/-- Whether an attribute may have the name. -/
def isAttributeName (name : String) : Bool :=
  !name.isEmpty && !name.toList.contains ':' && !name.toList.any isBlank

/-- The first fault of a type. -/
def TypeConfig.fault? (type : TypeConfig) (name : String) : Option NameFault :=
  if !isTypeName name then some (.badType name)
  else
    match type.attributes.find? fun word => !isAttributeName word with
    | some word => some (.badAttribute word name)
    | none =>
      match type.defaults.names.find? fun key => !type.attributes.contains key with
      | some key => some (.strayDefault key name)
      | none => none

/-- The first fault of a configuration. -/
def Config.fault? (config : Config) : Option NameFault :=
  config.types.entries.findSome? fun (name, type) => type.fault? name

end InlineTag
