import InlineTag.Text.Cut
import InlineTag.Text.Quoted

/-!
# InlineTag.Fault

Everything that can go wrong, as causes. Each fault has a message, a text for the user with
suggestions, a code for the program to exit with, and a description for the reader of a log.
-/

namespace InlineTag

open Text

/-- Faults of the engine itself. -/
inductive TagFault where
  | undefinedType (type : String)
  | noHandler (type : String)
  deriving DecidableEq, Repr, Inhabited

/-- Why the contents of a file could not be had. -/
inductive ReadFault where
  | isDirectory
  | notDirectory
  | notUnicode
  /-- What the system said, with the number and the kind of its fault. -/
  | system (code : Nat) (kind text : String)
  | other (text : String)
  deriving DecidableEq, Repr, Inhabited

/-- Why a text is no configuration: it is no document at all, or one of another shape. -/
inductive DocumentFault where
  | malformed
  | unknownField (name : String) (expected : String)
  | invalidType (found expected : String)
  /-- A text that should give a date or time and gives none. -/
  | invalidMoment (text : String)
  deriving DecidableEq, Repr, Inhabited

inductive Fault where
  | tag (fault : TagFault)
  /-- No configuration file at a path, or above it. -/
  | configNotFound (path : String)
  /-- A name that is not allowed, or bad data on the command line. -/
  | config (message : String)
  | read (fault : ReadFault)
  | document (fault : DocumentFault)
  deriving DecidableEq, Repr, Inhabited

/-! ## Messages -/

def TagFault.message : TagFault → String
  | .undefinedType type => "Undefined tag type: " ++ type
  | .noHandler type => "Invalid render handler for tag type: " ++ type

def ReadFault.message : ReadFault → String
  | .isDirectory => "Is a directory (os error 21)"
  | .notDirectory => "Not a directory (os error 20)"
  | .notUnicode => "stream did not contain valid UTF-8"
  | .system code _ text => text ++ " (os error " ++ toString code ++ ")"
  | .other text => text

def DocumentFault.message : DocumentFault → String
  | .malformed => "not a valid document"
  | .unknownField name expected => "unknown field `" ++ name ++ "`, expected " ++ expected
  | .invalidType found expected => "invalid type: " ++ found ++ ", expected " ++ expected
  | .invalidMoment text => "not a date or time: " ++ text

namespace Fault

def message : Fault → String
  | .tag fault => fault.message
  | .configNotFound path => "No macrotag config found from: " ++ path
  | .config message => "Configuration error: " ++ message
  | .read fault => "IO error: " ++ fault.message
  | .document fault => "TOML deserialization error: " ++ fault.message

/-- A missing configuration, an unknown type and a missing handler have codes of their own. -/
def exitCode : Fault → Nat
  | .configNotFound _ => 2
  | .tag (.undefinedType _) => 3
  | .tag (.noHandler _) => 4
  | _ => 1

/-- Whether a message is about the data given on the command line, told by the option's name. -/
def mentionsData (message : String) : Bool :=
  Text.contains "--data".toList message.toList

/-- The text for the user. -/
def display : Fault → String
  | .configNotFound path =>
    "No macrotag config found from: " ++ path ++ "\n\n" ++
      "Suggestions:\n" ++
      "• Create a macrotag.toml in this directory or a parent\n" ++
      "• Pass a config file explicitly: macrotag --config path/to/macrotag.toml\n" ++
      "• Set MACROTAG_CONFIG environment variable to your config path"
  | .tag (.undefinedType type) =>
    "Undefined tag type: '" ++ type ++ "'\n\n" ++
      "Suggestions:\n" ++
      "• Check the spelling (tag types are case-sensitive)\n" ++
      "• Use 'macrotag types' to see registered tag types\n" ++
      "• Declare it in macrotag.toml under [types." ++ type ++ "]"
  | .tag (.noHandler type) =>
    "Invalid render handler for tag type: '" ++ type ++ "'\n\n" ++
      "Suggestions:\n" ++
      "• Add a template to [types." ++ type ++ "] in macrotag.toml\n" ++
      "• Use 'macrotag parse' to inspect the tag without rendering it"
  | .config message =>
    if mentionsData message then
      message ++ "\n\n" ++
        "Expected format: key=value\n" ++
        "Example: macrotag render \"image: cat.png\" --data page=home"
    else message
  | fault => fault.message

end Fault

/-! ## Descriptions for a log -/

def TagFault.describe : TagFault → String
  | .undefinedType type => "UndefinedTagType(" ++ quoted type ++ ")"
  | .noHandler type => "InvalidRenderHandler(" ++ quoted type ++ ")"

def ReadFault.describe : ReadFault → String
  | .isDirectory =>
    "Os \x7b code: 21, kind: IsADirectory, message: \"Is a directory\" \x7d"
  | .notDirectory =>
    "Os \x7b code: 20, kind: NotADirectory, message: \"Not a directory\" \x7d"
  | .notUnicode =>
    "Error \x7b kind: InvalidData, message: \"stream did not contain valid UTF-8\" \x7d"
  | .system code kind text =>
    "Os \x7b code: " ++ toString code ++ ", kind: " ++ kind ++ ", message: " ++ quoted text ++ " \x7d"
  | .other text => "Error \x7b kind: InvalidInput, message: " ++ quoted text ++ " \x7d"

def Fault.describe : Fault → String
  | .tag fault => "Tag(" ++ fault.describe ++ ")"
  | .configNotFound path => "ConfigNotFound(" ++ quoted path ++ ")"
  | .config message => "Config(" ++ quoted message ++ ")"
  | .read fault => "Io(" ++ fault.describe ++ ")"
  | .document fault => "TomlDeserialize(" ++ quoted fault.message ++ ")"

end InlineTag
