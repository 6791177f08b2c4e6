import InlineTag.Files.Tree

/-!
# InlineTag.Files.World

What a run of the program can see of the world around it. Nothing else can have an influence on
what it does.
-/

namespace InlineTag
namespace Files

/-- A variable of the environment. The system holds bytes, and these need not be a text. -/
inductive Variable where
  | unset
  | text (value : String)
  | foreign (bytes : ByteArray) (notText : ¬ bytes.IsValidUTF8)

namespace Variable

/-- A variable with the bytes of its value, if it has one. -/
def ofBytes : Option ByteArray → Variable
  | none => .unset
  | some bytes =>
    if h : bytes.IsValidUTF8 then .text (String.fromUTF8 bytes h) else .foreign bytes h

/-- A variable with a text, or without a value. -/
def ofText : Option String → Variable
  | none => .unset
  | some value => .text value

/-- The text of a variable. One that holds no text counts as unset. -/
def text? : Variable → Option String
  | .text value => some value
  | _ => none

end Variable

structure World where
  /-- What stands at each path. -/
  look : List Char → Sight
  /-- The current directory, unless it is gone or may not be asked for. -/
  current : Except ReadFault (List Char)
  /-- The variable of the environment that names a configuration file. -/
  configVariable : Variable
  /-- The variable of the environment that says what goes into the log. -/
  logVariable : Variable

namespace World

/-- The world of a tree of files, seen from one of its directories. -/
def ofTree (tree : Tree) (current : List Char) (configVariable logVariable : Option String) :
    World where
  look := tree.look current
  current := .ok current
  configVariable := .ofText configVariable
  logVariable := .ofText logVariable

end World
end Files
end InlineTag
