import InlineTag.Config.Reading
import InlineTag.Files.World
import InlineTag.Logged

/-!
# InlineTag.Config.Source

Where a configuration comes from. A path on the command line is taken before one in the
environment, and only without either is a file searched for, in the current directory and then in
each directory above it. A path that was given is never given up for another, and the search ends at
the first regular file, also if that cannot be read. A variable that holds no text names no path.
-/

namespace InlineTag
namespace Config

open Files

/-- The name of the file that is searched for. -/
def fileName : List Char :=
  "macrotag.toml".toList

/-- Loads the file at a path. -/
def load (look : List Char → Sight) (path : List Char) : Logged Config :=
  match look path with
  | .missing => .fail (.configNotFound (String.ofList path))
  | sight =>
    match sight.text with
    | .error fault => .fail (.read fault)
    | .ok text => ⟨[.loading (String.ofList path)], read text⟩

/-- Where a file is searched for from a path upwards, the nearest place first. -/
def candidates (start : List Char) : List (List Char) :=
  (ancestors start).map fun directory => join directory fileName

/-- The nearest configuration file, from a path upwards. -/
def find (look : List Char → Sight) (start : List Char) : Except Fault (List Char) :=
  match (candidates start).find? fun candidate => (look candidate).isFile with
  | some path => .ok path
  | none => .error (.configNotFound (String.ofList start))

/-- The configuration that the environment names, or else the nearest one. -/
def discover (world : World) : Logged Config :=
  match world.configVariable.text? with
  | some path => load world.look path.toList
  | none =>
    match world.current with
    | .error fault => .fail (.read fault)
    | .ok current =>
      match find world.look current with
      | .error fault => .fail fault
      | .ok path => load world.look path

end Config
end InlineTag
