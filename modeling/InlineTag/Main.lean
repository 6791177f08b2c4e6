import InlineTag.Program
import Std.Time

/-!
# InlineTag.Main

The program itself. It looks at the paths that a run may ask for, lets the run happen, and prints
what the run leaves behind.
-/

namespace InlineTag
namespace Main

open Files

/-- The fault of a call of the system. -/
def readFault : IO.Error → ReadFault
  | .noFileOrDirectory _ code text => .system code.toNat "NotFound" text
  | .permissionDenied _ code text => .system code.toNat "PermissionDenied" text
  | .hardwareFault code text => .system code.toNat "Uncategorized" text
  | .otherError code text => .system code.toNat "Uncategorized" text
  | fault => .other (toString fault)

/-- Whether there is a regular file at a path of the file system. -/
def isRegular (path : List Char) : IO Bool := do
  let entry : IO.FS.DirEntry := ⟨".", String.ofList path⟩
  try
    return (← entry.path.metadata).type == .file
  catch _ =>
    return false

/-- What stands at a path of the file system. -/
def sight (path : List Char) : IO Sight := do
  let regular ← isRegular path
  try
    let content ← IO.FS.readBinFile (String.ofList path)
    return if regular then .file content else .stream content
  catch fault =>
    match fault with
    | .noFileOrDirectory .. => return .missing
    | .inappropriateType _ code _ => return if code = 21 then .directory else .notDirectory
    | other => return if regular then .locked (readFault other) else .unreadable (readFault other)

/-- What a search sees at a path. It passes over everything but regular files, and so does not wait
for the content of anything else. -/
def searchedSight (path : List Char) : IO Sight := do
  if ← isRegular path then sight path else return .missing

/-- A variable of the environment with the bytes that it has. The value is looked up among all
variables of the process, since a single one is handed out as a text whatever its bytes are. -/
def environmentVariable (name : String) : IO Variable := do
  match ← IO.getEnv name with
  | none => return .unset
  | some text =>
    try
      let bytes ← IO.FS.readBinFile "/proc/self/environ"
      let entries := Text.pieces '\x00' (bytes.toList.map fun byte => Char.ofNat byte.toNat)
      let front := name.toList ++ ['=']
      return .ofBytes <| (entries.find? front.isPrefixOf).map fun entry =>
        ⟨((entry.drop front.length).map fun c => c.toUInt8).toArray⟩
    catch _ =>
      return .text text

/-- The world of the running program, as far as a command line may ask for it. -/
def world (line : CommandLine) : IO World := do
  let current ← try pure (.ok (← IO.currentDir).toString.toList)
    catch fault => pure (.error (readFault fault))
  let configVariable ← environmentVariable "MACROTAG_CONFIG"
  let logVariable ← environmentVariable "MACROTAG_LOG"
  let sights ←
    match line.config.or configVariable.text?, current with
    | some path, _ => pure [(path.toList, ← sight path.toList)]
    | none, .ok directory =>
      (Config.candidates directory).mapM fun path => return (path, ← searchedSight path)
    | none, .error _ => pure []
  let look (path : List Char) : Sight := (sights.lookup path).getD .missing
  return ⟨look, current, configVariable, logVariable⟩

/-- The present time, as it stands in front of a line of the log. -/
def stamp : IO String := do
  let time := Std.Time.DateTime.ofTimestamp (← Std.Time.Timestamp.now) Std.Time.TimeZone.ZoneRules.UTC
  return time.format "uuuu-MM-dd'T'HH:mm:ss.SSSSSS'Z'"

def start (arguments : List String) : IO UInt32 := do
  let output ← IO.getStdout
  let errors ← IO.getStderr
  match CommandLine.read arguments with
  | .error fault =>
    output.putStr (Program.usageOutput fault)
    errors.putStr (Program.usageErrors fault)
    return (Program.usageExit fault).toUInt32
  | .ok line =>
    let world ← world line
    let outcome := Program.run world line
    errors.putStr (Program.errorOutput world line (← stamp) outcome)
    output.putStr outcome.output
    return outcome.exit.toUInt32

end Main
end InlineTag

def main (arguments : List String) : IO UInt32 :=
  InlineTag.Main.start arguments
