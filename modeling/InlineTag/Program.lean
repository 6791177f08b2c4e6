import InlineTag.CommandLine
import InlineTag.Config.Source
import InlineTag.Data
import InlineTag.Display
import InlineTag.Log

/-!
# InlineTag.Program

A run of the program: from a command line and a world to an exit code, an output, a log and perhaps
a complaint. First the configuration is loaded, then the data are read, and only then the command
is carried out. The log has no influence on anything else.
-/

namespace InlineTag

open Files Text

/-- What a run leaves behind. -/
structure Outcome where
  exit : Nat
  output : String
  /-- Everything that was reported, whether it goes into the log or not. -/
  events : List Event
  /-- The fault that ended the run. -/
  complaint : Option Fault

namespace Program

/-- The configuration that a command line asks for. -/
def config (world : World) (line : CommandLine) : Logged Config :=
  match line.config with
  | some path => Config.load world.look path.toList
  | none => Config.discover world

/-- The data on a command line. -/
def data (pairs : List String) : Logged Toml.Bag :=
  match dataBag pairs with
  | .error fault => .fail fault.toFault
  | .ok bag => .done bag

/-- The table of a configuration, filled type by type. -/
def registry (config : Config) : Logged Registry :=
  ⟨config.registryEvents, .ok config.registry⟩

/-- The list of types without white space at its end. -/
def typeList (summaries : List TypeSummary) : String :=
  String.ofList (trimEnd (TypeSummary.list summaries).toList)

/-- Carries out a command; the result is the output. -/
def perform (config : Config) (command : Command) : Logged String :=
  (registry config).andThen fun registry =>
    match command with
    | .types => .done (typeList registry.summaries ++ "\n")
    | .parse raw pairs =>
      (data pairs).andThen fun data =>
        (Logged.ofTagStep (registry.parseEvents raw)
          (registry.parse raw data config.options)).andThen fun tag => .done tag.display
    | .render raw pairs =>
      (data pairs).andThen fun data =>
        (Logged.ofTagStep (registry.parseAndRenderEvents raw data config.options)
          (registry.parseAndRender raw data config.options)).andThen fun text =>
            .done (text ++ "\n")

/-- A run of a command line in a world. -/
def run (world : World) (line : CommandLine) : Outcome :=
  let work := (config world line).andThen fun config => perform config line.command
  match work.result with
  | .ok output => ⟨0, output, work.events, none⟩
  | .error fault =>
    ⟨fault.exitCode, "", work.events ++ [.failed fault.describe], some fault⟩

/-- What a run says about the fault that ended it. -/
def complaintText : Option Fault → String
  | none => ""
  | some fault => "Error: " ++ fault.display ++ "\n"

/-- The error output of a run: the log and then the complaint. -/
def errorOutput (world : World) (line : CommandLine) (stamp : String) (outcome : Outcome) :
    String :=
  String.join (Log.lines stamp (Log.filter world.logVariable.text? line.verbose) outcome.events) ++
    complaintText outcome.complaint

/-! ## Without a command -/

def versionText : String :=
  "macrotag 0.1.0\n"

def usageText : String :=
  "Parse and render inline tag macros\n\n" ++
    "Usage: macrotag [OPTIONS] <COMMAND>\n\n" ++
    "Commands:\n" ++
    "  parse   Parse a macro and print its type, value, and attributes\n" ++
    "  render  Render a macro with its tag type's handler\n" ++
    "  types   List registered tag types\n" ++
    "  help    Print this message or the help of the given subcommand(s)\n\n" ++
    "Options:\n" ++
    "  -c, --config <PATH>  Config file declaring tag types " ++
    "(default: macrotag.toml, searched upwards)\n" ++
    "  -v, --verbose        Enable debug logging (overridden by MACROTAG_LOG)\n" ++
    "  -h, --help           Print help\n" ++
    "  -V, --version        Print version\n"

/-- Help and the version are answers, everything else is a mistake. -/
def usageExit : UsageFault → Nat
  | .help => 0
  | .version => 0
  | _ => 2

/-- What is printed instead of running a command. -/
def usageOutput : UsageFault → String
  | .help => usageText
  | .version => versionText
  | _ => ""

/-- What is wrong with a command line. -/
def usageMistake : UsageFault → String
  | .unknownCommand => "error: unrecognized subcommand"
  | .missingCommand => "error: a subcommand is required but one was not provided"
  | .missingArgument => "error: the following required arguments were not provided: <RAW>"
  | .unknownArgument => "error: unexpected argument found"
  | .invalidValue => "error: a value is required but none was supplied"
  | .repeated => "error: an argument cannot be used multiple times"
  | .surplusValue => "error: unexpected value for an argument; no more were expected"
  | _ => ""

/-- What is printed about a mistake. -/
def usageErrors : UsageFault → String
  | .help => ""
  | .version => ""
  | .nothing => usageText
  | fault => usageMistake fault ++ "\n\nFor more information, try '--help'.\n"

end Program
end InlineTag
