import Mathlib
import InlineTag.Program

/-!
# InlineTag.Proofs.ConfigSources

Which file a run takes its configuration from, and that it looks at no other.

* `Chosen`: the one path at which a run looks for its configuration.
* `Unloaded`, `Loaded`: what comes of looking there, with the code to exit with.
* `Program.config_of_loaded`, `Program.config_of_unloaded`: loading gives that and nothing else.
* `Program.loaded_or_unloaded`: one of the two always holds.
* `Program.run_of_same_file`: worlds with the same file at a given path cannot be told apart.
* `Program.sources_passed_over`: a variable that holds no text, and a path with a later one behind
  it.
-/

namespace InlineTag

open Files

/-! ## The chosen path -/

/-- The directory has a configuration file. -/
def HasConfig (world : World) (directory : List Char) : Prop :=
  (world.look (join directory Config.fileName)).isFile = true

/-- A run searches from its current directory, if it has one: no path is given on the command line,
and the environment has no text that names one. -/
structure Searches (world : World) (given : Option String)
    (current : Except ReadFault (List Char)) : Prop where
  given_none : given = none
  variable_none : world.configVariable.text? = none
  current_eq : world.current = current

/-- The path at which a run looks for its configuration: the one on the command line, or else the
one in the environment, or else the nearest file, from the current directory upwards. -/
inductive Chosen (world : World) : Option String → List Char → Prop where
  | given (path : String) : Chosen world (some path) path.toList
  | environment {path : String} (hvariable : world.configVariable = .text path) :
      Chosen world none path.toList
  | nearest {given : Option String} {below above : List (List Char)} {start directory : List Char}
      (hsearches : Searches world given (.ok start))
      (hancestors : ancestors start = below ++ directory :: above)
      (hbelow : ∀ other ∈ below, ¬ HasConfig world other) (hfile : HasConfig world directory) :
      Chosen world given (join directory Config.fileName)

/-- There is no file from the current directory upwards. -/
structure Nowhere (world : World) (given : Option String) (start : List Char) : Prop where
  searches : Searches world given (.ok start)
  no_file : ∀ directory ∈ ancestors start, ¬ HasConfig world directory

/-- The configuration that the chosen file holds. -/
def Loaded (world : World) (given : Option String) (config : Config) : Prop :=
  ∃ path text, Chosen world given path ∧ (world.look path).text = .ok text ∧
    Config.read text = .ok config

/-- Why there is no configuration, and the code that a run exits with. -/
inductive Unloaded (world : World) (given : Option String) : Fault → Nat → Prop where
  | missing {path : List Char} (hchosen : Chosen world given path)
      (hlook : world.look path = .missing) :
      Unloaded world given (.configNotFound (String.ofList path)) 2
  | nowhere {start : List Char} (hnowhere : Nowhere world given start) :
      Unloaded world given (.configNotFound (String.ofList start)) 2
  | placeless {fault : ReadFault} (hsearches : Searches world given (.error fault)) :
      Unloaded world given (.read fault) 1
  | unreadable {path : List Char} {fault : ReadFault} (hchosen : Chosen world given path)
      (hlook : world.look path ≠ .missing) (htext : (world.look path).text = .error fault) :
      Unloaded world given (.read fault) 1
  | malformed {path : List Char} {text : String} {fault : DocumentFault}
      (hchosen : Chosen world given path) (htext : (world.look path).text = .ok text)
      (hread : Config.read text = .error (.document fault)) :
      Unloaded world given (.document fault) 1
  | misnamed {path : List Char} {text : String} {fault : NameFault}
      (hchosen : Chosen world given path) (htext : (world.look path).text = .ok text)
      (hread : Config.read text = .error fault.toFault) :
      Unloaded world given fault.toFault 1

theorem Unloaded.code_eq {world : World} {given : Option String} {fault : Fault} {code : Nat}
    (h : Unloaded world given fault code) : code = fault.exitCode := by
  cases h <;> rfl

namespace Config

variable {look : List Char → Sight} {start path : List Char}

theorem find_eq_ok {below above : List (List Char)} {directory : List Char}
    (hancestors : ancestors start = below ++ directory :: above)
    (hbelow : ∀ other ∈ below, ¬ (look (join other fileName)).isFile = true)
    (hfile : (look (join directory fileName)).isFile = true) :
    find look start = .ok (join directory fileName) := by
  have hfound : (candidates start).find? (fun candidate => (look candidate).isFile) =
      some (join directory fileName) := by
    refine List.find?_eq_some_iff_append.mpr ⟨hfile, below.map fun other => join other fileName,
      above.map fun other => join other fileName, ?_, ?_⟩
    · rw [candidates, hancestors, List.map_append, List.map_cons]
    · intro candidate hcandidate
      obtain ⟨other, hother, rfl⟩ := List.mem_map.mp hcandidate
      simpa using hbelow other hother
  rw [find, hfound]

theorem find_eq_error
    (hnone : ∀ directory ∈ ancestors start, ¬ (look (join directory fileName)).isFile = true) :
    find look start = .error (.configNotFound (String.ofList start)) := by
  have hfound : (candidates start).find? (fun candidate => (look candidate).isFile) = none := by
    refine List.find?_eq_none.mpr fun candidate hcandidate => ?_
    obtain ⟨directory, hdirectory, rfl⟩ := List.mem_map.mp hcandidate
    exact hnone directory hdirectory
  rw [find, hfound]

theorem load_of_missing (h : look path = .missing) :
    load look path = .fail (.configNotFound (String.ofList path)) := by
  rw [load, h]

theorem load_of_error {fault : ReadFault} (hlook : look path ≠ .missing)
    (htext : (look path).text = .error fault) : load look path = .fail (.read fault) := by
  rw [load]
  split
  · rename_i hmissing
    exact absurd hmissing hlook
  · rw [htext]

theorem load_of_ok {text : String} (htext : (look path).text = .ok text) :
    load look path = ⟨[.loading (String.ofList path)], read text⟩ := by
  rw [load]
  split
  · rename_i hmissing
    rw [hmissing] at htext
    cases htext
  · rw [htext]

theorem load_congr {other : List Char → Sight} (h : other path = look path) :
    load other path = load look path := by
  rw [load, load, h]

end Config

namespace Program

variable {world other : World} {line : CommandLine} {path : List Char} {config : Config}
  {fault : Fault}

/-- A run loads the chosen file. -/
theorem config_of_chosen (h : Chosen world line.config path) :
    Program.config world line = Config.load world.look path := by
  rw [Program.config]
  generalize line.config = given at h
  cases h with
  | given => rfl
  | environment hvariable => simp only [Config.discover, hvariable, Variable.text?]
  | nearest hsearches hancestors hbelow hfile =>
    obtain ⟨rfl, hvariable, hcurrent⟩ := hsearches
    simp only [Config.discover, hvariable, hcurrent, Config.find_eq_ok hancestors hbelow hfile]

theorem config_of_nowhere {start : List Char} (h : Nowhere world line.config start) :
    Program.config world line = .fail (.configNotFound (String.ofList start)) := by
  obtain ⟨⟨hgiven, hvariable, hcurrent⟩, hnone⟩ := h
  simp only [Program.config, hgiven, Config.discover, hvariable, hcurrent,
    Config.find_eq_error hnone]

theorem config_of_placeless {fault : ReadFault} (h : Searches world line.config (.error fault)) :
    Program.config world line = .fail (.read fault) := by
  obtain ⟨hgiven, hvariable, hcurrent⟩ := h
  simp only [Program.config, hgiven, Config.discover, hvariable, hcurrent]

theorem config_of_unloaded {code : Nat} (h : Unloaded world line.config fault code) :
    (Program.config world line).result = .error fault := by
  cases h with
  | missing hchosen hlook =>
    rw [config_of_chosen hchosen, Config.load_of_missing hlook]
    rfl
  | nowhere hnowhere =>
    rw [config_of_nowhere hnowhere]
    rfl
  | placeless hsearches =>
    rw [config_of_placeless hsearches]
    rfl
  | unreadable hchosen hlook htext =>
    rw [config_of_chosen hchosen, Config.load_of_error hlook htext]
    rfl
  | malformed hchosen htext hread =>
    rw [config_of_chosen hchosen, Config.load_of_ok htext]
    exact hread
  | misnamed hchosen htext hread =>
    rw [config_of_chosen hchosen, Config.load_of_ok htext]
    exact hread

theorem run_congr (h : Program.config other line = Program.config world line) :
    run other line = run world line := by
  rw [run, run, h]

theorem run_of_unloaded {code : Nat} (h : Unloaded world line.config fault code) :
    (run world line).exit = code ∧ (run world line).output = "" ∧
      (run world line).complaint = some fault := by
  have hconfig := config_of_unloaded h
  have hwork : ((Program.config world line).andThen fun config =>
      perform config line.command).result = .error fault := by
    rw [Logged.andThen, hconfig]
  rw [run, hwork, h.code_eq]
  exact ⟨rfl, rfl, rfl⟩

/-- A path that is given decides which file is read, and the file decides the run: what else the
environment says and what other files there are makes no difference. A file that cannot be read is
reported, and no other file is looked for. The path is that of the command line as it was read, or
else the text of the variable. -/
theorem run_of_same_file (world other : World) (line : CommandLine) (path : String) :
    (line.config = some path → other.look path.toList = world.look path.toList →
      run other line = run world line) ∧
    (line.config = none → world.configVariable = .text path → other.configVariable = .text path →
      other.look path.toList = world.look path.toList → run other line = run world line) ∧
    (line.config = some path ∨ line.config = none ∧ world.configVariable = .text path →
      ∀ fault, (world.look path.toList).text = .error fault →
        (run world line).output = "" ∧
          (world.look path.toList = .missing ∧ (run world line).exit = 2 ∧
              (run world line).complaint = some (.configNotFound path) ∨
            world.look path.toList ≠ .missing ∧ (run world line).exit = 1 ∧
              (run world line).complaint = some (.read fault))) := by
  have hchosen : ∀ world : World,
      line.config = some path ∨ line.config = none ∧ world.configVariable = .text path →
      Chosen world line.config path.toList := by
    rintro world (hgiven | ⟨hnone, hvariable⟩)
    · rw [hgiven]
      exact .given path
    · rw [hnone]
      exact .environment hvariable
  have hsame : Chosen other line.config path.toList → Chosen world line.config path.toList →
      other.look path.toList = world.look path.toList → run other line = run world line := by
    intro hother hworld hlook
    refine run_congr ?_
    rw [config_of_chosen hother, config_of_chosen hworld, Config.load_congr hlook]
  refine ⟨?_, ?_, ?_⟩
  · intro hgiven
    exact hsame (hchosen other (.inl hgiven)) (hchosen world (.inl hgiven))
  · intro hnone hvariable hother
    exact hsame (hchosen other (.inr ⟨hnone, hother⟩)) (hchosen world (.inr ⟨hnone, hvariable⟩))
  · intro hgiven fault htext
    by_cases hlook : world.look path.toList = .missing
    · obtain ⟨hexit, houtput, hcomplaint⟩ :=
        run_of_unloaded (.missing (hchosen world hgiven) hlook)
      rw [String.ofList_toList] at hcomplaint
      exact ⟨houtput, .inl ⟨hlook, hexit, hcomplaint⟩⟩
    · obtain ⟨hexit, houtput, hcomplaint⟩ :=
        run_of_unloaded (.unreadable (hchosen world hgiven) hlook htext)
      exact ⟨houtput, .inr ⟨hlook, hexit, hcomplaint⟩⟩

/-- Two worlds with one file in common, other files of the name that is searched for, and another
path in the environment. A file that is missing is not looked for elsewhere. -/
theorem run_of_same_file_elsewhere :
    ∃ (world other : World) (line : CommandLine), line.config = some "tags.toml" ∧
      (world.look "macrotag.toml".toList).isFile = true ∧
      (other.look "macrotag.toml".toList).isFile = false ∧
      world.configVariable ≠ other.configVariable ∧
      run other line = run world line ∧ (run world line).output = "a\n" ∧
      run { other with configVariable := .text "tags.toml" } { line with config := none } =
        run { world with configVariable := .text "tags.toml" } { line with config := none } ∧
      (run world { line with config := some "gone.toml" }).exit = 2 ∧
      (run world { line with config := some "gone.toml" }).complaint =
        some (.configNotFound "gone.toml") := by
  let tags : List (List Char) × ByteArray :=
    (["site".toList, "tags.toml".toList], "[types.t]\ntemplate = 'a'".toUTF8)
  let here : Tree := ⟨[tags, (["site".toList, Config.fileName], "".toUTF8)], []⟩
  let above : Tree := ⟨[tags, ([Config.fileName], "types = 1".toUTF8)], []⟩
  let world : World := .ofTree here "/site".toList none none
  let other : World := .ofTree above "/site".toList (some "gone.toml") (some "off")
  let line : CommandLine := ⟨some "tags.toml", false, .render "t" []⟩
  have hlook : other.look "tags.toml".toList = world.look "tags.toml".toList := by rfl
  have hgone : world.look "gone.toml".toList = .missing := by rfl
  have hvariable : world.configVariable ≠ other.configVariable := Variable.noConfusion
  have hgiven := (run_of_same_file world other line "tags.toml").1 rfl hlook
  have hnamed := (run_of_same_file { world with configVariable := .text "tags.toml" }
    { other with configVariable := .text "tags.toml" } { line with config := none }
    "tags.toml").2.1 rfl rfl rfl hlook
  have hmissing := (run_of_same_file world other { line with config := some "gone.toml" }
    "gone.toml").2.2 (.inl rfl) _ (congrArg Sight.text hgone)
  obtain ⟨-, ⟨-, hexit, hcomplaint⟩ | ⟨hread, -, -⟩⟩ := hmissing
  · exact ⟨world, other, line, rfl, rfl, rfl, hvariable, hgiven, by cbv, hnamed, hexit, hcomplaint⟩
  · exact absurd hgone hread

/-- Two sources that are passed over. A variable holds the same bytes in two worlds; they are no
text, and there is no file but the one that is searched for. It differs, and so do the runs, which
find it and show what it says. And a path on the command line at which there is no file is not
reported when a later one stands behind the command. -/
theorem sources_passed_over :
    (∃ (bytes : ByteArray) (notText : ¬ bytes.IsValidUTF8) (here there : Tree) (line : CommandLine),
      let world := { World.ofTree here ['/'] none none with
        configVariable := .foreign bytes notText }
      let other := { World.ofTree there ['/'] none none with
        configVariable := .foreign bytes notText }
      line.config = none ∧ here.files.map (·.1) = [[Config.fileName]] ∧
      there.files.map (·.1) = [[Config.fileName]] ∧
      (run world line).exit = 0 ∧ (run world line).output = "a\n" ∧
      (run other line).exit = 0 ∧ (run other line).output = "b\n") ∧
    ∃ (world : World) (line : CommandLine),
      CommandLine.read ["--config", "gone.toml", "types", "--config", "tags.toml"] = .ok line ∧
      world.look "gone.toml".toList = .missing ∧ (run world line).exit = 0 ∧
      (run world line).complaint = none := by
  let bytes : ByteArray := ⟨#[0xff, 0x2e, 0x74, 0x6f, 0x6d, 0x6c]⟩
  have notText : ¬ bytes.IsValidUTF8 := by decide
  let here : Tree := ⟨[([Config.fileName], "[types.t]\ntemplate = 'a'".toUTF8)], []⟩
  let there : Tree := ⟨[([Config.fileName], "[types.t]\ntemplate = 'b'".toUTF8)], []⟩
  let world : World := .ofTree ⟨[(["tags.toml".toList], "".toUTF8)], []⟩ ['/'] none none
  let line : CommandLine := ⟨none, false, .render "t" []⟩
  let later : CommandLine := ⟨some "tags.toml", false, .types⟩
  refine ⟨⟨bytes, notText, here, there, line, rfl, rfl, rfl, ?_, ?_, ?_, ?_⟩,
    world, later, ?_, ?_, ?_, ?_⟩
  all_goals cbv

end Program
end InlineTag
