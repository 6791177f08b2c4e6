import Mathlib
import InlineTag.Proofs.Endings
import InlineTag.Proofs.VerboseOption

/-!
# InlineTag.Proofs.PassedRequests

A request that is passed on a command line. With each value behind the `=` of its option and the
source behind `--`, no text can be taken for anything else, whatever it begins with and however the
options are mixed.

* `CommandLine.Gives`: the options of one side of the command, and what they give.
* `CommandLine.Gives.readOptions`: what reading them adds to what has been read.
* `CommandLine.read_request`: a line of this form is read as the request it was written for, and
  there is one for each request.
-/

namespace InlineTag

/-- The word that a command is called by. -/
def Command.word : Command → String
  | .parse _ _ => "parse"
  | .render _ _ => "render"
  | .types => "types"

namespace CommandLine

/-- The options of one side, with the path, the wish for a log and the data they give. The first two
are written once at most, the data one after the other, and all of them mixed in any way. -/
inductive Gives : List String → Option String → Bool → List String → Prop where
  | nil : Gives [] none false []
  | config {arguments data : List String} {verbose : Bool} (path : String) (hpath : path ≠ "")
      (h : Gives arguments none verbose data) :
      Gives (("--config=" ++ path) :: arguments) (some path) verbose data
  | verbose {arguments data : List String} {path : Option String}
      (h : Gives arguments path false data) :
      Gives ("--verbose" :: arguments) path true data
  | data {arguments data : List String} {path : Option String} {verbose : Bool} (value : String)
      (h : Gives arguments path verbose data) :
      Gives (("--data=" ++ value) :: arguments) path verbose (value :: data)

/-- The options of a side, read one after the other. -/
def readOptions (side : Side) (given : Given) (arguments : List String) :
    Except UsageFault Given :=
  arguments.foldlM (readArgument side) given

section Steps

variable {given next : Given} {side : Side} {arguments data : List String}
  {path : Option String} {verbose : Bool}

/-! ## One option -/

/-- The name of an option has no `=` in it, so the first one ends it and what follows is the value,
be there more of them or not. -/
theorem readArgument_withValue (name : String) {option : ValueOption} (value : String)
    (hplain : given.plain = false) (hmark : '=' ∉ name.toList)
    (hoption : longOption? side name.toList = some (.withValue option)) :
    readArgument side given ("--" ++ name ++ "=" ++ value) = given.giveValue option value := by
  have htext : ("--" ++ name ++ "=" ++ value).toList =
      '-' :: '-' :: (name.toList ++ '=' :: value.toList) := by
    simp
  have hlong : readArgument side given ("--" ++ name ++ "=" ++ value) =
      readLong side given (name.toList ++ '=' :: value.toList) := by
    rw [readArgument, hplain, if_neg Bool.false_ne_true, htext]
    cases name.toList <;> rfl
  rw [hlong, readLong, Text.cutAt_append hmark]
  simp only [hoption, String.ofList_toList]

theorem readArgument_config {value : String} (hplain : given.plain = false)
    (hheld : given.held = none) (hconfig : given.config = none) (hvalue : value ≠ "") :
    readArgument side given ("--config=" ++ value) = .ok { given with config := some value } := by
  refine (readArgument_withValue "config" value hplain (by decide) rfl).trans ?_
  simp [Given.giveValue, Given.settle_of_held_none hheld, Given.enter, hconfig, hvalue]

theorem readArgument_data (value : String) (hplain : given.plain = false)
    (hheld : given.held = none) (hside : side.takesSource = true) :
    readArgument side given ("--data=" ++ value) =
      .ok { given with data := given.data ++ [value] } := by
  have hoption : longOption? side "data".toList = some (.withValue .data) := by
    simp [longOption?, hside]
  refine (readArgument_withValue "data" value hplain (by decide) hoption).trans ?_
  simp only [Given.giveValue, Given.settle_of_held_none hheld, Given.enter]

theorem readArgument_verbose (hplain : given.plain = false) (hheld : given.held = none)
    (hverbose : given.verbose = false) :
    readArgument side given "--verbose" = .ok { given with verbose := true } := by
  simp [readArgument_option hplain, Given.giveFlag, Given.settle_of_held_none hheld, hverbose]

/-! ## The options of a side -/

theorem readOptions_nil (side : Side) (given : Given) : readOptions side given [] = .ok given :=
  rfl

theorem readOptions_cons {argument : String}
    (hstep : readArgument side given argument = .ok next) :
    readOptions side given (argument :: arguments) = readOptions side next arguments := by
  rw [readOptions, List.foldlM_cons, hstep]
  rfl

/-- Reading the options adds what they give: with a path and a wish that have not been given yet, and
data on a side that takes some. -/
theorem Gives.readOptions (h : Gives arguments path verbose data) {earlierPath : Option String}
    {earlierVerbose : Bool} {earlierData : List String}
    (hpath : earlierPath = none ∨ path = none)
    (hverbose : earlierVerbose = false ∨ verbose = false)
    (hside : side.takesSource = true ∨ data = []) :
    CommandLine.readOptions side
        { config := earlierPath, verbose := earlierVerbose, data := earlierData } arguments =
      .ok { config := earlierPath.or path, verbose := earlierVerbose || verbose,
            data := earlierData ++ data } := by
  induction h generalizing earlierPath earlierVerbose earlierData with
  | nil => simp [readOptions_nil]
  | config path hne h ih =>
    obtain rfl : earlierPath = none := hpath.resolve_right (Option.some_ne_none path)
    rw [readOptions_cons (readArgument_config rfl rfl rfl hne), ih (.inr rfl) hverbose hside]
    simp
  | verbose h ih =>
    obtain rfl : earlierVerbose = false := hverbose.resolve_right (by decide)
    rw [readOptions_cons (readArgument_verbose rfl rfl rfl)]
    exact ih hpath (.inr rfl) hside
  | data value h ih =>
    have htakes : side.takesSource = true := hside.resolve_right (List.cons_ne_nil _ _)
    rw [readOptions_cons (readArgument_data value rfl rfl htakes), ih hpath hverbose (.inl htakes)]
    simp

end Steps

/-! ## The two sides of the command -/

section Sides

variable {given : Given} {name : CommandName} {arguments rest : List String}

theorem readBehind_append :
    readBehind name given (arguments ++ rest) =
      (readOptions (.behind name) given arguments).bind fun next => readBehind name next rest := by
  induction arguments generalizing given with
  | nil => rfl
  | cons argument arguments ih =>
    rw [List.cons_append, readBehind, readOptions, List.foldlM_cons]
    cases readArgument (.behind name) given argument with
    | error fault => rfl
    | ok next => exact ih

theorem readFrom_append
    (hoptions : ∀ argument ∈ arguments, argument.toList.head? = some '-') :
    readFrom given (arguments ++ rest) =
      (readOptions .before given arguments).bind fun next => readFrom next rest := by
  induction arguments generalizing given with
  | nil => rfl
  | cons argument arguments ih =>
    obtain ⟨hargument, harguments⟩ := List.forall_mem_cons.mp hoptions
    have hnone : commandName? argument = none := by
      rw [commandName?]
      split_ifs <;> simp_all
    have hhelp : argument ≠ "help" := by
      rintro rfl
      simp at hargument
    rw [List.cons_append, readFrom, readOptions, List.foldlM_cons, hnone]
    simp only [hhelp, decide_false, Bool.and_false, Bool.false_eq_true, if_false]
    cases readArgument .before given argument with
    | error fault => rfl
    | ok next => exact ih harguments

/-- Behind `--` stands the source, whatever it looks like. -/
theorem readBehind_source (raw : String) (hplain : given.plain = false) (hheld : given.held = none)
    (htakes : (Side.behind name).takesSource = true) (hraw : given.raw = none) :
    readBehind name given ["--", raw] = .ok { given with plain := true, raw := some raw } := by
  have hhyphens : readArgument (.behind name) given "--" = .ok { given with plain := true } := by
    simp [readArgument, hplain]
  have hword : readArgument (.behind name) { given with plain := true } raw =
      .ok { given with plain := true, raw := some raw } := by
    simp [readArgument, readWord, htakes, hraw, Given.settle, hheld]
  simp only [readBehind, hhyphens, hword]
  exact Given.settle_of_held_none hheld

theorem readFrom_command {word : String} (hname : commandName? word = some name)
    (hplain : given.plain = false) (hheld : given.held = none) :
    readFrom given (word :: rest) = readCommand given name rest := by
  simp [readFrom, hname, Given.awaitsValue, hplain, hheld]

theorem readCommand_of_ok {behind : Given} {command : Command}
    (hbehind : readBehind name {} rest = .ok behind) (hfinish : finish name behind = .ok command)
    (hheld : given.held = none) :
    readCommand given name rest =
      .ok ⟨behind.config.or given.config, given.verbose || behind.verbose, command⟩ := by
  simp only [readCommand, hbehind, hfinish, Given.settle_of_held_none hheld, Option.orElse_eq_or]

end Sides

section Lines

variable {before behind data : List String} {path path' : Option String} {verbose verbose' : Bool}
  {command : Command} {raw : String}

/-- The options begin with hyphens, as no name of a command does. -/
theorem Gives.head?_eq (h : Gives before path verbose data) :
    ∀ argument ∈ before, argument.toList.head? = some '-' := by
  induction h with
  | nil => simp
  | config path hpath h ih => simpa using ih
  | verbose h ih => simpa using ih
  | data value h ih => simpa using ih

theorem Gives.readBehind (h : Gives behind path verbose data) {name : CommandName}
    (htakes : (Side.behind name).takesSource = true) (raw : String) :
    CommandLine.readBehind name {} (behind ++ ["--", raw]) =
      .ok { config := path, verbose := verbose, data := data, raw := some raw, plain := true } := by
  rw [readBehind_append, h.readOptions (.inl rfl) (.inl rfl) (.inl htakes)]
  simp only [Option.none_or, Bool.false_or, List.nil_append, Except.bind]
  exact readBehind_source raw rfl rfl htakes rfl

theorem Gives.readFrom (h : Gives before path verbose []) (rest : List String) :
    CommandLine.readFrom {} (before ++ rest) =
      CommandLine.readFrom { config := path, verbose := verbose } rest := by
  rw [readFrom_append h.head?_eq, h.readOptions (.inl rfl) (.inl rfl) (.inr rfl)]
  simp only [Option.none_or, Bool.false_or, List.nil_append, Except.bind]

theorem exists_gives (hpath : path ≠ some "") (verbose : Bool) (data : List String) :
    ∃ arguments, Gives arguments path verbose data := by
  have hdata : ∃ arguments, Gives arguments none false data := by
    induction data with
    | nil => exact ⟨_, .nil⟩
    | cons value data ih => exact ih.imp' _ fun _ => .data value
  have hverbose : ∃ arguments, Gives arguments none verbose data := by
    cases verbose with
    | false => exact hdata
    | true => exact hdata.imp' _ fun _ => .verbose
  cases path with
  | none => exact hverbose
  | some path =>
    have hne : path ≠ "" := fun hempty => hpath (congrArg some hempty)
    exact hverbose.imp' _ fun _ => .config path hne

theorem Gives.read (htakes : command.Takes raw data) (hbefore : Gives before path verbose [])
    (hbehind : Gives behind path' verbose' data) :
    CommandLine.read (before ++ command.word :: (behind ++ ["--", raw])) =
      .ok ⟨path'.or path, verbose || verbose', command⟩ := by
  rw [CommandLine.read, hbefore.readFrom]
  cases htakes with
  | parse =>
    exact (readFrom_command rfl rfl rfl).trans
      (readCommand_of_ok (hbehind.readBehind rfl raw) rfl rfl)
  | render =>
    exact (readFrom_command rfl rfl rfl).trans
      (readCommand_of_ok (hbehind.readBehind rfl raw) rfl rfl)

end Lines

/-- Any source and any data come through a command line, with a path and a wish for a log on either
side of the command: they are read as they were written. Of two paths the later one is taken. -/
theorem read_request {command : Command} {raw : String} {data : List String}
    (htakes : command.Takes raw data) :
    (∀ {before behind : List String} {path path' : Option String} {verbose verbose' : Bool},
      Gives before path verbose [] → Gives behind path' verbose' data →
        read (before ++ command.word :: (behind ++ ["--", raw])) =
          .ok ⟨path'.or path, verbose || verbose', command⟩) ∧
    ∀ (path : Option String) (verbose : Bool), path ≠ some "" →
      ∃ arguments, read arguments = .ok ⟨path, verbose, command⟩ := by
  constructor
  · intro before behind path path' verbose verbose' hbefore hbehind
    exact hbefore.read htakes hbehind
  · intro path verbose hpath
    obtain ⟨behind, hbehind⟩ := exists_gives hpath verbose data
    have hread := Gives.nil.read htakes hbehind
    rw [Option.or_none, Bool.false_or] at hread
    exact ⟨_, hread⟩

/-- Options that are mixed on both sides, and texts that look like options and like the mark. -/
theorem read_request_hyphens :
    read ["--verbose", "--config=a=b", "render", "--data==x", "--config=-c", "--data=--", "--",
        "-dx"] = .ok ⟨some "-c", true, .render "-dx" ["=x", "--"]⟩ ∧
      ∃ arguments, read arguments = .ok ⟨some "-c", true, .render "-dx" ["=x", "--"]⟩ := by
  obtain ⟨hread, hexists⟩ := read_request (.render "-dx" ["=x", "--"])
  have hbefore : Gives ["--verbose", "--config=a=b"] (some "a=b") true [] :=
    .verbose (.config "a=b" (by decide) .nil)
  have hbehind : Gives ["--data==x", "--config=-c", "--data=--"] (some "-c") false ["=x", "--"] :=
    .data "=x" (.config "-c" (by decide) (.data "--" .nil))
  exact ⟨hread hbefore hbehind, hexists (some "-c") true (by decide)⟩

end CommandLine
end InlineTag
