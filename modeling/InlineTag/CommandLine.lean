import InlineTag.Text.Cut

/-!
# InlineTag.CommandLine

Reading of the command line: options, then a command, then the arguments of the command. The path
of a configuration and the wish for a log may stand before or after the command, at most once on
either side; the later path is taken. An option is written `--name value`, `--name=value`,
`-n value`, `-nvalue` or `-n=value`, letters may be bundled behind one hyphen, and after `--`
nothing is an option any more.

An option whose value may still follow is held back (`held`) until the next argument shows that the
value is complete. Only then is it entered, and only then can it turn out to be a repetition, to be
empty, or to lack its value. So of several faults on a line the one that shows first is reported.
-/

namespace InlineTag

open Text

/-- Why a command line is refused, or answered without running a command. -/
inductive UsageFault where
  | help
  | version
  | nothing
  | unknownCommand
  | missingCommand
  | missingArgument
  | unknownArgument
  | invalidValue
  | repeated
  | surplusValue
  deriving DecidableEq, Repr, Inhabited

inductive Command where
  | parse (raw : String) (data : List String)
  | render (raw : String) (data : List String)
  | types
  deriving DecidableEq, Repr, Inhabited

structure CommandLine where
  config : Option String
  verbose : Bool
  command : Command
  deriving DecidableEq, Repr, Inhabited

namespace CommandLine

inductive CommandName where
  | parse
  | render
  | types
  deriving DecidableEq, Repr

def commandName? (name : String) : Option CommandName :=
  if name = "parse" then some .parse
  else if name = "render" then some .render
  else if name = "types" then some .types
  else none

/-- Where an argument stands: before the command, or behind the name of one. -/
inductive Side where
  | before
  | behind (command : CommandName)
  deriving DecidableEq, Repr

/-- Whether the command has a source and data. -/
def Side.takesSource : Side → Bool
  | .behind .parse => true
  | .behind .render => true
  | _ => false

/-! ## Options -/

inductive ValueOption where
  | config
  | data
  deriving DecidableEq, Repr

inductive Flag where
  | verbose
  | help
  | version
  deriving DecidableEq, Repr

inductive AnyOption where
  | withValue (option : ValueOption)
  | flag (flag : Flag)
  deriving DecidableEq, Repr

/-- The option of a long name, if there is one on this side. -/
def longOption? (side : Side) (name : List Char) : Option AnyOption :=
  if name = "config".toList then some (.withValue .config)
  else if name = "verbose".toList then some (.flag .verbose)
  else if name = "help".toList then some (.flag .help)
  else if name = "data".toList && side.takesSource then some (.withValue .data)
  else if name = "version".toList && side == .before then some (.flag .version)
  else none

/-- The option of a letter, if there is one on this side. -/
def letterOption? (side : Side) (letter : Char) : Option AnyOption :=
  if letter = 'c' then some (.withValue .config)
  else if letter = 'v' then some (.flag .verbose)
  else if letter = 'h' then some (.flag .help)
  else if letter = 'd' && side.takesSource then some (.withValue .data)
  else if letter = 'V' && side == .before then some (.flag .version)
  else none

/-! ## What has been read so far -/

/-- An option that is not entered yet, and its value if that has been read. -/
structure Held where
  option : ValueOption
  value : Option String
  deriving DecidableEq, Repr

/-- What one side of the command name has given so far. -/
structure Given where
  config : Option String := none
  verbose : Bool := false
  data : List String := []
  raw : Option String := none
  held : Option Held := none
  /-- Whether `--` has been read. -/
  plain : Bool := false
  deriving DecidableEq, Repr, Inhabited

namespace Given

/-- Whether the next argument is the value of an option. -/
def awaitsValue (given : Given) : Bool :=
  match given.held with
  | some ⟨_, none⟩ => true
  | _ => false

/-- Enters an option with its value. -/
def enter (given : Given) (option : ValueOption) (value : String) : Except UsageFault Given :=
  match option with
  | .data => .ok { given with data := given.data ++ [value] }
  | .config =>
    if given.config.isSome then .error .repeated
    else if value.isEmpty then .error .invalidValue
    else .ok { given with config := some value }

/-- Enters the option that is held back. -/
def settle (given : Given) : Except UsageFault Given :=
  match given.held with
  | none => .ok given
  | some ⟨_, none⟩ => .error .invalidValue
  | some ⟨option, some value⟩ => enter { given with held := none } option value

def giveFlag (given : Given) (flag : Flag) : Except UsageFault Given :=
  match given.settle with
  | .error fault => .error fault
  | .ok given =>
    match flag with
    | .help => .error .help
    | .version => .error .version
    | .verbose => if given.verbose then .error .repeated else .ok { given with verbose := true }

/-- An option with the value that is attached to it. -/
def giveValue (given : Given) (option : ValueOption) (value : String) :
    Except UsageFault Given :=
  match given.settle with
  | .error fault => .error fault
  | .ok given => given.enter option value

/-- An option whose value is the next argument. -/
def await (given : Given) (option : ValueOption) : Except UsageFault Given :=
  match given.settle with
  | .error fault => .error fault
  | .ok given => .ok { given with held := some ⟨option, none⟩ }

end Given

/-! ## Single arguments -/

/-- An argument behind two hyphens. -/
def readLong (side : Side) (given : Given) (text : List Char) : Except UsageFault Given :=
  let (name, value) : List Char × Option (List Char) :=
    match cutAt '=' text with
    | some (name, value) => (name, some value)
    | none => (text, none)
  match longOption? side name, value with
  | none, _ => .error .unknownArgument
  | some (.flag _), some _ => .error .surplusValue
  | some (.flag flag), none => given.giveFlag flag
  | some (.withValue option), some value => given.giveValue option (String.ofList value)
  | some (.withValue option), none => given.await option

/-- The letters behind one hyphen. The first letter that takes a value takes the rest as its
value. -/
def readLetters (side : Side) (given : Given) : List Char → Except UsageFault Given
  | [] => .ok given
  | letter :: rest =>
    match letterOption? side letter, rest with
    | none, _ => .error .unknownArgument
    | some (.flag flag), _ =>
      match given.giveFlag flag with
      | .error fault => .error fault
      | .ok given => readLetters side given rest
    | some (.withValue option), [] => given.await option
    | some (.withValue option), '=' :: value => given.giveValue option (String.ofList value)
    | some (.withValue option), value => given.giveValue option (String.ofList value)

/-- An argument that is no option: the source, where one is due. -/
def readWord (side : Side) (given : Given) (word : String) : Except UsageFault Given :=
  match side with
  | .before =>
    if given.plain && (word = "help" || (commandName? word).isSome) then .error .unknownArgument
    else .error .unknownCommand
  | .behind _ =>
    if side.takesSource && given.raw.isNone then
      match given.settle with
      | .error fault => .error fault
      | .ok given => .ok { given with raw := some word }
    else .error .unknownArgument

/-- The next argument on a side. A single hyphen is no option. -/
def readArgument (side : Side) (given : Given) (argument : String) : Except UsageFault Given :=
  if given.plain then readWord side given argument
  else
    match argument.toList with
    | ['-', '-'] => .ok { given with plain := true }
    | '-' :: '-' :: text => readLong side given text
    | '-' :: letter :: letters => readLetters side given (letter :: letters)
    | _ =>
      match given.held with
      | some ⟨option, none⟩ => .ok { given with held := some ⟨option, some argument⟩ }
      | _ => readWord side given argument

/-! ## The whole line -/

/-- The arguments behind the name of a command. -/
def readBehind (command : CommandName) (given : Given) : List String → Except UsageFault Given
  | [] => given.settle
  | argument :: rest =>
    match readArgument (.behind command) given argument with
    | .error fault => .error fault
    | .ok given => readBehind command given rest

/-- The command with what was given to it. -/
def finish (name : CommandName) (given : Given) : Except UsageFault Command :=
  match name, given.raw with
  | .types, _ => .ok .types
  | _, none => .error .missingArgument
  | .parse, some raw => .ok (.parse raw given.data)
  | .render, some raw => .ok (.render raw given.data)

/-- The command with all its arguments, after what was given before it. What is held back there is
entered last. -/
def readCommand (before : Given) (name : CommandName) (arguments : List String) :
    Except UsageFault CommandLine :=
  match readBehind name {} arguments with
  | .error fault => .error fault
  | .ok behind =>
    match finish name behind, before.settle with
    | .error fault, _ => .error fault
    | .ok _, .error fault => .error fault
    | .ok command, .ok before =>
      .ok ⟨behind.config.orElse fun _ => before.config, before.verbose || behind.verbose, command⟩

/-- The command `help`, which may be given the name of one other command. -/
def readHelp : List String → UsageFault
  | [] => .help
  | [name] => if name = "help" || (commandName? name).isSome then .help else .unknownCommand
  | _ => .unknownCommand

/-- The arguments from the first on. -/
def readFrom (given : Given) : List String → Except UsageFault CommandLine
  | [] =>
    match given.settle with
    | .error fault => .error fault
    | .ok given =>
      if given.config.isNone && !given.verbose then .error .nothing else .error .missingCommand
  | argument :: rest =>
    let isCommand := !given.plain && !given.awaitsValue
    match commandName? argument with
    | some name =>
      if isCommand then readCommand given name rest
      else
        match readArgument .before given argument with
        | .error fault => .error fault
        | .ok given => readFrom given rest
    | none =>
      if isCommand && argument = "help" then .error (readHelp rest)
      else
        match readArgument .before given argument with
        | .error fault => .error fault
        | .ok given => readFrom given rest

/-- Reads a command line, given without the name of the program. -/
def read (arguments : List String) : Except UsageFault CommandLine :=
  readFrom {} arguments

end CommandLine
end InlineTag
