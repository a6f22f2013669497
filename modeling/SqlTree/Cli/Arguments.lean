import SqlTree.Keyword

/-!
# Arguments

The arguments of the command line: options of the program, a command, and
options of the command with the file that it reads.

A switch is written by its name, `--name`, or by its letter, `-n`; letters
may share a dash.  The value of a switch follows as the next argument,
after an equals sign or right after the letter.  It does not start with a
dash, unless it is nothing but a dash.  After `--` there are no more
switches.  On either side of the command a switch is given once at most.
-/

set_option autoImplicit false

namespace SqlTree.Cli

/-- Formats of the output. -/
inductive Format where
  | text
  | json
deriving DecidableEq

/-- The commands. -/
inductive Command where
  | compile
  | explain
  | dialects
deriving DecidableEq

/-- The command of a name. -/
def Command.ofName? : String → Option Command
  | "compile" => some .compile
  | "explain" => some .explain
  | "dialects" => some .dialects
  | _ => none

/-- What may be given with a dash. -/
inductive Switch where
  | config
  | verbose
  | help
  | version
  | dialect
  | tablePrefix
  | explicitTables
  | format
deriving DecidableEq

namespace Switch

/-- The name of a switch. -/
def name : Switch → String
  | .config => "config"
  | .verbose => "verbose"
  | .help => "help"
  | .version => "version"
  | .dialect => "dialect"
  | .tablePrefix => "prefix"
  | .explicitTables => "explicit-tables"
  | .format => "format"

/-- The letter of a switch. -/
def letter : Switch → Char
  | .config => 'c'
  | .verbose => 'v'
  | .help => 'h'
  | .version => 'V'
  | .dialect => 'd'
  | .tablePrefix => 'p'
  | .explicitTables => 'e'
  | .format => 'f'

/-- Whether a switch has a value. -/
def takesValue : Switch → Bool
  | .config | .dialect | .tablePrefix | .format => true
  | .verbose | .help | .version | .explicitTables => false

end Switch

/-- What is understood on one side of the command. -/
structure Level where
  switches : List Switch
  takesFile : Bool

/-- Before the command. -/
def Level.program : Level :=
  ⟨[.config, .verbose, .help, .version], false⟩

/-- After the command. -/
def Command.level : Command → Level
  | .compile =>
    ⟨[.config, .verbose, .help, .dialect, .tablePrefix, .explicitTables, .format], true⟩
  | .explain => ⟨[.config, .verbose, .help, .dialect, .tablePrefix, .explicitTables], true⟩
  | .dialects => ⟨[.config, .verbose, .help], false⟩

/-! ## Wrong usage -/

/-- Why arguments are not understood. -/
inductive UsageError where
  | unknownArgument (arg : String)
  | missingValue (switch : Switch)
  | unexpectedValue (switch : Switch)
  | invalidValue (switch : Switch) (value : String)
  | repeatedSwitch (switch : Switch)
  | missingCommand
  | missingFile
  | emptyFile
deriving DecidableEq

/-- The wording of wrong usage. -/
def UsageError.message : UsageError → String
  | .unknownArgument arg => "unexpected argument " ++ arg
  | .missingValue switch => "a value is required for --" ++ switch.name
  | .unexpectedValue switch => "--" ++ switch.name ++ " takes no value"
  | .invalidValue switch value => "invalid value " ++ value ++ " for --" ++ switch.name
  | .repeatedSwitch switch => "--" ++ switch.name ++ " cannot be used multiple times"
  | .missingCommand => "a command is required"
  | .missingFile => "a file is required"
  | .emptyFile => "the name of the file is empty"

/-- Why there is no command to run. -/
inductive Stop where
  | usage (error : UsageError)
  /-- help is asked for -/
  | help
  /-- the version is asked for -/
  | version
deriving DecidableEq

/-! ## Reading switches -/

/-- What has been given on one side of the command. -/
structure Given where
  seen : List Switch
  config : Option String
  dialect : Option Dialect
  tablePrefix : Option String
  format : Format
  file : Option String

namespace Given

/-- Nothing. -/
def nothing : Given :=
  ⟨[], none, none, none, .text, none⟩

/-- Whether a switch has been given. -/
def has (given : Given) (switch : Switch) : Bool :=
  given.seen.contains switch

/-- Notes a switch. -/
def see (given : Given) (switch : Switch) : Except Stop Given :=
  if given.has switch then .error (.usage (.repeatedSwitch switch))
  else .ok { given with seen := switch :: given.seen }

/-- Notes the value of a switch. -/
def set (given : Given) (switch : Switch) (value : String) : Except Stop Given := do
  let given ← given.see switch
  let invalid : Except Stop Given := .error (.usage (.invalidValue switch value))
  match switch with
  | .config => if value.isEmpty then invalid else .ok { given with config := value }
  | .dialect =>
    match Dialect.ofKeyword value with
    | .ok d => .ok { given with dialect := d }
    | .error _ => invalid
  | .tablePrefix => .ok { given with tablePrefix := value }
  | .format =>
    match value with
    | "text" => .ok { given with format := .text }
    | "json" => .ok { given with format := .json }
    | _ => invalid
  | .verbose | .help | .version | .explicitTables =>
    .error (.usage (.unexpectedValue switch))

/-- Notes a switch without a value. -/
def setFlag (given : Given) (switch : Switch) : Except Stop Given :=
  match switch with
  | .help => .error .help
  | .version => .error .version
  | switch => given.see switch

/-- Notes the file. -/
def setFile (given : Given) (level : Level) (file : String) : Except Stop Given :=
  if !level.takesFile || given.file.isSome then .error (.usage (.unknownArgument file))
  else if file.isEmpty then .error (.usage .emptyFile)
  else .ok { given with file := file }

end Given

/-- What was given, and the switch whose value comes next. -/
abbrev Progress := Given × Option Switch

/-- Letters behind a dash. -/
def readLetters (level : Level) (given : Given) : List Char → Except Stop Progress
  | [] => .ok (given, none)
  | c :: cs =>
    match level.switches.find? (·.letter = c) with
    | none => .error (.usage (.unknownArgument ("-" ++ c.toString)))
    | some switch =>
      if switch.takesValue then
        match cs with
        | [] => .ok (given, some switch)
        | '=' :: value => do .ok (← given.set switch (String.ofList value), none)
        | value => do .ok (← given.set switch (String.ofList value), none)
      else do
        readLetters level (← given.setFlag switch) cs

/-- A name behind two dashes, with a value after an equals sign. -/
def readName (level : Level) (given : Given) (text : List Char) : Except Stop Progress :=
  let name := String.ofList (text.takeWhile (· != '='))
  match level.switches.find? (·.name = name), text.dropWhile (· != '=') with
  | none, _ => .error (.usage (.unknownArgument ("--" ++ name)))
  | some switch, [] => do
    if switch.takesValue then .ok (given, some switch)
    else .ok (← given.setFlag switch, none)
  | some switch, _ :: value => do
    if switch.takesValue then .ok (← given.set switch (String.ofList value), none)
    else .error (.usage (.unexpectedValue switch))

/-- Arguments that are no switches. -/
def readFiles (level : Level) (given : Given) : List String → Except Stop Given
  | [] => .ok given
  | arg :: args => do readFiles level (← given.setFile level arg) args

/-! ## Reading arguments -/

/-- What was read before the command, the command and the arguments after
it. -/
abbrev Split := Given × Option (Command × List String)

/-- Whether help on the named commands is a command itself. -/
def isHelp : List String → Bool
  | [] => true
  | [name] => name == "help" || (Command.ofName? name).isSome
  | _ => false

/-- Reads the arguments of a level.  `pending` waits for its value.  Where
commands are expected, reading ends at the first one. -/
def readLevel (level : Level) (commands : Bool) (given : Given) (pending : Option Switch) :
    List String → Except Stop Split
  | [] =>
    match pending with
    | none => .ok (given, none)
    | some switch => .error (.usage (.missingValue switch))
  | arg :: args =>
    match pending, arg.toList with
    | some switch, '-' :: _ :: _ => .error (.usage (.missingValue switch))
    | some switch, _ => do
      readLevel level commands (← given.set switch arg) none args
    | none, ['-', '-'] => do .ok (← readFiles level given args, none)
    | none, '-' :: '-' :: name => do
      let (given, pending) ← readName level given name
      readLevel level commands given pending args
    | none, '-' :: c :: letters => do
      let (given, pending) ← readLetters level given (c :: letters)
      readLevel level commands given pending args
    | none, _ =>
      match commands, Command.ofName? arg with
      | true, some command => .ok (given, some (command, args))
      | true, none =>
        if arg = "help" && isHelp args then .error .help
        else .error (.usage (.unknownArgument arg))
      | false, _ => do readLevel level commands (← given.setFile level arg) none args

/-- The arguments that are understood. -/
structure Arguments where
  command : Command
  config : Option String
  verbose : Bool
  file : String
  dialect : Option Dialect
  tablePrefix : Option String
  explicitTables : Bool
  format : Format

/-- The configuration file of a level, where the environment may name one
too. -/
def Given.configOr (given : Given) (environment : Option String) :
    Except Stop (Option String) :=
  match given.config, environment with
  | some path, _ => .ok (some path)
  | none, some "" => .error (.usage (.invalidValue .config ""))
  | none, path => .ok path

/-- The file of a command, where it takes one. -/
def Given.fileFor (given : Given) (command : Command) : Except Stop String :=
  match command.level.takesFile, given.file with
  | true, none => .error (.usage .missingFile)
  | _, file => .ok (file.getD "")

/-- Reads the arguments.  The environment may name a configuration file.
What is given after the command goes before what is given in front of it,
and that before the environment. -/
def Arguments.read (environment : Option String) (args : List String) :
    Except Stop Arguments := do
  match ← readLevel .program true .nothing none args with
  | (_, none) => .error (.usage .missingCommand)
  | (before, some (command, args)) =>
    let (after, _) ← readLevel command.level false .nothing none args
    let inner ← after.configOr environment
    let file ← after.fileFor command
    let outer ← before.configOr environment
    .ok
      { command := command
        config := if after.config.isSome then inner else outer
        verbose := before.has .verbose || after.has .verbose
        file := file
        dialect := after.dialect
        tablePrefix := after.tablePrefix
        explicitTables := after.has .explicitTables
        format := after.format }

end SqlTree.Cli
