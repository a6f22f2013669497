import SqlTree.Cli.Arguments
import SqlTree.Cli.Host
import SqlTree.Cli.Report
import SqlTree.Config

/-!
# Running a command

A command reads its settings, then the query, and prints the statements.
It ends with the code 0, with 1 where the settings or the query are at
fault, and with 2 where the arguments are.
-/

set_option autoImplicit false

namespace SqlTree.Cli

/-- The name and the version of the program. -/
def versionText : String :=
  "sqlweave 0.3.0"

/-- How the program is used. -/
def usageText : String :=
  "Usage: sqlweave [OPTIONS] <compile|explain|dialects>"

/-- How a run ends. -/
structure Outcome where
  code : Nat
  output : String
  errors : String
deriving DecidableEq

/-- Why a command fails. -/
inductive Failure where
  | settingsFile (path : String) (error : FileError)
  | settings (path : String) (error : ConfigError)
  | queryFile (path : String) (error : FileError)
  | input (error : FileError)
  | tree (path : String) (error : DecodeError)
  | query (error : QueryError)

/-- The wording of a failure. -/
def Failure.message : Failure → String
  | .settingsFile path error =>
    (Error.mk .config ("Cannot read " ++ path ++ ": " ++ error.message)).text
  | .settings path error => (Error.mk .config (path ++ ": " ++ error.message)).text
  | .queryFile path error => "Failed to read " ++ path ++ ": " ++ error.message
  | .input error => "Failed to read query from stdin: " ++ error.message
  | .tree path error => "Invalid query tree in " ++ path ++ ": " ++ error.message
  | .query error => error.toError.text

/-! ## Settings -/

/-- The file of settings in the working folder. -/
def localSettings : String :=
  "sqlweave.toml"

/-- A path inside of a folder. -/
def within (folder path : String) : String :=
  if folder.endsWith "/" then folder ++ path else folder ++ "/" ++ path

/-- The folder of the user's settings. -/
def settingsFolder? (settings home : Option String) : Option String :=
  match settings.filter (·.startsWith "/") with
  | some folder => some folder
  | none => (home.filter (!·.isEmpty)).map fun folder => within folder ".config"

/-- The files in which settings are looked up, in order. -/
def settingsPaths (folder : Option String) : List String :=
  localSettings :: (folder.map fun folder => within folder "sqlweave/config.toml").toList

/-- The settings of a text. -/
def parseSettings (path text : String) : Except Failure Config :=
  (Config.ofToml text).mapError (Failure.settings path)

section

variable {m : Type → Type} [Monad m]

/-- The settings of the first file that there is, else the default. -/
def findSettings (host : Host m) : List String → ExceptT Failure m Config
  | [] => return Config.default
  | path :: paths => do
    match ← host.readFile path with
    | .ok text => ExceptT.mk (pure (parseSettings path text))
    | .error error =>
      if error.isFile then throw (.settingsFile path error) else findSettings host paths

/-- The settings of a named file, or of those that are looked up. -/
def loadSettings (host : Host m) (named : Option String) : ExceptT Failure m Config := do
  match named with
  | some path =>
    match ← host.readFile path with
    | .ok text => ExceptT.mk (pure (parseSettings path text))
    | .error error => throw (.settingsFile path error)
  | none =>
    let settings ← host.environment "XDG_CONFIG_HOME"
    let home ← host.environment "HOME"
    findSettings host (settingsPaths (settingsFolder? settings home))

end

/-- The settings with what the arguments say. -/
def Arguments.override (args : Arguments) (config : Config) : Config where
  dialect := args.dialect.getD config.dialect
  tablePrefix := args.tablePrefix.or config.tablePrefix
  explicitTables := args.explicitTables || config.explicitTables

/-! ## Queries -/

/-- Whether a path stands for the input. -/
def isInputPath (path : String) : Bool :=
  match pathParts path with
  | "-" :: parts => parts.all fun part => part == "" || part == "."
  | _ => false

section

variable {m : Type → Type} [Monad m]

/-- The query of a file, or of the input. -/
def loadQuery (host : Host m) (path : String) : ExceptT Failure m Query := do
  let text ←
    if isInputPath path then
      match ← host.readInput with
      | .ok text => pure text
      | .error error => throw (.input error)
    else
      match ← host.readFile path with
      | .ok text => pure text
      | .error error => throw (.queryFile path error)
  ExceptT.mk (pure ((Stored.query.decodeText text).mapError (Failure.tree path)))

/-- The settings, the query as they want it, and its statements. -/
def compiled (host : Host m) (args : Arguments) :
    ExceptT Failure m (Config × Query × List Statement) := do
  let config := args.override (← loadSettings host args.config)
  let q := config.apply (← loadQuery host args.file)
  match q.statements config.dialect with
  | .ok statements => return (config, q, statements)
  | .error error => throw (.query error)

/-! ## Commands -/

/-- What a command prints. -/
def runCommand (host : Host m) (p : Painter) (args : Arguments) : ExceptT Failure m String := do
  match args.command with
  | .dialects => return linesText (dialectLines p)
  | .compile =>
    let (_, _, statements) ← compiled host args
    match args.format with
    | .text => return linesText (compileLines p statements)
    | .json => return (statementsJson statements).pretty ++ "\n"
  | .explain =>
    let (config, q, statements) ← compiled host args
    return linesText (explainLines p config.dialect q statements)

/-- How a run ends that stops before any command. -/
def Stop.outcome : Stop → Outcome
  | .usage error => ⟨2, "", "error: " ++ error.message ++ "\n\n" ++ usageText ++ "\n"⟩
  | .help => ⟨0, usageText ++ "\n", ""⟩
  | .version => ⟨0, versionText ++ "\n", ""⟩

/-- How a command ends. -/
def commandOutcome (p : Painter) : Except Failure String → Outcome
  | .ok output => ⟨0, output, ""⟩
  | .error failure =>
    ⟨1, "", p.paint (.bold .red) "Error:" ++ " " ++ failure.message ++ "\n"⟩

/-- Runs the program. -/
def run (host : Host m) (args : List String) : m Outcome := do
  match Arguments.read (← host.environment "SQLWEAVE_CONFIG") args with
  | .error stop => return stop.outcome
  | .ok args =>
    let p := Painter.ofEnvironment (← host.environment "CLICOLOR_FORCE")
      (← host.environment "NO_COLOR") (← host.environment "CLICOLOR") (← host.isTerminal)
    return commandOutcome p (← (runCommand host p args).run)

end

end SqlTree.Cli
