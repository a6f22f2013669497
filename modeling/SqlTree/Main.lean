import SqlTree.Cli.Run

/-!
# The program

The command line on the system that it is started on.
-/

set_option autoImplicit false

open SqlTree.Cli

/-- The number of an error, which the system may give with a sign. -/
def errorNumber (code : UInt32) : Nat :=
  code.toInt32.toInt.natAbs

/-- What went wrong with a file. -/
def fileError : IO.Error → FileError
  | .noFileOrDirectory _ _ _ => .notFound
  | .userError _ => .notText
  | error@(.inappropriateType _ code _) =>
    match errorNumber code with
    | 20 => .notDirectory
    | 21 => .isDirectory
    | _ => .other (toString error)
  | error@(.invalidArgument _ code _) =>
    if errorNumber code = 36 then .nameTooLong else .other (toString error)
  | error => .other (toString error)

/-- Keeps an error of the system as a value. -/
def attempt (action : IO String) : IO (Except FileError String) := do
  match ← action.toBaseIO with
  | .ok text => return .ok text
  | .error error => return .error (fileError error)

/-- The system. -/
def system : Host IO where
  readFile path := attempt (IO.FS.readFile path)
  readInput := attempt do (← IO.getStdin).readToEnd
  environment name := IO.getEnv name
  isTerminal := do (← IO.getStdout).isTty

/-- Runs the program and prints what it prints. -/
def main (args : List String) : IO UInt32 := do
  let outcome ← run system args
  IO.print outcome.output
  IO.eprint outcome.errors
  return outcome.code.toUInt32
