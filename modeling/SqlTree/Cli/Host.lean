import SqlTree.Text.Split

/-!
# Hosts

A host is what the command line runs on: files, an input and an
environment.  The program asks its host in any monad, so that it runs on
the system it is started on and on a `FileTree`, which is held in memory
and can be reasoned about.
-/

set_option autoImplicit false

namespace SqlTree.Cli

/-- Why a file cannot be read. -/
inductive FileError where
  | notFound
  | notDirectory
  | isDirectory
  | nameTooLong
  | notText
  | other (message : String)
deriving DecidableEq

/-- The wording of a file that cannot be read. -/
def FileError.message : FileError → String
  | .notFound => "No such file or directory (os error 2)"
  | .notDirectory => "Not a directory (os error 20)"
  | .isDirectory => "Is a directory (os error 21)"
  | .nameTooLong => "File name too long (os error 36)"
  | .notText => "stream did not contain valid UTF-8"
  | .other message => message

/-- Whether there is a file, though it may not be readable. -/
def FileError.isFile : FileError → Bool
  | .notFound | .notDirectory | .isDirectory | .nameTooLong => false
  | .notText | .other _ => true

/-- What the command line runs on. -/
structure Host (m : Type → Type) where
  readFile : String → m (Except FileError String)
  readInput : m (Except FileError String)
  environment : String → m (Option String)
  isTerminal : m Bool

/-! ## File trees -/

/-- The parts of a path. -/
def pathParts (path : String) : List String :=
  (Text.splitAll '/' path.toList).map String.ofList

/-- The most octets that a part of a path may have. -/
def partLimit : Nat := 255

/-- The most octets that a path may have. -/
def pathLimit : Nat := 4095

/-- Why there is nothing of that name in a folder. -/
def missing (name : String) : FileError :=
  if partLimit < name.utf8ByteSize then .nameTooLong else .notFound

/-- Files and folders, each by the names on the way to it from the root,
and the folder from which a path starts that does not start at the root. -/
structure FileTree where
  files : List (List String × String)
  folders : List (List String)
  here : List String

namespace FileTree

/-- Whether there is a folder.  What holds a file or a folder is one. -/
def isFolder (t : FileTree) (place : List String) : Bool :=
  (t.here :: t.folders).any (fun folder => place.isPrefixOf folder)
    || t.files.any fun file => place.isPrefixOf file.1 && place != file.1

/-- The text of a file. -/
def text? (t : FileTree) (place : List String) : Option String :=
  t.files.lookup place

/-- Where a part of a path leads.  The folder around the root is the root
itself. -/
def step (t : FileTree) (place : List String) (part : String) :
    Except FileError (List String) :=
  if !t.isFolder place then
    .error .notDirectory
  else
    match part with
    | "" | "." => .ok place
    | ".." => .ok place.dropLast
    | name =>
      let place := place ++ [name]
      if t.isFolder place || (t.text? place).isSome then .ok place else .error (missing name)

/-- The text of the file that a path leads to. -/
def readFile (t : FileTree) (path : String) : Except FileError String := do
  if pathLimit < path.utf8ByteSize then .error .nameTooLong
  let start := if path.startsWith "/" then [] else t.here
  let place ← (pathParts path).foldlM t.step start
  match t.text? place with
  | some text => .ok text
  | none => .error .isDirectory

/-- The tree as a host, with an input and an environment. -/
def host (t : FileTree) (input : String) (environment : List (String × String)) : Host Id where
  readFile path := t.readFile path
  readInput := .ok input
  environment name := environment.lookup name
  isTerminal := false

end FileTree

end SqlTree.Cli
