import SqlTree.Text.Quoted

/-!
# Errors

An `Error` is what a caller sees: a kind and a message.  What went wrong
is told by causes, one type for each part of the library that can refuse
its input; the wording of a cause is in its `message` function and nowhere
else.

An error inside of a sub-query is reported by the query around it, as a
fault of that query, with the message of the inner error kept.
-/

set_option autoImplicit false

namespace SqlTree

open Text

/-- The kinds of errors. -/
inductive ErrorKind where
  | invalidArgument
  | invalidQuery
  | invalidReturnValue
  | config
  | json
  | io
deriving DecidableEq

/-- What the text of an error starts with. -/
def ErrorKind.label : ErrorKind → String
  | .invalidArgument => "Invalid argument"
  | .invalidQuery => "Invalid query"
  | .invalidReturnValue => "Invalid return value"
  | .config => "Configuration error"
  | .json => "JSON error"
  | .io => "IO error"

/-- An error as a caller sees it. -/
structure Error where
  kind : ErrorKind
  message : String
deriving DecidableEq

/-- The text of an error. -/
def Error.text (e : Error) : String :=
  e.kind.label ++ ": " ++ e.message

/-- The message of an error, reported from inside of a sub-query. -/
def subqueryMessage (message : String) : String :=
  "Error in a subquery: " ++ message

/-- An error as the query around its sub-query reports it. -/
def Error.inSubquery (e : Error) : Error :=
  ⟨.invalidQuery, subqueryMessage e.message⟩

/-! ## Keywords that are not known -/

/-- A keyword that names nothing.  The names are kept as they were
compared. -/
inductive KeywordError where
  | dialect (name : String)
  | appendRule (name : String)
  | joinKind (name : String)
deriving DecidableEq

/-- The wording of an unknown keyword. -/
def KeywordError.message : KeywordError → String
  | .dialect name =>
    "Unknown dialect " ++ ticked name ++ ", expected one of common, mysql, sqlite"
  | .appendRule name =>
    "Unknown criterion append rule " ++ ticked name ++ ", expected AND or OR"
  | .joinKind name => "Unknown join type " ++ ticked name

/-- An unknown keyword is a fault of the argument. -/
def KeywordError.toError (e : KeywordError) : Error :=
  ⟨.invalidArgument, e.message⟩

/-! ## Queries that do not compile -/

/-- Why a query does not compile. -/
inductive QueryError where
  /-- a SELECT without a table -/
  | noFromTable
  /-- an INSERT or DELETE without a table -/
  | noTargetTable
  /-- an UPDATE without a table -/
  | noUpdatedTable
  /-- an UPDATE that assigns nothing -/
  | noUpdatedValues
  /-- an INSERT without rows or a select -/
  | noInsertedValues
  /-- inserted rows without a column -/
  | noInsertedColumns
  /-- a column that one row or one UPDATE writes twice -/
  | repeatedColumn (column : String)
  /-- a comparison rule that is none -/
  | unknownRule (rule : String)
  /-- an alias where the dialect allows none -/
  | targetAlias (aliasName statement : String)
  /-- an INSERT that is not one statement where one is asked for -/
  | insertCount (count : Nat) (dialect : String)
  /-- an error inside of a sub-query -/
  | inSubquery (inner : QueryError)
deriving DecidableEq

/-- The wording of a fault of a query. -/
def QueryError.message : QueryError → String
  | .noFromTable => "The FROM table is not set"
  | .noTargetTable => "The target table is not set"
  | .noUpdatedTable => "The updated table is not set"
  | .noUpdatedValues => "The updated values are not set"
  | .noInsertedValues => "The query has no inserted values"
  | .noInsertedColumns => "The inserted rows have no columns"
  | .repeatedColumn column => "The column " ++ column ++ " is assigned more than once"
  | .unknownRule rule => "Unknown comparison rule " ++ ticked rule
  | .targetAlias aliasName statement =>
    "SQLite does not allow an alias (" ++ ticked aliasName ++ ") on the " ++ statement
      ++ " target table"
  | .insertCount count dialect =>
    "The insert query compiles to " ++ toString count ++ " statements in the " ++ dialect
      ++ " dialect, use compile_insert"
  | .inSubquery inner => subqueryMessage inner.message

/-- A query that does not compile is a fault of the query. -/
def QueryError.toError (e : QueryError) : Error :=
  ⟨.invalidQuery, e.message⟩

/-- Reporting a cause from inside of a sub-query and reporting its error
are the same. -/
theorem QueryError.toError_inSubquery (e : QueryError) :
    (QueryError.inSubquery e).toError = e.toError.inSubquery :=
  rfl

end SqlTree
