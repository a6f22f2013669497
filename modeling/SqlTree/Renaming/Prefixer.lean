import SqlTree.Renaming.Walk
import SqlTree.Text.Split

/-!
# Table prefixes

Tables that share a database are told apart by a prefix.  A prefixer puts
it in front of every table name, after the name of the database, and in
front of the table part of the columns that are qualified by a table.

A column may also be qualified by an alias, and an alias gets no prefix.
So a column changes only where its qualifier names a table that is in
scope without an alias, in its own query or in one around it.  A prefixer
without scopes changes every qualified column.
-/

set_option autoImplicit false

namespace SqlTree

open Text

/-- A prefix for tables, and whether it minds scopes. -/
structure TablePrefixer where
  tablePrefix : String
  usesScope : Bool
deriving DecidableEq

/-- The names of the tables that are in scope without an alias, each once,
or nothing where every name is in scope. -/
abbrev TablesInScope := Option (List String)

/-- The names together with a further one. -/
def insertName (names : List String) (name : String) : List String :=
  if name ∈ names then names else names ++ [name]

/-- The name under which a table without an alias is in scope. -/
def Table.bareName? (table : Table) (aliasName : Option String) : Option String :=
  if aliasName.isSome then none else table.name?

/-- The tables of the query itself that are in scope without an alias. -/
def Query.bareNames (q : Query) : List String :=
  (q.table.bind fun t => t.bareName? q.tableAlias).toList
    ++ q.joins.filterMap fun j => j.table.bareName? j.aliasName

namespace TablePrefixer

/-- A prefixer that minds scopes. -/
def inScope (tablePrefix : String) : TablePrefixer :=
  ⟨tablePrefix, true⟩

/-- A prefixer for every qualified column. -/
def everywhere (tablePrefix : String) : TablePrefixer :=
  ⟨tablePrefix, false⟩

/-- A table name with the prefix, which comes after the database. -/
def table (p : TablePrefixer) (name : String) : String :=
  match splitLast '.' name.toList with
  | some (database, table) =>
    String.ofList database ++ "." ++ p.tablePrefix ++ String.ofList table
  | none => p.tablePrefix ++ name

/-- A column with the prefix in its table part, where that is in scope. -/
def column? (p : TablePrefixer) (name : String) (scope : TablesInScope) : Option String :=
  if p.tablePrefix.isEmpty then
    none
  else
    match splitLast '.' name.toList with
    | none => none
    | some (table, column) =>
      let table := String.ofList table
      if scope.all (table ∈ ·) then
        some (p.table table ++ "." ++ String.ofList column)
      else
        none

/-- The scope inside of a query. -/
def enter (q : Query) (scope : TablesInScope) : TablesInScope :=
  scope.map fun names => q.bareNames.foldl insertName names

/-- The rules of a prefixer. -/
def rules (p : TablePrefixer) : RenamingRules TablesInScope where
  root := if p.usesScope then some [] else none
  enter := enter
  tableName name _ := if p.tablePrefix.isEmpty then none else some (p.table name)
  columnName := p.column?
  targetName := p.column?

end TablePrefixer

end SqlTree
