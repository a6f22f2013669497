import SqlTree.Renaming.Walk

/-!
# Explicit tables

A bare column belongs to the query that it stands in.  The qualifier
writes that out: it puts the name of the query's table, or its alias, in
front of every bare column that is read.

A column with a dot has a qualifier already, and a star stands for all
columns.  Where the query has no name, as with a sub-query without an
alias, its columns stay bare.
-/

set_option autoImplicit false

namespace SqlTree

namespace ColumnQualifier

/-- A bare column, qualified by the name of its query. -/
def qualify (name : String) (table : Option String) : Option String :=
  if name = "*" ∨ '.' ∈ name.toList then none
  else table.map fun table => table ++ "." ++ name

/-- The rules of the qualifier.  A query's context is its own name. -/
def rules : RenamingRules (Option String) where
  root := none
  enter q _ := q.qualifier?
  columnName := qualify

end ColumnQualifier

end SqlTree
