import SqlTree.Renaming.Walk

/-!
# Renaming by lists

Rules that take their new names from lists, either everywhere or at one
depth of the tree.  The root query has the depth 1, and a query inside of
another is one deeper.
-/

set_option autoImplicit false

namespace SqlTree

/-- Old names with their new names. -/
abbrev NameMap := List (String × String)

/-- The new names of tables, of columns that are read and of columns that
are written, and the depth at which they apply, where it is just one. -/
structure NameLists where
  tables : NameMap
  columns : NameMap
  targets : NameMap
  depth : Option Nat

namespace NameLists

/-- The new name for a name, at a depth. -/
def lookup (r : NameLists) (names : NameMap) (name : String) (depth : Nat) : Option String :=
  if r.depth.all (· = depth) then names.lookup name else none

/-- The rules of a renaming. -/
def rules (r : NameLists) : RenamingRules Nat where
  root := 0
  enter _ depth := depth + 1
  tableName := r.lookup r.tables
  columnName := r.lookup r.columns
  targetName := r.lookup r.targets

end NameLists

end SqlTree
