import SqlTree.Query.Basic

/-!
# Slots on display

One line for a slot, for a reader who wants to see what a tree holds.  A
sub-query is not spelled out, and nothing is quoted.
-/

set_option autoImplicit false

namespace SqlTree

/-- What stands for a sub-query. -/
def subqueryMark : String :=
  "(SUBQUERY)"

/-- An expression in its parentheses. -/
def Expression.describe (e : Expression) : String :=
  "(" ++ e.toStatement.sql ++ ")"

/-- A column slot. -/
def Column.describe : Column → String
  | .name n => n
  | .query _ => subqueryMark
  | .expr e => e.describe

/-- A value slot. -/
def Operand.describe : Operand → String
  | .value v => v.describe
  | .query _ => subqueryMark
  | .expr e => e.describe

/-- A table. -/
def Table.describe : Table → String
  | .name n => n
  | .query _ => subqueryMark
  | .raw s => "(" ++ s.sql ++ ")"

/-- An item of ORDER BY. -/
def Order.describe : Order → String
  | .column c descending => c.describe ++ if descending then " DESC" else " ASC"
  | .nulls c nullsFirst => c.describe ++ " NULLS " ++ if nullsFirst then "FIRST" else "LAST"
  | .explicit c values othersFirst =>
    c.describe ++ " IN [" ++ String.intercalate ", " (values.map Operand.describe) ++ "]"
      ++ if othersFirst then " OTHERS FIRST" else ""
  | .random => "random"

/-- What a select list may hold. -/
def Selectable.describe : Selectable → String
  | .column c => c.describe
  | .aggregate a => a.function ++ "(" ++ a.column.describe ++ ")"

end SqlTree
