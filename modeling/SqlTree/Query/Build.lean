import SqlTree.Query.Basic
import SqlTree.Text.Blank

/-!
# Building queries

Functions that assemble a tree part by part.  They check nothing; a query
that makes no sense is refused when it is compiled.

A column is assigned once.  A value given for it later replaces the
earlier one and keeps its place, both in a row and in the assignments of
an UPDATE.  Rows and the select of an INSERT exclude each other: the one
given last stays.
-/

set_option autoImplicit false

namespace SqlTree

open Text

/-! ## Criteria -/

namespace Criterion

/-- The form in which comparison rules are kept. -/
def normalRule (rule : String) : String :=
  upper (trim rule)

/-- `column rule value` -/
def compare (column : Column) (rule : String) (value : Operand) : Criterion :=
  .value column (normalRule rule) value .and

/-- `left rule right` -/
def compareColumns (left : Column) (rule : String) (right : Column) : Criterion :=
  .columns left (normalRule rule) right .and

/-- `column BETWEEN min AND max` -/
def inRange (column : Column) (min max : Operand) : Criterion :=
  .between column min max false .and

/-- `(criteria)` -/
def ofGroup (criteria : List Criterion) : Criterion :=
  .group criteria false .and

/-- `EXISTS subquery` -/
def ofExists (subquery : Subquery) : Criterion :=
  .exists subquery false .and

/-- `column IN (values)` -/
def isOneOf (column : Column) (values : List Operand) : Criterion :=
  .member column (.list values) false .and

/-- `column IN subquery` -/
def isOneOfSelect (column : Column) (subquery : Subquery) : Criterion :=
  .member column (.select subquery) false .and

/-- `column IS NULL` -/
def isNull (column : Column) : Criterion :=
  .null column true .and

/-- `column IS NOT NULL` -/
def isNotNull (column : Column) : Criterion :=
  .null column false .and

/-- A text with positional values. -/
def ofSql (sql : String) (values : List Value) : Criterion :=
  .raw ⟨sql, .ofValues values⟩ .and

/-- The criterion negated, where it has a form with NOT.  A comparison and
a text stay as they are. -/
def negate : Criterion → Criterion
  | .between c low high negated append => .between c low high (!negated) append
  | .group cs negated append => .group cs (!negated) append
  | .exists s negated append => .exists s (!negated) append
  | .member c vs negated append => .member c vs (!negated) append
  | .null c isNull append => .null c (!isNull) append
  | criterion => criterion

/-- The criterion appended with OR. -/
def withOr (criterion : Criterion) : Criterion :=
  criterion.appendedBy .or

end Criterion

/-! ## Aggregates and joins -/

namespace Aggregate

/-- `COUNT(column)` -/
def count (column : Column) : Aggregate := ⟨"COUNT", column⟩

/-- `SUM(column)` -/
def sum (column : Column) : Aggregate := ⟨"SUM", column⟩

/-- `AVG(column)` -/
def avg (column : Column) : Aggregate := ⟨"AVG", column⟩

/-- `MIN(column)` -/
def min (column : Column) : Aggregate := ⟨"MIN", column⟩

/-- `MAX(column)` -/
def max (column : Column) : Aggregate := ⟨"MAX", column⟩

end Aggregate

/-- A join without an alias and a condition. -/
def Join.of (kind : JoinKind) (table : Table) : Join :=
  ⟨kind, table, none, []⟩

/-- The join with an alias. -/
def Join.withAlias (join : Join) (aliasName : String) : Join :=
  { join with aliasName := some aliasName }

/-- The join with a further condition. -/
def Join.on (join : Join) (criterion : Criterion) : Join :=
  { join with criteria := join.criteria ++ [criterion] }

/-- The join with the condition that two columns are equal. -/
def Join.onEqual (join : Join) (left right : String) : Join :=
  join.on (.compareColumns (.name left) "=" (.name right))

/-! ## Rows -/

/-- Sets the value of a column: replaced at its place, else added at the
end. -/
def Row.assign (column : String) (value : Operand) : Row → Row
  | [] => [⟨column, value⟩]
  | a :: row =>
    if a.column = column then ⟨a.column, value⟩ :: row
    else a :: Row.assign column value row

/-- The row that these assignments make, one after the other. -/
def Row.ofAssignments (assignments : List Assignment) : Row :=
  assignments.foldl (fun row a => Row.assign a.column a.value row) []

/-! ## Queries -/

namespace Query

/-- A query on a table. -/
def ofTable (table : Table) : Query :=
  { Query.empty with table := some table }

/-- The query with an alias for its table. -/
def withAlias (q : Query) (aliasName : String) : Query :=
  { q with tableAlias := some aliasName }

/-- The query with a further entry in its select list. -/
def selecting (q : Query) (value : Selectable) (aliasName : Option String) : Query :=
  { q with select := q.select ++ [⟨aliasName, value⟩] }

/-- The query with further columns in its select list. -/
def selectingColumns (q : Query) (columns : List String) : Query :=
  columns.foldl (fun q column => q.selecting (.column (.name column)) none) q

/-- The query with a further criterion. -/
def filter (q : Query) (criterion : Criterion) : Query :=
  { q with criteria := q.criteria ++ [criterion] }

/-- The query with a further criterion, appended with OR. -/
def filterOr (q : Query) (criterion : Criterion) : Query :=
  q.filter criterion.withOr

/-- The query with the criterion that a column equals a value. -/
def filterEq (q : Query) (column : String) (value : Operand) : Query :=
  q.filter (.compare (.name column) "=" value)

/-- The query with a further join. -/
def joining (q : Query) (join : Join) : Query :=
  { q with joins := q.joins ++ [join] }

/-- The query with a further order. -/
def orderedBy (q : Query) (order : Order) : Query :=
  { q with order := q.order ++ [order] }

/-- The query that passes over rows. -/
def withOffset (q : Query) (offset : Operand) : Query :=
  { q with offset := some offset }

/-- The query for a limited number of rows. -/
def withLimit (q : Query) (limit : Operand) : Query :=
  { q with limit := some limit }

/-- The query that inserts a further row.  A select that was to be
inserted is dropped. -/
def insertingRow (q : Query) (assignments : List Assignment) : Query :=
  let row := Row.ofAssignments assignments
  match q.insert with
  | some (.rows rows) => { q with insert := some (.rows (rows ++ [row])) }
  | _ => { q with insert := some (.rows [row]) }

/-- The query that inserts the rows of a select.  Rows that were to be
inserted are dropped. -/
def insertingSelect (q : Query) (columns : Option (List String)) (select : Query) : Query :=
  { q with insert := some (.select ⟨columns, select⟩) }

/-- The query that assigns a value to a column. -/
def assigning (q : Query) (column : String) (value : Operand) : Query :=
  { q with update := Row.assign column value q.update }

/-- The query as a DELETE. -/
def deleting (q : Query) : Query :=
  { q with delete := true }

end Query

end SqlTree
