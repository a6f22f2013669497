import SqlTree.Keyword
import SqlTree.Statement

/-!
# Query trees

A query is a tree.  Its slots hold a name or a scalar, a sub-query, or a
leaf with a text of its own.  The same tree describes a SELECT, an INSERT,
an UPDATE and a DELETE; what it is follows from the fields that are set.

The types refer to each other, since a query may stand in almost every
slot of a query.  A walk over a tree is a family of functions, one for
each type and one for each list of them.
-/

set_option autoImplicit false

namespace SqlTree

mutual

/-- A column slot. -/
inductive Column where
  /-- an identifier, with dots between its parts -/
  | name (name : String)
  | query (query : Query)
  | expr (expr : Expression)

/-- A value slot. -/
inductive Operand where
  | value (value : Value)
  | query (query : Query)
  | expr (expr : Expression)

/-- The table of a query or a join. -/
inductive Table where
  | name (name : String)
  | query (query : Query)
  | raw (statement : Statement)

/-- The sub-select of EXISTS or IN. -/
inductive Subquery where
  | query (query : Query)
  | raw (statement : Statement)

/-- The right side of IN. -/
inductive Members where
  | list (values : List Operand)
  | select (subquery : Subquery)

/-- A call such as `COUNT(*)`.  The name of the function is written as it
is. -/
structure Aggregate where
  function : String
  column : Column

/-- What a select list may hold. -/
inductive Selectable where
  | column (column : Column)
  | aggregate (aggregate : Aggregate)

/-- An entry of a select list. -/
structure SelectItem where
  aliasName : Option String
  value : Selectable

/-- A test of WHERE or ON, with the rule that appends it to the tests
before it. -/
inductive Criterion where
  /-- `column rule value` -/
  | value (column : Column) (rule : String) (value : Operand) (append : AppendRule)
  /-- `left rule right` -/
  | columns (left : Column) (rule : String) (right : Column) (append : AppendRule)
  /-- `(column [NOT ]BETWEEN min AND max)` -/
  | between (column : Column) (min max : Operand) (negated : Bool) (append : AppendRule)
  /-- `[NOT ](criteria)` -/
  | group (criteria : List Criterion) (negated : Bool) (append : AppendRule)
  /-- `[NOT ]EXISTS (subquery)` -/
  | exists (subquery : Subquery) (negated : Bool) (append : AppendRule)
  /-- `column [NOT ]IN (values)` -/
  | member (column : Column) (values : Members) (negated : Bool) (append : AppendRule)
  /-- `column IS [NOT ]NULL` -/
  | null (column : Column) (isNull : Bool) (append : AppendRule)
  /-- a text with its bindings -/
  | raw (statement : Statement) (append : AppendRule)

/-- An item of ORDER BY. -/
inductive Order where
  /-- by a column, up or down -/
  | column (column : Column) (descending : Bool)
  /-- rows with NULL first or last -/
  | nulls (column : Column) (nullsFirst : Bool)
  /-- rows with the listed values in their order, and the others before or
  after them -/
  | explicit (column : Column) (values : List Operand) (othersFirst : Bool)
  /-- in no order -/
  | random

/-- A joined table.  The criteria are its ON clause. -/
structure Join where
  kind : JoinKind
  table : Table
  aliasName : Option String
  criteria : List Criterion

/-- A column and the value written to it. -/
structure Assignment where
  column : String
  value : Operand

/-- The rows of a select, to be inserted into the listed columns. -/
structure InsertSelect where
  columns : Option (List String)
  select : Query

/-- What an INSERT writes. -/
inductive Insert where
  | rows (rows : List (List Assignment))
  | select (source : InsertSelect)

/-- A query. -/
structure Query where
  table : Option Table
  tableAlias : Option String
  select : List SelectItem
  insert : Option Insert
  update : List Assignment
  delete : Bool
  joins : List Join
  criteria : List Criterion
  order : List Order
  offset : Option Operand
  limit : Option Operand

end

/-- The values written to the columns of one row, in order. -/
abbrev Row := List Assignment

/-- The query with nothing set. -/
def Query.empty : Query where
  table := none
  tableAlias := none
  select := []
  insert := none
  update := []
  delete := false
  joins := []
  criteria := []
  order := []
  offset := none
  limit := none

/-! ## What a query is -/

/-- The name of a table that is a plain name. -/
def Table.name? : Table → Option String
  | .name n => some n
  | _ => none

/-- The name of the query's table, where it is a plain name. -/
def Query.tableName? (q : Query) : Option String :=
  q.table.bind Table.name?

/-- The name that qualifies the query's columns: the alias, else the name
of the table. -/
def Query.qualifier? (q : Query) : Option String :=
  q.tableAlias.or q.tableName?

/-- Whether the query is an INSERT. -/
def Query.isInsert (q : Query) : Bool :=
  q.insert.isSome

/-- Whether the query assigns values. -/
def Query.isUpdate (q : Query) : Bool :=
  !q.update.isEmpty

/-- The kinds of statements. -/
inductive QueryKind where
  | insert
  | update
  | delete
  | select
deriving DecidableEq

/-- The kind of a query.  Inserted rows go before assignments, and those
before the mark of a DELETE. -/
def Query.kind (q : Query) : QueryKind :=
  if q.isInsert then .insert
  else if q.isUpdate then .update
  else if q.delete then .delete
  else .select

/-- The keyword of a kind. -/
def QueryKind.keyword : QueryKind → String
  | .insert => "INSERT"
  | .update => "UPDATE"
  | .delete => "DELETE"
  | .select => "SELECT"

/-- The scalar of a value slot. -/
def Operand.value? : Operand → Option Value
  | .value v => some v
  | _ => none

/-! ## How criteria are appended -/

/-- The rule that appends a criterion to those before it. -/
def Criterion.appendRule : Criterion → AppendRule
  | .value _ _ _ append => append
  | .columns _ _ _ append => append
  | .between _ _ _ _ append => append
  | .group _ _ append => append
  | .exists _ _ append => append
  | .member _ _ _ append => append
  | .null _ _ append => append
  | .raw _ append => append

/-- The criterion with another append rule. -/
def Criterion.appendedBy (append : AppendRule) : Criterion → Criterion
  | .value c rule v _ => .value c rule v append
  | .columns l rule r _ => .columns l rule r append
  | .between c low high negated _ => .between c low high negated append
  | .group cs negated _ => .group cs negated append
  | .exists s negated _ => .exists s negated append
  | .member c vs negated _ => .member c vs negated append
  | .null c isNull _ => .null c isNull append
  | .raw s _ => .raw s append

end SqlTree
