import SqlTree.Json.Parser
import SqlTree.Query.Basic
import SqlTree.Stored.Choice

/-!
# Reading trees from their stored form

The readers of everything that may be stored.  Where a query or a criterion
may stand inside of another, its reader takes the readers of those inside
as a parameter; `TreeReaders.upTo` ties them together, for trees that are
nested no deeper than the document they are read from.
-/

set_option autoImplicit false

namespace SqlTree

namespace Stored

/-! ## Keywords and statements -/

/-- An append rule. -/
def appendRule : Reader AppendRule :=
  .keyword AppendRule.ofKeyword

/-- A kind of join. -/
def joinKind : Reader JoinKind :=
  .keyword JoinKind.ofKeyword

/-- A dialect, by one of its stored names. -/
def dialect : Reader Dialect :=
  Choice.read
    [⟨["common"], .unit .common⟩, ⟨["MySQL", "mysql"], .unit .mysql⟩,
     ⟨["SQLite", "sqlite"], .unit .sqlite⟩]

/-- A value. -/
def value : Reader Value :=
  Choice.read
    [.unit "Null" .null, .single "Bool" .bool .bool, .single "Int" .int .int64,
     .single "Float" .float .float, .single "String" .text .string,
     .single "Timestamp" .timestamp .timestamp]

/-- A binding. -/
def binding : Reader Binding :=
  Record.read
    { name := "struct Binding"
      fields := .cons (.optional "name" .string) (.cons (.required "value" value) .nil)
      make := fun (name, value, ()) => ⟨name, value⟩ }

/-- Bindings, as they are: a name may occur twice. -/
def bindings : Reader Bindings :=
  .map Bindings.mk (.list binding)

/-- A statement. -/
def statement : Reader Statement :=
  Record.read
    { name := "struct Statement"
      fields :=
        .cons (.required "sql" .string) (.cons (.withDefault "bindings" bindings .empty) .nil)
      make := fun (sql, bindings, ()) => ⟨sql, bindings⟩ }

/-- An expression. -/
def expression : Reader Expression :=
  Choice.read
    [.single "Raw" .raw statement, .single "Value" .value value,
     .single "Column" .column .string]

/-! ## Slots that may hold a query -/

/-- A column. -/
def column (query : Reader Query) : Reader Column :=
  Choice.read
    [.single "Name" .name .string, .single "Query" .query query, .single "Expr" .expr expression]

/-- An operand. -/
def operand (query : Reader Query) : Reader Operand :=
  Choice.read
    [.single "Value" .value value, .single "Query" .query query, .single "Expr" .expr expression]

/-- A table. -/
def table (query : Reader Query) : Reader Table :=
  Choice.read
    [.single "Name" .name .string, .single "Query" .query query, .single "Raw" .raw statement]

/-- A sub-select. -/
def subquery (query : Reader Query) : Reader Subquery :=
  Choice.read [.single "Query" .query query, .single "Raw" .raw statement]

/-- The right side of IN. -/
def members (query : Reader Query) : Reader Members :=
  Choice.read
    [.single "List" .list (.list (operand query)), .single "Select" .select (subquery query)]

/-- An aggregate. -/
def aggregate (query : Reader Query) : Reader Aggregate :=
  Record.read
    { name := "struct Aggregate"
      fields :=
        .cons (.required "function" .string) (.cons (.required "column" (column query)) .nil)
      make := fun (function, column, ()) => ⟨function, column⟩ }

/-- What a select list may hold. -/
def selectable (query : Reader Query) : Reader Selectable :=
  Choice.read
    [.single "Column" .column (column query), .single "Aggregate" .aggregate (aggregate query)]

/-- An entry of a select list. -/
def selectItem (query : Reader Query) : Reader SelectItem :=
  Record.read
    { name := "struct SelectItem"
      fields :=
        .cons (.optional "alias" .string) (.cons (.required "value" (selectable query)) .nil)
      make := fun (aliasName, value, ()) => ⟨aliasName, value⟩ }

/-! ## Rows -/

/-- An assignment. -/
def assignment (query : Reader Query) : Reader Assignment :=
  .map (fun (column, value) => ⟨column, value⟩) (.pair .string (operand query))

/-- A row. -/
def row (query : Reader Query) : Reader Row :=
  .list (assignment query)

/-- The select of an INSERT. -/
def insertSelect (query : Reader Query) : Reader InsertSelect :=
  Record.read
    { name := "struct InsertFromSelect"
      fields :=
        .cons (.optional "columns" (.list .string)) (.cons (.required "select" query) .nil)
      make := fun (columns, select, ()) => ⟨columns, select⟩ }

/-- What an INSERT writes. -/
def insert (query : Reader Query) : Reader Insert :=
  Choice.read
    [.single "Rows" .rows (.list (row query)), .single "Select" .select (insertSelect query)]

/-! ## Criteria, orders and joins -/

/-- The field for the append rule. -/
def appendField : Field AppendRule :=
  .withDefault "append_rule" appendRule .and

/-- The variants of a criterion. -/
def criterionChoice (query : Reader Query) (criterion : Reader Criterion) : Choice Criterion :=
  let columnField (name : String) : Field Column := .required name (column query)
  let operandField (name : String) : Field Operand := .required name (operand query)
  [.record "Criterion" "Value"
      (.cons (columnField "column") <| .cons (.required "rule" .string) <|
        .cons (operandField "value") <| .cons appendField .nil)
      fun (column, rule, value, append, ()) => .value column rule value append,
   .record "Criterion" "Columns"
      (.cons (columnField "left") <| .cons (.required "rule" .string) <|
        .cons (columnField "right") <| .cons appendField .nil)
      fun (left, rule, right, append, ()) => .columns left rule right append,
   .record "Criterion" "Between"
      (.cons (columnField "column") <| .cons (operandField "min") <|
        .cons (operandField "max") <| .cons (.flag "not") <| .cons appendField .nil)
      fun (column, min, max, negated, append, ()) => .between column min max negated append,
   .record "Criterion" "Group"
      (.cons (.required "criteria" (.list criterion)) <| .cons (.flag "not") <|
        .cons appendField .nil)
      fun (criteria, negated, append, ()) => .group criteria negated append,
   .record "Criterion" "Exists"
      (.cons (.required "subquery" (subquery query)) <| .cons (.flag "not") <|
        .cons appendField .nil)
      fun (subquery, negated, append, ()) => .exists subquery negated append,
   .record "Criterion" "In"
      (.cons (columnField "column") <| .cons (.required "values" (members query)) <|
        .cons (.flag "not") <| .cons appendField .nil)
      fun (column, values, negated, append, ()) => .member column values negated append,
   .record "Criterion" "IsNull"
      (.cons (columnField "column") <| .cons (.required "is_null" .bool) <|
        .cons appendField .nil)
      fun (column, isNull, append, ()) => .null column isNull append,
   .record "Criterion" "Raw"
      (.cons (.required "statement" statement) <| .cons appendField .nil)
      fun (statement, append, ()) => .raw statement append]

/-- The variants of an item of ORDER BY. -/
def orderChoice (query : Reader Query) : Choice Order :=
  let columnField : Field Column := .required "column" (column query)
  [.record "Order" "Column" (.cons columnField <| .cons (.flag "descending") .nil)
      fun (column, descending, ()) => .column column descending,
   .record "Order" "Nulls" (.cons columnField <| .cons (.required "nulls_first" .bool) .nil)
      fun (column, nullsFirst, ()) => .nulls column nullsFirst,
   .record "Order" "Explicit"
      (.cons columnField <| .cons (.required "values" (.list (operand query))) <|
        .cons (.flag "others_first") .nil)
      fun (column, values, othersFirst, ()) => .explicit column values othersFirst,
   .unit "Random" .random]

/-- An item of ORDER BY. -/
def order (query : Reader Query) : Reader Order :=
  Choice.read (orderChoice query)

/-- A join. -/
def join (query : Reader Query) (criterion : Reader Criterion) : Reader Join :=
  Record.read
    { name := "struct Join"
      fields :=
        .cons (.withDefault "kind" joinKind .inner) <| .cons (.required "table" (table query)) <|
          .cons (.optional "alias" .string) <| .cons (.list "criteria" criterion) .nil
      make := fun (kind, table, aliasName, criteria, ()) => ⟨kind, table, aliasName, criteria⟩ }

/-! ## Queries -/

/-- The fields of a query. -/
def queryRecord (query : Reader Query) (criterion : Reader Criterion) :
    Record
      [Option Table, Option String, List SelectItem, Option Insert, Row, Bool, List Join,
       List Criterion, List Order, Option Operand, Option Operand] Query where
  name := "struct Query"
  fields :=
    .cons (.optional "table" (table query)) <|
    .cons (.optional "table_alias" .string) <|
    .cons (.list "select" (selectItem query)) <|
    .cons (.optional "insert" (insert query)) <|
    .cons (.list "update" (assignment query)) <|
    .cons (.flag "delete") <|
    .cons (.list "joins" (join query criterion)) <|
    .cons (.list "criteria" criterion) <|
    .cons (.list "order" (order query)) <|
    .cons (.optional "offset" (operand query)) <|
    .cons (.optional "limit" (operand query)) .nil
  make := fun (table, aliasName, select, insert, update, delete, joins, criteria, order, offset,
      limit, ()) =>
    ⟨table, aliasName, select, insert, update, delete, joins, criteria, order, offset, limit⟩

end Stored

/-- The readers of queries and criteria. -/
structure TreeReaders where
  query : Reader Query
  criterion : Reader Criterion

/-- The readers of queries and criteria in documents that are nested up to
a depth. -/
def TreeReaders.upTo : Nat → TreeReaders
  | 0 => ⟨fun _ _ => .error (.badText .nestedTooDeep), fun _ _ => .error (.badText .nestedTooDeep)⟩
  | depth + 1 =>
    let inner := upTo depth
    ⟨(Stored.queryRecord inner.query inner.criterion).read,
     Choice.read (Stored.criterionChoice inner.query inner.criterion)⟩

/-- The readers of queries and criteria in a document. -/
def TreeReaders.of (o : Outline) : TreeReaders :=
  upTo (o.height + 1)

namespace Stored

/-- A query. -/
def query : Reader Query := fun origin o =>
  (TreeReaders.of o).query origin o

/-- A criterion. -/
def criterion : Reader Criterion := fun origin o =>
  (TreeReaders.of o).criterion origin o

end Stored

/-! ## Documents -/

namespace Reader

variable {α : Type}

/-- Reads a JSON value. -/
def decode (read : Reader α) (value : Json) : Except DecodeError α :=
  read .value (.ofJson value)

/-- Reads a text, all of it. -/
def decodeText (read : Reader α) (text : String) : Except DecodeError α := do
  let (o, fault) := Outline.ofText text
  let value ← read .text o
  checkFault fault
  .ok value

end Reader

end SqlTree
