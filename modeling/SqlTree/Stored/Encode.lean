import SqlTree.Json.Basic
import SqlTree.Query.Basic

/-!
# The stored form of a tree

A tree is stored as JSON.  A record is an object with all its fields, in
order; only a binding without a name leaves the name out.  A variant is an
object with one member, or its name alone where it has no content.
-/

set_option autoImplicit false

namespace SqlTree

namespace Json

/-- A variant with its content. -/
def variant (name : String) (content : Json) : Json :=
  .object [(name, content)]

/-- A slot that may be empty. -/
def ofOption (value : Option Json) : Json :=
  value.getD .null

/-- A string in a slot that may be empty. -/
def ofName (name : Option String) : Json :=
  ofOption (name.map .string)

/-- An integer. -/
def ofInt64 (n : Int64) : Json :=
  .number (.integer n.toInt)

/-- A floating-point number.  An infinity and a NaN have no stored form. -/
def ofFloat (x : Decimal.Binary64) : Json :=
  if x.isFinite then .number (.float x) else .null

end Json

/-! ## Keywords and statements -/

/-- An append rule. -/
def AppendRule.toJson (rule : AppendRule) : Json :=
  .string rule.keyword

/-- A kind of join. -/
def JoinKind.toJson (kind : JoinKind) : Json :=
  .string kind.keyword

/-- A dialect. -/
def Dialect.toJson (d : Dialect) : Json :=
  .string d.name

/-- A value. -/
def Value.toJson : Value → Json
  | .null => .string "Null"
  | .bool b => .variant "Bool" (.bool b)
  | .int n => .variant "Int" (.ofInt64 n)
  | .float x => .variant "Float" (.ofFloat x)
  | .text s => .variant "String" (.string s)
  | .timestamp t => .variant "Timestamp" (.string (t.text "Z"))

/-- A binding. -/
def Binding.toJson (b : Binding) : Json :=
  let name := b.name.map fun name => ("name", Json.string name)
  .object (name.toList ++ [("value", b.value.toJson)])

/-- Bindings. -/
def Bindings.toJson (b : Bindings) : Json :=
  .array (b.entries.map Binding.toJson)

/-- A statement. -/
def Statement.toJson (s : Statement) : Json :=
  .object [("sql", .string s.sql), ("bindings", s.bindings.toJson)]

/-- An expression. -/
def Expression.toJson : Expression → Json
  | .raw s => .variant "Raw" s.toJson
  | .value v => .variant "Value" v.toJson
  | .column name => .variant "Column" (.string name)

/-! ## The tree -/

mutual

/-- A query. -/
def Query.toJson : Query → Json
  | ⟨table, aliasName, select, insert, update, delete, joins, criteria, order, offset, limit⟩ =>
    .object
      [("table", Table.slotToJson table),
       ("table_alias", .ofName aliasName),
       ("select", .array (SelectItem.allToJson select)),
       ("insert", Insert.slotToJson insert),
       ("update", .array (Assignment.allToJson update)),
       ("delete", .bool delete),
       ("joins", .array (Join.allToJson joins)),
       ("criteria", .array (Criterion.allToJson criteria)),
       ("order", .array (Order.allToJson order)),
       ("offset", Operand.slotToJson offset),
       ("limit", Operand.slotToJson limit)]

/-- A column. -/
def Column.toJson : Column → Json
  | .name n => .variant "Name" (.string n)
  | .query q => .variant "Query" q.toJson
  | .expr e => .variant "Expr" e.toJson

/-- An operand. -/
def Operand.toJson : Operand → Json
  | .value v => .variant "Value" v.toJson
  | .query q => .variant "Query" q.toJson
  | .expr e => .variant "Expr" e.toJson

def Operand.slotToJson : Option Operand → Json
  | none => .null
  | some o => o.toJson

def Operand.allToJson : List Operand → List Json
  | [] => []
  | o :: os => o.toJson :: Operand.allToJson os

/-- A table. -/
def Table.toJson : Table → Json
  | .name n => .variant "Name" (.string n)
  | .query q => .variant "Query" q.toJson
  | .raw s => .variant "Raw" s.toJson

def Table.slotToJson : Option Table → Json
  | none => .null
  | some t => t.toJson

/-- A sub-select. -/
def Subquery.toJson : Subquery → Json
  | .query q => .variant "Query" q.toJson
  | .raw s => .variant "Raw" s.toJson

/-- The right side of IN. -/
def Members.toJson : Members → Json
  | .list vs => .variant "List" (.array (Operand.allToJson vs))
  | .select s => .variant "Select" s.toJson

/-- An aggregate. -/
def Aggregate.toJson : Aggregate → Json
  | ⟨function, c⟩ => .object [("function", .string function), ("column", c.toJson)]

/-- What a select list may hold. -/
def Selectable.toJson : Selectable → Json
  | .column c => .variant "Column" c.toJson
  | .aggregate a => .variant "Aggregate" a.toJson

/-- An entry of a select list. -/
def SelectItem.toJson : SelectItem → Json
  | ⟨aliasName, s⟩ => .object [("alias", .ofName aliasName), ("value", s.toJson)]

def SelectItem.allToJson : List SelectItem → List Json
  | [] => []
  | item :: items => item.toJson :: SelectItem.allToJson items

/-- A criterion. -/
def Criterion.toJson : Criterion → Json
  | .value c rule v append =>
    .variant "Value" <| .object
      [("column", c.toJson), ("rule", .string rule), ("value", v.toJson),
       ("append_rule", append.toJson)]
  | .columns l rule r append =>
    .variant "Columns" <| .object
      [("left", l.toJson), ("rule", .string rule), ("right", r.toJson),
       ("append_rule", append.toJson)]
  | .between c low high negated append =>
    .variant "Between" <| .object
      [("column", c.toJson), ("min", low.toJson), ("max", high.toJson), ("not", .bool negated),
       ("append_rule", append.toJson)]
  | .group cs negated append =>
    .variant "Group" <| .object
      [("criteria", .array (Criterion.allToJson cs)), ("not", .bool negated),
       ("append_rule", append.toJson)]
  | .exists s negated append =>
    .variant "Exists" <| .object
      [("subquery", s.toJson), ("not", .bool negated), ("append_rule", append.toJson)]
  | .member c vs negated append =>
    .variant "In" <| .object
      [("column", c.toJson), ("values", vs.toJson), ("not", .bool negated),
       ("append_rule", append.toJson)]
  | .null c isNull append =>
    .variant "IsNull" <| .object
      [("column", c.toJson), ("is_null", .bool isNull), ("append_rule", append.toJson)]
  | .raw s append =>
    .variant "Raw" <| .object [("statement", s.toJson), ("append_rule", append.toJson)]

def Criterion.allToJson : List Criterion → List Json
  | [] => []
  | c :: cs => c.toJson :: Criterion.allToJson cs

/-- An item of ORDER BY. -/
def Order.toJson : Order → Json
  | .column c descending =>
    .variant "Column" <| .object [("column", c.toJson), ("descending", .bool descending)]
  | .nulls c nullsFirst =>
    .variant "Nulls" <| .object [("column", c.toJson), ("nulls_first", .bool nullsFirst)]
  | .explicit c vs othersFirst =>
    .variant "Explicit" <| .object
      [("column", c.toJson), ("values", .array (Operand.allToJson vs)),
       ("others_first", .bool othersFirst)]
  | .random => .string "Random"

def Order.allToJson : List Order → List Json
  | [] => []
  | o :: os => o.toJson :: Order.allToJson os

/-- A join. -/
def Join.toJson : Join → Json
  | ⟨kind, t, aliasName, cs⟩ =>
    .object
      [("kind", kind.toJson), ("table", t.toJson), ("alias", .ofName aliasName),
       ("criteria", .array (Criterion.allToJson cs))]

def Join.allToJson : List Join → List Json
  | [] => []
  | j :: js => j.toJson :: Join.allToJson js

/-- An assignment, as an array of its column and its value. -/
def Assignment.toJson : Assignment → Json
  | ⟨column, v⟩ => .array [.string column, v.toJson]

def Assignment.allToJson : List Assignment → List Json
  | [] => []
  | a :: row => a.toJson :: Assignment.allToJson row

def Assignment.rowsToJson : List (List Assignment) → List Json
  | [] => []
  | row :: rows => .array (Assignment.allToJson row) :: Assignment.rowsToJson rows

/-- The select of an INSERT. -/
def InsertSelect.toJson : InsertSelect → Json
  | ⟨columns, select⟩ =>
    .object
      [("columns", .ofOption (columns.map fun columns => .array (columns.map .string))),
       ("select", select.toJson)]

/-- What an INSERT writes. -/
def Insert.toJson : Insert → Json
  | .rows rows => .variant "Rows" (.array (Assignment.rowsToJson rows))
  | .select s => .variant "Select" s.toJson

def Insert.slotToJson : Option Insert → Json
  | none => .null
  | some i => i.toJson

end

end SqlTree
