import SqlTree.Compile.Clause
import SqlTree.Query.Basic

/-!
# Trees without their values

`Query.redacted` takes the values out of a tree: each becomes NULL, also
where it is bound to a raw statement.  Names of bindings stay, and so does
everything else.

One thing about a value is kept.  Where it is itself the pattern of a LIKE
or NOT LIKE, a text becomes the empty text, so that it can still be told
from other values.

So two trees that differ in nothing but their values, and have texts for
the same patterns, are two trees with the same redacted form.
-/

set_option autoImplicit false

namespace SqlTree

/-- A value that is taken out.  A text may be kept apart from the others. -/
def Value.redacted (keepsText : Bool) (v : Value) : Value :=
  if keepsText && v.isTextual then .text "" else .null

/-- Bindings without their values. -/
def Bindings.redacted (b : Bindings) : Bindings :=
  ⟨b.entries.map fun entry => ⟨entry.name, .null⟩⟩

/-- A statement without its values. -/
def Statement.redacted (s : Statement) : Statement :=
  ⟨s.sql, s.bindings.redacted⟩

/-- An expression without its values. -/
def Expression.redacted : Expression → Expression
  | .raw s => .raw s.redacted
  | .value v => .value (v.redacted false)
  | .column name => .column name

mutual

/-- A column slot. -/
def Column.redacted : Column → Column
  | .name n => .name n
  | .query q => .query q.redacted
  | .expr e => .expr e.redacted

/-- A value slot.  A pattern keeps whether it is a text. -/
def Operand.redacted (isPattern : Bool) : Operand → Operand
  | .value v => .value (v.redacted isPattern)
  | .query q => .query q.redacted
  | .expr e => .expr e.redacted

def Operand.redactedAll : List Operand → List Operand
  | [] => []
  | o :: os => o.redacted false :: Operand.redactedAll os

def Operand.redactedSlot : Option Operand → Option Operand
  | none => none
  | some o => some (o.redacted false)

/-- A table. -/
def Table.redacted : Table → Table
  | .name n => .name n
  | .query q => .query q.redacted
  | .raw s => .raw s.redacted

def Table.redactedSlot : Option Table → Option Table
  | none => none
  | some t => some t.redacted

/-- A sub-select. -/
def Subquery.redacted : Subquery → Subquery
  | .query q => .query q.redacted
  | .raw s => .raw s.redacted

/-- The right side of IN. -/
def Members.redacted : Members → Members
  | .list vs => .list (Operand.redactedAll vs)
  | .select s => .select s.redacted

/-- A call of an aggregate function. -/
def Aggregate.redacted : Aggregate → Aggregate
  | ⟨function, c⟩ => ⟨function, c.redacted⟩

/-- What a select list may hold. -/
def Selectable.redacted : Selectable → Selectable
  | .column c => .column c.redacted
  | .aggregate a => .aggregate a.redacted

/-- An entry of a select list. -/
def SelectItem.redacted : SelectItem → SelectItem
  | ⟨aliasName, s⟩ => ⟨aliasName, s.redacted⟩

def SelectItem.redactedAll : List SelectItem → List SelectItem
  | [] => []
  | item :: items => item.redacted :: SelectItem.redactedAll items

/-- A test. -/
def Criterion.redacted : Criterion → Criterion
  | .value c rule v append => .value c.redacted rule (v.redacted (isPatternRule rule)) append
  | .columns l rule r append => .columns l.redacted rule r.redacted append
  | .between c low high negated append =>
    .between c.redacted (low.redacted false) (high.redacted false) negated append
  | .group cs negated append => .group (Criterion.redactedAll cs) negated append
  | .exists s negated append => .exists s.redacted negated append
  | .member c vs negated append => .member c.redacted vs.redacted negated append
  | .null c isNull append => .null c.redacted isNull append
  | .raw s append => .raw s.redacted append

def Criterion.redactedAll : List Criterion → List Criterion
  | [] => []
  | c :: cs => c.redacted :: Criterion.redactedAll cs

/-- An item of ORDER BY. -/
def Order.redacted : Order → Order
  | .column c descending => .column c.redacted descending
  | .nulls c nullsFirst => .nulls c.redacted nullsFirst
  | .explicit c vs othersFirst => .explicit c.redacted (Operand.redactedAll vs) othersFirst
  | .random => .random

def Order.redactedAll : List Order → List Order
  | [] => []
  | o :: os => o.redacted :: Order.redactedAll os

/-- A join. -/
def Join.redacted : Join → Join
  | ⟨kind, t, aliasName, cs⟩ => ⟨kind, t.redacted, aliasName, Criterion.redactedAll cs⟩

def Join.redactedAll : List Join → List Join
  | [] => []
  | j :: js => j.redacted :: Join.redactedAll js

/-- An assignment. -/
def Assignment.redacted : Assignment → Assignment
  | ⟨column, v⟩ => ⟨column, v.redacted false⟩

def Assignment.redactedAll : List Assignment → List Assignment
  | [] => []
  | a :: row => a.redacted :: Assignment.redactedAll row

/-- Inserted rows. -/
def Assignment.redactedRows : List (List Assignment) → List (List Assignment)
  | [] => []
  | row :: rows => Assignment.redactedAll row :: Assignment.redactedRows rows

/-- The select of an INSERT. -/
def InsertSelect.redacted : InsertSelect → InsertSelect
  | ⟨columns, q⟩ => ⟨columns, q.redacted⟩

/-- What an INSERT writes. -/
def Insert.redacted : Insert → Insert
  | .rows rows => .rows (Assignment.redactedRows rows)
  | .select s => .select s.redacted

def Insert.redactedSlot : Option Insert → Option Insert
  | none => none
  | some i => some i.redacted

/-- A query without its values. -/
def Query.redacted : Query → Query
  | ⟨table, aliasName, select, insert, update, delete, joins, criteria, order, offset, limit⟩ =>
    { table := Table.redactedSlot table
      tableAlias := aliasName
      select := SelectItem.redactedAll select
      insert := Insert.redactedSlot insert
      update := Assignment.redactedAll update
      delete := delete
      joins := Join.redactedAll joins
      criteria := Criterion.redactedAll criteria
      order := Order.redactedAll order
      offset := Operand.redactedSlot offset
      limit := Operand.redactedSlot limit }

end

/-! ## Parts of a redacted query -/

namespace Query

variable (q : Query)

@[simp] theorem table_redacted : q.redacted.table = Table.redactedSlot q.table := by
  cases q; rfl

@[simp] theorem tableAlias_redacted : q.redacted.tableAlias = q.tableAlias := by
  cases q; rfl

@[simp] theorem insert_redacted : q.redacted.insert = Insert.redactedSlot q.insert := by
  cases q; rfl

@[simp] theorem update_redacted : q.redacted.update = Assignment.redactedAll q.update := by
  cases q; rfl

@[simp] theorem delete_redacted : q.redacted.delete = q.delete := by
  cases q; rfl

@[simp] theorem joins_redacted : q.redacted.joins = Join.redactedAll q.joins := by
  cases q; rfl

@[simp] theorem criteria_redacted : q.redacted.criteria = Criterion.redactedAll q.criteria := by
  cases q; rfl

@[simp] theorem order_redacted : q.redacted.order = Order.redactedAll q.order := by
  cases q; rfl

@[simp] theorem offset_redacted : q.redacted.offset = Operand.redactedSlot q.offset := by
  cases q; rfl

@[simp] theorem limit_redacted : q.redacted.limit = Operand.redactedSlot q.limit := by
  cases q; rfl

/-- Values do not make a query a statement of another kind. -/
theorem kind_redacted : q.redacted.kind = q.kind := by
  have hinsert : (Insert.redactedSlot q.insert).isSome = q.insert.isSome := by
    cases q.insert <;> rfl
  have hupdate : (Assignment.redactedAll q.update).isEmpty = q.update.isEmpty := by
    cases q.update <;> rfl
  rw [kind, kind, isInsert, isInsert, isUpdate, isUpdate, insert_redacted, update_redacted,
    delete_redacted, hinsert, hupdate]

end Query

end SqlTree
