import SqlTree.Renaming.Visit

/-!
# Renaming every node

The plain form of a renaming.  It makes every node of the tree anew, with
the names that the rules give and the old names where they give none.  A
query is entered on the way, so what stands in it is renamed in its own
context.

Aliases, comparison rules, flags, scalars and texts are copied.
-/

set_option autoImplicit false

namespace SqlTree

section

variable {Context : Type}

variable (rules : RenamingRules Context)

/-- The name that the rules give, or the old one. -/
def RenamingRules.newName (kind : NameKind) (ctx : Context) (name : String) : String :=
  (rules.answer kind name ctx).getD name

mutual

/-- A query, in the context around it. -/
def Query.renamed (around : Context) : Query → Query
  | ⟨table, aliasName, select, insert, update, delete, joins, criteria, order, offset, limit⟩ =>
    let q : Query :=
      ⟨table, aliasName, select, insert, update, delete, joins, criteria, order, offset, limit⟩
    let ctx := rules.enter q around
    { table := Table.renamedSlot ctx table
      tableAlias := aliasName
      select := SelectItem.renamedAll ctx select
      insert := Insert.renamedSlot ctx insert
      update := Assignment.renamedAll ctx update
      delete := delete
      joins := Join.renamedAll ctx joins
      criteria := Criterion.renamedAll ctx criteria
      order := Order.renamedAll ctx order
      offset := Operand.renamedSlot ctx offset
      limit := Operand.renamedSlot ctx limit }

/-- A table. -/
def Table.renamed (ctx : Context) : Table → Table
  | .name n => .name (rules.newName .table ctx n)
  | .query q => .query (q.renamed ctx)
  | .raw s => .raw s

def Table.renamedSlot (ctx : Context) : Option Table → Option Table
  | none => none
  | some t => some (t.renamed ctx)

/-- A column that is read. -/
def Column.renamed (ctx : Context) : Column → Column
  | .name n => .name (rules.newName .column ctx n)
  | .query q => .query (q.renamed ctx)
  | .expr e => .expr e

/-- A value slot. -/
def Operand.renamed (ctx : Context) : Operand → Operand
  | .value v => .value v
  | .query q => .query (q.renamed ctx)
  | .expr e => .expr e

def Operand.renamedSlot (ctx : Context) : Option Operand → Option Operand
  | none => none
  | some o => some (o.renamed ctx)

def Operand.renamedAll (ctx : Context) : List Operand → List Operand
  | [] => []
  | o :: os => o.renamed ctx :: Operand.renamedAll ctx os

/-- A sub-select. -/
def Subquery.renamed (ctx : Context) : Subquery → Subquery
  | .query q => .query (q.renamed ctx)
  | .raw s => .raw s

/-- The right side of IN. -/
def Members.renamed (ctx : Context) : Members → Members
  | .list vs => .list (Operand.renamedAll ctx vs)
  | .select s => .select (s.renamed ctx)

/-- A call of an aggregate function. -/
def Aggregate.renamed (ctx : Context) : Aggregate → Aggregate
  | ⟨function, c⟩ => ⟨function, c.renamed ctx⟩

/-- What a select list may hold. -/
def Selectable.renamed (ctx : Context) : Selectable → Selectable
  | .column c => .column (c.renamed ctx)
  | .aggregate a => .aggregate (a.renamed ctx)

/-- An entry of a select list. -/
def SelectItem.renamed (ctx : Context) : SelectItem → SelectItem
  | ⟨aliasName, s⟩ => ⟨aliasName, s.renamed ctx⟩

def SelectItem.renamedAll (ctx : Context) : List SelectItem → List SelectItem
  | [] => []
  | item :: items => item.renamed ctx :: SelectItem.renamedAll ctx items

/-- An assignment, whose column is written. -/
def Assignment.renamed (ctx : Context) : Assignment → Assignment
  | ⟨column, v⟩ => ⟨rules.newName .target ctx column, v.renamed ctx⟩

def Assignment.renamedAll (ctx : Context) : List Assignment → List Assignment
  | [] => []
  | a :: row => a.renamed ctx :: Assignment.renamedAll ctx row

/-- Inserted rows. -/
def Assignment.renamedRows (ctx : Context) : List (List Assignment) → List (List Assignment)
  | [] => []
  | row :: rows => Assignment.renamedAll ctx row :: Assignment.renamedRows ctx rows

/-- The select of an INSERT, with the columns that are written. -/
def InsertSelect.renamed (ctx : Context) : InsertSelect → InsertSelect
  | ⟨columns, select⟩ =>
    ⟨columns.map (·.map (rules.newName .target ctx)), select.renamed ctx⟩

/-- What an INSERT writes. -/
def Insert.renamed (ctx : Context) : Insert → Insert
  | .rows rows => .rows (Assignment.renamedRows ctx rows)
  | .select s => .select (s.renamed ctx)

def Insert.renamedSlot (ctx : Context) : Option Insert → Option Insert
  | none => none
  | some i => some (i.renamed ctx)

/-- A test. -/
def Criterion.renamed (ctx : Context) : Criterion → Criterion
  | .value c rule v append => .value (c.renamed ctx) rule (v.renamed ctx) append
  | .columns l rule r append => .columns (l.renamed ctx) rule (r.renamed ctx) append
  | .between c low high negated append =>
    .between (c.renamed ctx) (low.renamed ctx) (high.renamed ctx) negated append
  | .group cs negated append => .group (Criterion.renamedAll ctx cs) negated append
  | .exists s negated append => .exists (s.renamed ctx) negated append
  | .member c vs negated append => .member (c.renamed ctx) (vs.renamed ctx) negated append
  | .null c isNull append => .null (c.renamed ctx) isNull append
  | .raw s append => .raw s append

def Criterion.renamedAll (ctx : Context) : List Criterion → List Criterion
  | [] => []
  | c :: cs => c.renamed ctx :: Criterion.renamedAll ctx cs

/-- An item of ORDER BY. -/
def Order.renamed (ctx : Context) : Order → Order
  | .column c descending => .column (c.renamed ctx) descending
  | .nulls c nullsFirst => .nulls (c.renamed ctx) nullsFirst
  | .explicit c vs othersFirst =>
    .explicit (c.renamed ctx) (Operand.renamedAll ctx vs) othersFirst
  | .random => .random

def Order.renamedAll (ctx : Context) : List Order → List Order
  | [] => []
  | o :: os => o.renamed ctx :: Order.renamedAll ctx os

/-- A join. -/
def Join.renamed (ctx : Context) : Join → Join
  | ⟨kind, t, aliasName, cs⟩ => ⟨kind, t.renamed ctx, aliasName, Criterion.renamedAll ctx cs⟩

def Join.renamedAll (ctx : Context) : List Join → List Join
  | [] => []
  | j :: js => j.renamed ctx :: Join.renamedAll ctx js

end

end

end SqlTree
