import SqlTree.Renaming.Rules

/-!
# Renaming a tree

`RenamingRules.rename` asks its rules about every name of a tree, in the
query itself and in every query inside of it.  Aliases, texts and values
are no names.

What holds no changed name is not made anew: a revision is there exactly
where a rule gave a name, and `RenamingRules.rename?` of an unchanged query
is nothing.
-/

set_option autoImplicit false

namespace SqlTree

variable {Context : Type}

open Revision

mutual

/-- The revision of a query, in the context around it. -/
def Query.revise (rules : RenamingRules Context) (around : Context) : Query → Revision Query
  | ⟨table, aliasName, select, insert, update, delete, joins, criteria, order, offset, limit⟩ =>
    let q : Query :=
      ⟨table, aliasName, select, insert, update, delete, joins, criteria, order, offset, limit⟩
    let ctx := rules.enter q around
    let table' := Table.reviseSlot rules ctx table
    let select' := SelectItem.reviseAll rules ctx select
    let insert' := Insert.reviseSlot rules ctx insert
    let update' := Assignment.reviseAll rules ctx update
    let joins' := Join.reviseAll rules ctx joins
    let criteria' := Criterion.reviseAll rules ctx criteria
    let order' := Order.reviseAll rules ctx order
    let offset' := Operand.reviseSlot rules ctx offset
    let limit' := Operand.reviseSlot rules ctx limit
    if table'.isNone && select'.isNone && insert'.isNone && update'.isNone && joins'.isNone
        && criteria'.isNone && order'.isNone && offset'.isNone && limit'.isNone then
      none
    else
      some
        { table := table'.getD table
          tableAlias := aliasName
          select := select'.getD select
          insert := insert'.getD insert
          update := update'.getD update
          delete := delete
          joins := joins'.getD joins
          criteria := criteria'.getD criteria
          order := order'.getD order
          offset := offset'.getD offset
          limit := limit'.getD limit }

/-- The revision of a table. -/
def Table.revise (rules : RenamingRules Context) (ctx : Context) : Table → Revision Table
  | .name n => (rules.tableName n ctx).map .name
  | .query q => (q.revise rules ctx).map .query
  | .raw _ => none

def Table.reviseSlot (rules : RenamingRules Context) (ctx : Context) :
    Option Table → Revision (Option Table)
  | none => none
  | some t => (t.revise rules ctx).map some

/-- The revision of a column that is read. -/
def Column.revise (rules : RenamingRules Context) (ctx : Context) : Column → Revision Column
  | .name n => (rules.columnName n ctx).map .name
  | .query q => (q.revise rules ctx).map .query
  | .expr _ => none

/-- The revision of a value slot. -/
def Operand.revise (rules : RenamingRules Context) (ctx : Context) : Operand → Revision Operand
  | .query q => (q.revise rules ctx).map .query
  | .value _ => none
  | .expr _ => none

def Operand.reviseSlot (rules : RenamingRules Context) (ctx : Context) :
    Option Operand → Revision (Option Operand)
  | none => none
  | some o => (o.revise rules ctx).map some

def Operand.reviseAll (rules : RenamingRules Context) (ctx : Context) :
    List Operand → Revision (List Operand)
  | [] => none
  | o :: os => cons o os (o.revise rules ctx) (Operand.reviseAll rules ctx os)

/-- The revision of a sub-select. -/
def Subquery.revise (rules : RenamingRules Context) (ctx : Context) :
    Subquery → Revision Subquery
  | .query q => (q.revise rules ctx).map .query
  | .raw _ => none

/-- The revision of the right side of IN. -/
def Members.revise (rules : RenamingRules Context) (ctx : Context) : Members → Revision Members
  | .list vs => (Operand.reviseAll rules ctx vs).map .list
  | .select s => (s.revise rules ctx).map .select

/-- The revision of an aggregate. -/
def Aggregate.revise (rules : RenamingRules Context) (ctx : Context) :
    Aggregate → Revision Aggregate
  | ⟨function, c⟩ => (c.revise rules ctx).map fun c => ⟨function, c⟩

/-- The revision of what a select list may hold. -/
def Selectable.revise (rules : RenamingRules Context) (ctx : Context) :
    Selectable → Revision Selectable
  | .column c => (c.revise rules ctx).map .column
  | .aggregate a => (a.revise rules ctx).map .aggregate

/-- The revision of an entry of a select list. -/
def SelectItem.revise (rules : RenamingRules Context) (ctx : Context) :
    SelectItem → Revision SelectItem
  | ⟨aliasName, s⟩ => (s.revise rules ctx).map fun s => ⟨aliasName, s⟩

def SelectItem.reviseAll (rules : RenamingRules Context) (ctx : Context) :
    List SelectItem → Revision (List SelectItem)
  | [] => none
  | item :: items =>
    cons item items (item.revise rules ctx) (SelectItem.reviseAll rules ctx items)

/-- The revision of an assignment. -/
def Assignment.revise (rules : RenamingRules Context) (ctx : Context) :
    Assignment → Revision Assignment
  | ⟨column, v⟩ => both Assignment.mk column v (rules.targetName column ctx) (v.revise rules ctx)

def Assignment.reviseAll (rules : RenamingRules Context) (ctx : Context) :
    List Assignment → Revision (List Assignment)
  | [] => none
  | a :: row => cons a row (a.revise rules ctx) (Assignment.reviseAll rules ctx row)

/-- The revision of inserted rows. -/
def Assignment.reviseRows (rules : RenamingRules Context) (ctx : Context) :
    List (List Assignment) → Revision (List (List Assignment))
  | [] => none
  | row :: rows =>
    cons row rows (Assignment.reviseAll rules ctx row) (Assignment.reviseRows rules ctx rows)

/-- The revision of the select of an INSERT. -/
def InsertSelect.revise (rules : RenamingRules Context) (ctx : Context) :
    InsertSelect → Revision InsertSelect
  | ⟨columns, select⟩ =>
    both InsertSelect.mk columns select
      (slot (list fun column => rules.targetName column ctx) columns) (select.revise rules ctx)

/-- The revision of what an INSERT writes. -/
def Insert.revise (rules : RenamingRules Context) (ctx : Context) : Insert → Revision Insert
  | .rows rows => (Assignment.reviseRows rules ctx rows).map .rows
  | .select s => (s.revise rules ctx).map .select

def Insert.reviseSlot (rules : RenamingRules Context) (ctx : Context) :
    Option Insert → Revision (Option Insert)
  | none => none
  | some i => (i.revise rules ctx).map some

/-- The revision of a criterion. -/
def Criterion.revise (rules : RenamingRules Context) (ctx : Context) :
    Criterion → Revision Criterion
  | .value c rule v append =>
    both (fun c v => .value c rule v append) c v (c.revise rules ctx) (v.revise rules ctx)
  | .columns l rule r append =>
    both (fun l r => .columns l rule r append) l r (l.revise rules ctx) (r.revise rules ctx)
  | .between c low high negated append =>
    both (fun c (bounds : Operand × Operand) => .between c bounds.1 bounds.2 negated append)
      c (low, high) (c.revise rules ctx)
      (both Prod.mk low high (low.revise rules ctx) (high.revise rules ctx))
  | .group cs negated append =>
    (Criterion.reviseAll rules ctx cs).map fun cs => .group cs negated append
  | .exists s negated append => (s.revise rules ctx).map fun s => .exists s negated append
  | .member c vs negated append =>
    both (fun c vs => .member c vs negated append) c vs (c.revise rules ctx) (vs.revise rules ctx)
  | .null c isNull append => (c.revise rules ctx).map fun c => .null c isNull append
  | .raw _ _ => none

def Criterion.reviseAll (rules : RenamingRules Context) (ctx : Context) :
    List Criterion → Revision (List Criterion)
  | [] => none
  | c :: cs => cons c cs (c.revise rules ctx) (Criterion.reviseAll rules ctx cs)

/-- The revision of an item of ORDER BY. -/
def Order.revise (rules : RenamingRules Context) (ctx : Context) : Order → Revision Order
  | .column c descending => (c.revise rules ctx).map fun c => .column c descending
  | .nulls c nullsFirst => (c.revise rules ctx).map fun c => .nulls c nullsFirst
  | .explicit c vs othersFirst =>
    both (fun c vs => .explicit c vs othersFirst) c vs (c.revise rules ctx)
      (Operand.reviseAll rules ctx vs)
  | .random => none

def Order.reviseAll (rules : RenamingRules Context) (ctx : Context) :
    List Order → Revision (List Order)
  | [] => none
  | o :: os => cons o os (o.revise rules ctx) (Order.reviseAll rules ctx os)

/-- The revision of a join. -/
def Join.revise (rules : RenamingRules Context) (ctx : Context) : Join → Revision Join
  | ⟨kind, t, aliasName, cs⟩ =>
    both (fun t cs => ⟨kind, t, aliasName, cs⟩) t cs (t.revise rules ctx)
      (Criterion.reviseAll rules ctx cs)

def Join.reviseAll (rules : RenamingRules Context) (ctx : Context) :
    List Join → Revision (List Join)
  | [] => none
  | j :: js => cons j js (j.revise rules ctx) (Join.reviseAll rules ctx js)

end

namespace RenamingRules

/-- The query with its names changed, where a rule gives a name for one of
them. -/
def rename? (rules : RenamingRules Context) (q : Query) : Option Query :=
  q.revise rules rules.root

/-- The query with its names changed. -/
def rename (rules : RenamingRules Context) (q : Query) : Query :=
  (rules.rename? q).getD q

end RenamingRules

/-- The query after several processes in a row, each on what the one before
it made. -/
def Query.processed (processes : List (Query → Query)) (q : Query) : Query :=
  processes.foldl (fun q process => process q) q

end SqlTree
