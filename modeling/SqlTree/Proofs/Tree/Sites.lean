import SqlTree.Compile.Select
import SqlTree.Proofs.Faults.Basic

/-!
# What a dialect comes across

`Query.sites` lists what a dialect comes across in a query that it writes as
a SELECT: the query itself and those inside of it, their tests and the items
of their orders, and the scalars and texts that bring values.  The list has
the order in which the dialect does so, and each site knows how many
sub-queries it stands in.

Not everything is looked at.  A membership test without members says nothing
about its column, and neither does an order of no values; and what a query
would write is not read.

A query is met where its table is: after its select list, and before the
table.  A test and an item of an order are met before what they hold.
-/

set_option autoImplicit false

namespace SqlTree

/-- What stands at a place of a tree. -/
inductive Node where
  | query (query : Query)
  | test (criterion : Criterion)
  | order (item : Order)
  /-- a scalar that gets a placeholder -/
  | value (value : Value)
  /-- a text that is written as it stands -/
  | text (statement : Statement)

/-- A node, and the number of sub-queries that it stands in. -/
structure Site where
  depth : Nat
  node : Node

variable (d : Dialect)

mutual

/-- The sites of a column slot. -/
def Column.sites (depth : Nat) : Column → List Site
  | .name _ => []
  | .query q => q.sites (depth + 1)
  | .expr e => [⟨depth, .text e.toStatement⟩]

/-- The sites of a value slot. -/
def Operand.sites (depth : Nat) : Operand → List Site
  | .value v => [⟨depth, .value v⟩]
  | .query q => q.sites (depth + 1)
  | .expr e => [⟨depth, .text e.toStatement⟩]

/-- The sites of each value. -/
def Operand.sitesAll (depth : Nat) : List Operand → List (List Site)
  | [] => []
  | o :: os => o.sites depth :: Operand.sitesAll depth os

def Operand.sitesSlot (depth : Nat) : Option Operand → List Site
  | none => []
  | some o => o.sites depth

/-- The sites of a table. -/
def Table.sites (depth : Nat) : Table → List Site
  | .name _ => []
  | .query q => q.sites (depth + 1)
  | .raw s => [⟨depth, .text s⟩]

def Table.sitesSlot (depth : Nat) : Option Table → List Site
  | none => []
  | some t => t.sites depth

/-- The sites of a sub-select. -/
def Subquery.sites (depth : Nat) : Subquery → List Site
  | .query q => q.sites (depth + 1)
  | .raw s => [⟨depth, .text s⟩]

/-- The sites of the right side of IN. -/
def Members.sites (depth : Nat) : Members → List Site
  | .list vs => (Operand.sitesAll depth vs).flatten
  | .select s => s.sites depth

/-- The sites of a call of an aggregate function. -/
def Aggregate.sites (depth : Nat) : Aggregate → List Site
  | ⟨_, c⟩ => c.sites depth

/-- The sites of what a select list may hold. -/
def Selectable.sites (depth : Nat) : Selectable → List Site
  | .column c => c.sites depth
  | .aggregate a => a.sites depth

/-- The sites of an entry of a select list. -/
def SelectItem.sites (depth : Nat) : SelectItem → List Site
  | ⟨_, s⟩ => s.sites depth

/-- The sites of each entry. -/
def SelectItem.sitesAll (depth : Nat) : List SelectItem → List (List Site)
  | [] => []
  | item :: items => item.sites depth :: SelectItem.sitesAll depth items

/-- A test, and the sites of its operands. -/
def Criterion.sites (depth : Nat) (c : Criterion) : List Site :=
  ⟨depth, .test c⟩ :: match c with
    | .value c _ v _ => c.sites depth ++ v.sites depth
    | .columns l _ r _ => l.sites depth ++ r.sites depth
    | .between c low high _ _ => c.sites depth ++ (low.sites depth ++ high.sites depth)
    | .group cs _ _ => Criterion.sitesAll depth cs
    | .exists s _ _ => s.sites depth
    | .member c vs _ _ => if vs.isEmpty then [] else c.sites depth ++ vs.sites depth
    | .null c _ _ => c.sites depth
    | .raw s _ => [⟨depth, .text s⟩]

def Criterion.sitesAll (depth : Nat) : List Criterion → List Site
  | [] => []
  | c :: cs => c.sites depth ++ Criterion.sitesAll depth cs

/-- An item of an order, and the sites of what it sorts by. -/
def Order.sites (depth : Nat) (o : Order) : List Site :=
  ⟨depth, .order o⟩ :: match o with
    | .column c _ => c.sites depth
    | .nulls c _ => c.sites depth
    | .explicit c vs othersFirst =>
      if vs.isEmpty then []
      else c.sites depth ++ (d.listed othersFirst (Operand.sitesAll depth vs)).flatten
    | .random => []

/-- The sites of each item. -/
def Order.sitesAll (depth : Nat) : List Order → List (List Site)
  | [] => []
  | o :: os => o.sites depth :: Order.sitesAll depth os

/-- The sites of a join. -/
def Join.sites (depth : Nat) : Join → List Site
  | ⟨_, t, _, cs⟩ => t.sites depth ++ Criterion.sitesAll depth cs

/-- The sites of each join. -/
def Join.sitesAll (depth : Nat) : List Join → List (List Site)
  | [] => []
  | j :: js => j.sites depth :: Join.sitesAll depth js

/-- A query, and the sites of its parts, as a SELECT. -/
def Query.sites (depth : Nat) (q : Query) : List Site :=
  match q with
  | ⟨table, _, select, _, _, _, joins, criteria, order, offset, limit⟩ =>
    (SelectItem.sitesAll depth select).flatten
      ++ (⟨depth, .query q⟩ :: Table.sitesSlot depth table
        ++ ((Join.sitesAll depth joins).flatten
          ++ (Criterion.sitesAll depth criteria
            ++ ((Order.sitesAll depth order).flatten
              ++ d.inWindow (Operand.sitesSlot depth offset) (Operand.sitesSlot depth limit)))))

end

end SqlTree
