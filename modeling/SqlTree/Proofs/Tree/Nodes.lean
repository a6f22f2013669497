import SqlTree.Query.Basic

/-!
# The queries of a tree

`Query.nodes` lists a query and every query inside of it, at any depth and
in every slot, also in what it would write.
-/

set_option autoImplicit false

namespace SqlTree

mutual

/-- The queries of a column slot. -/
def Column.nodes : Column → List Query
  | .name _ => []
  | .query q => q.nodes
  | .expr _ => []

/-- The queries of a value slot. -/
def Operand.nodes : Operand → List Query
  | .value _ => []
  | .query q => q.nodes
  | .expr _ => []

def Operand.nodesAll : List Operand → List Query
  | [] => []
  | o :: os => o.nodes ++ Operand.nodesAll os

def Operand.nodesSlot : Option Operand → List Query
  | none => []
  | some o => o.nodes

/-- The queries of a table. -/
def Table.nodes : Table → List Query
  | .name _ => []
  | .query q => q.nodes
  | .raw _ => []

def Table.nodesSlot : Option Table → List Query
  | none => []
  | some t => t.nodes

/-- The queries of a sub-select. -/
def Subquery.nodes : Subquery → List Query
  | .query q => q.nodes
  | .raw _ => []

/-- The queries of the right side of IN. -/
def Members.nodes : Members → List Query
  | .list vs => Operand.nodesAll vs
  | .select s => s.nodes

/-- The queries of an aggregate. -/
def Aggregate.nodes : Aggregate → List Query
  | ⟨_, c⟩ => c.nodes

/-- The queries of what a select list may hold. -/
def Selectable.nodes : Selectable → List Query
  | .column c => c.nodes
  | .aggregate a => a.nodes

/-- The queries of an entry of a select list. -/
def SelectItem.nodes : SelectItem → List Query
  | ⟨_, s⟩ => s.nodes

def SelectItem.nodesAll : List SelectItem → List Query
  | [] => []
  | item :: items => item.nodes ++ SelectItem.nodesAll items

/-- The queries of a test. -/
def Criterion.nodes : Criterion → List Query
  | .value c _ v _ => c.nodes ++ v.nodes
  | .columns l _ r _ => l.nodes ++ r.nodes
  | .between c low high _ _ => c.nodes ++ low.nodes ++ high.nodes
  | .group cs _ _ => Criterion.nodesAll cs
  | .exists s _ _ => s.nodes
  | .member c vs _ _ => c.nodes ++ vs.nodes
  | .null c _ _ => c.nodes
  | .raw _ _ => []

def Criterion.nodesAll : List Criterion → List Query
  | [] => []
  | c :: cs => c.nodes ++ Criterion.nodesAll cs

/-- The queries of an item of an order. -/
def Order.nodes : Order → List Query
  | .column c _ => c.nodes
  | .nulls c _ => c.nodes
  | .explicit c vs _ => c.nodes ++ Operand.nodesAll vs
  | .random => []

def Order.nodesAll : List Order → List Query
  | [] => []
  | o :: os => o.nodes ++ Order.nodesAll os

/-- The queries of a join. -/
def Join.nodes : Join → List Query
  | ⟨_, t, _, cs⟩ => t.nodes ++ Criterion.nodesAll cs

def Join.nodesAll : List Join → List Query
  | [] => []
  | j :: js => j.nodes ++ Join.nodesAll js

/-- The queries of an assignment. -/
def Assignment.nodes : Assignment → List Query
  | ⟨_, v⟩ => v.nodes

def Assignment.nodesAll : List Assignment → List Query
  | [] => []
  | a :: row => a.nodes ++ Assignment.nodesAll row

/-- The queries of inserted rows. -/
def Assignment.nodesRows : List (List Assignment) → List Query
  | [] => []
  | row :: rows => Assignment.nodesAll row ++ Assignment.nodesRows rows

/-- The queries of the select of an INSERT. -/
def InsertSelect.nodes : InsertSelect → List Query
  | ⟨_, q⟩ => q.nodes

/-- The queries of what an INSERT writes. -/
def Insert.nodes : Insert → List Query
  | .rows rows => Assignment.nodesRows rows
  | .select s => s.nodes

def Insert.nodesSlot : Option Insert → List Query
  | none => []
  | some i => i.nodes

/-- A query, and the queries inside of it. -/
def Query.nodes : Query → List Query
  | ⟨table, aliasName, select, insert, update, delete, joins, criteria, order, offset, limit⟩ =>
    ⟨table, aliasName, select, insert, update, delete, joins, criteria, order, offset, limit⟩
      :: (Table.nodesSlot table ++ SelectItem.nodesAll select ++ Insert.nodesSlot insert
        ++ Assignment.nodesAll update ++ Join.nodesAll joins ++ Criterion.nodesAll criteria
        ++ Order.nodesAll order ++ Operand.nodesSlot offset ++ Operand.nodesSlot limit)

end

end SqlTree
