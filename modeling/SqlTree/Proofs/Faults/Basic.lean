import SqlTree.Compile.Select

/-!
# Faults of a tree

What is wrong with a tree as a SELECT: a query without a table, and a
comparison rule that is none.  `Query.faults` lists the faults in the order
in which a dialect comes across them, and a fault of a sub-query as the query
around it reports it.

Not everything is looked at.  A membership test without members says nothing
about its column, and neither does an order of no values; and what a query
would write is not read.

The dialects look at the parts of a query in the same order, but for the
bounds of a window and for listed values that FIELD has to turn around.
-/

set_option autoImplicit false

namespace SqlTree

/-- The fault of a comparison rule that is none. -/
def ruleFaults (rule : String) : List QueryError :=
  if isRule rule then [] else [.unknownRule rule]

/-- Listed values in the order in which the dialect writes them. -/
def Dialect.listed {α : Type} (d : Dialect) (othersFirst : Bool) (values : List α) : List α :=
  match d with
  | .mysql => if othersFirst then values else values.reverse
  | .common | .sqlite => values

/-- What is said about OFFSET and LIMIT, in the order in which the dialect
writes them. -/
def Dialect.inWindow {α : Type} (d : Dialect) (offset limit : List α) : List α :=
  match d with
  | .common => offset ++ limit
  | .mysql | .sqlite => limit ++ offset

variable (d : Dialect)

mutual

/-- The faults of a column slot. -/
def Column.faults : Column → List QueryError
  | .name _ => []
  | .query q => q.faults.map .inSubquery
  | .expr _ => []

/-- The faults of a value slot. -/
def Operand.faults : Operand → List QueryError
  | .value _ => []
  | .query q => q.faults.map .inSubquery
  | .expr _ => []

/-- The faults of each value. -/
def Operand.faultsAll : List Operand → List (List QueryError)
  | [] => []
  | o :: os => o.faults :: Operand.faultsAll os

def Operand.faultsSlot : Option Operand → List QueryError
  | none => []
  | some o => o.faults

/-- The faults of a table. -/
def Table.faults : Table → List QueryError
  | .name _ => []
  | .query q => q.faults.map .inSubquery
  | .raw _ => []

/-- The faults of the table of a statement, which must be there. -/
def Table.faultsTarget (missing : QueryError) : Option Table → List QueryError
  | none => [missing]
  | some t => t.faults

/-- The faults of a sub-select. -/
def Subquery.faults : Subquery → List QueryError
  | .query q => q.faults.map .inSubquery
  | .raw _ => []

/-- The faults of the right side of IN. -/
def Members.faults : Members → List QueryError
  | .list vs => (Operand.faultsAll vs).flatten
  | .select s => s.faults

/-- The faults of a call of an aggregate function. -/
def Aggregate.faults : Aggregate → List QueryError
  | ⟨_, c⟩ => c.faults

/-- The faults of what a select list may hold. -/
def Selectable.faults : Selectable → List QueryError
  | .column c => c.faults
  | .aggregate a => a.faults

/-- The faults of an entry of a select list. -/
def SelectItem.faults : SelectItem → List QueryError
  | ⟨_, s⟩ => s.faults

/-- The faults of each entry. -/
def SelectItem.faultsAll : List SelectItem → List (List QueryError)
  | [] => []
  | item :: items => item.faults :: SelectItem.faultsAll items

/-- The faults of a test: its rule goes before its operands. -/
def Criterion.faults : Criterion → List QueryError
  | .value c rule v _ => ruleFaults rule ++ (c.faults ++ v.faults)
  | .columns l rule r _ => ruleFaults rule ++ (l.faults ++ r.faults)
  | .between c low high _ _ => c.faults ++ (low.faults ++ high.faults)
  | .group cs _ _ => Criterion.faultsAll cs
  | .exists s _ _ => s.faults
  | .member c vs _ _ => if vs.isEmpty then [] else c.faults ++ vs.faults
  | .null c _ _ => c.faults
  | .raw _ _ => []

def Criterion.faultsAll : List Criterion → List QueryError
  | [] => []
  | c :: cs => c.faults ++ Criterion.faultsAll cs

/-- The faults of an item of an order. -/
def Order.faults : Order → List QueryError
  | .column c _ => c.faults
  | .nulls c _ => c.faults
  | .explicit c vs othersFirst =>
    if vs.isEmpty then []
    else c.faults ++ (d.listed othersFirst (Operand.faultsAll vs)).flatten
  | .random => []

/-- The faults of each item. -/
def Order.faultsAll : List Order → List (List QueryError)
  | [] => []
  | o :: os => o.faults :: Order.faultsAll os

/-- The faults of a join. -/
def Join.faults : Join → List QueryError
  | ⟨_, t, _, cs⟩ => t.faults ++ Criterion.faultsAll cs

/-- The faults of each join. -/
def Join.faultsAll : List Join → List (List QueryError)
  | [] => []
  | j :: js => j.faults :: Join.faultsAll js

/-- The faults of a query, as a SELECT. -/
def Query.faults : Query → List QueryError
  | ⟨table, _, select, _, _, _, joins, criteria, order, offset, limit⟩ =>
    (SelectItem.faultsAll select).flatten
      ++ (Table.faultsTarget .noFromTable table
        ++ ((Join.faultsAll joins).flatten
          ++ (Criterion.faultsAll criteria
            ++ ((Order.faultsAll order).flatten
              ++ d.inWindow (Operand.faultsSlot offset) (Operand.faultsSlot limit)))))

end

end SqlTree
