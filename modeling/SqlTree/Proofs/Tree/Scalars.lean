import SqlTree.Query.Basic

/-!
# The scalars of a tree

`Query.scalars` lists every value in a query, at any depth: the values that
stand in its slots, and the values that are bound in its texts, by position
or by name.  A scalar of a tree can be stored where it is a finite number,
or no number at all.
-/

set_option autoImplicit false

namespace SqlTree

/-- The value can be stored: an infinity and a NaN cannot. -/
def Value.IsStorable : Value → Prop
  | .float x => x.isFinite = true
  | .null | .bool _ | .int _ | .text _ | .timestamp _ => True

instance : DecidablePred Value.IsStorable
  | .float x => inferInstanceAs (Decidable (x.isFinite = true))
  | .null | .bool _ | .int _ | .text _ | .timestamp _ => .isTrue trivial

/-- Each of the values can be stored. -/
abbrev AllStorable (values : List Value) : Prop :=
  ∀ v ∈ values, v.IsStorable

/-- The scalars of an expression. -/
def Expression.scalars : Expression → List Value
  | .raw s => s.bindings.values
  | .value v => [v]
  | .column _ => []

mutual

/-- The scalars of a column slot. -/
def Column.scalars : Column → List Value
  | .name _ => []
  | .query q => q.scalars
  | .expr e => e.scalars

/-- The scalars of a value slot. -/
def Operand.scalars : Operand → List Value
  | .value v => [v]
  | .query q => q.scalars
  | .expr e => e.scalars

def Operand.scalarsAll : List Operand → List Value
  | [] => []
  | o :: os => o.scalars ++ Operand.scalarsAll os

def Operand.scalarsSlot : Option Operand → List Value
  | none => []
  | some o => o.scalars

/-- The scalars of a table. -/
def Table.scalars : Table → List Value
  | .name _ => []
  | .query q => q.scalars
  | .raw s => s.bindings.values

def Table.scalarsSlot : Option Table → List Value
  | none => []
  | some t => t.scalars

/-- The scalars of a sub-select. -/
def Subquery.scalars : Subquery → List Value
  | .query q => q.scalars
  | .raw s => s.bindings.values

/-- The scalars of the right side of IN. -/
def Members.scalars : Members → List Value
  | .list vs => Operand.scalarsAll vs
  | .select s => s.scalars

/-- The scalars of an aggregate. -/
def Aggregate.scalars : Aggregate → List Value
  | ⟨_, c⟩ => c.scalars

/-- The scalars of what a select list may hold. -/
def Selectable.scalars : Selectable → List Value
  | .column c => c.scalars
  | .aggregate a => a.scalars

/-- The scalars of an entry of a select list. -/
def SelectItem.scalars : SelectItem → List Value
  | ⟨_, s⟩ => s.scalars

def SelectItem.scalarsAll : List SelectItem → List Value
  | [] => []
  | item :: items => item.scalars ++ SelectItem.scalarsAll items

/-- The scalars of a test. -/
def Criterion.scalars : Criterion → List Value
  | .value c _ v _ => c.scalars ++ v.scalars
  | .columns l _ r _ => l.scalars ++ r.scalars
  | .between c low high _ _ => c.scalars ++ low.scalars ++ high.scalars
  | .group cs _ _ => Criterion.scalarsAll cs
  | .exists s _ _ => s.scalars
  | .member c vs _ _ => c.scalars ++ vs.scalars
  | .null c _ _ => c.scalars
  | .raw s _ => s.bindings.values

def Criterion.scalarsAll : List Criterion → List Value
  | [] => []
  | c :: cs => c.scalars ++ Criterion.scalarsAll cs

/-- The scalars of an item of an order. -/
def Order.scalars : Order → List Value
  | .column c _ => c.scalars
  | .nulls c _ => c.scalars
  | .explicit c vs _ => c.scalars ++ Operand.scalarsAll vs
  | .random => []

def Order.scalarsAll : List Order → List Value
  | [] => []
  | o :: os => o.scalars ++ Order.scalarsAll os

/-- The scalars of a join. -/
def Join.scalars : Join → List Value
  | ⟨_, t, _, cs⟩ => t.scalars ++ Criterion.scalarsAll cs

def Join.scalarsAll : List Join → List Value
  | [] => []
  | j :: js => j.scalars ++ Join.scalarsAll js

/-- The scalars of an assignment. -/
def Assignment.scalars : Assignment → List Value
  | ⟨_, v⟩ => v.scalars

def Assignment.scalarsAll : List Assignment → List Value
  | [] => []
  | a :: row => a.scalars ++ Assignment.scalarsAll row

/-- The scalars of inserted rows. -/
def Assignment.scalarsRows : List (List Assignment) → List Value
  | [] => []
  | row :: rows => Assignment.scalarsAll row ++ Assignment.scalarsRows rows

/-- The scalars of the select of an INSERT. -/
def InsertSelect.scalars : InsertSelect → List Value
  | ⟨_, q⟩ => q.scalars

/-- The scalars of what an INSERT writes. -/
def Insert.scalars : Insert → List Value
  | .rows rows => Assignment.scalarsRows rows
  | .select s => s.scalars

def Insert.scalarsSlot : Option Insert → List Value
  | none => []
  | some i => i.scalars

/-- The scalars of a query, at any depth. -/
def Query.scalars : Query → List Value
  | ⟨table, _, select, insert, update, _, joins, criteria, order, offset, limit⟩ =>
    Table.scalarsSlot table ++ SelectItem.scalarsAll select ++ Insert.scalarsSlot insert
      ++ Assignment.scalarsAll update ++ Join.scalarsAll joins ++ Criterion.scalarsAll criteria
      ++ Order.scalarsAll order ++ Operand.scalarsSlot offset ++ Operand.scalarsSlot limit

end

/-- The scalars of each part of a query can be stored. -/
structure Query.PartsStorable (q : Query) : Prop where
  table : AllStorable (Table.scalarsSlot q.table)
  select : AllStorable (SelectItem.scalarsAll q.select)
  insert : AllStorable (Insert.scalarsSlot q.insert)
  update : AllStorable (Assignment.scalarsAll q.update)
  joins : AllStorable (Join.scalarsAll q.joins)
  criteria : AllStorable (Criterion.scalarsAll q.criteria)
  order : AllStorable (Order.scalarsAll q.order)
  offset : AllStorable (Operand.scalarsSlot q.offset)
  limit : AllStorable (Operand.scalarsSlot q.limit)

theorem Query.partsStorable (q : Query) (h : AllStorable q.scalars) : q.PartsStorable := by
  cases q
  simp only [Query.scalars, List.forall_mem_append] at h
  obtain ⟨⟨⟨⟨⟨⟨⟨⟨table, select⟩, insert⟩, update⟩, joins⟩, criteria⟩, order⟩, offset⟩,
    limit⟩ := h
  exact { table, select, insert, update, joins, criteria, order, offset, limit }

end SqlTree
