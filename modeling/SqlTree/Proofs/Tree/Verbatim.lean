import SqlTree.Proofs.Placeholders.Scan
import SqlTree.Query.Basic

/-!
# Texts that a tree brings along

A tree holds texts that are written as they stand: statements with their
bindings, bare names of expressions, and names of functions.  Everything
else that is written comes from the compiler, or stands in quotes.

`Query.verbatim` lists them, at any depth, in the query itself and in every
query inside of it, whether or not they are written where it stands.
-/

set_option autoImplicit false

namespace SqlTree

/-- A text that is written as it stands. -/
inductive Verbatim where
  /-- a statement with its bindings -/
  | statement (statement : Statement)
  /-- a text without bindings -/
  | bare (sql : String)

/-- The text has a placeholder for each positional value that it brings,
and ends outside of quotes. -/
def Verbatim.IsAligned : Verbatim → Prop
  | .statement s => s.IsAligned
  | .bare sql => IsPlain sql

instance : DecidablePred Verbatim.IsAligned
  | .statement s => inferInstanceAs (Decidable s.IsAligned)
  | .bare sql => inferInstanceAs (Decidable (IsPlain sql))

/-- Each of the texts has a placeholder for each of its values. -/
abbrev AllAligned (texts : List Verbatim) : Prop :=
  ∀ text ∈ texts, text.IsAligned

/-- The text of an expression that brings one. -/
def Expression.verbatim : Expression → List Verbatim
  | .raw s => [.statement s]
  | .value _ => []
  | .column name => [.bare name]

mutual

/-- The texts of a column slot. -/
def Column.verbatim : Column → List Verbatim
  | .name _ => []
  | .query q => q.verbatim
  | .expr e => e.verbatim

/-- The texts of a value slot. -/
def Operand.verbatim : Operand → List Verbatim
  | .value _ => []
  | .query q => q.verbatim
  | .expr e => e.verbatim

def Operand.verbatimAll : List Operand → List Verbatim
  | [] => []
  | o :: os => o.verbatim ++ Operand.verbatimAll os

def Operand.verbatimSlot : Option Operand → List Verbatim
  | none => []
  | some o => o.verbatim

/-- The texts of a table. -/
def Table.verbatim : Table → List Verbatim
  | .name _ => []
  | .query q => q.verbatim
  | .raw s => [.statement s]

def Table.verbatimSlot : Option Table → List Verbatim
  | none => []
  | some t => t.verbatim

/-- The texts of a sub-select. -/
def Subquery.verbatim : Subquery → List Verbatim
  | .query q => q.verbatim
  | .raw s => [.statement s]

/-- The texts of the right side of IN. -/
def Members.verbatim : Members → List Verbatim
  | .list vs => Operand.verbatimAll vs
  | .select s => s.verbatim

/-- The name of the function, and the texts of its argument. -/
def Aggregate.verbatim : Aggregate → List Verbatim
  | ⟨function, c⟩ => .bare function :: c.verbatim

/-- The texts of what a select list may hold. -/
def Selectable.verbatim : Selectable → List Verbatim
  | .column c => c.verbatim
  | .aggregate a => a.verbatim

/-- The texts of an entry of a select list. -/
def SelectItem.verbatim : SelectItem → List Verbatim
  | ⟨_, s⟩ => s.verbatim

def SelectItem.verbatimAll : List SelectItem → List Verbatim
  | [] => []
  | item :: items => item.verbatim ++ SelectItem.verbatimAll items

/-- The texts of a test. -/
def Criterion.verbatim : Criterion → List Verbatim
  | .value c _ v _ => c.verbatim ++ v.verbatim
  | .columns l _ r _ => l.verbatim ++ r.verbatim
  | .between c low high _ _ => c.verbatim ++ low.verbatim ++ high.verbatim
  | .group cs _ _ => Criterion.verbatimAll cs
  | .exists s _ _ => s.verbatim
  | .member c vs _ _ => c.verbatim ++ vs.verbatim
  | .null c _ _ => c.verbatim
  | .raw s _ => [.statement s]

def Criterion.verbatimAll : List Criterion → List Verbatim
  | [] => []
  | c :: cs => c.verbatim ++ Criterion.verbatimAll cs

/-- The texts of an item of an order. -/
def Order.verbatim : Order → List Verbatim
  | .column c _ => c.verbatim
  | .nulls c _ => c.verbatim
  | .explicit c vs _ => c.verbatim ++ Operand.verbatimAll vs
  | .random => []

def Order.verbatimAll : List Order → List Verbatim
  | [] => []
  | o :: os => o.verbatim ++ Order.verbatimAll os

/-- The texts of a join. -/
def Join.verbatim : Join → List Verbatim
  | ⟨_, t, _, cs⟩ => t.verbatim ++ Criterion.verbatimAll cs

def Join.verbatimAll : List Join → List Verbatim
  | [] => []
  | j :: js => j.verbatim ++ Join.verbatimAll js

/-- The texts of an assignment. -/
def Assignment.verbatim : Assignment → List Verbatim
  | ⟨_, v⟩ => v.verbatim

def Assignment.verbatimAll : List Assignment → List Verbatim
  | [] => []
  | a :: row => a.verbatim ++ Assignment.verbatimAll row

/-- The texts of inserted rows. -/
def Assignment.verbatimRows : List (List Assignment) → List Verbatim
  | [] => []
  | row :: rows => Assignment.verbatimAll row ++ Assignment.verbatimRows rows

/-- The texts of the select of an INSERT. -/
def InsertSelect.verbatim : InsertSelect → List Verbatim
  | ⟨_, q⟩ => q.verbatim

/-- The texts of what an INSERT writes. -/
def Insert.verbatim : Insert → List Verbatim
  | .rows rows => Assignment.verbatimRows rows
  | .select s => s.verbatim

def Insert.verbatimSlot : Option Insert → List Verbatim
  | none => []
  | some i => i.verbatim

/-- The texts of a query, at any depth. -/
def Query.verbatim : Query → List Verbatim
  | ⟨table, _, select, insert, update, _, joins, criteria, order, offset, limit⟩ =>
    Table.verbatimSlot table ++ SelectItem.verbatimAll select ++ Insert.verbatimSlot insert
      ++ Assignment.verbatimAll update ++ Join.verbatimAll joins ++ Criterion.verbatimAll criteria
      ++ Order.verbatimAll order ++ Operand.verbatimSlot offset ++ Operand.verbatimSlot limit

end

/-- The texts of each part of a query have a placeholder for each of their
values. -/
structure Query.PartsAligned (q : Query) : Prop where
  table : AllAligned (Table.verbatimSlot q.table)
  select : AllAligned (SelectItem.verbatimAll q.select)
  insert : AllAligned (Insert.verbatimSlot q.insert)
  update : AllAligned (Assignment.verbatimAll q.update)
  joins : AllAligned (Join.verbatimAll q.joins)
  criteria : AllAligned (Criterion.verbatimAll q.criteria)
  order : AllAligned (Order.verbatimAll q.order)
  offset : AllAligned (Operand.verbatimSlot q.offset)
  limit : AllAligned (Operand.verbatimSlot q.limit)

theorem Query.partsAligned (q : Query) (h : AllAligned q.verbatim) : q.PartsAligned := by
  cases q
  simp only [Query.verbatim, List.forall_mem_append] at h
  obtain ⟨⟨⟨⟨⟨⟨⟨⟨table, select⟩, insert⟩, update⟩, joins⟩, criteria⟩, order⟩, offset⟩,
    limit⟩ := h
  exact { table, select, insert, update, joins, criteria, order, offset, limit }

end SqlTree
