import SqlTree.Compile.Clause
import SqlTree.Compile.Window
import SqlTree.Query.Basic

/-!
# SELECT

The text of a query as a SELECT, and of everything that may stand in it.
A query is written one part a line: the select list, the table, the joins,
the condition, the order and the window.

Identifiers are quoted, and every scalar becomes a placeholder with its
value collected where the placeholder stands.  A sub-query is always a
SELECT, whatever else its tree holds.
-/

set_option autoImplicit false

namespace SqlTree

open Compiler

/-- The direction of an order. -/
def directionText (descending : Bool) : String :=
  if descending then " DESC" else " ASC"

/-- The table of a query after a keyword, or the error of a query without
one. -/
def targetClause (d : Dialect) (keyword : String) (missing : QueryError)
    (table : Option (Compiler String)) (aliasName : Option String) : Compiler String :=
  match table with
  | none => throw missing
  | some table => do return keyword ++ " " ++ d.aliased aliasName (← table)

/-- The condition, the order and the window of a query. -/
def clauseParts (criteria : Compiler Clause) (orders : List (Compiler String))
    (window : Compiler (List String)) : Compiler (List String) := do
  let condition ← criteria
  let orders ← inSequence orders
  let window ← window
  return keywordPart "WHERE" condition.sql
    ++ keywordPart "ORDER BY" (String.intercalate ", " (orders.filter fun o => !o.isEmpty))
    ++ window

/-- Whether there is nothing to be a member of. -/
def Members.isEmpty : Members → Bool
  | .list [] => true
  | _ => false

/-- Whether the operand is a text that stands for itself. -/
def Operand.isTextual (o : Operand) : Bool :=
  o.value?.any Value.isTextual

mutual

/-- A column slot: a quoted identifier, or what stands in parentheses. -/
def Column.compile (d : Dialect) : Column → Compiler String
  | .name n => return d.quoteIdentifier n
  | .query q => subquery (q.compileSelect d)
  | .expr e => e.compile

/-- A value slot: a placeholder, or what stands in parentheses. -/
def Operand.compile (d : Dialect) : Operand → Compiler String
  | .value v => bindValue v
  | .query q => subquery (q.compileSelect d)
  | .expr e => e.compile

def Operand.compileAll (d : Dialect) : List Operand → List (Compiler String)
  | [] => []
  | o :: os => o.compile d :: Operand.compileAll d os

def Operand.compileOption (d : Dialect) : Option Operand → Option (Compiler String)
  | none => none
  | some o => some (o.compile d)

/-- A table, without its alias. -/
def Table.compile (d : Dialect) : Table → Compiler String
  | .name n => return d.quoteIdentifier n
  | .query q => subquery (q.compileSelect d)
  | .raw s => parenthesized s

def Table.compileOption (d : Dialect) : Option Table → Option (Compiler String)
  | none => none
  | some t => some (t.compile d)

/-- A sub-select, in parentheses. -/
def Subquery.compile (d : Dialect) : Subquery → Compiler String
  | .query q => subquery (q.compileSelect d)
  | .raw s => parenthesized s

/-- The right side of IN, in parentheses. -/
def Members.compile (d : Dialect) : Members → Compiler String
  | .list vs => do return "(" ++ (← commaList (Operand.compileAll d vs)) ++ ")"
  | .select s => s.compile d

/-- A call of an aggregate function. -/
def Aggregate.compile (d : Dialect) : Aggregate → Compiler String
  | ⟨function, c⟩ => do return function ++ "(" ++ (← c.compile d) ++ ")"

/-- What a select list may hold. -/
def Selectable.compile (d : Dialect) : Selectable → Compiler String
  | .column c => c.compile d
  | .aggregate a => a.compile d

/-- An entry of a select list. -/
def SelectItem.compile (d : Dialect) : SelectItem → Compiler String
  | ⟨aliasName, s⟩ => do return d.aliased aliasName (← s.compile d)

def SelectItem.compileAll (d : Dialect) : List SelectItem → List (Compiler String)
  | [] => []
  | item :: items => item.compile d :: SelectItem.compileAll d items

/-- A test.  Only a group of empty tests and an empty text are empty. -/
def Criterion.compile (d : Dialect) : Criterion → Compiler String
  | .value c rule v _ => do
    requireRule rule
    let column ← c.compile d
    let value ← v.compile d
    let test := column ++ " " ++ rule ++ " " ++ value
    if isPatternRule rule && v.isTextual then
      let escape ← bindValue escapeChar
      return test ++ " ESCAPE " ++ escape
    else
      return test
  | .columns l rule r _ => do
    requireRule rule
    let left ← l.compile d
    let right ← r.compile d
    return left ++ " " ++ rule ++ " " ++ right
  | .between c low high negated _ => do
    let column ← c.compile d
    let min ← low.compile d
    let max ← high.compile d
    return "(" ++ column ++ " " ++ negation negated ++ "BETWEEN " ++ min ++ " AND " ++ max ++ ")"
  | .group cs negated _ => do
    let inner ← Criterion.compileAll d .empty cs
    return if inner.sql.isEmpty then "" else negation negated ++ "(" ++ inner.sql ++ ")"
  | .exists s negated _ => do
    return negation negated ++ "EXISTS " ++ (← s.compile d)
  | .member c vs negated _ =>
    if vs.isEmpty then
      emptyMember negated
    else do
      let column ← c.compile d
      let members ← vs.compile d
      return column ++ " " ++ negation negated ++ "IN " ++ members
  | .null c isNull _ => do
    return (← c.compile d) ++ " IS " ++ negation (!isNull) ++ "NULL"
  | .raw s _ => inline s

/-- Tests joined to those before them. -/
def Criterion.compileAll (d : Dialect) (clause : Clause) : List Criterion → Compiler Clause
  | [] => return clause
  | c :: cs => do
    let test ← c.compile d
    Criterion.compileAll d (clause.append c.appendRule test) cs

/-- An item of ORDER BY.  An order of no values is empty. -/
def Order.compile (d : Dialect) : Order → Compiler String
  | .column c descending => do return (← c.compile d) ++ directionText descending
  | .nulls c nullsFirst => do return (← c.compile d) ++ " IS " ++ negation nullsFirst ++ "NULL"
  | .explicit c vs othersFirst =>
    if vs.isEmpty then
      return ""
    else
      d.listedOrder (c.compile d) (Operand.compileAll d vs) othersFirst
  | .random => return d.randomOrder

def Order.compileAll (d : Dialect) : List Order → List (Compiler String)
  | [] => []
  | o :: os => o.compile d :: Order.compileAll d os

/-- A join with its condition. -/
def Join.compile (d : Dialect) : Join → Compiler String
  | ⟨kind, t, aliasName, cs⟩ => do
    let table ← t.compile d
    let condition ← Criterion.compileAll d .empty cs
    return kind.keyword ++ " JOIN " ++ d.aliased aliasName table
      ++ if condition.sql.isEmpty then "" else " ON " ++ condition.sql

def Join.compileAll (d : Dialect) : List Join → List (Compiler String)
  | [] => []
  | j :: js => j.compile d :: Join.compileAll d js

/-- A query as a SELECT. -/
def Query.compileSelect (d : Dialect) : Query → Compiler String
  | ⟨table, aliasName, items, _, _, _, joins, criteria, orders, offset, limit⟩ => do
    let columns ← commaList (SelectItem.compileAll d items)
    let select := "SELECT " ++ if items.isEmpty then "*" else columns
    let target ← targetClause d "FROM" .noFromTable (Table.compileOption d table) aliasName
    let joins ← inSequence (Join.compileAll d joins)
    let tail ← clauseParts (Criterion.compileAll d .empty criteria) (Order.compileAll d orders)
      (d.window (Operand.compileOption d offset) (Operand.compileOption d limit))
    return String.intercalate "\n" (select :: target :: joins ++ tail)

end

/-- A table with its alias. -/
def Table.compileAliased (d : Dialect) (t : Table) (aliasName : Option String) :
    Compiler String := do
  return d.aliased aliasName (← t.compile d)

/-- The tests of a condition, joined. -/
def Criterion.compileCondition (d : Dialect) (cs : List Criterion) : Compiler String := do
  return (← Criterion.compileAll d .empty cs).sql

/-- The items of an order, without the empty ones. -/
def Order.compileList (d : Dialect) (os : List Order) : Compiler String := do
  let orders ← inSequence (Order.compileAll d os)
  return String.intercalate ", " (orders.filter fun o => !o.isEmpty)

/-- The condition, the order and the window of a query. -/
def Query.compileClauses (d : Dialect) (q : Query) : Compiler (List String) :=
  clauseParts (Criterion.compileAll d .empty q.criteria) (Order.compileAll d q.order)
    (d.window (Operand.compileOption d q.offset) (Operand.compileOption d q.limit))

end SqlTree
