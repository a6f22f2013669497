import SqlTree.Compile.Write
import SqlTree.Proofs.Condition.Blank
import SqlTree.Proofs.Placeholders.Scan

/-!
# Values written in place

A direct writer of queries.  It collects nothing and never fails: where a
value stands in the tree, a literal of it stands in the text, and a
statement is written with its own values filled in.

It writes what the dialects write, in their order: the branches of a CASE
with their ranks or the list of a FIELD, and OFFSET before LIMIT or after
it.  Where a query has no table, which no dialect takes, it writes the
keyword alone.
-/

set_option autoImplicit false

namespace SqlTree

variable (d : Dialect) (literal : Value → String)

/-! ## Parts of a text -/

/-- Tests that are not empty, joined to a condition. -/
def joinTests (tests : List (AppendRule × String)) : String :=
  (Clause.empty.joinAll tests).sql

/-- A text after a keyword, where there is one. -/
def keywordLine (keyword : String) : Option String → List String
  | none => []
  | some text => [keyword ++ " " ++ text]

/-- The lines of a condition, an order and a window. -/
def clauseLines (tests : List (AppendRule × String)) (orders window : List String) :
    List String :=
  keywordLine "WHERE" (if tests.isEmpty then none else some (joinTests tests))
    ++ keywordLine "ORDER BY"
      (if orders.isEmpty then none else some (String.intercalate ", " orders))
    ++ window

/-- A table after a keyword. -/
def targetLine (keyword : String) (table : Option String) (aliasName : Option String) : String :=
  match table with
  | none => keyword
  | some table => keyword ++ " " ++ d.aliased aliasName table

/-- The branches of a CASE, with their ranks from `rank` on. -/
def rankedBranches (rank : Nat) : List String → String
  | [] => ""
  | v :: vs =>
    " WHEN " ++ v ++ " THEN " ++ literal (.ofRank rank) ++ rankedBranches (rank + 1) vs

/-- Listed values in order, in the words of the dialect. -/
def listedOrderText (column : String) (values : List String) (othersFirst : Bool) : String :=
  match d with
  | .mysql =>
    "FIELD(" ++ column ++ ", "
      ++ String.intercalate ", " (if othersFirst then values else values.reverse) ++ ")"
      ++ if othersFirst then " ASC" else " DESC"
  | .common | .sqlite =>
    "CASE " ++ column ++ rankedBranches literal 0 values ++ " ELSE "
      ++ literal (otherRank values.length othersFirst) ++ " END"

/-- LIMIT before OFFSET, with `unbounded` for a limit that is not set. -/
def limitFirstLines (unbounded : String) (offset limit : Option String) : List String :=
  match limit, offset with
  | none, some offset => ["LIMIT " ++ unbounded, "OFFSET " ++ offset]
  | limit, offset => keywordLine "LIMIT" limit ++ keywordLine "OFFSET" offset

/-- The window, in the order of the dialect. -/
def windowLines (offset limit : Option String) : List String :=
  match d with
  | .common => keywordLine "OFFSET" offset ++ keywordLine "LIMIT" limit
  | .mysql => limitFirstLines "18446744073709551615" offset limit
  | .sqlite => limitFirstLines "-1" offset limit

/-- An expression with its own values filled in. -/
def Expression.written : Expression → String
  | .raw s => s.filled literal
  | .value v => literal v
  | .column name => name

/-! ## The parts of a query -/

mutual

/-- A column slot. -/
def Column.written : Column → String
  | .name n => d.quoteIdentifier n
  | .query q => "(" ++ q.writtenSelect ++ ")"
  | .expr e => "(" ++ e.written literal ++ ")"

/-- A value slot: the value itself, or what stands in parentheses. -/
def Operand.written : Operand → String
  | .value v => literal v
  | .query q => "(" ++ q.writtenSelect ++ ")"
  | .expr e => "(" ++ e.written literal ++ ")"

def Operand.writtenAll : List Operand → List String
  | [] => []
  | o :: os => o.written :: Operand.writtenAll os

def Operand.writtenOption : Option Operand → Option String
  | none => none
  | some o => some o.written

/-- A table, without its alias. -/
def Table.written : Table → String
  | .name n => d.quoteIdentifier n
  | .query q => "(" ++ q.writtenSelect ++ ")"
  | .raw s => "(" ++ s.filled literal ++ ")"

def Table.writtenOption : Option Table → Option String
  | none => none
  | some t => some t.written

/-- A sub-select. -/
def Subquery.written : Subquery → String
  | .query q => "(" ++ q.writtenSelect ++ ")"
  | .raw s => "(" ++ s.filled literal ++ ")"

/-- The right side of IN. -/
def Members.written : Members → String
  | .list vs => "(" ++ String.intercalate ", " (Operand.writtenAll vs) ++ ")"
  | .select s => s.written

/-- A call of an aggregate function. -/
def Aggregate.written : Aggregate → String
  | ⟨function, c⟩ => function ++ "(" ++ c.written ++ ")"

/-- What a select list may hold. -/
def Selectable.written : Selectable → String
  | .column c => c.written
  | .aggregate a => a.written

/-- An entry of a select list. -/
def SelectItem.written : SelectItem → String
  | ⟨aliasName, s⟩ => d.aliased aliasName s.written

def SelectItem.writtenAll : List SelectItem → List String
  | [] => []
  | item :: items => item.written :: SelectItem.writtenAll items

/-- A test.  A textual pattern is followed by its escape character, and a
membership test without members is a truth value. -/
def Criterion.written : Criterion → String
  | .value c rule v _ =>
    let test := c.written ++ " " ++ rule ++ " " ++ v.written
    if isPatternRule rule && v.isTextual then test ++ " ESCAPE " ++ literal escapeChar else test
  | .columns l rule r _ => l.written ++ " " ++ rule ++ " " ++ r.written
  | .between c low high negated _ =>
    "(" ++ c.written ++ " " ++ negation negated ++ "BETWEEN " ++ low.written ++ " AND "
      ++ high.written ++ ")"
  | .group cs negated _ =>
    let tests := Criterion.writtenAll cs
    if tests.isEmpty then "" else negation negated ++ "(" ++ joinTests tests ++ ")"
  | .exists s negated _ => negation negated ++ "EXISTS " ++ s.written
  | .member c vs negated _ =>
    if vs.isEmpty then literal (.int (if negated then 1 else 0))
    else c.written ++ " " ++ negation negated ++ "IN " ++ vs.written
  | .null c isNull _ => c.written ++ " IS " ++ negation (!isNull) ++ "NULL"
  | .raw s _ => s.filled literal

/-- The tests that say something, each with the rule that appends it. -/
def Criterion.writtenAll : List Criterion → List (AppendRule × String)
  | [] => []
  | c :: cs =>
    if c.isBlank then Criterion.writtenAll cs
    else (c.appendRule, c.written) :: Criterion.writtenAll cs

/-- An item of ORDER BY. -/
def Order.written : Order → String
  | .column c descending => c.written ++ directionText descending
  | .nulls c nullsFirst => c.written ++ " IS " ++ negation nullsFirst ++ "NULL"
  | .explicit c vs othersFirst =>
    if vs.isEmpty then ""
    else listedOrderText d literal c.written (Operand.writtenAll vs) othersFirst
  | .random => d.randomOrder

/-- The items that sort by something. -/
def Order.writtenAll : List Order → List String
  | [] => []
  | o :: os => if o.isBlank then Order.writtenAll os else o.written :: Order.writtenAll os

/-- A join with its condition. -/
def Join.written : Join → String
  | ⟨kind, t, aliasName, cs⟩ =>
    let tests := Criterion.writtenAll cs
    kind.keyword ++ " JOIN " ++ d.aliased aliasName t.written
      ++ if tests.isEmpty then "" else " ON " ++ joinTests tests

def Join.writtenAll : List Join → List String
  | [] => []
  | j :: js => j.written :: Join.writtenAll js

/-- A query as a SELECT. -/
def Query.writtenSelect : Query → String
  | ⟨table, aliasName, items, _, _, _, joins, criteria, orders, offset, limit⟩ =>
    let select := "SELECT " ++
      if items.isEmpty then "*" else String.intercalate ", " (SelectItem.writtenAll items)
    let target := targetLine d "FROM" (Table.writtenOption table) aliasName
    let tail := clauseLines (Criterion.writtenAll criteria) (Order.writtenAll orders)
      (windowLines d (Operand.writtenOption offset) (Operand.writtenOption limit))
    String.intercalate "\n" (select :: target :: Join.writtenAll joins ++ tail)

end

/-! ## Statements -/

/-- The condition, the order and the window of a query. -/
def Query.writtenClauses (q : Query) : List String :=
  clauseLines (Criterion.writtenAll d literal q.criteria) (Order.writtenAll d literal q.order)
    (windowLines d (Operand.writtenOption d literal q.offset)
      (Operand.writtenOption d literal q.limit))

/-- The entry of a row in a column. -/
def Row.writtenEntry (row : Row) (column : String) : String :=
  match row.value? column with
  | some v => v.written d literal
  | none => "DEFAULT"

/-- The entries of a row, in parentheses. -/
def Row.writtenTuple (columns : List String) (row : Row) : String :=
  "(" ++ String.intercalate ", " (columns.map (row.writtenEntry d literal)) ++ ")"

/-- Inserted rows as one statement. -/
def Query.writtenRows (q : Query) (rows : List Row) : String :=
  let columns := allColumns rows
  targetLine d "INSERT INTO" (Table.writtenOption d literal q.table) none
    ++ " (" ++ d.columnList columns ++ ")\nVALUES "
    ++ String.intercalate ", " (rows.map (Row.writtenTuple d literal columns))

/-- The rows of a select as one statement. -/
def Query.writtenInsertSelect (q : Query) (source : InsertSelect) : String :=
  let columns := match source.columns with
    | some columns => " (" ++ d.columnList columns ++ ")"
    | none => ""
  targetLine d "INSERT INTO" (Table.writtenOption d literal q.table) none ++ columns
    ++ "\n" ++ source.select.writtenSelect d literal

/-- The one statement of an INSERT, where there is anything to insert. -/
def Query.writtenInsertTogether (q : Query) : List String :=
  match q.insert with
  | none => []
  | some (.rows rows) => if rows.isEmpty then [] else [q.writtenRows d literal rows]
  | some (.select source) => [q.writtenInsertSelect d literal source]

/-- The statements of an INSERT: one for each row where the dialect has no
other way, else one for all of them. -/
def Query.writtenInsert (q : Query) : List String :=
  match d, q.insert with
  | .sqlite, some (.rows rows) => rows.map fun row => q.writtenRows d literal [row]
  | _, _ => q.writtenInsertTogether d literal

/-- An assignment. -/
def Assignment.written (a : Assignment) : String :=
  d.quoteIdentifier a.column ++ " = " ++ a.value.written d literal

/-- A query as an UPDATE. -/
def Query.writtenUpdate (q : Query) : String :=
  let target := targetLine d "UPDATE" (Table.writtenOption d literal q.table) q.tableAlias
  let assignments := String.intercalate ", " (q.update.map (Assignment.written d literal))
  String.intercalate "\n" (target :: ("SET " ++ assignments) :: q.writtenClauses d literal)

/-- A query as a DELETE. -/
def Query.writtenDelete (q : Query) : String :=
  let target := targetLine d "DELETE FROM" (Table.writtenOption d literal q.table) q.tableAlias
  String.intercalate "\n" (target :: q.writtenClauses d literal)

/-- The statements of a query, with its values in place. -/
def Query.written (q : Query) : List String :=
  match q.kind with
  | .insert => q.writtenInsert d literal
  | .update => [q.writtenUpdate d literal]
  | .delete => [q.writtenDelete d literal]
  | .select => [q.writtenSelect d literal]

end SqlTree
