import SqlTree.Compile.Select

/-!
# INSERT, UPDATE and DELETE

The statements that write, and the choice between them and SELECT.

Inserted rows may have different columns.  As one statement they are
written over all columns of all rows, in the order in which the columns
first appear, with DEFAULT where a row has none of a column.  A dialect
without DEFAULT in lists of values takes one statement for each row, over
the row's own columns.  No rows make no statement.

No row and no UPDATE may write a column twice.
-/

set_option autoImplicit false

namespace SqlTree

open Compiler

/-! ## Rows -/

/-- The first column that is written again, with `seen` written before. -/
def Row.repeatedAfter (seen : List String) : Row → Option String
  | [] => none
  | a :: row =>
    if a.column ∈ seen then some a.column else Row.repeatedAfter (seen ++ [a.column]) row

/-- Refuses a row that writes a column twice. -/
def Row.checkUnique (row : Row) : Compiler Unit :=
  match Row.repeatedAfter [] row with
  | some column => throw (.repeatedColumn column)
  | none => pure ()

/-- The columns of a row that are not yet among `columns`, added to
them. -/
def Row.addColumns (columns : List String) : Row → List String
  | [] => columns
  | a :: row =>
    Row.addColumns (if a.column ∈ columns then columns else columns ++ [a.column]) row

/-- The columns of all rows, in the order in which they first appear. -/
def allColumns (rows : List Row) : List String :=
  rows.foldl Row.addColumns []

/-- The value that a row writes to a column. -/
def Row.value? (column : String) : Row → Option Operand
  | [] => none
  | a :: row => if a.column = column then some a.value else Row.value? column row

/-- No column is written again in a row that is not refused. -/
theorem Row.not_mem_of_repeatedAfter {seen : List String} {row : Row}
    (h : Row.repeatedAfter seen row = none) : ∀ a ∈ row, a.column ∉ seen := by
  induction row generalizing seen with
  | nil => simp
  | cons a row ih =>
    rw [Row.repeatedAfter] at h
    split at h
    · cases h
    next hnew =>
      rw [List.forall_mem_cons]
      refine ⟨hnew, fun b hb hmem => ?_⟩
      exact ih h b hb (List.mem_append_left _ hmem)

/-- So each entry of it is the value of its column. -/
theorem Row.value?_of_mem {seen : List String} {row : Row}
    (h : Row.repeatedAfter seen row = none) : ∀ a ∈ row, row.value? a.column = some a.value := by
  induction row generalizing seen with
  | nil => simp
  | cons a row ih =>
    rw [Row.repeatedAfter] at h
    split at h
    · cases h
    next =>
      rw [List.forall_mem_cons]
      refine ⟨by simp [Row.value?], fun b hb => ?_⟩
      have hne : a.column ≠ b.column := by
        intro heq
        exact Row.not_mem_of_repeatedAfter h b hb (by simp [heq])
      rw [Row.value?, if_neg hne]
      exact ih h b hb

/-- The value of a column is that of an entry. -/
theorem Row.exists_of_value? {row : Row} {column : String} {v : Operand}
    (h : row.value? column = some v) : ∃ a ∈ row, a.value = v := by
  induction row with
  | nil => cases h
  | cons a row ih =>
    rw [Row.value?] at h
    split at h
    · exact ⟨a, List.mem_cons_self, Option.some.inj h⟩
    · obtain ⟨b, hb, hv⟩ := ih h
      exact ⟨b, List.mem_cons_of_mem a hb, hv⟩

theorem Row.mem_addColumns {columns : List String} {row : Row} {column : String} :
    column ∈ Row.addColumns columns row ↔ column ∈ columns ∨ ∃ a ∈ row, a.column = column := by
  induction row generalizing columns with
  | nil => simp [Row.addColumns]
  | cons a row ih =>
    have hhead : column ∈ (if a.column ∈ columns then columns else columns ++ [a.column])
        ↔ column ∈ columns ∨ a.column = column := by
      split
      next h =>
        refine ⟨.inl, ?_⟩
        rintro (hmem | rfl)
        · exact hmem
        · exact h
      next => simp [eq_comm]
    rw [Row.addColumns, ih, hhead]
    simp [or_assoc]

/-- The columns of all rows are those of their entries. -/
theorem mem_allColumns {rows : List Row} {column : String} :
    column ∈ allColumns rows ↔ ∃ row ∈ rows, ∃ a ∈ row, a.column = column := by
  have hfold (columns : List String) :
      column ∈ rows.foldl Row.addColumns columns
        ↔ column ∈ columns ∨ ∃ row ∈ rows, ∃ a ∈ row, a.column = column := by
    induction rows generalizing columns with
    | nil => simp
    | cons row rows ih =>
      rw [List.foldl_cons, ih, Row.mem_addColumns]
      simp [or_assoc]
  simpa [allColumns] using hfold []

/-- The entry of a row in a column. -/
def Row.compileEntry (d : Dialect) (row : Row) (column : String) : Compiler String :=
  match row.value? column with
  | some v => v.compile d
  | none => return "DEFAULT"

/-- The entries of a row, in parentheses. -/
def Row.compileTuple (d : Dialect) (columns : List String) (row : Row) : Compiler String := do
  row.checkUnique
  let entries ← commaList (columns.map (row.compileEntry d))
  return "(" ++ entries ++ ")"

/-- Columns in their quotes. -/
def Dialect.columnList (d : Dialect) (columns : List String) : String :=
  String.intercalate ", " (columns.map d.quoteIdentifier)

/-! ## INSERT -/

/-- The target of an INSERT.  It takes no alias. -/
def Query.compileInsertTarget (d : Dialect) (q : Query) : Compiler String :=
  targetClause d "INSERT INTO" .noTargetTable (Table.compileOption d q.table) none

/-- Rows as one statement. -/
def Query.compileRows (d : Dialect) (q : Query) (rows : List Row) : Except QueryError Statement :=
  statement do
    let target ← q.compileInsertTarget d
    let columns := allColumns rows
    if columns.isEmpty then throw .noInsertedColumns
    let tuples ← commaList (rows.map (Row.compileTuple d columns))
    return target ++ " (" ++ d.columnList columns ++ ")\nVALUES " ++ tuples

/-- The rows of a select as one statement. -/
def Query.compileInsertSelect (d : Dialect) (q : Query) (source : InsertSelect) :
    Except QueryError Statement :=
  statement do
    let target ← q.compileInsertTarget d
    let columns := match source.columns with
      | some columns => " (" ++ d.columnList columns ++ ")"
      | none => ""
    let select ← inline (← nested (source.select.compileSelect d))
    return target ++ columns ++ "\n" ++ select

/-- An INSERT with all rows in one statement. -/
def Query.compileInsertTogether (d : Dialect) (q : Query) : Except QueryError (List Statement) :=
  match q.insert with
  | none => throw .noInsertedValues
  | some (.rows []) => return []
  | some (.rows rows) => do return [← q.compileRows d rows]
  | some (.select source) => do return [← q.compileInsertSelect d source]

/-- An INSERT with a statement for each row. -/
def Query.compileInsertPerRow (d : Dialect) (q : Query) : Except QueryError (List Statement) :=
  match q.insert with
  | some (.rows rows) => rows.mapM fun row => q.compileRows d [row]
  | _ => q.compileInsertTogether d

/-- An INSERT as the dialect takes it. -/
def Query.compileInsert (d : Dialect) (q : Query) : Except QueryError (List Statement) :=
  match d with
  | .sqlite => q.compileInsertPerRow d
  | .common | .mysql => q.compileInsertTogether d

/-! ## UPDATE and DELETE -/

/-- Refuses an alias of the target where the dialect allows none. -/
def Dialect.checkTargetAlias (d : Dialect) (aliasName : Option String) (statement : String) :
    Compiler Unit :=
  match d, aliasName with
  | .sqlite, some aliasName => throw (.targetAlias aliasName statement)
  | _, _ => pure ()

/-- The assignment of a value. -/
def Assignment.compile (d : Dialect) (a : Assignment) : Compiler String := do
  return d.quoteIdentifier a.column ++ " = " ++ (← a.value.compile d)

/-- A query as an UPDATE. -/
def Query.compileUpdate (d : Dialect) (q : Query) : Except QueryError Statement :=
  statement do
    d.checkTargetAlias q.tableAlias "UPDATE"
    let target ←
      targetClause d "UPDATE" .noUpdatedTable (Table.compileOption d q.table) q.tableAlias
    if q.update.isEmpty then throw .noUpdatedValues
    Row.checkUnique q.update
    let assignments ← commaList (q.update.map (Assignment.compile d))
    let tail ← q.compileClauses d
    return String.intercalate "\n" (target :: ("SET " ++ assignments) :: tail)

/-- A query as a DELETE. -/
def Query.compileDelete (d : Dialect) (q : Query) : Except QueryError Statement :=
  statement do
    d.checkTargetAlias q.tableAlias "DELETE"
    let target ←
      targetClause d "DELETE FROM" .noTargetTable (Table.compileOption d q.table) q.tableAlias
    let tail ← q.compileClauses d
    return String.intercalate "\n" (target :: tail)

/-! ## Any query -/

/-- The one statement of a query.  An INSERT that is not one statement is
refused. -/
def Query.compile (d : Dialect) (q : Query) : Except QueryError Statement :=
  match q.kind with
  | .insert => do
    match ← q.compileInsert d with
    | [s] => return s
    | statements => throw (.insertCount statements.length d.name)
  | .update => q.compileUpdate d
  | .delete => q.compileDelete d
  | .select => statement (q.compileSelect d)

/-- The statements of a query: as many as an INSERT takes, else one. -/
def Query.statements (d : Dialect) (q : Query) : Except QueryError (List Statement) :=
  match q.kind with
  | .insert => q.compileInsert d
  | _ => do return [← q.compile d]

end SqlTree
