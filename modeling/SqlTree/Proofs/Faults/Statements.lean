import SqlTree.Compile.Write
import SqlTree.Proofs.Faults.Report

/-!
# Faults of statements

What is wrong with a query as it stands at the top: as an INSERT, an UPDATE,
a DELETE or a SELECT.  `Query.statementFaults` lists it in the order in which
a dialect comes across it, and the first fault is the error that the query
fails with (`Query.error?_statements`).
-/

set_option autoImplicit false

namespace SqlTree

open Compiler

/-! ## Rows -/

/-- The fault of a row that writes a column twice. -/
def Row.repeatFaults (row : Row) : List QueryError :=
  ((Row.repeatedAfter [] row).map .repeatedColumn).toList

/-- The faults of the entry of a row in a column. -/
def Row.entryFaults (d : Dialect) (row : Row) (column : String) : List QueryError :=
  (row.value? column).elim [] (Operand.faults d)

/-- The faults of a row, written over all columns. -/
def Row.tupleFaults (d : Dialect) (columns : List String) (row : Row) : List QueryError :=
  row.repeatFaults ++ (columns.map (row.entryFaults d)).flatten

theorem Row.repeatFaults_eq_nil_iff {row : Row} :
    row.repeatFaults = [] ↔ Row.repeatedAfter [] row = none := by
  unfold Row.repeatFaults
  cases Row.repeatedAfter [] row <;> simp

theorem Row.checkUnique_reports (row : Row) : Reports row.repeatFaults row.checkUnique := by
  unfold Row.repeatFaults Row.checkUnique
  cases Row.repeatedAfter [] row with
  | none => exact .pure ()
  | some column => exact .throw _

theorem Row.compileEntry_reports (d : Dialect) (row : Row) (column : String) :
    Reports (row.entryFaults d column) (row.compileEntry d column) := by
  unfold Row.entryFaults Row.compileEntry
  cases row.value? column with
  | none => exact .pure "DEFAULT"
  | some v => exact v.compile_reports d

theorem Row.compileTuple_reports (d : Dialect) (columns : List String) (row : Row) :
    Reports (row.tupleFaults d columns) (row.compileTuple d columns) := by
  have hentries : List.Forall₂ Reports (columns.map (row.entryFaults d))
      (columns.map (row.compileEntry d)) := by
    rw [List.forall₂_map_left_iff, List.forall₂_map_right_iff, List.forall₂_same]
    exact fun column _ => Row.compileEntry_reports d row column
  exact row.checkUnique_reports.bind fun _ => (Reports.commaList hentries).returning _

theorem Assignment.compileAll_reports (d : Dialect) (row : Row) :
    List.Forall₂ Reports (row.map fun a => a.value.faults d)
      (row.map (Assignment.compile d)) := by
  rw [List.forall₂_map_left_iff, List.forall₂_map_right_iff, List.forall₂_same]
  exact fun a _ => (a.value.compile_reports d).returning _

/-! ## Statements -/

/-- The fault of an alias of the target, where the dialect allows none. -/
def Dialect.aliasFaults (d : Dialect) (aliasName : Option String) (statement : String) :
    List QueryError :=
  match d, aliasName with
  | .sqlite, some aliasName => [.targetAlias aliasName statement]
  | _, _ => []

namespace Query

variable (d : Dialect) (q : Query)

/-- The faults of rows as one statement. -/
def rowsFaults (rows : List Row) : List QueryError :=
  Table.faultsTarget d .noTargetTable q.table
    ++ ((if (allColumns rows).isEmpty then [.noInsertedColumns] else [])
      ++ (rows.map (Row.tupleFaults d (allColumns rows))).flatten)

/-- The faults of the rows of a select. -/
def insertSelectFaults (source : InsertSelect) : List QueryError :=
  Table.faultsTarget d .noTargetTable q.table ++ (source.select.faults d).map .inSubquery

/-- The faults of an INSERT, as the dialect takes it. -/
def insertFaults : List QueryError :=
  match q.insert with
  | none => [.noInsertedValues]
  | some (.rows rows) =>
    match d with
    | .sqlite => (rows.map fun row => q.rowsFaults d [row]).flatten
    | .common | .mysql => if rows.isEmpty then [] else q.rowsFaults d rows
  | some (.select source) => q.insertSelectFaults d source

/-- The faults of the condition, the order and the window. -/
def clauseFaults : List QueryError :=
  Criterion.faultsAll d q.criteria ++ ((Order.faultsAll d q.order).flatten
    ++ d.inWindow (Operand.faultsSlot d q.offset) (Operand.faultsSlot d q.limit))

/-- The faults of an UPDATE. -/
def updateFaults : List QueryError :=
  d.aliasFaults q.tableAlias "UPDATE"
    ++ (Table.faultsTarget d .noUpdatedTable q.table
      ++ ((if q.update.isEmpty then [.noUpdatedValues] else [])
        ++ (Row.repeatFaults q.update
          ++ ((q.update.map fun a => a.value.faults d).flatten ++ q.clauseFaults d))))

/-- The faults of a DELETE. -/
def deleteFaults : List QueryError :=
  d.aliasFaults q.tableAlias "DELETE"
    ++ (Table.faultsTarget d .noTargetTable q.table ++ q.clauseFaults d)

/-- The faults of any query. -/
def statementFaults : List QueryError :=
  match q.kind with
  | .insert => q.insertFaults d
  | .update => q.updateFaults d
  | .delete => q.deleteFaults d
  | .select => q.faults d

/-! ## The first fault is the error -/

theorem compileInsertTarget_reports :
    Reports (Table.faultsTarget d .noTargetTable q.table) (q.compileInsertTarget d) :=
  Table.target_reports d "INSERT INTO" .noTargetTable none q.table

theorem error?_compileRows (rows : List Row) :
    error? (q.compileRows d rows) = (q.rowsFaults d rows).head? := by
  have htuples : List.Forall₂ Reports (rows.map (Row.tupleFaults d (allColumns rows)))
      (rows.map (Row.compileTuple d (allColumns rows))) := by
    rw [List.forall₂_map_left_iff, List.forall₂_map_right_iff, List.forall₂_same]
    exact fun row _ => row.compileTuple_reports d (allColumns rows)
  refine Reports.statement ((q.compileInsertTarget_reports d).bind fun target => ?_)
  exact .check ((Reports.commaList htuples).returning _)

theorem error?_compileInsertSelect (source : InsertSelect) :
    error? (q.compileInsertSelect d source) = (q.insertSelectFaults d source).head? := by
  refine Reports.statement ((q.compileInsertTarget_reports d).bind fun target => ?_)
  rw [← List.append_nil ((source.select.faults d).map _)]
  exact (source.select.compileSelect_reports d).nested.bind fun s =>
    (Reports.inline s).returning _

/-- The error of a single statement. -/
theorem error?_single {x : Except QueryError Statement} :
    error? (do return [← x] : Except QueryError (List Statement)) = error? x := by
  cases x <;> rfl

/-- The error of several statements is the first one. -/
theorem error?_mapM {f : Row → Except QueryError Statement} {faults : Row → List QueryError}
    (h : ∀ row, error? (f row) = (faults row).head?) (rows : List Row) :
    error? (rows.mapM f) = (rows.map faults).flatten.head? := by
  induction rows with
  | nil => rfl
  | cons row rows ih =>
    have hrow := h row
    rw [List.mapM_cons, List.map_cons, List.flatten_cons, List.head?_append, ← hrow, ← ih]
    cases f row with
    | error e => rfl
    | ok s => cases rows.mapM f <;> rfl

theorem error?_compileInsert : error? (q.compileInsert d) = (q.insertFaults d).head? := by
  have htogether : d ≠ .sqlite →
      error? (q.compileInsertTogether d) = (q.insertFaults d).head? := by
    intro hd
    unfold compileInsertTogether insertFaults
    cases q.insert with
    | none => rfl
    | some insert =>
      cases insert with
      | select source => exact error?_single.trans (q.error?_compileInsertSelect d source)
      | rows rows =>
        cases rows with
        | nil => cases d <;> rfl
        | cons row rows =>
          have hrows := error?_single.trans (q.error?_compileRows d (row :: rows))
          cases d with
          | sqlite => exact absurd rfl hd
          | common => exact hrows
          | mysql => exact hrows
  cases d with
  | common => exact htogether nofun
  | mysql => exact htogether nofun
  | sqlite =>
    unfold compileInsert compileInsertPerRow compileInsertTogether insertFaults
    cases q.insert with
    | none => rfl
    | some insert =>
      cases insert with
      | select source =>
        exact error?_single.trans (q.error?_compileInsertSelect .sqlite source)
      | rows rows => exact error?_mapM (fun row => q.error?_compileRows .sqlite [row]) rows

theorem compileClauses_reports : Reports (q.clauseFaults d) (q.compileClauses d) :=
  .clauseParts (Criterion.compileAll_reports d q.criteria .empty)
    (Order.compileAll_reports d q.order) (.window d
      (Operand.boundPart_reports d · q.offset) (Operand.boundPart_reports d · q.limit))

theorem checkTargetAlias_reports (aliasName : Option String) (statement : String) :
    Reports (d.aliasFaults aliasName statement) (d.checkTargetAlias aliasName statement) := by
  cases d with
  | common => exact .pure ()
  | mysql => exact .pure ()
  | sqlite =>
    cases aliasName with
    | none => exact .pure ()
    | some aliasName => exact .throw _

theorem error?_compileUpdate : error? (q.compileUpdate d) = (q.updateFaults d).head? := by
  refine Reports.statement ((checkTargetAlias_reports d q.tableAlias "UPDATE").bind fun _ => ?_)
  refine (Table.target_reports d "UPDATE" .noUpdatedTable q.tableAlias q.table).bind ?_
  intro target
  refine .check ((Row.checkUnique_reports q.update).bind fun _ => ?_)
  refine (Reports.commaList (Assignment.compileAll_reports d q.update)).bind ?_
  intro assignments
  exact (q.compileClauses_reports d).returning _

theorem error?_compileDelete : error? (q.compileDelete d) = (q.deleteFaults d).head? := by
  refine Reports.statement ((checkTargetAlias_reports d q.tableAlias "DELETE").bind fun _ => ?_)
  refine (Table.target_reports d "DELETE FROM" .noTargetTable q.tableAlias q.table).bind ?_
  intro target
  exact (q.compileClauses_reports d).returning _

/-- A query fails with its first fault, and compiles where it has none. -/
theorem error?_statements : error? (q.statements d) = (q.statementFaults d).head? := by
  unfold statements compile statementFaults
  cases q.kind with
  | insert => exact q.error?_compileInsert d
  | update => exact error?_single.trans (q.error?_compileUpdate d)
  | delete => exact error?_single.trans (q.error?_compileDelete d)
  | select => exact error?_single.trans (q.compileSelect_reports d).statement

theorem isOk_statements_iff : (q.statements d).isOk = true ↔ q.statementFaults d = [] := by
  rw [isOk_iff_error?, q.error?_statements d, List.head?_eq_none_iff]

end Query

end SqlTree
