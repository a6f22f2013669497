import Mathlib.Data.List.DropRight
import SqlTree.Proofs.Faults.Repeated
import SqlTree.Proofs.Rows.Assigned

/-!
# Queries built by calls

A query is built from nothing, or from a table, by calls in any order.  What
stays of them is told from the calls alone.  The assignments of an UPDATE keep
one value for each column.  Of the rows and the selects of an INSERT those
after the last select count; a row among them drops the select, and without
one the select stays.  The other calls touch neither.

Each row is built by itself, so it keeps one value for each of its columns as
well, and no dialect refuses a query that is built like this because a column
is assigned more than once (`Query.ofCalls_keeps_columns`).  It may refuse it
for other reasons, as nothing is checked while a query is built.
-/

set_option autoImplicit false

namespace SqlTree

/-- A call that adds a part to a query. -/
inductive Query.Call where
  | withAlias (aliasName : String)
  | selecting (value : Selectable) (aliasName : Option String)
  | selectingColumns (columns : List String)
  | filter (criterion : Criterion)
  | filterOr (criterion : Criterion)
  | filterEq (column : String) (value : Operand)
  | joining (join : Join)
  | orderedBy (order : Order)
  | withOffset (offset : Operand)
  | withLimit (limit : Operand)
  | insertingRow (assignments : List Assignment)
  | insertingSelect (columns : Option (List String)) (select : Query)
  | assigning (column : String) (value : Operand)
  | deleting

namespace Query

/-- The query after a call. -/
def called (q : Query) : Call → Query
  | .withAlias aliasName => q.withAlias aliasName
  | .selecting value aliasName => q.selecting value aliasName
  | .selectingColumns columns => q.selectingColumns columns
  | .filter criterion => q.filter criterion
  | .filterOr criterion => q.filterOr criterion
  | .filterEq column value => q.filterEq column value
  | .joining join => q.joining join
  | .orderedBy order => q.orderedBy order
  | .withOffset offset => q.withOffset offset
  | .withLimit limit => q.withLimit limit
  | .insertingRow assignments => q.insertingRow assignments
  | .insertingSelect columns select => q.insertingSelect columns select
  | .assigning column value => q.assigning column value
  | .deleting => q.deleting

/-- The query that calls build, one after the other, from nothing or from a
table. -/
def ofCalls (table : Option Table) (calls : List Call) : Query :=
  calls.foldl called (table.elim .empty .ofTable)

theorem ofCalls_append_singleton (table : Option Table) (calls : List Call) (call : Call) :
    ofCalls table (calls ++ [call]) = (ofCalls table calls).called call := by
  rw [ofCalls, List.foldl_append]
  rfl

/-! ## What the calls say -/

/-- The assignment that a call gives to an UPDATE. -/
def Call.assignment? : Call → Option Assignment
  | .assigning column value => some ⟨column, value⟩
  | _ => none

/-- The assignments of the row that a call gives to an INSERT. -/
def Call.row? : Call → Option (List Assignment)
  | .insertingRow assignments => some assignments
  | _ => none

/-- The select that a call gives to an INSERT. -/
def Call.source? : Call → Option InsertSelect
  | .insertingSelect columns select => some ⟨columns, select⟩
  | _ => none

/-- The rows that are given after the last select. -/
def rowsSinceSelect (calls : List Call) : List (List Assignment) :=
  (calls.rtakeWhile fun call => call.source?.isNone).filterMap Call.row?

/-- The last select that is given. -/
def lastSelect? (calls : List Call) : Option InsertSelect :=
  (calls.filterMap Call.source?).getLast?

theorem rowsSinceSelect_concat (calls : List Call) (call : Call) :
    rowsSinceSelect (calls ++ [call])
      = if call.source?.isNone then rowsSinceSelect calls ++ call.row?.toList else [] := by
  rw [rowsSinceSelect, List.rtakeWhile_concat]
  split
  · rw [List.filterMap_append]
    cases hrow : call.row? <;> simp [rowsSinceSelect, hrow]
  · rfl

theorem lastSelect?_concat (calls : List Call) (call : Call) :
    lastSelect? (calls ++ [call]) = call.source?.or (lastSelect? calls) := by
  rw [lastSelect?, List.filterMap_append, List.getLast?_append]
  cases h : call.source? <;> simp [h, lastSelect?]

/-! ## The assignments of an UPDATE -/

theorem selectingColumns_eq (q : Query) (columns : List String) :
    ∃ select, q.selectingColumns columns = { q with select := select } := by
  induction columns generalizing q with
  | nil => exact ⟨q.select, by cases q; rfl⟩
  | cons column columns ih => exact ih (q.selecting (.column (.name column)) none)

theorem update_called (q : Query) (call : Call) :
    (q.called call).update
      = call.assignment?.elim q.update fun a => Row.assign a.column a.value q.update := by
  cases call with
  | selectingColumns columns =>
    obtain ⟨select, hselect⟩ := q.selectingColumns_eq columns
    rw [called, hselect]
    rfl
  | insertingRow assignments =>
    rw [called, insertingRow]
    split <;> rfl
  | _ => rfl

theorem update_ofCalls (table : Option Table) (calls : List Call) :
    (ofCalls table calls).update = Row.ofAssignments (calls.filterMap Call.assignment?) := by
  induction calls using List.reverseRecOn with
  | nil => cases table <;> rfl
  | append_singleton calls call ih =>
    rw [ofCalls_append_singleton, update_called, ih, List.filterMap_append]
    cases hassigned : call.assignment? with
    | none => simp [hassigned]
    | some a => simp [hassigned, Row.ofAssignments_append_singleton]

/-! ## The rows of an INSERT -/

/-- The rows that a query inserts. -/
def insertedRows (q : Query) : List Row :=
  match q.insert with
  | some (.rows rows) => rows
  | some (.select _) => []
  | none => []

theorem insert_insertingRow (q : Query) (assignments : List Assignment) :
    (q.insertingRow assignments).insert
      = some (.rows (q.insertedRows ++ [Row.ofAssignments assignments])) := by
  unfold insertingRow insertedRows
  split
  next rows h => simp [h]
  next h =>
    split
    next rows hrows => exact absurd hrows (h rows)
    · rfl
    · rfl

/-- A call that gives neither a row nor a select leaves the INSERT as it is. -/
theorem insert_called {q : Query} {call : Call} (hrow : call.row? = none)
    (hsource : call.source? = none) : (q.called call).insert = q.insert := by
  cases call with
  | selectingColumns columns =>
    obtain ⟨select, hselect⟩ := q.selectingColumns_eq columns
    rw [called, hselect]
  | insertingRow assignments => nomatch hrow
  | insertingSelect columns select => nomatch hsource
  | _ => rfl

/-- What the calls give to an INSERT. -/
def givenInsert (calls : List Call) : Option Insert :=
  if (rowsSinceSelect calls).isEmpty then (lastSelect? calls).map .select
  else some (.rows ((rowsSinceSelect calls).map Row.ofAssignments))

theorem insertedRows_of_givenInsert {q : Query} {calls : List Call}
    (h : q.insert = givenInsert calls) :
    q.insertedRows = (rowsSinceSelect calls).map Row.ofAssignments := by
  rw [insertedRows, h, givenInsert]
  cases hrows : rowsSinceSelect calls with
  | nil => cases lastSelect? calls <;> rfl
  | cons row rows => rfl

theorem insert_ofCalls (table : Option Table) (calls : List Call) :
    (ofCalls table calls).insert = givenInsert calls := by
  induction calls using List.reverseRecOn with
  | nil => cases table <;> rfl
  | append_singleton calls call ih =>
    rw [ofCalls_append_singleton, givenInsert, rowsSinceSelect_concat, lastSelect?_concat]
    cases hsource : call.source? with
    | some source =>
      cases call with
      | insertingSelect columns select =>
        obtain rfl := Option.some.inj hsource
        rfl
      | _ => nomatch hsource
    | none =>
      cases hrow : call.row? with
      | some assignments =>
        cases call with
        | insertingRow assignments =>
          obtain rfl := Option.some.inj hrow
          rw [called, insert_insertingRow, insertedRows_of_givenInsert ih]
          simp
        | _ => nomatch hrow
      | none => simpa [givenInsert] using (insert_called hrow hsource).trans ih

/-! ## One value for each column -/

/-- **A query that is built by calls keeps one value for each column**,
whatever the calls are and in whatever order they come.  The assignments of
its UPDATE stand in the order of the first call for their column, each with
the value of the last one.  Its INSERT has the rows that were given after the
last select, each with its columns in the order in which they first appeared
and with their last values; without such a row it has the last select.  No
dialect says of the query that a column is assigned more than once, neither as
what it is nor as an INSERT or an UPDATE. -/
theorem ofCalls_keeps_columns (table : Option Table) (calls : List Call) :
    Row.Keeps (calls.filterMap Call.assignment?) (ofCalls table calls).update
      ∧ (∃ rows, List.Forall₂ Row.Keeps (rowsSinceSelect calls) rows
        ∧ (ofCalls table calls).insert
          = if rows.isEmpty then (lastSelect? calls).map .select else some (.rows rows))
      ∧ ∀ (d : Dialect) (e : QueryError),
        (ofCalls table calls).statements d = .error e
          ∨ (ofCalls table calls).compile d = .error e
          ∨ (ofCalls table calls).compileInsert d = .error e
          ∨ (ofCalls table calls).compileUpdate d = .error e → ¬e.Repeats := by
  have hupdate : Row.Keeps (calls.filterMap Call.assignment?) (ofCalls table calls).update := by
    rw [update_ofCalls]
    exact Row.keeps_ofAssignments _
  have hrows : List.Forall₂ Row.Keeps (rowsSinceSelect calls)
      ((rowsSinceSelect calls).map Row.ofAssignments) := by
    rw [List.forall₂_map_right_iff, List.forall₂_same]
    exact fun assignments _ => Row.keeps_ofAssignments assignments
  have hinserted : ∀ rows, (ofCalls table calls).insert = some (.rows rows) →
      ∀ row ∈ rows, (Row.columns row).Nodup := by
    intro rows hinsert row hrow
    have hgiven := insertedRows_of_givenInsert (insert_ofCalls table calls)
    simp only [insertedRows, hinsert] at hgiven
    obtain ⟨assignments, -, rfl⟩ := List.mem_map.mp (hgiven ▸ hrow)
    exact (Row.keeps_ofAssignments assignments).distinct
  refine ⟨hupdate, ⟨_, hrows, ?_⟩, ?_⟩
  · rw [List.isEmpty_map]
    exact insert_ofCalls table calls
  · rintro d e (he | he | he | he)
    · exact not_repeats_of_statements hinserted hupdate.distinct he
    · rcases eq_insertCount_of_compile he with he | ⟨count, rfl⟩
      · exact not_repeats_of_statements hinserted hupdate.distinct he
      · nofun
    · exact noneRepeats_insertFaults hinserted e
        (mem_faults_of_error (error?_compileInsert d _) he)
    · exact noneRepeats_updateFaults hupdate.distinct e
        (mem_faults_of_error (error?_compileUpdate d _) he)

/-- Calls that give columns again, around a select that a row drops. -/
def interleavedCalls : List Call :=
  [.insertingRow [⟨"a", .value (.int 1)⟩],
    .assigning "x" (.value (.int 2)),
    .insertingSelect (some ["c"]) (.ofTable (.name "u")),
    .assigning "y" (.value (.int 3)),
    .insertingRow [⟨"b", .value (.int 4)⟩, ⟨"a", .value .null⟩, ⟨"b", .value (.int 5)⟩],
    .withLimit (.value (.int 6)),
    .assigning "x" (.value (.int 7))]

/-- They build an INSERT that lacks a table, and that is what is said of it. -/
theorem interleavedCalls_keep_columns :
    (ofCalls none interleavedCalls).update
        = [⟨"x", .value (.int 7)⟩, ⟨"y", .value (.int 3)⟩]
      ∧ (ofCalls none interleavedCalls).insert
        = some (.rows [[⟨"b", .value (.int 5)⟩, ⟨"a", .value .null⟩]])
      ∧ (ofCalls none interleavedCalls).statements .sqlite = .error .noTargetTable
      ∧ ¬QueryError.Repeats .noTargetTable := by
  have herror : (ofCalls none interleavedCalls).statements .sqlite = .error .noTargetTable := by
    rfl
  exact ⟨rfl, rfl, herror,
    (ofCalls_keeps_columns none interleavedCalls).2.2 .sqlite _ (.inl herror)⟩

end Query

end SqlTree
