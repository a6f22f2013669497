import SqlTree.Proofs.Condition.Omitted
import SqlTree.Proofs.Faults.Repeated
import SqlTree.Proofs.Rows.Inserted

/-!
# The columns that a statement writes to

An INSERT lists its columns after the table, and an UPDATE assigns them one
after the other (`Query.Targets`).  Rows and assignments are checked: what is
written from them names at least one column and none of them twice, and a row
or an UPDATE that repeats a column is refused.  An INSERT from a select is not
checked.  It names the columns that it was given, none or one of them twice as
well, and whether it compiles does not depend on them
(`Query.statements_target_columns`).
-/

set_option autoImplicit false

namespace SqlTree

open Compiler

/-- The statement of a query names these columns, in this order, after its
target: as the list of an INSERT, or as the left sides of an UPDATE. -/
inductive Query.Targets (d : Dialect) (q : Query) (columns : List String) (s : Statement) : Prop
  | listed (rest : String) {target : String} {b : Bindings}
    (htarget : (q.compileInsertTarget d).run .empty = .ok (target, b))
    (hsql : s.sql = target ++ " (" ++ d.columnList columns ++ ")\n" ++ rest)
  | assigned (rest : String) {target : String} {b : Bindings} {assignments : List String}
    (htarget : (targetClause d "UPDATE" .noUpdatedTable (Table.compileOption d q.table)
      q.tableAlias).run .empty = .ok (target, b))
    (hassignments : List.Forall₂
      (fun column text => ∃ value, text = d.quoteIdentifier column ++ " = " ++ value)
      columns assignments)
    (hsql : s.sql = target ++ "\nSET " ++ String.intercalate ", " assignments ++ rest)

/-- The statement names these columns, there is one, and no two are the
same. -/
structure Query.TargetsOnce (d : Dialect) (q : Query) (columns : List String)
    (s : Statement) : Prop where
  targets : q.Targets d columns s
  nonempty : columns ≠ []
  distinct : columns.Nodup

/-- The query is refused as one that makes no sense. -/
def Query.IsRefused (d : Dialect) (q : Query) : Prop :=
  ∃ e, q.statements d = .error e ∧ e.toError.kind = .invalidQuery

/-- The rows that share a statement. -/
def Dialect.rowGroups (d : Dialect) (rows : List Row) : List (List Row) :=
  match d with
  | .sqlite => rows.map fun row => [row]
  | .common | .mysql => if rows.isEmpty then [] else [rows]

variable {d : Dialect}

theorem Dialect.exists_rowGroup {rows : List Row} {row : Row} (hrow : row ∈ rows) :
    ∃ group ∈ d.rowGroups rows, row ∈ group := by
  have htogether : ∃ group ∈ (if rows.isEmpty then [] else [rows]), row ∈ group := by
    cases rows with
    | nil => cases hrow
    | cons first rest => exact ⟨first :: rest, List.mem_singleton_self _, hrow⟩
  cases d with
  | sqlite => exact ⟨[row], List.mem_map.mpr ⟨row, hrow, rfl⟩, List.mem_singleton_self row⟩
  | common => exact htogether
  | mysql => exact htogether

/-- Assignments are written with their columns on the left. -/
theorem Assignment.forall₂_of_compileAll (row : Row) :
    (inSequence (row.map (Assignment.compile d))).Returns fun texts => List.Forall₂
      (fun column text => ∃ value, text = d.quoteIdentifier column ++ " = " ++ value)
      row.columns texts := by
  induction row with
  | nil => exact .pure .nil
  | cons a row ih =>
    refine .bind (P := fun text => ∃ value, text = d.quoteIdentifier a.column ++ " = " ++ value)
      (.after fun value => .pure ⟨value, rfl⟩) fun text htext => ?_
    exact ih.bind fun texts htexts => .pure (.cons htext htexts)

/-- The check of an alias collects nothing. -/
theorem Dialect.run_checkTargetAlias_eq_ok {aliasName : Option String} {statement : String}
    {b b' : Bindings} (h : (d.checkTargetAlias aliasName statement).run b = .ok ((), b')) :
    b = b' := by
  unfold Dialect.checkTargetAlias at h
  split at h
  · exact absurd h run_throw_ne_ok
  · exact (run_pure_eq_ok h).2

namespace Query

variable {q : Query}

/-- A query is refused where it does not compile. -/
theorem isRefused_of_not_ok (h : ∀ statements, q.statements d ≠ .ok statements) :
    q.IsRefused d := by
  cases hs : q.statements d with
  | ok statements => exact absurd hs (h statements)
  | error e => exact ⟨e, hs, rfl⟩

/-! ## Inserted rows -/

/-- Each group of rows is compiled to a statement of its own. -/
theorem forall₂_compileRows {rows : List Row} (hinsert : q.insert = some (.rows rows))
    {statements : List Statement} (ok : q.statements d = .ok statements) :
    List.Forall₂ (fun group s => q.compileRows d group = .ok s) (d.rowGroups rows)
      statements := by
  have hcompiled : q.compileInsert d = .ok statements := by
    rw [← ok, Query.statements, kind_of_insert hinsert]
  cases rows with
  | nil =>
    cases d <;>
    · simp only [compileInsert, compileInsertPerRow, compileInsertTogether, hinsert] at hcompiled
      cases hcompiled
      exact .nil
  | cons first rest =>
    have htogether (hd : d ≠ .sqlite) :
        List.Forall₂ (fun group s => q.compileRows d group = .ok s) [first :: rest] statements := by
      obtain ⟨s, rfl, hs⟩ :=
        Query.exists_of_compileInsert hinsert (List.cons_ne_nil first rest) hd hcompiled
      exact .cons hs .nil
    cases d with
    | common => exact htogether (by decide)
    | mysql => exact htogether (by decide)
    | sqlite =>
      simp only [compileInsert, compileInsertPerRow, hinsert] at hcompiled
      exact List.forall₂_map_left_iff.mpr (forall₂_of_mapM_eq_ok hcompiled)

/-- Rows as one statement name all of their columns. -/
theorem targetsOnce_of_compileRows {rows : List Row} {s : Statement}
    (ok : q.compileRows d rows = .ok s) : q.TargetsOnce d (allColumns rows) s := by
  have hfaults := faults_eq_nil_of_ok (q.error?_compileRows d rows) ok
  have hnonempty : allColumns rows ≠ [] := by
    obtain ⟨-, ⟨row, hrow, hne⟩, -⟩ := (q.rowsFaults_eq_nil_iff d rows).mp hfaults
    exact fun hnil => hne (allColumns_eq_nil_iff.mp hnil row hrow)
  obtain ⟨target, b, htarget, hrest⟩ := run_bind_eq_ok (run_of_statement_eq_ok ok)
  have hcheck : ¬(allColumns rows).isEmpty = true := by simpa using hnonempty
  simp only [if_neg hcheck] at hrest
  obtain ⟨tuples, b', -, hpure⟩ := run_bind_eq_ok hrest
  obtain ⟨hsql, -⟩ := run_pure_eq_ok hpure
  refine ⟨.listed ("VALUES " ++ tuples) htarget ?_, hnonempty, nodup_allColumns rows⟩
  have hline : ")\nVALUES " = ")\n" ++ "VALUES " := rfl
  rw [← hsql, hline]
  simp only [String.append_assoc]

/-- What rows are written from repeats no column. -/
theorem nodup_of_compileRows {rows : List Row} {s : Statement}
    (ok : q.compileRows d rows = .ok s) : ∀ row ∈ rows, (Row.columns row).Nodup := by
  intro row hrow
  exact Row.nodup_of_repeatedAfter (isSound_of_compileRows ok row hrow).repeats

/-! ## Assignments -/

/-- An UPDATE names the columns of its assignments. -/
theorem targetsOnce_of_compileUpdate {s : Statement} (ok : q.compileUpdate d = .ok s) :
    q.TargetsOnce d (Row.columns q.update) s := by
  have hfaults := faults_eq_nil_of_ok (q.error?_compileUpdate d) ok
  simp only [updateFaults, List.append_eq_nil_iff] at hfaults
  obtain ⟨-, -, hvalues, hrepeats, -, -⟩ := hfaults
  have hnonempty : ¬q.update.isEmpty = true := fun hempty => by simp [hempty] at hvalues
  obtain ⟨⟨⟩, _, halias, hrest⟩ := run_bind_eq_ok (run_of_statement_eq_ok ok)
  obtain rfl := Dialect.run_checkTargetAlias_eq_ok halias
  obtain ⟨target, b, htarget, hrest⟩ := run_bind_eq_ok hrest
  simp only [if_neg hnonempty] at hrest
  obtain ⟨_, _, -, hrest⟩ := run_bind_eq_ok hrest
  obtain ⟨_, _, hassigned, hrest⟩ := run_bind_eq_ok hrest
  obtain ⟨assignments, _, hassignments, hcommas⟩ := run_bind_eq_ok hassigned
  obtain ⟨rfl, -⟩ := run_pure_eq_ok hcommas
  obtain ⟨tail, _, -, hpure⟩ := run_bind_eq_ok hrest
  obtain ⟨hsql, -⟩ := run_pure_eq_ok hpure
  have hleft := Assignment.forall₂_of_compileAll q.update hassignments
  refine ⟨.assigned (String.join (tail.map ("\n" ++ ·))) htarget hleft ?_, ?_,
    Row.repeatFaults_eq_nil_iff_nodup.mp hrepeats⟩
  · have hlines := intercalate_append_lines
      (List.cons_ne_nil target ["SET " ++ String.intercalate ", " assignments]) tail
    have hline : "\nSET " = "\n" ++ "SET " := rfl
    have hhead : String.intercalate "\n" [target, "SET " ++ String.intercalate ", " assignments]
        = target ++ "\nSET " ++ String.intercalate ", " assignments := by
      rw [hline, String.intercalate_cons_cons, String.intercalate_singleton]
      simp only [String.append_assoc]
    rw [← hsql, ← hhead]
    exact hlines
  · simpa [Row.columns] using hnonempty

/-! ## The rows of a select -/

/-- An INSERT from a select names the columns that it was given. -/
theorem targets_of_compileInsertSelect {columns : List String} {select : Query} {s : Statement}
    (ok : q.compileInsertSelect d ⟨some columns, select⟩ = .ok s) : q.Targets d columns s := by
  obtain ⟨target, b, htarget, hrest⟩ := run_bind_eq_ok (run_of_statement_eq_ok ok)
  obtain ⟨inner, _, -, hrest⟩ := run_bind_eq_ok hrest
  obtain ⟨sql, _, -, hpure⟩ := run_bind_eq_ok hrest
  obtain ⟨hsql, -⟩ := run_pure_eq_ok hpure
  refine .listed sql htarget ?_
  have hline : ")\n" = ")" ++ "\n" := rfl
  rw [← hsql, hline]
  simp only [String.append_assoc]

/-- It is one statement. -/
theorem exists_of_statements_select {source : InsertSelect}
    (hinsert : q.insert = some (.select source)) {statements : List Statement}
    (ok : q.statements d = .ok statements) :
    ∃ s, statements = [s] ∧ q.compileInsertSelect d source = .ok s := by
  have htogether : q.compileInsertTogether d = .ok statements := by
    rw [← ok, Query.statements, kind_of_insert hinsert]
    cases d with
    | common => rfl
    | mysql => rfl
    | sqlite => simp only [compileInsert, compileInsertPerRow, hinsert]
  unfold compileInsertTogether at htogether
  rw [hinsert] at htogether
  obtain ⟨s, hs, hpure⟩ := exists_of_bind_eq_ok htogether
  cases hpure
  exact ⟨s, rfl, hs⟩

/-- Its error is that of the target or of the select, whatever the columns
are. -/
theorem error?_statements_select {source : InsertSelect}
    (hinsert : q.insert = some (.select source)) :
    error? (q.statements d) = (q.insertSelectFaults d source).head? := by
  rw [q.error?_statements d, statementFaults, kind_of_insert hinsert]
  simp only [insertFaults, hinsert]

/-! ## Any statement that names its columns -/

/-- **What rows and assignments are written to, and what a select is written
to.**  Whenever inserted rows compile, each statement names all columns of
the rows that share it; whenever an UPDATE compiles, it names the columns that
it assigns.  Either way there is at least one column and none is named twice,
and a query that repeats a column in one of its rows, or among its
assignments, is refused.  An INSERT from a select names just the columns that
it was given, and it fails as it would with any other ones. -/
theorem statements_target_columns (d : Dialect) (q : Query) :
    (∀ rows, q.insert = some (.rows rows) →
      (∀ statements, q.statements d = .ok statements →
        List.Forall₂ (fun group s => q.TargetsOnce d (allColumns group) s) (d.rowGroups rows)
          statements)
      ∧ ((∃ row ∈ rows, ¬(Row.columns row).Nodup) → q.IsRefused d))
    ∧ (q.kind = .update →
      (∀ statements, q.statements d = .ok statements →
        ∃ s, statements = [s] ∧ q.TargetsOnce d (Row.columns q.update) s)
      ∧ (¬(Row.columns q.update).Nodup → q.IsRefused d))
    ∧ ∀ columns select, q.insert = some (.select ⟨some columns, select⟩) →
      (∀ statements, q.statements d = .ok statements →
        ∃ s, statements = [s] ∧ q.Targets d columns s)
      ∧ ∀ columns' : Option (List String), error? (q.statements d)
        = error? (Query.statements d
          { q with insert := some (.select ⟨columns', select⟩) }) := by
  refine ⟨fun rows hinsert => ?_, fun hkind => ?_, fun columns select hinsert => ?_⟩
  · have hgroups : ∀ statements, q.statements d = .ok statements →
        List.Forall₂ (fun group s => q.compileRows d group = .ok s) (d.rowGroups rows)
          statements :=
      fun statements ok => forall₂_compileRows hinsert ok
    refine ⟨fun statements ok => (hgroups statements ok).imp fun _ _ => targetsOnce_of_compileRows,
      ?_⟩
    rintro ⟨row, hrow, hrepeats⟩
    refine isRefused_of_not_ok fun statements ok => hrepeats ?_
    obtain ⟨group, hgroup, hmem⟩ := d.exists_rowGroup hrow
    have hdistinct := (hgroups statements ok).imp fun group s hs =>
      And.intro (nodup_of_compileRows hs) hs
    exact ((List.forall₂_and_left _ _).mp hdistinct).1 group hgroup row hmem
  · have hsingle : ∀ statements, q.statements d = .ok statements →
        ∃ s, statements = [s] ∧ q.TargetsOnce d (Row.columns q.update) s := by
      intro statements ok
      rw [Query.statements, hkind] at ok
      obtain ⟨s, hs, hpure⟩ := exists_of_bind_eq_ok ok
      cases hpure
      rw [Query.compile, hkind] at hs
      exact ⟨s, rfl, targetsOnce_of_compileUpdate hs⟩
    refine ⟨hsingle, fun hrepeats => isRefused_of_not_ok fun statements ok => hrepeats ?_⟩
    obtain ⟨s, -, hs⟩ := hsingle statements ok
    exact hs.distinct
  · constructor
    · intro statements ok
      obtain ⟨s, hstatements, hs⟩ := exists_of_statements_select hinsert ok
      exact ⟨s, hstatements, targets_of_compileInsertSelect hs⟩
    · intro columns'
      rw [error?_statements_select hinsert, error?_statements_select rfl]
      rfl

/-- All rows of one table, inserted into the columns of another. -/
def copied (columns : List String) : Query :=
  { Query.empty with
    table := some (.name "t")
    insert := some (.select ⟨some columns, { Query.empty with table := some (.name "u") }⟩) }

/-- An UPDATE that assigns a column twice. -/
def reassigned : Query :=
  { Query.empty with
    table := some (.name "t")
    update := [⟨"a", .value (.int 1)⟩, ⟨"a", .value (.int 2)⟩] }

/-- Rows with columns of their own each name those in SQLite, a repeated
assignment is refused, and a repeated column of a select is written. -/
theorem copied_targets :
    (∃ statements, unevenInsert.statements .sqlite = .ok statements
        ∧ List.Forall₂ (fun group s => unevenInsert.TargetsOnce .sqlite (allColumns group) s)
          (Dialect.sqlite.rowGroups Row.uneven) statements)
      ∧ reassigned.IsRefused .mysql
      ∧ ∃ s, (copied ["a", "a"]).statements .common = .ok [s]
        ∧ (copied ["a", "a"]).Targets .common ["a", "a"] s := by
  refine ⟨⟨_, rfl, ?_⟩, ?_, ?_⟩
  · exact ((unevenInsert.statements_target_columns .sqlite).1 _ rfl).1 _ rfl
  · exact ((reassigned.statements_target_columns .mysql).2.1 rfl).2 (by decide)
  · obtain ⟨s, hs, htargets⟩ :=
      (((copied ["a", "a"]).statements_target_columns .common).2.2 _ _ rfl).1 _ rfl
    exact ⟨s, congrArg Except.ok hs, htargets⟩

/-- A select is written to no columns or to one column twice, as it was
asked. -/
theorem copied_unchecked :
    (copied ["a", "a"]).statements .common
        = .ok [⟨"INSERT INTO \"t\" (\"a\", \"a\")\nSELECT *\nFROM \"u\"", .empty⟩]
      ∧ (copied []).statements .common
        = .ok [⟨"INSERT INTO \"t\" ()\nSELECT *\nFROM \"u\"", .empty⟩]
      ∧ ¬["a", "a"].Nodup := by
  exact ⟨rfl, rfl, by decide⟩

end Query

end SqlTree
