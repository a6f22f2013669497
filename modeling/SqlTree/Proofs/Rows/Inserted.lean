import SqlTree.Proofs.Compile.Appending
import SqlTree.Proofs.Compile.BoundValues
import SqlTree.Proofs.Rows.Columns

/-!
# What an INSERT stores

Rows are inserted as one statement over all columns, with DEFAULT where a row
has none of a column, or as a statement for each row over its own columns.
Both store the same rows (`Query.insert_stores_same_rows`): each column of a
row gets the row's operand, and where the row has none of a column, the
column is left to its default.

The values of a row are bound in the order of all columns or in its own.
They are the same ones up to the ranks in the order of listed values, which
CASE binds and FIELD does without: an operand may be a sub-query with such an
order.
-/

set_option autoImplicit false

namespace SqlTree

open Compiler

/-! ## Results that are known -/

namespace Compiler

variable {α β ι : Type}

/-- Whatever was collected before, the compiler returns `a` and adds the
values `vs`. -/
abbrev Yields (a : α) (vs : List Value) (c : Compiler α) : Prop :=
  Collects (fun r bound => r = a ∧ bound = vs) c

namespace Yields

variable {vs ws : List Value}

theorem pure (a : α) : Yields a [] (Pure.pure a : Compiler α) :=
  CollectsFrom.pure ⟨rfl, rfl⟩

theorem bind {a : α} {r : β} {c : Compiler α} {k : α → Compiler β} (hc : Yields a vs c)
    (hk : Yields r ws (k a)) : Yields r (vs ++ ws) (c >>= k) := by
  refine CollectsFrom.bind hc ?_
  rintro _ us ⟨rfl, rfl⟩ b r' b' base hb hrun
  obtain ⟨bound, hbound, hr, rfl⟩ := hk (base ++ us) (by rw [hb]; simp) hrun
  exact ⟨us ++ bound, by rw [hbound, List.append_assoc], hr, rfl⟩

/-- What is returned in the end adds nothing. -/
theorem returning {a : α} {c : Compiler α} (hc : Yields a vs c) (f : α → β) :
    Yields (f a) vs (c >>= fun a => Pure.pure (f a)) := by
  rw [← List.append_nil vs]
  exact hc.bind (.pure (f a))

/-- Several in a row. -/
theorem inSequence {xs : List ι} {text : ι → String} {values : ι → List Value}
    {c : ι → Compiler String} (h : ∀ x ∈ xs, Yields (text x) (values x) (c x)) :
    Yields (xs.map text) (xs.flatMap values) (inSequence (xs.map c)) := by
  induction xs with
  | nil => exact .pure []
  | cons x xs ih =>
    obtain ⟨hx, hxs⟩ := List.forall_mem_cons.mp h
    exact hx.bind ((ih hxs).returning (text x :: ·))

theorem commaList {xs : List ι} {text : ι → String} {values : ι → List Value}
    {c : ι → Compiler String} (h : ∀ x ∈ xs, Yields (text x) (values x) (c x)) :
    Yields (String.intercalate ", " (xs.map text)) (xs.flatMap values)
      (commaList (xs.map c)) :=
  (inSequence h).returning _

end Yields

/-- A compiler that merges what it collects yields the statement that it is
from no values. -/
theorem Appends.yields {c : Compiler String} (hc : Appends c) {s : Statement}
    (hs : c.statement = .ok s) : Yields s.sql s.bindings.positional c := by
  intro b text b' base hb hrun
  obtain ⟨e, he, rfl⟩ := hc.exists_of_run_eq_ok hrun
  rw [run_of_statement_eq_ok hs] at he
  cases he
  refine ⟨s.bindings.positional, ?_, rfl, rfl⟩
  rw [Bindings.positional_merge, hb, List.append_nil]

end Compiler

/-! ## Entries of a row -/

section

variable (d : Dialect) (row : Row)

/-- The statement of the operand that a row has for a column. -/
def Row.entry (column : String) : Option Statement :=
  (row.value? column).bind fun v => (v.compile d).statement.toOption

/-- The text in the place of a column. -/
def Row.entryText (column : String) : String :=
  (row.entry d column).elim "DEFAULT" Statement.sql

/-- The values that are bound for a column. -/
def Row.entryValues (column : String) : List Value :=
  (row.entry d column).elim [] fun s => s.bindings.positional

/-- The tuple of a row over the columns: an entry for each. -/
def Row.tupleText (columns : List String) : String :=
  "(" ++ String.intercalate ", " (columns.map (row.entryText d)) ++ ")"

/-- The values that are bound for a row. -/
def Row.tupleValues (columns : List String) : List Value :=
  columns.flatMap (row.entryValues d)

/-- The ranks that CASE gives in the operands of a row. -/
def Row.ranks : List Value :=
  row.flatMap fun a => a.value.ranks

/-- Each column that a row has once gets the operand of the row, and all
others are left to their default. -/
structure Row.IsEntered : Prop where
  distinct : row.columns.Nodup
  operand : ∀ a ∈ row, ∃ s, (a.value.compile d).statement = .ok s ∧ row.entry d a.column = some s
  default : ∀ column, row.entryText d column = "DEFAULT" ↔ column ∉ row.columns

end

/-- The statement that writes the rows into the columns: a tuple for each
row, and the values of the tuples in their order. -/
structure WritesRows (d : Dialect) (table : String) (columns : List String) (rows : List Row)
    (s : Statement) : Prop where
  sql : s.sql = "INSERT INTO " ++ d.quoteIdentifier table ++ " (" ++ d.columnList columns
    ++ ")\nVALUES " ++ String.intercalate ", " (rows.map fun row => row.tupleText d columns)
  values : s.bindings.positional = rows.flatMap fun row => row.tupleValues d columns

section

variable (d : Dialect)

/-- An operand is never the word that stands for a default. -/
theorem Operand.compile_ne_default (o : Operand) :
    (o.compile d).Returns fun text => text ≠ "DEFAULT" := by
  have hparentheses (sql : String) : "(" ++ sql ++ ")" ≠ "DEFAULT" := by
    intro heq
    have htext := congrArg String.toList heq
    simp at htext
  cases o with
  | value v => exact .after fun _ => .pure (by decide)
  | query q => exact .after fun _ => .after fun sql => .pure (hparentheses sql)
  | expr e => exact .after fun sql => .pure (hparentheses sql)

/-- What has no faults has a statement. -/
theorem Operand.exists_statement {o : Operand} (h : o.faults d = []) :
    ∃ s, (o.compile d).statement = .ok s := by
  have herror := (o.compile_reports d).statement
  rw [h] at herror
  cases hs : (o.compile d).statement with
  | ok s => exact ⟨s, rfl⟩
  | error e => rw [hs] at herror; cases herror

/-- The entry of a column that a row has. -/
theorem Row.entry_of_value? {row : Row} {column : String} {v : Operand} {s : Statement}
    (hv : row.value? column = some v) (hs : (v.compile d).statement = .ok s) :
    row.entry d column = some s := by
  rw [Row.entry, hv, Option.bind_some, hs]
  rfl

/-- The entry of a column that a row does not have. -/
theorem Row.entry_of_not_mem {row : Row} {column : String} (h : column ∉ row.columns) :
    row.entry d column = none := by
  rw [Row.entry, Row.value?_eq_none_iff.mpr h, Option.bind_none]

/-- A sound row is entered. -/
theorem Row.IsSound.isEntered {row : Row} (h : row.IsSound d) : row.IsEntered d := by
  have hoperand : ∀ a ∈ row, ∃ s, (a.value.compile d).statement = .ok s
      ∧ row.entry d a.column = some s := by
    intro a ha
    obtain ⟨s, hs⟩ := a.value.exists_statement d (h.values a ha)
    exact ⟨s, hs, Row.entry_of_value? d (Row.value?_of_mem h.repeats a ha) hs⟩
  refine ⟨Row.nodup_of_repeatedAfter h.repeats, hoperand, ?_⟩
  intro column
  constructor
  · intro hdefault hmem
    obtain ⟨a, ha, rfl⟩ := Row.mem_columns.mp hmem
    obtain ⟨s, hs, hentry⟩ := hoperand a ha
    rw [Row.entryText, hentry] at hdefault
    exact a.value.compile_ne_default d (run_of_statement_eq_ok hs) hdefault
  · intro hmem
    rw [Row.entryText, Row.entry_of_not_mem d hmem]
    rfl

/-! ## Tuples and statements -/

variable {d}

/-- The entry of a column is compiled in its place. -/
theorem Row.compileEntry_yields {row : Row} (h : row.IsSound d) (column : String) :
    Yields (row.entryText d column) (row.entryValues d column) (row.compileEntry d column) := by
  unfold Row.entryText Row.entryValues Row.compileEntry
  cases hv : row.value? column with
  | none =>
    rw [Row.entry, hv, Option.bind_none]
    exact .pure "DEFAULT"
  | some v =>
    obtain ⟨a, ha, rfl⟩ := Row.exists_of_value? hv
    obtain ⟨s, hs⟩ := a.value.exists_statement d (h.values a ha)
    rw [Row.entry_of_value? d hv hs]
    exact (a.value.compile_composed d).appends.yields hs

theorem Row.compileTuple_yields {row : Row} (h : row.IsSound d) (columns : List String) :
    Yields (row.tupleText d columns) (row.tupleValues d columns)
      (row.compileTuple d columns) := by
  have hunique : Yields () [] row.checkUnique := by
    unfold Row.checkUnique
    rw [h.repeats]
    exact .pure ()
  have hentries : Yields (String.intercalate ", " (columns.map (row.entryText d)))
      (row.tupleValues d columns) (commaList (columns.map (row.compileEntry d))) := by
    apply Yields.commaList
    intro column _
    exact Row.compileEntry_yields h column
  exact hunique.bind (hentries.returning _)

/-- Sound rows are written into all of their columns. -/
theorem Query.writesRows {q : Query} {table : String} {rows : List Row} {s : Statement}
    (htable : q.table = some (.name table)) (hsound : ∀ row ∈ rows, row.IsSound d)
    (ok : q.compileRows d rows = .ok s) : WritesRows d table (allColumns rows) rows s := by
  have htarget : Yields ("INSERT INTO " ++ d.quoteIdentifier table) []
      (q.compileInsertTarget d) := by
    unfold Query.compileInsertTarget
    rw [htable]
    exact (Yields.pure (d.quoteIdentifier table)).returning _
  have htuples : Yields
      (String.intercalate ", " (rows.map fun row => row.tupleText d (allColumns rows)))
      (rows.flatMap fun row => row.tupleValues d (allColumns rows))
      (commaList (rows.map (Row.compileTuple d (allColumns rows)))) := by
    apply Yields.commaList
    intro row hrow
    exact Row.compileTuple_yields (hsound row hrow) (allColumns rows)
  have hstatement := statement_collects (htarget.bind (CollectsFrom.check (htuples.returning _))) ok
  exact ⟨hstatement.1, hstatement.2⟩

/-! ## The same rows -/

/-- A row binds the same values over its own columns in SQLite as over all
columns in another dialect, and the ranks that the other one does without. -/
theorem Row.tupleValues_perm {rows : List Row} {row : Row} (hrow : row ∈ rows)
    (h : row.IsEntered d) (h' : row.IsEntered .sqlite) :
    (row.tupleValues .sqlite row.columns).Perm
      (row.tupleValues d (allColumns rows) ++ d.unboundRanks row.ranks) := by
  have hentry : ∀ a ∈ row, (row.entryValues .sqlite a.column).Perm
      (row.entryValues d a.column ++ d.unboundRanks a.value.ranks) := by
    intro a ha
    obtain ⟨s, hs, hentry⟩ := h.operand a ha
    obtain ⟨s', hs', hentry'⟩ := h'.operand a ha
    rw [Row.entryValues, Row.entryValues, hentry, hentry']
    exact a.value.positional_perm d hs hs'
  have hown : (row.tupleValues .sqlite row.columns).Perm
      (row.tupleValues d row.columns ++ d.unboundRanks row.ranks) := by
    unfold Row.tupleValues Row.columns Row.ranks
    rw [List.flatMap_map, List.flatMap_map, d.unboundRanks_flatMap]
    exact (List.Perm.flatMap_left row hentry).trans (List.flatMap_append_perm row _ _).symm
  have hall : (row.tupleValues d (allColumns rows)).Perm (row.tupleValues d row.columns) := by
    apply flatMap_allColumns_perm hrow h.distinct
    intro column hcolumn
    rw [Row.entryValues, Row.entry_of_not_mem d hcolumn]
    rfl
  exact hown.trans (hall.symm.append_right _)

/-- Rows that are compiled have no faults. -/
theorem Query.isSound_of_compileRows {q : Query} {rows : List Row} {s : Statement}
    (ok : q.compileRows d rows = .ok s) : ∀ row ∈ rows, row.IsSound d := by
  have hfaults := faults_eq_nil_of_ok (q.error?_compileRows d rows) ok
  exact ((q.rowsFaults_eq_nil_iff d rows).mp hfaults).2.2

/-- Rows that are inserted together make one statement. -/
theorem Query.exists_of_compileInsert {q : Query} {rows : List Row}
    (hinsert : q.insert = some (.rows rows)) (hrows : rows ≠ []) (hd : d ≠ .sqlite)
    {together : List Statement} (ok : q.compileInsert d = .ok together) :
    ∃ s, together = [s] ∧ q.compileRows d rows = .ok s := by
  have htogether : q.compileInsertTogether d = .ok together := by
    cases d with
    | sqlite => exact absurd rfl hd
    | common => exact ok
    | mysql => exact ok
  unfold Query.compileInsertTogether at htogether
  rw [hinsert] at htogether
  cases rows with
  | nil => exact absurd rfl hrows
  | cons row rows =>
    obtain ⟨s, hs, hpure⟩ := exists_of_bind_eq_ok htogether
    cases hpure
    exact ⟨s, rfl, hs⟩

/-- **Both forms of an INSERT store the same rows.**  Where the rows compile
as one statement and as a statement each, the one statement has all columns
in the order in which they first appear, and a tuple for each row in their
order.  The others have a row each, over the row's columns in its order.
Either way the operand of a row stands at each of its columns and DEFAULT
just where it has none.  The values of a row are the same up to their order,
and up to the ranks that FIELD does without. -/
theorem Query.insert_stores_same_rows {q : Query} {table : String} {rows : List Row}
    (htable : q.table = some (.name table)) (hinsert : q.insert = some (.rows rows))
    (hrows : rows ≠ []) (hd : d ≠ .sqlite) {together apart : List Statement}
    (htogether : q.compileInsert d = .ok together) (hapart : q.compileInsert .sqlite = .ok apart) :
    (∃ s, together = [s] ∧ WritesRows d table (allColumns rows) rows s)
      ∧ allColumns rows = (rows.flatMap Row.columns).eraseDups
      ∧ List.Forall₂ (fun row s => WritesRows .sqlite table row.columns [row] s) rows apart
      ∧ ∀ row ∈ rows, row.IsEntered d ∧ row.IsEntered .sqlite
        ∧ (row.tupleValues .sqlite row.columns).Perm
          (row.tupleValues d (allColumns rows) ++ d.unboundRanks row.ranks) := by
  obtain ⟨s, hs, hcompiled⟩ := Query.exists_of_compileInsert hinsert hrows hd htogether
  have hsound := Query.isSound_of_compileRows hcompiled
  have hsound' : ∀ row ∈ rows, row.IsSound .sqlite := by
    intro row hrow
    exact (row.isSound_iff d .sqlite).mp (hsound row hrow)
  refine ⟨⟨s, hs, Query.writesRows htable hsound hcompiled⟩, allColumns_eq rows, ?_, ?_⟩
  · have hmapM : rows.mapM (fun row => q.compileRows .sqlite [row]) = .ok apart := by
      rw [← hapart, Query.compileInsert, Query.compileInsertPerRow, hinsert]
    refine List.Forall₂.imp ?_ (forall₂_of_mapM_eq_ok hmapM)
    intro row s hrow
    have hrowSound := Query.isSound_of_compileRows hrow
    have hwrites := Query.writesRows htable hrowSound hrow
    have hdistinct := ((hrowSound row List.mem_cons_self).isEntered .sqlite).distinct
    rwa [allColumns_single hdistinct] at hwrites
  · intro row hrow
    have hentered := (hsound row hrow).isEntered d
    have hentered' := (hsound' row hrow).isEntered .sqlite
    exact ⟨hentered, hentered', Row.tupleValues_perm hrow hentered hentered'⟩

/-- A row whose operand is a sub-query in the order of listed values. -/
def Query.rankedRow : Query :=
  { Query.empty with
    table := some (.name "t")
    insert := some (.rows [[⟨"a", .query { Query.empty with
      table := some (.name "u")
      order := [.explicit (.name "b") [.value (.text "x"), .value (.text "y")] false] }⟩]]) }

/-- SQLite binds ranks for it and MySQL does not. -/
theorem Query.rankedRow_not_perm :
    ∃ s s', Query.rankedRow.compileInsert .mysql = .ok [s]
      ∧ Query.rankedRow.compileInsert .sqlite = .ok [s']
      ∧ ¬s.bindings.positional.Perm s'.bindings.positional := by
  refine ⟨_, _, rfl, rfl, ?_⟩
  intro hperm
  exact absurd hperm.length_eq (by decide)

/-- Two rows with different columns, the second with a sub-query in the order
of listed values. -/
def Row.uneven : List Row :=
  [[⟨"a", .value (.int 1)⟩, ⟨"b", .value (.int 2)⟩],
    [⟨"c", .value (.int 3)⟩, ⟨"a", .query { Query.empty with
      table := some (.name "u")
      order := [.explicit (.name "d") [.value (.text "x")] true] }⟩]]

def Query.unevenInsert : Query :=
  { Query.empty with
    table := some (.name "t")
    insert := some (.rows Row.uneven) }

theorem Query.unevenInsert_stored :
    ∃ together apart, Query.unevenInsert.compileInsert .mysql = .ok together
      ∧ Query.unevenInsert.compileInsert .sqlite = .ok apart
      ∧ (∃ s, together = [s] ∧ WritesRows .mysql "t" (allColumns Row.uneven) Row.uneven s)
      ∧ allColumns Row.uneven = (Row.uneven.flatMap Row.columns).eraseDups
      ∧ List.Forall₂ (fun row s => WritesRows .sqlite "t" row.columns [row] s) Row.uneven apart
      ∧ ∀ row ∈ Row.uneven, row.IsEntered .mysql ∧ row.IsEntered .sqlite
        ∧ (row.tupleValues .sqlite row.columns).Perm
          (row.tupleValues .mysql (allColumns Row.uneven)
            ++ Dialect.mysql.unboundRanks row.ranks) := by
  refine ⟨_, _, rfl, rfl, ?_⟩
  have htable : Query.unevenInsert.table = some (.name "t") := rfl
  exact Query.insert_stores_same_rows htable rfl (by decide) (by decide) rfl rfl

/-- The second row binds its values in the order of all columns, and SQLite
binds them in the order of the row, with two ranks. -/
example :
    Row.uneven.map (fun row => row.tupleValues .mysql (allColumns Row.uneven))
        = [[.int 1, .int 2], [.text "x", .int 3]]
      ∧ Row.uneven.map (fun row => row.tupleValues .sqlite row.columns)
        = [[.int 1, .int 2], [.int 3, .text "x", .int 0, .int (-1)]] := by
  exact ⟨rfl, rfl⟩

end

end SqlTree
