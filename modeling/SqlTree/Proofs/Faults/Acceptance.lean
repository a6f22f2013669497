import Mathlib.Data.List.Perm.Basic
import SqlTree.Proofs.Faults.Statements

/-!
# What the dialects accept

As a SELECT, a tree has the same faults in every dialect, in one order or
another (`Query.faults_perm`).  So the dialects agree on what compiles, up to
what they do at the top of a query.  MySQL does there what the common dialect
does.  SQLite refuses an alias of the target of an UPDATE or a DELETE; and
since it takes a statement for each inserted row, over the columns of that
row alone, it refuses a row without columns, which the others fill up with
DEFAULT (`Query.isOk_across_dialects`).
-/

set_option autoImplicit false
set_option linter.unusedSectionVars false

namespace SqlTree

/-! ## The same faults in another order -/

section

variable (d d' : Dialect)

/-- Listed values are turned around or not. -/
theorem Dialect.listed_perm {α : Type} (othersFirst : Bool) (values : List α) :
    (d.listed othersFirst values).Perm values := by
  cases d with
  | common => exact .refl _
  | sqlite => exact .refl _
  | mysql =>
    cases othersFirst with
    | false => exact values.reverse_perm
    | true => exact .refl _

/-- The bounds of a window change places or not. -/
theorem Dialect.inWindow_perm {α : Type} {offset offset' limit limit' : List α}
    (hoffset : offset.Perm offset') (hlimit : limit.Perm limit') :
    (d.inWindow offset limit).Perm (d'.inWindow offset' limit') := by
  have hanywhere (d : Dialect) (offset limit : List α) :
      (d.inWindow offset limit).Perm (offset ++ limit) := by
    cases d with
    | common => exact .refl _
    | mysql => exact List.perm_append_comm
    | sqlite => exact List.perm_append_comm
  exact (hanywhere d offset limit).trans
    ((hoffset.append hlimit).trans (hanywhere d' offset' limit').symm)

mutual

theorem Column.faults_perm : ∀ c : Column, (c.faults d).Perm (c.faults d')
  | .name _ => .refl _
  | .query q => q.faults_perm.map _
  | .expr _ => .refl _

theorem Operand.faults_perm : ∀ o : Operand, (o.faults d).Perm (o.faults d')
  | .value _ => .refl _
  | .query q => q.faults_perm.map _
  | .expr _ => .refl _

theorem Operand.faultsAll_perm : ∀ os : List Operand,
    List.Forall₂ List.Perm (Operand.faultsAll d os) (Operand.faultsAll d' os)
  | [] => .nil
  | o :: os => .cons o.faults_perm (Operand.faultsAll_perm os)

theorem Operand.faultsSlot_perm : ∀ o : Option Operand,
    (Operand.faultsSlot d o).Perm (Operand.faultsSlot d' o)
  | none => .refl _
  | some o => o.faults_perm

theorem Table.faults_perm : ∀ t : Table, (t.faults d).Perm (t.faults d')
  | .name _ => .refl _
  | .query q => q.faults_perm.map _
  | .raw _ => .refl _

theorem Table.faultsTarget_perm (missing : QueryError) : ∀ t : Option Table,
    (Table.faultsTarget d missing t).Perm (Table.faultsTarget d' missing t)
  | none => .refl _
  | some t => t.faults_perm

theorem Subquery.faults_perm : ∀ s : Subquery, (s.faults d).Perm (s.faults d')
  | .query q => q.faults_perm.map _
  | .raw _ => .refl _

theorem Members.faults_perm : ∀ vs : Members, (vs.faults d).Perm (vs.faults d')
  | .list vs => .flatten_congr (Operand.faultsAll_perm vs)
  | .select s => s.faults_perm

theorem Aggregate.faults_perm : ∀ a : Aggregate, (a.faults d).Perm (a.faults d')
  | ⟨_, c⟩ => c.faults_perm

theorem Selectable.faults_perm : ∀ s : Selectable, (s.faults d).Perm (s.faults d')
  | .column c => c.faults_perm
  | .aggregate a => a.faults_perm

theorem SelectItem.faults_perm : ∀ item : SelectItem, (item.faults d).Perm (item.faults d')
  | ⟨_, s⟩ => s.faults_perm

theorem SelectItem.faultsAll_perm : ∀ items : List SelectItem,
    List.Forall₂ List.Perm (SelectItem.faultsAll d items) (SelectItem.faultsAll d' items)
  | [] => .nil
  | item :: items => .cons item.faults_perm (SelectItem.faultsAll_perm items)

theorem Criterion.faults_perm : ∀ c : Criterion, (c.faults d).Perm (c.faults d')
  | .value c rule v _ => (c.faults_perm.append v.faults_perm).append_left (ruleFaults rule)
  | .columns l rule r _ => (l.faults_perm.append r.faults_perm).append_left (ruleFaults rule)
  | .between c low high _ _ => c.faults_perm.append (low.faults_perm.append high.faults_perm)
  | .group cs _ _ => Criterion.faultsAll_perm cs
  | .exists s _ _ => s.faults_perm
  | .member c vs _ _ => by
    unfold Criterion.faults
    split
    · exact .refl _
    · exact c.faults_perm.append vs.faults_perm
  | .null c _ _ => c.faults_perm
  | .raw _ _ => .refl _

theorem Criterion.faultsAll_perm : ∀ cs : List Criterion,
    (Criterion.faultsAll d cs).Perm (Criterion.faultsAll d' cs)
  | [] => .refl _
  | c :: cs => c.faults_perm.append (Criterion.faultsAll_perm cs)

theorem Order.faults_perm : ∀ o : Order, (o.faults d).Perm (o.faults d')
  | .column c _ => c.faults_perm
  | .nulls c _ => c.faults_perm
  | .explicit c vs othersFirst => by
    unfold Order.faults
    split
    · exact .refl _
    · have hvalues := List.Perm.flatten_congr (Operand.faultsAll_perm vs)
      have hleft := (d.listed_perm othersFirst (Operand.faultsAll d vs)).flatten
      have hright := (d'.listed_perm othersFirst (Operand.faultsAll d' vs)).flatten
      exact c.faults_perm.append (hleft.trans (hvalues.trans hright.symm))
  | .random => .refl _

theorem Order.faultsAll_perm : ∀ os : List Order,
    List.Forall₂ List.Perm (Order.faultsAll d os) (Order.faultsAll d' os)
  | [] => .nil
  | o :: os => .cons o.faults_perm (Order.faultsAll_perm os)

theorem Join.faults_perm : ∀ j : Join, (j.faults d).Perm (j.faults d')
  | ⟨_, t, _, cs⟩ => t.faults_perm.append (Criterion.faultsAll_perm cs)

theorem Join.faultsAll_perm : ∀ js : List Join,
    List.Forall₂ List.Perm (Join.faultsAll d js) (Join.faultsAll d' js)
  | [] => .nil
  | j :: js => .cons j.faults_perm (Join.faultsAll_perm js)

/-- As a SELECT, a query has the same faults in every dialect. -/
theorem Query.faults_perm : ∀ q : Query, (q.faults d).Perm (q.faults d')
  | ⟨table, _, select, _, _, _, joins, criteria, order, offset, limit⟩ =>
    (List.Perm.flatten_congr (SelectItem.faultsAll_perm select)).append <|
      (Table.faultsTarget_perm .noFromTable table).append <|
      (List.Perm.flatten_congr (Join.faultsAll_perm joins)).append <|
      (Criterion.faultsAll_perm criteria).append <|
      (List.Perm.flatten_congr (Order.faultsAll_perm order)).append <|
        Dialect.inWindow_perm d d' (Operand.faultsSlot_perm offset) (Operand.faultsSlot_perm limit)

end

end

/-- Lists that are the same up to order are both empty or both not. -/
theorem perm_eq_nil_iff {α : Type} {as bs : List α} (h : as.Perm bs) : as = [] ↔ bs = [] := by
  rw [← List.length_eq_zero_iff, ← List.length_eq_zero_iff, h.length_eq]

/-! ## Rows -/

/-- A row that writes no column twice, and whose values have no faults. -/
structure Row.IsSound (d : Dialect) (row : Row) : Prop where
  repeats : Row.repeatedAfter [] row = none
  values : ∀ a ∈ row, a.value.faults d = []

theorem Row.isSound_iff (d d' : Dialect) (row : Row) : row.IsSound d ↔ row.IsSound d' := by
  have hvalue (a : Assignment) : a.value.faults d = [] ↔ a.value.faults d' = [] :=
    perm_eq_nil_iff (a.value.faults_perm d d')
  constructor
  · rintro ⟨hrepeats, hvalues⟩
    exact ⟨hrepeats, fun a ha => (hvalue a).mp (hvalues a ha)⟩
  · rintro ⟨hrepeats, hvalues⟩
    exact ⟨hrepeats, fun a ha => (hvalue a).mpr (hvalues a ha)⟩

/-- Over columns that include its own, a row has no faults where it is
sound. -/
theorem Row.tupleFaults_eq_nil_iff (d : Dialect) {columns : List String} {row : Row}
    (hcolumns : ∀ a ∈ row, a.column ∈ columns) :
    row.tupleFaults d columns = [] ↔ row.IsSound d := by
  unfold Row.tupleFaults
  rw [List.append_eq_nil_iff, Row.repeatFaults_eq_nil_iff, List.flatten_eq_nil_iff,
    List.forall_mem_map]
  constructor
  · rintro ⟨hrepeats, hentries⟩
    refine ⟨hrepeats, fun a ha => ?_⟩
    have hentry := hentries a.column (hcolumns a ha)
    rwa [Row.entryFaults, Row.value?_of_mem hrepeats a ha] at hentry
  · rintro ⟨hrepeats, hvalues⟩
    refine ⟨hrepeats, fun column _ => ?_⟩
    unfold Row.entryFaults
    cases hvalue : row.value? column with
    | none => rfl
    | some v =>
      obtain ⟨a, ha, rfl⟩ := Row.exists_of_value? hvalue
      exact hvalues a ha

/-- Rows have no columns where none of them has an entry. -/
theorem allColumns_eq_nil_iff {rows : List Row} :
    allColumns rows = [] ↔ ∀ row ∈ rows, row = [] := by
  rw [List.eq_nil_iff_forall_not_mem]
  constructor
  · intro hnone row hrow
    rw [List.eq_nil_iff_forall_not_mem]
    intro a ha
    exact hnone a.column (mem_allColumns.mpr ⟨row, hrow, a, ha, rfl⟩)
  · intro hempty column hcolumn
    obtain ⟨row, hrow, a, ha, -⟩ := mem_allColumns.mp hcolumn
    rw [hempty row hrow] at ha
    cases ha

/-! ## Clauses and targets -/

theorem Dialect.aliasFaults_eq_nil_iff (d : Dialect) (aliasName : Option String)
    (statement : String) :
    d.aliasFaults aliasName statement = [] ↔ (d = .sqlite → aliasName = none) := by
  cases d <;> cases aliasName <;> simp [Dialect.aliasFaults]

namespace Query

variable (d d' : Dialect) (q : Query)

theorem clauseFaults_perm : (q.clauseFaults d).Perm (q.clauseFaults d') :=
  (Criterion.faultsAll_perm d d' q.criteria).append <|
    (List.Perm.flatten_congr (Order.faultsAll_perm d d' q.order)).append <|
      Dialect.inWindow_perm d d' (Operand.faultsSlot_perm d d' q.offset)
        (Operand.faultsSlot_perm d d' q.limit)

theorem clauseFaults_eq_nil_iff : q.clauseFaults d = [] ↔ q.clauseFaults d' = [] :=
  perm_eq_nil_iff (q.clauseFaults_perm d d')

theorem targetFaults_eq_nil_iff (missing : QueryError) :
    Table.faultsTarget d missing q.table = [] ↔ Table.faultsTarget d' missing q.table = [] :=
  perm_eq_nil_iff (Table.faultsTarget_perm d d' missing q.table)

/-! ## Inserted rows -/

/-- Rows have no faults where the target has none, not all of them are empty,
and each of them is sound. -/
theorem rowsFaults_eq_nil_iff (rows : List Row) :
    q.rowsFaults d rows = [] ↔ Table.faultsTarget d .noTargetTable q.table = []
      ∧ (∃ row ∈ rows, row ≠ []) ∧ ∀ row ∈ rows, row.IsSound d := by
  have hcolumns : (if (allColumns rows).isEmpty then [QueryError.noInsertedColumns] else []) = []
      ↔ ∃ row ∈ rows, row ≠ [] := by
    simp [allColumns_eq_nil_iff]
  have htuples : (rows.map (Row.tupleFaults d (allColumns rows))).flatten = []
      ↔ ∀ row ∈ rows, row.IsSound d := by
    rw [List.flatten_eq_nil_iff, List.forall_mem_map]
    refine forall₂_congr fun row hrow => ?_
    exact row.tupleFaults_eq_nil_iff d fun a ha => mem_allColumns.mpr ⟨row, hrow, a, ha, rfl⟩
  rw [rowsFaults, List.append_eq_nil_iff, List.append_eq_nil_iff, hcolumns, htuples]

/-- The same rows have faults in every dialect that takes them as one
statement. -/
theorem rowsFaults_across (rows : List Row) :
    q.rowsFaults d rows = [] ↔ q.rowsFaults d' rows = [] := by
  rw [rowsFaults_eq_nil_iff, rowsFaults_eq_nil_iff, q.targetFaults_eq_nil_iff d d']
  simp only [Row.isSound_iff d d']

/-- Rows that make a statement each have no faults where they have none as
one statement and none of them is empty. -/
theorem rowFaults_eq_nil_iff {rows : List Row} (hrows : rows ≠ []) :
    (rows.map fun row => q.rowsFaults d [row]).flatten = []
      ↔ q.rowsFaults d rows = [] ∧ [] ∉ rows := by
  have hrow (row : Row) : q.rowsFaults d [row] = [] ↔
      Table.faultsTarget d .noTargetTable q.table = [] ∧ row ≠ [] ∧ row.IsSound d := by
    simp [rowsFaults_eq_nil_iff]
  obtain ⟨first, hfirst⟩ := List.exists_mem_of_ne_nil rows hrows
  rw [List.flatten_eq_nil_iff, List.forall_mem_map, rowsFaults_eq_nil_iff]
  constructor
  · intro hall
    have hsound (row : Row) (h : row ∈ rows) := (hrow row).mp (hall row h)
    refine ⟨⟨(hsound first hfirst).1, ⟨first, hfirst, (hsound first hfirst).2.1⟩, ?_⟩, ?_⟩
    · exact fun row h => (hsound row h).2.2
    · exact fun hempty => (hsound [] hempty).2.1 rfl
  · rintro ⟨⟨htarget, -, hsound⟩, hempty⟩ row h
    exact (hrow row).mpr ⟨htarget, fun hnil => hempty (hnil ▸ h), hsound row h⟩

/-- The rows of a select. -/
theorem insertSelectFaults_eq_nil_iff (source : InsertSelect) :
    q.insertSelectFaults d source = [] ↔ q.insertSelectFaults d' source = [] := by
  unfold insertSelectFaults
  rw [List.append_eq_nil_iff, List.append_eq_nil_iff, q.targetFaults_eq_nil_iff d d',
    List.map_eq_nil_iff, List.map_eq_nil_iff,
    perm_eq_nil_iff (source.select.faults_perm d d')]

/-- A row without columns, among the rows that a query inserts. -/
def InsertsEmptyRow : Prop :=
  ∃ rows, q.insert = some (.rows rows) ∧ [] ∈ rows

theorem insertFaults_mysql : q.insertFaults .mysql = [] ↔ q.insertFaults .common = [] := by
  unfold insertFaults
  cases q.insert with
  | none => rfl
  | some insert =>
    cases insert with
    | select source => exact q.insertSelectFaults_eq_nil_iff .mysql .common source
    | rows rows =>
      cases rows with
      | nil => rfl
      | cons row rows => exact q.rowsFaults_across .mysql .common (row :: rows)

theorem insertFaults_sqlite :
    q.insertFaults .sqlite = [] ↔ q.insertFaults .common = [] ∧ ¬q.InsertsEmptyRow := by
  unfold insertFaults InsertsEmptyRow
  cases q.insert with
  | none => simp
  | some insert =>
    cases insert with
    | select source => simp [q.insertSelectFaults_eq_nil_iff .sqlite .common source]
    | rows rows =>
      cases rows with
      | nil => simp
      | cons row rows =>
        have hrows := q.rowFaults_eq_nil_iff .sqlite (List.cons_ne_nil row rows)
        rw [q.rowsFaults_across .sqlite .common] at hrows
        simpa using hrows

/-! ## Statements -/

/-- An UPDATE has faults where it has faults in the common dialect, and where
SQLite refuses the alias of its target. -/
theorem updateFaults_eq_nil_iff : q.updateFaults d = [] ↔
    q.updateFaults .common = [] ∧ (d = .sqlite → q.tableAlias = none) := by
  have hvalues : (q.update.map fun a => a.value.faults d).flatten = []
      ↔ (q.update.map fun a => a.value.faults .common).flatten = [] := by
    simp only [List.flatten_eq_nil_iff, List.forall_mem_map]
    exact forall₂_congr fun a _ => perm_eq_nil_iff (a.value.faults_perm d .common)
  unfold updateFaults
  simp only [List.append_eq_nil_iff, Dialect.aliasFaults_eq_nil_iff, hvalues,
    q.targetFaults_eq_nil_iff d .common, q.clauseFaults_eq_nil_iff d .common]
  constructor
  · rintro ⟨halias, hrest⟩
    exact ⟨⟨nofun, hrest⟩, halias⟩
  · rintro ⟨⟨-, hrest⟩, halias⟩
    exact ⟨halias, hrest⟩

/-- The same for a DELETE. -/
theorem deleteFaults_eq_nil_iff : q.deleteFaults d = [] ↔
    q.deleteFaults .common = [] ∧ (d = .sqlite → q.tableAlias = none) := by
  unfold deleteFaults
  simp only [List.append_eq_nil_iff, Dialect.aliasFaults_eq_nil_iff,
    q.targetFaults_eq_nil_iff d .common, q.clauseFaults_eq_nil_iff d .common]
  constructor
  · rintro ⟨halias, hrest⟩
    exact ⟨⟨nofun, hrest⟩, halias⟩
  · rintro ⟨⟨-, hrest⟩, halias⟩
    exact ⟨halias, hrest⟩

/-- An alias of the target of an UPDATE or a DELETE. -/
def AliasesTarget : Prop :=
  (q.kind = .update ∨ q.kind = .delete) ∧ q.tableAlias ≠ none

/-- A query with rows or a select to insert is an INSERT. -/
theorem kind_of_insert {q : Query} {insert : Insert} (h : q.insert = some insert) :
    q.kind = .insert := by
  simp [kind, isInsert, h]

theorem InsertsEmptyRow.kind_eq {q : Query} (h : q.InsertsEmptyRow) : q.kind = .insert := by
  obtain ⟨rows, hrows, -⟩ := h
  exact kind_of_insert hrows

/-- A query has faults where it has faults in the common dialect, and where it
asks SQLite for what SQLite refuses. -/
theorem statementFaults_eq_nil_iff : q.statementFaults d = [] ↔
    q.statementFaults .common = [] ∧ (d = .sqlite → ¬q.AliasesTarget ∧ ¬q.InsertsEmptyRow) := by
  have hrows (h : q.kind ≠ .insert) : ¬q.InsertsEmptyRow := fun hempty => h hempty.kind_eq
  unfold statementFaults AliasesTarget
  cases hkind : q.kind with
  | insert =>
    cases d with
    | common => simp
    | mysql => simpa using q.insertFaults_mysql
    | sqlite => simpa using q.insertFaults_sqlite
  | update => simp [q.updateFaults_eq_nil_iff d, hrows (by simp [hkind])]
  | delete => simp [q.deleteFaults_eq_nil_iff d, hrows (by simp [hkind])]
  | select => simp [perm_eq_nil_iff (q.faults_perm d .common), hrows (by simp [hkind])]

/-- **The dialects agree on what compiles.**  What one dialect takes, any
other takes, but that SQLite refuses the alias of the target of an UPDATE or
a DELETE, and refuses to insert a row without columns. -/
theorem isOk_across_dialects :
    (q.statements d).isOk = true ∧ (d' = .sqlite → ¬q.AliasesTarget ∧ ¬q.InsertsEmptyRow)
      ↔ (q.statements d').isOk = true
        ∧ (d = .sqlite → ¬q.AliasesTarget ∧ ¬q.InsertsEmptyRow) := by
  rw [isOk_statements_iff, isOk_statements_iff, q.statementFaults_eq_nil_iff d,
    q.statementFaults_eq_nil_iff d', and_right_comm]

/-- Two rows, the first without columns. -/
def unevenRows : Query :=
  { Query.empty with
    table := some (.name "t")
    insert := some (.rows [[], [⟨"a", .value (.int 1)⟩]]) }

/-- SQLite refuses more than aliases: the first of these rows, to which the
common dialect writes a DEFAULT. -/
theorem statements_of_unevenRows :
    (unevenRows.statements .common).isOk = true ∧ ¬unevenRows.AliasesTarget
      ∧ error? (unevenRows.statements .sqlite) = some .noInsertedColumns := by
  refine ⟨rfl, ?_, rfl⟩
  rintro ⟨-, halias⟩
  exact halias rfl

end Query

end SqlTree
