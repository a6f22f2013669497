import Mathlib.Data.Set.Function
import SqlTree.Proofs.Dialects.Agreement
import SqlTree.Proofs.Faults.Acceptance
import SqlTree.Proofs.Renaming.Sharing
import SqlTree.Renaming.NameLists

/-!
# Renamed queries

A renaming changes names and nothing else.  As SELECTs, a tree and the
renamed tree are alike, whatever the names are: names are written between
quotes, so none of them makes a text empty, and nothing else about a name is
looked at.

Written columns are compared with each other: no row may write one twice, and
rows are filled up with DEFAULT in the columns that they do not have.  So the
renamed rows are the same rows where no two columns get one name.  Then a
query compiles exactly where the renamed query does, and both bind the same
values (`Query.statements_rename`).
-/

set_option autoImplicit false

namespace SqlTree

/-! ## Trees with any names -/

/-- Trees that may differ in every name of a table and of a column, in one
dialect. -/
def Likeness.anyNames (d : Dialect) : Likeness where
  left := d
  right := d
  texts := .sameEmptiness
  Names _ _ := True
  Aliases := Eq
  names_hold {n n'} _ := by
    show (d.quoteIdentifier n).isEmpty = (d.quoteIdentifier n').isEmpty
    rw [Dialect.isEmpty_quoteIdentifier, Dialect.isEmpty_quoteIdentifier]
  aliases_hold := by
    rintro a _ rfl
    rfl

section

variable {Context : Type} (rules : RenamingRules Context) (d : Dialect)

/-- An alias is no name. -/
theorem Likeness.anyNames_aliases (aliasName : Option String) :
    Option.Rel (Likeness.anyNames d).Aliases aliasName aliasName := by
  cases aliasName with
  | none => exact .none
  | some a => exact .some rfl

/-- A text and itself are both empty or both not. -/
theorem Statement.like_anyNames (s : Statement) : s.Like (Likeness.anyNames d) s :=
  ⟨rfl, rfl⟩

theorem Expression.like_anyNames (e : Expression) : e.Like (Likeness.anyNames d) e :=
  ⟨rfl, rfl⟩

mutual

theorem Column.like_renamed (ctx : Context) : ∀ c : Column,
    c.Like (Likeness.anyNames d) (c.renamed rules ctx)
  | .name _ => ⟨_, rfl, trivial⟩
  | .query q => ⟨_, rfl, q.like_renamed ctx⟩
  | .expr e => ⟨_, rfl, e.like_anyNames d⟩

theorem Operand.like_renamed (ctx : Context) : ∀ o : Operand,
    o.Like (Likeness.anyNames d) (o.renamed rules ctx)
  | .value _ => rfl
  | .query q => ⟨_, rfl, q.like_renamed ctx⟩
  | .expr e => ⟨_, rfl, e.like_anyNames d⟩

theorem Operand.like_renamedAll (ctx : Context) : ∀ os : List Operand,
    Operand.LikeAll (Likeness.anyNames d) os (Operand.renamedAll rules ctx os)
  | [] => rfl
  | o :: os => ⟨_, _, rfl, o.like_renamed ctx, Operand.like_renamedAll ctx os⟩

theorem Operand.like_renamedSlot (ctx : Context) : ∀ o : Option Operand,
    Operand.LikeSlot (Likeness.anyNames d) o (Operand.renamedSlot rules ctx o)
  | none => rfl
  | some o => ⟨_, rfl, o.like_renamed ctx⟩

theorem Table.like_renamed (ctx : Context) : ∀ t : Table,
    t.Like (Likeness.anyNames d) (t.renamed rules ctx)
  | .name _ => ⟨_, rfl, trivial⟩
  | .query q => ⟨_, rfl, q.like_renamed ctx⟩
  | .raw s => ⟨_, rfl, s.like_anyNames d⟩

theorem Table.like_renamedSlot (ctx : Context) : ∀ t : Option Table,
    Table.LikeSlot (Likeness.anyNames d) t (Table.renamedSlot rules ctx t)
  | none => rfl
  | some t => ⟨_, rfl, t.like_renamed ctx⟩

theorem Subquery.like_renamed (ctx : Context) : ∀ s : Subquery,
    s.Like (Likeness.anyNames d) (s.renamed rules ctx)
  | .query q => ⟨_, rfl, q.like_renamed ctx⟩
  | .raw s => ⟨_, rfl, s.like_anyNames d⟩

theorem Members.like_renamed (ctx : Context) : ∀ vs : Members,
    vs.Like (Likeness.anyNames d) (vs.renamed rules ctx)
  | .list vs => ⟨_, rfl, Operand.like_renamedAll ctx vs⟩
  | .select s => ⟨_, rfl, s.like_renamed ctx⟩

theorem Aggregate.like_renamed (ctx : Context) : ∀ a : Aggregate,
    a.Like (Likeness.anyNames d) (a.renamed rules ctx)
  | ⟨_, c⟩ => ⟨rfl, rfl, c.like_renamed ctx⟩

theorem Selectable.like_renamed (ctx : Context) : ∀ s : Selectable,
    s.Like (Likeness.anyNames d) (s.renamed rules ctx)
  | .column c => ⟨_, rfl, c.like_renamed ctx⟩
  | .aggregate a => ⟨_, rfl, a.like_renamed ctx⟩

theorem SelectItem.like_renamed (ctx : Context) : ∀ item : SelectItem,
    item.Like (Likeness.anyNames d) (item.renamed rules ctx)
  | ⟨aliasName, s⟩ => ⟨Likeness.anyNames_aliases d aliasName, s.like_renamed ctx⟩

theorem SelectItem.like_renamedAll (ctx : Context) : ∀ items : List SelectItem,
    SelectItem.LikeAll (Likeness.anyNames d) items (SelectItem.renamedAll rules ctx items)
  | [] => rfl
  | item :: items => ⟨_, _, rfl, item.like_renamed ctx, SelectItem.like_renamedAll ctx items⟩

theorem Criterion.like_renamed (ctx : Context) : ∀ c : Criterion,
    c.Like (Likeness.anyNames d) (c.renamed rules ctx)
  | .value c _ v _ => ⟨_, _, rfl, c.like_renamed ctx, v.like_renamed ctx⟩
  | .columns l _ r _ => ⟨_, _, rfl, l.like_renamed ctx, r.like_renamed ctx⟩
  | .between c low high _ _ =>
    ⟨_, _, _, rfl, c.like_renamed ctx, low.like_renamed ctx, high.like_renamed ctx⟩
  | .group cs _ _ => ⟨_, rfl, Criterion.like_renamedAll ctx cs⟩
  | .exists s _ _ => ⟨_, rfl, s.like_renamed ctx⟩
  | .member c vs _ _ => ⟨_, _, rfl, c.like_renamed ctx, vs.like_renamed ctx⟩
  | .null c _ _ => ⟨_, rfl, c.like_renamed ctx⟩
  | .raw s _ => ⟨_, rfl, s.like_anyNames d⟩

theorem Criterion.like_renamedAll (ctx : Context) : ∀ cs : List Criterion,
    Criterion.LikeAll (Likeness.anyNames d) cs (Criterion.renamedAll rules ctx cs)
  | [] => rfl
  | c :: cs => ⟨_, _, rfl, c.like_renamed ctx, Criterion.like_renamedAll ctx cs⟩

theorem Order.like_renamed (ctx : Context) : ∀ o : Order,
    o.Like (Likeness.anyNames d) (o.renamed rules ctx)
  | .column c _ => ⟨_, rfl, c.like_renamed ctx⟩
  | .nulls c _ => ⟨_, rfl, c.like_renamed ctx⟩
  | .explicit c vs _ =>
    ⟨_, _, rfl, c.like_renamed ctx, Operand.like_renamedAll ctx vs, .inr .rfl⟩
  | .random => ⟨rfl, rfl⟩

theorem Order.like_renamedAll (ctx : Context) : ∀ os : List Order,
    Order.LikeAll (Likeness.anyNames d) os (Order.renamedAll rules ctx os)
  | [] => rfl
  | o :: os => ⟨_, _, rfl, o.like_renamed ctx, Order.like_renamedAll ctx os⟩

theorem Join.like_renamed (ctx : Context) : ∀ j : Join,
    j.Like (Likeness.anyNames d) (j.renamed rules ctx)
  | ⟨_, t, aliasName, cs⟩ =>
    ⟨rfl, t.like_renamed ctx, Likeness.anyNames_aliases d aliasName,
      Criterion.like_renamedAll ctx cs⟩

theorem Join.like_renamedAll (ctx : Context) : ∀ js : List Join,
    Join.LikeAll (Likeness.anyNames d) js (Join.renamedAll rules ctx js)
  | [] => rfl
  | j :: js => ⟨_, _, rfl, j.like_renamed ctx, Join.like_renamedAll ctx js⟩

/-- As SELECTs, a tree and the renamed tree are alike. -/
theorem Query.like_renamed (around : Context) : ∀ q : Query,
    q.Like (Likeness.anyNames d) (q.renamed rules around)
  | ⟨table, aliasName, select, _, _, _, joins, criteria, order, offset, limit⟩ =>
    ⟨Table.like_renamedSlot _ table, Likeness.anyNames_aliases d aliasName,
      SelectItem.like_renamedAll _ select, Join.like_renamedAll _ joins,
      Criterion.like_renamedAll _ criteria, Order.like_renamedAll _ order,
      Operand.like_renamedSlot _ offset, Operand.like_renamedSlot _ limit, .inr rfl⟩

end

/-! ## Written columns -/

/-- Columns that are written, and their new names, where no two of them get
one name. -/
def Likeness.renamedColumns {columns : Set String} {rename : String → String}
    (hinj : Set.InjOn rename columns) : (Likeness.anyNames d).Correspondence where
  Holds c c' := c ∈ columns ∧ c' = rename c
  names _ := trivial
  unique := by
    rintro a _ b _ ⟨ha, rfl⟩ ⟨hb, rfl⟩
    exact (hinj.eq_iff ha hb).symm

/-- Rows whose entries correspond repeat a column both or not. -/
theorem Row.repeatedAfter_eq_none_iff_of_like {L : Likeness} {C : L.Correspondence} {row row' : Row}
    (h : List.Forall₂ (Assignment.Like C) row row') {seen seen' : List String}
    (hseen : List.Forall₂ C.Holds seen seen') :
    Row.repeatedAfter seen row = none ↔ Row.repeatedAfter seen' row' = none := by
  induction h generalizing seen seen' with
  | nil => rfl
  | @cons a a' row row' ha _ ih =>
    have hmem := C.mem_iff ha.column hseen
    unfold Row.repeatedAfter
    by_cases hrepeated : a.column ∈ seen
    · simp [if_pos hrepeated, if_pos (hmem.mp hrepeated)]
    · rw [if_neg hrepeated, if_neg (mt hmem.mpr hrepeated)]
      exact ih (List.rel_append hseen (.cons ha.column .nil))

section

variable {rules d} {ctx : Context} {columns : Set String}
  (hinj : Set.InjOn (rules.newName .target ctx) columns)

theorem Row.entries_renamed {row : Row} (h : ∀ a ∈ row, a.column ∈ columns) :
    List.Forall₂ (Assignment.Like (Likeness.renamedColumns d hinj)) row
      (Assignment.renamedAll rules ctx row) := by
  induction row with
  | nil => exact .nil
  | cons a row ih =>
    obtain ⟨column, v⟩ := a
    rw [List.forall_mem_cons] at h
    exact .cons ⟨⟨h.1, rfl⟩, v.like_renamed rules d ctx⟩ (ih h.2)

include hinj in
/-- A renamed row repeats a column where the row does. -/
theorem Row.repeatedAfter_renamed {row : Row} (h : ∀ a ∈ row, a.column ∈ columns) :
    Row.repeatedAfter [] row = none
      ↔ Row.repeatedAfter [] (Assignment.renamedAll rules ctx row) = none :=
  Row.repeatedAfter_eq_none_iff_of_like (Row.entries_renamed (d := .common) hinj h) .nil

/-- A row that writes its columns once is the same row after the renaming. -/
theorem Row.like_renamed {row : Row} (h : ∀ a ∈ row, a.column ∈ columns)
    (honce : Row.repeatedAfter [] row = none) :
    Row.Like (Likeness.renamedColumns d hinj) row (Assignment.renamedAll rules ctx row) where
  entries := Row.entries_renamed hinj h
  repeats := by rw [honce, (Row.repeatedAfter_renamed hinj h).mp honce]

end

/-- Renamed rows are the rows renamed one by one. -/
theorem Assignment.renamedRows_eq_map (ctx : Context) (rows : List Row) :
    Assignment.renamedRows rules ctx rows = rows.map (Assignment.renamedAll rules ctx) := by
  induction rows with
  | nil => rfl
  | cons row rows ih => rw [Assignment.renamedRows, ih, List.map_cons]

/-- No inserted row writes a column twice, and neither do the assignments
where nothing is inserted. -/
structure Query.WritesOnce (q : Query) : Prop where
  rows : ∀ rows, q.insert = some (.rows rows) → ∀ row ∈ rows, Row.repeatedAfter [] row = none
  update : q.insert = none → Row.repeatedAfter [] q.update = none

namespace Query

variable {q : Query}

/-- What compiles writes no column twice. -/
theorem writesOnce_of_isOk (h : (q.statements d).isOk = true) : q.WritesOnce := by
  rw [isOk_statements_iff, statementFaults_eq_nil_iff] at h
  have hfaults := h.1
  unfold statementFaults kind isInsert isUpdate at hfaults
  constructor
  · intro rows hrows row hrow
    have hinsert : q.insertFaults .common = [] := by simpa [hrows] using hfaults
    have hne : rows ≠ [] := List.ne_nil_of_mem hrow
    have hsound : q.rowsFaults .common rows = [] := by
      simpa [insertFaults, hrows, hne] using hinsert
    exact (((q.rowsFaults_eq_nil_iff .common rows).mp hsound).2.2 row hrow).repeats
  · intro hnone
    by_cases hupdate : q.update = []
    · rw [hupdate]
      rfl
    · have hassigned : q.updateFaults .common = [] := by simpa [hnone, hupdate] using hfaults
      simp only [updateFaults, List.append_eq_nil_iff] at hassigned
      simpa [Row.repeatFaults] using hassigned.2.2.2.1

/-- The assignments of a query that inserts are not looked at. -/
theorem statements_withoutUpdate (h : q.insert ≠ none) :
    ({ q with update := [] } : Query).statements d = q.statements d := by
  obtain ⟨insert, hinsert⟩ := Option.ne_none_iff_exists'.mp h
  simp [statements, kind, isInsert, hinsert, compileInsert, compileInsertPerRow,
    compileInsertTogether, compileRows, compileInsertSelect, compileInsertTarget]

end Query

end

/-! ## Queries and their renamed forms -/

/-- The columns of the rows that a query inserts. -/
def Query.insertedColumns (q : Query) : Set String :=
  {column | ∃ rows, q.insert = some (.rows rows) ∧ column ∈ allColumns rows}

/-- The columns that a query assigns values to. -/
def Query.assignedColumns (q : Query) : Set String :=
  {column | ∃ a ∈ q.update, a.column = column}

namespace Query

section

variable {Context : Type} {rules : RenamingRules Context} {around : Context} {q : Query}

/-- The new name of a column that a query writes. -/
abbrev newTarget (rules : RenamingRules Context) (around : Context) (q : Query) :
    String → String :=
  rules.newName .target (rules.enter q around)

theorem insert_renamed : (q.renamed rules around).insert
    = Insert.renamedSlot rules (rules.enter q around) q.insert := by
  cases q
  rfl

theorem update_renamed : (q.renamed rules around).update
    = Assignment.renamedAll rules (rules.enter q around) q.update := by
  cases q
  rfl

theorem delete_renamed : (q.renamed rules around).delete = q.delete := by
  cases q
  rfl

theorem column_mem_insertedColumns {rows : List Row} (hrows : q.insert = some (.rows rows))
    {row : Row} (hrow : row ∈ rows) : ∀ a ∈ row, a.column ∈ q.insertedColumns :=
  fun a ha => ⟨rows, hrows, mem_allColumns.mpr ⟨row, hrow, a, ha, rfl⟩⟩

theorem column_mem_assignedColumns : ∀ a ∈ q.update, a.column ∈ q.assignedColumns :=
  fun a ha => ⟨a, ha, rfl⟩

section

variable (hinserted : Set.InjOn (q.newTarget rules around) q.insertedColumns)
  (hassigned : Set.InjOn (q.newTarget rules around) q.assignedColumns)

include hinserted hassigned

/-- A renamed query writes its columns once where the query does. -/
theorem writesOnce_renamed : q.WritesOnce ↔ (q.renamed rules around).WritesOnce := by
  have hupdate : Row.repeatedAfter [] q.update = none
      ↔ Row.repeatedAfter [] (q.renamed rules around).update = none := by
    rw [update_renamed]
    exact Row.repeatedAfter_renamed hassigned column_mem_assignedColumns
  have hnone : q.insert = none ↔ (q.renamed rules around).insert = none := by
    rw [insert_renamed]
    cases q.insert <;> simp [Insert.renamedSlot]
  constructor
  · rintro ⟨hrows, hwrites⟩
    refine ⟨fun rows' hrows' => ?_, fun h => hupdate.mp (hwrites (hnone.mpr h))⟩
    rw [insert_renamed] at hrows'
    cases hinsert : q.insert with
    | none =>
      rw [hinsert] at hrows'
      cases hrows'
    | some insert =>
      cases insert with
      | select source =>
        rw [hinsert] at hrows'
        cases hrows'
      | rows rows =>
        rw [hinsert] at hrows'
        obtain rfl : Assignment.renamedRows rules _ rows = rows' := by
          simpa [Insert.renamedSlot, Insert.renamed] using hrows'
        rw [Assignment.renamedRows_eq_map, List.forall_mem_map]
        intro row hrow
        exact (Row.repeatedAfter_renamed hinserted
          (column_mem_insertedColumns hinsert hrow)).mp (hrows rows hinsert row hrow)
  · rintro ⟨hrows, hwrites⟩
    refine ⟨fun rows hinsert row hrow => ?_, fun h => hupdate.mpr (hwrites (hnone.mp h))⟩
    have hrenamed := hrows (Assignment.renamedRows rules (rules.enter q around) rows) (by
      rw [insert_renamed, hinsert]
      rfl)
    rw [Assignment.renamedRows_eq_map, List.forall_mem_map] at hrenamed
    exact (Row.repeatedAfter_renamed hinserted
      (column_mem_insertedColumns hinsert hrow)).mpr (hrenamed row hrow)

include hinserted in
omit hassigned in
/-- What a query inserts, into columns that it writes once, is the same after
the renaming. -/
theorem insert_like_renamed (d : Dialect) (honce : q.WritesOnce) :
    Option.Rel (Insert.Like (Likeness.renamedColumns d hinserted)) q.insert
      (q.renamed rules around).insert := by
  rw [insert_renamed]
  cases hinsert : q.insert with
  | none => exact .none
  | some insert =>
    refine .some ?_
    cases insert with
    | rows rows =>
      refine .rows ?_
      rw [Assignment.renamedRows_eq_map, List.forall₂_map_right_iff, List.forall₂_same]
      intro row hrow
      exact Row.like_renamed hinserted (column_mem_insertedColumns hinsert hrow)
        (honce.rows rows hinsert row hrow)
    | select source =>
      obtain ⟨columns, select⟩ := source
      refine .select ?_ (select.like_renamed rules d _)
      cases columns with
      | none => exact .none
      | some columns =>
        refine .some ?_
        rw [List.forall₂_map_right_iff, List.forall₂_same]
        exact fun _ _ => trivial

/-- A query that writes its columns once, and the renamed query, fail with the
same error or bind the same values. -/
theorem statements_renamed_agree (d : Dialect) (honce : q.WritesOnce) :
    StatementsAgree .sameEmptiness (q.statements d) ((q.renamed rules around).statements d) := by
  have hselect := q.like_renamed rules d around
  have hinsert := insert_like_renamed hinserted d honce
  have hdelete : q.delete = (q.renamed rules around).delete := delete_renamed.symm
  have halike : (Likeness.anyNames d).WritesAlike := .rfl
  have htarget : q.TargetsAlike (Likeness.anyNames d) (q.renamed rules around) := by
    refine .inr ⟨halike, ?_⟩
    cases q
    rfl
  by_cases hnone : q.insert = none
  · have hwrites : q.WritesLike (Likeness.renamedColumns d hassigned)
        (q.renamed rules around) :=
      { select := hselect
        insert := by
          rw [insert_renamed, hnone]
          exact .none
        update := by
          rw [update_renamed]
          exact Row.like_renamed hassigned column_mem_assignedColumns (honce.update hnone)
        delete_eq := hdelete }
    exact hwrites.statements_mirror (.inl halike) fun _ => htarget
  · -- The assignments may repeat a column here, which nothing reports.
    have hsome : (q.renamed rules around).insert ≠ none := by
      rw [insert_renamed]
      cases hq : q.insert with
      | none => exact absurd hq hnone
      | some insert => exact Option.some_ne_none _
    have hwrites : ({ q with update := [] } : Query).WritesLike
        (Likeness.renamedColumns d hinserted)
        { q.renamed rules around with update := [] } :=
      { select := by
          cases q
          exact hselect
        insert := hinsert
        update := ⟨.nil, rfl⟩
        delete_eq := hdelete }
    rw [← statements_withoutUpdate d hnone, ← statements_withoutUpdate d hsome]
    exact hwrites.statements_mirror (.inl halike) fun _ => htarget

end

/-- **A renaming changes neither what compiles nor what is bound.**  Let no
two columns of the inserted rows get one name, and no two assigned columns
either.  Then a query compiles exactly where the renamed query does, and the
statements of the two are as many and bind the same values under the same
names in the same order. -/
theorem statements_rename (rules : RenamingRules Context) (q : Query) (d : Dialect)
    (hinserted : Set.InjOn (q.newTarget rules rules.root) q.insertedColumns)
    (hassigned : Set.InjOn (q.newTarget rules rules.root) q.assignedColumns) :
    (((rules.rename q).statements d).isOk = true ↔ (q.statements d).isOk = true)
      ∧ ∀ ss ss', q.statements d = .ok ss → (rules.rename q).statements d = .ok ss' →
        List.Forall₂ Statement.SameBindings ss ss' := by
  rw [rules.rename_eq_renamed q]
  have honce := writesOnce_renamed hinserted hassigned
  have hagree := fun h => statements_renamed_agree hinserted hassigned d h
  refine ⟨⟨fun h => ?_, fun h => ?_⟩, fun ss ss' hss hss' => ?_⟩
  · rwa [(hagree (honce.mpr (writesOnce_of_isOk d h))).isOk_eq]
  · rwa [← (hagree (writesOnce_of_isOk d h)).isOk_eq]
  · have hok : (q.statements d).isOk = true := by rw [hss]; rfl
    have hstatements := hagree (writesOnce_of_isOk d hok)
    rw [hss, hss'] at hstatements
    cases hstatements with
    | ok h => exact h.imp fun _ _ hs => hs.bindings_eq

end

/-- Two rows with different columns, and a sub-query as a value. -/
def swappedRows : Query :=
  { Query.empty with
    table := some (.name "t")
    insert := some (.rows
      [[⟨"a", .value (.int 1)⟩, ⟨"b", .query { Query.empty with
          table := some (.name "t")
          select := [⟨none, .column (.name "a")⟩]
          criteria := [.value (.name "b") "LIKE" (.value (.text "x%")) .and] }⟩],
        [⟨"b", .value (.int 2)⟩, ⟨"c", .value (.int 3)⟩]]) }

/-- Two columns change their names with each other, where they are written. -/
def columnSwap : NameLists where
  tables := [("t", "it's?")]
  columns := [("b", "a")]
  targets := [("a", "b"), ("b", "a")]
  depth := none

theorem swappedRows_rename :
    Set.InjOn (swappedRows.newTarget columnSwap.rules 0) swappedRows.insertedColumns
      ∧ Set.InjOn (swappedRows.newTarget columnSwap.rules 0) swappedRows.assignedColumns
      ∧ (swappedRows.statements .mysql).isOk = true
      ∧ (((columnSwap.rules.rename swappedRows).statements .mysql).isOk = true
          ↔ (swappedRows.statements .mysql).isOk = true)
      ∧ ∀ ss ss', swappedRows.statements .mysql = .ok ss →
          (columnSwap.rules.rename swappedRows).statements .mysql = .ok ss' →
            List.Forall₂ Statement.SameBindings ss ss' := by
  have hinserted : Set.InjOn (swappedRows.newTarget columnSwap.rules 0)
      swappedRows.insertedColumns := by
    rintro x ⟨rows, hrows, hx⟩ y ⟨_, hrows', hy⟩ heq
    cases hrows
    cases hrows'
    have hcolumns : ∀ x ∈ ["a", "b", "c"], ∀ y ∈ ["a", "b", "c"],
        swappedRows.newTarget columnSwap.rules 0 x = swappedRows.newTarget columnSwap.rules 0 y →
          x = y := by decide
    exact hcolumns x hx y hy heq
  have hassigned : Set.InjOn (swappedRows.newTarget columnSwap.rules 0)
      swappedRows.assignedColumns := by
    rintro x ⟨a, ha, -⟩
    cases ha
  exact ⟨hinserted, hassigned, rfl, statements_rename columnSwap.rules swappedRows .mysql
    hinserted hassigned⟩

end Query

end SqlTree
