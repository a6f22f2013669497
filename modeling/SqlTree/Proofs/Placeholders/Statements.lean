import SqlTree.Compile.Write
import SqlTree.Proofs.Placeholders.Alignment

/-!
# Statements and their values

Each statement of a query has a placeholder for each of its positional
values, and becomes the statement of the direct writer when they are filled
in from left to right.

A row writes its values in the order of the columns of all rows, which need
not be its own.
-/

set_option autoImplicit false

namespace SqlTree

open Compiler

variable (d : Dialect) (literal : Value → String)

/-! ## Rows -/

/-- A row that is not refused has collected nothing yet. -/
theorem Row.checkUnique_collects (row : Row) : row.checkUnique.Collects fun _ vs => vs = [] := by
  unfold Row.checkUnique
  split
  · exact .throw _
  · exact .pure rfl

/-- The value that a row writes is one of its values. -/
theorem Row.allAligned_value {row : Row} {column : String} {v : Operand}
    (h : AllAligned (Assignment.verbatimAll row)) (hv : row.value? column = some v) :
    AllAligned v.verbatim := by
  induction row with
  | nil => cases hv
  | cons a row ih =>
    obtain ⟨name, value⟩ := a
    obtain ⟨hvalue, hrow⟩ := List.forall_mem_append.mp h
    rw [Row.value?] at hv
    split at hv
    · cases hv
      exact hvalue
    · exact ih hrow hv

theorem Row.compileEntry_writes {row : Row}
    (h : AllAligned (Assignment.verbatimAll row)) (column : String) :
    WritesTo literal (row.compileEntry d column) (row.writtenEntry d literal column) := by
  unfold Row.compileEntry Row.writtenEntry
  cases hv : row.value? column with
  | none => exact .pure (.plain (by decide))
  | some v => exact v.compile_writes d (Row.allAligned_value h hv)

/-- Texts of a list of parts, from the texts of the parts. -/
theorem forall₂_map {literal : Value → String} {α : Type} {c : α → Compiler String}
    {text : α → String} {xs : List α}
    (h : ∀ x ∈ xs, WritesTo literal (c x) (text x)) :
    List.Forall₂ (WritesTo literal) (xs.map c) (xs.map text) := by
  rw [List.forall₂_map_left_iff, List.forall₂_map_right_iff, List.forall₂_same]
  exact h

theorem Row.compileTuple_writes (columns : List String) {row : Row}
    (h : AllAligned (Assignment.verbatimAll row)) :
    WritesTo literal (row.compileTuple d columns) (row.writtenTuple d literal columns) := by
  refine row.checkUnique_collects.bind ?_
  intro _ us hus
  subst hus
  have hentries := forall₂_map fun column (_ : column ∈ columns) =>
    Row.compileEntry_writes d literal h column
  exact (WritesTo.commaList hentries).bind fun _ _ hlist =>
    .pure ((hlist.plain_append "(").append_plain ")")

theorem Row.allAligned_of_mem {rows : List Row} (h : AllAligned (Assignment.verbatimRows rows)) :
    ∀ row ∈ rows, AllAligned (Assignment.verbatimAll row) := by
  induction rows with
  | nil => exact fun _ hrow => absurd hrow List.not_mem_nil
  | cons row rows ih =>
    obtain ⟨hrow, hrows⟩ := List.forall_mem_append.mp h
    exact List.forall_mem_cons.mpr ⟨hrow, ih hrows⟩

theorem Assignment.compileAll_writes {row : Row} (h : AllAligned (Assignment.verbatimAll row)) :
    List.Forall₂ (WritesTo literal) (row.map (Assignment.compile d))
      (row.map (Assignment.written d literal)) := by
  induction row with
  | nil => exact .nil
  | cons a row ih =>
    obtain ⟨name, value⟩ := a
    obtain ⟨hvalue, hrow⟩ := List.forall_mem_append.mp h
    have hcolumn : IsPlain (d.quoteIdentifier name ++ " = ") :=
      (d.isPlain_quoteIdentifier name).append (by decide)
    have hassignment : WritesTo literal _ _ := value.compile_writes d hvalue
    exact .cons (hassignment.bind fun _ _ hv => .pure (hv.plain_append _ hcolumn)) (ih hrow)

/-- A list of quoted columns is plain. -/
theorem Dialect.isPlain_columnList (columns : List String) :
    IsPlain (d.columnList columns) := by
  induction columns with
  | nil =>
    have hempty : IsPlain "" := by decide
    exact hempty
  | cons column columns ih =>
    have hcolumn := d.isPlain_quoteIdentifier column
    cases columns with
    | nil => simpa [Dialect.columnList] using hcolumn
    | cons next columns =>
      rw [Dialect.columnList, List.map_cons, List.map_cons, String.intercalate_cons_cons]
      exact (hcolumn.append (by decide)).append ih

/-! ## Statements of a query -/

/-- The statement becomes `text` when its values are filled in. -/
abbrev StatementFills (s : Statement) (text : String) : Prop :=
  FillsTo literal s.sql s.bindings.positional text

namespace Query

/-- The target of an INSERT is written before its columns. -/
theorem compileInsertTarget_writes {q : Query}
    (h : AllAligned (Table.verbatimSlot q.table)) :
    WritesTo literal (q.compileInsertTarget d)
      (targetLine d "INSERT INTO" (Table.writtenOption d literal q.table) none) :=
  WritesTo.target (by decide) .noTargetTable (Table.compileOption_writes d q.table h) none

theorem compileRows_fills {q : Query}
    (htable : AllAligned (Table.verbatimSlot q.table)) {rows : List Row}
    (hrows : ∀ row ∈ rows, AllAligned (Assignment.verbatimAll row)) {s : Statement}
    (ok : q.compileRows d rows = .ok s) :
    StatementFills literal s (q.writtenRows d literal rows) := by
  refine WritesTo.statement ?_ ok
  refine (compileInsertTarget_writes d literal htable).bind ?_
  intro target us htarget
  refine .check ?_
  have htuples := forall₂_map fun row hrow =>
    Row.compileTuple_writes d literal (allColumns rows) (hrows row hrow)
  refine (WritesTo.commaList htuples).bind ?_
  intro tuples vs hlist
  refine .pure ?_
  have hcolumns := d.isPlain_columnList (allColumns rows)
  have hhead := ((htarget.append_plain " (").append_plain _ hcolumns).append_plain ")\nVALUES "
  exact hhead.append hlist

theorem compileInsertSelect_fills {q : Query} (htable : AllAligned (Table.verbatimSlot q.table))
    {source : InsertSelect} (hsource : AllAligned source.verbatim) {s : Statement}
    (ok : q.compileInsertSelect d source = .ok s) :
    StatementFills literal s (q.writtenInsertSelect d literal source) := by
  obtain ⟨columns, select⟩ := source
  refine WritesTo.statement ?_ ok
  refine (compileInsertTarget_writes d literal htable).bind ?_
  intro target us htarget
  have hselect : WritesTo literal _ _ := select.compileSelect_writes d hsource
  refine (nested_collects hselect).bind ?_
  intro nested vs ⟨hvs, hnested⟩
  subst hvs
  refine (WritesTo.inline hnested).bind ?_
  intro sql ws hsql
  refine .pure ?_
  rw [List.append_nil]
  cases columns with
  | none => exact ((htarget.append_plain "").append_plain "\n").append hsql
  | some columns =>
    have hcolumns : IsPlain (" (" ++ d.columnList columns ++ ")") :=
      (IsPlain.append (by decide) (d.isPlain_columnList columns)).append (by decide)
    exact ((htarget.append_plain _ hcolumns).append_plain "\n").append hsql

/-- The statements of rows that are compiled one by one. -/
theorem forall₂_of_mapM {α : Type} {f : α → Except QueryError Statement} {text : α → String}
    {xs : List α} (h : ∀ x ∈ xs, ∀ s, f x = .ok s → StatementFills literal s (text x))
    {ss : List Statement} (ok : xs.mapM f = .ok ss) :
    List.Forall₂ (StatementFills literal) ss (xs.map text) := by
  have hcompiled := forall₂_of_mapM_eq_ok ok
  clear ok
  induction hcompiled with
  | nil => exact .nil
  | cons hs _ ih =>
    obtain ⟨hx, hxs⟩ := List.forall_mem_cons.mp h
    exact .cons (hx _ hs) (ih hxs)

/-- An INSERT that takes one statement, or none where it has no rows. -/
theorem compileInsertTogether_fills {q : Query} (htable : AllAligned (Table.verbatimSlot q.table))
    (hinsert : AllAligned (Insert.verbatimSlot q.insert)) {ss : List Statement}
    (ok : q.compileInsertTogether d = .ok ss) :
    List.Forall₂ (StatementFills literal) ss (q.writtenInsertTogether d literal) := by
  unfold compileInsertTogether at ok
  unfold writtenInsertTogether
  split at ok
  next => cases ok
  next hrows =>
    cases ok
    rw [hrows]
    exact .nil
  next rows hne hrows =>
    obtain ⟨s, hs, hpure⟩ := exists_of_bind_eq_ok ok
    cases hpure
    rw [hrows] at hinsert
    have hnonempty : rows.isEmpty = false := by
      cases rows with
      | nil => exact absurd rfl hne
      | cons => rfl
    simp only [hrows, hnonempty]
    exact .cons (compileRows_fills d literal htable (Row.allAligned_of_mem hinsert) hs) .nil
  next source hsource =>
    obtain ⟨s, hs, hpure⟩ := exists_of_bind_eq_ok ok
    cases hpure
    rw [hsource] at hinsert
    rw [hsource]
    exact .cons (compileInsertSelect_fills d literal htable hinsert hs) .nil

theorem compileInsert_fills {q : Query} (htable : AllAligned (Table.verbatimSlot q.table))
    (hinsert : AllAligned (Insert.verbatimSlot q.insert)) {ss : List Statement}
    (ok : q.compileInsert d = .ok ss) :
    List.Forall₂ (StatementFills literal) ss (q.writtenInsert d literal) := by
  cases d with
  | common => exact compileInsertTogether_fills .common literal htable hinsert ok
  | mysql => exact compileInsertTogether_fills .mysql literal htable hinsert ok
  | sqlite =>
    have hperRow : q.compileInsertPerRow .sqlite = .ok ss := ok
    unfold compileInsertPerRow at hperRow
    split at hperRow
    next rows hrows =>
      rw [hrows] at hinsert
      have hfills := forall₂_of_mapM literal (fun row hrow s hs =>
        compileRows_fills .sqlite literal htable
          (List.forall_mem_singleton.mpr (Row.allAligned_of_mem hinsert row hrow)) hs) hperRow
      simpa only [writtenInsert, hrows] using hfills
    next hother =>
      have htogether := compileInsertTogether_fills .sqlite literal htable hinsert hperRow
      unfold writtenInsert
      split
      next rows _ hrows => exact absurd hrows (hother rows)
      next => exact htogether

/-- The condition, the order and the window of a query that writes. -/
theorem compileClauses_fills {q : Query} (parts : q.PartsAligned) :
    (q.compileClauses d).Collects fun sqls vs =>
      FillsAll literal sqls vs (q.writtenClauses d literal) :=
  clauseParts_collects
    (joinsTo_of_fills (Criterion.compileAll_joins d q.criteria parts.criteria .empty))
    (Order.compileAll_writes d q.order parts.order)
    (WritesTo.window d (Operand.compileOption_writes d q.offset parts.offset)
      (Operand.compileOption_writes d q.limit parts.limit))

theorem checkTargetAlias_collects (aliasName : Option String) (statement : String) :
    (d.checkTargetAlias aliasName statement).Collects fun _ vs => vs = [] := by
  unfold Dialect.checkTargetAlias
  split
  · exact .throw _
  · exact .pure rfl

theorem compileUpdate_fills {q : Query} (parts : q.PartsAligned) {s : Statement}
    (ok : q.compileUpdate d = .ok s) : StatementFills literal s (q.writtenUpdate d literal) := by
  have htarget : WritesTo literal (targetClause d "UPDATE" .noUpdatedTable _ _) _ :=
    WritesTo.target (by decide) _ (Table.compileOption_writes d q.table parts.table) q.tableAlias
  have hassignments : WritesTo literal _ _ :=
    WritesTo.commaList (Assignment.compileAll_writes d literal parts.update)
  refine WritesTo.statement ?_ ok
  refine (checkTargetAlias_collects d _ _).bind ?_
  intro _ us hus
  subst hus
  refine htarget.bind ?_
  intro target us htarget
  refine .check ((Row.checkUnique_collects q.update).bind fun _ ns hns => ?_)
  subst hns
  refine hassignments.bind ?_
  intro assignments vs hset
  refine (compileClauses_fills d literal parts).bind ?_
  intro tail ws htail
  refine .pure ?_
  have hset := hset.plain_append "SET "
  have hlines := FillsAll.cons htarget (.cons hset htail)
  have htext := hlines.intercalate (show IsPlain "\n" by decide)
  simpa only [List.nil_append, List.append_nil, List.append_assoc, writtenUpdate] using htext

theorem compileDelete_fills {q : Query} (parts : q.PartsAligned) {s : Statement}
    (ok : q.compileDelete d = .ok s) : StatementFills literal s (q.writtenDelete d literal) := by
  have htarget : WritesTo literal (targetClause d "DELETE FROM" .noTargetTable _ _) _ :=
    WritesTo.target (by decide) _ (Table.compileOption_writes d q.table parts.table) q.tableAlias
  refine WritesTo.statement ?_ ok
  refine (checkTargetAlias_collects d _ _).bind ?_
  intro _ us hus
  subst hus
  refine htarget.bind ?_
  intro target us htarget
  refine (compileClauses_fills d literal parts).bind ?_
  intro tail vs htail
  refine .pure ?_
  exact FillsAll.intercalate (by decide) (.cons htarget htail)

/-- A query that is no INSERT compiles to a single statement. -/
theorem statements_fill_of_compile {q : Query} {text : String}
    (compiled : ∀ s, q.compile d = .ok s → StatementFills literal s text) {ss : List Statement}
    (ok : (do return [← q.compile d]) = Except.ok ss) :
    List.Forall₂ (StatementFills literal) ss [text] := by
  obtain ⟨s, hs, hpure⟩ := exists_of_bind_eq_ok ok
  cases hpure
  exact .cons (compiled s hs) .nil

/-- Each statement of a query fills to the one of the direct writer. -/
theorem statements_fill {q : Query} (wf : AllAligned q.verbatim) {ss : List Statement}
    (ok : q.statements d = .ok ss) :
    List.Forall₂ (StatementFills literal) ss (q.written d literal) := by
  have parts := q.partsAligned wf
  unfold statements at ok
  unfold written
  cases hkind : q.kind with
  | insert =>
    rw [hkind] at ok
    exact compileInsert_fills d literal parts.table parts.insert ok
  | update =>
    rw [hkind] at ok
    refine statements_fill_of_compile d literal ?_ ok
    intro s hs
    rw [compile, hkind] at hs
    exact compileUpdate_fills d literal parts hs
  | delete =>
    rw [hkind] at ok
    refine statements_fill_of_compile d literal ?_ ok
    intro s hs
    rw [compile, hkind] at hs
    exact compileDelete_fills d literal parts hs
  | select =>
    rw [hkind] at ok
    refine statements_fill_of_compile d literal ?_ ok
    intro s hs
    rw [compile, hkind] at hs
    exact WritesTo.statement (q.compileSelect_writes d wf) hs

/-- **Placeholders and positional values line up.**  Where the texts that a
query brings along have a placeholder for each of their values, so has
every statement that the query compiles to, and every statement ends
outside of quotes.  Filled in from left to right, the statements are those
of the direct writer, which puts each value in its own slot. -/
theorem statements_filled {q : Query} (wf : AllAligned q.verbatim) {ss : List Statement}
    (ok : q.statements d = .ok ss) :
    (∀ s ∈ ss, EndsUnquoted s.sql ∧ s.placeholderCount = s.bindings.positional.length)
      ∧ ss.map (Statement.filled literal) = q.written d literal := by
  have hfills := statements_fill d literal wf ok
  generalize q.written d literal = texts at hfills
  clear ok
  induction hfills with
  | nil => exact ⟨fun _ hs => absurd hs List.not_mem_nil, rfl⟩
  | @cons s text ss texts hs _ ih =>
    obtain ⟨aligned, filled⟩ := ih
    refine ⟨List.forall_mem_cons.mpr ⟨⟨hs.ends, hs.count⟩, aligned⟩, ?_⟩
    rw [List.map_cons, filled, Statement.filled, hs.filled, String.ofList_toList]

/-- Rows of a table whose name holds a quote and a question mark, with a
text of its own among the tests, a list without members, and an order that
FIELD has to turn around. -/
def listing : Query :=
  { Query.empty with
    table := some (.name "it's?")
    tableAlias := some "a"
    criteria :=
      [.value (.name "a.name") "LIKE" (.value (.text "x%")) .and,
        .group [.group [] true .and, .raw ⟨"k = '?' AND n > ?", .ofValues [.int 3]⟩ .and,
          .member (.name "id") (.list []) false .or] true .or,
        .exists (.query { Query.empty with
          table := some (.name "b"), limit := some (.value (.int 1)) }) false .and]
    order := [.explicit (.name "kind") [.value (.text "p"), .value (.text "q")] false]
    offset := some (.value (.int 20))
    limit := some (.value (.int 10)) }

/-- The listing with its values in place. -/
def listingText : String :=
  "SELECT *\nFROM `it's?` AS `a`\nWHERE (`a`.`name` LIKE 'x%' ESCAPE '\\' OR "
    ++ "NOT (k = '?' AND n > 3 OR 0)) AND EXISTS (SELECT *\nFROM `b`\nLIMIT 1)\n"
    ++ "ORDER BY FIELD(`kind`, 'q', 'p') DESC\nLIMIT 10\nOFFSET 20"

theorem listing_filled : AllAligned listing.verbatim
    ∧ ∃ ss, listing.statements .mysql = .ok ss
      ∧ (∀ s ∈ ss, EndsUnquoted s.sql ∧ s.placeholderCount = s.bindings.positional.length)
      ∧ ss.map (Statement.filled Value.describe) = [listingText] := by
  have wf : AllAligned listing.verbatim := by decide
  have written : listing.written .mysql Value.describe = [listingText] := by decide +kernel
  rw [← written]
  exact ⟨wf, _, rfl, statements_filled .mysql Value.describe wf rfl⟩

end Query

end SqlTree
