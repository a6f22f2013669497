import SqlTree.Compile.Write
import SqlTree.Proofs.Compile.NamedValues

/-!
# The bindings of statements

`Query.statementSites` lists what a dialect comes across in each statement of
a query: a SELECT has its own sites, and the statements that write have those
of their target, of the values that are written, and of their clauses.  Each
statement binds a name once, to the value that the last of its texts to bind
the name gives to it (`Query.statements_bindLast`).

That follows from the laws of merging, which `Bindings.merging_laws` states
together.
-/

set_option autoImplicit false

namespace SqlTree

open Compiler Bindings

variable (d : Dialect)

/-! ## The sites of statements -/

/-- The sites of the entry of a row in a column. -/
def Row.entrySites (row : Row) (column : String) : List Site :=
  (row.value? column).elim [] (Operand.sites d 0)

/-- The sites of a row, written over all columns. -/
def Row.tupleSites (columns : List String) (row : Row) : List Site :=
  (columns.map (row.entrySites d)).flatten

namespace Query

variable (q : Query)

/-- The sites of rows as one statement. -/
def rowsSites (rows : List Row) : List Site :=
  Table.sitesSlot d 0 q.table ++ (rows.map (Row.tupleSites d (allColumns rows))).flatten

/-- The sites of an INSERT, in each of its statements. -/
def insertSites : List (List Site) :=
  match q.insert with
  | none => []
  | some (.rows rows) =>
    match d with
    | .sqlite => rows.map fun row => q.rowsSites d [row]
    | .common | .mysql => if rows.isEmpty then [] else [q.rowsSites d rows]
  | some (.select source) => [Table.sitesSlot d 0 q.table ++ source.select.sites d 1]

/-- The sites of the condition, the order and the window. -/
def clauseSites : List Site :=
  Criterion.sitesAll d 0 q.criteria ++ ((Order.sitesAll d 0 q.order).flatten
    ++ d.inWindow (Operand.sitesSlot d 0 q.offset) (Operand.sitesSlot d 0 q.limit))

/-- The sites of an UPDATE. -/
def updateSites : List Site :=
  Table.sitesSlot d 0 q.table
    ++ ((q.update.map fun a => a.value.sites d 0).flatten ++ q.clauseSites d)

/-- The sites of a DELETE. -/
def deleteSites : List Site :=
  Table.sitesSlot d 0 q.table ++ q.clauseSites d

/-- The sites of any query, in each of its statements. -/
def statementSites : List (List Site) :=
  match q.kind with
  | .insert => q.insertSites d
  | .update => [q.updateSites d]
  | .delete => [q.deleteSites d]
  | .select => [q.sites d 0]

end Query

/-- The statement binds no name twice, and gives each name the value that the
last text to bind it gives to it. -/
structure BindsLast (texts : List Statement) (s : Statement) : Prop where
  distinct : s.bindings.NamesDistinct
  named : ∀ name value, s.bindings.named? name = some value
    ↔ ∃ before text after, texts = before ++ text :: after
      ∧ text.bindings.last? name = some value
      ∧ ∀ later ∈ after, name ∉ later.bindings.boundNames

theorem Compiler.Brings.bindsLast {texts : List Statement} {c : Compiler String}
    (hc : Brings texts c) {s : Statement} (h : c.statement = .ok s) : BindsLast texts s := by
  obtain ⟨hdistinct, hnamed⟩ := hc.statement h
  refine ⟨hdistinct, fun name value => ?_⟩
  rw [hnamed name, lastGiven?_eq_some_iff]

theorem Row.compileEntry_brings (row : Row) (column : String) :
    Brings (textsAt (row.entrySites d column)) (row.compileEntry d column) := by
  unfold Row.entrySites Row.compileEntry
  cases row.value? column with
  | none => exact .pure "DEFAULT"
  | some v => exact v.compile_brings d 0

theorem Row.checkUnique_brings (row : Row) : Brings [] row.checkUnique := by
  unfold Row.checkUnique
  cases Row.repeatedAfter [] row with
  | none => exact .pure ()
  | some column => exact .throw _

theorem Row.compileTuple_brings (columns : List String) (row : Row) :
    Brings (textsAt (row.tupleSites d columns)) (row.compileTuple d columns) := by
  have hentries : List.Forall₂ Brings ((columns.map (row.entrySites d)).map textsAt)
      (columns.map (row.compileEntry d)) := by
    rw [List.map_map, List.forall₂_map_left_iff, List.forall₂_map_right_iff, List.forall₂_same]
    exact fun column _ => row.compileEntry_brings d column
  unfold Row.tupleSites
  rw [textsAt_flatten]
  exact row.checkUnique_brings.after fun _ => (Brings.commaList hentries).returning _

theorem Assignment.compileAll_brings (row : Row) :
    List.Forall₂ Brings ((row.map fun a => a.value.sites d 0).map textsAt)
      (row.map (Assignment.compile d)) := by
  rw [List.map_map, List.forall₂_map_left_iff, List.forall₂_map_right_iff, List.forall₂_same]
  exact fun a _ => (a.value.compile_brings d 0).returning _

namespace Query

variable (q : Query)

theorem compileInsertTarget_brings :
    Brings (textsAt (Table.sitesSlot d 0 q.table)) (q.compileInsertTarget d) :=
  Table.target_brings d 0 "INSERT INTO" .noTargetTable none q.table

theorem compileRows_bindsLast {rows : List Row} {s : Statement}
    (ok : q.compileRows d rows = .ok s) : BindsLast (textsAt (q.rowsSites d rows)) s := by
  have htuples : List.Forall₂ Brings ((rows.map (Row.tupleSites d (allColumns rows))).map textsAt)
      (rows.map (Row.compileTuple d (allColumns rows))) := by
    rw [List.map_map, List.forall₂_map_left_iff, List.forall₂_map_right_iff, List.forall₂_same]
    exact fun row _ => row.compileTuple_brings d (allColumns rows)
  refine Brings.bindsLast ?_ ok
  unfold rowsSites
  rw [textsAt_append, textsAt_flatten]
  refine (q.compileInsertTarget_brings d).bind fun target => ?_
  exact .check ((Brings.commaList htuples).returning _)

theorem compileInsertSelect_bindsLast {source : InsertSelect} {s : Statement}
    (ok : q.compileInsertSelect d source = .ok s) :
    BindsLast (textsAt (Table.sitesSlot d 0 q.table ++ source.select.sites d 1)) s := by
  refine Brings.bindsLast ?_ ok
  rw [textsAt_append]
  refine (q.compileInsertTarget_brings d).bind fun target => ?_
  refine (source.select.compileSelect_brings d 1).nested ?_
  exact fun s => (Brings.inline s).returning _

/-- One statement is the only one. -/
theorem bindsLast_single {x : Except QueryError Statement} {ss : List Statement}
    {sites : List Site} (h : ∀ s, x = .ok s → BindsLast (textsAt sites) s)
    (ok : (do return [← x]) = Except.ok ss) :
    List.Forall₂ (fun sites s => BindsLast (textsAt sites) s) [sites] ss := by
  obtain ⟨s, hs, hpure⟩ := exists_of_bind_eq_ok ok
  cases hpure
  exact .cons (h s hs) .nil

/-- An INSERT whose rows, if it has any, go together. -/
theorem compileInsertTogether_bindsLast {ss : List Statement}
    (hrows : d = .sqlite → ∀ rows, q.insert ≠ some (.rows rows))
    (ok : q.compileInsertTogether d = .ok ss) :
    List.Forall₂ (fun sites s => BindsLast (textsAt sites) s) (q.insertSites d) ss := by
  unfold compileInsertTogether at ok
  unfold insertSites
  cases hinsert : q.insert with
  | none =>
    rw [hinsert] at ok
    cases ok
  | some insert =>
    rw [hinsert] at ok
    cases insert with
    | select source => exact bindsLast_single (fun _ => q.compileInsertSelect_bindsLast d) ok
    | rows rows =>
      cases rows with
      | nil =>
        cases ok
        cases d <;> exact .nil
      | cons row rows =>
        have hsingle := bindsLast_single (fun _ => q.compileRows_bindsLast d) ok
        cases d with
        | sqlite => exact absurd hinsert (hrows rfl _)
        | common => exact hsingle
        | mysql => exact hsingle

theorem compileInsert_bindsLast {ss : List Statement} (ok : q.compileInsert d = .ok ss) :
    List.Forall₂ (fun sites s => BindsLast (textsAt sites) s) (q.insertSites d) ss := by
  cases d with
  | common => exact q.compileInsertTogether_bindsLast .common nofun ok
  | mysql => exact q.compileInsertTogether_bindsLast .mysql nofun ok
  | sqlite =>
    unfold compileInsert compileInsertPerRow at ok
    simp only at ok
    split at ok
    next rows hinsert =>
      unfold insertSites
      rw [hinsert, List.forall₂_map_left_iff]
      exact (forall₂_of_mapM_eq_ok ok).imp fun row s => q.compileRows_bindsLast .sqlite
    next hrows =>
      exact q.compileInsertTogether_bindsLast .sqlite (fun _ rows => hrows rows) ok

theorem compileClauses_brings : Brings (textsAt (q.clauseSites d)) (q.compileClauses d) := by
  unfold clauseSites
  rw [textsAt_append, textsAt_append, textsAt_flatten, d.textsAt_inWindow]
  exact .clauseParts (Criterion.compileAll_brings d 0 q.criteria .empty)
    (Order.compileAll_brings d 0 q.order) (.window d
      (Operand.boundPart_brings d 0 · q.offset) (Operand.boundPart_brings d 0 · q.limit))

theorem checkTargetAlias_brings (aliasName : Option String) (statement : String) :
    Brings [] (d.checkTargetAlias aliasName statement) := by
  unfold Dialect.checkTargetAlias
  split
  · exact .throw _
  · exact .pure ()

theorem compileUpdate_bindsLast {s : Statement} (ok : q.compileUpdate d = .ok s) :
    BindsLast (textsAt (q.updateSites d)) s := by
  refine Brings.bindsLast ?_ ok
  unfold updateSites
  rw [textsAt_append, textsAt_append, textsAt_flatten]
  refine (checkTargetAlias_brings d q.tableAlias "UPDATE").after fun _ => ?_
  refine (Table.target_brings d 0 "UPDATE" .noUpdatedTable q.tableAlias q.table).bind ?_
  intro target
  refine .check ((Row.checkUnique_brings q.update).after fun _ => ?_)
  refine (Brings.commaList (Assignment.compileAll_brings d q.update)).bind ?_
  intro assignments
  exact (q.compileClauses_brings d).returning _

theorem compileDelete_bindsLast {s : Statement} (ok : q.compileDelete d = .ok s) :
    BindsLast (textsAt (q.deleteSites d)) s := by
  refine Brings.bindsLast ?_ ok
  unfold deleteSites
  rw [textsAt_append]
  refine (checkTargetAlias_brings d q.tableAlias "DELETE").after fun _ => ?_
  refine (Table.target_brings d 0 "DELETE FROM" .noTargetTable q.tableAlias q.table).bind ?_
  intro target
  exact (q.compileClauses_brings d).returning _

/-- Each statement of a query binds no name twice, and gives each name the
value that the last of its texts to bind it gives to it. -/
theorem statements_bindLast {ss : List Statement} (ok : q.statements d = .ok ss) :
    List.Forall₂ (fun sites s => BindsLast (textsAt sites) s) (q.statementSites d) ss := by
  unfold statements compile at ok
  unfold statementSites
  cases hkind : q.kind with
  | insert =>
    rw [hkind] at ok
    exact q.compileInsert_bindsLast d ok
  | update =>
    rw [hkind] at ok
    exact bindsLast_single (fun _ => q.compileUpdate_bindsLast d) ok
  | delete =>
    rw [hkind] at ok
    exact bindsLast_single (fun _ => q.compileDelete_bindsLast d) ok
  | select =>
    rw [hkind] at ok
    exact bindsLast_single (fun _ hs => (q.compileSelect_brings d 0).bindsLast hs) ok

end Query

/-! ## The laws of bindings -/

/-- **Bindings obey the laws of merging.**  No steps from nothing bind a name
twice.  A merge appends the positional values, gives each name the last value
that the argument gives to it, keeps the entries that were there in their
places and under their names, and adds what is new behind them.  Nothing is
neutral for it, from the left where no name is bound twice, and it is
associative where the bindings in the middle bind no name twice.  So each
statement of a query binds a name once, to the value that the last of its
texts to bind the name gives to it. -/
theorem Bindings.merging_laws :
    (∀ steps, (collected steps).NamesDistinct)
      ∧ (∀ b other, IsMerge b other (b.merge other))
      ∧ (∀ b : Bindings, b.merge empty = b)
      ∧ (∀ b : Bindings, b.NamesDistinct → empty.merge b = b)
      ∧ (∀ b middle other : Bindings, middle.NamesDistinct →
        b.merge (middle.merge other) = (b.merge middle).merge other)
      ∧ ∀ (d : Dialect) (q : Query) (ss : List Statement), q.statements d = .ok ss →
        List.Forall₂ (fun sites s => BindsLast (textsAt sites) s) (q.statementSites d) ss := by
  refine ⟨namesDistinct_collected, isMerge_merge, merge_empty, ?_, ?_, ?_⟩
  · exact fun b => empty_merge
  · exact fun b middle other hmiddle => merge_assoc b hmiddle other
  · exact fun d q ss ok => q.statements_bindLast d ok

/-- A query that binds a name in a sub-query, and twice in a text after
it. -/
def Query.boundThrice : Query :=
  { Query.empty with
    table := some (.name "t")
    criteria := [
      .exists (.query { Query.empty with
        table := some (.name "u")
        criteria := [.raw ⟨"a = :n", ⟨[⟨some "n", .int 1⟩]⟩⟩ .and] }) false .and,
      .raw ⟨"b = ? AND c = :n", ⟨[⟨some "n", .int 2⟩, ⟨none, .null⟩, ⟨some "n", .int 3⟩]⟩⟩ .and] }

/-- The name keeps its place before the positional value, and has the last of
its values. -/
def Query.boundThriceStatement : Statement :=
  ⟨"SELECT *\nFROM \"t\"\nWHERE EXISTS (SELECT *\nFROM \"u\"\nWHERE a = :n) AND "
      ++ "b = ? AND c = :n", ⟨[⟨some "n", .int 3⟩, ⟨none, .null⟩]⟩⟩

theorem Query.boundThrice_bindsLast :
    Query.boundThrice.statements .common = .ok [Query.boundThriceStatement]
      ∧ List.Forall₂ (fun sites s => BindsLast (textsAt sites) s)
        (Query.boundThrice.statementSites .common) [Query.boundThriceStatement] := by
  have ok : Query.boundThrice.statements .common = .ok [Query.boundThriceStatement] := by rfl
  exact ⟨ok, Bindings.merging_laws.2.2.2.2.2 .common Query.boundThrice _ ok⟩

end SqlTree
