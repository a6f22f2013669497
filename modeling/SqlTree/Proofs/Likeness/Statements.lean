import SqlTree.Compile.Write
import SqlTree.Proofs.Likeness.Compile

/-!
# Statements of alike trees

Two trees that also write alike have rows with the same number of entries,
whose columns correspond: two entries of the first tree write the same
column exactly where those of the second do.  Then columns that first appear
in one row do so in the other, and a row is filled up with DEFAULT in the
same places.

Dialects write rows in one statement or in one for each, and some refuse an
alias of the target.  Where the two dialects do the same about it, or there
is nothing to be done, the statements are related one by one
(`Query.statements_mirror`).
-/

set_option autoImplicit false

namespace SqlTree

open Compiler

/-! ## Columns that correspond -/

/-- Which columns of the one tree are which of the other. -/
structure Likeness.Correspondence (L : Likeness) where
  Holds : String → String → Prop
  names : ∀ {c c' : String}, Holds c c' → L.Names c c'
  unique : ∀ {a a' b b' : String}, Holds a a' → Holds b b' → (a = b ↔ a' = b')

variable {L : Likeness} (C : L.Correspondence)

/-- The same value for the same column. -/
structure Assignment.Like (a a' : Assignment) : Prop where
  column : C.Holds a.column a'.column
  value : a.value.Like L a'.value

/-- Rows with the same entries, that repeat a column alike. -/
structure Row.Like (row row' : Row) : Prop where
  entries : List.Forall₂ (Assignment.Like C) row row'
  repeats : Row.repeatedAfter [] row = Row.repeatedAfter [] row'

variable {C}

/-- A column stands in a list where the other stands in the other list. -/
theorem Likeness.Correspondence.mem_iff {column column' : String}
    (hcolumn : C.Holds column column') {columns columns' : List String}
    (h : List.Forall₂ C.Holds columns columns') : column ∈ columns ↔ column' ∈ columns' := by
  induction h with
  | nil => simp
  | cons hd _ ih => rw [List.mem_cons, List.mem_cons, C.unique hcolumn hd, ih]

theorem Row.addColumns_like {row row' : Row} (hrow : List.Forall₂ (Assignment.Like C) row row')
    {columns columns' : List String} (h : List.Forall₂ C.Holds columns columns') :
    List.Forall₂ C.Holds (Row.addColumns columns row) (Row.addColumns columns' row') := by
  induction hrow generalizing columns columns' with
  | nil => exact h
  | @cons a a' row row' ha _ ih =>
    unfold Row.addColumns
    refine ih ?_
    by_cases hmem : a.column ∈ columns
    · rw [if_pos hmem, if_pos ((C.mem_iff ha.column h).mp hmem)]
      exact h
    · rw [if_neg hmem, if_neg (mt (C.mem_iff ha.column h).mpr hmem)]
      exact List.rel_append h (.cons ha.column .nil)

theorem allColumns_like {rows rows' : List Row} (h : List.Forall₂ (Row.Like C) rows rows') :
    List.Forall₂ C.Holds (allColumns rows) (allColumns rows') := by
  have hfold {columns columns' : List String} (hcolumns : List.Forall₂ C.Holds columns columns') :
      List.Forall₂ C.Holds (rows.foldl Row.addColumns columns)
        (rows'.foldl Row.addColumns columns') := by
    induction h generalizing columns columns' with
    | nil => exact hcolumns
    | cons hd _ ih => exact ih (Row.addColumns_like hd.entries hcolumns)
  exact hfold .nil

theorem Row.value?_like {row row' : Row} (h : List.Forall₂ (Assignment.Like C) row row')
    {column column' : String} (hcolumn : C.Holds column column') :
    Option.Rel (Operand.Like L) (row.value? column) (row'.value? column') := by
  induction h with
  | nil => exact .none
  | @cons a a' row row' ha _ ih =>
    unfold Row.value?
    by_cases hsame : a.column = column
    · rw [if_pos hsame, if_pos ((C.unique ha.column hcolumn).mp hsame)]
      exact .some ha.value
    · rw [if_neg hsame, if_neg (mt (C.unique ha.column hcolumn).mpr hsame)]
      exact ih

/-! ## Rows -/

/-- The same list of names, in two dialects. -/
theorem Likeness.columnList_holds {columns columns' : List String}
    (h : List.Forall₂ L.Names columns columns') :
    L.texts.Holds (L.left.columnList columns) (L.right.columnList columns') := by
  have hquoted : List.Forall₂ L.texts.Holds (columns.map L.left.quoteIdentifier)
      (columns'.map L.right.quoteIdentifier) := by
    rw [List.forall₂_map_left_iff, List.forall₂_map_right_iff]
    exact h.imp fun _ _ => L.names_hold
  exact .intercalate (by decide) hquoted

theorem Row.checkUnique_mirrors {row row' : Row}
    (h : Row.repeatedAfter [] row = Row.repeatedAfter [] row') :
    Tied Eq (fun _ _ => True) row.checkUnique row'.checkUnique := by
  unfold Row.checkUnique
  rw [h]
  split
  · exact .throw _
  · exact .pure trivial

theorem Row.compileTuple_mirrors {row row' : Row} (h : Row.Like C row row')
    {columns columns' : List String} (hcolumns : List.Forall₂ C.Holds columns columns') :
    Mirrors L.texts (Row.compileTuple L.left columns row)
      (Row.compileTuple L.right columns' row') := by
  have hentry {column column' : String} (hcolumn : C.Holds column column') :
      Mirrors L.texts (row.compileEntry L.left column) (row'.compileEntry L.right column') := by
    unfold Row.compileEntry
    have hvalue := Row.value?_like h.entries hcolumn
    generalize row.value? column = value at hvalue
    generalize row'.value? column' = value' at hvalue
    cases hvalue with
    | none => exact .pure (.fixed "DEFAULT")
    | some hvalue => exact Operand.compile_mirrors hvalue
  have hentries : List.Forall₂ (Mirrors L.texts) (columns.map (row.compileEntry L.left))
      (columns'.map (row'.compileEntry L.right)) := by
    rw [List.forall₂_map_left_iff, List.forall₂_map_right_iff]
    exact hcolumns.imp fun _ _ => hentry
  refine (Row.checkUnique_mirrors h.repeats).bind ?_
  intro _ _ _
  exact (Mirrors.commaList hentries).bind fun _ _ hlist => .pure ((hlist.after "(").before ")")

theorem Assignment.compileAll_mirrors {row row' : Row}
    (h : List.Forall₂ (Assignment.Like C) row row') :
    List.Forall₂ (Mirrors L.texts) (row.map (Assignment.compile L.left))
      (row'.map (Assignment.compile L.right)) := by
  rw [List.forall₂_map_left_iff, List.forall₂_map_right_iff]
  refine h.imp ?_
  intro a a' ha
  have hcolumn := L.names_hold (C.names ha.column)
  exact (Operand.compile_mirrors ha.value).bind fun _ _ hvalue =>
    .pure ((hcolumn.before " = ").append hvalue)

/-! ## Queries that write alike -/

/-- What an INSERT writes. -/
inductive Insert.Like (C : L.Correspondence) : Insert → Insert → Prop
  | rows {rows rows' : List Row} (h : List.Forall₂ (Row.Like C) rows rows') :
    Insert.Like C (.rows rows) (.rows rows')
  | select {source source' : InsertSelect}
    (columns : Option.Rel (List.Forall₂ L.Names) source.columns source'.columns)
    (select : source.select.Like L source'.select) :
    Insert.Like C (.select source) (.select source')

/-- Trees that are alike as SELECTs and in what they write. -/
structure Query.WritesLike (C : L.Correspondence) (q q' : Query) : Prop where
  select : q.Like L q'
  insert : Option.Rel (Insert.Like C) q.insert q'.insert
  update : Row.Like C q.update q'.update
  delete_eq : q.delete = q'.delete

/-- Both dialects are particular about rows and targets, or neither is: they
take one statement for each row, and no alias of the target. -/
def Likeness.WritesAlike (L : Likeness) : Prop :=
  L.left = .sqlite ↔ L.right = .sqlite

/-- There is no alias of the target, or the same one in dialects that do the
same about it. -/
def Query.TargetsAlike (L : Likeness) (q q' : Query) : Prop :=
  q.tableAlias = none ∨ L.WritesAlike ∧ q.tableAlias = q'.tableAlias

/-- Statements with related texts and the same bindings. -/
structure Statement.Related (T : TextRelation) (s s' : Statement) : Prop where
  sql : T.Holds s.sql s'.sql
  bindings_eq : s.bindings = s'.bindings

/-- Related statements, one by one, or the same error. -/
abbrev StatementsAgree (T : TextRelation) (x y : Except QueryError (List Statement)) : Prop :=
  Agree (List.Forall₂ (Statement.Related T)) x y

/-- Compilers that mirror each other write related statements. -/
theorem Compiler.Mirrors.statement {T : TextRelation} {c c' : Compiler String}
    (h : Mirrors T c c') : Agree (Statement.Related T) c.statement c'.statement :=
  (Tied.statement_of_empty rfl h).mono fun _ _ hs => ⟨hs.1, hs.2⟩

/-- One statement each. -/
theorem StatementsAgree.single {T : TextRelation} {x y : Except QueryError Statement}
    (h : Agree (Statement.Related T) x y) :
    StatementsAgree T (do return [← x]) (do return [← y]) :=
  h.bind fun _ _ hs => .ok (.cons hs .nil)

/-- Related lists are both empty or both not. -/
theorem isEmpty_eq_of_forall₂ {α β : Type} {R : α → β → Prop} {as : List α} {bs : List β}
    (h : List.Forall₂ R as bs) : as.isEmpty = bs.isEmpty := by
  cases h <;> rfl

namespace Query.WritesLike

variable {q q' : Query} (h : q.WritesLike C q')

include h

theorem table_like : Table.LikeSlot L q.table q'.table := by
  cases q
  exact h.select.1

theorem aliases_like : Option.Rel L.Aliases q.tableAlias q'.tableAlias := by
  cases q
  exact h.select.2.1

theorem kind_eq : q.kind = q'.kind := by
  have hinsert : q.isInsert = q'.isInsert := by
    have hrel := h.insert
    unfold isInsert
    generalize q.insert = insert at hrel ⊢
    generalize q'.insert = insert' at hrel ⊢
    cases hrel <;> rfl
  have hupdate : q.isUpdate = q'.isUpdate := by
    unfold isUpdate
    rw [isEmpty_eq_of_forall₂ h.update.entries]
  unfold kind
  rw [hinsert, hupdate, h.delete_eq]

theorem compileClauses_mirrors :
    MirrorsAll L.texts (q.compileClauses L.left) (q'.compileClauses L.right) := by
  cases q
  obtain ⟨-, -, -, -, hcriteria, horders, hoffset, hlimit, hwindow⟩ := h.select
  exact Mirrors.clauseParts (Criterion.compileAll_mirrors hcriteria .empty)
    (Order.compileAll_mirrors horders) (Operand.window_mirrors
      (Operand.compileOption_mirrors hoffset) (Operand.compileOption_mirrors hlimit) hwindow)

/-! ### INSERT -/

theorem compileInsertTarget_mirrors :
    Mirrors L.texts (q.compileInsertTarget L.left) (q'.compileInsertTarget L.right) :=
  .target (by decide) .noTargetTable (Table.compileOption_mirrors h.table_like) .none

theorem compileRows_agree {rows rows' : List Row} (hrows : List.Forall₂ (Row.Like C) rows rows') :
    Agree (Statement.Related L.texts) (q.compileRows L.left rows)
      (q'.compileRows L.right rows') := by
  have hcolumns := allColumns_like hrows
  have htuples : List.Forall₂ (Mirrors L.texts)
      (rows.map (Row.compileTuple L.left (allColumns rows)))
      (rows'.map (Row.compileTuple L.right (allColumns rows'))) := by
    rw [List.forall₂_map_left_iff, List.forall₂_map_right_iff]
    exact hrows.imp fun _ _ hrow => Row.compileTuple_mirrors hrow hcolumns
  have hlist := Likeness.columnList_holds (hcolumns.imp fun _ _ => C.names)
  unfold compileRows
  refine Mirrors.statement ?_
  refine h.compileInsertTarget_mirrors.bind ?_
  intro target target' htarget
  refine .check (isEmpty_eq_of_forall₂ hcolumns) ?_
  refine (Mirrors.commaList htuples).bind ?_
  intro tuples tuples' htexts
  exact .pure ((((htarget.before " (").append hlist).before ")\nVALUES ").append htexts)

theorem compileInsertSelect_agree {source source' : InsertSelect}
    (hcolumns : Option.Rel (List.Forall₂ L.Names) source.columns source'.columns)
    (hselect : source.select.Like L source'.select) :
    Agree (Statement.Related L.texts) (q.compileInsertSelect L.left source)
      (q'.compileInsertSelect L.right source') := by
  unfold compileInsertSelect
  refine Mirrors.statement ?_
  refine h.compileInsertTarget_mirrors.bind ?_
  intro target target' htarget
  refine (Tied.nested_of_empty rfl (Query.compileSelect_mirrors hselect)).bind ?_
  intro s s' ⟨hsql, hbindings⟩
  have hinline : Mirrors L.texts (inline s) (inline s') := by
    rintro b _ rfl
    refine .ok ⟨hsql, ?_⟩
    rw [hbindings]
  refine hinline.bind ?_
  intro select select' hselect
  refine .pure (((htarget.append ?_).before "\n").append hselect)
  generalize source.columns = columns at hcolumns ⊢
  generalize source'.columns = columns' at hcolumns ⊢
  cases hcolumns with
  | none => exact .fixed ""
  | some hcolumns => exact ((Likeness.columnList_holds hcolumns).after " (").before ")"

theorem compileInsertTogether_agree :
    StatementsAgree L.texts (q.compileInsertTogether L.left)
      (q'.compileInsertTogether L.right) := by
  have hinsert := h.insert
  unfold compileInsertTogether
  generalize q.insert = insert at hinsert ⊢
  generalize q'.insert = insert' at hinsert ⊢
  cases hinsert with
  | none => exact .error _
  | some hinsert =>
    cases hinsert with
    | select hcolumns hselect => exact .single (h.compileInsertSelect_agree hcolumns hselect)
    | rows hrows =>
      cases hrows with
      | nil => exact .ok .nil
      | cons hrow hrows => exact .single (h.compileRows_agree (.cons hrow hrows))

theorem compileInsertPerRow_agree :
    StatementsAgree L.texts (q.compileInsertPerRow L.left) (q'.compileInsertPerRow L.right) := by
  have htogether := h.compileInsertTogether_agree
  have hinsert := h.insert
  unfold compileInsertPerRow
  generalize q.insert = insert at hinsert ⊢
  generalize q'.insert = insert' at hinsert ⊢
  cases hinsert with
  | none => exact htogether
  | some hinsert =>
    cases hinsert with
    | select hcolumns hselect => exact htogether
    | rows hrows =>
      dsimp only
      induction hrows with
      | nil => exact .ok .nil
      | cons hrow _ ih =>
        rw [List.mapM_cons, List.mapM_cons]
        refine (h.compileRows_agree (.cons hrow .nil)).bind ?_
        intro s s' hs
        exact ih.bind fun ss ss' hss => .ok (.cons hs hss)

end Query.WritesLike

/-- At most one row makes the same statements in both ways. -/
theorem Query.compileInsert_eq_together (d : Dialect) (q : Query)
    (h : ∀ rows, q.insert = some (.rows rows) → rows.length ≤ 1) :
    q.compileInsert d = q.compileInsertTogether d := by
  have hperRow : q.compileInsertPerRow d = q.compileInsertTogether d := by
    unfold compileInsertPerRow
    split
    next rows hrows =>
      unfold compileInsertTogether
      rw [hrows]
      match rows, h rows hrows with
      | [], _ => rfl
      | [row], _ =>
        rw [List.mapM_cons, List.mapM_nil]
        rfl
    next => rfl
  cases d with
  | sqlite => exact hperRow
  | common | mysql => rfl

/-- Without an alias there is nothing to refuse. -/
theorem Dialect.checkTargetAlias_none (d : Dialect) (statement : String) :
    d.checkTargetAlias none statement = pure () := by
  cases d <;> rfl

/-- Dialects that do the same about targets refuse the same alias. -/
theorem Dialect.checkTargetAlias_tied {d d' : Dialect} (h : d = .sqlite ↔ d' = .sqlite)
    (aliasName : Option String) (statement : String) :
    Tied Eq (fun _ _ => True) (d.checkTargetAlias aliasName statement)
      (d'.checkTargetAlias aliasName statement) := by
  cases aliasName with
  | none =>
    rw [d.checkTargetAlias_none, d'.checkTargetAlias_none]
    exact .pure trivial
  | some aliasName =>
    cases d with
    | sqlite =>
      obtain rfl := h.mp rfl
      exact .throw _
    | common | mysql =>
      cases d' with
      | sqlite => cases h.mpr rfl
      | common | mysql => exact .pure trivial

namespace Query.WritesLike

variable {q q' : Query} (h : q.WritesLike C q')

include h

theorem length_le_one (hrows : ∀ rows, q.insert = some (.rows rows) → rows.length ≤ 1) :
    ∀ rows, q'.insert = some (.rows rows) → rows.length ≤ 1 := by
  intro rows' hrows'
  have hinsert := h.insert
  rw [hrows'] at hinsert
  cases hq : q.insert with
  | none =>
    rw [hq] at hinsert
    cases hinsert
  | some insert =>
    rw [hq] at hinsert
    cases hinsert with
    | some hlike =>
      cases hlike with
      | rows hall => exact hall.length_eq ▸ hrows _ hq

theorem compileInsert_agree
    (hrows : L.WritesAlike ∨ ∀ rows, q.insert = some (.rows rows) → rows.length ≤ 1) :
    StatementsAgree L.texts (q.compileInsert L.left) (q'.compileInsert L.right) := by
  have together := h.compileInsertTogether_agree
  have perRow := h.compileInsertPerRow_agree
  rcases hrows with hsame | hrows
  · unfold Likeness.WritesAlike at hsame
    unfold compileInsert
    generalize L.left = d at hsame together perRow ⊢
    generalize L.right = d' at hsame together perRow ⊢
    cases d with
    | sqlite =>
      obtain rfl := hsame.mp rfl
      exact perRow
    | common | mysql =>
      cases d' with
      | sqlite => cases hsame.mpr rfl
      | common | mysql => exact together
  · rw [compileInsert_eq_together _ _ hrows, compileInsert_eq_together _ _ (h.length_le_one hrows)]
    exact together

/-! ### UPDATE and DELETE -/

theorem checkTargetAlias_mirrors (htarget : q.TargetsAlike L q') (statement : String) :
    Tied Eq (fun _ _ => True) (L.left.checkTargetAlias q.tableAlias statement)
      (L.right.checkTargetAlias q'.tableAlias statement) := by
  rcases htarget with hnone | ⟨hwrites, halias⟩
  · have hnone' : q'.tableAlias = none := by
      have haliases := hnone ▸ h.aliases_like
      generalize q'.tableAlias = aliasName' at haliases ⊢
      cases haliases
      rfl
    rw [hnone, hnone', Dialect.checkTargetAlias_none, Dialect.checkTargetAlias_none]
    exact .pure trivial
  · rw [halias]
    exact Dialect.checkTargetAlias_tied hwrites q'.tableAlias statement

theorem compileUpdate_agree (htarget : q.TargetsAlike L q') :
    Agree (Statement.Related L.texts) (q.compileUpdate L.left) (q'.compileUpdate L.right) := by
  unfold compileUpdate
  refine Mirrors.statement ?_
  refine (h.checkTargetAlias_mirrors htarget "UPDATE").bind ?_
  intro _ _ _
  refine (Mirrors.target (by decide) .noUpdatedTable (Table.compileOption_mirrors h.table_like)
    (Likeness.aliases_quoted h.aliases_like)).bind ?_
  intro target target' hclause
  refine .check (isEmpty_eq_of_forall₂ h.update.entries) ?_
  refine (Row.checkUnique_mirrors h.update.repeats).bind ?_
  intro _ _ _
  refine (Mirrors.commaList (Assignment.compileAll_mirrors h.update.entries)).bind ?_
  intro assignments assignments' hassignments
  refine h.compileClauses_mirrors.bind ?_
  intro tail tail' htail
  have hlines := List.Forall₂.cons hclause (List.Forall₂.cons (hassignments.after "SET ") htail)
  exact .pure (.intercalate (by decide) hlines)

theorem compileDelete_agree (htarget : q.TargetsAlike L q') :
    Agree (Statement.Related L.texts) (q.compileDelete L.left) (q'.compileDelete L.right) := by
  unfold compileDelete
  refine Mirrors.statement ?_
  refine (h.checkTargetAlias_mirrors htarget "DELETE").bind ?_
  intro _ _ _
  refine (Mirrors.target (by decide) .noTargetTable (Table.compileOption_mirrors h.table_like)
    (Likeness.aliases_quoted h.aliases_like)).bind ?_
  intro target target' hclause
  refine h.compileClauses_mirrors.bind ?_
  intro tail tail' htail
  exact .pure (.intercalate (by decide) (.cons hclause htail))

/-- Trees that write alike compile to related statements. -/
theorem statements_mirror
    (hrows : L.WritesAlike ∨ ∀ rows, q.insert = some (.rows rows) → rows.length ≤ 1)
    (htarget : q.kind = .update ∨ q.kind = .delete → q.TargetsAlike L q') :
    StatementsAgree L.texts (q.statements L.left) (q'.statements L.right) := by
  unfold statements compile
  rw [← h.kind_eq]
  cases hkind : q.kind with
  | insert => exact h.compileInsert_agree hrows
  | update => exact .single (h.compileUpdate_agree (htarget (.inl hkind)))
  | delete => exact .single (h.compileDelete_agree (htarget (.inr hkind)))
  | select => exact .single (Mirrors.statement (Query.compileSelect_mirrors h.select))

end Query.WritesLike

end SqlTree
