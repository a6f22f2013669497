import SqlTree.Compile.Write
import SqlTree.Proofs.Compile.TwoRuns
import SqlTree.Proofs.Values.Redaction

/-!
# Values do not reach the text

A tree and its redacted form compile alike: to the same texts with the same
names of bindings, or with the same error (`Query.statements_agree`).  So do
two trees that differ in nothing but values, since they share their redacted
form.
-/

set_option autoImplicit false
set_option linter.unusedSectionVars false

namespace SqlTree

open Compiler Bindings

/-! ## What stays -/

theorem Bindings.sameNames_redacted (b : Bindings) : SameNames b b.redacted := by
  simp [SameNames, names, Bindings.redacted]

/-- A pattern is a text before and after. -/
theorem Operand.isTextual_redacted (v : Operand) : (v.redacted true).isTextual = v.isTextual := by
  cases v with
  | value v => cases v <;> rfl
  | query q => rfl
  | expr e => rfl

theorem Members.isEmpty_redacted (vs : Members) : vs.redacted.isEmpty = vs.isEmpty := by
  cases vs with
  | list vs => cases vs <;> rfl
  | select s => rfl

theorem Operand.isEmpty_redactedAll (vs : List Operand) :
    (Operand.redactedAll vs).isEmpty = vs.isEmpty := by
  cases vs <;> rfl

theorem SelectItem.isEmpty_redactedAll (items : List SelectItem) :
    (SelectItem.redactedAll items).isEmpty = items.isEmpty := by
  cases items <;> rfl

theorem Criterion.appendRule_redacted (c : Criterion) : c.redacted.appendRule = c.appendRule := by
  cases c <;> rfl

/-! ## Parts of a query -/

section

variable {S : Bindings → Bindings → Prop} [IsBlind S]

/-- A raw text is written with whatever it binds. -/
theorem Statement.parenthesized_alike (s : Statement) :
    Alike S (parenthesized s) (parenthesized s.redacted) :=
  .parenthesized rfl (IsBlind.of_sameNames s.bindings.sameNames_redacted)

theorem Expression.compile_alike (e : Expression) : Alike S e.compile e.redacted.compile := by
  cases e with
  | raw s => exact s.parenthesized_alike
  | value v => exact .parenthesized rfl (IsBlind.of_sameNames rfl)
  | column name => exact .parenthesized rfl (IsBlind.of_sameNames rfl)

variable (d : Dialect)

mutual

theorem Column.compile_alike : ∀ c : Column, Alike S (c.compile d) (c.redacted.compile d)
  | .name _ => .pure _
  | .query q => .subquery q.compileSelect_alike
  | .expr e => e.compile_alike

theorem Operand.compile_alike (isPattern : Bool) : ∀ o : Operand,
    Alike S (o.compile d) ((o.redacted isPattern).compile d)
  | .value v => .placeholder v (v.redacted isPattern)
  | .query q => .subquery q.compileSelect_alike
  | .expr e => e.compile_alike

theorem Operand.compileAll_alike : ∀ os : List Operand,
    List.Forall₂ (Alike S) (Operand.compileAll d os)
      (Operand.compileAll d (Operand.redactedAll os))
  | [] => .nil
  | o :: os => .cons (o.compile_alike false) (Operand.compileAll_alike os)

theorem Operand.compileOption_alike : ∀ o : Option Operand,
    Option.Rel (Alike S) (Operand.compileOption d o)
      (Operand.compileOption d (Operand.redactedSlot o))
  | none => .none
  | some o => .some (o.compile_alike false)

theorem Table.compile_alike : ∀ t : Table, Alike S (t.compile d) (t.redacted.compile d)
  | .name _ => .pure _
  | .query q => .subquery q.compileSelect_alike
  | .raw s => s.parenthesized_alike

theorem Table.compileOption_alike : ∀ t : Option Table,
    Option.Rel (Alike S) (Table.compileOption d t) (Table.compileOption d (Table.redactedSlot t))
  | none => .none
  | some t => .some t.compile_alike

theorem Subquery.compile_alike : ∀ s : Subquery, Alike S (s.compile d) (s.redacted.compile d)
  | .query q => .subquery q.compileSelect_alike
  | .raw s => s.parenthesized_alike

theorem Members.compile_alike : ∀ vs : Members, Alike S (vs.compile d) (vs.redacted.compile d)
  | .list vs => (Alike.commaList (Operand.compileAll_alike vs)).bind fun _ => .pure _
  | .select s => s.compile_alike

theorem Aggregate.compile_alike : ∀ a : Aggregate, Alike S (a.compile d) (a.redacted.compile d)
  | ⟨_, c⟩ => c.compile_alike.bind fun _ => .pure _

theorem Selectable.compile_alike : ∀ s : Selectable, Alike S (s.compile d) (s.redacted.compile d)
  | .column c => c.compile_alike
  | .aggregate a => a.compile_alike

theorem SelectItem.compile_alike : ∀ item : SelectItem,
    Alike S (item.compile d) (item.redacted.compile d)
  | ⟨_, s⟩ => s.compile_alike.bind fun _ => .pure _

theorem SelectItem.compileAll_alike : ∀ items : List SelectItem,
    List.Forall₂ (Alike S) (SelectItem.compileAll d items)
      (SelectItem.compileAll d (SelectItem.redactedAll items))
  | [] => .nil
  | item :: items => .cons item.compile_alike (SelectItem.compileAll_alike items)

theorem Criterion.compile_alike : ∀ c : Criterion, Alike S (c.compile d) (c.redacted.compile d)
  | .value c rule v append => by
    unfold Criterion.compile Criterion.redacted
    refine (Alike.rule rule).bind fun _ => c.compile_alike.bind ?_
    intro column
    refine (v.compile_alike (isPatternRule rule)).bind ?_
    intro value
    cases hrule : isPatternRule rule with
    | false => exact .pure _
    | true =>
      rw [Operand.isTextual_redacted]
      dsimp only
      split
      · exact (Alike.placeholder escapeChar escapeChar).bind fun _ => .pure _
      · exact .pure _
  | .columns l rule r append =>
    (Alike.rule rule).bind fun _ => l.compile_alike.bind fun _ =>
      r.compile_alike.bind fun _ => .pure _
  | .between c low high negated append =>
    c.compile_alike.bind fun _ => (low.compile_alike false).bind fun _ =>
      (high.compile_alike false).bind fun _ => .pure _
  | .group cs negated append =>
    (Criterion.compileAll_alike cs .empty).bind fun _ => .pure _
  | .exists s negated append => s.compile_alike.bind fun _ => .pure _
  | .member c vs negated append => by
    unfold Criterion.compile Criterion.redacted
    dsimp only
    rw [Members.isEmpty_redacted]
    split
    · exact .placeholder _ _
    · exact c.compile_alike.bind fun _ => vs.compile_alike.bind fun _ => .pure _
  | .null c isNull append => c.compile_alike.bind fun _ => .pure _
  | .raw s append => .inline rfl (IsBlind.of_sameNames s.bindings.sameNames_redacted)

theorem Criterion.compileAll_alike : ∀ (cs : List Criterion) (clause : Clause),
    Alike S (Criterion.compileAll d clause cs)
      (Criterion.compileAll d clause (Criterion.redactedAll cs))
  | [], clause => .pure clause
  | c :: cs, clause => by
    unfold Criterion.compileAll Criterion.redactedAll
    refine c.compile_alike.bind ?_
    intro test
    rw [Criterion.appendRule_redacted]
    exact Criterion.compileAll_alike cs (clause.append c.appendRule test)

theorem Order.compile_alike : ∀ o : Order, Alike S (o.compile d) (o.redacted.compile d)
  | .column c _ => c.compile_alike.bind fun _ => .pure _
  | .nulls c _ => c.compile_alike.bind fun _ => .pure _
  | .explicit c vs othersFirst => by
    unfold Order.compile Order.redacted
    dsimp only
    rw [Operand.isEmpty_redactedAll]
    split
    · exact .pure ""
    · exact .listedOrder d c.compile_alike (Operand.compileAll_alike vs) othersFirst
  | .random => .pure _

theorem Order.compileAll_alike : ∀ os : List Order,
    List.Forall₂ (Alike S) (Order.compileAll d os) (Order.compileAll d (Order.redactedAll os))
  | [] => .nil
  | o :: os => .cons o.compile_alike (Order.compileAll_alike os)

theorem Join.compile_alike : ∀ j : Join, Alike S (j.compile d) (j.redacted.compile d)
  | ⟨_, t, _, cs⟩ =>
    t.compile_alike.bind fun _ => (Criterion.compileAll_alike cs .empty).bind fun _ => .pure _

theorem Join.compileAll_alike : ∀ js : List Join,
    List.Forall₂ (Alike S) (Join.compileAll d js) (Join.compileAll d (Join.redactedAll js))
  | [] => .nil
  | j :: js => .cons j.compile_alike (Join.compileAll_alike js)

theorem Query.compileSelect_alike : ∀ q : Query,
    Alike S (q.compileSelect d) (q.redacted.compileSelect d)
  | ⟨table, aliasName, items, _, _, _, joins, criteria, orders, offset, limit⟩ => by
    unfold Query.compileSelect Query.redacted
    refine (Alike.commaList (SelectItem.compileAll_alike items)).bind ?_
    intro columns
    dsimp only
    rw [SelectItem.isEmpty_redactedAll]
    refine (Alike.target d "FROM" .noFromTable (Table.compileOption_alike table) aliasName).bind ?_
    refine fun target => (Alike.inSequence (Join.compileAll_alike joins)).bind ?_
    intro lines
    refine (Alike.clauseParts (Criterion.compileAll_alike criteria .empty)
      (Order.compileAll_alike orders) (Alike.window d (Operand.compileOption_alike offset)
        (Operand.compileOption_alike limit))).bind fun tail => .pure _

end

/-! ## Rows -/

/-- A row is refused for its columns alone. -/
theorem Row.repeatedAfter_redacted (seen : List String) (row : Row) :
    Row.repeatedAfter seen (Assignment.redactedAll row) = Row.repeatedAfter seen row := by
  induction row generalizing seen with
  | nil => rfl
  | cons a row ih =>
    obtain ⟨column, value⟩ := a
    simp only [Assignment.redactedAll, Assignment.redacted, Row.repeatedAfter, ih]

theorem Row.checkUnique_alike (row : Row) :
    Alike S row.checkUnique (Row.checkUnique (Assignment.redactedAll row)) := by
  unfold Row.checkUnique
  rw [Row.repeatedAfter_redacted]
  split
  · exact .throw _
  · exact .pure ()

theorem Row.addColumns_redacted (columns : List String) (row : Row) :
    Row.addColumns columns (Assignment.redactedAll row) = Row.addColumns columns row := by
  induction row generalizing columns with
  | nil => rfl
  | cons a row ih =>
    obtain ⟨column, value⟩ := a
    simp only [Assignment.redactedAll, Assignment.redacted, Row.addColumns, ih]

theorem allColumns_redacted (rows : List Row) :
    allColumns (Assignment.redactedRows rows) = allColumns rows := by
  unfold allColumns
  generalize ([] : List String) = columns
  induction rows generalizing columns with
  | nil => rfl
  | cons row rows ih =>
    simp only [Assignment.redactedRows, List.foldl_cons, Row.addColumns_redacted, ih]

theorem Row.value?_redacted (column : String) (row : Row) :
    Row.value? column (Assignment.redactedAll row)
      = (Row.value? column row).map (Operand.redacted false) := by
  induction row with
  | nil => rfl
  | cons a row ih =>
    obtain ⟨name, value⟩ := a
    simp only [Assignment.redactedAll, Assignment.redacted, Row.value?, ih]
    split <;> rfl

theorem Row.compileEntry_alike (row : Row) (column : String) :
    Alike S (Row.compileEntry d row column)
      (Row.compileEntry d (Assignment.redactedAll row) column) := by
  unfold Row.compileEntry
  rw [Row.value?_redacted]
  cases Row.value? column row with
  | none => exact .pure "DEFAULT"
  | some v => exact v.compile_alike d false

theorem Row.compileTuple_alike (columns : List String) (row : Row) :
    Alike S (Row.compileTuple d columns row)
      (Row.compileTuple d columns (Assignment.redactedAll row)) := by
  have hentries : List.Forall₂ (Alike S) (columns.map (row.compileEntry d))
      (columns.map (Row.compileEntry d (Assignment.redactedAll row))) := by
    rw [List.forall₂_map_left_iff, List.forall₂_map_right_iff, List.forall₂_same]
    exact fun column _ => Row.compileEntry_alike d row column
  exact row.checkUnique_alike.bind fun _ => (Alike.commaList hentries).bind fun _ => .pure _

theorem Assignment.compileAll_alike (row : Row) :
    List.Forall₂ (Alike S) (row.map (Assignment.compile d))
      ((Assignment.redactedAll row).map (Assignment.compile d)) := by
  induction row with
  | nil => exact .nil
  | cons a row ih =>
    obtain ⟨column, value⟩ := a
    exact .cons ((value.compile_alike d false).bind fun _ => .pure _) ih

end

/-! ## Statements -/

/-- The same text, with the same names of bindings at the same positions. -/
def SameText (s s' : Statement) : Prop :=
  s.sql = s'.sql ∧ s.bindings.names = s'.bindings.names

/-- Compilers that do the same write statements with the same text. -/
theorem Compiler.Alike.statement {c c' : Compiler String} (h : Alike SameNames c c') :
    Agree SameText c.statement c'.statement :=
  Tied.statement h

namespace Query

variable (d : Dialect) (q : Query)

theorem compileInsertTarget_alike :
    Alike SameNames (q.compileInsertTarget d) (q.redacted.compileInsertTarget d) := by
  unfold compileInsertTarget
  rw [table_redacted]
  exact .target d "INSERT INTO" .noTargetTable (Table.compileOption_alike d q.table) none

theorem compileRows_agree (rows : List Row) :
    Agree SameText (q.compileRows d rows)
      (q.redacted.compileRows d (Assignment.redactedRows rows)) := by
  refine Alike.statement ((q.compileInsertTarget_alike d).bind fun target => ?_)
  rw [allColumns_redacted]
  refine .check ?_
  have htuples : List.Forall₂ (Alike SameNames) (rows.map (Row.compileTuple d (allColumns rows)))
      ((Assignment.redactedRows rows).map (Row.compileTuple d (allColumns rows))) := by
    generalize allColumns rows = columns
    induction rows with
    | nil => exact .nil
    | cons row rows ih => exact .cons (Row.compileTuple_alike d columns row) ih
  exact (Alike.commaList htuples).bind fun _ => .pure _

theorem compileInsertSelect_agree (source : InsertSelect) :
    Agree SameText (q.compileInsertSelect d source)
      (q.redacted.compileInsertSelect d source.redacted) := by
  obtain ⟨columns, select⟩ := source
  refine Alike.statement ((q.compileInsertTarget_alike d).bind fun target => ?_)
  refine Tied.bind (Tied.nested (select.compileSelect_alike d)) fun s s' ⟨hsql, hbindings⟩ => ?_
  exact (Alike.inline hsql hbindings).bind fun _ => .pure _

/-- Statements one by one. -/
abbrev SameTexts (ss ss' : List Statement) : Prop :=
  List.Forall₂ SameText ss ss'

/-- The one statement of a result. -/
theorem agree_single {x y : Except QueryError Statement} (h : Agree SameText x y) :
    Agree SameTexts (do return [← x]) (do return [← y]) :=
  h.bind fun _ _ hs => .ok (.cons hs .nil)

theorem compileInsertTogether_agree :
    Agree SameTexts (q.compileInsertTogether d) (q.redacted.compileInsertTogether d) := by
  unfold compileInsertTogether
  rw [insert_redacted]
  cases q.insert with
  | none => exact .error _
  | some insert =>
    cases insert with
    | select source => exact agree_single (q.compileInsertSelect_agree d source)
    | rows rows =>
      cases rows with
      | nil => exact .ok .nil
      | cons row rows => exact agree_single (q.compileRows_agree d (row :: rows))

theorem compileInsertPerRow_agree :
    Agree SameTexts (q.compileInsertPerRow d) (q.redacted.compileInsertPerRow d) := by
  have htogether := q.compileInsertTogether_agree d
  unfold compileInsertPerRow
  rw [insert_redacted]
  cases q.insert with
  | none => exact htogether
  | some insert =>
    cases insert with
    | select source => exact htogether
    | rows rows =>
      show Agree SameTexts (rows.mapM fun row => q.compileRows d [row])
        ((Assignment.redactedRows rows).mapM fun row => q.redacted.compileRows d [row])
      induction rows with
      | nil => exact .ok .nil
      | cons row rows ih =>
        rw [Assignment.redactedRows, List.mapM_cons, List.mapM_cons]
        refine (q.compileRows_agree d [row]).bind ?_
        intro s s' hs
        exact ih.bind fun ss ss' hss => .ok (.cons hs hss)

theorem compileInsert_agree :
    Agree SameTexts (q.compileInsert d) (q.redacted.compileInsert d) := by
  cases d with
  | sqlite => exact q.compileInsertPerRow_agree .sqlite
  | common => exact q.compileInsertTogether_agree .common
  | mysql => exact q.compileInsertTogether_agree .mysql

theorem compileClauses_alike :
    Alike SameNames (q.compileClauses d) (q.redacted.compileClauses d) := by
  unfold compileClauses
  rw [criteria_redacted, order_redacted, offset_redacted, limit_redacted]
  exact .clauseParts (Criterion.compileAll_alike d q.criteria .empty)
    (Order.compileAll_alike d q.order)
    (.window d (Operand.compileOption_alike d q.offset) (Operand.compileOption_alike d q.limit))

theorem checkTargetAlias_alike (aliasName : Option String) (statement : String) :
    Alike SameNames (d.checkTargetAlias aliasName statement)
      (d.checkTargetAlias aliasName statement) := by
  unfold Dialect.checkTargetAlias
  split
  · exact .throw _
  · exact .pure ()

theorem compileUpdate_agree :
    Agree SameText (q.compileUpdate d) (q.redacted.compileUpdate d) := by
  have htarget : Alike SameNames
      (targetClause d "UPDATE" .noUpdatedTable (Table.compileOption d q.table) q.tableAlias)
      (targetClause d "UPDATE" .noUpdatedTable (Table.compileOption d q.redacted.table)
        q.redacted.tableAlias) := by
    rw [table_redacted, tableAlias_redacted]
    exact .target d "UPDATE" .noUpdatedTable (Table.compileOption_alike d q.table) q.tableAlias
  have hnone : (Assignment.redactedAll q.update).isEmpty = q.update.isEmpty := by
    cases q.update <;> rfl
  unfold compileUpdate
  rw [update_redacted, hnone]
  refine Alike.statement ?_
  rw [tableAlias_redacted] at htarget ⊢
  refine (checkTargetAlias_alike d q.tableAlias "UPDATE").bind ?_
  intro _
  refine htarget.bind fun target => .check ?_
  refine (Row.checkUnique_alike q.update).bind ?_
  intro _
  refine (Alike.commaList (Assignment.compileAll_alike d q.update)).bind ?_
  intro assignments
  exact (q.compileClauses_alike d).bind fun tail => .pure _

theorem compileDelete_agree :
    Agree SameText (q.compileDelete d) (q.redacted.compileDelete d) := by
  unfold compileDelete
  rw [table_redacted, tableAlias_redacted]
  refine Alike.statement ((checkTargetAlias_alike d q.tableAlias "DELETE").bind fun _ => ?_)
  refine (Alike.target d "DELETE FROM" .noTargetTable (Table.compileOption_alike d q.table)
    q.tableAlias).bind ?_
  intro target
  exact (q.compileClauses_alike d).bind fun tail => .pure _

/-- A query and its redacted form compile to statements with the same
texts. -/
theorem statements_agree : Agree SameTexts (q.statements d) (q.redacted.statements d) := by
  unfold statements compile
  rw [kind_redacted]
  cases q.kind with
  | insert => exact q.compileInsert_agree d
  | update => exact agree_single (q.compileUpdate_agree d)
  | delete => exact agree_single (q.compileDelete_agree d)
  | select => exact agree_single (Alike.statement (q.compileSelect_alike d))

end Query

end SqlTree
