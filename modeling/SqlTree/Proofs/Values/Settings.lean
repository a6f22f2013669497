import SqlTree.Config
import SqlTree.Proofs.Renaming.Sharing
import SqlTree.Proofs.Values.Blindness

/-!
# Values under settings

Settings rename tables and columns.  Their rules look at the tables and
aliases of a query when they enter it, and at no value, so renaming and
redacting can be done in either order (`Config.redacted_apply`).

Together with the blindness of the compiler this says that the values of a
caller do not reach any text, nor whether a query is refused.
-/

set_option autoImplicit false
set_option linter.unusedSectionVars false

namespace SqlTree

section

variable {Context : Type}

/-- The context inside of a query does not depend on its values. -/
def RenamingRules.EntersBlindly (rules : RenamingRules Context) : Prop :=
  ∀ q ctx, rules.enter q.redacted ctx = rules.enter q ctx

variable {rules : RenamingRules Context} (hrules : rules.EntersBlindly)

/-! ## Renaming a redacted tree -/

include hrules

mutual

theorem Query.redacted_renamed (around : Context) : ∀ q : Query,
    (q.renamed rules around).redacted = q.redacted.renamed rules around
  | ⟨table, aliasName, select, insert, update, delete, joins, criteria, order, offset,
      limit⟩ => by
    have hctx := hrules ⟨table, aliasName, select, insert, update, delete, joins, criteria,
      order, offset, limit⟩ around
    simp only [Query.redacted] at hctx
    simp only [Query.renamed, Query.redacted, hctx, Table.redacted_renamedSlot,
      SelectItem.redacted_renamedAll, Insert.redacted_renamedSlot, Assignment.redacted_renamedAll,
      Join.redacted_renamedAll, Criterion.redacted_renamedAll, Order.redacted_renamedAll,
      Operand.redacted_renamedSlot]

theorem Table.redacted_renamed (ctx : Context) : ∀ t : Table,
    (t.renamed rules ctx).redacted = t.redacted.renamed rules ctx
  | .name _ => rfl
  | .query q => congrArg Table.query (q.redacted_renamed ctx)
  | .raw _ => rfl

theorem Table.redacted_renamedSlot (ctx : Context) : ∀ t : Option Table,
    Table.redactedSlot (Table.renamedSlot rules ctx t)
      = Table.renamedSlot rules ctx (Table.redactedSlot t)
  | none => rfl
  | some t => congrArg some (t.redacted_renamed ctx)

theorem Column.redacted_renamed (ctx : Context) : ∀ c : Column,
    (c.renamed rules ctx).redacted = c.redacted.renamed rules ctx
  | .name _ => rfl
  | .query q => congrArg Column.query (q.redacted_renamed ctx)
  | .expr _ => rfl

theorem Operand.redacted_renamed (isPattern : Bool) (ctx : Context) : ∀ o : Operand,
    (o.renamed rules ctx).redacted isPattern = (o.redacted isPattern).renamed rules ctx
  | .value _ => rfl
  | .query q => congrArg Operand.query (q.redacted_renamed ctx)
  | .expr _ => rfl

theorem Operand.redacted_renamedSlot (ctx : Context) : ∀ o : Option Operand,
    Operand.redactedSlot (Operand.renamedSlot rules ctx o)
      = Operand.renamedSlot rules ctx (Operand.redactedSlot o)
  | none => rfl
  | some o => congrArg some (o.redacted_renamed false ctx)

theorem Operand.redacted_renamedAll (ctx : Context) : ∀ os : List Operand,
    Operand.redactedAll (Operand.renamedAll rules ctx os)
      = Operand.renamedAll rules ctx (Operand.redactedAll os)
  | [] => rfl
  | o :: os =>
    congrArg₂ List.cons (o.redacted_renamed false ctx) (Operand.redacted_renamedAll ctx os)

theorem Subquery.redacted_renamed (ctx : Context) : ∀ s : Subquery,
    (s.renamed rules ctx).redacted = s.redacted.renamed rules ctx
  | .query q => congrArg Subquery.query (q.redacted_renamed ctx)
  | .raw _ => rfl

theorem Members.redacted_renamed (ctx : Context) : ∀ vs : Members,
    (vs.renamed rules ctx).redacted = vs.redacted.renamed rules ctx
  | .list vs => congrArg Members.list (Operand.redacted_renamedAll ctx vs)
  | .select s => congrArg Members.select (s.redacted_renamed ctx)

theorem Aggregate.redacted_renamed (ctx : Context) : ∀ a : Aggregate,
    (a.renamed rules ctx).redacted = a.redacted.renamed rules ctx
  | ⟨function, c⟩ => congrArg (Aggregate.mk function) (c.redacted_renamed ctx)

theorem Selectable.redacted_renamed (ctx : Context) : ∀ s : Selectable,
    (s.renamed rules ctx).redacted = s.redacted.renamed rules ctx
  | .column c => congrArg Selectable.column (c.redacted_renamed ctx)
  | .aggregate a => congrArg Selectable.aggregate (a.redacted_renamed ctx)

theorem SelectItem.redacted_renamed (ctx : Context) : ∀ item : SelectItem,
    (item.renamed rules ctx).redacted = item.redacted.renamed rules ctx
  | ⟨aliasName, s⟩ => congrArg (SelectItem.mk aliasName) (s.redacted_renamed ctx)

theorem SelectItem.redacted_renamedAll (ctx : Context) : ∀ items : List SelectItem,
    SelectItem.redactedAll (SelectItem.renamedAll rules ctx items)
      = SelectItem.renamedAll rules ctx (SelectItem.redactedAll items)
  | [] => rfl
  | item :: items =>
    congrArg₂ List.cons (item.redacted_renamed ctx) (SelectItem.redacted_renamedAll ctx items)

theorem Assignment.redacted_renamed (ctx : Context) : ∀ a : Assignment,
    (a.renamed rules ctx).redacted = a.redacted.renamed rules ctx
  | ⟨column, v⟩ =>
    congrArg (Assignment.mk (rules.newName .target ctx column)) (v.redacted_renamed false ctx)

theorem Assignment.redacted_renamedAll (ctx : Context) : ∀ row : List Assignment,
    Assignment.redactedAll (Assignment.renamedAll rules ctx row)
      = Assignment.renamedAll rules ctx (Assignment.redactedAll row)
  | [] => rfl
  | a :: row =>
    congrArg₂ List.cons (a.redacted_renamed ctx) (Assignment.redacted_renamedAll ctx row)

theorem Assignment.redacted_renamedRows (ctx : Context) : ∀ rows : List (List Assignment),
    Assignment.redactedRows (Assignment.renamedRows rules ctx rows)
      = Assignment.renamedRows rules ctx (Assignment.redactedRows rows)
  | [] => rfl
  | row :: rows =>
    congrArg₂ List.cons (Assignment.redacted_renamedAll ctx row)
      (Assignment.redacted_renamedRows ctx rows)

theorem InsertSelect.redacted_renamed (ctx : Context) : ∀ s : InsertSelect,
    (s.renamed rules ctx).redacted = s.redacted.renamed rules ctx
  | ⟨_, select⟩ => congrArg (InsertSelect.mk _) (select.redacted_renamed ctx)

theorem Insert.redacted_renamed (ctx : Context) : ∀ i : Insert,
    (i.renamed rules ctx).redacted = i.redacted.renamed rules ctx
  | .rows rows => congrArg Insert.rows (Assignment.redacted_renamedRows ctx rows)
  | .select s => congrArg Insert.select (s.redacted_renamed ctx)

theorem Insert.redacted_renamedSlot (ctx : Context) : ∀ i : Option Insert,
    Insert.redactedSlot (Insert.renamedSlot rules ctx i)
      = Insert.renamedSlot rules ctx (Insert.redactedSlot i)
  | none => rfl
  | some i => congrArg some (i.redacted_renamed ctx)

theorem Criterion.redacted_renamed (ctx : Context) : ∀ c : Criterion,
    (c.renamed rules ctx).redacted = c.redacted.renamed rules ctx
  | .value c rule v append =>
    congrArg₂ (Criterion.value · rule · append) (c.redacted_renamed ctx)
      (v.redacted_renamed (isPatternRule rule) ctx)
  | .columns l rule r append =>
    congrArg₂ (Criterion.columns · rule · append) (l.redacted_renamed ctx)
      (r.redacted_renamed ctx)
  | .between c low high negated append => by
    simp only [Criterion.renamed, Criterion.redacted, c.redacted_renamed ctx,
      low.redacted_renamed false ctx, high.redacted_renamed false ctx]
  | .group cs negated append =>
    congrArg (Criterion.group · negated append) (Criterion.redacted_renamedAll ctx cs)
  | .exists s negated append =>
    congrArg (Criterion.exists · negated append) (s.redacted_renamed ctx)
  | .member c vs negated append =>
    congrArg₂ (Criterion.member · · negated append) (c.redacted_renamed ctx)
      (vs.redacted_renamed ctx)
  | .null c isNull append => congrArg (Criterion.null · isNull append) (c.redacted_renamed ctx)
  | .raw _ _ => rfl

theorem Criterion.redacted_renamedAll (ctx : Context) : ∀ cs : List Criterion,
    Criterion.redactedAll (Criterion.renamedAll rules ctx cs)
      = Criterion.renamedAll rules ctx (Criterion.redactedAll cs)
  | [] => rfl
  | c :: cs => congrArg₂ List.cons (c.redacted_renamed ctx) (Criterion.redacted_renamedAll ctx cs)

theorem Order.redacted_renamed (ctx : Context) : ∀ o : Order,
    (o.renamed rules ctx).redacted = o.redacted.renamed rules ctx
  | .column c descending => congrArg (Order.column · descending) (c.redacted_renamed ctx)
  | .nulls c nullsFirst => congrArg (Order.nulls · nullsFirst) (c.redacted_renamed ctx)
  | .explicit c vs othersFirst =>
    congrArg₂ (Order.explicit · · othersFirst) (c.redacted_renamed ctx)
      (Operand.redacted_renamedAll ctx vs)
  | .random => rfl

theorem Order.redacted_renamedAll (ctx : Context) : ∀ os : List Order,
    Order.redactedAll (Order.renamedAll rules ctx os)
      = Order.renamedAll rules ctx (Order.redactedAll os)
  | [] => rfl
  | o :: os => congrArg₂ List.cons (o.redacted_renamed ctx) (Order.redacted_renamedAll ctx os)

theorem Join.redacted_renamed (ctx : Context) : ∀ j : Join,
    (j.renamed rules ctx).redacted = j.redacted.renamed rules ctx
  | ⟨kind, t, aliasName, cs⟩ =>
    congrArg₂ (Join.mk kind · aliasName ·) (t.redacted_renamed ctx)
      (Criterion.redacted_renamedAll ctx cs)

theorem Join.redacted_renamedAll (ctx : Context) : ∀ js : List Join,
    Join.redactedAll (Join.renamedAll rules ctx js)
      = Join.renamedAll rules ctx (Join.redactedAll js)
  | [] => rfl
  | j :: js => congrArg₂ List.cons (j.redacted_renamed ctx) (Join.redacted_renamedAll ctx js)

end

/-- So can the renaming of a whole query. -/
theorem RenamingRules.redacted_rename (q : Query) :
    (rules.rename q).redacted = rules.rename q.redacted := by
  rw [rules.rename_eq_renamed, rules.rename_eq_renamed, q.redacted_renamed hrules]

end

/-! ## The rules of the settings -/

theorem Query.tableName?_redacted (q : Query) : q.redacted.tableName? = q.tableName? := by
  unfold Query.tableName?
  rw [Query.table_redacted]
  cases q.table with
  | none => rfl
  | some t => cases t <;> rfl

/-- A qualifier looks at the table and its alias. -/
theorem ColumnQualifier.entersBlindly : ColumnQualifier.rules.EntersBlindly := by
  intro q ctx
  show q.redacted.qualifier? = q.qualifier?
  rw [Query.qualifier?, Query.qualifier?, Query.tableAlias_redacted, Query.tableName?_redacted]

theorem Table.bareName?_redacted (t : Table) (aliasName : Option String) :
    t.redacted.bareName? aliasName = t.bareName? aliasName := by
  cases t <;> rfl

theorem Query.bareNames_redacted (q : Query) : q.redacted.bareNames = q.bareNames := by
  have htable : (Table.redactedSlot q.table).bind (fun t => t.bareName? q.tableAlias)
      = q.table.bind fun t => t.bareName? q.tableAlias := by
    cases q.table with
    | none => rfl
    | some t => exact t.bareName?_redacted q.tableAlias
  have hjoins : (Join.redactedAll q.joins).filterMap (fun j => j.table.bareName? j.aliasName)
      = q.joins.filterMap fun j => j.table.bareName? j.aliasName := by
    induction q.joins with
    | nil => rfl
    | cons j js ih =>
      obtain ⟨kind, t, aliasName, cs⟩ := j
      simp only [Join.redactedAll, Join.redacted, List.filterMap_cons, Table.bareName?_redacted, ih]
  rw [Query.bareNames, Query.bareNames, Query.table_redacted, Query.tableAlias_redacted,
    Query.joins_redacted, htable, hjoins]

/-- A prefixer looks at the tables without an alias. -/
theorem TablePrefixer.entersBlindly (p : TablePrefixer) : p.rules.EntersBlindly := by
  intro q scope
  show TablePrefixer.enter q.redacted scope = TablePrefixer.enter q scope
  rw [TablePrefixer.enter, TablePrefixer.enter, Query.bareNames_redacted]

/-- Settings can be applied before a query is redacted or after it. -/
theorem Config.redacted_apply (c : Config) (q : Query) :
    (c.apply q).redacted = c.apply q.redacted := by
  have hqualified : (c.qualified q).redacted = c.qualified q.redacted := by
    unfold Config.qualified
    split
    · exact RenamingRules.redacted_rename ColumnQualifier.entersBlindly q
    · rfl
  unfold Config.apply
  rw [← hqualified]
  unfold Config.prefixed
  split
  · rfl
  · split
    · rfl
    · exact RenamingRules.redacted_rename (TablePrefixer.entersBlindly _) _

/-! ## Two queries under the same settings -/

/-- **Values do not reach the text.**  Under any settings and in any
dialect, two queries that differ in nothing but values fail with the same
error, or compile to as many statements, with the same texts and with the
same names of bindings at the same positions. -/
theorem Config.statements_blind (c : Config) (d : Dialect) {q q' : Query}
    (same : q.redacted = q'.redacted) :
    Agree (List.Forall₂ fun s s' => s.sql = s'.sql ∧ s.bindings.names = s'.bindings.names)
      ((c.apply q).statements d) ((c.apply q').statements d) := by
  have hleft := (c.apply q).statements_agree d
  have hright := (c.apply q').statements_agree d
  rw [c.redacted_apply] at hleft hright
  rw [same] at hleft
  refine hleft.trans_symm hright fun ss shared ss' hss hss' => ?_
  induction hss generalizing ss' with
  | nil =>
    cases hss'
    exact .nil
  | cons hs _ ih =>
    cases hss' with
    | cons hs' hrest => exact .cons ⟨hs.1.trans hs'.1.symm, hs.2.trans hs'.2.symm⟩ (ih _ hrest)

/-- Rows whose name fits a pattern, with a value in a list, in a raw text
and in the window. -/
def Query.search (pattern value : Value) : Query :=
  { Query.empty with
    table := some (.name "users")
    criteria :=
      [.value (.name "name") "LIKE" (.value pattern) .and,
        .member (.expr (.value value)) (.list [.value value, .value .null]) true .or,
        .raw ⟨"age > :age", .set .empty "age" value⟩ .and]
    order := [.explicit (.name "kind") [.value value] true]
    limit := some (.value value) }

theorem Query.search_blind :
    let c : Config := ⟨.mysql, some "app_", true⟩
    let q := Query.search (.text "a%") (.int 3)
    let q' := Query.search (.text "' OR 1") .null
    q.redacted = q'.redacted ∧ ((c.apply q).statements .mysql).isOk = true
      ∧ Agree (List.Forall₂ fun s s' => s.sql = s'.sql ∧ s.bindings.names = s'.bindings.names)
        ((c.apply q).statements .mysql) ((c.apply q').statements .mysql) :=
  ⟨rfl, rfl, Config.statements_blind _ _ rfl⟩

end SqlTree
