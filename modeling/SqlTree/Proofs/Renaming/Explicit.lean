import SqlTree.Proofs.Renaming.Composition
import SqlTree.Proofs.Scope.Qualifying

/-!
# Columns that are explicit

The qualifier writes the name of a query in front of the bare columns that
are read in it.  After that it has nothing left to do
(`ColumnQualifier.rename_settles`): a second run stays at every node, and the
first one has changed no alias, no table, no written column, and of the
columns that are read only the bare ones of queries with a name.

The second run takes the names of queries from the tree that the first one
made.  They are the same, since a name is an alias or a table, and neither
changes.  So the two runs are in one context at every place, and there a
column that got a qualifier is bare no more.
-/

set_option autoImplicit false

namespace SqlTree

/-! ## Aliases -/

/-- The aliases in the clauses of a query itself: of its table, of its select
list and of its joins. -/
def Query.aliases (q : Query) : List (Option String) :=
  q.tableAlias :: (q.select.map SelectItem.aliasName ++ q.joins.map Join.aliasName)

section

variable {Context : Type} (rules : RenamingRules Context)

theorem SelectItem.aliases_renamedAll (ctx : Context) (items : List SelectItem) :
    (SelectItem.renamedAll rules ctx items).map SelectItem.aliasName
      = items.map SelectItem.aliasName := by
  induction items with
  | nil => rfl
  | cons item items ih =>
    cases item
    simp only [SelectItem.renamedAll, SelectItem.renamed, List.map_cons, ih]

theorem Join.aliases_renamedAll (ctx : Context) (joins : List Join) :
    (Join.renamedAll rules ctx joins).map Join.aliasName = joins.map Join.aliasName := by
  induction joins with
  | nil => rfl
  | cons join joins ih =>
    cases join
    simp only [Join.renamedAll, Join.renamed, List.map_cons, ih]

/-- A renaming leaves the aliases of a query. -/
theorem Query.aliases_renamed (around : Context) (q : Query) :
    (q.renamed rules around).aliases = q.aliases := by
  cases q
  simp only [Query.aliases, Query.renamed, SelectItem.aliases_renamedAll,
    Join.aliases_renamedAll]

theorem RenamingRules.aliases_renamedAround (around : List Query) :
    (rules.renamedAround around).map Query.aliases = around.map Query.aliases := by
  induction around with
  | nil => rfl
  | cons q around ih => simp only [renamedAround, List.map_cons, Query.aliases_renamed, ih]

end

namespace ColumnQualifier

/-! ## Names -/

/-- A star and a column with a dot stay. -/
theorem newName_column_of_not_bare {name : String} (h : ¬IsBareName name)
    (ctx : Option String) : rules.newName .column ctx name = name := by
  have hskip : name = "*" ∨ '.' ∈ name.toList := by
    rw [IsBareName, not_and_or, not_not, not_not] at h
    exact h.symm
  show (qualify name ctx).getD name = name
  rw [qualify, if_pos hskip, Option.getD_none]

/-- Without a name for the query, every column stays. -/
theorem newName_column_of_unnamed (name : String) : rules.newName .column none name = name := by
  show (qualify name none).getD name = name
  rw [qualify]
  split <;> rfl

/-- In one context, a second answer adds nothing. -/
theorem newName_newName (kind : NameKind) (ctx : Option String) (name : String) :
    rules.newName kind ctx (rules.newName kind ctx name) = rules.newName kind ctx name := by
  cases kind with
  | table => rfl
  | target => rfl
  | column =>
    cases ctx with
    | none => rw [newName_column_of_unnamed, newName_column_of_unnamed]
    | some table =>
      by_cases hbare : IsBareName name
      · rw [newName_column hbare]
        refine newName_column_of_not_bare (fun h => h.1 ?_) (some table)
        simp
      · rw [newName_column_of_not_bare hbare, newName_column_of_not_bare hbare]

/-! ## A second run -/

/-- The name of a query survives the renaming of what is in it. -/
theorem qualifier?_renamed (ctx : Option String) (q : Query) :
    (q.renamed rules ctx).qualifier? = q.qualifier? := by
  rw [Query.qualifier?, Query.tableAlias_renamed, tableName?_renamed, Query.qualifier?]

/-- Two runs are one, in the same context at every place. -/
theorem composes : rules.Composes rules rules fun a b c => a = b ∧ b = c where
  root := ⟨rfl, rfl⟩
  enter := by
    rintro a _ _ q ⟨rfl, rfl⟩
    exact ⟨(qualifier?_renamed a q).symm, qualifier?_renamed a q⟩
  newName := by
    rintro a _ _ kind name ⟨rfl, rfl⟩
    exact newName_newName kind a name

/-! ## What one run changes -/

/-- The context of a column is the name of the innermost query around it. -/
theorem within_eq (around : List Query) :
    rules.within around = around.head?.bind Query.qualifier? := by
  cases around <;> rfl

/-- A visit, and the visit at the same place after a run.  Aliases, tables and
written columns stay.  A column that is read stays if it has a dot, is a star,
or belongs to a query without a name; else it has the name of its query in
front of it. -/
inductive IsExplicit : Visit (List Query) → Visit (List Query) → Prop
  | enter {name name' : Option String} {around around' : List Query}
    (haliases : around'.map Query.aliases = around.map Query.aliases) :
    IsExplicit (.enter name around) (.enter name' around')
  | written {kind : NameKind} {name : String} {around around' : List Query} {nodes : List Path}
    (hkind : kind = .table ∨ kind = .target) :
    IsExplicit (.ask kind name around nodes) (.ask kind name around' nodes)
  | stays {name : String} {around around' : List Query} {nodes : List Path}
    (h : '.' ∈ name.toList ∨ name = "*" ∨ around.head?.bind Query.qualifier? = none) :
    IsExplicit (.ask .column name around nodes) (.ask .column name around' nodes)
  | qualified {name table : String} {around around' : List Query} {nodes : List Path}
    (hbare : IsBareName name) (htable : around.head?.bind Query.qualifier? = some table) :
    IsExplicit (.ask .column name around nodes)
      (.ask .column (table ++ "." ++ name) around' nodes)

theorem isExplicit_renamed (v : Visit (List Query)) : IsExplicit v (v.renamed rules) := by
  cases v with
  | enter name around => exact .enter (rules.aliases_renamedAround around)
  | ask kind name around nodes =>
    cases kind with
    | table => exact .written (.inl rfl)
    | target => exact .written (.inr rfl)
    | column =>
      rw [Visit.renamed, within_eq]
      cases htable : around.head?.bind Query.qualifier? with
      | none =>
        rw [newName_column_of_unnamed]
        exact .stays (.inr (.inr htable))
      | some table =>
        by_cases hbare : IsBareName name
        · rw [newName_column hbare]
          exact .qualified hbare htable
        · rw [newName_column_of_not_bare hbare]
          rw [IsBareName, not_and_or, not_not, not_not] at hbare
          exact .stays (hbare.imp_right .inl)

/-- **Explicit columns are settled.**  On what it has made, the qualifier
stays: every question of a second run goes without an answer, and no node is
made anew.  And one run leaves, at every place of a tree, the aliases, the
tables, the written columns and the columns with a dot, the stars and the
columns of queries without a name; every other column has the name of its
query in front of it. -/
theorem rename_settles (q : Query) :
    rules.rename (rules.rename q) = rules.rename q
    ∧ rules.rename? (rules.rename q) = none
    ∧ (∀ v ∈ rules.visits (rules.rename q), v.IsUnanswered rules)
    ∧ rules.rebuilt (rules.rename q) = []
    ∧ List.Forall₂ IsExplicit (RenamingRules.enclosing.visits q)
        (RenamingRules.enclosing.visits (rules.rename q)) := by
  have hfixed : rules.rename (rules.rename q) = rules.rename q := composes.rename_rename q
  have hstays : rules.rename? (rules.rename q) = none := by
    rw [RenamingRules.rename?_eq_none_iff _ neverEchoes, ← rules.rename_eq_renamed]
    exact hfixed
  have traces : Revision.Traces rules _ (rules.rename q) _ _ :=
    (rules.rename q).traces rules.root .root
  have hunanswered : ∀ v ∈ rules.visits (rules.rename q), v.IsUnanswered rules :=
    traces.eq_none_iff.mp hstays
  refine ⟨hfixed, hstays, hunanswered, ?_, q.forall₂_visits_rename rules isExplicit_renamed⟩
  have hnodes : (rules.visits (rules.rename q)).flatMap rules.changedNodes = [] := by
    rw [List.flatMap_eq_nil_iff]
    intro v hv
    have hanswer := hunanswered v hv
    cases v with
    | enter name ctx => rfl
    | ask kind name ctx nodes =>
      rw [RenamingRules.changedNodes, if_neg]
      simp [show rules.answer kind name ctx = none from hanswer]
  rw [RenamingRules.rebuilt, hnodes]
  rfl

end ColumnQualifier

end SqlTree
