import SqlTree.Compile.Write
import SqlTree.Config
import SqlTree.Proofs.Compile.Run
import SqlTree.Proofs.Scope.Prefixing

/-!
# Bare columns and the names of their queries

With explicit tables, a bare column is qualified by the name of the query
that it stands in, and the tables get their prefix after that.  The clause
that names the query's source should then show it under the qualifier of
the column.

For a table without an alias it does: both are the quoted table with its
prefix, database and all.  An alias is quoted as one name in the clause and
part by part in the column, and it has no prefix in the clause but gets one
in the column where it is also the name of an unaliased table around.  So
the two agree exactly for an alias that is bare and, under a prefix, no such
table (`Config.reads_qualified`).
-/

set_option autoImplicit false

namespace SqlTree

/-! ## Sources in clauses -/

/-- The text under which the clauses of a query show its source. -/
def Query.visibleText? (d : Dialect) (q : Query) : Option String :=
  match q.tableAlias with
  | some aliasName => some (d.quoteName aliasName)
  | none => q.tableName?.map d.quoteIdentifier

/-- A clause that shows the source of a query under a text: after AS where
the query has an alias, and else as the table itself. -/
def Query.ShownIn (q : Query) (visible keyword clause : String) : Prop :=
  match q.tableAlias with
  | some _ => ∃ source, clause = keyword ++ " " ++ source ++ " AS " ++ visible
  | none => clause = keyword ++ " " ++ visible

/-- A table without an alias is a source under its name. -/
theorem Query.table_mem_sources {q : Query} {name : String} (haliased : q.tableAlias = none)
    (hname : q.tableName? = some name) : .table name ∈ q.sources := by
  obtain ⟨t, htable, ht⟩ := Option.bind_eq_some_iff.mp hname
  cases t with
  | name n =>
    obtain rfl := Option.some.inj ht
    simp [sources, htable, haliased, Table.sourceName]
  | query q => cases ht
  | raw s => cases ht

/-- Every clause of a query that is compiled with its alias shows its source
under the visible text. -/
theorem Query.returns_shownIn {d : Dialect} {q : Query} {visible : String}
    (hvisible : q.visibleText? d = some visible) (keyword : String) (missing : QueryError) :
    Compiler.Returns (q.ShownIn visible keyword)
      (targetClause d keyword missing (Table.compileOption d q.table) q.tableAlias) := by
  unfold visibleText? at hvisible
  unfold ShownIn
  cases haliased : q.tableAlias with
  | some aliasName =>
    rw [haliased] at hvisible
    obtain rfl := Option.some.inj hvisible
    cases q.table with
    | none =>
      intro b clause b' hrun
      exact absurd hrun Compiler.run_throw_ne_ok
    | some t =>
      refine Compiler.Returns.after fun source => Compiler.Returns.pure ⟨source, ?_⟩
      simp only [Dialect.aliased, String.append_assoc]
  | none =>
    rw [haliased] at hvisible
    obtain ⟨name, hname, rfl⟩ := Option.map_eq_some_iff.mp hvisible
    obtain ⟨t, htable, ht⟩ := Option.bind_eq_some_iff.mp hname
    cases t with
    | name n =>
      obtain rfl := Option.some.inj ht
      rw [htable]
      exact Compiler.Returns.pure rfl
    | query q => cases ht
    | raw s => cases ht

/-! ## The qualifier -/

/-- A name without a dot that is no star. -/
def IsBareName (name : String) : Prop :=
  '.' ∉ name.toList ∧ name ≠ "*"

instance (name : String) : Decidable (IsBareName name) :=
  inferInstanceAs (Decidable (_ ∧ _))

namespace ColumnQualifier

/-- A bare column gets the name of the query around it. -/
theorem newName_column {name table : String} (hbare : IsBareName name) :
    rules.newName .column (some table) name = table ++ "." ++ name := by
  have hqualify : qualify name (some table) = some (table ++ "." ++ name) := by
    rw [qualify, if_neg (by simp [hbare.1, hbare.2]), Option.map_some]
  show (qualify name (some table)).getD name = _
  rw [hqualify, Option.getD_some]

theorem tableName?_renamed (ctx : Option String) (q : Query) :
    (q.renamed rules ctx).tableName? = q.tableName? := by
  cases q with | mk table =>
  cases table with
  | none => rfl
  | some t => cases t <;> rfl

theorem sourceName_renamed (ctx : Option String) (t : Table) (aliasName : Option String) :
    (t.renamed rules ctx).sourceName aliasName = t.sourceName aliasName := by
  cases t <;> cases aliasName <;> rfl

/-- The qualifier leaves the sources of a query. -/
theorem sources_renamed (ctx : Option String) (q : Query) :
    (q.renamed rules ctx).sources = q.sources := by
  cases q with | mk table aliasName _ _ _ _ joins =>
  have hjoins (ctx : Option String) :
      (Join.renamedAll rules ctx joins).map (fun j => j.table.sourceName j.aliasName)
        = joins.map fun j => j.table.sourceName j.aliasName := by
    induction joins with
    | nil => rfl
    | cons j joins ih =>
      cases j
      simp only [Join.renamedAll, Join.renamed, List.map_cons, sourceName_renamed, ih]
  simp only [Query.renamed, Query.sources, hjoins]
  cases table with
  | none => rfl
  | some t => simp [Table.renamedSlot, sourceName_renamed]

theorem scope_renamedAround (around : List Query) :
    (rules.renamedAround around).map Query.sources = around.map Query.sources := by
  induction around with
  | nil => rfl
  | cons q around ih => simp only [RenamingRules.renamedAround, List.map_cons, sources_renamed, ih]

end ColumnQualifier

/-! ## The pipeline -/

/-- Aliases stay. -/
theorem Query.tableAlias_renamed {Context : Type} (rules : RenamingRules Context)
    (around : Context) (q : Query) : (q.renamed rules around).tableAlias = q.tableAlias := by
  cases q
  rfl

theorem TablePrefixer.tableName?_renamed (p : TablePrefixer) (scope : TablesInScope)
    (q : Query) : (q.renamed p.rules scope).tableName? = q.tableName?.map p.table := by
  cases q with | mk table =>
  cases table with
  | none => rfl
  | some t =>
    cases t with
    | name n => exact congrArg some (p.newName_table n _)
    | query q => rfl
    | raw s => rfl

/-- No prefix leaves every name as it is. -/
theorem TablePrefixer.rename_of_isEmpty (p : TablePrefixer) (h : p.tablePrefix.isEmpty = true)
    (q : Query) : p.rules.rename q = q := by
  have hunanswered : ∀ v ∈ q.visits p.rules p.rules.root .root, v.IsUnanswered p.rules := by
    intro v _
    cases v with
    | enter name ctx => trivial
    | ask kind name ctx nodes =>
      cases kind <;>
        simp [Visit.IsUnanswered, RenamingRules.answer, rules, TablePrefixer.column?, h]
  have traces : Revision.Traces p.rules _ q _ _ := q.traces p.rules.root .root
  have hnone : p.rules.rename? q = none := traces.eq_none_iff.mpr hunanswered
  rw [RenamingRules.rename, hnone, Option.getD_none]

namespace Config

variable (c : Config)

/-- The prefixer of the settings.  Without a prefix it changes nothing. -/
def prefixer : TablePrefixer :=
  .inScope (c.tablePrefix.getD "")

theorem prefixed_eq_rename (q : Query) : c.prefixed q = c.prefixer.rules.rename q := by
  unfold prefixed prefixer
  cases c.tablePrefix with
  | none => exact ((TablePrefixer.inScope "").rename_of_isEmpty rfl q).symm
  | some tablePrefix =>
    show (if tablePrefix.isEmpty then q else _) = _
    split
    next h => exact ((TablePrefixer.inScope tablePrefix).rename_of_isEmpty h q).symm
    next => rfl

/-- The read at the same place of the configured tree. -/
def readApplied (r : Read) : Read :=
  (r.renamed ColumnQualifier.rules).renamed c.prefixer.rules

theorem reads_apply (hexplicit : c.explicitTables = true) (q : Query) :
    (c.apply q).reads = q.reads.map c.readApplied := by
  rw [apply, qualified, if_pos hexplicit, prefixed_eq_rename, Query.reads_rename,
    Query.reads_rename, List.map_map]
  rfl

/-- An alias that qualifies columns as it stands in its clause: it is bare,
and gets no prefix as the name of an unaliased table around. -/
def KeepsAlias (scope : Scope) (aliasName : String) : Prop :=
  IsBareName aliasName
    ∧ ((∃ sources ∈ scope, .table aliasName ∈ sources) → c.prefixer.tablePrefix.isEmpty = true)

end Config

/-- How a bare column is qualified by the settings `c`. -/
structure Read.QualifiedBy (c : Config) (d : Dialect) (r r' : Read) : Prop where
  /-- the column stands where it stood -/
  nodes_eq : r'.nodes = r.nodes
  /-- Where the query of the column has a name, the column compiles to what
  its clauses show its source under, a dot and the quoted column; with an
  alias, exactly where the alias is kept. -/
  compiles : ∀ node ∈ r.around.head?, node.qualifier?.isSome = true → IsBareName r.name →
    ∃ node' ∈ r'.around.head?, ∃ visible, node'.visibleText? d = some visible
      ∧ (∀ keyword missing, Compiler.Returns (node'.ShownIn visible keyword)
        (targetClause d keyword missing (Table.compileOption d node'.table) node'.tableAlias))
      ∧ ((Column.name r'.name).compile d = pure (visible ++ "." ++ d.quoteName r.name)
        ↔ ∀ aliasName ∈ node.tableAlias, c.KeepsAlias r.scope aliasName)

namespace Config

variable (c : Config) (d : Dialect) {r : Read} {node : Query} {around : List Query} {name : String}

/-- The qualifier of a bare column in the configured tree: the name of its
query, prefixed where it is an unaliased table around. -/
theorem name_readApplied (haround : r.around = node :: around)
    (hname : node.qualifier? = some name) (hbare : IsBareName r.name) :
    (c.readApplied r).name
      = (if ∃ sources ∈ r.scope, .table name ∈ sources then c.prefixer.table name else name)
        ++ "." ++ r.name := by
  have hwithin : ColumnQualifier.rules.within r.around = some name := by
    rw [haround, ← hname]
    rfl
  have hqualified : (r.renamed ColumnQualifier.rules).name = name ++ "." ++ r.name := by
    rw [Read.renamed, hwithin, ColumnQualifier.newName_column hbare]
  have hsplit : Text.splitLast '.' (r.renamed ColumnQualifier.rules).name.toList
      = some (name.toList, r.name.toList) := by
    rw [hqualified, ← Text.splitLast_append hbare.1]
    simp
  have hscope : (r.renamed ColumnQualifier.rules).scope = r.scope :=
    ColumnQualifier.scope_renamedAround r.around
  have hprefixed := TablePrefixer.name_renamed (c.tablePrefix.getD "") hsplit
  rw [hscope, hqualified, String.ofList_toList] at hprefixed
  rw [readApplied, prefixer, hprefixed]
  split <;> rfl

/-- The query around a column keeps its alias, and its table gets the
prefix. -/
theorem head?_readApplied (haround : r.around = node :: around) :
    ∃ node' ∈ (c.readApplied r).around.head?, node'.tableAlias = node.tableAlias
      ∧ node'.tableName? = node.tableName?.map c.prefixer.table := by
  have haround' : (c.readApplied r).around
      = c.prefixer.rules.renamedAround (ColumnQualifier.rules.renamedAround (node :: around)) := by
    rw [← haround]
    rfl
  rw [haround']
  refine ⟨_, rfl, ?_, ?_⟩
  · rw [Query.tableAlias_renamed, Query.tableAlias_renamed]
  · rw [TablePrefixer.tableName?_renamed, ColumnQualifier.tableName?_renamed]

/-- The column that a node qualifies. -/
theorem compile_readApplied (haround : r.around = node :: around)
    (hname : node.qualifier? = some name) (hbare : IsBareName r.name) :
    (Column.name (c.readApplied r).name).compile d
      = pure (d.quoteIdentifier
          (if ∃ sources ∈ r.scope, .table name ∈ sources then c.prefixer.table name else name)
        ++ "." ++ d.quoteName r.name) := by
  rw [Column.compile, c.name_readApplied haround hname hbare, d.quoteIdentifier_append,
    d.quoteIdentifier_of_bare hbare.1 hbare.2]

/-- A prefix changes the names of tables, unless it is empty. -/
theorem prefixer_table_eq_iff : c.prefixer.table name = name
    ↔ c.prefixer.tablePrefix.isEmpty = true := by
  refine ⟨fun heq => ?_, fun h => c.prefixer.table_of_isEmpty h name⟩
  have hlength := c.prefixer.length_table name
  rw [heq] at hlength
  have hzero : c.prefixer.tablePrefix.length = 0 := by omega
  simpa using hzero

/-- An alias is quoted alike in a clause and before a column exactly where
it is kept. -/
theorem quoteIdentifier_eq_iff_keepsAlias {scope : Scope} {aliasName : String} :
    d.quoteIdentifier (if ∃ sources ∈ scope, .table aliasName ∈ sources then
        c.prefixer.table aliasName else aliasName) = d.quoteName aliasName
      ↔ c.KeepsAlias scope aliasName := by
  rw [d.quoteIdentifier_eq_quoteName_iff, KeepsAlias]
  by_cases hshown : ∃ sources ∈ scope, .table aliasName ∈ sources
  · rw [if_pos hshown, c.prefixer_table_eq_iff]
    constructor
    · rintro ⟨hempty, hbare⟩
      rw [c.prefixer.table_of_isEmpty hempty] at hbare
      exact ⟨hbare, fun _ => hempty⟩
    · rintro ⟨hbare, hkept⟩
      have hempty := hkept hshown
      rw [c.prefixer.table_of_isEmpty hempty]
      exact ⟨hempty, hbare⟩
  · rw [if_neg hshown]
    simp [hshown, IsBareName]

/-- A bare column in the configured tree. -/
theorem qualifiedBy_readApplied (r : Read) : r.QualifiedBy c d (c.readApplied r) := by
  refine ⟨rfl, ?_⟩
  intro node hnode hnamed hbare
  obtain ⟨around, haround⟩ := List.head?_eq_some_iff.mp hnode
  obtain ⟨name, hname⟩ := Option.isSome_iff_exists.mp hnamed
  obtain ⟨node', hnode', halias, htable⟩ := c.head?_readApplied haround
  have hcompile := c.compile_readApplied d haround hname hbare
  suffices h : ∃ visible, node'.visibleText? d = some visible
      ∧ ((Column.name (c.readApplied r).name).compile d
          = pure (visible ++ "." ++ d.quoteName r.name)
        ↔ ∀ aliasName ∈ node.tableAlias, c.KeepsAlias r.scope aliasName) by
    obtain ⟨visible, hvisible, hagrees⟩ := h
    exact ⟨node', hnode', visible, hvisible, Query.returns_shownIn hvisible, hagrees⟩
  rw [hcompile]
  cases haliased : node.tableAlias with
  | some aliasName =>
    obtain rfl : aliasName = name := by simpa [Query.qualifier?, haliased] using hname
    refine ⟨d.quoteName aliasName, ?_, ?_⟩
    · rw [Query.visibleText?, halias, haliased]
    · rw [Compiler.pure_inj, String.append_left_inj, String.append_left_inj,
        quoteIdentifier_eq_iff_keepsAlias]
      simp
  | none =>
    have htableName : node.tableName? = some name := by
      simpa [Query.qualifier?, haliased] using hname
    have hshown : ∃ sources ∈ r.scope, .table name ∈ sources :=
      ⟨node.sources, by simp [Read.scope, haround], node.table_mem_sources haliased htableName⟩
    refine ⟨d.quoteIdentifier (c.prefixer.table name), ?_, ?_⟩
    · rw [Query.visibleText?, halias, haliased, htable, htableName]
      rfl
    · rw [if_pos hshown]
      simp

/-- **Bare columns are qualified as their source is shown.**  The columns
that a configured tree reads are those of the tree, one by one.  Each bare
one whose query has a name compiles to the text under which the clauses of
the query show its source, a dot and the quoted column: always where the
name is that of the table, and for an alias exactly where it is kept. -/
theorem reads_qualified (c : Config) (hexplicit : c.explicitTables = true) (d : Dialect)
    (q : Query) : List.Forall₂ (Read.QualifiedBy c d) q.reads (c.apply q).reads := by
  rw [c.reads_apply hexplicit, List.forall₂_map_right_iff, List.forall₂_same]
  exact fun r _ => c.qualifiedBy_readApplied d r

/-- Users with a sub-query of a table of another database, which has a join
under an alias. -/
def postsOfUsers : Query :=
  { Query.empty with
    table := some (.name "users")
    criteria := [.exists (.query { Query.empty with
      table := some (.name "main.posts")
      tableAlias := some "p"
      joins := [⟨.left, .name "tags", some "t",
        [.columns (.name "tag") "=" (.name "t.id") .and]⟩]
      criteria := [.columns (.name "author") "=" (.name "users.id") .and] }) false .and]
    order := [.column (.name "name") false] }

theorem postsOfUsers_qualified :
    let c : Config := ⟨.common, some "app_", true⟩
    List.Forall₂ (Read.QualifiedBy c .common) postsOfUsers.reads (c.apply postsOfUsers).reads
      ∧ ((c.apply postsOfUsers).compile .common).toOption.map (·.sql) = some
        ("SELECT *\nFROM \"app_users\"\nWHERE EXISTS (SELECT *\n"
          ++ "FROM \"main\".\"app_posts\" AS \"p\"\n"
          ++ "LEFT JOIN \"app_tags\" AS \"t\" ON \"p\".\"tag\" = \"t\".\"id\"\n"
          ++ "WHERE \"p\".\"author\" = \"app_users\".\"id\")\n"
          ++ "ORDER BY \"app_users\".\"name\" ASC") :=
  ⟨reads_qualified _ rfl _ _, by decide +kernel⟩

/-- Users under an alias, with a bare column. -/
def usersAs (aliasName : String) : Query :=
  { Query.empty with
    table := some (.name "users")
    tableAlias := some aliasName
    criteria := [.null (.name "id") true .and] }

/-- Users with posts under the alias that is their name, and a bare column
of the posts. -/
def postsAsUsers : Query :=
  { Query.empty with
    table := some (.name "users")
    criteria := [TablePrefixer.readingThrough "posts" "users" "id"] }

/-- A dot in an alias makes two names of it in the column, and an alias that
is the name of a table around gets the prefix of the table. -/
theorem columns_beside_their_source :
    ((Config.apply ⟨.common, none, true⟩ (usersAs "u.v")).compile .common).toOption.map (·.sql)
        = some "SELECT *\nFROM \"users\" AS \"u.v\"\nWHERE \"u\".\"v\".\"id\" IS NULL"
      ∧ ((Config.apply ⟨.common, some "app_", true⟩ postsAsUsers).compile .common).toOption.map
          (·.sql)
        = some ("SELECT *\nFROM \"app_users\"\nWHERE EXISTS (SELECT *\n"
          ++ "FROM \"app_posts\" AS \"users\"\nWHERE \"app_users\".\"id\" IS NULL)") := by
  constructor <;> decide +kernel

end Config

end SqlTree
