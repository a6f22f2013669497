import SqlTree.Proofs.Scope.Resolution

/-!
# Prefixes and the meaning of columns

A prefixer that minds scopes gives its prefix to every plain table name and
to the columns that are qualified by the plain name of an unaliased table in
scope.  An alias gets no prefix.

So a column goes on to mean its source where the two sides of the change
keep in step.  Two things can bring them out of step, and both need an alias
that meets a table: the prefixed name of a table may be an alias, which then
captures the column or is captured by the table.  Where neither happens,
from the column's own query to that of its source, the column means what it
meant before (`TablePrefixer.reads_keep_sources`).
-/

set_option autoImplicit false

namespace SqlTree

open Text

/-! ## Prefixed names -/

namespace TablePrefixer

variable (p : TablePrefixer)

/-- Without a dot, the prefix comes first. -/
theorem toList_table_of_bare {name : String} (h : splitLast '.' name.toList = none) :
    (p.table name).toList = p.tablePrefix.toList ++ name.toList := by
  simp [table, h]

/-- Else it comes after the last dot. -/
theorem toList_table_of_dotted {name : String} {database table : List Char}
    (h : splitLast '.' name.toList = some (database, table)) :
    (p.table name).toList = database ++ '.' :: (p.tablePrefix.toList ++ table) := by
  simp [TablePrefixer.table, h]

/-- An empty prefix changes no name. -/
theorem table_of_isEmpty (h : p.tablePrefix.isEmpty = true) (name : String) :
    p.table name = name := by
  have hprefix : p.tablePrefix.toList = [] := by simpa using h
  apply String.toList_inj.mp
  cases hsplit : splitLast '.' name.toList with
  | none => rw [p.toList_table_of_bare hsplit, hprefix, List.nil_append]
  | some parts =>
    rw [p.toList_table_of_dotted hsplit, hprefix, List.nil_append]
    exact (splitLast_eq_some hsplit).symm

/-- A prefix brings its dots along. -/
theorem count_table (name : String) :
    (p.table name).toList.count '.' = p.tablePrefix.toList.count '.' + name.toList.count '.' := by
  cases hsplit : splitLast '.' name.toList with
  | none => rw [p.toList_table_of_bare hsplit, List.count_append]
  | some parts =>
    rw [p.toList_table_of_dotted hsplit, splitLast_eq_some hsplit]
    simp only [List.count_append, List.count_cons_self]
    omega

/-- Different tables get different names. -/
theorem table_inj {name name' : String} : p.table name = p.table name' ↔ name = name' := by
  refine ⟨fun heq => ?_, fun heq => heq ▸ rfl⟩
  have hcount : name.toList.count '.' = name'.toList.count '.' := by
    have hcounts := congrArg (fun table : String => table.toList.count '.') heq
    simp only [count_table] at hcounts
    omega
  have hchars := congrArg String.toList heq
  apply String.toList_inj.mp
  -- the dots of a name tell whether there is a database, and where its name ends
  cases hsplit : splitLast '.' name.toList with
  | none =>
    have hbare := List.count_eq_zero.mpr (splitLast_eq_none_iff.mp hsplit)
    have hbare' : '.' ∉ name'.toList := List.count_eq_zero.mp (hcount ▸ hbare)
    rw [p.toList_table_of_bare hsplit,
      p.toList_table_of_bare (splitLast_eq_none_iff.mpr hbare')] at hchars
    exact List.append_cancel_left hchars
  | some parts =>
    cases hsplit' : splitLast '.' name'.toList with
    | none =>
      have hbare' := List.count_eq_zero.mpr (splitLast_eq_none_iff.mp hsplit')
      rw [splitLast_eq_some hsplit] at hcount
      simp only [List.count_append, List.count_cons_self] at hcount
      omega
    | some parts' =>
      have hrest := List.count_eq_zero.mpr (not_mem_of_splitLast hsplit)
      have hrest' := List.count_eq_zero.mpr (not_mem_of_splitLast hsplit')
      rw [splitLast_eq_some hsplit, splitLast_eq_some hsplit'] at hcount ⊢
      simp only [List.count_append, List.count_cons_self] at hcount
      rw [p.toList_table_of_dotted hsplit, p.toList_table_of_dotted hsplit'] at hchars
      obtain ⟨hdatabase, htable⟩ := append_sep_inj_of_count hchars (by omega)
      rw [hdatabase, List.append_cancel_left htable]

/-- A column gets the prefix where its qualifier is a table in scope. -/
theorem newName_column {name : String} {qualifier column : List Char}
    (hsplit : splitLast '.' name.toList = some (qualifier, column)) {names : List String} :
    p.rules.newName .column (some names) name
      = if String.ofList qualifier ∈ names then
          p.table (String.ofList qualifier) ++ "." ++ String.ofList column
        else name := by
  have hname : name = String.ofList qualifier ++ "." ++ String.ofList column := by
    apply String.toList_inj.mp
    simp [splitLast_eq_some hsplit]
  show (p.column? name (some names)).getD name = _
  by_cases hprefix : p.tablePrefix.isEmpty = true
  · simp [column?, hprefix, p.table_of_isEmpty hprefix, ← hname]
  · by_cases hmem : String.ofList qualifier ∈ names <;> simp [column?, hprefix, hsplit, hmem]

/-- Every plain table name gets the prefix. -/
theorem newName_table (name : String) (scope : TablesInScope) :
    p.rules.newName .table scope name = p.table name := by
  show (if p.tablePrefix.isEmpty then none else some (p.table name)).getD name = p.table name
  split
  next hprefix => exact (p.table_of_isEmpty hprefix name).symm
  next => rfl

end TablePrefixer

/-! ## Prefixed sources -/

/-- How a source is visible with prefixed tables. -/
def SourceName.prefixed (p : TablePrefixer) : SourceName → SourceName
  | .aliased name => .aliased name
  | .table name => .table (p.table name)
  | .unnamed => .unnamed

namespace TablePrefixer

variable (p : TablePrefixer)

theorem sourceName_renamed (scope : TablesInScope) (t : Table) (aliasName : Option String) :
    (t.renamed p.rules scope).sourceName aliasName = (t.sourceName aliasName).prefixed p := by
  cases aliasName with
  | some aliasName => cases t <;> rfl
  | none =>
    cases t with
    | name n =>
      show SourceName.table (p.rules.newName .table scope n) = .table (p.table n)
      rw [p.newName_table]
    | query q => rfl
    | raw s => rfl

/-- The sources of a query stay in their places. -/
theorem sources_renamed (scope : TablesInScope) (q : Query) :
    (q.renamed p.rules scope).sources = q.sources.map (SourceName.prefixed p) := by
  cases q with | mk table aliasName _ _ _ _ joins =>
  have hjoins (ctx : TablesInScope) :
      (Join.renamedAll p.rules ctx joins).map (fun j => j.table.sourceName j.aliasName)
        = joins.map fun j => (j.table.sourceName j.aliasName).prefixed p := by
    induction joins with
    | nil => rfl
    | cons j joins ih =>
      cases j
      simp only [Join.renamedAll, Join.renamed, List.map_cons, p.sourceName_renamed, ih]
  simp only [Query.renamed, Query.sources, List.map_cons, List.map_map, hjoins]
  cases table with
  | none => rfl
  | some t => simp [Table.renamedSlot, p.sourceName_renamed, Function.comp_def]

theorem scope_renamedAround (around : List Query) :
    (p.rules.renamedAround around).map Query.sources
      = (around.map Query.sources).map (List.map (SourceName.prefixed p)) := by
  induction around with
  | nil => rfl
  | cons q around ih =>
    simp only [RenamingRules.renamedAround, List.map_cons, p.sources_renamed, ih]

theorem mem_insertName {names : List String} {name name' : String} :
    name ∈ insertName names name' ↔ name ∈ names ∨ name = name' := by
  unfold insertName
  split
  next h =>
    refine ⟨.inl, ?_⟩
    rintro (hmem | rfl)
    · exact hmem
    · exact h
  next => simp

theorem mem_foldl_insertName {names added : List String} {name : String} :
    name ∈ added.foldl insertName names ↔ name ∈ names ∨ name ∈ added := by
  induction added generalizing names with
  | nil => simp
  | cons n added ih => rw [List.foldl_cons, ih, mem_insertName, List.mem_cons, or_assoc]

/-- In the scope of a prefixer are the unaliased tables of all queries
around. -/
theorem within_eq (tablePrefix : String) (around : List Query) :
    ∃ names, (inScope tablePrefix).rules.within around = some names
      ∧ ∀ name, name ∈ names ↔ ∃ sources ∈ around.map Query.sources, .table name ∈ sources := by
  induction around with
  | nil => exact ⟨[], rfl, by simp⟩
  | cons q around ih =>
    obtain ⟨names, hnames, hmem⟩ := ih
    refine ⟨q.bareNames.foldl insertName names, ?_, ?_⟩
    · show enter q ((inScope tablePrefix).rules.within around) = _
      rw [hnames]
      rfl
    · intro name
      rw [mem_foldl_insertName, hmem, Query.mem_bareNames, List.map_cons, or_comm]
      simp only [List.exists_mem_cons_iff]

end TablePrefixer

/-! ## Columns keep their sources -/

/-- How a column means what it meant before the tables got a prefix. -/
structure Read.KeepsSources (p : TablePrefixer) (r r' : Read) : Prop where
  /-- the column stands where it stood -/
  nodes_eq : r'.nodes = r.nodes
  /-- Where the qualifier is the name of an unaliased table, the column gets
  the prefix.  It means the same table where the prefixed name is no alias,
  up to the query of the table. -/
  of_table : ∀ name res, r.qualifier? = some name → r.resolve? = some res →
    (∀ sources ∈ r.scope[res.level]?, .aliased name ∉ sources) →
      r'.qualifier? = some (p.table name)
        ∧ (r'.resolve? = some res
          ↔ ∀ sources ∈ r.scope.take (res.level + 1), .aliased (p.table name) ∉ sources)
  /-- Where the qualifier is an alias and no unaliased table around has its
  name, the column keeps its text.  It means the same source where no
  unaliased table is prefixed to the alias, up to the query of the source. -/
  of_alias : ∀ name res, r.qualifier? = some name → r.resolve? = some res →
    (∀ sources ∈ r.scope, .table name ∉ sources) →
      r'.name = r.name
        ∧ (r'.resolve? = some res
          ↔ ∀ sources ∈ r.scope.take (res.level + 1), ∀ table, .table table ∈ sources →
            p.table table ≠ name)

namespace Read

variable {r : Read} {name : String}

theorem resolve?_of_qualifier? (h : r.qualifier? = some name) :
    r.resolve? = r.scope.resolve? name := by
  rw [resolve?, h, Option.bind_some]

/-- The qualifier of a column is cut off at the last dot. -/
theorem splitLast_of_qualifier? (h : r.qualifier? = some name) :
    ∃ column, splitLast '.' r.name.toList = some (name.toList, column) := by
  obtain ⟨⟨qualifier, column⟩, hsplit, rfl⟩ := Option.map_eq_some_iff.mp h
  exact ⟨column, by simpa using hsplit⟩

/-- A qualifier and a column without a dot make a qualified column. -/
theorem qualifier?_of_name {column : List Char} (hdot : '.' ∉ column)
    (h : r.name = name ++ "." ++ String.ofList column) : r.qualifier? = some name := by
  have hchars : r.name.toList = name.toList ++ '.' :: column := by simp [h]
  simp [qualifier?, hchars, splitLast_append hdot]

end Read

namespace Scope

variable {scope : Scope} {res : Resolution} {name : String}

/-- What a name means, it shows as an alias or as a table. -/
theorem exists_source_of_resolve? (h : scope.resolve? name = some res) :
    ∃ sources, scope[res.level]? = some sources
      ∧ (.aliased name ∈ sources ∨ .table name ∈ sources) := by
  obtain ⟨sources, hsources, hpositions, hne⟩ := shown_of_resolve? h
  rw [← hpositions, ne_eq, SourceName.positions_eq_nil_iff] at hne
  push Not at hne
  obtain ⟨source, hmem, hvisible⟩ := hne
  refine ⟨sources, hsources, ?_⟩
  cases source with
  | aliased n =>
    obtain rfl : n = name := by simpa [SourceName.visible?] using hvisible
    exact .inl hmem
  | table n =>
    obtain rfl : n = name := by simpa [SourceName.visible?] using hvisible
    exact .inr hmem
  | unnamed => simp [SourceName.visible?] at hvisible

/-- A name that is no alias in the query of its sources is none before. -/
theorem not_aliased_of_resolve? (h : scope.resolve? name = some res)
    (hlevel : ∀ sources ∈ scope[res.level]?, .aliased name ∉ sources) :
    ∀ sources ∈ scope.take (res.level + 1), .aliased name ∉ sources := by
  intro sources hsources
  rw [List.take_add_one, List.mem_append, Option.mem_toList] at hsources
  rcases hsources with hinner | hlast
  · intro hmem
    have hhidden := hidden_of_resolve? h sources hinner
    exact SourceName.positions_eq_nil_iff.mp hhidden _ hmem rfl
  · exact hlevel sources hlast

end Scope

namespace TablePrefixer

section

variable (tablePrefix : String) {r : Read} {name : String} {res : Resolution}

theorem scope_renamed :
    (r.renamed (inScope tablePrefix).rules).scope
      = r.scope.map (List.map (SourceName.prefixed (inScope tablePrefix))) :=
  scope_renamedAround _ r.around

/-- A qualified column gets the prefix where its qualifier is an unaliased
table around it. -/
theorem name_renamed {column : List Char}
    (hsplit : splitLast '.' r.name.toList = some (name.toList, column)) :
    (r.renamed (inScope tablePrefix).rules).name
      = if ∃ sources ∈ r.scope, .table name ∈ sources then
          (inScope tablePrefix).table name ++ "." ++ String.ofList column
        else r.name := by
  obtain ⟨names, hnames, hmem⟩ := within_eq tablePrefix r.around
  show (inScope tablePrefix).rules.newName .column
    ((inScope tablePrefix).rules.within r.around) r.name = _
  rw [hnames, newName_column _ hsplit, String.ofList_toList]
  exact if_congr (hmem name) rfl rfl

/-- A column of an unaliased table gets the prefix, and means the table
where no alias captures it. -/
theorem resolve?_renamed_of_table (hname : r.qualifier? = some name)
    (hres : r.resolve? = some res)
    (hlevel : ∀ sources ∈ r.scope[res.level]?, .aliased name ∉ sources) :
    (r.renamed (inScope tablePrefix).rules).qualifier? = some ((inScope tablePrefix).table name)
      ∧ ((r.renamed (inScope tablePrefix).rules).resolve? = some res
        ↔ ∀ sources ∈ r.scope.take (res.level + 1),
          .aliased ((inScope tablePrefix).table name) ∉ sources) := by
  rw [Read.resolve?_of_qualifier? hname] at hres
  obtain ⟨column, hsplit⟩ := Read.splitLast_of_qualifier? hname
  have hshown : ∃ sources ∈ r.scope, .table name ∈ sources := by
    obtain ⟨sources, hsources, halias | htable⟩ := Scope.exists_source_of_resolve? hres
    · exact absurd halias (hlevel sources hsources)
    · exact ⟨sources, List.mem_of_getElem? hsources, htable⟩
  have hname' := (name_renamed tablePrefix hsplit).trans (if_pos hshown)
  have hqualifier := Read.qualifier?_of_name (not_mem_of_splitLast hsplit) hname'
  refine ⟨hqualifier, ?_⟩
  rw [Read.resolve?_of_qualifier? hqualifier, scope_renamed, Scope.resolve?_map_iff hres]
  have hnoAlias := Scope.not_aliased_of_resolve? hres hlevel
  constructor
  · intro hsame sources hsources hcapture
    have hvisible := (hsame sources hsources _ hcapture).mp rfl
    obtain heq : (inScope tablePrefix).table name = name := by
      simpa [SourceName.visible?] using hvisible
    exact hnoAlias sources hsources (heq ▸ hcapture)
  · intro hfree sources hsources source hsource
    cases source with
    | aliased n =>
      have hne : n ≠ name := by
        rintro rfl
        exact hnoAlias sources hsources hsource
      have hne' : n ≠ (inScope tablePrefix).table name := by
        rintro rfl
        exact hfree sources hsources hsource
      simp [SourceName.prefixed, SourceName.visible?, hne, hne']
    | table n => simp [SourceName.prefixed, SourceName.visible?, table_inj]
    | unnamed => simp [SourceName.prefixed, SourceName.visible?]

/-- A column of an alias keeps its text, and means the source where no
prefixed table takes its place. -/
theorem resolve?_renamed_of_alias (hname : r.qualifier? = some name)
    (hres : r.resolve? = some res) (hnoTable : ∀ sources ∈ r.scope, .table name ∉ sources) :
    (r.renamed (inScope tablePrefix).rules).name = r.name
      ∧ ((r.renamed (inScope tablePrefix).rules).resolve? = some res
        ↔ ∀ sources ∈ r.scope.take (res.level + 1), ∀ table, .table table ∈ sources →
          (inScope tablePrefix).table table ≠ name) := by
  rw [Read.resolve?_of_qualifier? hname] at hres
  obtain ⟨column, hsplit⟩ := Read.splitLast_of_qualifier? hname
  have hnotShown : ¬ ∃ sources ∈ r.scope, .table name ∈ sources := by
    rintro ⟨sources, hsources, htable⟩
    exact hnoTable sources hsources htable
  have hname' := (name_renamed tablePrefix hsplit).trans (if_neg hnotShown)
  have hqualifier : (r.renamed (inScope tablePrefix).rules).qualifier? = some name := by
    rw [Read.qualifier?, hname']
    exact hname
  refine ⟨hname', ?_⟩
  rw [Read.resolve?_of_qualifier? hqualifier, scope_renamed, Scope.resolve?_map_iff hres]
  constructor
  · intro hsame sources hsources table htable heq
    have hvisible := (hsame sources hsources _ htable).mp
      (by simp [SourceName.prefixed, SourceName.visible?, heq])
    obtain rfl : table = name := by simpa [SourceName.visible?] using hvisible
    exact hnoTable sources (List.mem_of_mem_take hsources) htable
  · intro hfree sources hsources source hsource
    cases source with
    | aliased n => rfl
    | table n =>
      have hne : n ≠ name := by
        rintro rfl
        exact hnoTable sources (List.mem_of_mem_take hsources) hsource
      simp [SourceName.prefixed, SourceName.visible?, hne, hfree sources hsources n hsource]
    | unnamed => rfl

end

/-- **Columns keep their sources under a prefix.**  The columns that a
prefixed tree reads are those of the tree, one by one, and each that means
a source goes on to mean it, unless an alias meets the name of a table. -/
theorem reads_keep_sources (tablePrefix : String) (q : Query) :
    List.Forall₂ (Read.KeepsSources (inScope tablePrefix)) q.reads
      ((inScope tablePrefix).rules.rename q).reads := by
  rw [Query.reads_rename, List.forall₂_map_right_iff, List.forall₂_same]
  intro r _
  exact ⟨rfl, fun _ _ => resolve?_renamed_of_table tablePrefix,
    fun _ _ => resolve?_renamed_of_alias tablePrefix⟩

/-! An alias meets a table in three ways.  It is the prefixed name of a
table, which it hides from then on, or which hides it; or it hides the
plain name of a table already. -/

/-- A sub-query of a table and an alias that asks for a column. -/
def readingThrough (table aliasName column : String) : Criterion :=
  .exists (.query { Query.empty with
    table := some (.name table)
    tableAlias := some aliasName
    criteria := [.null (.name column) true .and] }) false .and

/-- A query of users and of teams under an alias, with aliases inside that
meet them. -/
def meetingAliases : Query :=
  { Query.empty with
    table := some (.name "users")
    joins := [⟨.inner, .name "teams", some "app_bans", []⟩]
    select := [⟨none, .column (.name "users.id")⟩]
    criteria := [readingThrough "posts" "app_users" "users.id",
      readingThrough "posts" "users" "users.id",
      .exists (.query { Query.empty with
        table := some (.name "bans")
        criteria := [.null (.name "app_bans.id") true .and] }) false .and] }

/-- Only the first of these columns goes on to mean its source. -/
theorem sources_of_meetingAliases :
    meetingAliases.reads.map Read.resolve?
        = [some ⟨0, [0]⟩, some ⟨1, [0]⟩, some ⟨0, [0]⟩, some ⟨1, [1]⟩]
      ∧ ((inScope "app_").rules.rename meetingAliases).reads.map Read.resolve?
        = [some ⟨0, [0]⟩, some ⟨0, [0]⟩, some ⟨1, [0]⟩, some ⟨0, [0]⟩] := by
  constructor <;> decide +kernel

end TablePrefixer

end SqlTree
