import SqlTree.Proofs.Renaming.Composition
import SqlTree.Proofs.Scope.Prefixing

/-!
# Prefixes without scopes

A prefixer without scopes gives its prefix to every table name and to the
table part of every qualified column, read or written, at any depth.  It asks
nothing of the queries around a name, so its laws are those of single names,
carried to trees by the walk over two renamings.

Two laws hold (`TablePrefixer.everywhere_laws`).  One prefix and then another
are the two as one, if the first has no dot: a dot in it would move the place
where the second prefix goes.  And no two trees become the same one, whatever
the prefix is: a prefix brings the same dots to every table, so the dots of a
name tell what they told before.
-/

set_option autoImplicit false

namespace SqlTree

open Text

namespace TablePrefixer

/-! ## Names -/

/-- A column with the prefix in its table part, where it has one. -/
def columnEverywhere (p : TablePrefixer) (name : String) : String :=
  match splitLast '.' name.toList with
  | some (table, column) => p.table (String.ofList table) ++ "." ++ String.ofList column
  | none => name

/-- A qualified column is cut before the column. -/
theorem splitLast_of_qualified (table : String) {column : String} (h : '.' ∉ column.toList) :
    splitLast '.' (table ++ "." ++ column).toList = some (table.toList, column.toList) := by
  simpa using splitLast_append h table.toList

section

variable (p : TablePrefixer)

theorem columnEverywhere_of_bare {name : String} (h : '.' ∉ name.toList) :
    p.columnEverywhere name = name := by
  rw [columnEverywhere, splitLast_eq_none_iff.mpr h]

theorem columnEverywhere_of_qualified (table : String) {column : String}
    (h : '.' ∉ column.toList) :
    p.columnEverywhere (table ++ "." ++ column) = p.table table ++ "." ++ column := by
  simp only [columnEverywhere, splitLast_of_qualified table h, String.ofList_toList]

/-- A name is bare, or it is qualified by what stands before its last dot. -/
theorem bare_or_qualified (name : String) : '.' ∉ name.toList
    ∨ ∃ table column, name = table ++ "." ++ column ∧ '.' ∉ column.toList := by
  cases hsplit : splitLast '.' name.toList with
  | none => exact .inl (splitLast_eq_none_iff.mp hsplit)
  | some parts =>
    refine .inr ⟨String.ofList parts.1, String.ofList parts.2, ?_, ?_⟩
    · apply String.toList_inj.mp
      simpa using splitLast_eq_some hsplit
    · simpa using not_mem_of_splitLast hsplit

/-- Different columns get different names. -/
theorem columnEverywhere_injective : Function.Injective p.columnEverywhere := by
  intro name name' heq
  obtain hbare | ⟨table, column, rfl, hcolumn⟩ := bare_or_qualified name <;>
    obtain hbare' | ⟨table', column', rfl, hcolumn'⟩ := bare_or_qualified name'
  · rwa [p.columnEverywhere_of_bare hbare, p.columnEverywhere_of_bare hbare'] at heq
  · rw [p.columnEverywhere_of_bare hbare, p.columnEverywhere_of_qualified table' hcolumn'] at heq
    exact absurd (by simp [heq]) hbare
  · rw [p.columnEverywhere_of_bare hbare', p.columnEverywhere_of_qualified table hcolumn] at heq
    exact absurd (by simp [← heq]) hbare'
  · rw [p.columnEverywhere_of_qualified table hcolumn,
      p.columnEverywhere_of_qualified table' hcolumn'] at heq
    -- the last dot of the new name is that of the old one
    have hsplit := splitLast_of_qualified (p.table table) hcolumn
    rw [heq, splitLast_of_qualified (p.table table') hcolumn'] at hsplit
    obtain ⟨htable, hrest⟩ := Prod.mk.inj (Option.some.inj hsplit)
    rw [String.toList_inj] at htable hrest
    rw [p.table_inj.mp htable.symm, hrest]

end

section

variable {first second : String} (h : '.' ∉ first.toList)

include h

/-- A table gets the prefixes one before the other. -/
theorem table_table (name : String) :
    (everywhere second).table ((everywhere first).table name)
      = (everywhere (second ++ first)).table name := by
  apply String.toList_inj.mp
  have hdot (table : List Char) (htable : '.' ∉ table) : '.' ∉ first.toList ++ table := by
    rw [List.mem_append, not_or]
    exact ⟨h, htable⟩
  cases hsplit : splitLast '.' name.toList with
  | none =>
    have hfirst := (everywhere first).toList_table_of_bare hsplit
    have hsecond : splitLast '.' ((everywhere first).table name).toList = none := by
      rw [hfirst, splitLast_eq_none_iff]
      exact hdot _ (splitLast_eq_none_iff.mp hsplit)
    rw [(everywhere second).toList_table_of_bare hsecond, hfirst,
      (everywhere (second ++ first)).toList_table_of_bare hsplit]
    simp [everywhere]
  | some parts =>
    have hfirst := (everywhere first).toList_table_of_dotted hsplit
    have hsecond : splitLast '.' ((everywhere first).table name).toList
        = some (parts.1, first.toList ++ parts.2) := by
      rw [hfirst]
      exact splitLast_append (hdot _ (not_mem_of_splitLast hsplit)) parts.1
    rw [(everywhere second).toList_table_of_dotted hsecond,
      (everywhere (second ++ first)).toList_table_of_dotted hsplit]
    simp [everywhere]

theorem columnEverywhere_columnEverywhere (name : String) :
    (everywhere second).columnEverywhere ((everywhere first).columnEverywhere name)
      = (everywhere (second ++ first)).columnEverywhere name := by
  obtain hbare | ⟨table, column, rfl, hcolumn⟩ := bare_or_qualified name
  · rw [columnEverywhere_of_bare _ hbare, columnEverywhere_of_bare _ hbare,
      columnEverywhere_of_bare _ hbare]
  · rw [columnEverywhere_of_qualified _ table hcolumn, columnEverywhere_of_qualified _ _ hcolumn,
      columnEverywhere_of_qualified _ table hcolumn, table_table h]

end

/-! ## Rules -/

/-- The new name of a name of each kind. -/
def nameEverywhere (p : TablePrefixer) : NameKind → String → String
  | .table => p.table
  | .column | .target => p.columnEverywhere

section

variable (p : TablePrefixer)

/-- Where every name is in scope, every qualified column gets the prefix. -/
theorem newName_everywhere (kind : NameKind) (name : String) :
    p.rules.newName kind none name = p.nameEverywhere kind name := by
  have hcolumn : (p.column? name none).getD name = p.columnEverywhere name := by
    unfold column? columnEverywhere
    cases hsplit : splitLast '.' name.toList with
    | none => simp
    | some parts =>
      by_cases hempty : p.tablePrefix.isEmpty = true
      · rw [if_pos hempty, Option.getD_none]
        apply String.toList_inj.mp
        simpa [p.table_of_isEmpty hempty] using splitLast_eq_some hsplit
      · simp [hempty]
  cases kind with
  | table => exact p.newName_table name none
  | column => exact hcolumn
  | target => exact hcolumn

theorem nameEverywhere_injective (kind : NameKind) :
    Function.Injective (p.nameEverywhere kind) := by
  cases kind with
  | table => exact fun _ _ => p.table_inj.mp
  | column => exact p.columnEverywhere_injective
  | target => exact p.columnEverywhere_injective

end

theorem nameEverywhere_nameEverywhere {first second : String} (h : '.' ∉ first.toList)
    (kind : NameKind) (name : String) :
    (everywhere second).nameEverywhere kind ((everywhere first).nameEverywhere kind name)
      = (everywhere (second ++ first)).nameEverywhere kind name := by
  cases kind with
  | table => exact table_table h name
  | column => exact columnEverywhere_columnEverywhere h name
  | target => exact columnEverywhere_columnEverywhere h name

/-- The two prefixers in a row, each in the context without scopes. -/
theorem everywhere_composes {first second : String} (h : '.' ∉ first.toList) :
    (everywhere first).rules.Composes (everywhere second).rules
      (everywhere (second ++ first)).rules fun a b c => a = none ∧ b = none ∧ c = none where
  root := ⟨rfl, rfl, rfl⟩
  enter := by
    rintro _ _ _ q ⟨rfl, rfl, rfl⟩
    exact ⟨rfl, rfl, rfl⟩
  newName := by
    rintro _ _ _ kind name ⟨rfl, rfl, rfl⟩
    rw [newName_everywhere, newName_everywhere, newName_everywhere,
      nameEverywhere_nameEverywhere h]

/-! ## Trees -/

/-- A visit, and the visit at the same place with the prefix: tables and
qualified columns have it, and bare columns stay. -/
inductive IsPrefixed (p : TablePrefixer) : Visit (List Query) → Visit (List Query) → Prop
  | enter {name name' : Option String} {around around' : List Query} :
    IsPrefixed p (.enter name around) (.enter name' around')
  | table {name : String} {around around' : List Query} {nodes : List Path} :
    IsPrefixed p (.ask .table name around nodes) (.ask .table (p.table name) around' nodes)
  | qualified {kind : NameKind} {table column : String} {around around' : List Query}
    {nodes : List Path} (hkind : kind ≠ .table) (hcolumn : '.' ∉ column.toList) :
    IsPrefixed p (.ask kind (table ++ "." ++ column) around nodes)
      (.ask kind (p.table table ++ "." ++ column) around' nodes)
  | bare {kind : NameKind} {column : String} {around around' : List Query} {nodes : List Path}
    (hkind : kind ≠ .table) (hcolumn : '.' ∉ column.toList) :
    IsPrefixed p (.ask kind column around nodes) (.ask kind column around' nodes)

/-- Without scopes, no query changes the context. -/
theorem within_everywhere (tablePrefix : String) (around : List Query) :
    (everywhere tablePrefix).rules.within around = none := by
  induction around with
  | nil => rfl
  | cons q around ih => rw [RenamingRules.within, ih]; rfl

theorem isPrefixed_renamed (tablePrefix : String) (v : Visit (List Query)) :
    (everywhere tablePrefix).IsPrefixed v (v.renamed (everywhere tablePrefix).rules) := by
  cases v with
  | enter name around => exact .enter
  | ask kind name around nodes =>
    have hcolumn (hkind : kind ≠ .table) : (everywhere tablePrefix).IsPrefixed
        (.ask kind name around nodes) (.ask kind ((everywhere tablePrefix).columnEverywhere name)
          ((everywhere tablePrefix).rules.renamedAround around) nodes) := by
      obtain hbare | ⟨table, column, rfl, hcolumn⟩ := bare_or_qualified name
      · rw [columnEverywhere_of_bare _ hbare]
        exact .bare hkind hbare
      · rw [columnEverywhere_of_qualified _ table hcolumn]
        exact .qualified hkind hcolumn
    rw [Visit.renamed, within_everywhere, newName_everywhere]
    cases kind with
    | table => exact .table
    | column => exact hcolumn (by decide)
    | target => exact hcolumn (by decide)

/-- **The laws of prefixes without scopes.**  One prefix without a dot, and
then any other, make of a tree what the two make as one prefix.  Different
trees stay different.  And at every place of a tree, tables and the table
parts of qualified columns, read or written, have the prefix then, and bare
columns are as they were. -/
theorem everywhere_laws :
    (∀ first second : String, '.' ∉ first.toList → ∀ q : Query,
      q.processed [(everywhere first).rules.rename, (everywhere second).rules.rename]
        = (everywhere (second ++ first)).rules.rename q)
    ∧ (∀ tablePrefix : String, Function.Injective (everywhere tablePrefix).rules.rename)
    ∧ ∀ (tablePrefix : String) (q : Query),
      List.Forall₂ (everywhere tablePrefix).IsPrefixed (RenamingRules.enclosing.visits q)
        (RenamingRules.enclosing.visits ((everywhere tablePrefix).rules.rename q)) := by
  refine ⟨fun first second h q => ?_, fun tablePrefix => ?_, fun tablePrefix q => ?_⟩
  · exact (everywhere_composes h).rename_rename q
  · refine RenamingRules.rename_injective (fun q => rfl) fun kind => ?_
    have hnames : (everywhere tablePrefix).rules.newName kind none
        = (everywhere tablePrefix).nameEverywhere kind :=
      funext fun name => newName_everywhere _ kind name
    exact hnames ▸ nameEverywhere_injective _ kind
  · exact q.forall₂_visits_rename _ (isPrefixed_renamed tablePrefix)

/-- An UPDATE of a table in a database, with columns that are qualified by it
and by nothing. -/
def archivedUsers : Query :=
  { Query.empty with
    table := some (.name "db.users")
    update := [⟨"db.users.name", .query { Query.empty with
      table := some (.name "names")
      select := [⟨none, .column (.name "names.first")⟩] }⟩]
    criteria := [.null (.name "id") true .and, .null (.name ".x.") true .and] }

theorem archivedUsers_prefixed :
    '.' ∉ "a_".toList
      ∧ archivedUsers.processed
          [(everywhere "a_").rules.rename, (everywhere "b.c_").rules.rename]
        = (everywhere ("b.c_" ++ "a_")).rules.rename archivedUsers := by
  have hdot : '.' ∉ "a_".toList := by decide
  exact ⟨hdot, everywhere_laws.1 "a_" "b.c_" hdot archivedUsers⟩

/-- A dot in the first prefix moves the place of the second one. -/
example : (everywhere "b_").table ((everywhere "a.").table "users") = "a.b_users"
    ∧ (everywhere ("b_" ++ "a.")).table "users" = "b_a.users" := by
  decide +kernel

end TablePrefixer

end SqlTree
