import Mathlib.Data.List.Forall2
import SqlTree.Proofs.Scope.Reads
import SqlTree.Renaming.Prefixer

/-!
# What a qualified column means

The sources of a query are its table and its joined tables.  A source with
an alias is visible under the alias, and one without under its plain name;
a sub-query or a text without an alias is visible under no name.

A column is qualified by what stands before its last dot.  The qualifier
means the source that is visible under it in the innermost query around
the column that has one (`Scope.resolve?`).  Where that query has several,
the column is ambiguous, and its resolution holds them all.

`Scope.resolve?_map_iff` says when a qualifier goes on to mean the same
after the sources have got new names: exactly where in no query, from the
column's own to that of the source, another source comes under the
qualifier, or one leaves it.
-/

set_option autoImplicit false

namespace SqlTree

open Text

/-! ## Sources -/

/-- How a source is visible. -/
inductive SourceName where
  /-- under an alias -/
  | aliased (name : String)
  /-- under the plain name of a table -/
  | table (name : String)
  | unnamed
deriving DecidableEq

/-- The name under which a source is visible. -/
def SourceName.visible? : SourceName → Option String
  | .aliased name => some name
  | .table name => some name
  | .unnamed => none

/-- How a table is visible, with its alias. -/
def Table.sourceName : Table → Option String → SourceName
  | _, some aliasName => .aliased aliasName
  | .name n, none => .table n
  | _, none => .unnamed

/-- How the sources of a query are visible: its table, and its joins in
order. -/
def Query.sources (q : Query) : List SourceName :=
  (q.table.elim .unnamed (·.sourceName q.tableAlias))
    :: q.joins.map fun j => j.table.sourceName j.aliasName

/-- The plain names of a query are those of its sources without an alias. -/
theorem Query.mem_bareNames {q : Query} {name : String} :
    name ∈ q.bareNames ↔ .table name ∈ q.sources := by
  have hname (t : Table) (aliasName : Option String) :
      t.bareName? aliasName = some name ↔ t.sourceName aliasName = .table name := by
    cases aliasName <;> cases t <;> simp [Table.bareName?, Table.sourceName, Table.name?]
  have htable : name ∈ (q.table.bind fun t => t.bareName? q.tableAlias).toList
      ↔ .table name = q.table.elim .unnamed (·.sourceName q.tableAlias) := by
    cases q.table with
    | none => simp
    | some t => simp [hname, eq_comm]
  simp [Query.bareNames, Query.sources, htable, hname]

/-! ## Resolution -/

/-- The sources of queries that stand in each other, the innermost query
first. -/
abbrev Scope := List (List SourceName)

/-- The sources that a name means. -/
structure Resolution where
  /-- how many queries lie between the column and the query of the sources -/
  level : Nat
  /-- the positions of the sources in that query -/
  positions : List Nat
deriving DecidableEq

/-- The same sources, from one query further inside. -/
def Resolution.outward (res : Resolution) : Resolution :=
  { res with level := res.level + 1 }

theorem Resolution.map_outward_eq_some_iff {found? : Option Resolution} {res : Resolution} :
    found?.map outward = some res.outward ↔ found? = some res := by
  cases found? with
  | none => simp
  | some found =>
    cases found
    cases res
    simp [outward]

/-- The positions of the sources that are visible under a name. -/
def SourceName.positions (name : String) (sources : List SourceName) : List Nat :=
  sources.findIdxs fun source => source.visible? = some name

/-- What a name means: the sources that are visible under it in the first
query that has one. -/
def Scope.resolve? (name : String) : Scope → Option Resolution
  | [] => none
  | sources :: around =>
    match SourceName.positions name sources with
    | [] => (resolve? name around).map .outward
    | positions => some ⟨0, positions⟩

/-- What qualifies a column. -/
def Read.qualifier? (r : Read) : Option String :=
  (splitLast '.' r.name.toList).map fun parts => String.ofList parts.1

/-- The sources that are in scope of a read. -/
def Read.scope (r : Read) : Scope :=
  r.around.map Query.sources

/-- The sources that a qualified column means. -/
def Read.resolve? (r : Read) : Option Resolution :=
  r.qualifier?.bind r.scope.resolve?

namespace SourceName

variable {name name' : String} {sources : List SourceName} {f : SourceName → SourceName}

/-- A name has no position where no source is visible under it. -/
theorem positions_eq_nil_iff :
    positions name sources = [] ↔ ∀ source ∈ sources, source.visible? ≠ some name := by
  simp [positions, List.findIdxs_eq_nil_iff]

/-- Sources with new names have the same positions where the same ones are
visible. -/
theorem positions_map_eq_iff :
    positions name' (sources.map f) = positions name sources
      ↔ ∀ source ∈ sources, (f source).visible? = some name' ↔ source.visible? = some name := by
  unfold positions
  rw [List.findIdxs_map]
  constructor
  · intro heq source hsource
    obtain ⟨i, hi, rfl⟩ := List.mem_iff_getElem.mp hsource
    have hmem := congrArg (i ∈ ·) heq
    simpa [List.mem_findIdxs_iff_pos_getElem hi] using hmem
  · intro hall
    generalize 0 = start
    induction sources generalizing start with
    | nil => rfl
    | cons source sources ih =>
      obtain ⟨hsource, hrest⟩ := List.forall_mem_cons.mp hall
      simp only [List.findIdxs_cons, Function.comp_apply, hsource, ih hrest]

end SourceName

namespace Scope

open SourceName (positions)

variable {name name' : String} {scope : Scope} {res : Resolution}

/-- A query that shows the name decides what it means. -/
theorem resolve?_of_shown {sources : List SourceName} (h : positions name sources ≠ [])
    (around : Scope) : resolve? name (sources :: around) = some ⟨0, positions name sources⟩ := by
  unfold resolve?
  split
  next hnil => exact absurd hnil h
  next => rfl

/-- A query that does not show it leaves it to the queries around. -/
theorem resolve?_of_hidden {sources : List SourceName} (h : positions name sources = [])
    (around : Scope) :
    resolve? name (sources :: around) = (resolve? name around).map .outward := by
  rw [resolve?, h]

/-- A name that means something is shown by the innermost query, or means the
same to the queries around. -/
theorem cases_of_resolve? {sources : List SourceName} {around : Scope}
    (h : resolve? name (sources :: around) = some res) :
    (positions name sources ≠ [] ∧ res = ⟨0, positions name sources⟩)
    ∨ positions name sources = [] ∧ ∃ inner, resolve? name around = some inner
      ∧ res = inner.outward := by
  by_cases hshown : positions name sources = []
  · rw [resolve?_of_hidden hshown] at h
    obtain ⟨inner, hinner, rfl⟩ := Option.map_eq_some_iff.mp h
    exact .inr ⟨hshown, inner, hinner, rfl⟩
  · rw [resolve?_of_shown hshown] at h
    exact .inl ⟨hshown, (Option.some.inj h).symm⟩

/-- Up to the query of its sources, a name means nothing. -/
theorem hidden_of_resolve? (h : resolve? name scope = some res) :
    ∀ sources ∈ scope.take res.level, positions name sources = [] := by
  induction scope generalizing res with
  | nil => simp [resolve?] at h
  | cons sources around ih =>
    obtain ⟨-, rfl⟩ | ⟨hhidden, inner, hinner, rfl⟩ := cases_of_resolve? h
    · simp
    · simpa [Resolution.outward, hhidden] using ih hinner

/-- The query of its sources shows them. -/
theorem shown_of_resolve? (h : resolve? name scope = some res) :
    ∃ sources, scope[res.level]? = some sources ∧ positions name sources = res.positions
      ∧ res.positions ≠ [] := by
  induction scope generalizing res with
  | nil => simp [resolve?] at h
  | cons sources around ih =>
    obtain ⟨hshown, rfl⟩ | ⟨-, inner, hinner, rfl⟩ := cases_of_resolve? h
    · exact ⟨sources, rfl, rfl, hshown⟩
    · obtain ⟨found, hfound, hpositions⟩ := ih hinner
      exact ⟨found, by simpa [Resolution.outward] using hfound, hpositions⟩

/-- A name goes on to mean the same sources under a new name, exactly where
in each query up to theirs the sources that come under the new name are
those under the old one. -/
theorem resolve?_map_iff {f : SourceName → SourceName} (h : resolve? name scope = some res) :
    resolve? name' (scope.map (List.map f)) = some res
      ↔ ∀ sources ∈ scope.take (res.level + 1), ∀ source ∈ sources,
        (f source).visible? = some name' ↔ source.visible? = some name := by
  induction scope generalizing res with
  | nil => simp [resolve?] at h
  | cons sources around ih =>
    rw [List.map_cons, List.take_succ_cons, List.forall_mem_cons,
      ← SourceName.positions_map_eq_iff]
    obtain ⟨hshown, rfl⟩ | ⟨hhidden, inner, hinner, rfl⟩ := cases_of_resolve? h
    · by_cases hnew : positions name' (sources.map f) = []
      · rw [resolve?_of_hidden hnew, hnew]
        simp [Ne.symm hshown, Resolution.outward]
      · rw [resolve?_of_shown hnew]
        simp
    · have hrest := ih hinner
      by_cases hnew : positions name' (sources.map f) = []
      · rw [resolve?_of_hidden hnew, Resolution.map_outward_eq_some_iff, hrest, hnew, hhidden]
        simp [Resolution.outward]
      · rw [resolve?_of_shown hnew, hhidden]
        simp [hnew, Resolution.outward]

end Scope

end SqlTree
