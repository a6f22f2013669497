import SqlTree.Proofs.Faults.FirstFault
import SqlTree.Proofs.Faults.Statements
import SqlTree.Proofs.Rows.Columns

/-!
# Who repeats a column

That a column is assigned more than once is said about rows and about the
assignments of an UPDATE only.  A SELECT does not say it, and neither do the
clauses of a statement or its target: all that is wrong there is a missing
table or an unknown rule, at some site of the tree.

So a query whose rows and assignments name each column once never fails for
that reason, as it stands or inside of a sub-query
(`Query.not_repeats_of_statements`).
-/

set_option autoImplicit false

namespace SqlTree

/-- An error that says that a column is assigned more than once, after any
number of remarks about sub-queries. -/
inductive QueryError.Repeats : QueryError → Prop
  | here (column : String) : Repeats (.repeatedColumn column)
  | inSubquery {e : QueryError} (h : Repeats e) : Repeats (.inSubquery e)

theorem QueryError.Repeats.of_iterate {depth : Nat} {cause : QueryError}
    (h : (QueryError.inSubquery^[depth] cause).Repeats) : cause.Repeats := by
  induction depth with
  | zero => exact h
  | succ depth ih =>
    rw [Function.iterate_succ_apply'] at h
    cases h with
    | inSubquery h => exact ih h

/-! ## Faults that are other ones -/

/-- None of the faults says that a column is assigned more than once. -/
def NoneRepeats (faults : List QueryError) : Prop :=
  ∀ e ∈ faults, ¬e.Repeats

namespace NoneRepeats

variable {first second : List QueryError} {e : QueryError}

theorem nil : NoneRepeats [] :=
  nofun

theorem single (h : ¬e.Repeats) : NoneRepeats [e] := by
  intro e' he'
  obtain rfl := List.mem_singleton.mp he'
  exact h

/-- A check that fails with another error. -/
theorem check (refused : Bool) (h : ¬e.Repeats) : NoneRepeats (if refused then [e] else []) := by
  cases refused with
  | true => exact single h
  | false => exact nil

theorem append (hfirst : NoneRepeats first) (hsecond : NoneRepeats second) :
    NoneRepeats (first ++ second) :=
  List.forall_mem_append.mpr ⟨hfirst, hsecond⟩

/-- The faults of several parts, one after the other. -/
theorem flatten {ι : Type} {parts : List ι} {faults : ι → List QueryError}
    (h : ∀ part ∈ parts, NoneRepeats (faults part)) : NoneRepeats (parts.map faults).flatten := by
  intro e he
  obtain ⟨_, hpart, he⟩ := List.mem_flatten.mp he
  obtain ⟨part, hmem, rfl⟩ := List.mem_map.mp hpart
  exact h part hmem e he

/-- The faults of a sub-query, as the query around it reports them. -/
theorem inSubquery (h : NoneRepeats first) : NoneRepeats (first.map .inSubquery) := by
  intro e he
  obtain ⟨inner, hinner, rfl⟩ := List.mem_map.mp he
  rintro ⟨⟩
  next hrepeats => exact h inner hinner hrepeats

end NoneRepeats

/-- What is wrong with a node by itself is something else. -/
theorem Node.Fault.not_repeats {n : Node} {cause : QueryError} (h : n.Fault cause) :
    ¬cause.Repeats := by
  cases h with
  | noTable _ => nofun
  | unknownRule _ _ => nofun

/-- So are the faults that are read off sites. -/
theorem noneRepeats_of_filterMap_sites {sites : List Site} {faults : List QueryError}
    (h : sites.filterMap Site.fault? = faults.map QueryError.inSubquery^[0]) :
    NoneRepeats faults := by
  intro e he
  rw [Function.iterate_zero, List.map_id] at h
  obtain ⟨s, -, hs⟩ := List.mem_filterMap.mp (h ▸ he)
  obtain ⟨cause, hfault, rfl⟩ := Site.fault?_eq_some_iff.mp hs
  exact fun hrepeats => hfault.not_repeats hrepeats.of_iterate

variable (d : Dialect)

/-- A SELECT. -/
theorem Query.noneRepeats_faults (q : Query) : NoneRepeats (q.faults d) :=
  noneRepeats_of_filterMap_sites (q.filterMap_sites d 0)

theorem Operand.noneRepeats_faults (o : Operand) : NoneRepeats (o.faults d) :=
  noneRepeats_of_filterMap_sites (o.filterMap_sites d 0)

/-- The target of a statement. -/
theorem Table.noneRepeats_faultsTarget {missing : QueryError} (hmissing : ¬missing.Repeats)
    (table : Option Table) : NoneRepeats (Table.faultsTarget d missing table) := by
  cases table with
  | none => exact .single hmissing
  | some t => exact noneRepeats_of_filterMap_sites (t.filterMap_sites d 0)

theorem Dialect.noneRepeats_aliasFaults (aliasName : Option String) (statement : String) :
    NoneRepeats (d.aliasFaults aliasName statement) := by
  unfold Dialect.aliasFaults
  split
  · exact .single nofun
  · exact .nil

/-- The clauses of a query are among what it has as a SELECT. -/
theorem Query.noneRepeats_clauseFaults (q : Query) : NoneRepeats (q.clauseFaults d) := by
  intro e he
  refine q.noneRepeats_faults d e ?_
  cases q
  simp only [clauseFaults] at he
  simp only [faults, List.mem_append]
  exact .inr (.inr (.inr (by simpa only [List.mem_append] using he)))

/-! ## Rows and assignments that name each column once -/

/-- A row is at fault where it repeats a column. -/
theorem Row.repeatFaults_eq_nil_iff_nodup {row : Row} :
    row.repeatFaults = [] ↔ row.columns.Nodup := by
  rw [Row.repeatFaults_eq_nil_iff, Row.repeatedAfter_eq_none_iff]
  exact and_iff_left fun _ _ => List.not_mem_nil

/-- A row, over any columns. -/
theorem Row.noneRepeats_tupleFaults {row : Row} (hrow : row.columns.Nodup)
    (columns : List String) : NoneRepeats (row.tupleFaults d columns) := by
  rw [tupleFaults, Row.repeatFaults_eq_nil_iff_nodup.mpr hrow, List.nil_append]
  refine .flatten fun column _ => ?_
  unfold entryFaults
  cases row.value? column with
  | none => exact .nil
  | some v => exact v.noneRepeats_faults d

variable {d}

namespace Query

variable {q : Query}

/-- Rows as one statement. -/
theorem noneRepeats_rowsFaults {rows : List Row} (hrows : ∀ row ∈ rows, row.columns.Nodup) :
    NoneRepeats (q.rowsFaults d rows) := by
  have htarget : NoneRepeats (Table.faultsTarget d .noTargetTable q.table) :=
    Table.noneRepeats_faultsTarget d (by nofun) q.table
  have htuples : NoneRepeats (rows.map (Row.tupleFaults d (allColumns rows))).flatten :=
    .flatten fun row hrow => row.noneRepeats_tupleFaults d (hrows row hrow) (allColumns rows)
  exact htarget.append ((NoneRepeats.check _ (by nofun)).append htuples)

/-- An INSERT.  Its select is a sub-query. -/
theorem noneRepeats_insertFaults
    (h : ∀ rows, q.insert = some (.rows rows) → ∀ row ∈ rows, (Row.columns row).Nodup) :
    NoneRepeats (q.insertFaults d) := by
  unfold insertFaults
  split
  next => exact .single nofun
  next rows hinsert =>
    have htogether : NoneRepeats (if rows.isEmpty then [] else q.rowsFaults d rows) := by
      split
      · exact .nil
      · exact noneRepeats_rowsFaults (h rows hinsert)
    cases d with
    | common => exact htogether
    | mysql => exact htogether
    | sqlite =>
      refine .flatten fun row hrow => noneRepeats_rowsFaults ?_
      exact List.forall_mem_singleton.mpr (h rows hinsert row hrow)
  next source _ =>
    have htarget : NoneRepeats (Table.faultsTarget d .noTargetTable q.table) :=
      Table.noneRepeats_faultsTarget d (by nofun) q.table
    exact htarget.append (source.select.noneRepeats_faults d).inSubquery

/-- An UPDATE. -/
theorem noneRepeats_updateFaults (h : (Row.columns q.update).Nodup) :
    NoneRepeats (q.updateFaults d) := by
  have htarget : NoneRepeats (Table.faultsTarget d .noUpdatedTable q.table) :=
    Table.noneRepeats_faultsTarget d (by nofun) q.table
  have hvalues : NoneRepeats (q.update.map fun a => a.value.faults d).flatten :=
    .flatten fun a _ => a.value.noneRepeats_faults d
  rw [updateFaults, Row.repeatFaults_eq_nil_iff_nodup.mpr h, List.nil_append]
  exact (d.noneRepeats_aliasFaults q.tableAlias "UPDATE").append <| htarget.append <|
    (NoneRepeats.check _ (by nofun)).append <| hvalues.append (q.noneRepeats_clauseFaults d)

/-- A DELETE. -/
theorem noneRepeats_deleteFaults : NoneRepeats (q.deleteFaults d) := by
  have htarget : NoneRepeats (Table.faultsTarget d .noTargetTable q.table) :=
    Table.noneRepeats_faultsTarget d (by nofun) q.table
  exact (d.noneRepeats_aliasFaults q.tableAlias "DELETE").append <|
    htarget.append (q.noneRepeats_clauseFaults d)

/-! ## Errors -/

/-- A query whose rows and assignments name each column once fails for other
reasons, if it fails. -/
theorem not_repeats_of_statements
    (hrows : ∀ rows, q.insert = some (.rows rows) → ∀ row ∈ rows, (Row.columns row).Nodup)
    (hupdate : (Row.columns q.update).Nodup) {e : QueryError}
    (he : q.statements d = .error e) : ¬e.Repeats := by
  have hfaults : NoneRepeats (q.statementFaults d) := by
    unfold statementFaults
    cases q.kind with
    | insert => exact noneRepeats_insertFaults hrows
    | update => exact noneRepeats_updateFaults hupdate
    | delete => exact noneRepeats_deleteFaults
    | select => exact q.noneRepeats_faults d
  exact hfaults e (mem_faults_of_error (q.error?_statements d) he)

/-- Asking for one statement adds one error, which counts the statements. -/
theorem eq_insertCount_of_compile {e : QueryError} (he : q.compile d = .error e) :
    q.statements d = .error e ∨ ∃ count, e = .insertCount count d.name := by
  unfold statements
  cases hkind : q.kind with
  | insert =>
    simp only [compile, hkind] at he
    cases hinsert : q.compileInsert d with
    | error cause =>
      rw [hinsert] at he
      obtain rfl : cause = e := Except.error.inj he
      exact .inl rfl
    | ok statements =>
      rw [hinsert] at he
      match statements with
      | [] => exact .inr ⟨_, (Except.error.inj he).symm⟩
      | [_] => nomatch he
      | _ :: _ :: _ => exact .inr ⟨_, (Except.error.inj he).symm⟩
  | _ => exact .inl (by rw [he]; rfl)

end Query

end SqlTree
