import Mathlib.Data.List.Induction
import SqlTree.Proofs.Rows.Columns
import SqlTree.Query.Build

/-!
# Rows made of assignments

`Row.assign` looks a column up in a row: a value for it is replaced where it
stands, and only a new column goes to the end.  So a row that is made of
assignments, one after the other, has a single value for each of their
columns.  The columns stand in the order of the first assignment to them, and
the values are those of the last (`Row.Keeps`).

The assignments are told from their end, as the row grows there: what a row
keeps of some assignments is what it keeps of those before the last one,
changed by that one.
-/

set_option autoImplicit false

namespace SqlTree

/-- What a row keeps of assignments, made one after the other. -/
structure Row.Keeps (assignments : List Assignment) (row : Row) : Prop where
  /-- No two columns are the same. -/
  distinct : row.columns.Nodup
  /-- The columns are those of the assignments, in the order in which they
  first appear. -/
  first : row.columns = (Row.columns assignments).eraseDups
  /-- Each entry is an assignment that none to its column follows. -/
  last : ∀ a ∈ row, ∃ before after,
    assignments = before ++ a :: after ∧ a.column ∉ Row.columns after

/-! ## One assignment -/

theorem Row.columns_assign (column : String) (value : Operand) (row : Row) :
    (row.assign column value).columns
      = if column ∈ row.columns then row.columns else row.columns ++ [column] := by
  induction row with
  | nil => rfl
  | cons a row ih =>
    rw [Row.assign]
    split
    next h => simp [h]
    next h =>
      rw [Row.columns_cons, ih, Row.columns_cons]
      by_cases hmem : column ∈ Row.columns row
      · simp [hmem]
      · simp [hmem, Ne.symm h]

/-- An entry is the value that was assigned, or an earlier one of another
column. -/
theorem Row.mem_assign {column : String} {value : Operand} {row : Row}
    (hnodup : row.columns.Nodup) {a : Assignment} (ha : a ∈ row.assign column value) :
    a = ⟨column, value⟩ ∨ (a ∈ row ∧ a.column ≠ column) := by
  induction row with
  | nil => exact .inl (List.mem_singleton.mp ha)
  | cons b row ih =>
    obtain ⟨hfirst, hrest⟩ := List.nodup_cons.mp hnodup
    rw [Row.assign] at ha
    split at ha
    next h =>
      rcases List.mem_cons.mp ha with rfl | hmem
      · exact .inl (congrArg (Assignment.mk · value) h)
      · refine .inr ⟨List.mem_cons_of_mem b hmem, ?_⟩
        rintro rfl
        exact hfirst (h ▸ Row.mem_columns.mpr ⟨a, hmem, rfl⟩)
    next h =>
      rcases List.mem_cons.mp ha with rfl | hmem
      · exact .inr ⟨List.mem_cons_self, h⟩
      · rcases ih hrest hmem with heq | ⟨hold, hne⟩
        · exact .inl heq
        · exact .inr ⟨List.mem_cons_of_mem b hold, hne⟩

/-- A further assignment. -/
theorem Row.Keeps.assign {assignments : List Assignment} {row : Row}
    (h : row.Keeps assignments) (a : Assignment) :
    (row.assign a.column a.value).Keeps (assignments ++ [a]) := by
  constructor
  · rw [Row.columns_assign]
    split
    · exact h.distinct
    next hnew => exact List.concat_eq_append ▸ h.distinct.concat hnew
  · have hconcat : Row.columns (assignments ++ [a]) = Row.columns assignments ++ [a.column] :=
      Row.columns_append assignments [a]
    rw [Row.columns_assign, hconcat, eraseDups_concat, h.first]
    simp only [List.mem_eraseDups]
  · intro b hb
    rcases Row.mem_assign h.distinct hb with rfl | ⟨hold, hne⟩
    · refine ⟨assignments, [], ?_, List.not_mem_nil⟩
      cases a
      rfl
    · obtain ⟨before, after, rfl, hlast⟩ := h.last b hold
      refine ⟨before, after ++ [a], by simp, ?_⟩
      rw [Row.columns_append, List.mem_append, not_or]
      exact ⟨hlast, by simpa [Row.columns] using hne⟩

/-! ## All assignments -/

theorem Row.ofAssignments_append_singleton (assignments : List Assignment) (a : Assignment) :
    Row.ofAssignments (assignments ++ [a])
      = (Row.ofAssignments assignments).assign a.column a.value := by
  rw [Row.ofAssignments, List.foldl_append]
  rfl

/-- A row that is made of assignments keeps one value for each column. -/
theorem Row.keeps_ofAssignments (assignments : List Assignment) :
    (Row.ofAssignments assignments).Keeps assignments := by
  induction assignments using List.reverseRecOn with
  | nil => exact ⟨.nil, rfl, nofun⟩
  | append_singleton assignments a ih =>
    rw [Row.ofAssignments_append_singleton]
    exact ih.assign a

end SqlTree
