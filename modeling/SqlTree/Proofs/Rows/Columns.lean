import Mathlib.Data.List.Nodup
import Mathlib.Data.List.Perm.Basic
import SqlTree.Compile.Write

/-!
# The columns of rows

The columns of all rows are the columns of the rows, one row after the other,
without those that have appeared before.  A row that is not refused writes
each of its columns once, so as the only row it has its own columns, in its
own order.
-/

set_option autoImplicit false

namespace SqlTree

/-- The columns that a row writes, in its order. -/
def Row.columns (row : Row) : List String :=
  row.map Assignment.column

@[simp]
theorem Row.columns_cons (a : Assignment) (row : Row) :
    Row.columns (a :: row) = a.column :: Row.columns row :=
  rfl

theorem Row.columns_append (first second : Row) :
    Row.columns (first ++ second) = Row.columns first ++ Row.columns second :=
  List.map_append

theorem Row.mem_columns {row : Row} {column : String} :
    column ∈ row.columns ↔ ∃ a ∈ row, a.column = column :=
  List.mem_map

/-- A row that is not refused writes no column twice. -/
theorem Row.nodup_of_repeatedAfter {seen : List String} {row : Row}
    (h : Row.repeatedAfter seen row = none) : row.columns.Nodup := by
  induction row generalizing seen with
  | nil => exact .nil
  | cons a row ih =>
    rw [Row.repeatedAfter] at h
    split at h
    · cases h
    next =>
      refine List.nodup_cons.mpr ⟨?_, ih h⟩
      intro hmem
      obtain ⟨b, hb, hcolumn⟩ := Row.mem_columns.mp hmem
      exact Row.not_mem_of_repeatedAfter h b hb (by simp [hcolumn])

/-- A row is not refused where its columns are new and no two the same. -/
theorem Row.repeatedAfter_eq_none_iff {seen : List String} {row : Row} :
    Row.repeatedAfter seen row = none
      ↔ row.columns.Nodup ∧ ∀ column ∈ row.columns, column ∉ seen := by
  constructor
  · intro h
    refine ⟨Row.nodup_of_repeatedAfter h, ?_⟩
    intro column hcolumn
    obtain ⟨a, ha, rfl⟩ := Row.mem_columns.mp hcolumn
    exact Row.not_mem_of_repeatedAfter h a ha
  · rintro ⟨hnodup, hnew⟩
    induction row generalizing seen with
    | nil => rfl
    | cons a row ih =>
      obtain ⟨hfirst, hrest⟩ := List.nodup_cons.mp hnodup
      rw [Row.repeatedAfter, if_neg (hnew a.column List.mem_cons_self)]
      refine ih hrest fun column hcolumn hmem => ?_
      rcases List.mem_append.mp hmem with hseen | hlast
      · exact hnew column (List.mem_cons_of_mem _ hcolumn) hseen
      · exact hfirst (List.mem_singleton.mp hlast ▸ hcolumn)

/-- A row has a value for just its own columns. -/
theorem Row.value?_eq_none_iff {row : Row} {column : String} :
    row.value? column = none ↔ column ∉ row.columns := by
  induction row with
  | nil => simp [Row.value?, Row.columns]
  | cons a row ih =>
    rw [Row.value?, Row.columns_cons, List.mem_cons]
    by_cases h : a.column = column
    · simp [h]
    · simp [h, ih, Ne.symm h]

/-! ## All columns -/

/-- A column at the end counts where it has not appeared before. -/
theorem eraseDups_concat (columns : List String) (column : String) :
    (columns ++ [column]).eraseDups
      = if column ∈ columns then columns.eraseDups else columns.eraseDups ++ [column] := by
  rw [List.eraseDups_append]
  split
  next h => simp [List.removeAll, h]
  next h => simp [List.removeAll, h, List.eraseDups_cons]

/-- The columns of a row go after others, without those that are there. -/
theorem Row.addColumns_eraseDups (columns : List String) (row : Row) :
    row.addColumns columns.eraseDups = (columns ++ row.columns).eraseDups := by
  induction row generalizing columns with
  | nil => simp [Row.addColumns, Row.columns]
  | cons a row ih =>
    simp only [Row.addColumns, List.mem_eraseDups, ← eraseDups_concat, ih]
    simp [Row.columns]

/-- All columns are those of the rows in the order in which they first
appear. -/
theorem allColumns_eq (rows : List Row) :
    allColumns rows = (rows.flatMap Row.columns).eraseDups := by
  have hfold (columns : List String) : rows.foldl Row.addColumns columns.eraseDups
      = (columns ++ rows.flatMap Row.columns).eraseDups := by
    induction rows generalizing columns with
    | nil => simp
    | cons row rows ih =>
      rw [List.foldl_cons, Row.addColumns_eraseDups, ih, List.flatMap_cons, List.append_assoc]
  exact hfold []

theorem eraseDups_of_nodup {columns : List String} (h : columns.Nodup) :
    columns.eraseDups = columns := by
  induction columns with
  | nil => rfl
  | cons column columns ih =>
    obtain ⟨hnew, hrest⟩ := List.nodup_cons.mp h
    have hfilter : columns.filter (fun c => !c == column) = columns := by
      rw [List.filter_eq_self]
      intro c hc
      have hne : c ≠ column := fun heq => hnew (heq ▸ hc)
      simp [hne]
    rw [List.eraseDups_cons, hfilter, ih hrest]

/-- A row that is not refused has its own columns. -/
theorem allColumns_single {row : Row} (h : row.columns.Nodup) :
    allColumns [row] = row.columns := by
  rw [allColumns_eq, List.flatMap_singleton, eraseDups_of_nodup h]

theorem Row.nodup_addColumns {columns : List String} (h : columns.Nodup) (row : Row) :
    (row.addColumns columns).Nodup := by
  induction row generalizing columns with
  | nil => exact h
  | cons a row ih =>
    refine ih ?_
    split
    · exact h
    next hnew => exact List.concat_eq_append ▸ h.concat hnew

theorem nodup_allColumns (rows : List Row) : (allColumns rows).Nodup := by
  have hfold (columns : List String) (h : columns.Nodup) :
      (rows.foldl Row.addColumns columns).Nodup := by
    induction rows generalizing columns with
    | nil => exact h
    | cons row rows ih => exact ih _ (row.nodup_addColumns h)
  exact hfold [] .nil

/-- What is taken from each column of a row is taken from each of all
columns, where the others give nothing. -/
theorem flatMap_allColumns_perm {α : Type} {rows : List Row} {row : Row} (hrow : row ∈ rows)
    (hcolumns : row.columns.Nodup) {f : String → List α} (hf : ∀ c, c ∉ row.columns → f c = []) :
    ((allColumns rows).flatMap f).Perm (row.columns.flatMap f) := by
  have hown : ((allColumns rows).filter (· ∈ row.columns)).Perm row.columns := by
    apply (List.perm_ext_iff_of_nodup ((nodup_allColumns rows).filter _) hcolumns).mpr
    intro column
    rw [List.mem_filter, decide_eq_true_iff]
    constructor
    · exact And.right
    · intro hmem
      obtain ⟨a, ha, hcolumn⟩ := Row.mem_columns.mp hmem
      exact ⟨mem_allColumns.mpr ⟨row, hrow, a, ha, hcolumn⟩, hmem⟩
  have hothers (columns : List String) :
      columns.flatMap f = (columns.filter (· ∈ row.columns)).flatMap f := by
    induction columns with
    | nil => rfl
    | cons column columns ih =>
      rw [List.flatMap_cons, ih]
      by_cases hmem : column ∈ row.columns
      · rw [List.filter_cons_of_pos (by simpa using hmem), List.flatMap_cons]
      · rw [List.filter_cons_of_neg (by simpa using hmem), hf column hmem, List.nil_append]
  rw [hothers]
  exact hown.flatMap_right f

end SqlTree
