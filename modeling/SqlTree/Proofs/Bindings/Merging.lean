import Mathlib.Data.List.Nodup
import SqlTree.Bindings

/-!
# Merging bindings

A merge sets the names of its argument one by one, and adds its positional
values.  What is set keeps its place, so a name that is bound already may be
set before or after anything else is added (`Bindings.set_merge_comm`).

So merging is associative (`Bindings.merge_assoc`), where the bindings in the
middle bind no name twice: of two values for one name the last one counts
in a merge, while a later value for that name replaces the first one.
Bindings that are collected from no values never bind a name twice
(`Bindings.namesDistinct_merge`).
-/

set_option autoImplicit false

namespace SqlTree

namespace Bindings

/-- The names that are bound, in order. -/
def boundNames (b : Bindings) : List String :=
  b.entries.filterMap Binding.name

/-- No name is bound twice. -/
def NamesDistinct (b : Bindings) : Prop :=
  b.boundNames.Nodup

theorem namesDistinct_empty : empty.NamesDistinct :=
  List.nodup_nil

/-! ## One more entry -/

theorem boundNames_push (b : Bindings) (value : Value) :
    (b.push value).boundNames = b.boundNames := by
  simp [boundNames, push]

/-- A name is added where it is not bound yet. -/
theorem filterMap_setEntry (name : String) (value : Value) (entries : List Binding) :
    (setEntry name value entries).filterMap Binding.name
      = if name ∈ entries.filterMap Binding.name then entries.filterMap Binding.name
        else entries.filterMap Binding.name ++ [name] := by
  induction entries with
  | nil => rfl
  | cons entry entries ih =>
    by_cases h : entry.name = some name
    · simp [setEntry, h]
    · rw [setEntry, if_neg h]
      cases hentry : entry.name with
      | none => simpa [hentry] using ih
      | some other =>
        have hne : name ≠ other := by
          rintro rfl
          exact h hentry
        simp only [List.filterMap_cons, hentry, ih, List.mem_cons, hne, false_or]
        split <;> rfl

theorem boundNames_set (b : Bindings) (name : String) (value : Value) :
    (b.set name value).boundNames
      = if name ∈ b.boundNames then b.boundNames else b.boundNames ++ [name] :=
  filterMap_setEntry name value b.entries

theorem mem_boundNames_set (b : Bindings) (name : String) (value : Value) :
    name ∈ (b.set name value).boundNames := by
  rw [boundNames_set]
  split
  · assumption
  · exact List.mem_append_right _ List.mem_cons_self

/-- What is bound stays bound. -/
theorem boundNames_subset_add (b : Bindings) (entry : Binding) :
    b.boundNames ⊆ (b.add entry).boundNames := by
  intro name hname
  obtain ⟨_ | other, value⟩ := entry
  · exact (boundNames_push b value).symm ▸ hname
  · show name ∈ (b.set other value).boundNames
    rw [boundNames_set]
    split
    · exact hname
    · exact List.mem_append_left _ hname

theorem NamesDistinct.add {b : Bindings} (h : b.NamesDistinct) (entry : Binding) :
    (b.add entry).NamesDistinct := by
  obtain ⟨_ | name, value⟩ := entry
  · show (b.push value).boundNames.Nodup
    rw [boundNames_push]
    exact h
  · show (b.set name value).boundNames.Nodup
    rw [boundNames_set]
    split
    · exact h
    next hnew => exact List.Nodup.append h (List.nodup_singleton name) (by simpa using hnew)

/-- A merge binds no name twice that was not bound twice before, whatever its
argument does. -/
theorem namesDistinct_merge {b : Bindings} (h : b.NamesDistinct) (other : Bindings) :
    (b.merge other).NamesDistinct := by
  obtain ⟨entries⟩ := other
  show (entries.foldl add b).NamesDistinct
  induction entries generalizing b with
  | nil => exact h
  | cons entry entries ih => exact ih (h.add entry)

/-! ## Positional values -/

/-- An added entry counts as positional where it has no name. -/
theorem positional_add (b : Bindings) (entry : Binding) :
    (b.add entry).positional = b.positional ++ Bindings.positional ⟨[entry]⟩ := by
  obtain ⟨name, value⟩ := entry
  cases name with
  | none => exact positional_push b value
  | some name => exact (positional_set b name value).trans (List.append_nil _).symm

/-- A merge adds the positional values of its argument, whatever names it
sets. -/
theorem positional_merge (b other : Bindings) :
    (b.merge other).positional = b.positional ++ other.positional := by
  obtain ⟨entries⟩ := other
  unfold merge
  induction entries generalizing b with
  | nil => simp [positional]
  | cons entry entries ih =>
    rw [List.foldl_cons, ih, positional_add, List.append_assoc]
    simp [positional, List.filter_cons]
    split <;> simp

/-! ## Setting a name again -/

/-- Of two values for a name, the last one counts. -/
theorem setEntry_setEntry (name : String) (value value' : Value) (entries : List Binding) :
    setEntry name value' (setEntry name value entries) = setEntry name value' entries := by
  induction entries with
  | nil => simp [setEntry]
  | cons entry entries ih =>
    by_cases h : entry.name = some name
    · simp [setEntry, h]
    · simp [setEntry, h, ih]

theorem set_set (b : Bindings) (name : String) (value value' : Value) :
    (b.set name value).set name value' = b.set name value' :=
  congrArg Bindings.mk (setEntry_setEntry name value value' b.entries)

/-- A name that is bound is set where it stands, before all that is added
later. -/
theorem setEntry_append {name : String} {entries : List Binding}
    (hbound : name ∈ entries.filterMap Binding.name) (value : Value) (added : List Binding) :
    setEntry name value (entries ++ added) = setEntry name value entries ++ added := by
  induction entries with
  | nil => cases hbound
  | cons entry entries ih =>
    by_cases h : entry.name = some name
    · simp [setEntry, h]
    · have hrest : name ∈ entries.filterMap Binding.name := by
        obtain ⟨found, hfound, hname⟩ := List.mem_filterMap.mp hbound
        rcases List.mem_cons.mp hfound with rfl | hfound
        · exact absurd hname h
        · exact List.mem_filterMap.mpr ⟨found, hfound, hname⟩
      simp [setEntry, h, ih hrest]

/-- Two names are set in either order, where the first one is bound. -/
theorem setEntry_comm {name other : String} (hne : other ≠ name) {entries : List Binding}
    (hbound : name ∈ entries.filterMap Binding.name) (value value' : Value) :
    setEntry other value' (setEntry name value entries)
      = setEntry name value (setEntry other value' entries) := by
  induction entries with
  | nil => cases hbound
  | cons entry entries ih =>
    obtain ⟨_ | found, held⟩ := entry
    · have hrest : name ∈ entries.filterMap Binding.name := by simpa using hbound
      simp [setEntry, ih hrest]
    · by_cases hname : found = name
      · subst hname
        simp [setEntry, hne.symm]
      · have hrest : name ∈ entries.filterMap Binding.name := by
          simpa [Ne.symm hname] using hbound
        by_cases hother : found = other
        · subst hother
          simp [setEntry, hname]
        · simp [setEntry, hname, hother, ih hrest]

/-- A bound name may be set before or after another entry is added. -/
theorem set_add_comm {b : Bindings} {name : String} (hbound : name ∈ b.boundNames) (value : Value)
    {entry : Binding} (hentry : entry.name ≠ some name) :
    (b.set name value).add entry = (b.add entry).set name value := by
  obtain ⟨_ | other, value'⟩ := entry
  · exact congrArg Bindings.mk (setEntry_append hbound value [⟨none, value'⟩]).symm
  · have hne : other ≠ name := fun heq => hentry (congrArg some heq)
    exact congrArg Bindings.mk (setEntry_comm hne hbound value value')

/-- A bound name may be set before or after a merge that does not mention
it. -/
theorem set_merge_comm {b : Bindings} {name : String} (hbound : name ∈ b.boundNames)
    (value : Value) {other : Bindings} (hother : name ∉ other.boundNames) :
    (b.set name value).merge other = (b.merge other).set name value := by
  obtain ⟨entries⟩ := other
  show entries.foldl add (b.set name value) = (entries.foldl add b).set name value
  induction entries generalizing b with
  | nil => rfl
  | cons entry entries ih =>
    have hentry : entry.name ≠ some name := by
      intro heq
      exact hother (List.mem_filterMap.mpr ⟨entry, List.mem_cons_self, heq⟩)
    have hrest : name ∉ boundNames ⟨entries⟩ := by
      intro hmem
      obtain ⟨found, hfound, hname⟩ := List.mem_filterMap.mp hmem
      exact hother (List.mem_filterMap.mpr ⟨found, List.mem_cons_of_mem entry hfound, hname⟩)
    rw [List.foldl_cons, List.foldl_cons, set_add_comm hbound value hentry]
    exact ih (b.boundNames_subset_add entry hbound) hrest

/-! ## Merges of merges -/

/-- To set a name before a merge is to set it after the merge, where the
merged bindings bind it once. -/
theorem merge_set (b : Bindings) {other : Bindings} (hother : other.NamesDistinct) (name : String)
    (value : Value) : b.merge (other.set name value) = (b.merge other).set name value := by
  obtain ⟨entries⟩ := other
  show (setEntry name value entries).foldl add b = (entries.foldl add b).set name value
  induction entries generalizing b with
  | nil => rfl
  | cons entry entries ih =>
    by_cases h : entry.name = some name
    · obtain ⟨_, held⟩ := entry
      subst h
      have hfree : name ∉ boundNames ⟨entries⟩ := (List.nodup_cons.mp hother).1
      have hcomm := set_merge_comm (mem_boundNames_set b name held) value hfree
      rw [set_set] at hcomm
      rw [setEntry, if_pos rfl]
      exact hcomm
    · have hrest : NamesDistinct ⟨entries⟩ :=
        hother.sublist ((List.sublist_cons_self entry entries).filterMap Binding.name)
      rw [setEntry, if_neg h, List.foldl_cons, List.foldl_cons]
      exact ih (b.add entry) hrest

theorem merge_add (b : Bindings) {other : Bindings} (hother : other.NamesDistinct)
    (entry : Binding) : b.merge (other.add entry) = (b.merge other).add entry := by
  obtain ⟨_ | name, value⟩ := entry
  · simp [add, merge, push, List.foldl_append]
  · exact merge_set b hother name value

/-- **Merging is associative**, where the bindings in the middle bind no name
twice. -/
theorem merge_assoc (b : Bindings) {c : Bindings} (hc : c.NamesDistinct) (other : Bindings) :
    b.merge (c.merge other) = (b.merge c).merge other := by
  obtain ⟨entries⟩ := other
  show b.merge (entries.foldl add c) = entries.foldl add (b.merge c)
  induction entries generalizing c with
  | nil => rfl
  | cons entry entries ih =>
    rw [List.foldl_cons, List.foldl_cons, ← merge_add b hc entry]
    exact ih (hc.add entry)

/-- What a merge into nothing gives is merged like its argument. -/
theorem merge_empty_merge (b other : Bindings) : b.merge (empty.merge other) = b.merge other :=
  merge_assoc b namesDistinct_empty other

/-- Two values for one name: associativity needs names to be distinct. -/
example :
    let twice : Bindings := ⟨[⟨some "n", .int 1⟩, ⟨some "n", .int 2⟩]⟩
    let again : Bindings := ⟨[⟨some "n", .int 3⟩]⟩
    empty.merge (twice.merge again) ≠ (empty.merge twice).merge again := by
  decide

end Bindings

end SqlTree
