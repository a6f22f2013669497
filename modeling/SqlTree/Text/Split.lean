/-!
# Splitting at a character

`splitAll` cuts a text at every occurrence of a character, so it gives
one part more than there are occurrences.  `splitLast` cuts it once, at
the last occurrence.
-/

set_option autoImplicit false

namespace SqlTree.Text

/-- The parts of a text between the occurrences of `sep`. -/
def splitAll (sep : Char) : List Char → List (List Char)
  | [] => [[]]
  | c :: cs =>
    if c = sep then
      [] :: splitAll sep cs
    else
      match splitAll sep cs with
      | [] => [[c]]
      | part :: parts => (c :: part) :: parts

/-- What stands before and after the last occurrence of `sep`. -/
def splitLast (sep : Char) : List Char → Option (List Char × List Char)
  | [] => none
  | c :: cs =>
    match splitLast sep cs with
    | some (before, after) => some (c :: before, after)
    | none => if c = sep then some ([], cs) else none

/-- There is always a first part. -/
theorem splitAll_ne_nil (sep : Char) (cs : List Char) : splitAll sep cs ≠ [] := by
  cases cs with
  | nil => simp [splitAll]
  | cons c cs =>
    simp only [splitAll]
    split
    · simp
    · split <;> simp

/-- A cut loses nothing but the separator. -/
theorem splitLast_eq_some {sep : Char} {cs before after : List Char}
    (h : splitLast sep cs = some (before, after)) : cs = before ++ sep :: after := by
  induction cs generalizing before with
  | nil => simp [splitLast] at h
  | cons c cs ih =>
    simp only [splitLast] at h
    split at h
    next before' after' found =>
      obtain ⟨rfl, rfl⟩ : c :: before' = before ∧ after' = after := by simpa using h
      simp [ih found]
    next =>
      split at h
      · obtain ⟨rfl, rfl⟩ : [] = before ∧ cs = after := by simpa using h
        simp_all
      · simp at h

/-- A text is not cut where the separator does not occur. -/
theorem splitLast_eq_none_iff {sep : Char} {cs : List Char} :
    splitLast sep cs = none ↔ sep ∉ cs := by
  induction cs with
  | nil => simp [splitLast]
  | cons c cs ih =>
    rw [List.mem_cons, not_or, ← ih, splitLast]
    cases splitLast sep cs with
    | none =>
      by_cases h : c = sep
      · simp [h]
      · simp [h, Ne.symm h]
    | some found => simp

/-- What stands after a cut is free of the separator. -/
theorem not_mem_of_splitLast {sep : Char} {cs before after : List Char}
    (h : splitLast sep cs = some (before, after)) : sep ∉ after := by
  induction cs generalizing before with
  | nil => simp [splitLast] at h
  | cons c cs ih =>
    simp only [splitLast] at h
    split at h
    next before' after' found =>
      obtain ⟨rfl, rfl⟩ : c :: before' = before ∧ after' = after := by simpa using h
      exact ih found
    next hnone =>
      split at h
      · obtain ⟨rfl, rfl⟩ : [] = before ∧ cs = after := by simpa using h
        exact splitLast_eq_none_iff.mp hnone
      · simp at h

/-- A text is cut before a part without the separator. -/
theorem splitLast_append {sep : Char} {after : List Char} (h : sep ∉ after) (before : List Char) :
    splitLast sep (before ++ sep :: after) = some (before, after) := by
  induction before with
  | nil => simp [splitLast, splitLast_eq_none_iff.mpr h]
  | cons c before ih => simp [splitLast, ih]

/-- Texts that are cut after as many separators are cut at the same place. -/
theorem append_sep_inj_of_count {sep : Char} {before before' after after' : List Char}
    (h : before ++ sep :: after = before' ++ sep :: after')
    (hcount : before.count sep = before'.count sep) : before = before' ∧ after = after' := by
  induction before generalizing before' with
  | nil =>
    cases before' with
    | nil => simpa using h
    | cons c before' =>
      obtain ⟨rfl, -⟩ : sep = c ∧ after = before' ++ sep :: after' := by simpa using h
      simp at hcount
  | cons c before ih =>
    cases before' with
    | nil =>
      obtain ⟨rfl, -⟩ : c = sep ∧ before ++ sep :: after = after' := by simpa using h
      simp at hcount
    | cons c' before' =>
      obtain ⟨rfl, hrest⟩ : c = c' ∧ before ++ sep :: after = before' ++ sep :: after' := by
        simpa using h
      have hcounts : before.count sep = before'.count sep := by
        simpa [List.count_cons] using hcount
      obtain ⟨rfl, rfl⟩ := ih hrest hcounts
      exact ⟨rfl, rfl⟩

/-- A text without the separator is its only part. -/
theorem splitAll_of_not_mem {sep : Char} {cs : List Char} (h : sep ∉ cs) :
    splitAll sep cs = [cs] := by
  induction cs with
  | nil => rfl
  | cons c cs ih =>
    obtain ⟨hc, hcs⟩ : sep ≠ c ∧ sep ∉ cs := by simpa using h
    simp [splitAll, ih hcs, Ne.symm hc]

/-- A separator divides the parts before it from those after it. -/
theorem splitAll_append (sep : Char) (before after : List Char) :
    splitAll sep (before ++ sep :: after) = splitAll sep before ++ splitAll sep after := by
  induction before with
  | nil => simp [splitAll]
  | cons c before ih =>
    simp only [List.cons_append, splitAll, ih]
    split
    · rfl
    · cases hparts : splitAll sep before with
      | nil => exact absurd hparts (splitAll_ne_nil sep before)
      | cons part parts => rfl

end SqlTree.Text
