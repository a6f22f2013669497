import SqlTree.Proofs.Bindings.Merging

/-!
# The entries of a merge

A merge is neither an append nor a union of maps.  What stood in the bindings
before keeps its place and its name, and the first entry of a name gets the
last value that the argument gives to it (`renewed`).  After that come the
entries that are new: the positional values of the argument, and its unknown
names where they first appear, each with its last value (`newEntries`).  There
is nothing else in a merge (`Bindings.entries_merge`).

So a name has the last value that the argument gives to it, and where that
gives none, the value from before (`Bindings.named?_merge`).
-/

set_option autoImplicit false

namespace SqlTree

namespace Bindings

/-! ## The last value of a name -/

/-- The value that the last entry of a name gives to it. -/
def lastIn? (entries : List Binding) (name : String) : Option Value :=
  (entries.reverse.find? fun entry => entry.name = some name).map Binding.value

/-- The last value that is given to a name. -/
def last? (b : Bindings) (name : String) : Option Value :=
  lastIn? b.entries name

/-- An entry gives its value where no later one gives another. -/
theorem lastIn?_cons (entry : Binding) (entries : List Binding) (name : String) :
    lastIn? (entry :: entries) name
      = (lastIn? entries name).or (if entry.name = some name then some entry.value else none) := by
  rw [lastIn?, List.reverse_cons, List.find?_append, Option.map_or, ← lastIn?]
  congr 1
  by_cases h : entry.name = some name <;> simp [h]

theorem lastIn?_unnamed (value : Value) (entries : List Binding) :
    lastIn? (⟨none, value⟩ :: entries) = lastIn? entries := by
  funext name
  rw [lastIn?_cons, if_neg nofun, Option.or_none]

theorem lastIn?_self (name : String) (value : Value) (entries : List Binding) :
    lastIn? (⟨some name, value⟩ :: entries) name
      = some ((lastIn? entries name).getD value) := by
  rw [lastIn?_cons, if_pos rfl]
  cases lastIn? entries name <;> rfl

theorem lastIn?_of_ne {name other : String} (h : other ≠ name) (value : Value)
    (entries : List Binding) :
    lastIn? (⟨some other, value⟩ :: entries) name = lastIn? entries name := by
  have hne : ¬(some other = some name) := fun heq => h (Option.some.inj heq)
  rw [lastIn?_cons, if_neg hne, Option.or_none]

/-- Just the names that are bound are given a value. -/
theorem lastIn?_eq_none_iff {entries : List Binding} {name : String} :
    lastIn? entries name = none ↔ name ∉ entries.filterMap Binding.name := by
  simp [lastIn?, List.mem_filterMap]

/-- The value of a name that is bound once is its first and its last. -/
theorem NamesDistinct.named?_eq_last? {b : Bindings} (h : b.NamesDistinct) (name : String) :
    b.named? name = b.last? name := by
  obtain ⟨entries⟩ := b
  induction entries with
  | nil => rfl
  | cons entry entries ih =>
    have hrest : NamesDistinct ⟨entries⟩ :=
      h.sublist ((List.sublist_cons_self entry entries).filterMap Binding.name)
    have hentries : (entries.find? fun entry => entry.name = some name).map Binding.value
        = lastIn? entries name := ih hrest
    show ((entry :: entries).find? _).map Binding.value = lastIn? (entry :: entries) name
    rw [lastIn?_cons, List.find?_cons]
    by_cases hname : entry.name = some name
    · obtain ⟨_, value⟩ := entry
      subst hname
      have hfree : lastIn? entries name = none :=
        lastIn?_eq_none_iff.mpr (List.nodup_cons.mp h).1
      simp [hfree]
    · simp [hname, hentries]

/-! ## What a name has after a merge -/

theorem named?_add (b : Bindings) (entry : Binding) (name : String) :
    (b.add entry).named? name
      = if entry.name = some name then some entry.value else b.named? name := by
  obtain ⟨_ | other, value⟩ := entry
  · exact named?_push b name value
  · by_cases h : other = name
    · subst h
      rw [if_pos rfl]
      exact named?_set b other value
    · have hne : ¬(some other = some name) := fun heq => h (Option.some.inj heq)
      rw [if_neg hne]
      show named? ⟨setEntry other value b.entries⟩ name = b.named? name
      obtain ⟨entries⟩ := b
      unfold named?
      congr 1
      induction entries with
      | nil => simp [setEntry, h]
      | cons entry entries ih =>
        by_cases hentry : entry.name = some other
        · simp [setEntry, hentry, h]
        · simp only [setEntry, if_neg hentry, List.find?_cons, ih]

/-- **A name has the last value that the argument gives to it**, else the one
from before. -/
theorem named?_merge (b other : Bindings) (name : String) :
    (b.merge other).named? name = (other.last? name).or (b.named? name) := by
  obtain ⟨entries⟩ := other
  show (entries.foldl add b).named? name = (lastIn? entries name).or (b.named? name)
  induction entries generalizing b with
  | nil => rfl
  | cons entry entries ih =>
    rw [List.foldl_cons, ih, named?_add, lastIn?_cons, Option.or_assoc]
    congr 1
    split <;> rfl

/-! ## Entries that are kept -/

/-- The entries with what `given` says about their names, where each name is
set at its first entry.  The names `seen` have stood before. -/
def renewed (given : String → Option Value) (seen : List String) : List Binding → List Binding
  | [] => []
  | ⟨none, value⟩ :: entries => ⟨none, value⟩ :: renewed given seen entries
  | ⟨some name, value⟩ :: entries =>
    ⟨some name, if name ∈ seen then value else (given name).getD value⟩
      :: renewed given (seen ++ [name]) entries

theorem length_renewed (given : String → Option Value) (seen : List String)
    (entries : List Binding) : (renewed given seen entries).length = entries.length := by
  induction entries generalizing seen with
  | nil => rfl
  | cons entry entries ih => obtain ⟨_ | name, value⟩ := entry <;> simp [renewed, ih]

/-- No entry changes its name. -/
theorem map_name_renewed (given : String → Option Value) (seen : List String)
    (entries : List Binding) :
    (renewed given seen entries).map Binding.name = entries.map Binding.name := by
  induction entries generalizing seen with
  | nil => rfl
  | cons entry entries ih => obtain ⟨_ | name, value⟩ := entry <;> simp [renewed, ih]

/-- Where nothing is given, nothing changes. -/
theorem renewed_none (seen : List String) (entries : List Binding) :
    renewed (fun _ => none) seen entries = entries := by
  induction entries generalizing seen with
  | nil => rfl
  | cons entry entries ih => obtain ⟨_ | name, value⟩ := entry <;> simp [renewed, ih]

/-- Only what is given to the names of the entries matters. -/
theorem renewed_congr {given given' : String → Option Value} {seen : List String}
    {entries : List Binding}
    (h : ∀ name ∈ entries.filterMap Binding.name, name ∉ seen → given name = given' name) :
    renewed given seen entries = renewed given' seen entries := by
  induction entries generalizing seen with
  | nil => rfl
  | cons entry entries ih =>
    obtain ⟨_ | name, value⟩ := entry
    · rw [renewed, renewed, ih (by simpa using h)]
    · obtain ⟨hname, hrest⟩ : (name ∉ seen → given name = given' name)
          ∧ ∀ other ∈ entries.filterMap Binding.name,
            other ∉ seen → given other = given' other := by
        simpa using h
      have hentries : renewed given (seen ++ [name]) entries
          = renewed given' (seen ++ [name]) entries := by
        refine ih fun other hother hseen => hrest other hother ?_
        exact fun hmem => hseen (List.mem_append_left _ hmem)
      rw [renewed, renewed, hentries]
      by_cases hseen : name ∈ seen
      · rw [if_pos hseen, if_pos hseen]
      · rw [if_neg hseen, if_neg hseen, hname hseen]

theorem renewed_append (given : String → Option Value) (seen : List String)
    (entries added : List Binding) :
    renewed given seen (entries ++ added)
      = renewed given seen entries
        ++ renewed given (seen ++ entries.filterMap Binding.name) added := by
  induction entries generalizing seen with
  | nil => simp [renewed]
  | cons entry entries ih => obtain ⟨_ | name, value⟩ := entry <;> simp [renewed, ih]

/-- To set a name before is to be given its value, where nothing later is. -/
theorem renewed_setEntry (given : String → Option Value) {seen : List String} {name : String}
    (hseen : name ∉ seen) {entries : List Binding}
    (hbound : name ∈ entries.filterMap Binding.name) (value : Value) :
    renewed given seen (setEntry name value entries)
      = renewed (Function.update given name (some ((given name).getD value))) seen entries := by
  induction entries generalizing seen with
  | nil => cases hbound
  | cons entry entries ih =>
    obtain ⟨_ | other, held⟩ := entry
    · have hrest : name ∈ entries.filterMap Binding.name := by simpa using hbound
      simp [setEntry, renewed, ih hseen hrest]
    · by_cases h : other = name
      · subst h
        -- the later entries of this name keep their values on either side
        have hcongr : renewed given (seen ++ [other]) entries
            = renewed (Function.update given other (some ((given other).getD value)))
              (seen ++ [other]) entries := by
          refine renewed_congr fun found _ hfound => ?_
          rw [Function.update_of_ne]
          rintro rfl
          exact hfound (List.mem_append_right _ List.mem_cons_self)
        simp [setEntry, renewed, hseen, hcongr]
      · have hrest : name ∈ entries.filterMap Binding.name := by
          simpa [Ne.symm h] using hbound
        have hseen' : name ∉ seen ++ [other] := by simp [hseen, Ne.symm h]
        simp [setEntry, renewed, h, ih hseen' hrest]

/-! ## Entries that are new -/

/-- The entries that are added where the names `known` are bound: the
positional ones, and the other names where they first appear, each with the
last value that it is given. -/
def newEntries (known : List String) : List Binding → List Binding
  | [] => []
  | ⟨none, value⟩ :: entries => ⟨none, value⟩ :: newEntries known entries
  | ⟨some name, value⟩ :: entries =>
    if name ∈ known then newEntries known entries
    else ⟨some name, (lastIn? entries name).getD value⟩ :: newEntries (known ++ [name]) entries

/-- Entries are all new where each of their names is new and stands once. -/
theorem newEntries_of_nodup {known : List String} {entries : List Binding}
    (hdistinct : (entries.filterMap Binding.name).Nodup)
    (hnew : ∀ name ∈ entries.filterMap Binding.name, name ∉ known) :
    newEntries known entries = entries := by
  induction entries generalizing known with
  | nil => rfl
  | cons entry entries ih =>
    obtain ⟨_ | name, value⟩ := entry
    · rw [newEntries, ih (by simpa using hdistinct) (by simpa using hnew)]
    · obtain ⟨honce, hdistinct⟩ := List.nodup_cons.mp hdistinct
      obtain ⟨hname, hrest⟩ := List.forall_mem_cons.mp hnew
      have hentries : newEntries (known ++ [name]) entries = entries := by
        refine ih hdistinct fun other hother => ?_
        have hne : other ≠ name := by
          rintro rfl
          exact honce hother
        simpa [hne] using hrest other hother
      rw [newEntries, if_neg hname, lastIn?_eq_none_iff.mpr honce, Option.getD_none, hentries]

/-- A name that is not bound is set at the end. -/
theorem setEntry_of_not_mem {name : String} {entries : List Binding}
    (h : name ∉ entries.filterMap Binding.name) (value : Value) :
    setEntry name value entries = entries ++ [⟨some name, value⟩] := by
  induction entries with
  | nil => rfl
  | cons entry entries ih =>
    have hentry : entry.name ≠ some name := fun heq =>
      h (List.mem_filterMap.mpr ⟨entry, List.mem_cons_self, heq⟩)
    have hrest : name ∉ entries.filterMap Binding.name := fun hmem =>
      h (((List.sublist_cons_self entry entries).filterMap Binding.name).subset hmem)
    rw [setEntry, if_neg hentry, ih hrest, List.cons_append]

/-- **A merge renews the entries that are there and adds the new ones**, and
that is all. -/
theorem entries_merge (b other : Bindings) :
    (b.merge other).entries
      = renewed other.last? [] b.entries ++ newEntries b.boundNames other.entries := by
  obtain ⟨entries⟩ := other
  show (entries.foldl add b).entries
    = renewed (lastIn? entries) [] b.entries ++ newEntries b.boundNames entries
  induction entries generalizing b with
  | nil =>
    have hnothing : lastIn? [] = fun _ => none := rfl
    rw [hnothing, renewed_none, newEntries, List.append_nil]
    rfl
  | cons entry entries ih =>
    rw [List.foldl_cons, ih]
    obtain ⟨_ | name, value⟩ := entry
    · show renewed (lastIn? entries) [] (b.entries ++ [⟨none, value⟩])
          ++ newEntries (b.push value).boundNames entries = _
      rw [renewed_append, boundNames_push, lastIn?_unnamed, List.append_assoc]
      rfl
    · show renewed (lastIn? entries) [] (setEntry name value b.entries)
          ++ newEntries (b.set name value).boundNames entries = _
      rw [boundNames_set, newEntries]
      by_cases hbound : name ∈ b.boundNames
      · rw [if_pos hbound, if_pos hbound, renewed_setEntry _ List.not_mem_nil hbound]
        congr 2
        funext other
        by_cases h : other = name
        · subst h
          rw [Function.update_self, lastIn?_self]
        · rw [Function.update_of_ne h, lastIn?_of_ne (Ne.symm h)]
      · have hkept : renewed (lastIn? (⟨some name, value⟩ :: entries)) [] b.entries
            = renewed (lastIn? entries) [] b.entries := by
          refine renewed_congr fun other hother _ => lastIn?_of_ne ?_ value entries
          rintro rfl
          exact hbound hother
        have hnew : renewed (lastIn? entries) ([] ++ b.boundNames) [⟨some name, value⟩]
            = [⟨some name, (lastIn? entries name).getD value⟩] := by
          rw [List.nil_append, renewed, if_neg hbound, renewed]
        rw [if_neg hbound, if_neg hbound, setEntry_of_not_mem hbound, renewed_append, hkept,
          ← boundNames, hnew, List.append_assoc, List.singleton_append]

/-- A name that is known is renewed in its place, and one that is new goes
where it first appears. -/
example :
    let b : Bindings := ⟨[⟨some "a", .int 1⟩, ⟨none, .int 2⟩]⟩
    let other : Bindings := ⟨[⟨some "n", .int 3⟩, ⟨none, .int 4⟩, ⟨some "a", .int 5⟩,
      ⟨some "n", .int 6⟩]⟩
    b.merge other
      = ⟨[⟨some "a", .int 5⟩, ⟨none, .int 2⟩, ⟨some "n", .int 6⟩, ⟨none, .int 4⟩]⟩ := by
  decide

/-- Into nothing, bindings that bind no name twice are merged as they are. -/
theorem empty_merge {b : Bindings} (h : b.NamesDistinct) : empty.merge b = b := by
  have hentries : newEntries [] b.entries = b.entries :=
    newEntries_of_nodup h fun _ _ => List.not_mem_nil
  have hmerge := entries_merge empty b
  rw [show renewed b.last? [] empty.entries = [] from rfl, List.nil_append,
    show empty.boundNames = [] from rfl, hentries] at hmerge
  exact congrArg Bindings.mk hmerge

/-- What bindings become by a merge: the positional values and the last value
of each name, the names in the places that were taken before, and the entries
in the places after them. -/
structure IsMerge (b other merged : Bindings) : Prop where
  positional : merged.positional = b.positional ++ other.positional
  named : ∀ name, merged.named? name = (other.last? name).or (b.named? name)
  names : (merged.entries.take b.size).map Binding.name = b.entries.map Binding.name
  kept : merged.entries.take b.size = renewed other.last? [] b.entries
  added : merged.entries.drop b.size = newEntries b.boundNames other.entries

theorem isMerge_merge (b other : Bindings) : IsMerge b other (b.merge other) := by
  have hentries := entries_merge b other
  have hsize : b.size = (renewed other.last? [] b.entries).length :=
    (length_renewed other.last? [] b.entries).symm
  have hkept : (b.merge other).entries.take b.size = renewed other.last? [] b.entries := by
    rw [hentries, hsize, List.take_left]
  refine ⟨positional_merge b other, named?_merge b other, ?_, hkept, ?_⟩
  · rw [hkept, map_name_renewed]
  · rw [hentries, hsize, List.drop_left]

/-! ## Bindings that are collected -/

/-- One step of collecting bindings. -/
inductive Step where
  | push (value : Value)
  | set (name : String) (value : Value)
  | merge (other : Bindings)
  /-- to start again, from positional values -/
  | restart (values : List Value)

/-- The bindings after a step. -/
def Step.apply (b : Bindings) : Step → Bindings
  | push value => b.push value
  | set name value => b.set name value
  | merge other => b.merge other
  | restart values => ofValues values

/-- The bindings after several steps from nothing. -/
def collected (steps : List Step) : Bindings :=
  steps.foldl Step.apply empty

theorem namesDistinct_ofValues (values : List Value) : (ofValues values).NamesDistinct := by
  suffices hfold : ∀ b : Bindings, b.NamesDistinct → (values.foldl push b).NamesDistinct from
    hfold empty namesDistinct_empty
  induction values with
  | nil => exact fun _ h => h
  | cons value values ih => exact fun b h => ih (b.push value) (h.add ⟨none, value⟩)

/-- No step binds a name twice, where none is bound twice before. -/
theorem Step.namesDistinct_apply {b : Bindings} (h : b.NamesDistinct) (step : Step) :
    (step.apply b).NamesDistinct := by
  cases step with
  | push value => exact h.add ⟨none, value⟩
  | set name value => exact h.add ⟨some name, value⟩
  | merge other => exact namesDistinct_merge h other
  | restart values => exact namesDistinct_ofValues values

/-- **No steps from nothing bind a name twice.** -/
theorem namesDistinct_collected (steps : List Step) : (collected steps).NamesDistinct := by
  suffices hfold : ∀ b : Bindings, b.NamesDistinct → (steps.foldl Step.apply b).NamesDistinct from
    hfold empty namesDistinct_empty
  induction steps with
  | nil => exact fun _ h => h
  | cons step steps ih => exact fun b h => ih (step.apply b) (step.namesDistinct_apply h)

end Bindings

end SqlTree
