import SqlTree.Value

/-!
# Bindings

The values of a statement, in the order of its text.  A positional value
belongs to the placeholder with its number among the positional ones; a
named value belongs to every mention of its name.

A name is bound once: setting it again replaces the value where it stands,
and the other values stay where they are.
-/

set_option autoImplicit false

namespace SqlTree

/-- A bound value: positional without a name. -/
structure Binding where
  name : Option String
  value : Value
deriving DecidableEq

/-- Bound values in order. -/
structure Bindings where
  entries : List Binding
deriving DecidableEq

namespace Bindings

/-- No values. -/
def empty : Bindings :=
  ⟨[]⟩

/-- The entries with the value of `name` set: replaced at its first
mention, else added at the end. -/
def setEntry (name : String) (value : Value) : List Binding → List Binding
  | [] => [⟨some name, value⟩]
  | entry :: entries =>
    if entry.name = some name then { entry with value := value } :: entries
    else entry :: setEntry name value entries

/-- Adds a positional value. -/
def push (b : Bindings) (value : Value) : Bindings :=
  ⟨b.entries ++ [⟨none, value⟩]⟩

/-- Sets the value of a name. -/
def set (b : Bindings) (name : String) (value : Value) : Bindings :=
  ⟨setEntry name value b.entries⟩

/-- Adds an entry by its name. -/
def add (b : Bindings) (entry : Binding) : Bindings :=
  match entry.name with
  | none => b.push entry.value
  | some name => b.set name entry.value

/-- Adds the entries of `other`, in their order. -/
def merge (b other : Bindings) : Bindings :=
  other.entries.foldl add b

/-- Positional values. -/
def ofValues (values : List Value) : Bindings :=
  values.foldl push empty

/-- The number of entries. -/
def size (b : Bindings) : Nat :=
  b.entries.length

/-- Whether there is no entry. -/
def isEmpty (b : Bindings) : Bool :=
  b.entries.isEmpty

/-- The positional values, in the order of their placeholders. -/
def positional (b : Bindings) : List Value :=
  (b.entries.filter fun entry => entry.name.isNone).map Binding.value

/-- The value of a name. -/
def named? (b : Bindings) (name : String) : Option Value :=
  (b.entries.find? fun entry => entry.name = some name).map Binding.value

/-- All values in order, without their names. -/
def values (b : Bindings) : List Value :=
  b.entries.map Binding.value

/-! ## Positional and named values

Each view sees the entries of its own kind only. -/

/-- Setting a name leaves the unnamed entries alone. -/
theorem filter_setEntry (name : String) (value : Value) (entries : List Binding) :
    (setEntry name value entries).filter (fun entry => entry.name.isNone)
      = entries.filter fun entry => entry.name.isNone := by
  induction entries with
  | nil => rfl
  | cons entry entries ih =>
    by_cases h : entry.name = some name
    · simp [setEntry, h]
    · simp only [setEntry, if_neg h, List.filter_cons, ih]

/-- A set name has its new value. -/
theorem find?_setEntry (name : String) (value : Value) (entries : List Binding) :
    ((setEntry name value entries).find? fun entry => entry.name = some name)
      = some ⟨some name, value⟩ := by
  induction entries with
  | nil => simp [setEntry]
  | cons entry entries ih =>
    by_cases h : entry.name = some name
    · cases entry
      simp_all [setEntry]
    · simp only [setEntry, if_neg h, List.find?_cons, decide_eq_false h, ih]

@[simp] theorem positional_push (b : Bindings) (value : Value) :
    (b.push value).positional = b.positional ++ [value] := by
  simp [push, positional]

@[simp] theorem positional_set (b : Bindings) (name : String) (value : Value) :
    (b.set name value).positional = b.positional := by
  simp only [set, positional, filter_setEntry]

@[simp] theorem named?_push (b : Bindings) (name : String) (value : Value) :
    (b.push value).named? name = b.named? name := by
  simp [push, named?, List.find?_append]

@[simp] theorem named?_set (b : Bindings) (name : String) (value : Value) :
    (b.set name value).named? name = some value := by
  simp only [set, named?, find?_setEntry, Option.map_some]

@[simp] theorem merge_empty (b : Bindings) : b.merge empty = b :=
  rfl

end Bindings

end SqlTree
