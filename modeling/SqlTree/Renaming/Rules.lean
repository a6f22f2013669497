import SqlTree.Query.Basic

/-!
# Rules for renaming

A rule set says how the names of a tree are to change.  It is asked about
every table that is a plain name, about every column that is read and
about every column that is written, and answers with the new name, or with
nothing where the name is to stay.

It is asked in a context.  The context of a query is made from the query
and the context around it, so a rule can tell what is in scope.

`Revision` is the result of revising a part of a tree: nothing, where the
part stays as it is.
-/

set_option autoImplicit false

namespace SqlTree

/-- How names change. -/
structure RenamingRules (Context : Type) where
  /-- the context around the root query -/
  root : Context
  /-- the context inside of a query, from the one around it -/
  enter : Query → Context → Context
  /-- the new name of a table -/
  tableName : String → Context → Option String := fun _ _ => none
  /-- the new name of a column that is read -/
  columnName : String → Context → Option String := fun _ _ => none
  /-- the new name of a column that is written -/
  targetName : String → Context → Option String := fun _ _ => none

/-- The rules that change nothing. -/
def RenamingRules.unchanged : RenamingRules Unit where
  root := ()
  enter _ _ := ()

/-- A new form, or nothing where the old one stays. -/
abbrev Revision (α : Type) := Option α

namespace Revision

variable {α β γ : Type}

/-- The revision of a part that consists of two.  It is made anew where
one of them is. -/
def both (make : α → β → γ) (a : α) (b : β) (a' : Revision α) (b' : Revision β) : Revision γ :=
  match a', b' with
  | none, none => none
  | a', b' => some (make (a'.getD a) (b'.getD b))

/-- A part stays where both of its parts do. -/
theorem both_eq_none_iff {make : α → β → γ} {a : α} {b : β} {a' : Revision α} {b' : Revision β} :
    both make a b a' b' = none ↔ a' = none ∧ b' = none := by
  cases a' <;> cases b' <;> simp [both]

/-- A revised part is made from the parts as they are now. -/
theorem both_getD (make : α → β → γ) (a : α) (b : β) (a' : Revision α) (b' : Revision β) :
    (both make a b a' b').getD (make a b) = make (a'.getD a) (b'.getD b) := by
  cases a' <;> cases b' <;> rfl

/-- The revision of a list, from its head and its tail. -/
def cons (a : α) (as : List α) (a' : Revision α) (as' : Revision (List α)) : Revision (List α) :=
  both List.cons a as a' as'

/-- The revision of a list of parts without parts of their own. -/
def list (revise : α → Revision α) : List α → Revision (List α)
  | [] => none
  | a :: as => cons a as (revise a) (list revise as)

/-- A list stays where all of its items do. -/
theorem list_eq_none_iff {revise : α → Revision α} {as : List α} :
    list revise as = none ↔ ∀ a ∈ as, revise a = none := by
  induction as with
  | nil => simp [list]
  | cons a as ih => simp [list, cons, both_eq_none_iff, ih]

/-- A revised list holds the items as they are now. -/
theorem list_getD (revise : α → Revision α) (as : List α) :
    (list revise as).getD as = as.map fun a => (revise a).getD a := by
  induction as with
  | nil => rfl
  | cons a as ih => simp only [list, cons, both_getD, ih, List.map_cons]

/-- The revision of a slot that may be empty. -/
def slot (revise : α → Revision α) : Option α → Revision (Option α)
  | none => none
  | some a => (revise a).map some

end Revision

end SqlTree
