import Mathlib.Data.List.Forall2
import SqlTree.Proofs.Renaming.Sharing

/-!
# Columns that are read

`Query.reads` lists the columns that a tree reads by name, at any depth and
in the order of a walk.  A read knows the queries that it stands in, the
innermost first, so it can be told what its name means there.

A renaming keeps the shape of the tree.  So the reads of a renamed tree are
those of the tree, one by one: at the same places, with the same queries
around them in their new form, and with the names that the rules give in
the contexts of the old ones (`Query.reads_rename`).

Columns that are written are not reads.
-/

set_option autoImplicit false

namespace SqlTree

variable {Context : Type}

/-! ## Reads -/

/-- Rules that give no name and note the queries around each, the innermost
first. -/
def RenamingRules.enclosing : RenamingRules (List Query) where
  root := []
  enter q around := q :: around

/-- A column that is read by its name. -/
structure Read where
  name : String
  /-- the queries around it, the innermost first -/
  around : List Query
  /-- the paths of the nodes around it -/
  nodes : List Path

/-- The column that is read on a visit. -/
def Visit.read? : Visit (List Query) → Option Read
  | .ask .column name around nodes => some ⟨name, around, nodes⟩
  | _ => none

/-- The columns that a tree reads by name. -/
def Query.reads (q : Query) : List Read :=
  (RenamingRules.enclosing.visits q).filterMap Visit.read?

/-! ## Visits of a renamed tree -/

section

variable (rules : RenamingRules Context)

/-- The context inside of queries that stand in each other, the innermost
first. -/
def RenamingRules.within : List Query → Context
  | [] => rules.root
  | q :: around => rules.enter q (within around)

/-- Queries that stand in each other, after the renaming. -/
def RenamingRules.renamedAround : List Query → List Query
  | [] => []
  | q :: around => q.renamed rules (rules.within around) :: renamedAround around

/-- The visit at the same place of the renamed tree. -/
def Visit.renamed : Visit (List Query) → Visit (List Query)
  | .enter _ around =>
    .enter ((rules.renamedAround around).head?.bind Query.qualifier?) (rules.renamedAround around)
  | .ask kind name around nodes =>
    .ask kind (rules.newName kind (rules.within around) name) (rules.renamedAround around) nodes

open RenamingRules (enclosing)

theorem Place.askTargets_renamed (around : List Query) (p : Place)
    (columns : Option (List String)) :
    p.askTargets (rules.renamedAround around)
        (columns.map (·.map (rules.newName .target (rules.within around))))
      = (p.askTargets around columns).map (Visit.renamed rules) := by
  cases columns with
  | none => rfl
  | some columns =>
    simp only [Place.askTargets, Place.ask, Option.map_some, Option.getD_some, List.flatMap_map,
      List.map_flatMap, List.map_cons, List.map_nil, Visit.renamed]

mutual

theorem Query.visits_renamed (around : List Query) (place : Place) : ∀ q : Query,
    (q.renamed rules (rules.within around)).visits enclosing (rules.renamedAround around) place
      = (q.visits enclosing around place).map (Visit.renamed rules)
  | ⟨table, aliasName, select, insert, update, delete, joins, criteria, order, offset,
      limit⟩ => by
    -- the parts stand in one query more
    let inside : List Query :=
      ⟨table, aliasName, select, insert, update, delete, joins, criteria, order, offset, limit⟩
        :: around
    have htable := Table.visitsSlot_renamed inside (place.node.field "table") table
    have hselect := SelectItem.visitsAll_renamed inside (place.node.field "select") 0 select
    have hinsert := Insert.visitsSlot_renamed inside (place.node.field "insert") insert
    have hupdate := Assignment.visitsAll_renamed inside (place.node.field "update").node 0 update
    have hjoins := Join.visitsAll_renamed inside (place.node.field "joins") 0 joins
    have hcriteria := Criterion.visitsAll_renamed inside (place.node.field "criteria") 0 criteria
    have horder := Order.visitsAll_renamed inside (place.node.field "order") 0 order
    have hoffset := Operand.visitsSlot_renamed inside (place.node.field "offset") offset
    have hlimit := Operand.visitsSlot_renamed inside (place.node.field "limit") limit
    simp only [Query.visits, List.map_append, List.map_cons]
    rw [show enclosing.enter _ around = inside from rfl, ← htable, ← hselect, ← hinsert,
      ← hupdate, ← hjoins, ← hcriteria, ← horder, ← hoffset, ← hlimit]
    rfl

theorem Table.visits_renamed (around : List Query) (p : Place) : ∀ t : Table,
    (t.renamed rules (rules.within around)).visits enclosing (rules.renamedAround around) p
      = (t.visits enclosing around p).map (Visit.renamed rules)
  | .name _ => rfl
  | .query q => q.visits_renamed around p
  | .raw _ => rfl

theorem Table.visitsSlot_renamed (around : List Query) (p : Place) : ∀ t : Option Table,
    Table.visitsSlot enclosing (rules.renamedAround around) p
        (Table.renamedSlot rules (rules.within around) t)
      = (Table.visitsSlot enclosing around p t).map (Visit.renamed rules)
  | none => rfl
  | some t => t.visits_renamed around p

theorem Column.visits_renamed (around : List Query) (p : Place) : ∀ c : Column,
    (c.renamed rules (rules.within around)).visits enclosing (rules.renamedAround around) p
      = (c.visits enclosing around p).map (Visit.renamed rules)
  | .name _ => rfl
  | .query q => q.visits_renamed around p
  | .expr _ => rfl

theorem Operand.visits_renamed (around : List Query) (p : Place) : ∀ o : Operand,
    (o.renamed rules (rules.within around)).visits enclosing (rules.renamedAround around) p
      = (o.visits enclosing around p).map (Visit.renamed rules)
  | .value _ => rfl
  | .query q => q.visits_renamed around p
  | .expr _ => rfl

theorem Operand.visitsSlot_renamed (around : List Query) (p : Place) : ∀ o : Option Operand,
    Operand.visitsSlot enclosing (rules.renamedAround around) p
        (Operand.renamedSlot rules (rules.within around) o)
      = (Operand.visitsSlot enclosing around p o).map (Visit.renamed rules)
  | none => rfl
  | some o => o.visits_renamed around p

theorem Operand.visitsAll_renamed (around : List Query) (p : Place) (i : Nat) :
    ∀ os : List Operand,
      Operand.visitsAll enclosing (rules.renamedAround around) p i
          (Operand.renamedAll rules (rules.within around) os)
        = (Operand.visitsAll enclosing around p i os).map (Visit.renamed rules)
  | [] => rfl
  | o :: os => by
    simp only [Operand.renamedAll, Operand.visitsAll, List.map_append,
      o.visits_renamed around (p.item i), Operand.visitsAll_renamed around p (i + 1) os]

theorem Subquery.visits_renamed (around : List Query) (p : Place) : ∀ s : Subquery,
    (s.renamed rules (rules.within around)).visits enclosing (rules.renamedAround around) p
      = (s.visits enclosing around p).map (Visit.renamed rules)
  | .query q => q.visits_renamed around p
  | .raw _ => rfl

theorem Members.visits_renamed (around : List Query) (p : Place) : ∀ vs : Members,
    (vs.renamed rules (rules.within around)).visits enclosing (rules.renamedAround around) p
      = (vs.visits enclosing around p).map (Visit.renamed rules)
  | .list vs => Operand.visitsAll_renamed around p 0 vs
  | .select s => s.visits_renamed around p

theorem Aggregate.visits_renamed (around : List Query) (p : Place) : ∀ a : Aggregate,
    (a.renamed rules (rules.within around)).visits enclosing (rules.renamedAround around) p
      = (a.visits enclosing around p).map (Visit.renamed rules)
  | ⟨_, c⟩ => c.visits_renamed around (p.node.field "column")

theorem Selectable.visits_renamed (around : List Query) (p : Place) : ∀ s : Selectable,
    (s.renamed rules (rules.within around)).visits enclosing (rules.renamedAround around) p
      = (s.visits enclosing around p).map (Visit.renamed rules)
  | .column c => c.visits_renamed around (p.field "column")
  | .aggregate a => a.visits_renamed around (p.field "aggregate")

theorem SelectItem.visits_renamed (around : List Query) (p : Place) : ∀ item : SelectItem,
    (item.renamed rules (rules.within around)).visits enclosing (rules.renamedAround around) p
      = (item.visits enclosing around p).map (Visit.renamed rules)
  | ⟨_, s⟩ => s.visits_renamed around p.node

theorem SelectItem.visitsAll_renamed (around : List Query) (p : Place) (i : Nat) :
    ∀ items : List SelectItem,
      SelectItem.visitsAll enclosing (rules.renamedAround around) p i
          (SelectItem.renamedAll rules (rules.within around) items)
        = (SelectItem.visitsAll enclosing around p i items).map (Visit.renamed rules)
  | [] => rfl
  | item :: items => by
    simp only [SelectItem.renamedAll, SelectItem.visitsAll, List.map_append,
      item.visits_renamed around (p.item i), SelectItem.visitsAll_renamed around p (i + 1) items]

theorem Assignment.visits_renamed (around : List Query) (p : Place) : ∀ a : Assignment,
    (a.renamed rules (rules.within around)).visits enclosing (rules.renamedAround around) p
      = (a.visits enclosing around p).map (Visit.renamed rules)
  | ⟨column, v⟩ => by
    simp only [Assignment.renamed, Assignment.visits, List.map_append, v.visits_renamed around p]
    rfl

theorem Assignment.visitsAll_renamed (around : List Query) (p : Place) (i : Nat) :
    ∀ row : List Assignment,
      Assignment.visitsAll enclosing (rules.renamedAround around) p i
          (Assignment.renamedAll rules (rules.within around) row)
        = (Assignment.visitsAll enclosing around p i row).map (Visit.renamed rules)
  | [] => rfl
  | a :: row => by
    simp only [Assignment.renamedAll, Assignment.visitsAll, List.map_append,
      a.visits_renamed around (p.item i), Assignment.visitsAll_renamed around p (i + 1) row]

theorem Assignment.visitsRows_renamed (around : List Query) (p : Place) (i : Nat) :
    ∀ rows : List (List Assignment),
      Assignment.visitsRows enclosing (rules.renamedAround around) p i
          (Assignment.renamedRows rules (rules.within around) rows)
        = (Assignment.visitsRows enclosing around p i rows).map (Visit.renamed rules)
  | [] => rfl
  | row :: rows => by
    simp only [Assignment.renamedRows, Assignment.visitsRows, List.map_append,
      Assignment.visitsAll_renamed around (p.item i).node 0 row,
      Assignment.visitsRows_renamed around p (i + 1) rows]

theorem InsertSelect.visits_renamed (around : List Query) (p : Place) : ∀ s : InsertSelect,
    (s.renamed rules (rules.within around)).visits enclosing (rules.renamedAround around) p
      = (s.visits enclosing around p).map (Visit.renamed rules)
  | ⟨columns, select⟩ => by
    simp only [InsertSelect.renamed, InsertSelect.visits, List.map_append,
      Place.askTargets_renamed, select.visits_renamed around]

theorem Insert.visits_renamed (around : List Query) (p : Place) : ∀ i : Insert,
    (i.renamed rules (rules.within around)).visits enclosing (rules.renamedAround around) p
      = (i.visits enclosing around p).map (Visit.renamed rules)
  | .rows rows => Assignment.visitsRows_renamed around (p.node.field "rows") 0 rows
  | .select s => s.visits_renamed around (p.node.field "source")

theorem Insert.visitsSlot_renamed (around : List Query) (p : Place) : ∀ i : Option Insert,
    Insert.visitsSlot enclosing (rules.renamedAround around) p
        (Insert.renamedSlot rules (rules.within around) i)
      = (Insert.visitsSlot enclosing around p i).map (Visit.renamed rules)
  | none => rfl
  | some i => i.visits_renamed around p

theorem Criterion.visits_renamed (around : List Query) (p : Place) : ∀ c : Criterion,
    (c.renamed rules (rules.within around)).visits enclosing (rules.renamedAround around) p
      = (c.visits enclosing around p).map (Visit.renamed rules)
  | .value c _ v _ => by
    simp only [Criterion.renamed, Criterion.visits, List.map_append, c.visits_renamed around,
      v.visits_renamed around]
  | .columns l _ r _ => by
    simp only [Criterion.renamed, Criterion.visits, List.map_append, l.visits_renamed around,
      r.visits_renamed around]
  | .between c low high _ _ => by
    simp only [Criterion.renamed, Criterion.visits, List.map_append, c.visits_renamed around,
      low.visits_renamed around, high.visits_renamed around]
  | .group cs _ _ => Criterion.visitsAll_renamed around (p.node.field "criteria") 0 cs
  | .exists s _ _ => s.visits_renamed around (p.node.field "subquery")
  | .member c vs _ _ => by
    simp only [Criterion.renamed, Criterion.visits, List.map_append, c.visits_renamed around,
      vs.visits_renamed around]
  | .null c _ _ => c.visits_renamed around (p.node.field "column")
  | .raw _ _ => rfl

theorem Criterion.visitsAll_renamed (around : List Query) (p : Place) (i : Nat) :
    ∀ cs : List Criterion,
      Criterion.visitsAll enclosing (rules.renamedAround around) p i
          (Criterion.renamedAll rules (rules.within around) cs)
        = (Criterion.visitsAll enclosing around p i cs).map (Visit.renamed rules)
  | [] => rfl
  | c :: cs => by
    simp only [Criterion.renamedAll, Criterion.visitsAll, List.map_append,
      c.visits_renamed around (p.item i), Criterion.visitsAll_renamed around p (i + 1) cs]

theorem Order.visits_renamed (around : List Query) (p : Place) : ∀ o : Order,
    (o.renamed rules (rules.within around)).visits enclosing (rules.renamedAround around) p
      = (o.visits enclosing around p).map (Visit.renamed rules)
  | .column c _ => c.visits_renamed around (p.node.field "column")
  | .nulls c _ => c.visits_renamed around (p.node.field "column")
  | .explicit c vs _ => by
    simp only [Order.renamed, Order.visits, List.map_append, c.visits_renamed around,
      Operand.visitsAll_renamed around]
  | .random => rfl

theorem Order.visitsAll_renamed (around : List Query) (p : Place) (i : Nat) :
    ∀ os : List Order,
      Order.visitsAll enclosing (rules.renamedAround around) p i
          (Order.renamedAll rules (rules.within around) os)
        = (Order.visitsAll enclosing around p i os).map (Visit.renamed rules)
  | [] => rfl
  | o :: os => by
    simp only [Order.renamedAll, Order.visitsAll, List.map_append,
      o.visits_renamed around (p.item i), Order.visitsAll_renamed around p (i + 1) os]

theorem Join.visits_renamed (around : List Query) (p : Place) : ∀ j : Join,
    (j.renamed rules (rules.within around)).visits enclosing (rules.renamedAround around) p
      = (j.visits enclosing around p).map (Visit.renamed rules)
  | ⟨_, t, _, cs⟩ => by
    simp only [Join.renamed, Join.visits, List.map_append, t.visits_renamed around,
      Criterion.visitsAll_renamed around]

theorem Join.visitsAll_renamed (around : List Query) (p : Place) (i : Nat) :
    ∀ js : List Join,
      Join.visitsAll enclosing (rules.renamedAround around) p i
          (Join.renamedAll rules (rules.within around) js)
        = (Join.visitsAll enclosing around p i js).map (Visit.renamed rules)
  | [] => rfl
  | j :: js => by
    simp only [Join.renamedAll, Join.visitsAll, List.map_append,
      j.visits_renamed around (p.item i), Join.visitsAll_renamed around p (i + 1) js]

end

/-- A renamed tree is visited as the tree is, place by place. -/
theorem Query.visits_rename (q : Query) :
    enclosing.visits (rules.rename q) = (enclosing.visits q).map (Visit.renamed rules) := by
  rw [rules.rename_eq_renamed]
  exact q.visits_renamed rules [] .root

/-- What holds of every visit and the visit at the same place after the
renaming holds along the two trees. -/
theorem Query.forall₂_visits_rename {P : Visit (List Query) → Visit (List Query) → Prop}
    (h : ∀ v, P v (v.renamed rules)) (q : Query) :
    List.Forall₂ P (enclosing.visits q) (enclosing.visits (rules.rename q)) := by
  rw [q.visits_rename rules, List.forall₂_map_right_iff, List.forall₂_same]
  exact fun v _ => h v

/-! ## Reads of a renamed tree -/

/-- The read at the same place of the renamed tree. -/
def Read.renamed (r : Read) : Read where
  name := rules.newName .column (rules.within r.around) r.name
  around := rules.renamedAround r.around
  nodes := r.nodes

/-- A renamed tree reads what the tree reads, column by column. -/
theorem Query.reads_rename (q : Query) :
    (rules.rename q).reads = q.reads.map (Read.renamed rules) := by
  have hread : ∀ v : Visit (List Query),
      (v.renamed rules).read? = v.read?.map (Read.renamed rules) := by
    intro v
    cases v with
    | enter name around => rfl
    | ask kind name around nodes => cases kind <;> rfl
  unfold Query.reads
  rw [q.visits_rename rules, List.filterMap_map, List.map_filterMap]
  exact congrArg (List.filterMap · (enclosing.visits q)) (funext hread)

end

end SqlTree
