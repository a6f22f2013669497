import Mathlib.Logic.Function.Basic
import SqlTree.Proofs.Renaming.Sharing

/-!
# Renamings in a row

A renaming keeps the shape of a tree, so a second renaming comes to the same
places.  There it is asked about the names that the first one gave, in
contexts that it makes from the queries as they are now.  Where the answers
of the two are, name by name, those of a third set of rules, the two in a row
are the third (`RenamingRules.Composes.rename_rename`).

What contexts the three are in at one place is a relation that goes with the
rules.  Two laws of renamings follow from the one walk here.  Rules that
compose with themselves to themselves rename once and for all; and rules that
take different names to different names, wherever they are asked, have rules
that turn the names back, so they take different trees to different trees
(`RenamingRules.rename_injective`).
-/

set_option autoImplicit false
set_option linter.unusedSectionVars false

namespace SqlTree

variable {A B C : Type}

/-! ## Rules in a row -/

/-- The rules `r` and then `s` give the names that `t` gives, in contexts that
belong together. -/
structure RenamingRules.Composes (r : RenamingRules A) (s : RenamingRules B)
    (t : RenamingRules C) (Together : A → B → C → Prop) : Prop where
  /-- the contexts at the root belong together -/
  root : Together r.root s.root t.root
  /-- so do those inside of a query, which `s` meets in its new form -/
  enter : ∀ {a b c} (q : Query), Together a b c →
    Together (r.enter q a) (s.enter (q.renamed r a) b) (t.enter q c)
  newName : ∀ {a b c} (kind : NameKind) (name : String), Together a b c →
    s.newName kind b (r.newName kind a name) = t.newName kind c name

section

variable {r : RenamingRules A} {s : RenamingRules B} {t : RenamingRules C}
  {Together : A → B → C → Prop} (h : r.Composes s t Together)

include h

/-- The columns that an INSERT lists. -/
theorem RenamingRules.Composes.targets {a : A} {b : B} {c : C} (hctx : Together a b c)
    (columns : Option (List String)) :
    (columns.map (·.map (r.newName .target a))).map (·.map (s.newName .target b))
      = columns.map (·.map (t.newName .target c)) := by
  have hname : s.newName .target b ∘ r.newName .target a = t.newName .target c :=
    funext fun column => h.newName .target column hctx
  rw [Option.map_map]
  cases columns with
  | none => rfl
  | some columns => rw [Option.map_some, Function.comp, List.map_map, hname, Option.map_some]

mutual

theorem Query.renamed_renamed {a : A} {b : B} {c : C} (hctx : Together a b c) : ∀ q : Query,
    (q.renamed r a).renamed s b = q.renamed t c
  | ⟨table, aliasName, select, insert, update, delete, joins, criteria, order, offset,
      limit⟩ => by
    have hinside := h.enter ⟨table, aliasName, select, insert, update, delete, joins, criteria,
      order, offset, limit⟩ hctx
    exact (Query.mk.injEq ..).mpr ⟨Table.renamedSlot_renamedSlot hinside table, rfl,
      SelectItem.renamedAll_renamedAll hinside select,
      Insert.renamedSlot_renamedSlot hinside insert,
      Assignment.renamedAll_renamedAll hinside update, rfl,
      Join.renamedAll_renamedAll hinside joins,
      Criterion.renamedAll_renamedAll hinside criteria,
      Order.renamedAll_renamedAll hinside order,
      Operand.renamedSlot_renamedSlot hinside offset,
      Operand.renamedSlot_renamedSlot hinside limit⟩

theorem Table.renamed_renamed {a : A} {b : B} {c : C} (hctx : Together a b c) : ∀ t' : Table,
    (t'.renamed r a).renamed s b = t'.renamed t c
  | .name n => congrArg Table.name (h.newName .table n hctx)
  | .query q => congrArg Table.query (q.renamed_renamed hctx)
  | .raw _ => rfl

theorem Table.renamedSlot_renamedSlot {a : A} {b : B} {c : C} (hctx : Together a b c) :
    ∀ t' : Option Table,
      Table.renamedSlot s b (Table.renamedSlot r a t') = Table.renamedSlot t c t'
  | none => rfl
  | some t' => congrArg some (t'.renamed_renamed hctx)

theorem Column.renamed_renamed {a : A} {b : B} {c : C} (hctx : Together a b c) : ∀ col : Column,
    (col.renamed r a).renamed s b = col.renamed t c
  | .name n => congrArg Column.name (h.newName .column n hctx)
  | .query q => congrArg Column.query (q.renamed_renamed hctx)
  | .expr _ => rfl

theorem Operand.renamed_renamed {a : A} {b : B} {c : C} (hctx : Together a b c) : ∀ o : Operand,
    (o.renamed r a).renamed s b = o.renamed t c
  | .value _ => rfl
  | .query q => congrArg Operand.query (q.renamed_renamed hctx)
  | .expr _ => rfl

theorem Operand.renamedSlot_renamedSlot {a : A} {b : B} {c : C} (hctx : Together a b c) :
    ∀ o : Option Operand,
      Operand.renamedSlot s b (Operand.renamedSlot r a o) = Operand.renamedSlot t c o
  | none => rfl
  | some o => congrArg some (o.renamed_renamed hctx)

theorem Operand.renamedAll_renamedAll {a : A} {b : B} {c : C} (hctx : Together a b c) :
    ∀ os : List Operand,
      Operand.renamedAll s b (Operand.renamedAll r a os) = Operand.renamedAll t c os
  | [] => rfl
  | o :: os =>
    congrArg₂ List.cons (o.renamed_renamed hctx) (Operand.renamedAll_renamedAll hctx os)

theorem Subquery.renamed_renamed {a : A} {b : B} {c : C} (hctx : Together a b c) :
    ∀ sub : Subquery, (sub.renamed r a).renamed s b = sub.renamed t c
  | .query q => congrArg Subquery.query (q.renamed_renamed hctx)
  | .raw _ => rfl

theorem Members.renamed_renamed {a : A} {b : B} {c : C} (hctx : Together a b c) : ∀ vs : Members,
    (vs.renamed r a).renamed s b = vs.renamed t c
  | .list vs => congrArg Members.list (Operand.renamedAll_renamedAll hctx vs)
  | .select sub => congrArg Members.select (sub.renamed_renamed hctx)

theorem Aggregate.renamed_renamed {a : A} {b : B} {c : C} (hctx : Together a b c) :
    ∀ call : Aggregate, (call.renamed r a).renamed s b = call.renamed t c
  | ⟨function, col⟩ => congrArg (Aggregate.mk function) (col.renamed_renamed hctx)

theorem Selectable.renamed_renamed {a : A} {b : B} {c : C} (hctx : Together a b c) :
    ∀ entry : Selectable, (entry.renamed r a).renamed s b = entry.renamed t c
  | .column col => congrArg Selectable.column (col.renamed_renamed hctx)
  | .aggregate call => congrArg Selectable.aggregate (call.renamed_renamed hctx)

theorem SelectItem.renamed_renamed {a : A} {b : B} {c : C} (hctx : Together a b c) :
    ∀ item : SelectItem, (item.renamed r a).renamed s b = item.renamed t c
  | ⟨aliasName, entry⟩ => congrArg (SelectItem.mk aliasName) (entry.renamed_renamed hctx)

theorem SelectItem.renamedAll_renamedAll {a : A} {b : B} {c : C} (hctx : Together a b c) :
    ∀ items : List SelectItem,
      SelectItem.renamedAll s b (SelectItem.renamedAll r a items) = SelectItem.renamedAll t c items
  | [] => rfl
  | item :: items =>
    congrArg₂ List.cons (item.renamed_renamed hctx) (SelectItem.renamedAll_renamedAll hctx items)

theorem Assignment.renamed_renamed {a : A} {b : B} {c : C} (hctx : Together a b c) :
    ∀ entry : Assignment, (entry.renamed r a).renamed s b = entry.renamed t c
  | ⟨column, v⟩ =>
    congrArg₂ Assignment.mk (h.newName .target column hctx) (v.renamed_renamed hctx)

theorem Assignment.renamedAll_renamedAll {a : A} {b : B} {c : C} (hctx : Together a b c) :
    ∀ row : List Assignment,
      Assignment.renamedAll s b (Assignment.renamedAll r a row) = Assignment.renamedAll t c row
  | [] => rfl
  | entry :: row =>
    congrArg₂ List.cons (entry.renamed_renamed hctx) (Assignment.renamedAll_renamedAll hctx row)

theorem Assignment.renamedRows_renamedRows {a : A} {b : B} {c : C} (hctx : Together a b c) :
    ∀ rows : List (List Assignment),
      Assignment.renamedRows s b (Assignment.renamedRows r a rows) = Assignment.renamedRows t c rows
  | [] => rfl
  | row :: rows =>
    congrArg₂ List.cons (Assignment.renamedAll_renamedAll hctx row)
      (Assignment.renamedRows_renamedRows hctx rows)

theorem InsertSelect.renamed_renamed {a : A} {b : B} {c : C} (hctx : Together a b c) :
    ∀ source : InsertSelect, (source.renamed r a).renamed s b = source.renamed t c
  | ⟨columns, select⟩ =>
    congrArg₂ InsertSelect.mk (h.targets hctx columns) (select.renamed_renamed hctx)

theorem Insert.renamed_renamed {a : A} {b : B} {c : C} (hctx : Together a b c) : ∀ i : Insert,
    (i.renamed r a).renamed s b = i.renamed t c
  | .rows rows => congrArg Insert.rows (Assignment.renamedRows_renamedRows hctx rows)
  | .select source => congrArg Insert.select (source.renamed_renamed hctx)

theorem Insert.renamedSlot_renamedSlot {a : A} {b : B} {c : C} (hctx : Together a b c) :
    ∀ i : Option Insert,
      Insert.renamedSlot s b (Insert.renamedSlot r a i) = Insert.renamedSlot t c i
  | none => rfl
  | some i => congrArg some (i.renamed_renamed hctx)

theorem Criterion.renamed_renamed {a : A} {b : B} {c : C} (hctx : Together a b c) :
    ∀ test : Criterion, (test.renamed r a).renamed s b = test.renamed t c
  | .value col _ v _ => by
    simp only [Criterion.renamed, col.renamed_renamed hctx, v.renamed_renamed hctx]
  | .columns left _ right _ => by
    simp only [Criterion.renamed, left.renamed_renamed hctx, right.renamed_renamed hctx]
  | .between col low high _ _ => by
    simp only [Criterion.renamed, col.renamed_renamed hctx, low.renamed_renamed hctx,
      high.renamed_renamed hctx]
  | .group cs negated append =>
    congrArg (Criterion.group · negated append) (Criterion.renamedAll_renamedAll hctx cs)
  | .exists sub negated append =>
    congrArg (Criterion.exists · negated append) (sub.renamed_renamed hctx)
  | .member col vs _ _ => by
    simp only [Criterion.renamed, col.renamed_renamed hctx, vs.renamed_renamed hctx]
  | .null col isNull append =>
    congrArg (Criterion.null · isNull append) (col.renamed_renamed hctx)
  | .raw _ _ => rfl

theorem Criterion.renamedAll_renamedAll {a : A} {b : B} {c : C} (hctx : Together a b c) :
    ∀ cs : List Criterion,
      Criterion.renamedAll s b (Criterion.renamedAll r a cs) = Criterion.renamedAll t c cs
  | [] => rfl
  | test :: cs =>
    congrArg₂ List.cons (test.renamed_renamed hctx) (Criterion.renamedAll_renamedAll hctx cs)

theorem Order.renamed_renamed {a : A} {b : B} {c : C} (hctx : Together a b c) : ∀ o : Order,
    (o.renamed r a).renamed s b = o.renamed t c
  | .column col descending =>
    congrArg (Order.column · descending) (col.renamed_renamed hctx)
  | .nulls col nullsFirst => congrArg (Order.nulls · nullsFirst) (col.renamed_renamed hctx)
  | .explicit col vs _ => by
    simp only [Order.renamed, col.renamed_renamed hctx, Operand.renamedAll_renamedAll hctx vs]
  | .random => rfl

theorem Order.renamedAll_renamedAll {a : A} {b : B} {c : C} (hctx : Together a b c) :
    ∀ os : List Order, Order.renamedAll s b (Order.renamedAll r a os) = Order.renamedAll t c os
  | [] => rfl
  | o :: os => congrArg₂ List.cons (o.renamed_renamed hctx) (Order.renamedAll_renamedAll hctx os)

theorem Join.renamed_renamed {a : A} {b : B} {c : C} (hctx : Together a b c) : ∀ j : Join,
    (j.renamed r a).renamed s b = j.renamed t c
  | ⟨_, table, _, cs⟩ => by
    simp only [Join.renamed, table.renamed_renamed hctx, Criterion.renamedAll_renamedAll hctx cs]

theorem Join.renamedAll_renamedAll {a : A} {b : B} {c : C} (hctx : Together a b c) :
    ∀ js : List Join, Join.renamedAll s b (Join.renamedAll r a js) = Join.renamedAll t c js
  | [] => rfl
  | j :: js => congrArg₂ List.cons (j.renamed_renamed hctx) (Join.renamedAll_renamedAll hctx js)

end

/-- Two renamings in a row are the third. -/
theorem RenamingRules.Composes.rename_rename (q : Query) :
    s.rename (r.rename q) = t.rename q := by
  rw [s.rename_eq_renamed, r.rename_eq_renamed, t.rename_eq_renamed]
  exact q.renamed_renamed h h.root

end

/-! ## Different trees -/

/-- Rules that look at nothing but the name. -/
def RenamingRules.ofNames (new : NameKind → String → String) : RenamingRules Unit where
  root := ()
  enter _ _ := ()
  tableName name _ := some (new .table name)
  columnName name _ := some (new .column name)
  targetName name _ := some (new .target name)

theorem RenamingRules.newName_ofNames (new : NameKind → String → String) (kind : NameKind)
    (name : String) : (ofNames new).newName kind () name = new kind name := by
  cases kind <;> rfl

/-- Rules without answers change nothing. -/
theorem RenamingRules.rename_unchanged (q : Query) : unchanged.rename q = q := by
  have hunanswered : ∀ v ∈ q.visits unchanged () .root, v.IsUnanswered unchanged := by
    intro v _
    cases v with
    | enter name ctx => trivial
    | ask kind name ctx nodes => cases kind <;> rfl
  have traces : Revision.Traces unchanged _ q _ _ := q.traces () .root
  have hnone : unchanged.rename? q = none := traces.eq_none_iff.mpr hunanswered
  rw [rename, hnone, Option.getD_none]

/-- Rules that stay in one context and take different names to different
names take different trees to different trees. -/
theorem RenamingRules.rename_injective {r : RenamingRules A}
    (henter : ∀ q, r.enter q r.root = r.root)
    (hnames : ∀ kind, Function.Injective (r.newName kind r.root)) :
    Function.Injective r.rename := by
  have hback : r.Composes (ofNames fun kind => Function.invFun (r.newName kind r.root)) unchanged
      fun a _ _ => a = r.root :=
    { root := rfl
      enter := by
        rintro _ _ _ q rfl
        exact henter q
      newName := by
        rintro _ _ _ kind name rfl
        rw [newName_ofNames, Function.leftInverse_invFun (hnames kind) name]
        cases kind <;> rfl }
  exact Function.LeftInverse.injective fun q => (hback.rename_rename q).trans (rename_unchanged q)

end SqlTree
