import SqlTree.Proofs.Renaming.Traversal
import SqlTree.Renaming.Prefixer
import SqlTree.Renaming.Qualifier

/-!
# Revisions and the plain traversal

`RenamingRules.rename` makes anew only what holds a changed name.  Here it
is compared with the traversal that makes every node anew: the new tree is
the same, and a part stays exactly where no question about a name in it,
at any depth, gets an answer.

`Traces` is the relation of a part, its visits, its revision and its new
form.  It has a rule for every way in which revisions are put together, and
the comparison is one walk over the tree that applies them.

A rule may answer a name with the name itself.  Where none does, a part
stays exactly where the traversal would not change it.
-/

set_option autoImplicit false

namespace SqlTree

variable {Context : Type}

/-! ## Questions without an answer -/

/-- The visit asks for nothing, or gets no answer. -/
def Visit.IsUnanswered (rules : RenamingRules Context) : Visit Context → Prop
  | .enter _ _ => True
  | .ask kind name ctx _ => rules.answer kind name ctx = none

/-- No name is answered with the name itself. -/
def RenamingRules.NeverEchoes (rules : RenamingRules Context) : Prop :=
  ∀ kind name ctx, rules.answer kind name ctx ≠ some name

namespace Revision

variable {α β γ : Type}

/-- A part `a` with its visits, its revision, and its new form. -/
structure Traces (rules : RenamingRules Context) (visits : List (Visit Context)) (a : α)
    (a' : Revision α) (new : α) : Prop where
  /-- what is made anew, or stays, is the new form -/
  getD_eq : a'.getD a = new
  /-- the part stays where no question is answered -/
  eq_none_iff : a' = none ↔ ∀ v ∈ visits, v.IsUnanswered rules
  /-- a part that does not change stays, unless names are answered with
  themselves -/
  eq_none_of_fixed : rules.NeverEchoes → new = a → a' = none

namespace Traces

variable {rules : RenamingRules Context} {us vs : List (Visit Context)} {a new : α} {b newB : β}
  {a' : Revision α} {b' : Revision β}

/-- A part without names. -/
theorem unasked (a : α) : Traces rules [] a none a where
  getD_eq := rfl
  eq_none_iff := by simp
  eq_none_of_fixed _ _ := rfl

/-- A name. -/
theorem ask (p : Place) (kind : NameKind) (name : String) (ctx : Context) :
    Traces rules (p.ask kind name ctx) name (rules.answer kind name ctx)
      (rules.newName kind ctx name) where
  getD_eq := rfl
  eq_none_iff := by
    rw [Place.ask, List.forall_mem_singleton]
    rfl
  eq_none_of_fixed hechoes hfixed := by
    cases hanswer : rules.answer kind name ctx with
    | none => rfl
    | some name' =>
      rw [RenamingRules.newName, hanswer, Option.getD_some] at hfixed
      rw [hfixed] at hanswer
      exact absurd hanswer (hechoes kind name ctx)

/-- A part inside of a node. -/
theorem map (f : α → β) (h : Traces rules vs a a' new)
    (hf : ∀ x, f x = f a → x = a := by simp) :
    Traces rules vs (f a) (a'.map f) (f new) where
  getD_eq := by
    rw [← h.getD_eq]
    cases a' <;> rfl
  eq_none_iff := by rw [Option.map_eq_none_iff, h.eq_none_iff]
  eq_none_of_fixed hechoes hfixed := by
    rw [h.eq_none_of_fixed hechoes (hf new hfixed), Option.map_none]

/-- Two parts of a node, visited one after the other. -/
theorem both (make : α → β → γ) (ha : Traces rules us a a' new)
    (hb : Traces rules vs b b' newB)
    (hmake : ∀ x y, make x y = make a b → x = a ∧ y = b := by simp) :
    Traces rules (us ++ vs) (make a b) (both make a b a' b') (make new newB) where
  getD_eq := by rw [both_getD, ha.getD_eq, hb.getD_eq]
  eq_none_iff := by
    rw [both_eq_none_iff, ha.eq_none_iff, hb.eq_none_iff, List.forall_mem_append]
  eq_none_of_fixed hechoes hfixed := by
    obtain ⟨hnew, hnewB⟩ := hmake new newB hfixed
    rw [both_eq_none_iff]
    exact ⟨ha.eq_none_of_fixed hechoes hnew, hb.eq_none_of_fixed hechoes hnewB⟩

/-- The columns that an INSERT lists. -/
theorem targets (p : Place) (ctx : Context) (columns : List String) :
    Traces rules (columns.flatMap fun column => p.ask .target column ctx) columns
      (list (fun column => rules.targetName column ctx) columns)
      (columns.map (rules.newName .target ctx)) := by
  induction columns with
  | nil => exact unasked []
  | cons column columns ih => exact .both _ (ask p .target column ctx) ih

theorem targetSlot (p : Place) (ctx : Context) : ∀ columns : Option (List String),
    Traces rules (p.askTargets ctx columns) columns
      (slot (list fun column => rules.targetName column ctx) columns)
      (columns.map (·.map (rules.newName .target ctx)))
  | none => unasked none
  | some columns => (targets p ctx columns).map _

end Traces

end Revision

/-! ## One walk over the tree -/

section

open Revision

variable {rules : RenamingRules Context}

/-- A query stays where all of its parts do. -/
theorem Query.revise_eq_none_iff (rules : RenamingRules Context) (q : Query) (around : Context) :
    q.revise rules around = none ↔
      Table.reviseSlot rules (rules.enter q around) q.table = none
        ∧ SelectItem.reviseAll rules (rules.enter q around) q.select = none
        ∧ Insert.reviseSlot rules (rules.enter q around) q.insert = none
        ∧ Assignment.reviseAll rules (rules.enter q around) q.update = none
        ∧ Join.reviseAll rules (rules.enter q around) q.joins = none
        ∧ Criterion.reviseAll rules (rules.enter q around) q.criteria = none
        ∧ Order.reviseAll rules (rules.enter q around) q.order = none
        ∧ Operand.reviseSlot rules (rules.enter q around) q.offset = none
        ∧ Operand.reviseSlot rules (rules.enter q around) q.limit = none := by
  cases q
  simp [Query.revise, and_assoc]

/-- A query is made anew where one of its parts is, and then holds all of
its parts as they are now. -/
theorem Query.traces_of_parts {q : Query} {around ctx : Context} {place p : Place}
    (hctx : rules.enter q around = ctx) (hp : place.node = p)
    (htable : Traces rules (Table.visitsSlot rules ctx (p.field "table") q.table) q.table
      (Table.reviseSlot rules ctx q.table) (Table.renamedSlot rules ctx q.table))
    (hselect : Traces rules (SelectItem.visitsAll rules ctx (p.field "select") 0 q.select) q.select
      (SelectItem.reviseAll rules ctx q.select) (SelectItem.renamedAll rules ctx q.select))
    (hinsert : Traces rules (Insert.visitsSlot rules ctx (p.field "insert") q.insert) q.insert
      (Insert.reviseSlot rules ctx q.insert) (Insert.renamedSlot rules ctx q.insert))
    (hupdate : Traces rules (Assignment.visitsAll rules ctx (p.field "update").node 0 q.update)
      q.update (Assignment.reviseAll rules ctx q.update) (Assignment.renamedAll rules ctx q.update))
    (hjoins : Traces rules (Join.visitsAll rules ctx (p.field "joins") 0 q.joins) q.joins
      (Join.reviseAll rules ctx q.joins) (Join.renamedAll rules ctx q.joins))
    (hcriteria : Traces rules (Criterion.visitsAll rules ctx (p.field "criteria") 0 q.criteria)
      q.criteria (Criterion.reviseAll rules ctx q.criteria)
      (Criterion.renamedAll rules ctx q.criteria))
    (horder : Traces rules (Order.visitsAll rules ctx (p.field "order") 0 q.order) q.order
      (Order.reviseAll rules ctx q.order) (Order.renamedAll rules ctx q.order))
    (hoffset : Traces rules (Operand.visitsSlot rules ctx (p.field "offset") q.offset) q.offset
      (Operand.reviseSlot rules ctx q.offset) (Operand.renamedSlot rules ctx q.offset))
    (hlimit : Traces rules (Operand.visitsSlot rules ctx (p.field "limit") q.limit) q.limit
      (Operand.reviseSlot rules ctx q.limit) (Operand.renamedSlot rules ctx q.limit)) :
    Traces rules (q.visits rules around place) q (q.revise rules around)
      (q.renamed rules around) := by
  subst hctx hp
  refine ⟨?_, ?_, ?_⟩
  · cases q
    unfold Query.revise Query.renamed
    simp only [← htable.getD_eq, ← hselect.getD_eq, ← hinsert.getD_eq, ← hupdate.getD_eq,
      ← hjoins.getD_eq, ← hcriteria.getD_eq, ← horder.getD_eq, ← hoffset.getD_eq,
      ← hlimit.getD_eq]
    split
    next h =>
      simp only [Bool.and_eq_true, Option.isNone_iff_eq_none] at h
      simp [h]
    next => rfl
  · rw [q.revise_eq_none_iff, htable.eq_none_iff, hselect.eq_none_iff, hinsert.eq_none_iff,
      hupdate.eq_none_iff, hjoins.eq_none_iff, hcriteria.eq_none_iff, horder.eq_none_iff,
      hoffset.eq_none_iff, hlimit.eq_none_iff]
    cases q
    simp only [Query.visits, List.cons_append, List.forall_mem_cons, List.forall_mem_append,
      and_assoc, Visit.IsUnanswered, true_and]
  · intro hechoes hfixed
    rw [q.revise_eq_none_iff]
    cases q
    obtain ⟨table, -, select, insert, update, -, joins, criteria, order, offset, limit⟩ :=
      (Query.mk.injEq ..).mp hfixed
    exact ⟨htable.eq_none_of_fixed hechoes table, hselect.eq_none_of_fixed hechoes select,
      hinsert.eq_none_of_fixed hechoes insert, hupdate.eq_none_of_fixed hechoes update,
      hjoins.eq_none_of_fixed hechoes joins, hcriteria.eq_none_of_fixed hechoes criteria,
      horder.eq_none_of_fixed hechoes order, hoffset.eq_none_of_fixed hechoes offset,
      hlimit.eq_none_of_fixed hechoes limit⟩

mutual

theorem Query.traces (around : Context) (place : Place) : ∀ q : Query,
    Traces rules (q.visits rules around place) q (q.revise rules around) (q.renamed rules around)
  | ⟨table, aliasName, select, insert, update, delete, joins, criteria, order, offset,
      limit⟩ => by
    let ctx := rules.enter ⟨table, aliasName, select, insert, update, delete, joins, criteria,
      order, offset, limit⟩ around
    let p := place.node
    exact Query.traces_of_parts rfl rfl
      (Table.tracesSlot ctx (p.field "table") table)
      (SelectItem.tracesAll ctx (p.field "select") 0 select)
      (Insert.tracesSlot ctx (p.field "insert") insert)
      (Assignment.tracesAll ctx (p.field "update").node 0 update)
      (Join.tracesAll ctx (p.field "joins") 0 joins)
      (Criterion.tracesAll ctx (p.field "criteria") 0 criteria)
      (Order.tracesAll ctx (p.field "order") 0 order)
      (Operand.tracesSlot ctx (p.field "offset") offset)
      (Operand.tracesSlot ctx (p.field "limit") limit)

theorem Table.traces (ctx : Context) (p : Place) : ∀ t : Table,
    Traces rules (t.visits rules ctx p) t (t.revise rules ctx) (t.renamed rules ctx)
  | .name n => (Traces.ask p .table n ctx).map _
  | .query q => (q.traces ctx p).map _
  | .raw _ => .unasked _

theorem Table.tracesSlot (ctx : Context) (p : Place) : ∀ t : Option Table,
    Traces rules (Table.visitsSlot rules ctx p t) t (Table.reviseSlot rules ctx t)
      (Table.renamedSlot rules ctx t)
  | none => .unasked none
  | some t => (t.traces ctx p).map _

theorem Column.traces (ctx : Context) (p : Place) : ∀ c : Column,
    Traces rules (c.visits rules ctx p) c (c.revise rules ctx) (c.renamed rules ctx)
  | .name n => (Traces.ask p .column n ctx).map _
  | .query q => (q.traces ctx p).map _
  | .expr _ => .unasked _

theorem Operand.traces (ctx : Context) (p : Place) : ∀ o : Operand,
    Traces rules (o.visits rules ctx p) o (o.revise rules ctx) (o.renamed rules ctx)
  | .value _ => .unasked _
  | .query q => (q.traces ctx p).map _
  | .expr _ => .unasked _

theorem Operand.tracesSlot (ctx : Context) (p : Place) : ∀ o : Option Operand,
    Traces rules (Operand.visitsSlot rules ctx p o) o (Operand.reviseSlot rules ctx o)
      (Operand.renamedSlot rules ctx o)
  | none => .unasked none
  | some o => (o.traces ctx p).map _

theorem Operand.tracesAll (ctx : Context) (p : Place) (i : Nat) : ∀ os : List Operand,
    Traces rules (Operand.visitsAll rules ctx p i os) os (Operand.reviseAll rules ctx os)
      (Operand.renamedAll rules ctx os)
  | [] => .unasked []
  | o :: os => .both _ (o.traces ctx (p.item i)) (Operand.tracesAll ctx p (i + 1) os)

theorem Subquery.traces (ctx : Context) (p : Place) : ∀ s : Subquery,
    Traces rules (s.visits rules ctx p) s (s.revise rules ctx) (s.renamed rules ctx)
  | .query q => (q.traces ctx p).map _
  | .raw _ => .unasked _

theorem Members.traces (ctx : Context) (p : Place) : ∀ vs : Members,
    Traces rules (vs.visits rules ctx p) vs (vs.revise rules ctx) (vs.renamed rules ctx)
  | .list vs => (Operand.tracesAll ctx p 0 vs).map _
  | .select s => (s.traces ctx p).map _

theorem Aggregate.traces (ctx : Context) (p : Place) : ∀ a : Aggregate,
    Traces rules (a.visits rules ctx p) a (a.revise rules ctx) (a.renamed rules ctx)
  | ⟨function, c⟩ =>
    .map (Aggregate.mk function) (c.traces ctx (p.node.field "column"))

theorem Selectable.traces (ctx : Context) (p : Place) : ∀ s : Selectable,
    Traces rules (s.visits rules ctx p) s (s.revise rules ctx) (s.renamed rules ctx)
  | .column c => (c.traces ctx (p.field "column")).map _
  | .aggregate a => (a.traces ctx (p.field "aggregate")).map _

theorem SelectItem.traces (ctx : Context) (p : Place) : ∀ item : SelectItem,
    Traces rules (item.visits rules ctx p) item (item.revise rules ctx) (item.renamed rules ctx)
  | ⟨aliasName, s⟩ => .map (SelectItem.mk aliasName) (s.traces ctx p.node)

theorem SelectItem.tracesAll (ctx : Context) (p : Place) (i : Nat) : ∀ items : List SelectItem,
    Traces rules (SelectItem.visitsAll rules ctx p i items) items
      (SelectItem.reviseAll rules ctx items) (SelectItem.renamedAll rules ctx items)
  | [] => .unasked []
  | item :: items => .both _ (item.traces ctx (p.item i)) (SelectItem.tracesAll ctx p (i + 1) items)

theorem Assignment.traces (ctx : Context) (p : Place) : ∀ a : Assignment,
    Traces rules (a.visits rules ctx p) a (a.revise rules ctx) (a.renamed rules ctx)
  | ⟨column, v⟩ => .both _ (Traces.ask p .target column ctx) (v.traces ctx p)

theorem Assignment.tracesAll (ctx : Context) (p : Place) (i : Nat) : ∀ row : List Assignment,
    Traces rules (Assignment.visitsAll rules ctx p i row) row
      (Assignment.reviseAll rules ctx row) (Assignment.renamedAll rules ctx row)
  | [] => .unasked []
  | a :: row => .both _ (a.traces ctx (p.item i)) (Assignment.tracesAll ctx p (i + 1) row)

theorem Assignment.tracesRows (ctx : Context) (p : Place) (i : Nat) :
    ∀ rows : List (List Assignment), Traces rules (Assignment.visitsRows rules ctx p i rows) rows
      (Assignment.reviseRows rules ctx rows) (Assignment.renamedRows rules ctx rows)
  | [] => .unasked []
  | row :: rows =>
    .both _ (Assignment.tracesAll ctx (p.item i).node 0 row)
      (Assignment.tracesRows ctx p (i + 1) rows)

theorem InsertSelect.traces (ctx : Context) (p : Place) : ∀ s : InsertSelect,
    Traces rules (s.visits rules ctx p) s (s.revise rules ctx) (s.renamed rules ctx)
  | ⟨columns, select⟩ =>
    .both _ (Traces.targetSlot p.node ctx columns) (select.traces ctx (p.node.field "select"))

theorem Insert.traces (ctx : Context) (p : Place) : ∀ i : Insert,
    Traces rules (i.visits rules ctx p) i (i.revise rules ctx) (i.renamed rules ctx)
  | .rows rows => (Assignment.tracesRows ctx (p.node.field "rows") 0 rows).map _
  | .select s => (s.traces ctx (p.node.field "source")).map _

theorem Insert.tracesSlot (ctx : Context) (p : Place) : ∀ i : Option Insert,
    Traces rules (Insert.visitsSlot rules ctx p i) i (Insert.reviseSlot rules ctx i)
      (Insert.renamedSlot rules ctx i)
  | none => .unasked none
  | some i => (i.traces ctx p).map _

theorem Criterion.traces (ctx : Context) (p : Place) : ∀ c : Criterion,
    Traces rules (c.visits rules ctx p) c (c.revise rules ctx) (c.renamed rules ctx)
  | .value c rule v append =>
    .both (Criterion.value · rule · append) (c.traces ctx (p.node.field "column"))
      (v.traces ctx (p.node.field "value"))
  | .columns l rule r append =>
    .both (Criterion.columns · rule · append) (l.traces ctx (p.node.field "left"))
      (r.traces ctx (p.node.field "right"))
  | .between c low high negated append => by
    have bounds : Traces rules _ (low, high) _ _ :=
      .both _ (low.traces ctx (p.node.field "min")) (high.traces ctx (p.node.field "max"))
    unfold Criterion.visits
    rw [List.append_assoc]
    exact .both (fun c bounds => Criterion.between c bounds.1 bounds.2 negated append)
      (c.traces ctx (p.node.field "column")) bounds (by simp +contextual)
  | .group cs negated append =>
    .map (Criterion.group · negated append)
      (Criterion.tracesAll ctx (p.node.field "criteria") 0 cs)
  | .exists s negated append =>
    .map (Criterion.exists · negated append) (s.traces ctx (p.node.field "subquery"))
  | .member c vs negated append =>
    .both (Criterion.member · · negated append) (c.traces ctx (p.node.field "column"))
      (vs.traces ctx (p.node.field "values"))
  | .null c isNull append =>
    .map (Criterion.null · isNull append) (c.traces ctx (p.node.field "column"))
  | .raw _ _ => .unasked _

theorem Criterion.tracesAll (ctx : Context) (p : Place) (i : Nat) : ∀ cs : List Criterion,
    Traces rules (Criterion.visitsAll rules ctx p i cs) cs (Criterion.reviseAll rules ctx cs)
      (Criterion.renamedAll rules ctx cs)
  | [] => .unasked []
  | c :: cs => .both _ (c.traces ctx (p.item i)) (Criterion.tracesAll ctx p (i + 1) cs)

theorem Order.traces (ctx : Context) (p : Place) : ∀ o : Order,
    Traces rules (o.visits rules ctx p) o (o.revise rules ctx) (o.renamed rules ctx)
  | .column c descending =>
    .map (Order.column · descending) (c.traces ctx (p.node.field "column"))
  | .nulls c nullsFirst =>
    .map (Order.nulls · nullsFirst) (c.traces ctx (p.node.field "column"))
  | .explicit c vs othersFirst =>
    .both (Order.explicit · · othersFirst) (c.traces ctx (p.node.field "column"))
      (Operand.tracesAll ctx (p.node.field "values") 0 vs)
  | .random => .unasked _

theorem Order.tracesAll (ctx : Context) (p : Place) (i : Nat) : ∀ os : List Order,
    Traces rules (Order.visitsAll rules ctx p i os) os (Order.reviseAll rules ctx os)
      (Order.renamedAll rules ctx os)
  | [] => .unasked []
  | o :: os => .both _ (o.traces ctx (p.item i)) (Order.tracesAll ctx p (i + 1) os)

theorem Join.traces (ctx : Context) (p : Place) : ∀ j : Join,
    Traces rules (j.visits rules ctx p) j (j.revise rules ctx) (j.renamed rules ctx)
  | ⟨kind, t, aliasName, cs⟩ =>
    .both (Join.mk kind · aliasName ·) (t.traces ctx (p.node.field "table"))
      (Criterion.tracesAll ctx (p.node.field "criteria") 0 cs)

theorem Join.tracesAll (ctx : Context) (p : Place) (i : Nat) : ∀ js : List Join,
    Traces rules (Join.visitsAll rules ctx p i js) js (Join.reviseAll rules ctx js)
      (Join.renamedAll rules ctx js)
  | [] => .unasked []
  | j :: js => .both _ (j.traces ctx (p.item i)) (Join.tracesAll ctx p (i + 1) js)

end

end

/-! ## The rules that come along -/

/-- The parts of a name that is cut at a dot are shorter by the dot. -/
theorem length_of_splitLast {name : String} {before after : List Char}
    (h : Text.splitLast '.' name.toList = some (before, after)) :
    name.length = before.length + 1 + after.length := by
  have hname := congrArg List.length (Text.splitLast_eq_some h)
  rw [String.length_toList, List.length_append, List.length_cons] at hname
  omega

/-- A prefixed table is longer by the prefix. -/
theorem TablePrefixer.length_table (p : TablePrefixer) (name : String) :
    (p.table name).length = p.tablePrefix.length + name.length := by
  unfold TablePrefixer.table
  split
  next database table hsplit =>
    rw [length_of_splitLast hsplit]
    simp only [String.length_append, String.length_ofList, show ".".length = 1 by rfl]
    omega
  next => rw [String.length_append]

/-- So is a column whose table gets the prefix. -/
theorem TablePrefixer.length_column {p : TablePrefixer} {name name' : String}
    {scope : TablesInScope} (h : p.column? name scope = some name') :
    p.tablePrefix.isEmpty = false ∧ name'.length = p.tablePrefix.length + name.length := by
  unfold TablePrefixer.column? at h
  split at h
  · cases h
  next hp =>
    refine ⟨by simpa using hp, ?_⟩
    split at h
    · cases h
    next table column hsplit =>
      dsimp only at h
      split at h
      · cases h
        rw [length_of_splitLast hsplit]
        simp only [String.length_append, String.length_ofList, TablePrefixer.length_table,
          show ".".length = 1 by rfl]
        omega
      · cases h

/-- A prefix changes every name that it is put before. -/
theorem TablePrefixer.neverEchoes (p : TablePrefixer) : p.rules.NeverEchoes := by
  have hlength {name : String} (hp : p.tablePrefix.isEmpty = false)
      (h : name.length = p.tablePrefix.length + name.length) : False := by
    have hempty : p.tablePrefix.length = 0 := by omega
    rw [String.length_eq_zero_iff] at hempty
    rw [hempty] at hp
    cases hp
  intro kind name ctx heq
  cases kind with
  | table =>
    have hanswer : (if p.tablePrefix.isEmpty then none else some (p.table name)) = some name := heq
    split at hanswer
    · cases hanswer
    next hp =>
      have htable := p.length_table name
      rw [Option.some.inj hanswer] at htable
      exact hlength (by simpa using hp) htable
  | column | target =>
    obtain ⟨hp, hname⟩ := TablePrefixer.length_column heq
    exact hlength hp hname

/-- A qualified column is longer by its qualifier. -/
theorem ColumnQualifier.neverEchoes : ColumnQualifier.rules.NeverEchoes := by
  intro kind name ctx heq
  cases kind with
  | table => cases heq
  | target => cases heq
  | column =>
    have hqualify : ColumnQualifier.qualify name ctx = some name := heq
    unfold ColumnQualifier.qualify at hqualify
    split at hqualify
    · cases hqualify
    · obtain ⟨table, -, hname⟩ := Option.map_eq_some_iff.mp hqualify
      have hlength := congrArg String.length hname
      rw [String.length_append, String.length_append, show ".".length = 1 by rfl] at hlength
      omega

/-! ## The comparison -/

section

variable (rules : RenamingRules Context) (q : Query)

/-- A query is made anew where a question gets an answer, and then it is
the plain traversal of the query. -/
theorem Query.revise_eq_some_iff (around : Context) (place : Place) (q' : Query) :
    q.revise rules around = some q'
      ↔ (∃ v ∈ q.visits rules around place, ¬v.IsUnanswered rules)
        ∧ q' = q.renamed rules around := by
  have traces : Revision.Traces rules _ q _ _ := q.traces around place
  have hsome : (∃ v ∈ q.visits rules around place, ¬v.IsUnanswered rules)
      ↔ q.revise rules around ≠ none := by
    rw [ne_eq, traces.eq_none_iff]
    simp
  rw [hsome, ← traces.getD_eq]
  cases q.revise rules around with
  | none => simp
  | some made => simp [eq_comm]

/-- A renaming gives what the plain traversal gives. -/
theorem RenamingRules.rename_eq_renamed : rules.rename q = q.renamed rules rules.root :=
  (Query.traces rules.root .root q).getD_eq

/-- Where no name is answered with itself, the query stays exactly where
the plain traversal does not change it. -/
theorem RenamingRules.rename?_eq_none_iff {rules : RenamingRules Context}
    (hechoes : rules.NeverEchoes) :
    rules.rename? q = none ↔ q.renamed rules rules.root = q := by
  have traces : Revision.Traces rules _ q _ _ := q.traces rules.root .root
  refine ⟨fun hnone => ?_, traces.eq_none_of_fixed hechoes⟩
  rw [← traces.getD_eq, show q.revise rules rules.root = none from hnone]
  rfl

end

/-- **The renaming that shares is the plain traversal.**  Under any rules, a
query stays exactly where every question about a name in it goes without
an answer, and else becomes what the traversal makes of it.  Prefixes and
qualifiers change every name that they answer, so with them a query stays
exactly where the traversal would not change it. -/
theorem sharing_is_traversal :
    (∀ {Context : Type} (rules : RenamingRules Context) (q : Query) (around : Context)
        (place : Place),
      (q.revise rules around = none ↔ ∀ v ∈ q.visits rules around place, v.IsUnanswered rules)
        ∧ ∀ q', q.revise rules around = some q'
          ↔ (∃ v ∈ q.visits rules around place, ¬v.IsUnanswered rules)
            ∧ q' = q.renamed rules around)
    ∧ (∀ (p : TablePrefixer) (q : Query),
        p.rules.rename q = q.renamed p.rules p.rules.root
          ∧ (p.rules.rename? q = none ↔ q.renamed p.rules p.rules.root = q))
    ∧ ∀ q : Query,
        ColumnQualifier.rules.rename q = q.renamed ColumnQualifier.rules none
          ∧ (ColumnQualifier.rules.rename? q = none
            ↔ q.renamed ColumnQualifier.rules none = q) := by
  refine ⟨fun rules q around place => ?_, fun p q => ?_, fun q => ?_⟩
  · exact ⟨(Query.traces around place q).eq_none_iff, q.revise_eq_some_iff rules around place⟩
  · exact ⟨p.rules.rename_eq_renamed q, RenamingRules.rename?_eq_none_iff q p.neverEchoes⟩
  · exact ⟨ColumnQualifier.rules.rename_eq_renamed q,
      RenamingRules.rename?_eq_none_iff q ColumnQualifier.neverEchoes⟩

end SqlTree
