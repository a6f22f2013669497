import SqlTree.Compile.Select

/-!
# What compilers are made of

Every compiler of a part of a query is put together from few steps: it
returns, it refuses, it writes a placeholder or the text of a statement, it
puts a sub-query in place, and it goes on from one of these to the next.
`Compiler.Composed` says so, and a law that each of the steps obeys is a law
of every compiler, by induction on it.

There is one case for each part of a tree (`Query.compileSelect_composed`).
-/

set_option autoImplicit false
set_option linter.unusedSectionVars false

namespace SqlTree

namespace Compiler

/-- The compiler is put together from placeholders, texts, sub-queries and
refusals. -/
inductive Composed : {α : Type} → Compiler α → Prop
  | pure {α : Type} (a : α) : Composed (Pure.pure a : Compiler α)
  | throw {α : Type} (e : QueryError) : Composed (MonadExcept.throw e : Compiler α)
  | bind {α β : Type} {c : Compiler α} {k : α → Compiler β} (hc : Composed c)
    (hk : ∀ a, Composed (k a)) : Composed (c >>= k)
  | placeholder (v : Value) : Composed (bindValue v)
  | inline (s : Statement) : Composed (inline s)
  | nested {c : Compiler String} (hc : Composed c) : Composed (nested c)

namespace Composed

variable {α β : Type}

/-- What is returned in the end is no further step. -/
theorem returning {c : Compiler α} (hc : Composed c) (f : α → β) :
    Composed (c >>= fun a => Pure.pure (f a)) :=
  hc.bind fun a => .pure (f a)

theorem parenthesized (s : Statement) : Composed (parenthesized s) :=
  (inline s).returning _

theorem subquery {c : Compiler String} (hc : Composed c) : Composed (subquery c) :=
  hc.nested.bind parenthesized

theorem rule (rule : String) : Composed (requireRule rule) := by
  unfold requireRule
  split
  · exact .pure ()
  · exact .throw _

theorem inSequence : ∀ {cs : List (Compiler String)}, (∀ c ∈ cs, Composed c) →
    Composed (inSequence cs)
  | [], _ => .pure []
  | _ :: _, h => by
    obtain ⟨hc, hcs⟩ := List.forall_mem_cons.mp h
    exact hc.bind fun text => (inSequence hcs).returning (text :: ·)

theorem commaList {cs : List (Compiler String)} (h : ∀ c ∈ cs, Composed c) :
    Composed (commaList cs) :=
  (inSequence h).returning _

theorem target (d : Dialect) (keyword : String) (missing : QueryError)
    {table : Option (Compiler String)} (h : ∀ c ∈ table, Composed c)
    (aliasName : Option String) :
    Composed (targetClause d keyword missing table aliasName) := by
  cases table with
  | none => exact .throw missing
  | some table => exact (h table rfl).returning _

/-! ### Orders of listed values and windows -/

theorem caseBranches {vs : List (Compiler String)} (h : ∀ c ∈ vs, Composed c) (rank : Nat) :
    Composed (caseBranches rank vs) := by
  induction vs generalizing rank with
  | nil => exact .pure ""
  | cons v vs ih =>
    obtain ⟨hv, hvs⟩ := List.forall_mem_cons.mp h
    refine hv.bind ?_
    intro value
    exact (placeholder _).bind fun _ => (ih hvs (rank + 1)).returning _

theorem listedOrder (d : Dialect) {column : Compiler String} (hcolumn : Composed column)
    {values : List (Compiler String)} (hvalues : ∀ c ∈ values, Composed c)
    (othersFirst : Bool) : Composed (d.listedOrder column values othersFirst) := by
  have ranked : Composed (caseOrder column values othersFirst) := by
    refine hcolumn.bind fun _ => (caseBranches hvalues 0).bind ?_
    intro branches
    exact (placeholder _).returning _
  have positioned : Composed (fieldOrder column values othersFirst) := by
    have hlist : ∀ c ∈ if othersFirst then values else values.reverse, Composed c := by
      cases othersFirst with
      | false => exact fun c hc => hvalues c (List.mem_reverse.mp hc)
      | true => exact hvalues
    exact hcolumn.bind fun _ => (commaList hlist).returning _
  cases d with
  | mysql => exact positioned
  | common => exact ranked
  | sqlite => exact ranked

theorem boundPart (keyword : String) {bound : Option (Compiler String)}
    (h : ∀ c ∈ bound, Composed c) : Composed (boundPart keyword bound) := by
  cases bound with
  | none => exact .pure []
  | some bound => exact (h bound rfl).returning _

/-- Two bounds, one after the other. -/
theorem bothBounds {first second : Compiler (List String)} (hfirst : Composed first)
    (hsecond : Composed second) :
    Composed (do let l ← first; let o ← second; return l ++ o) :=
  hfirst.bind fun _ => hsecond.returning _

theorem window (d : Dialect) {offset limit : Option (Compiler String)}
    (hoffset : ∀ c ∈ offset, Composed c) (hlimit : ∀ c ∈ limit, Composed c) :
    Composed (d.window offset limit) := by
  have hoffsetPart := boundPart "OFFSET" hoffset
  have hlimitPart := boundPart "LIMIT" hlimit
  have limited (unbounded : String) : Composed (limitFirst unbounded offset limit) := by
    obtain ⟨first, heq, rfl | ⟨rfl, rfl⟩⟩ := exists_limitFirst_eq unbounded offset limit
    · rw [heq]
      exact bothBounds hlimitPart hoffsetPart
    · rw [heq]
      exact bothBounds (.pure ["LIMIT " ++ unbounded]) hoffsetPart
  cases d with
  | common => exact bothBounds hoffsetPart hlimitPart
  | mysql => exact limited _
  | sqlite => exact limited _

theorem clauseParts {criteria : Compiler Clause} (hcriteria : Composed criteria)
    {orders : List (Compiler String)} (horders : ∀ c ∈ orders, Composed c)
    {window : Compiler (List String)} (hwindow : Composed window) :
    Composed (clauseParts criteria orders window) :=
  hcriteria.bind fun _ => (inSequence horders).bind fun _ => hwindow.returning _

end Composed

end Compiler

open Compiler

variable (d : Dialect)

theorem Expression.compile_composed (e : Expression) : Composed e.compile :=
  .parenthesized e.toStatement

mutual

theorem Column.compile_composed : ∀ c : Column, Composed (c.compile d)
  | .name _ => .pure _
  | .query q => .subquery q.compileSelect_composed
  | .expr e => e.compile_composed

theorem Operand.compile_composed : ∀ o : Operand, Composed (o.compile d)
  | .value v => .placeholder v
  | .query q => .subquery q.compileSelect_composed
  | .expr e => e.compile_composed

theorem Operand.compileAll_composed : ∀ os : List Operand,
    ∀ c ∈ Operand.compileAll d os, Composed c
  | [] => List.forall_mem_nil _
  | o :: os => List.forall_mem_cons.mpr ⟨o.compile_composed, Operand.compileAll_composed os⟩

theorem Operand.compileOption_composed : ∀ o : Option Operand,
    ∀ c ∈ Operand.compileOption d o, Composed c
  | none => nofun
  | some o => fun _ hc => Option.mem_some_iff.mp hc ▸ o.compile_composed

theorem Table.compile_composed : ∀ t : Table, Composed (t.compile d)
  | .name _ => .pure _
  | .query q => .subquery q.compileSelect_composed
  | .raw s => .parenthesized s

theorem Table.compileOption_composed : ∀ t : Option Table,
    ∀ c ∈ Table.compileOption d t, Composed c
  | none => nofun
  | some t => fun _ hc => Option.mem_some_iff.mp hc ▸ t.compile_composed

theorem Subquery.compile_composed : ∀ s : Subquery, Composed (s.compile d)
  | .query q => .subquery q.compileSelect_composed
  | .raw s => .parenthesized s

theorem Members.compile_composed : ∀ vs : Members, Composed (vs.compile d)
  | .list vs => (Composed.commaList (Operand.compileAll_composed vs)).returning _
  | .select s => s.compile_composed

theorem Aggregate.compile_composed : ∀ a : Aggregate, Composed (a.compile d)
  | ⟨_, c⟩ => c.compile_composed.returning _

theorem Selectable.compile_composed : ∀ s : Selectable, Composed (s.compile d)
  | .column c => c.compile_composed
  | .aggregate a => a.compile_composed

theorem SelectItem.compile_composed : ∀ item : SelectItem, Composed (item.compile d)
  | ⟨_, s⟩ => s.compile_composed.returning _

theorem SelectItem.compileAll_composed : ∀ items : List SelectItem,
    ∀ c ∈ SelectItem.compileAll d items, Composed c
  | [] => List.forall_mem_nil _
  | item :: items =>
    List.forall_mem_cons.mpr ⟨item.compile_composed, SelectItem.compileAll_composed items⟩

theorem Criterion.compile_composed : ∀ c : Criterion, Composed (c.compile d)
  | .value c rule v append => by
    unfold Criterion.compile
    refine (Composed.rule rule).bind fun _ => c.compile_composed.bind fun column => ?_
    refine v.compile_composed.bind fun value => ?_
    dsimp only
    split
    · exact (Composed.placeholder escapeChar).returning _
    · exact .pure _
  | .columns l rule r append =>
    (Composed.rule rule).bind fun _ => l.compile_composed.bind fun _ =>
      r.compile_composed.returning _
  | .between c low high negated append =>
    c.compile_composed.bind fun _ => low.compile_composed.bind fun _ =>
      high.compile_composed.returning _
  | .group cs negated append => (Criterion.compileAll_composed cs .empty).returning _
  | .exists s negated append => s.compile_composed.returning _
  | .member c vs negated append => by
    unfold Criterion.compile
    split
    · exact .placeholder _
    · exact c.compile_composed.bind fun _ => vs.compile_composed.returning _
  | .null c isNull append => c.compile_composed.returning _
  | .raw s append => .inline s

theorem Criterion.compileAll_composed : ∀ (cs : List Criterion) (clause : Clause),
    Composed (Criterion.compileAll d clause cs)
  | [], clause => .pure clause
  | c :: cs, clause =>
    c.compile_composed.bind fun test =>
      Criterion.compileAll_composed cs (clause.append c.appendRule test)

theorem Order.compile_composed : ∀ o : Order, Composed (o.compile d)
  | .column c _ => c.compile_composed.returning _
  | .nulls c _ => c.compile_composed.returning _
  | .explicit c vs othersFirst => by
    unfold Order.compile
    split
    · exact .pure ""
    · exact .listedOrder d c.compile_composed (Operand.compileAll_composed vs) othersFirst
  | .random => .pure _

theorem Order.compileAll_composed : ∀ os : List Order,
    ∀ c ∈ Order.compileAll d os, Composed c
  | [] => List.forall_mem_nil _
  | o :: os => List.forall_mem_cons.mpr ⟨o.compile_composed, Order.compileAll_composed os⟩

theorem Join.compile_composed : ∀ j : Join, Composed (j.compile d)
  | ⟨_, t, _, cs⟩ =>
    t.compile_composed.bind fun _ => (Criterion.compileAll_composed cs .empty).returning _

theorem Join.compileAll_composed : ∀ js : List Join,
    ∀ c ∈ Join.compileAll d js, Composed c
  | [] => List.forall_mem_nil _
  | j :: js => List.forall_mem_cons.mpr ⟨j.compile_composed, Join.compileAll_composed js⟩

/-- A SELECT is put together from steps, at any depth. -/
theorem Query.compileSelect_composed : ∀ q : Query, Composed (q.compileSelect d)
  | ⟨table, aliasName, items, _, _, _, joins, criteria, order, offset, limit⟩ =>
    (Composed.commaList (SelectItem.compileAll_composed items)).bind fun _ =>
      (Composed.target d "FROM" .noFromTable (Table.compileOption_composed table) aliasName).bind
        fun _ => (Composed.inSequence (Join.compileAll_composed joins)).bind fun _ =>
          (Composed.clauseParts (Criterion.compileAll_composed criteria .empty)
            (Order.compileAll_composed order) (.window d (Operand.compileOption_composed offset)
              (Operand.compileOption_composed limit))).returning _

end

end SqlTree
