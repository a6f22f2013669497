import Mathlib.Logic.Function.Iterate
import SqlTree.Proofs.Faults.Report
import SqlTree.Proofs.Tree.Sites

/-!
# Where a SELECT fails

Two things can be wrong in a tree that is written as a SELECT: a query has no
table, or a comparison has a rule that is none (`Node.Fault`).  A SELECT
fails exactly where one of its sites is faulty, and it reports the fault of
the first one, after a remark for each sub-query around that site
(`Query.select_fails_at_first_fault`).

The sites are listed without any compiler.  What ties the two together is the
list of faults that `Query.compileSelect_reports` speaks of, each of them
wrapped by the sub-queries on its way up: it is read off the sites, one by
one (`Query.filterMap_sites`).
-/

set_option autoImplicit false
set_option linter.unusedSectionVars false

namespace SqlTree

/-! ## Faulty nodes -/

/-- The rule of a comparison. -/
def Criterion.rule? : Criterion → Option String
  | .value _ rule _ _ => some rule
  | .columns _ rule _ _ => some rule
  | .between .. | .group .. | .exists .. | .member .. | .null .. | .raw .. => none

/-- What is wrong with a node by itself. -/
inductive Node.Fault : Node → QueryError → Prop
  | noTable {q : Query} (h : q.table = none) : Fault (.query q) .noFromTable
  | unknownRule {c : Criterion} {rule : String} (hrule : c.rule? = some rule)
    (h : isRule rule = false) : Fault (.test c) (.unknownRule rule)

/-- The fault of a node, where it has one. -/
def Node.fault? : Node → Option QueryError
  | .query q => if q.table.isNone then some .noFromTable else none
  | .test c => c.rule?.bind fun rule => (ruleFaults rule).head?
  | .order _ | .value _ | .text _ => none

theorem Node.fault?_eq_some_iff {n : Node} {cause : QueryError} :
    n.fault? = some cause ↔ n.Fault cause := by
  constructor
  · intro h
    cases n with
    | query q =>
      cases htable : q.table with
      | none =>
        obtain rfl : .noFromTable = cause := by simpa [fault?, htable] using h
        exact .noTable htable
      | some table => simp [fault?, htable] at h
    | test c =>
      obtain ⟨rule, hrule, hfault⟩ := Option.bind_eq_some_iff.mp h
      cases hok : isRule rule with
      | true => simp [ruleFaults, hok] at hfault
      | false =>
        obtain rfl : .unknownRule rule = cause := by simpa [ruleFaults, hok] using hfault
        exact .unknownRule hrule hok
    | order _ => cases h
    | value _ => cases h
    | text _ => cases h
  · rintro (htable | ⟨hrule, h⟩)
    · simp [fault?, htable]
    · simp [fault?, hrule, ruleFaults, h]

theorem Node.fault?_eq_none_iff {n : Node} : n.fault? = none ↔ ∀ cause, ¬n.Fault cause := by
  simp only [Option.eq_none_iff_forall_ne_some, ne_eq, fault?_eq_some_iff]

/-- The fault of a site, as the query at the top reports it. -/
def Site.fault? (s : Site) : Option QueryError :=
  s.node.fault?.map QueryError.inSubquery^[s.depth]

/-! ## Faults are read off the sites -/

theorem Dialect.map_listed {α β : Type} (d : Dialect) (f : α → β) (othersFirst : Bool)
    (values : List α) :
    (d.listed othersFirst values).map f = d.listed othersFirst (values.map f) := by
  cases d with
  | common => rfl
  | sqlite => rfl
  | mysql => cases othersFirst <;> simp [listed]

theorem Dialect.map_inWindow {α β : Type} (d : Dialect) (f : α → β) (offset limit : List α) :
    (d.inWindow offset limit).map f = d.inWindow (offset.map f) (limit.map f) := by
  cases d <;> simp [inWindow]

theorem Dialect.filterMap_inWindow {α β : Type} (d : Dialect) (f : α → Option β)
    (offset limit : List α) :
    (d.inWindow offset limit).filterMap f
      = d.inWindow (offset.filterMap f) (limit.filterMap f) := by
  cases d <;> simp [inWindow]

/-- A test is faulty by its rule. -/
theorem Criterion.filterMap_site (depth : Nat) (c : Criterion) :
    [Site.mk depth (.test c)].filterMap Site.fault?
      = (c.rule?.elim [] ruleFaults).map QueryError.inSubquery^[depth] := by
  cases hrule : c.rule? with
  | none => simp [Site.fault?, Node.fault?, hrule]
  | some rule => cases h : isRule rule <;> simp [Site.fault?, Node.fault?, hrule, ruleFaults, h]

/-- A query is faulty where it has no table. -/
theorem Query.filterMap_site (depth : Nat) (q : Query) :
    [Site.mk depth (.query q)].filterMap Site.fault?
      = (if q.table.isNone then [.noFromTable] else []).map QueryError.inSubquery^[depth] := by
  cases h : q.table <;> simp [Site.fault?, Node.fault?, h]

variable (d : Dialect)

mutual

theorem Column.filterMap_sites (depth : Nat) : ∀ c : Column,
    (c.sites d depth).filterMap Site.fault? = (c.faults d).map QueryError.inSubquery^[depth]
  | .name _ => rfl
  | .query q => by
    rw [Column.faults, List.map_map]
    exact q.filterMap_sites (depth + 1)
  | .expr _ => rfl

theorem Operand.filterMap_sites (depth : Nat) : ∀ o : Operand,
    (o.sites d depth).filterMap Site.fault? = (o.faults d).map QueryError.inSubquery^[depth]
  | .value _ => rfl
  | .query q => by
    rw [Operand.faults, List.map_map]
    exact q.filterMap_sites (depth + 1)
  | .expr _ => rfl

theorem Operand.filterMap_sitesAll (depth : Nat) : ∀ os : List Operand,
    (Operand.sitesAll d depth os).map (List.filterMap Site.fault?)
      = (Operand.faultsAll d os).map (List.map QueryError.inSubquery^[depth])
  | [] => rfl
  | o :: os => by
    simp only [Operand.sitesAll, Operand.faultsAll, List.map_cons, o.filterMap_sites depth,
      Operand.filterMap_sitesAll depth os]

theorem Operand.filterMap_sitesSlot (depth : Nat) : ∀ o : Option Operand,
    (Operand.sitesSlot d depth o).filterMap Site.fault?
      = (Operand.faultsSlot d o).map QueryError.inSubquery^[depth]
  | none => rfl
  | some o => o.filterMap_sites depth

theorem Table.filterMap_sites (depth : Nat) : ∀ t : Table,
    (t.sites d depth).filterMap Site.fault? = (t.faults d).map QueryError.inSubquery^[depth]
  | .name _ => rfl
  | .query q => by
    rw [Table.faults, List.map_map]
    exact q.filterMap_sites (depth + 1)
  | .raw _ => rfl

theorem Subquery.filterMap_sites (depth : Nat) : ∀ s : Subquery,
    (s.sites d depth).filterMap Site.fault? = (s.faults d).map QueryError.inSubquery^[depth]
  | .query q => by
    rw [Subquery.faults, List.map_map]
    exact q.filterMap_sites (depth + 1)
  | .raw _ => rfl

theorem Members.filterMap_sites (depth : Nat) : ∀ vs : Members,
    (vs.sites d depth).filterMap Site.fault? = (vs.faults d).map QueryError.inSubquery^[depth]
  | .list vs => by
    rw [Members.sites, Members.faults, List.filterMap_flatten, List.map_flatten,
      Operand.filterMap_sitesAll depth vs]
  | .select s => s.filterMap_sites depth

theorem Aggregate.filterMap_sites (depth : Nat) : ∀ a : Aggregate,
    (a.sites d depth).filterMap Site.fault? = (a.faults d).map QueryError.inSubquery^[depth]
  | ⟨_, c⟩ => c.filterMap_sites depth

theorem Selectable.filterMap_sites (depth : Nat) : ∀ s : Selectable,
    (s.sites d depth).filterMap Site.fault? = (s.faults d).map QueryError.inSubquery^[depth]
  | .column c => c.filterMap_sites depth
  | .aggregate a => a.filterMap_sites depth

theorem SelectItem.filterMap_sites (depth : Nat) : ∀ item : SelectItem,
    (item.sites d depth).filterMap Site.fault?
      = (item.faults d).map QueryError.inSubquery^[depth]
  | ⟨_, s⟩ => s.filterMap_sites depth

theorem SelectItem.filterMap_sitesAll (depth : Nat) : ∀ items : List SelectItem,
    (SelectItem.sitesAll d depth items).map (List.filterMap Site.fault?)
      = (SelectItem.faultsAll d items).map (List.map QueryError.inSubquery^[depth])
  | [] => rfl
  | item :: items => by
    simp only [SelectItem.sitesAll, SelectItem.faultsAll, List.map_cons,
      item.filterMap_sites depth, SelectItem.filterMap_sitesAll depth items]

theorem Criterion.filterMap_sites (depth : Nat) (c : Criterion) :
    (c.sites d depth).filterMap Site.fault?
      = (c.faults d).map QueryError.inSubquery^[depth] := by
  rw [Criterion.sites.eq_def, ← List.singleton_append, List.filterMap_append,
    Criterion.filterMap_site]
  cases c with
  | value c rule v append =>
    simp only [Criterion.faults, Criterion.rule?, Option.elim_some, List.filterMap_append,
      List.map_append, c.filterMap_sites depth, v.filterMap_sites depth]
  | columns l rule r append =>
    simp only [Criterion.faults, Criterion.rule?, Option.elim_some, List.filterMap_append,
      List.map_append, l.filterMap_sites depth, r.filterMap_sites depth]
  | between c low high negated append =>
    simp only [Criterion.faults, Criterion.rule?, Option.elim_none, List.filterMap_append,
      List.map_append, List.map_nil, List.nil_append, c.filterMap_sites depth,
      low.filterMap_sites depth, high.filterMap_sites depth]
  | group cs negated append => exact Criterion.filterMap_sitesAll depth cs
  | «exists» s negated append => exact s.filterMap_sites depth
  | member c vs negated append =>
    simp only [Criterion.faults, Criterion.rule?, Option.elim_none, List.map_nil,
      List.nil_append]
    split
    · rfl
    · simp only [List.filterMap_append, List.map_append, c.filterMap_sites depth,
        vs.filterMap_sites depth]
  | null c isNull append => exact c.filterMap_sites depth
  | raw s append => rfl

theorem Criterion.filterMap_sitesAll (depth : Nat) : ∀ cs : List Criterion,
    (Criterion.sitesAll d depth cs).filterMap Site.fault?
      = (Criterion.faultsAll d cs).map QueryError.inSubquery^[depth]
  | [] => rfl
  | c :: cs => by
    simp only [Criterion.sitesAll, Criterion.faultsAll, List.filterMap_append, List.map_append,
      c.filterMap_sites depth, Criterion.filterMap_sitesAll depth cs]

theorem Order.filterMap_sites (depth : Nat) : ∀ o : Order,
    (o.sites d depth).filterMap Site.fault? = (o.faults d).map QueryError.inSubquery^[depth]
  | .column c _ => c.filterMap_sites depth
  | .nulls c _ => c.filterMap_sites depth
  | .explicit c vs othersFirst => by
    show (if vs.isEmpty then [] else _).filterMap Site.fault? = _
    rw [Order.faults]
    split
    · rfl
    · simp only [List.filterMap_append, List.map_append, c.filterMap_sites depth,
        List.filterMap_flatten, List.map_flatten, Dialect.map_listed,
        Operand.filterMap_sitesAll depth vs]
  | .random => rfl

theorem Order.filterMap_sitesAll (depth : Nat) : ∀ os : List Order,
    (Order.sitesAll d depth os).map (List.filterMap Site.fault?)
      = (Order.faultsAll d os).map (List.map QueryError.inSubquery^[depth])
  | [] => rfl
  | o :: os => by
    simp only [Order.sitesAll, Order.faultsAll, List.map_cons, o.filterMap_sites depth,
      Order.filterMap_sitesAll depth os]

theorem Join.filterMap_sites (depth : Nat) : ∀ j : Join,
    (j.sites d depth).filterMap Site.fault? = (j.faults d).map QueryError.inSubquery^[depth]
  | ⟨_, t, _, cs⟩ => by
    simp only [Join.sites, Join.faults, List.filterMap_append, List.map_append,
      t.filterMap_sites depth, Criterion.filterMap_sitesAll depth cs]

theorem Join.filterMap_sitesAll (depth : Nat) : ∀ js : List Join,
    (Join.sitesAll d depth js).map (List.filterMap Site.fault?)
      = (Join.faultsAll d js).map (List.map QueryError.inSubquery^[depth])
  | [] => rfl
  | j :: js => by
    simp only [Join.sitesAll, Join.faultsAll, List.map_cons, j.filterMap_sites depth,
      Join.filterMap_sitesAll depth js]

/-- The table of a query, which must be there. -/
theorem Table.filterMap_sitesSlot (depth : Nat) : ∀ t : Option Table,
    (if t.isNone then [.noFromTable] else []).map QueryError.inSubquery^[depth]
        ++ (Table.sitesSlot d depth t).filterMap Site.fault?
      = (Table.faultsTarget d .noFromTable t).map QueryError.inSubquery^[depth]
  | none => rfl
  | some t => t.filterMap_sites depth

/-- The faults of a SELECT, as the query at the top reports them, are those
of its sites. -/
theorem Query.filterMap_sites (depth : Nat) : ∀ q : Query,
    (q.sites d depth).filterMap Site.fault? = (q.faults d).map QueryError.inSubquery^[depth]
  | ⟨table, aliasName, select, insert, update, delete, joins, criteria, order, offset,
      limit⟩ => by
    have htable := Table.filterMap_sitesSlot depth table
    rw [Query.sites, Query.faults, ← List.singleton_append]
    simp only [List.filterMap_append, List.map_append, List.filterMap_flatten, List.map_flatten,
      Query.filterMap_site, htable, Dialect.filterMap_inWindow, Dialect.map_inWindow,
      SelectItem.filterMap_sitesAll depth select,
      Join.filterMap_sitesAll depth joins, Criterion.filterMap_sitesAll depth criteria,
      Order.filterMap_sitesAll depth order, Operand.filterMap_sitesSlot depth offset,
      Operand.filterMap_sitesSlot depth limit]

end

/-! ## The fault that is reported -/

/-- Each sub-query around a fault puts a remark before its message. -/
theorem QueryError.message_within (depth : Nat) (cause : QueryError) :
    (QueryError.inSubquery^[depth] cause).message
      = String.join (List.replicate depth "Error in a subquery: ") ++ cause.message := by
  induction depth with
  | zero =>
    rw [Function.iterate_zero, id, List.replicate_zero, String.join_nil, String.empty_append]
  | succ depth ih =>
    have hwrap : (QueryError.inSubquery^[depth + 1] cause).message
        = "Error in a subquery: " ++ (QueryError.inSubquery^[depth] cause).message := by
      rw [Function.iterate_succ_apply']
      rfl
    rw [hwrap, ih, List.replicate_succ, String.join_cons, String.append_assoc]

theorem Site.fault?_eq_some_iff {s : Site} {e : QueryError} :
    s.fault? = some e
      ↔ ∃ cause, s.node.Fault cause ∧ QueryError.inSubquery^[s.depth] cause = e := by
  simp only [fault?, Option.map_eq_some_iff, Node.fault?_eq_some_iff]

theorem Site.fault?_eq_none_iff {s : Site} : s.fault? = none ↔ ∀ cause, ¬s.node.Fault cause := by
  rw [fault?, Option.map_eq_none_iff, Node.fault?_eq_none_iff]

/-- The error of a SELECT is that of its first faulty site. -/
theorem Query.error?_select (q : Query) :
    error? (q.compileSelect d).statement = (q.sites d 0).findSome? Site.fault? := by
  have hfaults := q.filterMap_sites d 0
  rw [Function.iterate_zero, List.map_id] at hfaults
  rw [(q.compileSelect_reports d).statement, ← hfaults, List.head?_filterMap]

/-- **A SELECT fails where a site is faulty, and it names the first one.**  It
fails exactly where some query that it comes across has no table, or some
comparison has a rule that is none.  The error is one of the query.  Its
message is that of the first fault, after a remark for each sub-query around
it. -/
theorem Query.select_fails_at_first_fault (q : Query) :
    ((∃ e, (q.compileSelect d).statement = .error e)
        ↔ ∃ site ∈ q.sites d 0, ∃ cause, site.node.Fault cause)
      ∧ ∀ e, (q.compileSelect d).statement = .error e →
        ∃ before site after cause, q.sites d 0 = before ++ site :: after
          ∧ (∀ earlier ∈ before, ∀ cause, ¬earlier.node.Fault cause)
          ∧ site.node.Fault cause
          ∧ e.toError = ⟨.invalidQuery,
            String.join (List.replicate site.depth "Error in a subquery: ") ++ cause.message⟩ := by
  have herror := q.error?_select d
  have hfails : (∃ e, (q.compileSelect d).statement = .error e)
      ↔ error? (q.compileSelect d).statement ≠ none := by
    cases (q.compileSelect d).statement <;> simp [error?]
  constructor
  · rw [hfails, herror, ne_eq, List.findSome?_eq_none_iff]
    simp only [Site.fault?_eq_none_iff, not_forall, not_not, exists_prop]
  · intro e he
    rw [he] at herror
    obtain ⟨before, site, after, hsites, hsite, hbefore⟩ :=
      List.findSome?_eq_some_iff.mp herror.symm
    obtain ⟨cause, hcause, rfl⟩ := Site.fault?_eq_some_iff.mp hsite
    refine ⟨before, site, after, cause, hsites, ?_, hcause, ?_⟩
    · exact fun earlier hearlier => Site.fault?_eq_none_iff.mp (hbefore earlier hearlier)
    · rw [QueryError.toError, QueryError.message_within]

/-- An order of two faulty sub-queries, which MySQL comes across from the
last one on. -/
def Query.turnedOrder : Query :=
  { Query.empty with
    table := some (.name "t")
    order := [.explicit (.name "a") [.query .empty, .query { Query.empty with
      table := some (.name "u"),
      criteria := [.exists (.query { Query.empty with
        table := some (.name "v"),
        criteria := [.columns (.name "b") "?" (.query .empty) .and] }) true .and] }] false] }

theorem Query.turnedOrder_fails :
    (Query.turnedOrder.compileSelect .mysql).statement
        = .error (.inSubquery (.inSubquery (.unknownRule "?")))
      ∧ ∃ before site after cause, Query.turnedOrder.sites .mysql 0 = before ++ site :: after
        ∧ (∀ earlier ∈ before, ∀ cause, ¬earlier.node.Fault cause)
        ∧ site.node.Fault cause
        ∧ QueryError.toError (.inSubquery (.inSubquery (.unknownRule "?"))) = ⟨.invalidQuery,
          String.join (List.replicate site.depth "Error in a subquery: ") ++ cause.message⟩ := by
  have herror : (Query.turnedOrder.compileSelect .mysql).statement
      = .error (.inSubquery (.inSubquery (.unknownRule "?"))) := by rfl
  exact ⟨herror, (Query.turnedOrder.select_fails_at_first_fault .mysql).2 _ herror⟩

/-- The common dialect comes across the first one. -/
example : (Query.turnedOrder.compileSelect .common).statement
    = .error (.inSubquery .noFromTable) := by
  rfl

end SqlTree
