import SqlTree.Proofs.Compile.Run
import SqlTree.Proofs.Faults.Basic

/-!
# The compiler reports the first fault

`Reports es c` says that a compiler fails with the first of the faults `es`,
and succeeds where there are none, whatever has been collected before.  The
faults of two compilers in a row are those of the first and then those of the
second, whatever the first returns: no text and no value is ever a fault.

So a tree compiles as a SELECT exactly where it has no faults, and else the
first of them is the error (`Query.compileSelect_reports`).
-/

set_option autoImplicit false
set_option linter.unusedSectionVars false

namespace SqlTree

/-- The error of a result, where it is one. -/
def error? {α : Type} : Except QueryError α → Option QueryError
  | .ok _ => none
  | .error e => some e

theorem isOk_iff_error? {α : Type} {x : Except QueryError α} :
    x.isOk = true ↔ error? x = none := by
  cases x <;> simp [error?, Except.isOk, Except.toBool]

section

variable {α : Type} {x : Except QueryError α} {faults : List QueryError}

/-- What succeeds has no faults, where the first fault is the error. -/
theorem faults_eq_nil_of_ok (h : error? x = faults.head?) {a : α} (ok : x = .ok a) :
    faults = [] := by
  rw [ok] at h
  exact List.head?_eq_none_iff.mp h.symm

/-- What fails has its error among its faults. -/
theorem mem_faults_of_error (h : error? x = faults.head?) {e : QueryError} (he : x = .error e) :
    e ∈ faults := by
  rw [he] at h
  exact List.mem_of_head? h.symm

end

namespace Compiler

variable {α β : Type}

/-- The compiler fails with the first of the faults, and succeeds where there
are none. -/
def Reports (es : List QueryError) (c : Compiler α) : Prop :=
  ∀ b, error? (c.run b) = es.head?

namespace Reports

variable {es es' : List QueryError}

theorem pure (a : α) : Reports [] (Pure.pure a : Compiler α) :=
  fun _ => rfl

theorem throw (e : QueryError) : Reports [e] (MonadExcept.throw e : Compiler α) :=
  fun _ => rfl

theorem bind {c : Compiler α} {k : α → Compiler β} (hc : Reports es c)
    (hk : ∀ a, Reports es' (k a)) : Reports (es ++ es') (c >>= k) := by
  intro b
  have hfirst := hc b
  rw [StateT.run_bind, List.head?_append]
  cases hrun : c.run b with
  | ok r =>
    obtain ⟨a, b'⟩ := r
    rw [hrun] at hfirst
    rw [← hfirst]
    exact hk a b'
  | error e =>
    rw [hrun] at hfirst
    rw [← hfirst]
    rfl

/-- What is returned in the end has no faults of its own. -/
theorem returning {c : Compiler α} (hc : Reports es c) (f : α → β) :
    Reports es (c >>= fun a => Pure.pure (f a)) := by
  rw [← List.append_nil es]
  exact hc.bind fun a => .pure (f a)

/-- A check has its fault where it is not passed. -/
theorem check {refused : Bool} {e : QueryError} {k : Unit → Compiler β}
    (hk : Reports es (k ())) :
    Reports ((if refused then [e] else []) ++ es)
      (if refused then MonadExcept.throw e >>= k else k ()) := by
  cases refused with
  | false => exact hk
  | true => exact (throw e).bind fun _ => hk

theorem inline (s : Statement) : Reports [] (inline s) :=
  fun _ => rfl

theorem placeholder (v : Value) : Reports [] (bindValue v) :=
  fun _ => rfl

theorem parenthesized (s : Statement) : Reports [] (parenthesized s) :=
  fun _ => rfl

theorem statement {c : Compiler String} (hc : Reports es c) :
    error? c.statement = es.head? := by
  have hrun := hc .empty
  unfold Compiler.statement
  cases h : c.run .empty with
  | ok r => rw [h] at hrun; exact hrun
  | error e => rw [h] at hrun; exact hrun

/-- The faults of a sub-query, as the query around it reports them. -/
theorem nested {c : Compiler String} (hc : Reports es c) :
    Reports (es.map .inSubquery) (nested c) := by
  intro b
  have hstatement := hc.statement
  rw [List.head?_map, ← hstatement]
  unfold Compiler.nested
  cases c.statement <;> rfl

theorem subquery {c : Compiler String} (hc : Reports es c) :
    Reports (es.map .inSubquery) (subquery c) := by
  rw [← List.append_nil (es.map _)]
  exact hc.nested.bind parenthesized

theorem rule (rule : String) : Reports (ruleFaults rule) (requireRule rule) := by
  unfold ruleFaults requireRule
  split
  · exact .pure ()
  · exact .throw _

theorem inSequence {ess : List (List QueryError)} {cs : List (Compiler String)}
    (h : List.Forall₂ Reports ess cs) : Reports ess.flatten (inSequence cs) := by
  induction h with
  | nil => exact .pure []
  | cons hd _ ih => exact hd.bind fun text => ih.returning (text :: ·)

theorem commaList {ess : List (List QueryError)} {cs : List (Compiler String)}
    (h : List.Forall₂ Reports ess cs) : Reports ess.flatten (commaList cs) :=
  (inSequence h).returning _

/-! ### Orders of listed values -/

theorem caseBranches {ess : List (List QueryError)} {vs : List (Compiler String)}
    (h : List.Forall₂ Reports ess vs) (rank : Nat) :
    Reports ess.flatten (caseBranches rank vs) := by
  induction h generalizing rank with
  | nil => exact .pure ""
  | cons hd _ ih =>
    refine hd.bind ?_
    intro value
    exact (placeholder _).bind fun _ => (ih (rank + 1)).returning _

theorem listedOrder (d : Dialect) {column : Compiler String} (hcolumn : Reports es column)
    {ess : List (List QueryError)} {values : List (Compiler String)}
    (hvalues : List.Forall₂ Reports ess values) (othersFirst : Bool) :
    Reports (es ++ (d.listed othersFirst ess).flatten)
      (d.listedOrder column values othersFirst) := by
  have ranked : Reports (es ++ ess.flatten) (caseOrder column values othersFirst) := by
    refine hcolumn.bind ?_
    intro c
    rw [← List.append_nil ess.flatten]
    exact (caseBranches hvalues 0).bind fun _ => (placeholder _).returning _
  have positioned : Reports (es ++ (if othersFirst then ess else ess.reverse).flatten)
      (fieldOrder column values othersFirst) :=
    hcolumn.bind fun _ => (commaList (forall₂_turned hvalues othersFirst)).returning _
  cases d with
  | mysql => exact positioned
  | common => exact ranked
  | sqlite => exact ranked

/-! ### Windows and clauses -/

/-- Two bounds, one after the other. -/
theorem bothBounds {first second : Compiler (List String)} (hfirst : Reports es first)
    (hsecond : Reports es' second) :
    Reports (es ++ es') (do let l ← first; let o ← second; return l ++ o) :=
  hfirst.bind fun _ => hsecond.returning _

theorem window (d : Dialect) {offset limit : Option (Compiler String)}
    (hoffset : ∀ keyword, Reports es (boundPart keyword offset))
    (hlimit : ∀ keyword, Reports es' (boundPart keyword limit)) :
    Reports (d.inWindow es es') (d.window offset limit) := by
  have limited (unbounded : String) : Reports (es' ++ es) (limitFirst unbounded offset limit) := by
    obtain ⟨first, heq, rfl | ⟨rfl, rfl⟩⟩ := exists_limitFirst_eq unbounded offset limit
    · rw [heq]
      exact bothBounds (hlimit "LIMIT") (hoffset "OFFSET")
    · have hunbounded : Reports es' (Pure.pure ["LIMIT " ++ unbounded]) := hlimit "LIMIT"
      rw [heq]
      exact bothBounds hunbounded (hoffset "OFFSET")
  cases d with
  | common => exact bothBounds (hoffset "OFFSET") (hlimit "LIMIT")
  | mysql => exact limited _
  | sqlite => exact limited _

theorem clauseParts {criteria : Compiler Clause} (hcriteria : Reports es criteria)
    {ess : List (List QueryError)} {orders : List (Compiler String)}
    (horders : List.Forall₂ Reports ess orders) {window : Compiler (List String)}
    (hwindow : Reports es' window) :
    Reports (es ++ (ess.flatten ++ es')) (clauseParts criteria orders window) :=
  hcriteria.bind fun _ => (inSequence horders).bind fun _ => hwindow.returning _

end Reports

end Compiler

open Compiler

variable (d : Dialect)

mutual

theorem Column.compile_reports : ∀ c : Column, Reports (c.faults d) (c.compile d)
  | .name _ => .pure _
  | .query q => .subquery q.compileSelect_reports
  | .expr e => .parenthesized e.toStatement

theorem Operand.compile_reports : ∀ o : Operand, Reports (o.faults d) (o.compile d)
  | .value v => .placeholder v
  | .query q => .subquery q.compileSelect_reports
  | .expr e => .parenthesized e.toStatement

theorem Operand.compileAll_reports : ∀ os : List Operand,
    List.Forall₂ Reports (Operand.faultsAll d os) (Operand.compileAll d os)
  | [] => .nil
  | o :: os => .cons o.compile_reports (Operand.compileAll_reports os)

/-- A bound of a window. -/
theorem Operand.boundPart_reports (keyword : String) : ∀ o : Option Operand,
    Reports (Operand.faultsSlot d o) (boundPart keyword (Operand.compileOption d o))
  | none => .pure []
  | some o => o.compile_reports.returning _

theorem Table.compile_reports : ∀ t : Table, Reports (t.faults d) (t.compile d)
  | .name _ => .pure _
  | .query q => .subquery q.compileSelect_reports
  | .raw s => .parenthesized s

/-- The table of a statement, which must be there. -/
theorem Table.target_reports (keyword : String) (missing : QueryError)
    (aliasName : Option String) : ∀ t : Option Table,
      Reports (Table.faultsTarget d missing t)
        (targetClause d keyword missing (Table.compileOption d t) aliasName)
  | none => .throw missing
  | some t => t.compile_reports.returning _

theorem Subquery.compile_reports : ∀ s : Subquery, Reports (s.faults d) (s.compile d)
  | .query q => .subquery q.compileSelect_reports
  | .raw s => .parenthesized s

theorem Members.compile_reports : ∀ vs : Members, Reports (vs.faults d) (vs.compile d)
  | .list vs => (Reports.commaList (Operand.compileAll_reports vs)).returning _
  | .select s => s.compile_reports

theorem Aggregate.compile_reports : ∀ a : Aggregate, Reports (a.faults d) (a.compile d)
  | ⟨_, c⟩ => c.compile_reports.returning _

theorem Selectable.compile_reports : ∀ s : Selectable, Reports (s.faults d) (s.compile d)
  | .column c => c.compile_reports
  | .aggregate a => a.compile_reports

theorem SelectItem.compile_reports : ∀ item : SelectItem,
    Reports (item.faults d) (item.compile d)
  | ⟨_, s⟩ => s.compile_reports.returning _

theorem SelectItem.compileAll_reports : ∀ items : List SelectItem,
    List.Forall₂ Reports (SelectItem.faultsAll d items) (SelectItem.compileAll d items)
  | [] => .nil
  | item :: items => .cons item.compile_reports (SelectItem.compileAll_reports items)

theorem Criterion.compile_reports : ∀ c : Criterion, Reports (c.faults d) (c.compile d)
  | .value c rule v append => by
    unfold Criterion.compile Criterion.faults
    refine (Reports.rule rule).bind fun _ => c.compile_reports.bind ?_
    intro column
    rw [← List.append_nil (v.faults d)]
    refine v.compile_reports.bind ?_
    intro value
    dsimp only
    split
    · exact (Reports.placeholder escapeChar).returning _
    · exact .pure _
  | .columns l rule r append =>
    (Reports.rule rule).bind fun _ => l.compile_reports.bind fun _ =>
      r.compile_reports.returning _
  | .between c low high negated append =>
    c.compile_reports.bind fun _ => low.compile_reports.bind fun _ =>
      high.compile_reports.returning _
  | .group cs negated append => (Criterion.compileAll_reports cs .empty).returning _
  | .exists s negated append => s.compile_reports.returning _
  | .member c vs negated append => by
    unfold Criterion.compile Criterion.faults
    split
    · exact .placeholder _
    · exact c.compile_reports.bind fun _ => vs.compile_reports.returning _
  | .null c isNull append => c.compile_reports.returning _
  | .raw s append => .inline s

theorem Criterion.compileAll_reports : ∀ (cs : List Criterion) (clause : Clause),
    Reports (Criterion.faultsAll d cs) (Criterion.compileAll d clause cs)
  | [], clause => .pure clause
  | c :: cs, clause =>
    c.compile_reports.bind fun test =>
      Criterion.compileAll_reports cs (clause.append c.appendRule test)

theorem Order.compile_reports : ∀ o : Order, Reports (o.faults d) (o.compile d)
  | .column c _ => c.compile_reports.returning _
  | .nulls c _ => c.compile_reports.returning _
  | .explicit c vs othersFirst => by
    unfold Order.compile Order.faults
    split
    · exact .pure ""
    · exact .listedOrder d c.compile_reports (Operand.compileAll_reports vs) othersFirst
  | .random => .pure _

theorem Order.compileAll_reports : ∀ os : List Order,
    List.Forall₂ Reports (Order.faultsAll d os) (Order.compileAll d os)
  | [] => .nil
  | o :: os => .cons o.compile_reports (Order.compileAll_reports os)

theorem Join.compile_reports : ∀ j : Join, Reports (j.faults d) (j.compile d)
  | ⟨_, t, _, cs⟩ =>
    t.compile_reports.bind fun _ => (Criterion.compileAll_reports cs .empty).returning _

theorem Join.compileAll_reports : ∀ js : List Join,
    List.Forall₂ Reports (Join.faultsAll d js) (Join.compileAll d js)
  | [] => .nil
  | j :: js => .cons j.compile_reports (Join.compileAll_reports js)

/-- A SELECT fails with its first fault, and succeeds where it has none. -/
theorem Query.compileSelect_reports : ∀ q : Query, Reports (q.faults d) (q.compileSelect d)
  | ⟨table, aliasName, items, _, _, _, joins, criteria, order, offset, limit⟩ =>
    (Reports.commaList (SelectItem.compileAll_reports items)).bind fun _ =>
      (Table.target_reports "FROM" .noFromTable aliasName table).bind fun _ =>
        (Reports.inSequence (Join.compileAll_reports joins)).bind fun _ =>
          (Reports.clauseParts (Criterion.compileAll_reports criteria .empty)
            (Order.compileAll_reports order) (Reports.window d
              (Operand.boundPart_reports · offset)
              (Operand.boundPart_reports · limit))).returning _

end

end SqlTree
