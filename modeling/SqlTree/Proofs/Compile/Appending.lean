import SqlTree.Proofs.Bindings.Merging
import SqlTree.Proofs.Compile.Composed

/-!
# What has been collected makes no difference

A compiler starts from the values collected so far.  Neither its text nor its
error depends on them, and what it collects itself is merged into them: it is
the same as to run the compiler from no values and then to merge
(`Compiler.Appends`).

Each step of a compiler does so, and two in a row do so because merging is
associative.  That needs the values of the first to have distinct names,
which they have because they were collected from none: a statement may bring
a name twice, and the values before it may hold a name twice, but no run from
nothing ends with one.
-/

set_option autoImplicit false

namespace SqlTree

open Bindings

namespace Compiler

variable {α β : Type}

/-- A run from some values is a run from none, merged into them. -/
def Appends (c : Compiler α) : Prop :=
  ∀ b, c.run b = (c.run .empty).map fun r => (r.1, b.merge r.2)

namespace Appends

variable {c : Compiler α}

/-- No name is collected twice from nothing. -/
theorem namesDistinct (hc : Appends c) {a : α} {e : Bindings} (h : c.run .empty = .ok (a, e)) :
    e.NamesDistinct := by
  have hsame := hc .empty
  rw [h] at hsame
  have hmerge : e = Bindings.empty.merge e := (Prod.mk.inj (Except.ok.inj hsame)).2
  rw [hmerge]
  exact namesDistinct_merge namesDistinct_empty e

/-- What a run collects, it collects from nothing. -/
theorem exists_of_run_eq_ok (hc : Appends c) {b b' : Bindings} {a : α}
    (h : c.run b = .ok (a, b')) : ∃ e, c.run .empty = .ok (a, e) ∧ b' = b.merge e := by
  rw [hc b] at h
  cases hrun : c.run .empty with
  | error e => rw [hrun] at h; cases h
  | ok r =>
    rw [hrun] at h
    cases h
    exact ⟨r.2, rfl, rfl⟩

theorem pure (a : α) : Appends (Pure.pure a : Compiler α) :=
  fun _ => rfl

theorem throw (e : QueryError) : Appends (MonadExcept.throw e : Compiler α) :=
  fun _ => rfl

/-- To merge what two compilers collect one after the other is to merge what
they collect together. -/
theorem bind {k : α → Compiler β} (hc : Appends c) (hk : ∀ a, Appends (k a)) :
    Appends (c >>= k) := by
  intro b
  rw [StateT.run_bind, StateT.run_bind, hc b]
  cases hrun : c.run .empty with
  | error e => rfl
  | ok r =>
    obtain ⟨a, e⟩ := r
    show (k a).run (b.merge e) = ((k a).run e).map fun r => (r.1, b.merge r.2)
    rw [hk a (b.merge e), hk a e]
    cases (k a).run .empty with
    | error e => rfl
    | ok r =>
      obtain ⟨a', e'⟩ := r
      show Except.ok (a', (b.merge e).merge e') = .ok (a', b.merge (e.merge e'))
      rw [merge_assoc b (hc.namesDistinct hrun) e']

theorem placeholder (v : Value) : Appends (bindValue v) :=
  fun _ => rfl

/-- A statement may bring a name twice. -/
theorem inline (s : Statement) : Appends (inline s) := by
  intro b
  show Except.ok (s.sql, b.merge s.bindings)
    = .ok (s.sql, b.merge (Bindings.empty.merge s.bindings))
  rw [merge_empty_merge]

/-- A sub-query never sees what has been collected. -/
theorem nested (c : Compiler String) : Appends (nested c) := by
  intro b
  unfold Compiler.nested
  cases c.statement <;> rfl

end Appends

/-- All that is put together from steps merges what it collects. -/
theorem Composed.appends {c : Compiler α} (h : Composed c) : Appends c := by
  induction h with
  | pure a => exact .pure a
  | throw e => exact .throw e
  | bind _ _ hc hk => exact hc.bind hk
  | placeholder v => exact .placeholder v
  | inline s => exact .inline s
  | @nested c _ _ => exact .nested c

/-- A text as a list of one. -/
def single (c : Compiler String) : Compiler (List String) := do
  return [← c]

end Compiler

open Compiler

/-! ## Parts of a statement -/

/-- What can be compiled on its own, as a part of a statement. -/
inductive StatementPart where
  /-- the joined tests of a condition -/
  | condition (criteria : List Criterion)
  | test (criterion : Criterion)
  /-- values with commas between them -/
  | values (values : List Operand)
  | value (value : Operand)
  /-- the items of an order, with commas between them -/
  | order (items : List Order)
  | orderItem (item : Order)
  | column (column : Column)
  | aggregate (aggregate : Aggregate)
  | table (table : Table) (aliasName : Option String)
  /-- the sub-select of EXISTS or IN -/
  | subselect (subquery : Subquery)
  | subquery (query : Query)
  /-- a statement's text in parentheses -/
  | parenthesized (statement : Statement)
  /-- a statement's text as it is -/
  | inline (statement : Statement)
  | expression (expression : Expression)
  /-- the order of listed values -/
  | listed (column : Column) (values : List Operand) (othersFirst : Bool)
  /-- OFFSET and LIMIT -/
  | window (query : Query)

namespace StatementPart

/-- The texts of a part.  Only a window has none or two. -/
def compile (d : Dialect) : StatementPart → Compiler (List String)
  | .condition cs => single (Criterion.compileCondition d cs)
  | .test c => single (c.compile d)
  | .values vs => single (commaList (Operand.compileAll d vs))
  | .value v => single (v.compile d)
  | .order os => single (Order.compileList d os)
  | .orderItem o => single (o.compile d)
  | .column c => single (c.compile d)
  | .aggregate a => single (a.compile d)
  | .table t aliasName => single (t.compileAliased d aliasName)
  | .subselect s => single (s.compile d)
  | .subquery q => single (Compiler.subquery (q.compileSelect d))
  | .parenthesized s => single (Compiler.parenthesized s)
  | .inline s => single (Compiler.inline s)
  | .expression e => single e.compile
  | .listed c vs othersFirst =>
    single (d.listedOrder (c.compile d) (Operand.compileAll d vs) othersFirst)
  | .window q => d.window (Operand.compileOption d q.offset) (Operand.compileOption d q.limit)

theorem compile_composed (d : Dialect) (part : StatementPart) : Composed (part.compile d) := by
  cases part with
  | condition cs => exact ((Criterion.compileAll_composed d cs .empty).returning _).returning _
  | test c => exact (c.compile_composed d).returning _
  | values vs => exact (Composed.commaList (Operand.compileAll_composed d vs)).returning _
  | value v => exact (v.compile_composed d).returning _
  | order os =>
    exact ((Composed.inSequence (Order.compileAll_composed d os)).returning _).returning _
  | orderItem o => exact (o.compile_composed d).returning _
  | column c => exact (c.compile_composed d).returning _
  | aggregate a => exact (a.compile_composed d).returning _
  | table t aliasName => exact ((t.compile_composed d).returning _).returning _
  | subselect s => exact (s.compile_composed d).returning _
  | subquery q => exact (q.compileSelect_composed d).subquery.returning _
  | parenthesized s => exact (Composed.parenthesized s).returning _
  | inline s => exact (Composed.inline s).returning _
  | expression e => exact e.compile_composed.returning _
  | listed c vs othersFirst =>
    exact (Composed.listedOrder d (c.compile_composed d) (Operand.compileAll_composed d vs)
      othersFirst).returning _
  | window q =>
    exact .window d (Operand.compileOption_composed d q.offset)
      (Operand.compileOption_composed d q.limit)

/-- **What has been collected makes no difference to a part of a statement.**
From any values, also from some that hold a name twice, it fails with the
same error as from none, or it writes the same texts, and what it collects
from none is merged into the values. -/
theorem run_eq_merge (d : Dialect) (part : StatementPart) (b : Bindings) :
    (part.compile d).run b
      = ((part.compile d).run .empty).map fun (texts, collected) => (texts, b.merge collected) :=
  (part.compile_composed d).appends b

/-- A name that is collected twice before, and again by the part: the first
of its values is replaced. -/
example :
    let text : Statement := ⟨"a = :n", ⟨[⟨some "n", .int 3⟩]⟩⟩
    ((StatementPart.inline text).compile .common).run
        ⟨[⟨some "n", .int 1⟩, ⟨some "n", .int 2⟩]⟩
      = .ok (["a = :n"], ⟨[⟨some "n", .int 3⟩, ⟨some "n", .int 2⟩]⟩) := by
  rfl

end StatementPart

end SqlTree
