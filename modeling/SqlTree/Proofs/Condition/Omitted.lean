import SqlTree.Compile.Write
import SqlTree.Proofs.Compile.Appending
import SqlTree.Proofs.Condition.Blank

/-!
# Conditions that are left out

A SELECT, an UPDATE and a DELETE have a WHERE, and a join has an ON, where
there is a text to put after it.  `Criterion.condition_omitted` says when
there is none: where all tests are blank, that is, where nothing was asked.
Then only the values of their empty texts are bound.

What it means to have no WHERE is said by another query: the text is the one
that the query has without its tests.  Where some test is not blank, the
text is that one with a keyword and the condition put into it, so the two
are never the same (`Criterion.OmitsBlank`).
-/

set_option autoImplicit false

namespace SqlTree

open Compiler Bindings

/-! ## Blank tests -/

mutual

/-- The empty texts of a test, also of those in its groups. -/
def Criterion.emptyTexts : Criterion → List Statement
  | .group cs _ _ => Criterion.emptyTextsAll cs
  | .raw s _ => if s.sql.isEmpty then [s] else []
  | .value .. | .columns .. | .between .. | .exists .. | .member .. | .null .. => []

def Criterion.emptyTextsAll : List Criterion → List Statement
  | [] => []
  | c :: cs => c.emptyTexts ++ Criterion.emptyTextsAll cs

end

namespace Bindings

/-- The values of several texts, merged one after the other. -/
def mergeAll (b : Bindings) (texts : List Statement) : Bindings :=
  texts.foldl (fun b text => b.merge text.bindings) b

theorem mergeAll_append (b : Bindings) (texts texts' : List Statement) :
    b.mergeAll (texts ++ texts') = (b.mergeAll texts).mergeAll texts' :=
  List.foldl_append

theorem positional_mergeAll (b : Bindings) (texts : List Statement) :
    (b.mergeAll texts).positional
      = b.positional ++ texts.flatMap fun text => text.bindings.positional := by
  induction texts generalizing b with
  | nil => simp [mergeAll]
  | cons text texts ih =>
    rw [List.flatMap_cons, ← List.append_assoc, ← positional_merge]
    exact ih (b.merge text.bindings)

end Bindings

mutual

/-- A blank test writes nothing, and it does not fail. -/
theorem Criterion.run_of_isBlank (d : Dialect) : ∀ (c : Criterion), c.isBlank = true →
    ∀ b : Bindings, (c.compile d).run b = .ok ("", b.mergeAll c.emptyTexts)
  | .group cs negated append, hblank, b => by
    have hcs := Criterion.runAll_of_areBlank d cs hblank b
    rw [Criterion.compile, run_bind_of_ok hcs]
    rfl
  | .raw s append, hblank, b => by
    have hempty : s.sql.isEmpty = true := hblank
    rw [Criterion.emptyTexts, if_pos hempty]
    show Except.ok (s.sql, b.merge s.bindings) = .ok ("", b.merge s.bindings)
    rw [String.isEmpty_iff.mp hempty]
  | .value .., hblank, _ | .columns .., hblank, _ | .between .., hblank, _
  | .exists .., hblank, _ | .member .., hblank, _ | .null .., hblank, _ => by cases hblank

theorem Criterion.runAll_of_areBlank (d : Dialect) : ∀ cs : List Criterion,
    Criterion.areBlank cs = true → ∀ b : Bindings,
      (Criterion.compileAll d .empty cs).run b
        = .ok (.empty, b.mergeAll (Criterion.emptyTextsAll cs))
  | [], _, _ => rfl
  | c :: cs, hblank, b => by
    obtain ⟨hc, hcs⟩ := Bool.and_eq_true_iff.mp hblank
    rw [Criterion.compileAll, run_bind_of_ok (Criterion.run_of_isBlank d c hc b),
      Clause.append_of_empty _ _ rfl, Criterion.emptyTextsAll, mergeAll_append]
    exact Criterion.runAll_of_areBlank d cs hcs _

end

/-- Blank tests make an empty condition, and bind what their empty texts
bring. -/
theorem Criterion.runCondition_of_areBlank (d : Dialect) {cs : List Criterion}
    (hblank : Criterion.areBlank cs = true) (b : Bindings) :
    (Criterion.compileCondition d cs).run b
      = .ok ("", b.mergeAll (Criterion.emptyTextsAll cs)) := by
  rw [Criterion.compileCondition,
    run_bind_of_ok (Criterion.runAll_of_areBlank d cs hblank b)]
  rfl

/-- A condition has a text just where not all of its tests are blank. -/
theorem Criterion.compileCondition_isEmpty (d : Dialect) (cs : List Criterion) :
    (Criterion.compileCondition d cs).Returns fun sql => sql.isEmpty = Criterion.areBlank cs :=
  (Criterion.compileAll_isEmpty d cs).bind fun _ h => .pure h

/-! ## Texts with a condition -/

/-- The text `sql` is `bare` where all tests are blank, and else `bare` with a
keyword and the condition put into it. -/
structure Criterion.OmitsBlank (d : Dialect) (keyword : String) (cs : List Criterion)
    (bare sql : String) : Prop where
  omitted : sql = bare ↔ Criterion.areBlank cs = true
  written : Criterion.areBlank cs = false → ∃ before condition after b,
    (Criterion.compileCondition d cs).run .empty = .ok (condition, b)
      ∧ bare = before ++ after ∧ sql = before ++ (keyword ++ condition) ++ after

/-- What has something put into it is not the same. -/
theorem append_ne_of_ne_empty (before after : String) {part : String} (h : part ≠ "") :
    before ++ part ++ after ≠ before ++ after := by
  intro heq
  rw [String.append_assoc, String.append_right_inj] at heq
  have hlength := congrArg String.length heq
  rw [String.length_append] at hlength
  exact h (String.length_eq_zero_iff.mp (by omega))

/-- The condition as it is put in, where it has a text. -/
theorem Criterion.omitsBlank_of_run {d : Dialect} {keyword : String} (hkeyword : keyword ≠ "")
    {cs : List Criterion} {condition : String} {b : Bindings}
    (ok : (Criterion.compileCondition d cs).run .empty = .ok (condition, b))
    (before after : String) :
    Criterion.OmitsBlank d keyword cs (before ++ after)
      (before ++ (if condition.isEmpty then "" else keyword ++ condition) ++ after) := by
  have hempty : condition.isEmpty = Criterion.areBlank cs :=
    Criterion.compileCondition_isEmpty d cs ok
  cases hblank : Criterion.areBlank cs with
  | true =>
    rw [hempty, hblank, if_pos rfl, String.append_empty]
    exact ⟨iff_of_true rfl hblank, fun h => absurd (hblank.symm.trans h) (by decide)⟩
  | false =>
    rw [hempty, hblank, if_neg (by decide)]
    have hpart : keyword ++ condition ≠ "" := by
      simp [String.append_eq_empty_iff, hkeyword]
    refine ⟨iff_of_false (append_ne_of_ne_empty before after hpart) (by simp [hblank]), ?_⟩
    exact fun _ => ⟨before, condition, after, b, ok, rfl, rfl⟩

/-! ## Statements with a condition -/

/-- The statements that may have a condition. -/
inductive Verb where
  | select
  | update
  | delete

/-- A query as a statement that may have a condition. -/
def Verb.compile (d : Dialect) (q : Query) : Verb → Except QueryError Statement
  | .select => statement (q.compileSelect d)
  | .update => q.compileUpdate d
  | .delete => q.compileDelete d

/-- The query without its tests. -/
def Query.withoutCondition (q : Query) : Query :=
  { q with criteria := [] }

/-- The join without its tests. -/
def Join.withoutCondition (j : Join) : Join :=
  { j with criteria := [] }

/-- The lines before the condition. -/
def Verb.head (d : Dialect) (q : Query) : Verb → Compiler (List String)
  | .select => do
    let columns ← commaList (SelectItem.compileAll d q.select)
    let select := "SELECT " ++ if q.select.isEmpty then "*" else columns
    let target ← targetClause d "FROM" .noFromTable (Table.compileOption d q.table) q.tableAlias
    let joins ← inSequence (Join.compileAll d q.joins)
    return select :: target :: joins
  | .update => do
    d.checkTargetAlias q.tableAlias "UPDATE"
    let target ←
      targetClause d "UPDATE" .noUpdatedTable (Table.compileOption d q.table) q.tableAlias
    if q.update.isEmpty then throw .noUpdatedValues
    Row.checkUnique q.update
    let assignments ← commaList (q.update.map (Assignment.compile d))
    return [target, "SET " ++ assignments]
  | .delete => do
    d.checkTargetAlias q.tableAlias "DELETE"
    let target ←
      targetClause d "DELETE FROM" .noTargetTable (Table.compileOption d q.table) q.tableAlias
    return [target]

/-- A statement is its head, its condition and what follows, a line each. -/
theorem Verb.compile_eq (verb : Verb) (d : Dialect) (q : Query) :
    verb.compile d q = statement (do
      let head ← verb.head d q
      let tail ← q.compileClauses d
      return String.intercalate "\n" (head ++ tail)) := by
  cases verb with
  | select =>
    cases q
    simp only [Verb.compile, Verb.head, Query.compileSelect, Query.compileClauses, bind_assoc,
      pure_bind, List.cons_append]
  | update =>
    simp only [Verb.compile, Verb.head, Query.compileUpdate, bind_assoc]
    cases q.update.isEmpty <;> simp
  | delete => simp [Verb.compile, Verb.head, Query.compileDelete]

/-- There is at least one line before the condition. -/
theorem Verb.head_ne_nil (verb : Verb) (d : Dialect) (q : Query) :
    (verb.head d q).Returns fun head => head ≠ [] := by
  cases verb with
  | select =>
    refine .after fun _ => .after fun _ => .after fun _ => .pure ?_
    exact List.cons_ne_nil _ _
  | update =>
    refine .after fun _ => .after fun _ => ?_
    cases q.update.isEmpty with
    | false => exact .after fun _ => .after fun _ => .pure (List.cons_ne_nil _ _)
    | true => exact .after fun _ => .after fun _ => .after fun _ => .pure (List.cons_ne_nil _ _)
  | delete =>
    refine .after fun _ => .after fun _ => .pure ?_
    exact List.cons_ne_nil _ _

/-- What follows the condition. -/
def Query.compileRest (d : Dialect) (q : Query) : Compiler (List String) := do
  let orders ← inSequence (Order.compileAll d q.order)
  let window ← d.window (Operand.compileOption d q.offset) (Operand.compileOption d q.limit)
  return keywordPart "ORDER BY" (String.intercalate ", " (orders.filter fun o => !o.isEmpty))
    ++ window

theorem Query.compileClauses_eq (d : Dialect) (q : Query) : q.compileClauses d = (do
    let condition ← Criterion.compileCondition d q.criteria
    let rest ← q.compileRest d
    return keywordPart "WHERE" condition ++ rest) := by
  simp [compileClauses, compileRest, clauseParts, Criterion.compileCondition]

theorem Query.compileRest_appends (d : Dialect) (q : Query) : (q.compileRest d).Appends := by
  have horders := Composed.inSequence (Order.compileAll_composed d q.order)
  have hwindow := Composed.window d (Operand.compileOption_composed d q.offset)
    (Operand.compileOption_composed d q.limit)
  exact (horders.bind fun _ => hwindow.returning _).appends

theorem Criterion.compileCondition_appends (d : Dialect) (cs : List Criterion) :
    (Criterion.compileCondition d cs).Appends :=
  ((Criterion.compileAll_composed d cs .empty).returning _).appends

/-- Lines that follow others start with a line break each. -/
theorem intercalate_append_lines {head : List String} (h : head ≠ []) (tail : List String) :
    String.intercalate "\n" (head ++ tail)
      = String.intercalate "\n" head ++ String.join (tail.map ("\n" ++ ·)) := by
  induction tail generalizing head with
  | nil => simp
  | cons line tail ih =>
    rw [List.append_cons, ih (List.append_ne_nil_of_left_ne_nil h _),
      String.intercalate_append_of_ne_nil h (List.cons_ne_nil _ _)]
    simp [String.join_cons, String.append_assoc]

/-- A condition between other lines. -/
theorem intercalate_keywordPart {head : List String} (h : head ≠ []) (condition : String)
    (rest : List String) :
    String.intercalate "\n" (head ++ (keywordPart "WHERE" condition ++ rest))
      = String.intercalate "\n" head
        ++ (if condition.isEmpty then "" else "\nWHERE " ++ condition)
        ++ String.join (rest.map ("\n" ++ ·)) := by
  rw [← List.append_assoc, intercalate_append_lines (List.append_ne_nil_of_left_ne_nil h _),
    intercalate_append_lines h]
  unfold keywordPart
  cases condition.isEmpty with
  | true => rfl
  | false => simp [String.join_cons, ← String.append_assoc]

/-- The lines of a statement: each part of it can be compiled on its own. -/
structure Verb.HasLines (verb : Verb) (d : Dialect) (q : Query) (head : List String)
    (condition : String) (rest : List String) (s : Statement) : Prop where
  head_ne_nil : head ≠ []
  head_run : ∃ b, (verb.head d q).run .empty = .ok (head, b)
  condition_run : ∃ b, (Criterion.compileCondition d q.criteria).run .empty = .ok (condition, b)
  rest_run : ∃ b, (q.compileRest d).run .empty = .ok (rest, b)
  sql_eq : s.sql = String.intercalate "\n" (head ++ (keywordPart "WHERE" condition ++ rest))

theorem Verb.exists_lines {verb : Verb} {d : Dialect} {q : Query} {s : Statement}
    (ok : verb.compile d q = .ok s) :
    ∃ head condition rest, verb.HasLines d q head condition rest s := by
  rw [Verb.compile_eq] at ok
  obtain ⟨head, b, hhead, ok⟩ := run_bind_eq_ok (run_of_statement_eq_ok ok)
  obtain ⟨tail, _, htail, ok⟩ := run_bind_eq_ok ok
  obtain ⟨hsql, -⟩ := run_pure_eq_ok ok
  rw [Query.compileClauses_eq] at htail
  obtain ⟨condition, _, hcondition, htail⟩ := run_bind_eq_ok htail
  obtain ⟨rest, _, hrest, htail⟩ := run_bind_eq_ok htail
  obtain ⟨rfl, -⟩ := run_pure_eq_ok htail
  obtain ⟨e, hrest, -⟩ := (q.compileRest_appends d).exists_of_run_eq_ok hrest
  obtain ⟨e', hcondition, -⟩ :=
    (Criterion.compileCondition_appends d q.criteria).exists_of_run_eq_ok hcondition
  exact ⟨head, condition, rest, verb.head_ne_nil d q hhead, ⟨b, hhead⟩, ⟨e', hcondition⟩,
    ⟨e, hrest⟩, hsql.symm⟩

/-- Without its tests a statement has the lines before them and those after
them. -/
theorem Verb.HasLines.exists_bare {verb : Verb} {d : Dialect} {q : Query} {head : List String}
    {condition : String} {rest : List String} {s : Statement}
    (h : verb.HasLines d q head condition rest s) :
    ∃ bare, verb.compile d q.withoutCondition = .ok bare
      ∧ bare.sql = String.intercalate "\n" (head ++ rest) := by
  obtain ⟨b, hhead⟩ := h.head_run
  obtain ⟨e, hrest⟩ := h.rest_run
  -- the tests were not compiled, so the rest is compiled after other values
  have hbareHead : (verb.head d q.withoutCondition).run .empty = .ok (head, b) := by
    cases verb <;> exact hhead
  have hbareRest : (q.withoutCondition.compileRest d).run b = .ok (rest, b.merge e) := by
    show (q.compileRest d).run b = _
    rw [q.compileRest_appends d b, hrest]
    rfl
  have hbareTail : (q.withoutCondition.compileClauses d).run b = .ok (rest, b.merge e) := by
    have hcondition : (Criterion.compileCondition d q.withoutCondition.criteria).run b
        = .ok ("", b) := Criterion.runCondition_of_areBlank d rfl b
    rw [Query.compileClauses_eq, run_bind_of_ok hcondition, run_bind_of_ok hbareRest]
    rfl
  refine ⟨⟨String.intercalate "\n" (head ++ rest), b.merge e⟩, ?_, rfl⟩
  rw [Verb.compile_eq]
  unfold statement
  rw [run_bind_of_ok hbareHead, run_bind_of_ok hbareTail]
  rfl

/-- A statement leaves out its condition where all tests are blank. -/
theorem Verb.omitsBlank {verb : Verb} {d : Dialect} {q : Query} {s : Statement}
    (ok : verb.compile d q = .ok s) :
    ∃ bare, verb.compile d q.withoutCondition = .ok bare
      ∧ Criterion.OmitsBlank d "\nWHERE " q.criteria bare.sql s.sql := by
  obtain ⟨head, condition, rest, hlines⟩ := Verb.exists_lines ok
  obtain ⟨bare, hbare, hbareSql⟩ := hlines.exists_bare
  obtain ⟨e, hcondition⟩ := hlines.condition_run
  refine ⟨bare, hbare, ?_⟩
  rw [hbareSql, hlines.sql_eq, intercalate_keywordPart hlines.head_ne_nil,
    intercalate_append_lines hlines.head_ne_nil]
  exact Criterion.omitsBlank_of_run (by decide) hcondition _ _

/-! ## Joins with a condition -/

/-- A join is its table, and its condition where there is one. -/
theorem Join.compile_eq (d : Dialect) (j : Join) : j.compile d = (do
    let table ← j.table.compile d
    let condition ← Criterion.compileCondition d j.criteria
    return j.kind.keyword ++ " JOIN " ++ d.aliased j.aliasName table
      ++ if condition.isEmpty then "" else " ON " ++ condition) := by
  cases j
  simp [Join.compile, Criterion.compileCondition]

/-- A join leaves out its condition where all tests are blank. -/
theorem Join.omitsBlank {d : Dialect} {j : Join} {b b' : Bindings} {sql : String}
    (ok : (j.compile d).run b = .ok (sql, b')) :
    ∃ bare b'', (j.withoutCondition.compile d).run b = .ok (bare, b'')
      ∧ Criterion.OmitsBlank d " ON " j.criteria bare sql := by
  rw [Join.compile_eq] at ok
  obtain ⟨table, b₁, htable, ok⟩ := run_bind_eq_ok ok
  obtain ⟨condition, _, hcondition, ok⟩ := run_bind_eq_ok ok
  obtain ⟨rfl, -⟩ := run_pure_eq_ok ok
  obtain ⟨e, hcondition, -⟩ :=
    (Criterion.compileCondition_appends d j.criteria).exists_of_run_eq_ok hcondition
  refine ⟨j.kind.keyword ++ " JOIN " ++ d.aliased j.aliasName table, b₁, ?_, ?_⟩
  · have hbareTable : (j.withoutCondition.table.compile d).run b = .ok (table, b₁) := htable
    have hbareCondition : (Criterion.compileCondition d j.withoutCondition.criteria).run b₁
        = .ok ("", b₁) := Criterion.runCondition_of_areBlank d rfl b₁
    rw [Join.compile_eq, run_bind_of_ok hbareTable, run_bind_of_ok hbareCondition]
    simp only [String.isEmpty, String.utf8ByteSize_empty, beq_self_eq_true, if_true,
      String.append_empty]
    rfl
  · have hkeyword : " ON " ≠ "" := by decide
    have h := Criterion.omitsBlank_of_run hkeyword hcondition
      (j.kind.keyword ++ " JOIN " ++ d.aliased j.aliasName table) ""
    simpa using h

/-! ## All of it -/

/-- **A condition is left out just where nothing was asked.**  The tests make
an empty text if and only if all of them are blank, whatever was collected
before, and then they bind the values of their empty texts and no others.
So a SELECT, an UPDATE and a DELETE have no WHERE, and a join has no ON,
just where all tests are blank; else the condition stands in the text. -/
theorem Criterion.condition_omitted (d : Dialect) :
    (∀ cs b, (∃ b', (Criterion.compileCondition d cs).run b = .ok ("", b'))
      ↔ Criterion.areBlank cs = true)
    ∧ (∀ cs b b', (Criterion.compileCondition d cs).run b = .ok ("", b') →
      b'.positional = b.positional
        ++ (Criterion.emptyTextsAll cs).flatMap fun text => text.bindings.positional)
    ∧ (∀ (verb : Verb) q s, verb.compile d q = .ok s →
      ∃ bare, verb.compile d q.withoutCondition = .ok bare
        ∧ Criterion.OmitsBlank d "\nWHERE " q.criteria bare.sql s.sql)
    ∧ ∀ (j : Join) b sql b', (j.compile d).run b = .ok (sql, b') →
      ∃ bare b'', (j.withoutCondition.compile d).run b = .ok (bare, b'')
        ∧ Criterion.OmitsBlank d " ON " j.criteria bare sql := by
  have hblank (cs : List Criterion) (b b' : Bindings)
      (ok : (Criterion.compileCondition d cs).run b = .ok ("", b')) :
      Criterion.areBlank cs = true := by
    rw [← Criterion.compileCondition_isEmpty d cs ok]
    rfl
  refine ⟨?_, ?_, ?_, ?_⟩
  · intro cs b
    constructor
    · rintro ⟨b', ok⟩
      exact hblank cs b b' ok
    · intro h
      exact ⟨_, Criterion.runCondition_of_areBlank d h b⟩
  · intro cs b b' ok
    rw [Criterion.runCondition_of_areBlank d (hblank cs b b' ok) b] at ok
    cases ok
    exact positional_mergeAll b _
  · intro verb q s ok
    exact Verb.omitsBlank ok
  · intro j b sql b' ok
    exact Join.omitsBlank ok

/-- A DELETE whose only test is a group of nothing. -/
def Query.deleteNothingAsked : Query :=
  { Query.empty with
    table := some (.name "users")
    delete := true
    criteria := [.group [.raw ⟨"", .empty⟩ .and] true .and] }

/-- It deletes all of the table. -/
theorem Criterion.condition_omitted_delete :
    Verb.delete.compile .common Query.deleteNothingAsked = .ok ⟨"DELETE FROM \"users\"", .empty⟩
      ∧ ∃ bare, Verb.delete.compile .common Query.deleteNothingAsked.withoutCondition = .ok bare
        ∧ Criterion.OmitsBlank .common "\nWHERE " Query.deleteNothingAsked.criteria bare.sql
          "DELETE FROM \"users\"" := by
  have ok : Verb.delete.compile .common Query.deleteNothingAsked
      = .ok ⟨"DELETE FROM \"users\"", .empty⟩ := by rfl
  exact ⟨ok, (Criterion.condition_omitted .common).2.2.1 _ _ _ ok⟩

end SqlTree
