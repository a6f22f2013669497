import SqlTree.Compile.Select
import SqlTree.Proofs.Compile.Run

/-!
# Tests that say nothing

A test is blank when it is a group of blank tests, or an empty text of its
own.  `Criterion.compile_isEmpty` says that the blank tests are the ones
that compile to the empty text, and `Criterion.compileAll_isNone` that a
condition is empty just where all its tests are blank.

So what is left out of a condition can be seen in the tree, and a condition
is the join of its other tests (`Clause.append_of_nonempty`).
-/

set_option autoImplicit false

namespace SqlTree

open Compiler

mutual

/-- Whether a test says nothing. -/
def Criterion.isBlank : Criterion → Bool
  | .group cs _ _ => Criterion.areBlank cs
  | .raw s _ => s.sql.isEmpty
  | .value .. | .columns .. | .between .. | .exists .. | .member .. | .null .. => false

/-- Whether none of the tests says anything. -/
def Criterion.areBlank : List Criterion → Bool
  | [] => true
  | c :: cs => c.isBlank && Criterion.areBlank cs

end

/-- Whether an item of an order sorts by nothing. -/
def Order.isBlank : Order → Bool
  | .explicit _ vs _ => vs.isEmpty
  | .column .. | .nulls .. | .random => false

/-! ## Joining -/

namespace Clause

/-- The clause with a further test that is not empty. -/
def join (clause : Clause) (rule : AppendRule) (test : String) : Clause :=
  match clause.last, rule with
  | none, _ => ⟨test, some rule⟩
  | some .or, .and => ⟨"(" ++ clause.sql ++ ") AND " ++ test, some .and⟩
  | some _, _ => ⟨clause.sql ++ " " ++ rule.keyword ++ " " ++ test, some rule⟩

/-- The clause with further tests, none of them empty. -/
def joinAll (clause : Clause) (tests : List (AppendRule × String)) : Clause :=
  tests.foldl (fun clause test => clause.join test.1 test.2) clause

/-- An empty test is left out. -/
theorem append_of_empty (clause : Clause) (rule : AppendRule) {test : String}
    (h : test.isEmpty = true) : clause.append rule test = clause := by
  rw [append.eq_def, if_pos h]

/-- A test with a text is joined. -/
theorem append_of_nonempty (clause : Clause) (rule : AppendRule) {test : String}
    (h : test.isEmpty = false) : clause.append rule test = clause.join rule test := by
  rw [append.eq_def, if_neg (by simp [h])]
  rfl

/-- A clause has a text just where something has been joined. -/
def IsJoined (clause : Clause) : Prop :=
  clause.sql.isEmpty = clause.last.isNone

theorem isJoined_empty : IsJoined empty := by
  rfl

end Clause

theorem isEmpty_append (s t : String) : (s ++ t).isEmpty = (s.isEmpty && t.isEmpty) := by
  rw [Bool.eq_iff_iff]
  simp [String.isEmpty_iff, String.append_eq_empty_iff]

namespace Clause

/-- A join has a text, and something has been joined. -/
theorem isJoined_join (clause : Clause) (rule : AppendRule) {test : String}
    (h : test.isEmpty = false) : (clause.join rule test).IsJoined := by
  unfold join IsJoined
  split
  · exact h
  · simp [isEmpty_append, h]
  · simp [isEmpty_append, h]

theorem isNone_last_join (clause : Clause) (rule : AppendRule) (test : String) :
    (clause.join rule test).last.isNone = false := by
  unfold join
  split <;> rfl

end Clause

/-! ## Blank tests are the empty ones -/

mutual

/-- **A test compiles to the empty text just where it is blank.** -/
theorem Criterion.compile_isEmpty (d : Dialect) :
    ∀ c : Criterion, (c.compile d).Returns fun sql => sql.isEmpty = c.isBlank
  | .value c rule v append => by
    unfold Criterion.compile
    refine .after fun _ => .after fun column => .after fun value => ?_
    have hsql : (column ++ " " ++ rule ++ " " ++ value).isEmpty = false := by
      simp [isEmpty_append]
    dsimp only
    split
    · exact .after fun escape => .pure (by simp [isEmpty_append, Criterion.isBlank])
    · exact .pure hsql
  | .columns l rule r append => by
    unfold Criterion.compile
    refine .after fun _ => .after fun left => .after fun right => .pure ?_
    simp [isEmpty_append, Criterion.isBlank]
  | .between c low high negated append => by
    unfold Criterion.compile
    refine .after fun column => .after fun min => .after fun max => .pure ?_
    simp [isEmpty_append, Criterion.isBlank]
  | .group cs negated append => by
    unfold Criterion.compile
    refine (Criterion.compileAll_isNone d cs .empty Clause.isJoined_empty).bind ?_
    intro inner ⟨joined, blank⟩
    refine .pure ?_
    rw [Clause.IsJoined, blank] at joined
    have hinner : inner.sql.isEmpty = Criterion.areBlank cs := joined
    rw [Criterion.isBlank, ← hinner]
    split
    next h => exact h.symm
    next h => simp [isEmpty_append, h]
  | .exists s negated append => by
    unfold Criterion.compile
    refine .after fun select => .pure ?_
    simp [isEmpty_append, Criterion.isBlank]
  | .member c vs negated append => by
    unfold Criterion.compile
    split
    · unfold emptyMember bindValue
      exact .after fun _ => .pure rfl
    · refine .after fun column => .after fun members => .pure ?_
      simp [isEmpty_append, Criterion.isBlank]
  | .null c isNull append => by
    unfold Criterion.compile
    refine .after fun column => .pure ?_
    simp [isEmpty_append, Criterion.isBlank]
  | .raw s append => by
    unfold Criterion.compile Compiler.inline
    exact .after fun _ => .pure rfl

/-- **Nothing is joined just where all tests are blank**, and a clause has
a text just where something is joined. -/
theorem Criterion.compileAll_isNone (d : Dialect) : ∀ (cs : List Criterion) (clause : Clause),
    clause.IsJoined → (Criterion.compileAll d clause cs).Returns fun clause' =>
      clause'.IsJoined ∧ clause'.last.isNone = (clause.last.isNone && Criterion.areBlank cs)
  | [], clause, joined => by
    unfold Criterion.compileAll
    exact .pure ⟨joined, by simp [Criterion.areBlank]⟩
  | c :: cs, clause, joined => by
    unfold Criterion.compileAll
    refine (Criterion.compile_isEmpty d c).bind ?_
    intro test blank
    rw [Criterion.areBlank, ← blank]
    cases htest : test.isEmpty with
    | true =>
      rw [Clause.append_of_empty clause _ htest, Bool.true_and]
      exact Criterion.compileAll_isNone d cs clause joined
    | false =>
      rw [Clause.append_of_nonempty clause _ htest, Bool.false_and, Bool.and_false]
      have hrest := Criterion.compileAll_isNone d cs _ (clause.isJoined_join c.appendRule htest)
      rw [Clause.isNone_last_join, Bool.false_and] at hrest
      exact hrest

end

/-- A whole condition has a text just where not all of its tests are
blank. -/
theorem Criterion.compileAll_isEmpty (d : Dialect) (cs : List Criterion) :
    (Criterion.compileAll d .empty cs).Returns fun clause =>
      clause.sql.isEmpty = Criterion.areBlank cs := by
  intro b clause b' hrun
  obtain ⟨joined, blank⟩ := Criterion.compileAll_isNone d cs .empty Clause.isJoined_empty hrun
  rw [joined, blank]
  rfl

/-- An item of an order compiles to the empty text just where it sorts by
nothing. -/
theorem Order.compile_isEmpty (d : Dialect) (o : Order) :
    (o.compile d).Returns fun sql => sql.isEmpty = o.isBlank := by
  cases o with
  | column c descending =>
    unfold Order.compile
    refine .after fun column => .pure ?_
    cases descending <;> simp [isEmpty_append, directionText, Order.isBlank]
  | nulls c nullsFirst =>
    unfold Order.compile
    refine .after fun column => .pure ?_
    simp [isEmpty_append, Order.isBlank]
  | explicit c vs othersFirst =>
    unfold Order.compile
    rw [Order.isBlank]
    split
    next h => exact .pure h.symm
    next h =>
      rw [Bool.not_eq_true] at h
      rw [h]
      cases d
      case mysql =>
        refine .after fun column => .after fun list => .pure ?_
        simp [isEmpty_append]
      all_goals
        refine .after fun column => .after fun branches => .after fun place => .pure ?_
        simp [isEmpty_append]
  | random =>
    unfold Order.compile
    refine .pure ?_
    cases d <;> rfl

end SqlTree
