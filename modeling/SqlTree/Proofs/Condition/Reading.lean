import Mathlib.Data.List.Nodup
import SqlTree.Proofs.Condition.Blank
import SqlTree.Proofs.Condition.Expression
import SqlTree.Proofs.Values.Blindness

/-!
# How a condition is read

A list of tests is meant from left to right: each test is joined by its own
rule to all that stand before it.  SQL reads the text by precedence.  The
two agree, since the compiler puts what stands before an AND in parentheses
where it could end in an OR.

The invariant is `Clause.Reads`: what has been joined so far is the text of
one expression, and where the last rule was AND, that expression is a
single conjunction, which a further AND may follow as it is.
-/

set_option autoImplicit false

namespace SqlTree

open Compiler Bindings

/-! ## From left to right -/

/-- Joins two truth values by a rule. -/
def AppendRule.combine : AppendRule → Bool → Bool → Bool
  | .and => (· && ·)
  | .or => (· || ·)

/-- The value of tests that are joined from left to right.  The first rule
joins nothing. -/
def leftToRight : List (AppendRule × Bool) → Bool
  | [] => true
  | (_, first) :: rest => rest.foldl (fun value test => test.1.combine value test.2) first

/-- A further test is joined to the value of those before it. -/
theorem leftToRight_append (tests : List (AppendRule × Bool)) (hne : tests ≠ [])
    (test : AppendRule × Bool) :
    leftToRight (tests ++ [test]) = test.1.combine (leftToRight tests) test.2 := by
  cases tests with
  | nil => exact absurd rfl hne
  | cons first rest =>
    rw [List.cons_append, leftToRight, List.foldl_append]
    rfl

/-! ## The atoms of a condition -/

section

variable (d : Dialect)

/-- The text of a test, compiled on its own. -/
def Criterion.fragment (c : Criterion) : String :=
  match (c.compile d).run .empty with
  | .ok (sql, _) => sql
  | .error _ => ""

/-- The text of a test does not depend on the values before it. -/
theorem Criterion.fragment_eq {c : Criterion} {b b' : Bindings} {sql : String}
    (ok : (c.compile d).run b = .ok (sql, b')) : c.fragment d = sql := by
  have hany : Alike Unrelated (c.compile d) (c.redacted.compile d) := c.compile_alike d
  have hhere : Agree _ ((c.compile d).run b) ((c.redacted.compile d).run .empty) := hany trivial
  have halone : Agree _ ((c.compile d).run .empty) ((c.redacted.compile d).run .empty) :=
    hany trivial
  rw [ok] at hhere
  unfold Criterion.fragment
  generalize (c.compile d).run .empty = alone at halone
  generalize (c.redacted.compile d).run .empty = shared at hhere halone
  cases hhere with
  | ok hsql =>
    cases halone with
    | ok hsql' => exact hsql'.1.trans hsql.1.symm

mutual

/-- The atoms of a test at a place: itself, or those of its group. -/
def Criterion.atoms (path : List Nat) (c : Criterion) : List Atom :=
  match c with
  | .group cs _ _ => Criterion.atomsAll path 0 cs
  | .value .. | .columns .. | .between .. | .exists .. | .member .. | .null .. | .raw .. =>
    [⟨path, c.fragment d⟩]

/-- The atoms of the tests that are not blank, from position `i` on. -/
def Criterion.atomsAll (path : List Nat) (i : Nat) : List Criterion → List Atom
  | [] => []
  | c :: cs =>
    (if c.isBlank then [] else c.atoms (i :: path)) ++ Criterion.atomsAll path (i + 1) cs

end

section

variable (truth : Atom → Bool)

mutual

/-- The value of a test at a place: that of its atom, or that of its list
from left to right, and negated where the group is. -/
def Criterion.holds (path : List Nat) (c : Criterion) : Bool :=
  match c with
  | .group cs negated _ => negated ^^ leftToRight (Criterion.valuesAll path 0 cs)
  | .value .. | .columns .. | .between .. | .exists .. | .member .. | .null .. | .raw .. =>
    truth ⟨path, c.fragment d⟩

/-- The rules and values of the tests that are not blank, from position `i`
on. -/
def Criterion.valuesAll (path : List Nat) (i : Nat) : List Criterion → List (AppendRule × Bool)
  | [] => []
  | c :: cs =>
    (if c.isBlank then [] else [(c.appendRule, c.holds (i :: path))])
      ++ Criterion.valuesAll path (i + 1) cs

end

end

end

/-! ## What has been joined -/

/-- The disjunction is a single conjunction. -/
inductive Disjunction.IsConjunction : Disjunction → Prop
  | single (c : Conjunction) : IsConjunction (.single c)

/-- What has been joined is nothing, or the text of an expression with the
given atoms and with the value of the given tests.  After an AND the
expression is one conjunction. -/
inductive Clause.Reads (atoms : List Atom) (tests : (Atom → Bool) → List (AppendRule × Bool)) :
    Clause → Prop
  | nothing (noAtoms : atoms = []) (noTests : ∀ truth, tests truth = []) : Reads atoms tests .empty
  | joined (e : Disjunction) (rule : AppendRule) (sameAtoms : e.atoms = atoms)
    (someTests : ∀ truth, tests truth ≠ [])
    (sameValue : ∀ truth, e.eval truth = leftToRight (tests truth))
    (conjunction : rule = .and → e.IsConjunction) : Reads atoms tests ⟨e.text, some rule⟩

/-- A test is the text of a factor with the given atoms and the given
value. -/
structure Factor.Reads (f : Factor) (atoms : List Atom) (value : (Atom → Bool) → Bool)
    (test : String) : Prop where
  text : f.text = test
  atoms : f.atoms = atoms
  eval : ∀ truth, f.eval truth = value truth

/-- So is a test with or without a NOT before it. -/
theorem Factor.Reads.negation {f : Factor} {atoms : List Atom} {value : (Atom → Bool) → Bool}
    {test : String} (h : f.Reads atoms value test) (negated : Bool) :
    ∃ f' : Factor, f'.Reads atoms (fun truth => negated ^^ value truth)
      (SqlTree.negation negated ++ test) := by
  obtain ⟨rfl, rfl, heval⟩ := h
  cases negated with
  | false =>
    refine ⟨f, ?_, rfl, fun truth => ?_⟩
    · exact String.empty_append.symm
    · rw [heval, Bool.false_xor]
  | true =>
    refine ⟨.not f, rfl, rfl, fun truth => ?_⟩
    rw [Factor.eval, heval, Bool.true_xor]

theorem append_keyword (left keyword right : String) :
    left ++ " " ++ keyword ++ " " ++ right = left ++ (" " ++ keyword ++ " ") ++ right := by
  simp only [String.append_assoc]

/-- An OR may follow whatever stands before it. -/
theorem Clause.join_or (e : Disjunction) (last : AppendRule) (f : Factor) :
    Clause.join ⟨e.text, some last⟩ .or f.text = ⟨(e.snoc f).text, some .or⟩ := by
  have hkeyword := append_keyword e.text "OR" f.text
  rw [e.text_snoc]
  cases last <;> exact congrArg (Clause.mk · (some .or)) hkeyword

/-- Parentheses keep an OR before an AND together. -/
theorem Clause.join_and_of_or (e : Disjunction) (f : Factor) :
    Clause.join ⟨e.text, some .or⟩ .and f.text = ⟨(e.wrapAnd f).text, some .and⟩ := by
  rw [e.text_wrapAnd]
  rfl

/-- A single conjunction needs none before an AND. -/
theorem Clause.join_and_of_and (c : Conjunction) (f : Factor) :
    Clause.join ⟨(Disjunction.single c).text, some .and⟩ .and f.text
      = ⟨(Disjunction.single (c.snoc f)).text, some .and⟩ := by
  have hkeyword := append_keyword (Disjunction.single c).text "AND" f.text
  rw [c.text_snoc]
  exact congrArg (Clause.mk · (some .and)) hkeyword

/-- The join of a further test is read as the tests before it with that
test. -/
theorem Clause.Reads.join {clause : Clause} {atoms atoms' : List Atom}
    {tests : (Atom → Bool) → List (AppendRule × Bool)} (h : clause.Reads atoms tests)
    {f : Factor} {value : (Atom → Bool) → Bool} {test : String} (hf : f.Reads atoms' value test)
    (rule : AppendRule) :
    (clause.join rule test).Reads (atoms ++ atoms')
      (fun truth => tests truth ++ [(rule, value truth)]) := by
  obtain ⟨rfl, rfl, heval⟩ := hf
  cases h with
  | nothing noAtoms noTests =>
    subst noAtoms
    refine .joined (.single (.single f)) rule rfl (by simp) (fun truth => ?_) fun _ => .single _
    rw [noTests]
    exact heval truth
  | joined e last sameAtoms someTests sameValue conjunction =>
    have hvalue truth : leftToRight (tests truth ++ [(rule, value truth)])
        = rule.combine (e.eval truth) (f.eval truth) := by
      rw [leftToRight_append _ (someTests truth), sameValue, heval]
    have hsome truth : tests truth ++ [(rule, value truth)] ≠ [] := by simp
    subst sameAtoms
    cases rule with
    | or =>
      rw [Clause.join_or]
      refine .joined (e.snoc f) .or (e.atoms_snoc f) hsome (fun truth => ?_) nofun
      rw [hvalue, e.eval_snoc truth f]
      rfl
    | and =>
      cases last with
      | or =>
        rw [Clause.join_and_of_or]
        refine .joined (e.wrapAnd f) .and (e.atoms_wrapAnd f) hsome (fun truth => ?_) ?_
        · rw [hvalue]
          rfl
        · exact fun _ => .single _
      | and =>
        -- what ends in an AND is a single conjunction
        obtain ⟨c⟩ := conjunction rfl
        rw [Clause.join_and_of_and]
        refine .joined (.single (c.snoc f)) .and (c.atoms_snoc f) hsome (fun truth => ?_) ?_
        · rw [hvalue]
          exact c.eval_snoc truth f
        · exact fun _ => .single _

/-! ## The whole condition -/

/-- A test that is no group is its own atom. -/
theorem Criterion.returns_atom (d : Dialect) (c : Criterion) (path : List Nat)
    {value : (Atom → Bool) → Bool}
    (hvalue : ∀ truth, value truth = truth ⟨path, c.fragment d⟩) :
    (c.compile d).Returns fun test =>
      ∃ f : Factor, f.Reads [⟨path, c.fragment d⟩] value test := by
  intro b test b' hrun
  have htest := Criterion.fragment_eq d hrun
  refine ⟨.atom ⟨path, c.fragment d⟩, ?_, rfl, fun truth => (hvalue truth).symm⟩
  rw [← htest, Factor.text, Factor.tokens, tokensText, tokensText, String.append_empty]
  rfl

mutual

theorem Criterion.compile_reads (d : Dialect) : ∀ (c : Criterion) (path : List Nat),
    c.isBlank = false → (c.compile d).Returns fun test =>
      ∃ f : Factor, f.Reads (c.atoms d path) (fun truth => c.holds d truth path) test
  | .group cs negated append, path, hblank => by
    have hreads := Criterion.compileAll_reads d cs path 0 (.nothing rfl fun _ => rfl)
    have hnone := Criterion.compileAll_isEmpty d cs
    intro b test b' hrun
    unfold Criterion.compile at hrun
    obtain ⟨inner, b₁, hinner, hpure⟩ := run_bind_eq_ok hrun
    obtain ⟨rfl, -⟩ := run_pure_eq_ok hpure
    have hempty : inner.sql.isEmpty = false := (hnone hinner).trans hblank
    rw [hempty]
    cases hreads hinner with
    | nothing => exact absurd hempty (by decide)
    | joined e rule sameAtoms someTests sameValue conjunction =>
      have hgroup : (Factor.group e).Reads (Criterion.atomsAll d path 0 cs)
          (fun truth => leftToRight (Criterion.valuesAll d truth path 0 cs))
          ("(" ++ (e.text ++ ")")) := by
        refine ⟨?_, ?_, sameValue⟩
        · rw [Factor.text_group, String.append_assoc]
        · rw [Factor.atoms_group]
          exact sameAtoms
      have htest := hgroup.negation negated
      simpa only [String.append_assoc, Bool.false_eq_true, if_false, Criterion.atoms,
        Criterion.holds] using htest
  | .value c rule v append, path, _ => Criterion.returns_atom d _ path fun _ => rfl
  | .columns l rule r append, path, _ => Criterion.returns_atom d _ path fun _ => rfl
  | .between c low high negated append, path, _ => Criterion.returns_atom d _ path fun _ => rfl
  | .exists s negated append, path, _ => Criterion.returns_atom d _ path fun _ => rfl
  | .member c vs negated append, path, _ => Criterion.returns_atom d _ path fun _ => rfl
  | .null c isNull append, path, _ => Criterion.returns_atom d _ path fun _ => rfl
  | .raw s append, path, _ => Criterion.returns_atom d _ path fun _ => rfl

theorem Criterion.compileAll_reads (d : Dialect) : ∀ (cs : List Criterion) (path : List Nat)
    (i : Nat) {clause : Clause} {atoms : List Atom}
    {tests : (Atom → Bool) → List (AppendRule × Bool)}, clause.Reads atoms tests →
    (Criterion.compileAll d clause cs).Returns fun clause' =>
      clause'.Reads (atoms ++ Criterion.atomsAll d path i cs)
        fun truth => tests truth ++ Criterion.valuesAll d truth path i cs
  | [], path, i, clause, atoms, tests, hclause => by
    unfold Criterion.compileAll
    refine .pure ?_
    simpa only [Criterion.atomsAll, Criterion.valuesAll, List.append_nil] using hclause
  | c :: cs, path, i, clause, atoms, tests, hclause => by
    unfold Criterion.compileAll
    simp only [Criterion.atomsAll, Criterion.valuesAll]
    intro b clause' b'' hrun
    obtain ⟨test, b', htest, hrest⟩ := run_bind_eq_ok hrun
    have hempty : test.isEmpty = c.isBlank := c.compile_isEmpty d htest
    cases hblank : c.isBlank with
    | true =>
      rw [hblank] at hempty
      rw [Clause.append_of_empty clause _ hempty] at hrest
      exact Criterion.compileAll_reads d cs path (i + 1) hclause hrest
    | false =>
      rw [hblank] at hempty
      rw [Clause.append_of_nonempty clause _ hempty] at hrest
      obtain ⟨f, hf⟩ := Criterion.compile_reads d c (i :: path) hblank htest
      have hjoin := hclause.join hf c.appendRule
      simpa only [List.append_assoc, Bool.false_eq_true, if_false] using
        Criterion.compileAll_reads d cs path (i + 1) hjoin hrest

end

/-! ## Atoms and places -/

mutual

/-- Every atom stands at the place of its test or inside of it. -/
theorem Criterion.path_of_mem_atoms (d : Dialect) : ∀ (c : Criterion) (path : List Nat)
    {a : Atom}, a ∈ c.atoms d path → path <:+ a.path
  | .group cs _ _, path, a, h => by
    obtain ⟨j, -, hj⟩ := Criterion.path_of_mem_atomsAll d cs path 0 h
    exact (List.suffix_cons j path).trans hj
  | .value .., path, a, h | .columns .., path, a, h | .between .., path, a, h
  | .exists .., path, a, h | .member .., path, a, h | .null .., path, a, h
  | .raw .., path, a, h => by
    obtain rfl := List.mem_singleton.mp h
    exact List.suffix_refl path

theorem Criterion.path_of_mem_atomsAll (d : Dialect) : ∀ (cs : List Criterion) (path : List Nat)
    (i : Nat) {a : Atom}, a ∈ Criterion.atomsAll d path i cs →
    ∃ j, i ≤ j ∧ (j :: path) <:+ a.path
  | [], path, i, a, h => absurd h List.not_mem_nil
  | c :: cs, path, i, a, h => by
    rw [Criterion.atomsAll] at h
    obtain hc | hcs := List.mem_append.mp h
    · split at hc
      · exact absurd hc List.not_mem_nil
      · exact ⟨i, Nat.le_refl i, Criterion.path_of_mem_atoms d c (i :: path) hc⟩
    · obtain ⟨j, hj, hpath⟩ := Criterion.path_of_mem_atomsAll d cs path (i + 1) hcs
      exact ⟨j, by omega, hpath⟩

end

mutual

theorem Criterion.nodup_atoms (d : Dialect) : ∀ (c : Criterion) (path : List Nat),
    ((c.atoms d path).map Atom.path).Nodup
  | .group cs _ _, path => Criterion.nodup_atomsAll d cs path 0
  | .value .., _ | .columns .., _ | .between .., _ | .exists .., _ | .member .., _ | .null .., _
  | .raw .., _ => List.nodup_singleton _

/-- No two atoms of a condition stand at the same place. -/
theorem Criterion.nodup_atomsAll (d : Dialect) : ∀ (cs : List Criterion) (path : List Nat)
    (i : Nat), ((Criterion.atomsAll d path i cs).map Atom.path).Nodup
  | [], path, i => List.nodup_nil
  | c :: cs, path, i => by
    rw [Criterion.atomsAll, List.map_append]
    refine List.Nodup.append ?_ (Criterion.nodup_atomsAll d cs path (i + 1)) ?_
    · split
      · exact List.nodup_nil
      · exact Criterion.nodup_atoms d c (i :: path)
    · intro p hc hcs
      obtain ⟨a, ha, rfl⟩ := List.mem_map.mp hc
      obtain ⟨a', ha', hsame⟩ := List.mem_map.mp hcs
      split at ha
      · exact absurd ha List.not_mem_nil
      · have hhere := Criterion.path_of_mem_atoms d c (i :: path) ha
        obtain ⟨j, hj, hthere⟩ := Criterion.path_of_mem_atomsAll d cs path (i + 1) ha'
        rw [hsame] at hthere
        have hnested : i :: path <:+ j :: path :=
          List.suffix_of_suffix_length_le hhere hthere (by simp)
        have hplace : i :: path = j :: path := hnested.eq_of_length (by simp)
        obtain ⟨rfl, -⟩ := List.cons.inj hplace
        omega

end

/-! ## Both readings agree -/

/-- **The text of a condition means its reading from left to right.**  A
condition that is not empty is the text of an expression over AND, OR, NOT
and parentheses.  Its atoms are the tests that are no groups and not blank,
each at a place of its own, and no other expression has the same tokens.
Whatever the atoms are worth, the expression is worth what the tests are
from left to right, without the blank ones. -/
theorem Criterion.condition_reads (d : Dialect) (cs : List Criterion) {b b' : Bindings}
    {sql : String} (ok : (Criterion.compileCondition d cs).run b = .ok (sql, b'))
    (hsome : sql ≠ "") :
    ∃ e : Disjunction, e.text = sql
      ∧ e.atoms = Criterion.atomsAll d [] 0 cs
      ∧ (e.atoms.map Atom.path).Nodup
      ∧ (∀ e' : Disjunction, e'.tokens = e.tokens → e' = e)
      ∧ ∀ truth, e.eval truth = leftToRight (Criterion.valuesAll d truth [] 0 cs) := by
  unfold Criterion.compileCondition at ok
  obtain ⟨clause, b₁, hclause, hpure⟩ := run_bind_eq_ok ok
  obtain ⟨rfl, -⟩ := run_pure_eq_ok hpure
  have hreads := Criterion.compileAll_reads d cs [] 0 (.nothing rfl fun _ => rfl) hclause
  cases hreads with
  | nothing => exact absurd rfl hsome
  | joined e rule sameAtoms someTests sameValue conjunction =>
    refine ⟨e, rfl, sameAtoms, ?_, fun e' => Disjunction.eq_of_tokens_eq, sameValue⟩
    rw [sameAtoms]
    exact Criterion.nodup_atomsAll d cs [] 0

/-- A test whose own rule joins nothing, a group of nothing, a test with OR
and a negated group with AND. -/
def Criterion.mixed : List Criterion :=
  [.null (.name "a") true .or, .group [.group [] true .or] false .and, .null (.name "b") true .or,
    .group [.null (.name "c") true .and, .null (.name "d") false .or] true .and]

/-- The text of the mixed tests, with parentheses before the AND. -/
def Criterion.mixedText : String :=
  "(`a` IS NULL OR `b` IS NULL) AND NOT (`c` IS NULL OR `d` IS NOT NULL)"

theorem Criterion.mixed_reads :
    Criterion.mixedText ≠ "" ∧ ∃ e : Disjunction, e.text = Criterion.mixedText
      ∧ e.atoms = Criterion.atomsAll .mysql [] 0 Criterion.mixed
      ∧ (e.atoms.map Atom.path).Nodup
      ∧ (∀ e' : Disjunction, e'.tokens = e.tokens → e' = e)
      ∧ ∀ truth, e.eval truth
        = leftToRight (Criterion.valuesAll .mysql truth [] 0 Criterion.mixed) := by
  have hsome : Criterion.mixedText ≠ "" := by decide
  have ok : (Criterion.compileCondition .mysql Criterion.mixed).run .empty
      = .ok (Criterion.mixedText, .empty) := by rfl
  exact ⟨hsome, Criterion.condition_reads .mysql Criterion.mixed ok hsome⟩

end SqlTree
