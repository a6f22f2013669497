import Mathlib.Data.List.Forall2
import SqlTree.Compile.Basic
import SqlTree.Proofs.Bindings.Merging

/-!
# Runs of a compiler

A compiler takes the values collected so far and gives a result with the
values collected after it, or an error.  Two statements about its runs are
used everywhere, and each has one rule for every way in which compilers are
put together, so that a proof about a compiler follows its text.

- `Compiler.Returns P c`: whatever `c` returns satisfies `P`.
- `Compiler.Collects P c`: a run of `c` only adds positional values, and
  the result and the added values together satisfy `P`.

Neither says that a run succeeds.  Named values are not counted: a merge
may replace them where they stand, and it never moves a positional one.
-/

set_option autoImplicit false

namespace SqlTree

namespace Compiler

variable {α β : Type}

/-! ## Steps of a run -/

/-- Two results in a row, taken apart. -/
theorem exists_of_bind_eq_ok {x : Except QueryError α} {f : α → Except QueryError β} {b : β}
    (h : (x >>= f) = .ok b) : ∃ a, x = .ok a ∧ f a = .ok b := by
  cases x with
  | error e => cases h
  | ok a => exact ⟨a, rfl, h⟩

/-- A run goes on from where the first of two compilers ends. -/
theorem run_bind_of_ok {c : Compiler α} {k : α → Compiler β} {b b' : Bindings} {a : α}
    (h : c.run b = .ok (a, b')) : (c >>= k).run b = (k a).run b' := by
  rw [StateT.run_bind, h]
  rfl

/-- A run ends where the first of two compilers fails. -/
theorem run_bind_of_error {c : Compiler α} {k : α → Compiler β} {b : Bindings} {e : QueryError}
    (h : c.run b = .error e) : (c >>= k).run b = .error e := by
  rw [StateT.run_bind, h]
  rfl

/-- A run of two compilers in a row, taken apart. -/
theorem run_bind_eq_ok {c : Compiler α} {k : α → Compiler β} {b b'' : Bindings} {r : β}
    (h : (c >>= k).run b = .ok (r, b'')) :
    ∃ a b', c.run b = .ok (a, b') ∧ (k a).run b' = .ok (r, b'') := by
  rw [StateT.run_bind] at h
  obtain ⟨⟨a, b'⟩, hc, hk⟩ := exists_of_bind_eq_ok h
  exact ⟨a, b', hc, hk⟩

/-- A compiler that only returns leaves the values alone. -/
theorem run_pure_eq_ok {a r : α} {b b' : Bindings}
    (h : (pure a : Compiler α).run b = .ok (r, b')) : a = r ∧ b = b' := by
  cases h
  exact ⟨rfl, rfl⟩

/-- Compilers that only return are told apart by what they return. -/
theorem pure_inj {a a' : α} : (pure a : Compiler α) = pure a' ↔ a = a' := by
  refine ⟨fun heq => ?_, fun heq => heq ▸ rfl⟩
  have hrun := congrArg (fun c => c.run .empty) heq
  cases hrun
  rfl

/-- A compiler that fails returns nothing. -/
theorem run_throw_ne_ok {e : QueryError} {r : α} {b b' : Bindings} :
    (throw e : Compiler α).run b ≠ .ok (r, b') := by
  intro h
  cases h

/-- A statement is what its compiler writes from no values. -/
theorem run_of_statement_eq_ok {c : Compiler String} {s : Statement}
    (h : c.statement = .ok s) : c.run .empty = .ok (s.sql, s.bindings) := by
  unfold statement at h
  cases hc : c.run .empty with
  | error e => rw [hc] at h; cases h
  | ok result =>
    rw [hc] at h
    cases h
    rfl

/-- A sub-query runs from no values, and nothing is collected before its
text is put in place. -/
theorem run_nested_eq_ok {c : Compiler String} {s : Statement} {b b' : Bindings}
    (h : (nested c).run b = .ok (s, b')) :
    c.run .empty = .ok (s.sql, s.bindings) ∧ b = b' := by
  unfold nested at h
  cases hc : c.statement with
  | error e => rw [hc] at h; cases h
  | ok result =>
    rw [hc] at h
    obtain ⟨rfl, rfl⟩ := run_pure_eq_ok h
    exact ⟨run_of_statement_eq_ok hc, rfl⟩

/-- Several results in a row, one for each. -/
theorem forall₂_of_mapM_eq_ok {f : α → Except QueryError β} {xs : List α} {ys : List β}
    (h : xs.mapM f = .ok ys) : List.Forall₂ (fun x y => f x = .ok y) xs ys := by
  induction xs generalizing ys with
  | nil =>
    cases h
    exact .nil
  | cons x xs ih =>
    rw [List.mapM_cons] at h
    obtain ⟨y, hy, hrest⟩ := exists_of_bind_eq_ok h
    obtain ⟨ys, hys, hpure⟩ := exists_of_bind_eq_ok hrest
    cases hpure
    exact .cons hy (ih hys)

/-! ## What is returned -/

/-- Whatever the compiler returns satisfies `P`. -/
def Returns (P : α → Prop) (c : Compiler α) : Prop :=
  ∀ ⦃b a b'⦄, c.run b = .ok (a, b') → P a

namespace Returns

variable {P : α → Prop} {Q : β → Prop}

theorem trivial (c : Compiler α) : Returns (fun _ => True) c :=
  fun _ _ _ _ => True.intro

theorem pure {a : α} (h : P a) : Returns P (pure a) := by
  intro b r b' hrun
  obtain ⟨rfl, -⟩ := run_pure_eq_ok hrun
  exact h

theorem bind {c : Compiler α} {k : α → Compiler β} (hc : Returns P c)
    (hk : ∀ a, P a → Returns Q (k a)) : Returns Q (c >>= k) := by
  intro b r b'' hrun
  obtain ⟨a, b', ha, hr⟩ := run_bind_eq_ok hrun
  exact hk a (hc ha) hr

/-- What comes before may return anything. -/
theorem after {c : Compiler α} {k : α → Compiler β} (hk : ∀ a, Returns Q (k a)) :
    Returns Q (c >>= k) :=
  (trivial c).bind fun a _ => hk a

end Returns

/-! ## What is collected -/

/-- A run of the compiler that starts after the positional values `us`
collects more of them, and the result and all of these values satisfy
`P`. -/
def CollectsFrom (us : List Value) (P : α → List Value → Prop) (c : Compiler α) : Prop :=
  ∀ ⦃b a b'⦄ (base : List Value), b.positional = base ++ us → c.run b = .ok (a, b') →
    ∃ vs, b'.positional = base ++ vs ∧ P a vs

/-- A run of the compiler adds positional values to those before it, and
the result and the added values satisfy `P`. -/
abbrev Collects (P : α → List Value → Prop) (c : Compiler α) : Prop :=
  CollectsFrom [] P c

namespace CollectsFrom

variable {us : List Value} {P P' : α → List Value → Prop} {Q : β → List Value → Prop}

theorem mono {c : Compiler α} (hc : CollectsFrom us P c) (hP : ∀ a vs, P a vs → P' a vs) :
    CollectsFrom us P' c := by
  intro b a b' base hb hrun
  obtain ⟨vs, hvs, h⟩ := hc base hb hrun
  exact ⟨vs, hvs, hP a vs h⟩

/-- What is known of the result goes along with what is collected. -/
theorem and_returns {R : α → Prop} {c : Compiler α} (hc : CollectsFrom us P c)
    (hr : Returns R c) : CollectsFrom us (fun a vs => P a vs ∧ R a) c := by
  intro b a b' base hb hrun
  obtain ⟨vs, hvs, h⟩ := hc base hb hrun
  exact ⟨vs, hvs, h, hr hrun⟩

theorem pure {a : α} (h : P a us) : CollectsFrom us P (pure a) := by
  intro b r b' base hb hrun
  obtain ⟨rfl, rfl⟩ := run_pure_eq_ok hrun
  exact ⟨us, hb, h⟩

theorem throw (e : QueryError) : CollectsFrom us P (throw e) :=
  fun _ _ _ _ _ hrun => absurd hrun run_throw_ne_ok

/-- The values of two compilers in a row stand in the order of the
compilers. -/
theorem bind {c : Compiler α} {k : α → Compiler β} (hc : Collects P c)
    (hk : ∀ a vs, P a vs → CollectsFrom (us ++ vs) Q (k a)) : CollectsFrom us Q (c >>= k) := by
  intro b r b'' base hb hrun
  obtain ⟨a, b', ha, hr⟩ := run_bind_eq_ok hrun
  obtain ⟨vs, hvs, hP⟩ := hc (base ++ us) (by rw [hb, List.append_nil]) ha
  exact hk a vs hP base (by rw [hvs, List.append_assoc]) hr

/-- A check that is passed collects nothing. -/
theorem check {refused : Bool} {e : QueryError} {k : Unit → Compiler β}
    (hk : CollectsFrom us Q (k ())) :
    CollectsFrom us Q (if refused then MonadExcept.throw e >>= k else k ()) := by
  cases refused with
  | false => exact hk
  | true =>
    intro b r b' base hb hrun
    obtain ⟨_, _, hthrow, -⟩ := run_bind_eq_ok hrun
    exact absurd hthrow run_throw_ne_ok

end CollectsFrom

section

variable {P : String → List Value → Prop}

/-- A placeholder collects its value. -/
theorem bindValue_collects (v : Value) (h : P "?" [v]) : Collects P (bindValue v) := by
  intro b a b' base hb hrun
  cases hrun
  exact ⟨[v], by rw [Bindings.positional_push, hb, List.append_nil], h⟩

/-- A statement's text collects its positional values. -/
theorem inline_collects (s : Statement) (h : P s.sql s.bindings.positional) :
    Collects P (inline s) := by
  intro b a b' base hb hrun
  cases hrun
  exact ⟨_, by rw [Bindings.positional_merge, hb, List.append_nil], h⟩

/-- A statement holds the values of its text. -/
theorem statement_collects {c : Compiler String} (hc : Collects P c) {s : Statement}
    (h : c.statement = .ok s) : P s.sql s.bindings.positional := by
  obtain ⟨vs, hvs, hP⟩ := hc [] rfl (run_of_statement_eq_ok h)
  rw [List.nil_append] at hvs
  exact hvs ▸ hP

/-- The statement of a sub-query holds the values of its text, and nothing
is collected yet. -/
theorem nested_collects {c : Compiler String} (hc : Collects P c) :
    Collects (fun s vs => vs = [] ∧ P s.sql s.bindings.positional) (nested c) := by
  intro b s b' base hb hrun
  obtain ⟨hs, rfl⟩ := run_nested_eq_ok hrun
  obtain ⟨vs, hvs, h⟩ := hc [] rfl hs
  rw [List.nil_append] at hvs
  exact ⟨[], hb, rfl, hvs ▸ h⟩

end

/-! ## Parts side by side -/

/-- Lists that are related from left to right are so from right to left. -/
theorem forall₂_turned {R : α → β → Prop} {xs : List α} {ys : List β} (h : List.Forall₂ R xs ys)
    (keeps : Bool) :
    List.Forall₂ R (if keeps then xs else xs.reverse) (if keeps then ys else ys.reverse) := by
  cases keeps with
  | false => exact List.forall₂_reverse_iff.mpr h
  | true => exact h

end Compiler

end SqlTree
