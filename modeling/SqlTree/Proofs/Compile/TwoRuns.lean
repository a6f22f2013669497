import SqlTree.Compile.Select
import SqlTree.Proofs.Compile.Run

/-!
# Two runs side by side

`Alike S c c'` says that two compilers do the same as far as anyone can
tell who does not see values: from bindings that `S` relates they both fail
with the same error, or both give the same result and bindings that `S`
relates.

`S` may be any relation that does not look at values (`IsBlind`): the same
names at the same positions, or no relation at all.  With the second,
`Alike` says that what is written does not depend on what has been
collected before.

There is one rule for every way in which compilers are put together.
-/

set_option autoImplicit false

namespace SqlTree

variable {α β γ δ : Type}

/-! ## Results that agree -/

/-- The same error, or results that `R` relates. -/
inductive Agree (R : α → β → Prop) : Except QueryError α → Except QueryError β → Prop
  | ok {a : α} {b : β} : R a b → Agree R (.ok a) (.ok b)
  | error (e : QueryError) : Agree R (.error e) (.error e)

namespace Agree

variable {R : α → β → Prop} {Q : γ → δ → Prop}

theorem bind {x : Except QueryError α} {y : Except QueryError β} {f : α → Except QueryError γ}
    {g : β → Except QueryError δ} (h : Agree R x y)
    (hk : ∀ a b, R a b → Agree Q (f a) (g b)) :
    Agree Q (x >>= f) (y >>= g) := by
  cases h with
  | ok hab => exact hk _ _ hab
  | error e => exact .error e

/-- What the results have in common may be weakened. -/
theorem mono {R' : α → β → Prop} {x : Except QueryError α} {y : Except QueryError β}
    (h : Agree R x y) (hR : ∀ a b, R a b → R' a b) : Agree R' x y := by
  cases h with
  | ok hab => exact .ok (hR _ _ hab)
  | error e => exact .error e

/-- Two results that agree with a third agree with each other. -/
theorem trans_symm {R : α → β → Prop} {R' : γ → β → Prop} {Q : α → γ → Prop}
    {x : Except QueryError α} {y : Except QueryError γ} {z : Except QueryError β}
    (hx : Agree R x z) (hy : Agree R' y z) (hQ : ∀ a b c, R a b → R' c b → Q a c) :
    Agree Q x y := by
  cases hx with
  | ok ha =>
    cases hy with
    | ok hc => exact .ok (hQ _ _ _ ha hc)
  | error e =>
    cases hy with
    | error => exact .error e

/-- Results that agree are both there or both not. -/
theorem isOk_eq {x : Except QueryError α} {y : Except QueryError β} (h : Agree R x y) :
    x.isOk = y.isOk := by
  cases h <;> rfl

end Agree

/-! ## Names of bindings -/

namespace Bindings

/-- The names in order, with nothing for a positional value. -/
def names (b : Bindings) : List (Option String) :=
  b.entries.map Binding.name

/-- The names with a further one. -/
def addName (names : List (Option String)) (name : Option String) : List (Option String) :=
  if name.isSome ∧ name ∈ names then names else names ++ [name]

/-- The names do not depend on the values that are set. -/
theorem names_setEntry (name : String) (value : Value) (entries : List Binding) :
    (setEntry name value entries).map Binding.name
      = addName (entries.map Binding.name) (some name) := by
  induction entries with
  | nil => rfl
  | cons entry entries ih =>
    rw [setEntry]
    split
    next h => simp [addName, h]
    next h =>
      rw [List.map_cons, ih]
      have hne : some name ≠ entry.name := fun heq => h heq.symm
      by_cases hmem : some name ∈ entries.map Binding.name
      · simp only [addName, hmem, List.map_cons, List.mem_cons, or_true, and_true,
          Option.isSome_some, if_true]
      · simp only [addName, hmem, List.map_cons, List.mem_cons, hne, or_false, and_false, if_false,
          List.cons_append]

theorem names_add (b : Bindings) (entry : Binding) :
    (b.add entry).names = addName b.names entry.name := by
  obtain ⟨name, value⟩ := entry
  cases name with
  | none => simp [add, push, names, addName]
  | some name => exact names_setEntry name value b.entries

/-- The names of a merge come from the names alone. -/
theorem names_merge (b other : Bindings) :
    (b.merge other).names = other.names.foldl addName b.names := by
  obtain ⟨entries⟩ := other
  unfold merge
  induction entries generalizing b with
  | nil => rfl
  | cons entry entries ih =>
    rw [List.foldl_cons, ih, names_add]
    rfl

/-- The same names at the same positions. -/
def SameNames (b b' : Bindings) : Prop :=
  b.names = b'.names

/-- A relation of bindings that does not look at values. -/
class IsBlind (S : Bindings → Bindings → Prop) : Prop where
  of_sameNames : ∀ {b b'}, SameNames b b' → S b b'
  push : ∀ {b b'}, S b b' → ∀ v v', S (b.push v) (b'.push v')
  merge : ∀ {b b' o o'}, S b b' → S o o' → S (b.merge o) (b'.merge o')

instance : IsBlind SameNames where
  of_sameNames h := h
  push h v v' := by
    rw [SameNames] at h ⊢
    simp only [names, push, List.map_append] at h ⊢
    rw [h]
    rfl
  merge h ho := by
    rw [SameNames] at h ho ⊢
    rw [names_merge, names_merge, h, ho]

/-- Any bindings at all. -/
def Unrelated (_ _ : Bindings) : Prop :=
  True

instance : IsBlind Unrelated where
  of_sameNames _ := True.intro
  push _ _ _ := True.intro
  merge _ _ := True.intro

end Bindings

/-! ## Compilers that do the same -/

namespace Compiler

open Bindings

variable {S : Bindings → Bindings → Prop}

/-- From bindings that `S` relates, the same error, or results that `R`
relates and bindings that `S` relates. -/
def Tied (S : Bindings → Bindings → Prop) (R : α → β → Prop) (c : Compiler α)
    (c' : Compiler β) : Prop :=
  ∀ ⦃b b'⦄, S b b' → Agree (fun r r' => R r.1 r'.1 ∧ S r.2 r'.2) (c.run b) (c'.run b')

/-- The same error or the same result, and bindings that `S` relates. -/
abbrev Alike (S : Bindings → Bindings → Prop) (c c' : Compiler α) : Prop :=
  Tied S Eq c c'

namespace Tied

variable {R : α → β → Prop} {Q : γ → δ → Prop}

theorem pure {a : α} {b : β} (h : R a b) :
    Tied S R (Pure.pure a : Compiler α) (Pure.pure b : Compiler β) :=
  fun _ _ hS => .ok ⟨h, hS⟩

theorem throw (e : QueryError) :
    Tied S R (MonadExcept.throw e : Compiler α) (MonadExcept.throw e : Compiler β) :=
  fun _ _ _ => .error e

theorem bind {c : Compiler α} {c' : Compiler β} {k : α → Compiler γ} {k' : β → Compiler δ}
    (hc : Tied S R c c') (hk : ∀ a b, R a b → Tied S Q (k a) (k' b)) :
    Tied S Q (c >>= k) (c' >>= k') := by
  intro b b' hS
  rw [StateT.run_bind, StateT.run_bind]
  exact (hc hS).bind fun r r' ⟨hR, hS'⟩ => hk r.1 r'.1 hR hS'

/-- The two statements of a run each, from no values. -/
theorem statement_of_empty {T : String → String → Prop} (hempty : S .empty .empty)
    {c c' : Compiler String} (h : Tied S T c c') :
    Agree (fun s s' => T s.sql s'.sql ∧ S s.bindings s'.bindings) c.statement c'.statement := by
  have hrun := h hempty
  unfold Compiler.statement
  generalize c.run .empty = result at hrun
  generalize c'.run .empty = result' at hrun
  cases hrun with
  | ok hr => exact .ok hr
  | error e => exact .error e

/-- The statements of a sub-query each. -/
theorem nested_of_empty {T : String → String → Prop} (hempty : S .empty .empty)
    {c c' : Compiler String} (h : Tied S T c c') :
    Tied S (fun s s' => T s.sql s'.sql ∧ S s.bindings s'.bindings) (nested c) (nested c') := by
  have hstatement := statement_of_empty hempty h
  unfold Compiler.nested
  generalize c.statement = result at hstatement
  generalize c'.statement = result' at hstatement
  cases hstatement with
  | ok hs => exact .pure hs
  | error e => exact .throw _

theorem statement [IsBlind S] {c c' : Compiler String} (h : Alike S c c') :
    Agree (fun s s' => s.sql = s'.sql ∧ S s.bindings s'.bindings) c.statement c'.statement :=
  statement_of_empty (IsBlind.of_sameNames rfl) h

theorem nested [IsBlind S] {c c' : Compiler String} (h : Alike S c c') :
    Tied S (fun s s' => s.sql = s'.sql ∧ S s.bindings s'.bindings) (nested c) (nested c') :=
  nested_of_empty (IsBlind.of_sameNames rfl) h

/-- A check that is made by both. -/
theorem check {refused refused' : Bool} (hsame : refused = refused') {e : QueryError}
    {k : Unit → Compiler γ} {k' : Unit → Compiler δ} (hk : Tied S Q (k ()) (k' ())) :
    Tied S Q (if refused then MonadExcept.throw e >>= k else k ())
      (if refused' then MonadExcept.throw e >>= k' else k' ()) := by
  subst hsame
  cases refused with
  | false => exact hk
  | true =>
    have hthrow : Tied S Eq (MonadExcept.throw e : Compiler Unit) (MonadExcept.throw e) :=
      .throw e
    exact hthrow.bind fun _ _ _ => hk

/-- Several in a row give results that are related one by one. -/
theorem inSequence {T : String → String → Prop} {cs cs' : List (Compiler String)}
    (h : List.Forall₂ (Tied S T) cs cs') :
    Tied S (List.Forall₂ T) (inSequence cs) (inSequence cs') := by
  induction h with
  | nil => exact .pure .nil
  | cons hd _ ih =>
    refine hd.bind ?_
    intro text text' htext
    exact ih.bind fun _ _ htexts => .pure (.cons htext htexts)

end Tied

namespace Alike

variable {c c' : Compiler α} {k k' : α → Compiler β}

theorem bind (hc : Alike S c c') (hk : ∀ a, Alike S (k a) (k' a)) :
    Alike S (c >>= k) (c' >>= k') := by
  refine Tied.bind hc fun a a' ha => ?_
  subst ha
  exact hk a

theorem pure (a : α) : Alike S (Pure.pure a) (Pure.pure a) :=
  Tied.pure rfl

/-- A check that is made by both. -/
theorem check {refused : Bool} {e : QueryError} {k k' : Unit → Compiler β}
    (hk : Alike S (k ()) (k' ())) :
    Alike S (if refused then MonadExcept.throw e >>= k else k ())
      (if refused then MonadExcept.throw e >>= k' else k' ()) :=
  Tied.check rfl hk

theorem placeholder [IsBlind S] (v v' : Value) : Alike S (bindValue v) (bindValue v') :=
  fun _ _ hS => .ok ⟨rfl, IsBlind.push hS v v'⟩

theorem inline [IsBlind S] {s s' : Statement} (hsql : s.sql = s'.sql)
    (hbindings : S s.bindings s'.bindings) : Alike S (inline s) (inline s') :=
  fun _ _ hS => .ok ⟨hsql, IsBlind.merge hS hbindings⟩

theorem parenthesized [IsBlind S] {s s' : Statement} (hsql : s.sql = s'.sql)
    (hbindings : S s.bindings s'.bindings) : Alike S (parenthesized s) (parenthesized s') :=
  (inline hsql hbindings).bind fun _ => .pure _

theorem subquery [IsBlind S] {c c' : Compiler String} (h : Alike S c c') :
    Alike S (subquery c) (subquery c') :=
  (Tied.nested h).bind fun _ _ ⟨hsql, hbindings⟩ => parenthesized hsql hbindings

theorem inSequence {cs cs' : List (Compiler String)} (h : List.Forall₂ (Alike S) cs cs') :
    Alike S (inSequence cs) (inSequence cs') := by
  have htied := Tied.inSequence h
  rwa [List.forall₂_eq_eq_eq] at htied

theorem commaList {cs cs' : List (Compiler String)} (h : List.Forall₂ (Alike S) cs cs') :
    Alike S (commaList cs) (commaList cs') :=
  (inSequence h).bind fun _ => .pure _

theorem target (d : Dialect) (keyword : String) (missing : QueryError)
    {table table' : Option (Compiler String)} (h : Option.Rel (Alike S) table table')
    (aliasName : Option String) :
    Alike S (targetClause d keyword missing table aliasName)
      (targetClause d keyword missing table' aliasName) := by
  cases h with
  | none => exact .throw missing
  | some h => exact h.bind fun _ => .pure _

theorem rule (rule : String) : Alike S (requireRule rule) (requireRule rule) := by
  unfold requireRule
  split
  · exact .pure ()
  · exact .throw _

/-! ### Orders of listed values and windows -/

theorem caseBranches [IsBlind S] {vs vs' : List (Compiler String)}
    (h : List.Forall₂ (Alike S) vs vs') (rank : Nat) :
    Alike S (caseBranches rank vs) (caseBranches rank vs') := by
  induction h generalizing rank with
  | nil => exact .pure ""
  | cons hd _ ih =>
    refine hd.bind ?_
    intro _
    exact (placeholder _ _).bind fun _ => (ih (rank + 1)).bind fun _ => .pure _

theorem listedOrder [IsBlind S] (d : Dialect) {column column' : Compiler String}
    (hcolumn : Alike S column column') {values values' : List (Compiler String)}
    (hvalues : List.Forall₂ (Alike S) values values') (othersFirst : Bool) :
    Alike S (d.listedOrder column values othersFirst)
      (d.listedOrder column' values' othersFirst) := by
  have ranked : Alike S (caseOrder column values othersFirst)
      (caseOrder column' values' othersFirst) := by
    refine hcolumn.bind fun _ => (caseBranches hvalues 0).bind ?_
    intro _
    exact (placeholder _ _).bind fun _ => .pure _
  have listed : Alike S (fieldOrder column values othersFirst)
      (fieldOrder column' values' othersFirst) := by
    have hlist := forall₂_turned hvalues othersFirst
    exact hcolumn.bind fun _ => (commaList hlist).bind fun _ => .pure _
  cases d with
  | mysql => exact listed
  | common => exact ranked
  | sqlite => exact ranked

theorem boundPart (keyword : String) {bound bound' : Option (Compiler String)}
    (h : Option.Rel (Alike S) bound bound') :
    Alike S (boundPart keyword bound) (boundPart keyword bound') := by
  cases h with
  | none => exact .pure []
  | some h => exact h.bind fun _ => .pure _

theorem limitFirst (unbounded : String) {offset offset' limit limit' : Option (Compiler String)}
    (hoffset : Option.Rel (Alike S) offset offset') (hlimit : Option.Rel (Alike S) limit limit') :
    Alike S (limitFirst unbounded offset limit) (limitFirst unbounded offset' limit') := by
  have hlimitPart := boundPart "LIMIT" hlimit
  have hoffsetPart := boundPart "OFFSET" hoffset
  cases hlimit with
  | some hlimit => exact hlimitPart.bind fun _ => hoffsetPart.bind fun _ => .pure _
  | none =>
    cases hoffset with
    | none => exact hlimitPart.bind fun _ => hoffsetPart.bind fun _ => .pure _
    | some hoffset =>
      have hunbounded : Alike S (Pure.pure ["LIMIT " ++ unbounded]) _ := .pure _
      exact hunbounded.bind fun _ => hoffsetPart.bind fun _ => .pure _

theorem window (d : Dialect) {offset offset' limit limit' : Option (Compiler String)}
    (hoffset : Option.Rel (Alike S) offset offset') (hlimit : Option.Rel (Alike S) limit limit') :
    Alike S (d.window offset limit) (d.window offset' limit') := by
  cases d with
  | common =>
    exact (boundPart "OFFSET" hoffset).bind fun _ =>
      (boundPart "LIMIT" hlimit).bind fun _ => .pure _
  | mysql => exact limitFirst _ hoffset hlimit
  | sqlite => exact limitFirst _ hoffset hlimit

theorem clauseParts {criteria criteria' : Compiler Clause} (hcriteria : Alike S criteria criteria')
    {orders orders' : List (Compiler String)} (horders : List.Forall₂ (Alike S) orders orders')
    {window window' : Compiler (List String)} (hwindow : Alike S window window') :
    Alike S (clauseParts criteria orders window) (clauseParts criteria' orders' window') :=
  hcriteria.bind fun _ => (inSequence horders).bind fun _ => hwindow.bind fun _ => .pure _

end Alike

end Compiler

end SqlTree
