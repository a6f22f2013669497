/-!
# Conditions as expressions

The grammar that SQL reads a condition by: NOT binds more tightly than AND
and AND more tightly than OR, and parentheses stand where they are written.
Its atoms are texts that are taken as a whole.

An expression is written as a list of tokens, and it is the only one that
is written so (`Disjunction.eq_of_tokens_eq`).  So a text whose tokens are
known has one reading.
-/

set_option autoImplicit false

namespace SqlTree

/-- A test that is not made of others: where it stands, and its text.  The
path has the positions in the lists around it, the innermost first. -/
structure Atom where
  path : List Nat
  sql : String
deriving DecidableEq

/-- What a condition is written with. -/
inductive Token where
  | atom (atom : Atom)
  | not
  | and
  | or
  | opening
  | closing
deriving DecidableEq

/-- The text of a token. -/
def Token.text : Token → String
  | .atom a => a.sql
  | .not => "NOT "
  | .and => " AND "
  | .or => " OR "
  | .opening => "("
  | .closing => ")"

/-- The atom of a token that is one. -/
def Token.atom? : Token → Option Atom
  | .atom a => some a
  | _ => none

/-- The text of tokens, one after the other. -/
def tokensText : List Token → String
  | [] => ""
  | t :: ts => t.text ++ tokensText ts

theorem tokensText_append (ts us : List Token) :
    tokensText (ts ++ us) = tokensText ts ++ tokensText us := by
  induction ts with
  | nil => simp [tokensText]
  | cons t ts ih => rw [List.cons_append, tokensText, ih, tokensText, String.append_assoc]

/-! ## The grammar -/

mutual

/-- What AND joins. -/
inductive Factor where
  | atom (atom : Atom)
  | not (factor : Factor)
  | group (inner : Disjunction)

/-- Factors with AND between them. -/
inductive Conjunction where
  | single (factor : Factor)
  | and (factor : Factor) (rest : Conjunction)

/-- Conjunctions with OR between them. -/
inductive Disjunction where
  | single (conjunction : Conjunction)
  | or (conjunction : Conjunction) (rest : Disjunction)

end

mutual

/-- How a factor is written. -/
def Factor.tokens : Factor → List Token
  | .atom a => [.atom a]
  | .not f => .not :: f.tokens
  | .group e => .opening :: (e.tokens ++ [.closing])

def Conjunction.tokens : Conjunction → List Token
  | .single f => f.tokens
  | .and f rest => f.tokens ++ .and :: rest.tokens

def Disjunction.tokens : Disjunction → List Token
  | .single c => c.tokens
  | .or c rest => c.tokens ++ .or :: rest.tokens

end

section

variable (truth : Atom → Bool)

mutual

/-- The value of a factor, from the values of the atoms. -/
def Factor.eval : Factor → Bool
  | .atom a => truth a
  | .not f => !f.eval
  | .group e => e.eval

def Conjunction.eval : Conjunction → Bool
  | .single f => f.eval
  | .and f rest => f.eval && rest.eval

def Disjunction.eval : Disjunction → Bool
  | .single c => c.eval
  | .or c rest => c.eval || rest.eval

end

end

/-- The atoms of an expression, from left to right. -/
def Disjunction.atoms (e : Disjunction) : List Atom :=
  e.tokens.filterMap Token.atom?

/-- The atoms of a factor, from left to right. -/
def Factor.atoms (f : Factor) : List Atom :=
  f.tokens.filterMap Token.atom?

/-- The text of an expression. -/
def Disjunction.text (e : Disjunction) : String :=
  tokensText e.tokens

/-- The text of a factor. -/
def Factor.text (f : Factor) : String :=
  tokensText f.tokens

/-! ## One reading -/

mutual

/-- A factor ends where it ends: nothing after it can belong to it. -/
theorem Factor.eq_of_tokens_append : ∀ (f f' : Factor) {r r' : List Token},
    f.tokens ++ r = f'.tokens ++ r' → f = f' ∧ r = r'
  | .atom a, f', r, r', h => by
    cases f' <;> simp only [Factor.tokens, List.cons_append, List.nil_append, List.append_assoc,
      List.cons.injEq, Token.atom.injEq, reduceCtorEq, false_and] at h
    case atom a' =>
      obtain ⟨rfl, rfl⟩ := h
      exact ⟨rfl, rfl⟩
  | .not f, f', r, r', h => by
    cases f' <;> simp only [Factor.tokens, List.cons_append, List.nil_append, List.append_assoc,
      List.cons.injEq, reduceCtorEq, false_and, true_and] at h
    case not f' =>
      obtain ⟨rfl, rfl⟩ := Factor.eq_of_tokens_append f f' h
      exact ⟨rfl, rfl⟩
  | .group e, f', r, r', h => by
    cases f' <;> simp only [Factor.tokens, List.cons_append, List.nil_append, List.append_assoc,
      List.cons.injEq, reduceCtorEq, false_and, true_and] at h
    case group e' =>
      obtain ⟨rfl, hrest⟩ :=
        Disjunction.eq_of_tokens_append e e' (by simp) (by simp) (by simp) (by simp) h
      exact ⟨rfl, (List.cons.inj hrest).2⟩

/-- A conjunction goes on as long as there is an AND. -/
theorem Conjunction.eq_of_tokens_append : ∀ (c c' : Conjunction) {r r' : List Token},
    r.head? ≠ some .and → r'.head? ≠ some .and →
    c.tokens ++ r = c'.tokens ++ r' → c = c' ∧ r = r'
  | .single f, .single f', r, r', _, _, h => by
    obtain ⟨rfl, rfl⟩ := Factor.eq_of_tokens_append f f' h
    exact ⟨rfl, rfl⟩
  | .single f, .and f' rest', r, r', hr, _, h => by
    rw [Conjunction.tokens, Conjunction.tokens, List.append_assoc] at h
    obtain ⟨-, rfl⟩ := Factor.eq_of_tokens_append f f' h
    exact absurd rfl hr
  | .and f rest, .single f', r, r', _, hr', h => by
    rw [Conjunction.tokens, Conjunction.tokens, List.append_assoc] at h
    obtain ⟨-, rfl⟩ := Factor.eq_of_tokens_append f f' h
    exact absurd rfl hr'
  | .and f rest, .and f' rest', r, r', hr, hr', h => by
    rw [Conjunction.tokens, Conjunction.tokens, List.append_assoc, List.append_assoc] at h
    obtain ⟨rfl, hrest⟩ := Factor.eq_of_tokens_append f f' h
    obtain ⟨rfl, rfl⟩ :=
      Conjunction.eq_of_tokens_append rest rest' hr hr' (List.cons.inj hrest).2
    exact ⟨rfl, rfl⟩

/-- A disjunction goes on as long as there is an AND or an OR. -/
theorem Disjunction.eq_of_tokens_append : ∀ (e e' : Disjunction) {r r' : List Token},
    r.head? ≠ some .and → r'.head? ≠ some .and →
    r.head? ≠ some .or → r'.head? ≠ some .or →
    e.tokens ++ r = e'.tokens ++ r' → e = e' ∧ r = r'
  | .single c, .single c', r, r', hr, hr', _, _, h => by
    obtain ⟨rfl, rfl⟩ := Conjunction.eq_of_tokens_append c c' hr hr' h
    exact ⟨rfl, rfl⟩
  | .single c, .or c' rest', r, r', hr, _, ho, _, h => by
    rw [Disjunction.tokens, Disjunction.tokens, List.append_assoc] at h
    obtain ⟨-, rfl⟩ := Conjunction.eq_of_tokens_append c c' hr (by simp) h
    exact absurd rfl ho
  | .or c rest, .single c', r, r', _, hr', _, ho', h => by
    rw [Disjunction.tokens, Disjunction.tokens, List.append_assoc] at h
    obtain ⟨-, rfl⟩ := Conjunction.eq_of_tokens_append c c' (by simp) hr' h
    exact absurd rfl ho'
  | .or c rest, .or c' rest', r, r', hr, hr', ho, ho', h => by
    rw [Disjunction.tokens, Disjunction.tokens, List.append_assoc, List.append_assoc] at h
    obtain ⟨rfl, hrest⟩ := Conjunction.eq_of_tokens_append c c' (by simp) (by simp) h
    obtain ⟨rfl, rfl⟩ :=
      Disjunction.eq_of_tokens_append rest rest' hr hr' ho ho' (List.cons.inj hrest).2
    exact ⟨rfl, rfl⟩

end

/-- Tokens are read in one way at most. -/
theorem Disjunction.eq_of_tokens_eq {e e' : Disjunction} (h : e.tokens = e'.tokens) : e = e' := by
  have happend : e.tokens ++ [] = e'.tokens ++ [] := by rw [h]
  exact (e.eq_of_tokens_append e' (by simp) (by simp) (by simp) (by simp) happend).1

/-! ## Adding a factor at the end -/

/-- A conjunction with a further factor. -/
def Conjunction.snoc : Conjunction → Factor → Conjunction
  | .single f, g => .and f (.single g)
  | .and f rest, g => .and f (rest.snoc g)

theorem Conjunction.tokens_snoc (g : Factor) : ∀ c : Conjunction,
    (c.snoc g).tokens = c.tokens ++ .and :: g.tokens
  | .single f => rfl
  | .and f rest => by
    rw [Conjunction.snoc, Conjunction.tokens, Conjunction.tokens_snoc g rest, Conjunction.tokens,
      List.append_assoc]
    rfl

theorem Conjunction.eval_snoc (truth : Atom → Bool) (g : Factor) : ∀ c : Conjunction,
    (c.snoc g).eval truth = (c.eval truth && g.eval truth)
  | .single f => rfl
  | .and f rest => by
    rw [Conjunction.snoc, Conjunction.eval, Conjunction.eval_snoc truth g rest, Conjunction.eval,
      Bool.and_assoc]

/-- A disjunction with a further factor as its last conjunction. -/
def Disjunction.snoc : Disjunction → Factor → Disjunction
  | .single c, g => .or c (.single (.single g))
  | .or c rest, g => .or c (rest.snoc g)

theorem Disjunction.tokens_snoc (g : Factor) : ∀ e : Disjunction,
    (e.snoc g).tokens = e.tokens ++ .or :: g.tokens
  | .single c => rfl
  | .or c rest => by
    rw [Disjunction.snoc, Disjunction.tokens, Disjunction.tokens_snoc g rest, Disjunction.tokens,
      List.append_assoc]
    rfl

theorem Disjunction.eval_snoc (truth : Atom → Bool) (g : Factor) : ∀ e : Disjunction,
    (e.snoc g).eval truth = (e.eval truth || g.eval truth)
  | .single c => rfl
  | .or c rest => by
    rw [Disjunction.snoc, Disjunction.eval, Disjunction.eval_snoc truth g rest, Disjunction.eval,
      Bool.or_assoc]

/-! ## Texts and atoms of joined expressions -/

theorem Factor.text_group (e : Disjunction) : (Factor.group e).text = "(" ++ e.text ++ ")" := by
  rw [text, tokens, tokensText, tokensText_append, ← String.append_assoc]
  exact congrArg (_ ++ ·) String.append_empty

theorem Factor.atoms_group (e : Disjunction) : (Factor.group e).atoms = e.atoms := by
  rw [atoms, tokens, List.filterMap_cons, List.filterMap_append]
  exact List.append_nil _

/-- An expression in parentheses, with a further factor. -/
def Disjunction.wrapAnd (e : Disjunction) (g : Factor) : Disjunction :=
  .single (.and (.group e) (.single g))

theorem Disjunction.tokens_wrapAnd (e : Disjunction) (g : Factor) :
    (e.wrapAnd g).tokens = .opening :: (e.tokens ++ .closing :: .and :: g.tokens) := by
  simp [wrapAnd, Disjunction.tokens, Conjunction.tokens, Factor.tokens]

theorem Disjunction.text_wrapAnd (e : Disjunction) (g : Factor) :
    (e.wrapAnd g).text = "(" ++ e.text ++ ") AND " ++ g.text := by
  have hjoint : ")" ++ (" AND " ++ g.text) = ") AND " ++ g.text := by
    rw [← String.append_assoc]
    rfl
  rw [text, tokens_wrapAnd, tokensText, tokensText_append, tokensText, tokensText]
  show "(" ++ (e.text ++ (")" ++ (" AND " ++ g.text))) = _
  rw [hjoint, ← String.append_assoc, ← String.append_assoc]

theorem Disjunction.text_snoc (e : Disjunction) (g : Factor) :
    (e.snoc g).text = e.text ++ " OR " ++ g.text := by
  rw [text, tokens_snoc, tokensText_append, tokensText, ← String.append_assoc]
  rfl

theorem Conjunction.text_snoc (c : Conjunction) (g : Factor) :
    (Disjunction.single (c.snoc g)).text = (Disjunction.single c).text ++ " AND " ++ g.text := by
  rw [Disjunction.text, Disjunction.tokens, tokens_snoc, tokensText_append, tokensText,
    ← String.append_assoc]
  rfl

theorem Disjunction.atoms_wrapAnd (e : Disjunction) (g : Factor) :
    (e.wrapAnd g).atoms = e.atoms ++ g.atoms := by
  rw [atoms, tokens_wrapAnd, List.filterMap_cons, List.filterMap_append]
  rfl

theorem Disjunction.atoms_snoc (e : Disjunction) (g : Factor) :
    (e.snoc g).atoms = e.atoms ++ g.atoms := by
  rw [atoms, tokens_snoc, List.filterMap_append]
  rfl

theorem Conjunction.atoms_snoc (c : Conjunction) (g : Factor) :
    (Disjunction.single (c.snoc g)).atoms = (Disjunction.single c).atoms ++ g.atoms := by
  rw [Disjunction.atoms, Disjunction.tokens, tokens_snoc, List.filterMap_append]
  rfl

end SqlTree
