import SqlTree.Proofs.Compile.Run
import SqlTree.Proofs.Faults.Acceptance
import SqlTree.Proofs.Tree.Sites

/-!
# The values that a SELECT binds

What stands at a site of a tree brings values: a scalar is one, a text has
its positional ones, a test has the constants that it is written with, and an
order of listed values has the ranks that CASE gives to them.  FIELD needs no
ranks, and binds none.

A compiler binds the values of the sites of its tree and no others, in one
order or another (`Query.compileSelect_binds`).  The sites are taken as
SQLite comes across them: the dialects come across the same sites, and what
they differ in is the order of them and the ranks.
-/

set_option autoImplicit false
set_option linter.unusedSectionVars false

namespace SqlTree

open Compiler

/-! ## The values of a site -/

/-- The constants that a test is written with: the character that escapes in
patterns, and the outcome of a membership test without members. -/
def Criterion.constants : Criterion → List Value
  | .value _ rule v _ => if isPatternRule rule && v.isTextual then [escapeChar] else []
  | .member _ vs negated _ => if vs.isEmpty then [.int (if negated then 1 else 0)] else []
  | .columns .. | .between .. | .group .. | .exists .. | .null .. | .raw .. => []

/-- The ranks of listed values, from zero on, and that of all others. -/
def listedRanks (count : Nat) (othersFirst : Bool) : List Value :=
  (List.range count).map .ofRank ++ [otherRank count othersFirst]

/-- The ranks that CASE gives. -/
def Order.ranks : Order → List Value
  | .explicit _ vs othersFirst => if vs.isEmpty then [] else listedRanks vs.length othersFirst
  | .column .. | .nulls .. | .random => []

/-- Ranks are bound where listed values are sorted by rank. -/
def Dialect.boundRanks (d : Dialect) (ranks : List Value) : List Value :=
  match d with
  | .mysql => []
  | .common | .sqlite => ranks

/-- The ranks that CASE gives at a node. -/
def Node.ranks : Node → List Value
  | .order o => o.ranks
  | .query _ | .test _ | .value _ | .text _ => []

/-- The values that are bound for a node itself. -/
def Node.values (d : Dialect) : Node → List Value
  | .query _ => []
  | .test c => c.constants
  | .order o => d.boundRanks o.ranks
  | .value v => [v]
  | .text s => s.bindings.positional

theorem Dialect.boundRanks_nil (d : Dialect) : d.boundRanks [] = [] := by
  cases d <;> rfl

/-- An item of an order without ranks binds nothing itself. -/
theorem Order.values_of_ranks (d : Dialect) {o : Order} (h : o.ranks = []) :
    (Node.order o).values d = [] := by
  rw [Node.values, h, d.boundRanks_nil]

/-- The values that are bound at the sites. -/
def boundAt (d : Dialect) (sites : List Site) : List Value :=
  sites.flatMap fun site => site.node.values d

section

variable (d : Dialect)

theorem boundAt_cons (site : Site) (sites : List Site) :
    boundAt d (site :: sites) = site.node.values d ++ boundAt d sites :=
  rfl

theorem boundAt_append (sites sites' : List Site) :
    boundAt d (sites ++ sites') = boundAt d sites ++ boundAt d sites' :=
  List.flatMap_append

theorem boundAt_flatten (parts : List (List Site)) :
    boundAt d parts.flatten = (parts.map (boundAt d)).flatten := by
  induction parts with
  | nil => rfl
  | cons sites parts ih =>
    rw [List.flatten_cons, boundAt_append, ih, List.map_cons, List.flatten_cons]

end

/-! ## Compilers that bind values -/

namespace Compiler

variable {α β : Type}

/-- A run of the compiler binds the values, in one order or another. -/
abbrev Binds (vs : List Value) (c : Compiler α) : Prop :=
  Collects (fun _ bound => bound.Perm vs) c

namespace Binds

variable {vs ws : List Value}

theorem pure (a : α) : Binds [] (Pure.pure a : Compiler α) :=
  CollectsFrom.pure .nil

theorem throw (e : QueryError) : Binds vs (MonadExcept.throw e : Compiler α) :=
  CollectsFrom.throw e

/-- The order of the values makes no difference. -/
theorem of_perm {c : Compiler α} (hc : Binds vs c) (h : vs.Perm ws) : Binds ws c :=
  hc.mono fun _ _ hbound => hbound.trans h

theorem bind {c : Compiler α} {k : α → Compiler β} (hc : Binds vs c)
    (hk : ∀ a, Binds ws (k a)) : Binds (vs ++ ws) (c >>= k) := by
  intro b r b'' base hb hrun
  obtain ⟨a, b', ha, hr⟩ := run_bind_eq_ok hrun
  obtain ⟨bound, hbound, hvs⟩ := hc base hb ha
  obtain ⟨bound', hbound', hws⟩ := hk a (base ++ bound) (by rw [hbound, List.append_nil]) hr
  exact ⟨bound ++ bound', by rw [hbound', List.append_assoc], hvs.append hws⟩

/-- What is returned makes no difference. -/
theorem of_pure {a : α} (h : Binds vs (Pure.pure a : Compiler α)) (a' : β) :
    Binds vs (Pure.pure a' : Compiler β) := by
  intro b r b' base hb hrun
  obtain ⟨-, rfl⟩ := run_pure_eq_ok hrun
  exact h base hb rfl

/-- What is returned in the end binds nothing. -/
theorem returning {c : Compiler α} (hc : Binds vs c) (f : α → β) :
    Binds vs (c >>= fun a => Pure.pure (f a)) := by
  rw [← List.append_nil vs]
  exact hc.bind fun a => .pure (f a)

theorem placeholder (v : Value) : Binds [v] (bindValue v) :=
  bindValue_collects v (.refl _)

theorem inline (s : Statement) : Binds s.bindings.positional (inline s) :=
  inline_collects s (.refl _)

theorem parenthesized (s : Statement) : Binds s.bindings.positional (parenthesized s) :=
  (inline s).returning _

/-- A sub-query binds what its statement holds. -/
theorem subquery {c : Compiler String} (hc : Binds vs c) : Binds vs (subquery c) := by
  refine CollectsFrom.bind (nested_collects hc) ?_
  rintro s _ ⟨rfl, hs⟩
  exact (parenthesized s).of_perm hs

theorem rule (rule : String) : Binds [] (requireRule rule) := by
  unfold requireRule
  split
  · exact .pure ()
  · exact .throw _

theorem inSequence {vss : List (List Value)} {cs : List (Compiler String)}
    (h : List.Forall₂ Binds vss cs) : Binds vss.flatten (inSequence cs) := by
  induction h with
  | nil => exact .pure []
  | cons hd _ ih => exact hd.bind fun text => ih.returning (text :: ·)

theorem commaList {vss : List (List Value)} {cs : List (Compiler String)}
    (h : List.Forall₂ Binds vss cs) : Binds vss.flatten (commaList cs) :=
  (inSequence h).returning _

/-! ### Orders of listed values -/

/-- Each branch binds its value and then its rank. -/
theorem caseBranches {vss : List (List Value)} {values : List (Compiler String)}
    (h : List.Forall₂ Binds vss values) (rank : Nat) :
    Binds (vss.flatten ++ (List.range' rank values.length).map .ofRank)
      (caseBranches rank values) := by
  induction h generalizing rank with
  | nil => exact .pure ""
  | @cons vs c vss cs hd _ ih =>
    have hbranches : Binds
        (vs ++ ([.ofRank rank] ++ (vss.flatten ++ (List.range' (rank + 1) cs.length).map .ofRank)))
        (SqlTree.caseBranches rank (c :: cs)) := by
      refine hd.bind ?_
      intro value
      exact (placeholder _).bind fun _ => (ih (rank + 1)).returning _
    refine hbranches.of_perm ?_
    rw [List.flatten_cons, List.append_assoc, List.length_cons, List.range'_succ, List.map_cons,
      List.singleton_append]
    exact List.perm_middle.symm.append_left vs

theorem listedOrder (d : Dialect) {column : Compiler String} (hcolumn : Binds vs column)
    {vss : List (List Value)} {values : List (Compiler String)}
    (hvalues : List.Forall₂ Binds vss values) (othersFirst : Bool) :
    Binds (d.boundRanks (listedRanks values.length othersFirst) ++ (vs ++ vss.flatten))
      (d.listedOrder column values othersFirst) := by
  have ranked : Binds (listedRanks values.length othersFirst ++ (vs ++ vss.flatten))
      (caseOrder column values othersFirst) := by
    have hcase : Binds (vs ++ ((vss.flatten ++ (List.range' 0 values.length).map .ofRank)
        ++ [otherRank values.length othersFirst])) (caseOrder column values othersFirst) := by
      refine hcolumn.bind fun _ => (caseBranches hvalues 0).bind ?_
      intro branches
      exact (placeholder _).returning _
    refine hcase.of_perm ?_
    rw [List.append_assoc, ← List.append_assoc vs, ← List.range_eq_range']
    exact List.perm_append_comm
  have positioned : Binds (vs ++ vss.flatten) (fieldOrder column values othersFirst) := by
    have hlist : Binds vss.flatten
        (Compiler.commaList (if othersFirst then values else values.reverse)) :=
      (commaList (forall₂_turned hvalues othersFirst)).of_perm
        (Dialect.listed_perm .mysql othersFirst vss).flatten
    exact hcolumn.bind fun _ => hlist.returning _
  cases d with
  | mysql => exact positioned
  | common => exact ranked
  | sqlite => exact ranked

/-! ### Windows and clauses -/

/-- Two bounds, one after the other. -/
theorem bothBounds {first second : Compiler (List String)} (hfirst : Binds vs first)
    (hsecond : Binds ws second) :
    Binds (vs ++ ws) (do let l ← first; let o ← second; return l ++ o) :=
  hfirst.bind fun _ => hsecond.returning _

theorem window (d : Dialect) {offset limit : Option (Compiler String)}
    (hoffset : ∀ keyword, Binds vs (boundPart keyword offset))
    (hlimit : ∀ keyword, Binds ws (boundPart keyword limit)) :
    Binds (ws ++ vs) (d.window offset limit) := by
  have limited (unbounded : String) : Binds (ws ++ vs) (limitFirst unbounded offset limit) := by
    obtain ⟨first, heq, rfl | ⟨rfl, rfl⟩⟩ := exists_limitFirst_eq unbounded offset limit
    · rw [heq]
      exact bothBounds (hlimit "LIMIT") (hoffset "OFFSET")
    · have hunbounded : Binds ws (Pure.pure ["LIMIT " ++ unbounded]) := (hlimit "LIMIT").of_pure _
      rw [heq]
      exact bothBounds hunbounded (hoffset "OFFSET")
  have unlimited : Binds (vs ++ ws) (offsetFirst offset limit) :=
    bothBounds (hoffset "OFFSET") (hlimit "LIMIT")
  cases d with
  | common => exact unlimited.of_perm List.perm_append_comm
  | mysql => exact limited _
  | sqlite => exact limited _

theorem clauseParts {criteria : Compiler Clause} (hcriteria : Binds vs criteria)
    {vss : List (List Value)} {orders : List (Compiler String)}
    (horders : List.Forall₂ Binds vss orders) {window : Compiler (List String)}
    (hwindow : Binds ws window) :
    Binds (vs ++ (vss.flatten ++ ws)) (clauseParts criteria orders window) :=
  hcriteria.bind fun _ => (inSequence horders).bind fun _ => hwindow.returning _

end Binds

end Compiler

/-! ## A tree binds the values of its sites -/

variable (d : Dialect)

theorem Statement.parenthesized_binds (depth : Nat) (s : Statement) :
    Binds (boundAt d [⟨depth, .text s⟩]) (Compiler.parenthesized s) := by
  have hvalues : boundAt d [⟨depth, .text s⟩] = s.bindings.positional := by
    simp [boundAt, Node.values]
  rw [hvalues]
  exact .parenthesized s

theorem Expression.compile_binds (depth : Nat) (e : Expression) :
    Binds (boundAt d [⟨depth, .text e.toStatement⟩]) e.compile :=
  e.toStatement.parenthesized_binds d depth

theorem Operand.compileAll_length (vs : List Operand) :
    (Operand.compileAll d vs).length = vs.length := by
  induction vs with
  | nil => rfl
  | cons v vs ih => simp [Operand.compileAll, ih]

mutual

theorem Column.compile_binds (depth : Nat) : ∀ c : Column,
    Binds (boundAt d (c.sites .sqlite depth)) (c.compile d)
  | .name _ => .pure _
  | .query q => .subquery (q.compileSelect_binds (depth + 1))
  | .expr e => e.compile_binds d depth

theorem Operand.compile_binds (depth : Nat) : ∀ o : Operand,
    Binds (boundAt d (o.sites .sqlite depth)) (o.compile d)
  | .value v => .placeholder v
  | .query q => .subquery (q.compileSelect_binds (depth + 1))
  | .expr e => e.compile_binds d depth

theorem Operand.compileAll_binds (depth : Nat) : ∀ os : List Operand,
    List.Forall₂ Binds ((Operand.sitesAll .sqlite depth os).map (boundAt d))
      (Operand.compileAll d os)
  | [] => .nil
  | o :: os => .cons (o.compile_binds depth) (Operand.compileAll_binds depth os)

/-- A bound of a window. -/
theorem Operand.boundPart_binds (depth : Nat) (keyword : String) : ∀ o : Option Operand,
    Binds (boundAt d (Operand.sitesSlot .sqlite depth o))
      (boundPart keyword (Operand.compileOption d o))
  | none => .pure []
  | some o => (o.compile_binds depth).returning _

theorem Table.compile_binds (depth : Nat) : ∀ t : Table,
    Binds (boundAt d (t.sites .sqlite depth)) (t.compile d)
  | .name _ => .pure _
  | .query q => .subquery (q.compileSelect_binds (depth + 1))
  | .raw s => s.parenthesized_binds d depth

/-- The table of a SELECT. -/
theorem Table.target_binds (depth : Nat) (aliasName : Option String) : ∀ t : Option Table,
    Binds (boundAt d (Table.sitesSlot .sqlite depth t))
      (targetClause d "FROM" .noFromTable (Table.compileOption d t) aliasName)
  | none => .throw _
  | some t => (t.compile_binds depth).returning _

theorem Subquery.compile_binds (depth : Nat) : ∀ s : Subquery,
    Binds (boundAt d (s.sites .sqlite depth)) (s.compile d)
  | .query q => .subquery (q.compileSelect_binds (depth + 1))
  | .raw s => s.parenthesized_binds d depth

theorem Members.compile_binds (depth : Nat) : ∀ vs : Members,
    Binds (boundAt d (vs.sites .sqlite depth)) (vs.compile d)
  | .list vs => by
    unfold Members.sites
    rw [boundAt_flatten]
    exact (Binds.commaList (Operand.compileAll_binds depth vs)).returning _
  | .select s => s.compile_binds depth

theorem Aggregate.compile_binds (depth : Nat) : ∀ a : Aggregate,
    Binds (boundAt d (a.sites .sqlite depth)) (a.compile d)
  | ⟨_, c⟩ => (c.compile_binds depth).returning _

theorem Selectable.compile_binds (depth : Nat) : ∀ s : Selectable,
    Binds (boundAt d (s.sites .sqlite depth)) (s.compile d)
  | .column c => c.compile_binds depth
  | .aggregate a => a.compile_binds depth

theorem SelectItem.compile_binds (depth : Nat) : ∀ item : SelectItem,
    Binds (boundAt d (item.sites .sqlite depth)) (item.compile d)
  | ⟨_, s⟩ => (s.compile_binds depth).returning _

theorem SelectItem.compileAll_binds (depth : Nat) : ∀ items : List SelectItem,
    List.Forall₂ Binds ((SelectItem.sitesAll .sqlite depth items).map (boundAt d))
      (SelectItem.compileAll d items)
  | [] => .nil
  | item :: items => .cons (item.compile_binds depth) (SelectItem.compileAll_binds depth items)

theorem Criterion.compile_binds (depth : Nat) : ∀ c : Criterion,
    Binds (boundAt d (c.sites .sqlite depth)) (c.compile d)
  | .value c rule v append => by
    unfold Criterion.sites
    rw [boundAt_cons, boundAt_append]
    -- the escaping character is bound last
    have htest : Binds (boundAt d (c.sites .sqlite depth) ++ (boundAt d (v.sites .sqlite depth)
        ++ (Criterion.value c rule v append).constants))
        ((Criterion.value c rule v append).compile d) := by
      refine (Binds.rule rule).bind fun _ => (c.compile_binds depth).bind fun _ =>
        (v.compile_binds depth).bind fun _ => ?_
      unfold Criterion.constants
      dsimp only
      cases isPatternRule rule && v.isTextual with
      | true => exact (Binds.placeholder escapeChar).returning _
      | false => exact .pure _
    refine htest.of_perm ?_
    rw [← List.append_assoc]
    exact List.perm_append_comm
  | .columns l rule r append => by
    unfold Criterion.sites
    rw [boundAt_cons, boundAt_append]
    exact (Binds.rule rule).bind fun _ => (l.compile_binds depth).bind fun _ =>
      (r.compile_binds depth).returning _
  | .between c low high negated append => by
    unfold Criterion.sites
    rw [boundAt_cons, boundAt_append, boundAt_append]
    exact (c.compile_binds depth).bind fun _ => (low.compile_binds depth).bind fun _ =>
      (high.compile_binds depth).returning _
  | .group cs negated append => (Criterion.compileAll_binds depth cs .empty).returning _
  | .exists s negated append => (s.compile_binds depth).returning _
  | .member c vs negated append => by
    unfold Criterion.sites Criterion.compile
    rw [boundAt_cons, Node.values, Criterion.constants]
    dsimp only
    cases vs.isEmpty with
    | true => exact .placeholder _
    | false =>
      rw [if_neg Bool.false_ne_true, if_neg Bool.false_ne_true, if_neg Bool.false_ne_true,
        List.nil_append, boundAt_append]
      exact (c.compile_binds depth).bind fun _ => (vs.compile_binds depth).returning _
  | .null c isNull append => (c.compile_binds depth).returning _
  | .raw s append => by
    unfold Criterion.sites
    exact (Binds.inline s).of_perm (by simp [boundAt, Node.values, Criterion.constants])

theorem Criterion.compileAll_binds (depth : Nat) : ∀ (cs : List Criterion) (clause : Clause),
    Binds (boundAt d (Criterion.sitesAll .sqlite depth cs)) (Criterion.compileAll d clause cs)
  | [], clause => .pure clause
  | c :: cs, clause => by
    unfold Criterion.sitesAll
    rw [boundAt_append]
    exact (c.compile_binds depth).bind fun test =>
      Criterion.compileAll_binds depth cs (clause.append c.appendRule test)

theorem Order.compile_binds (depth : Nat) : ∀ o : Order,
    Binds (boundAt d (o.sites .sqlite depth)) (o.compile d)
  | .column c _ => by
    unfold Order.sites
    rw [boundAt_cons, Order.values_of_ranks d rfl]
    exact (c.compile_binds depth).returning _
  | .nulls c _ => by
    unfold Order.sites
    rw [boundAt_cons, Order.values_of_ranks d rfl]
    exact (c.compile_binds depth).returning _
  | .explicit c vs othersFirst => by
    unfold Order.sites Order.compile
    rw [boundAt_cons, Node.values, Order.ranks]
    dsimp only
    cases vs.isEmpty with
    | true =>
      rw [if_pos rfl, if_pos rfl, if_pos rfl, d.boundRanks_nil]
      exact .pure ""
    | false =>
      rw [if_neg Bool.false_ne_true, if_neg Bool.false_ne_true, if_neg Bool.false_ne_true,
        boundAt_append, Dialect.listed, boundAt_flatten, ← Operand.compileAll_length d vs]
      exact .listedOrder d (c.compile_binds depth) (Operand.compileAll_binds depth vs) othersFirst
  | .random => by
    unfold Order.sites
    rw [boundAt_cons, Order.values_of_ranks d rfl]
    exact .pure _

theorem Order.compileAll_binds (depth : Nat) : ∀ os : List Order,
    List.Forall₂ Binds ((Order.sitesAll .sqlite depth os).map (boundAt d))
      (Order.compileAll d os)
  | [] => .nil
  | o :: os => .cons (o.compile_binds depth) (Order.compileAll_binds depth os)

theorem Join.compile_binds (depth : Nat) : ∀ j : Join,
    Binds (boundAt d (j.sites .sqlite depth)) (j.compile d)
  | ⟨_, t, _, cs⟩ => by
    unfold Join.sites
    rw [boundAt_append]
    exact (t.compile_binds depth).bind fun _ =>
      (Criterion.compileAll_binds depth cs .empty).returning _

theorem Join.compileAll_binds (depth : Nat) : ∀ js : List Join,
    List.Forall₂ Binds ((Join.sitesAll .sqlite depth js).map (boundAt d))
      (Join.compileAll d js)
  | [] => .nil
  | j :: js => .cons (j.compile_binds depth) (Join.compileAll_binds depth js)

/-- A SELECT binds the values of its sites, in one order or another. -/
theorem Query.compileSelect_binds (depth : Nat) : ∀ q : Query,
    Binds (boundAt d (q.sites .sqlite depth)) (q.compileSelect d)
  | ⟨table, aliasName, items, _, _, _, joins, criteria, order, offset, limit⟩ => by
    unfold Query.sites Dialect.inWindow
    rw [boundAt_append, boundAt_flatten, List.cons_append, boundAt_cons, boundAt_append,
      boundAt_append, boundAt_flatten, boundAt_append, boundAt_append, boundAt_flatten,
      boundAt_append]
    exact (Binds.commaList (SelectItem.compileAll_binds depth items)).bind fun _ =>
      (Table.target_binds depth aliasName table).bind fun _ =>
        (Binds.inSequence (Join.compileAll_binds depth joins)).bind fun _ =>
          (Binds.clauseParts (Criterion.compileAll_binds depth criteria .empty)
            (Order.compileAll_binds depth order) (.window d
              (Operand.boundPart_binds depth · offset)
              (Operand.boundPart_binds depth · limit))).returning _

end

/-! ## What the dialects bind -/

/-- The ranks that a dialect does without. -/
def Dialect.unboundRanks (d : Dialect) (ranks : List Value) : List Value :=
  match d with
  | .mysql => ranks
  | .common | .sqlite => []

/-- The ranks that CASE gives in an operand. -/
def Operand.ranks (o : Operand) : List Value :=
  (o.sites .sqlite 0).flatMap fun site => site.node.ranks

/-- SQLite binds what another dialect binds, and the ranks that the other
one does without. -/
theorem Node.values_sqlite (n : Node) :
    n.values .sqlite = n.values d ++ d.unboundRanks n.ranks := by
  cases d <;> cases n <;> simp [Node.values, Node.ranks, Dialect.boundRanks, Dialect.unboundRanks]

theorem Dialect.unboundRanks_flatMap {α : Type} (xs : List α) (ranks : α → List Value) :
    d.unboundRanks (xs.flatMap ranks) = xs.flatMap fun x => d.unboundRanks (ranks x) := by
  cases d <;> simp [Dialect.unboundRanks]

theorem boundAt_sqlite_perm (sites : List Site) :
    (boundAt .sqlite sites).Perm
      (boundAt d sites ++ d.unboundRanks (sites.flatMap fun site => site.node.ranks)) := by
  unfold boundAt
  simp only [Node.values_sqlite d]
  rw [d.unboundRanks_flatMap]
  exact (List.flatMap_append_perm sites _ _).symm

/-- An operand binds the same values in SQLite as in another dialect, and the
ranks that the other one does without. -/
theorem Operand.positional_perm {o : Operand} {s s' : Statement}
    (hs : (o.compile d).statement = .ok s) (hs' : (o.compile .sqlite).statement = .ok s') :
    s'.bindings.positional.Perm (s.bindings.positional ++ d.unboundRanks o.ranks) := by
  have hbound := statement_collects (o.compile_binds d 0) hs
  have hbound' := statement_collects (o.compile_binds .sqlite 0) hs'
  exact (hbound'.trans (boundAt_sqlite_perm d _)).trans (hbound.symm.append_right _)

end SqlTree
