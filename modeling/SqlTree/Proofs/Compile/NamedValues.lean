import SqlTree.Proofs.Bindings.Entries
import SqlTree.Proofs.Compile.Run
import SqlTree.Proofs.Tree.Sites

/-!
# The names that a SELECT binds

Only the texts that a tree brings along bind names.  A compiler merges them
one by one, in the order in which it comes across them, and a sub-query is
merged where it stands.  So a name has the value that the last text to bind
it gives to it (`Compiler.Brings`), however the texts are nested, and no name
is bound twice (`Query.compileSelect_brings`).

A text without characters is merged like any other, also where its test is
then left out.
-/

set_option autoImplicit false
set_option linter.unusedSectionVars false

namespace SqlTree

open Compiler Bindings

/-! ## The texts of sites -/

/-- The text of a node that is one. -/
def Node.text? : Node → Option Statement
  | .text s => some s
  | .query _ | .test _ | .order _ | .value _ => none

/-- The texts among the sites, in their order. -/
def textsAt (sites : List Site) : List Statement :=
  sites.filterMap fun site => site.node.text?

theorem textsAt_append (sites sites' : List Site) :
    textsAt (sites ++ sites') = textsAt sites ++ textsAt sites' :=
  List.filterMap_append

theorem textsAt_flatten (parts : List (List Site)) :
    textsAt parts.flatten = (parts.map textsAt).flatten :=
  List.filterMap_flatten

/-- The value that the last of the texts to bind a name gives to it. -/
def lastGiven? (texts : List Statement) (name : String) : Option Value :=
  texts.reverse.findSome? fun text => text.bindings.last? name

theorem lastGiven?_append (texts later : List Statement) (name : String) :
    lastGiven? (texts ++ later) name = (lastGiven? later name).or (lastGiven? texts name) := by
  rw [lastGiven?, List.reverse_append, List.findSome?_append]
  rfl

theorem lastGiven?_eq_some_iff {texts : List Statement} {name : String} {value : Value} :
    lastGiven? texts name = some value
      ↔ ∃ before text after, texts = before ++ text :: after
        ∧ text.bindings.last? name = some value
        ∧ ∀ later ∈ after, name ∉ later.bindings.boundNames := by
  rw [lastGiven?, List.findSome?_eq_some_iff]
  constructor
  · rintro ⟨after, text, before, htexts, htext, hafter⟩
    refine ⟨before.reverse, text, after.reverse, ?_, htext, ?_⟩
    · rw [← List.reverse_inj, htexts]
      simp
    · exact fun later hlater => lastIn?_eq_none_iff.mp (hafter later (List.mem_reverse.mp hlater))
  · rintro ⟨before, text, after, rfl, htext, hafter⟩
    refine ⟨after.reverse, text, before.reverse, by simp, htext, ?_⟩
    exact fun later hlater => lastIn?_eq_none_iff.mpr (hafter later (List.mem_reverse.mp hlater))

/-! ## Compilers that bring texts -/

namespace Compiler

variable {α β : Type}

/-- A run of the compiler binds no name twice that was bound once before, and
gives each name the value that the last of the texts gives to it. -/
structure Brings (texts : List Statement) (c : Compiler α) : Prop where
  distinct : ∀ ⦃b a b'⦄, c.run b = .ok (a, b') → b.NamesDistinct → b'.NamesDistinct
  named : ∀ ⦃b a b'⦄, c.run b = .ok (a, b') →
    ∀ name, b'.named? name = (lastGiven? texts name).or (b.named? name)

namespace Brings

variable {texts later : List Statement}

theorem pure (a : α) : Brings [] (Pure.pure a : Compiler α) where
  distinct b r b' hrun h := (run_pure_eq_ok hrun).2 ▸ h
  named b r b' hrun name := by
    obtain ⟨-, rfl⟩ := run_pure_eq_ok hrun
    rfl

theorem throw (e : QueryError) : Brings texts (MonadExcept.throw e : Compiler α) where
  distinct _ _ _ hrun := absurd hrun run_throw_ne_ok
  named _ _ _ hrun := absurd hrun run_throw_ne_ok

/-- What is brought later counts before what was brought earlier. -/
theorem bind {c : Compiler α} {k : α → Compiler β} (hc : Brings texts c)
    (hk : ∀ a, Brings later (k a)) : Brings (texts ++ later) (c >>= k) where
  distinct b r b'' hrun h := by
    obtain ⟨a, b', ha, hr⟩ := run_bind_eq_ok hrun
    exact (hk a).distinct hr (hc.distinct ha h)
  named b r b'' hrun name := by
    obtain ⟨a, b', ha, hr⟩ := run_bind_eq_ok hrun
    rw [(hk a).named hr, hc.named ha, lastGiven?_append, Option.or_assoc]

/-- What is returned makes no difference. -/
theorem of_pure {a : α} (h : Brings texts (Pure.pure a : Compiler α)) (a' : β) :
    Brings texts (Pure.pure a' : Compiler β) where
  distinct b r b' hrun := by
    obtain ⟨-, rfl⟩ := run_pure_eq_ok hrun
    exact id
  named b r b' hrun := by
    obtain ⟨-, rfl⟩ := run_pure_eq_ok hrun
    exact h.named rfl

/-- What is returned in the end brings nothing. -/
theorem returning {c : Compiler α} (hc : Brings texts c) (f : α → β) :
    Brings texts (c >>= fun a => Pure.pure (f a)) := by
  rw [← List.append_nil texts]
  exact hc.bind fun a => .pure (f a)

/-- What is checked first brings nothing. -/
theorem after {c : Compiler α} {k : α → Compiler β} (hc : Brings [] c)
    (hk : ∀ a, Brings texts (k a)) : Brings texts (c >>= k) :=
  hc.bind hk

/-- A check that is passed brings nothing. -/
theorem check {refused : Bool} {e : QueryError} {k : Unit → Compiler β}
    (hk : Brings texts (k ())) :
    Brings texts (if refused then MonadExcept.throw e >>= k else k ()) := by
  cases refused with
  | false => exact hk
  | true => exact Brings.after (.throw e) fun _ => hk

theorem placeholder (v : Value) : Brings [] (bindValue v) where
  distinct b r b' hrun h := by
    cases hrun
    exact h.add ⟨none, v⟩
  named b r b' hrun name := by
    cases hrun
    exact named?_push b name v

theorem inline (s : Statement) : Brings [s] (inline s) where
  distinct b r b' hrun h := by
    cases hrun
    exact namesDistinct_merge h s.bindings
  named b r b' hrun name := by
    cases hrun
    rw [named?_merge, lastGiven?]
    simp

theorem parenthesized (s : Statement) : Brings [s] (parenthesized s) :=
  (inline s).returning _

/-- A statement has the values of the texts that its compiler brings, and no
name twice. -/
theorem statement {c : Compiler String} (hc : Brings texts c) {s : Statement}
    (h : c.statement = .ok s) :
    s.bindings.NamesDistinct ∧ ∀ name, s.bindings.named? name = lastGiven? texts name := by
  have hrun := run_of_statement_eq_ok h
  refine ⟨hc.distinct hrun namesDistinct_empty, fun name => ?_⟩
  rw [hc.named hrun]
  exact Option.or_none

/-- The statement of a sub-query brings what its compiler brings: it binds
each name once. -/
theorem nested {c : Compiler String} {k : Statement → Compiler β} (hc : Brings texts c)
    (hk : ∀ s, Brings [s] (k s)) : Brings texts (nested c >>= k) where
  distinct b r b'' hrun h := by
    obtain ⟨s, b', hs, hr⟩ := run_bind_eq_ok hrun
    obtain ⟨-, rfl⟩ := run_nested_eq_ok hs
    exact (hk s).distinct hr h
  named b r b'' hrun name := by
    obtain ⟨s, b', hs, hr⟩ := run_bind_eq_ok hrun
    obtain ⟨hrun, rfl⟩ := run_nested_eq_ok hs
    have hlast : lastGiven? [s] name = s.bindings.last? name := by simp [lastGiven?]
    have hnamed : s.bindings.named? name = lastGiven? texts name :=
      (hc.named hrun name).trans Option.or_none
    rw [(hk s).named hr, hlast, ← (hc.distinct hrun namesDistinct_empty).named?_eq_last?, hnamed]

theorem subquery {c : Compiler String} (hc : Brings texts c) : Brings texts (subquery c) :=
  hc.nested parenthesized

theorem rule (rule : String) : Brings [] (requireRule rule) := by
  unfold requireRule
  split
  · exact .pure ()
  · exact .throw _

theorem inSequence {parts : List (List Statement)} {cs : List (Compiler String)}
    (h : List.Forall₂ Brings parts cs) : Brings parts.flatten (inSequence cs) := by
  induction h with
  | nil => exact .pure []
  | cons hc _ ih => exact hc.bind fun text => ih.returning (text :: ·)

theorem commaList {parts : List (List Statement)} {cs : List (Compiler String)}
    (h : List.Forall₂ Brings parts cs) : Brings parts.flatten (commaList cs) :=
  (inSequence h).returning _

/-! ### Orders of listed values, windows and clauses -/

/-- The ranks between the values bring nothing. -/
theorem caseBranches {parts : List (List Statement)} {values : List (Compiler String)}
    (h : List.Forall₂ Brings parts values) (rank : Nat) :
    Brings parts.flatten (caseBranches rank values) := by
  induction h generalizing rank with
  | nil => exact .pure ""
  | cons hv _ ih =>
    refine hv.bind ?_
    intro value
    exact (placeholder _).after fun _ => (ih (rank + 1)).returning _

theorem listedOrder (d : Dialect) {column : Compiler String} (hcolumn : Brings texts column)
    {parts : List (List Statement)} {values : List (Compiler String)}
    (hvalues : List.Forall₂ Brings parts values) (othersFirst : Bool) :
    Brings (texts ++ (d.listed othersFirst parts).flatten)
      (d.listedOrder column values othersFirst) := by
  have ranked : Brings (texts ++ parts.flatten) (caseOrder column values othersFirst) := by
    refine hcolumn.bind fun _ => ?_
    rw [← List.append_nil parts.flatten]
    refine (caseBranches hvalues 0).bind ?_
    intro branches
    exact (placeholder _).returning _
  have positioned : Brings (texts ++ (Dialect.mysql.listed othersFirst parts).flatten)
      (fieldOrder column values othersFirst) :=
    hcolumn.bind fun _ => (commaList (forall₂_turned hvalues othersFirst)).returning _
  cases d with
  | mysql => exact positioned
  | common => exact ranked
  | sqlite => exact ranked

/-- Two bounds, one after the other. -/
theorem bothBounds {first second : Compiler (List String)} (hfirst : Brings texts first)
    (hsecond : Brings later second) :
    Brings (texts ++ later) (do let l ← first; let o ← second; return l ++ o) :=
  hfirst.bind fun _ => hsecond.returning _

theorem window (d : Dialect) {offset limit : Option (Compiler String)}
    (hoffset : ∀ keyword, Brings texts (boundPart keyword offset))
    (hlimit : ∀ keyword, Brings later (boundPart keyword limit)) :
    Brings (d.inWindow texts later) (d.window offset limit) := by
  have limited (unbounded : String) : Brings (later ++ texts)
      (limitFirst unbounded offset limit) := by
    obtain ⟨first, heq, rfl | ⟨rfl, rfl⟩⟩ := exists_limitFirst_eq unbounded offset limit
    · rw [heq]
      exact bothBounds (hlimit "LIMIT") (hoffset "OFFSET")
    · have hunbounded : Brings later (Pure.pure ["LIMIT " ++ unbounded]) := (hlimit "LIMIT").of_pure _
      rw [heq]
      exact bothBounds hunbounded (hoffset "OFFSET")
  cases d with
  | common => exact bothBounds (hoffset "OFFSET") (hlimit "LIMIT")
  | mysql => exact limited _
  | sqlite => exact limited _

theorem clauseParts {criteria : Compiler Clause} (hcriteria : Brings texts criteria)
    {parts : List (List Statement)} {orders : List (Compiler String)}
    (horders : List.Forall₂ Brings parts orders) {window : Compiler (List String)}
    (hwindow : Brings later window) :
    Brings (texts ++ (parts.flatten ++ later)) (clauseParts criteria orders window) :=
  hcriteria.bind fun _ => (inSequence horders).bind fun _ => hwindow.returning _

end Brings

end Compiler

/-! ## A tree brings the texts of its sites -/

variable (d : Dialect)

/-- The texts of listed parts are listed alike. -/
theorem Dialect.textsAt_listed (othersFirst : Bool) (parts : List (List Site)) :
    (d.listed othersFirst parts).map textsAt = d.listed othersFirst (parts.map textsAt) := by
  cases d with
  | mysql => cases othersFirst <;> simp [Dialect.listed]
  | common => rfl
  | sqlite => rfl

theorem Dialect.textsAt_inWindow (offset limit : List Site) :
    textsAt (d.inWindow offset limit) = d.inWindow (textsAt offset) (textsAt limit) := by
  cases d <;> exact textsAt_append _ _

mutual

theorem Column.compile_brings (depth : Nat) : ∀ c : Column,
    Brings (textsAt (c.sites d depth)) (c.compile d)
  | .name _ => .pure _
  | .query q => .subquery (q.compileSelect_brings (depth + 1))
  | .expr e => .parenthesized e.toStatement

theorem Operand.compile_brings (depth : Nat) : ∀ o : Operand,
    Brings (textsAt (o.sites d depth)) (o.compile d)
  | .value v => .placeholder v
  | .query q => .subquery (q.compileSelect_brings (depth + 1))
  | .expr e => .parenthesized e.toStatement

theorem Operand.compileAll_brings (depth : Nat) : ∀ os : List Operand,
    List.Forall₂ Brings ((Operand.sitesAll d depth os).map textsAt) (Operand.compileAll d os)
  | [] => .nil
  | o :: os => .cons (o.compile_brings depth) (Operand.compileAll_brings depth os)

/-- A bound of a window. -/
theorem Operand.boundPart_brings (depth : Nat) (keyword : String) : ∀ o : Option Operand,
    Brings (textsAt (Operand.sitesSlot d depth o)) (boundPart keyword (Operand.compileOption d o))
  | none => .pure []
  | some o => (o.compile_brings depth).returning _

theorem Table.compile_brings (depth : Nat) : ∀ t : Table,
    Brings (textsAt (t.sites d depth)) (t.compile d)
  | .name _ => .pure _
  | .query q => .subquery (q.compileSelect_brings (depth + 1))
  | .raw s => .parenthesized s

/-- The table of a statement. -/
theorem Table.target_brings (depth : Nat) (keyword : String) (missing : QueryError)
    (aliasName : Option String) : ∀ t : Option Table,
    Brings (textsAt (Table.sitesSlot d depth t))
      (targetClause d keyword missing (Table.compileOption d t) aliasName)
  | none => .throw _
  | some t => (t.compile_brings depth).returning _

theorem Subquery.compile_brings (depth : Nat) : ∀ s : Subquery,
    Brings (textsAt (s.sites d depth)) (s.compile d)
  | .query q => .subquery (q.compileSelect_brings (depth + 1))
  | .raw s => .parenthesized s

theorem Members.compile_brings (depth : Nat) : ∀ vs : Members,
    Brings (textsAt (vs.sites d depth)) (vs.compile d)
  | .list vs => by
    unfold Members.sites
    rw [textsAt_flatten]
    exact (Brings.commaList (Operand.compileAll_brings depth vs)).returning _
  | .select s => s.compile_brings depth

theorem Aggregate.compile_brings (depth : Nat) : ∀ a : Aggregate,
    Brings (textsAt (a.sites d depth)) (a.compile d)
  | ⟨_, c⟩ => (c.compile_brings depth).returning _

theorem Selectable.compile_brings (depth : Nat) : ∀ s : Selectable,
    Brings (textsAt (s.sites d depth)) (s.compile d)
  | .column c => c.compile_brings depth
  | .aggregate a => a.compile_brings depth

theorem SelectItem.compile_brings (depth : Nat) : ∀ item : SelectItem,
    Brings (textsAt (item.sites d depth)) (item.compile d)
  | ⟨_, s⟩ => (s.compile_brings depth).returning _

theorem SelectItem.compileAll_brings (depth : Nat) : ∀ items : List SelectItem,
    List.Forall₂ Brings ((SelectItem.sitesAll d depth items).map textsAt)
      (SelectItem.compileAll d items)
  | [] => .nil
  | item :: items => .cons (item.compile_brings depth) (SelectItem.compileAll_brings depth items)

theorem Criterion.compile_brings (depth : Nat) (c : Criterion) :
    Brings (textsAt (c.sites d depth)) (c.compile d) := by
  have hsites : textsAt (c.sites d depth) = textsAt (c.sites d depth).tail := by
    unfold Criterion.sites
    rfl
  rw [hsites]
  unfold Criterion.sites
  rw [List.tail_cons]
  cases c with
  | value c rule v append =>
    rw [textsAt_append, Criterion.compile]
    refine (Brings.rule rule).after fun _ => (c.compile_brings depth).bind fun column => ?_
    rw [← List.append_nil (textsAt (v.sites d depth))]
    refine (v.compile_brings depth).bind fun value => ?_
    dsimp only
    split
    · exact (Brings.placeholder escapeChar).returning _
    · exact .pure _
  | columns l rule r append =>
    rw [textsAt_append, Criterion.compile]
    exact (Brings.rule rule).after fun _ => (l.compile_brings depth).bind fun _ =>
      (r.compile_brings depth).returning _
  | between c low high negated append =>
    rw [textsAt_append, textsAt_append, Criterion.compile]
    exact (c.compile_brings depth).bind fun _ => (low.compile_brings depth).bind fun _ =>
      (high.compile_brings depth).returning _
  | group cs negated append => exact (Criterion.compileAll_brings depth cs .empty).returning _
  | «exists» s negated append => exact (s.compile_brings depth).returning _
  | member c vs negated append =>
    rw [Criterion.compile]
    dsimp only
    cases vs.isEmpty with
    | true => exact .placeholder _
    | false =>
      rw [if_neg Bool.false_ne_true, if_neg Bool.false_ne_true, textsAt_append]
      exact (c.compile_brings depth).bind fun _ => (vs.compile_brings depth).returning _
  | null c isNull append => exact (c.compile_brings depth).returning _
  | raw s append => exact .inline s

theorem Criterion.compileAll_brings (depth : Nat) : ∀ (cs : List Criterion) (clause : Clause),
    Brings (textsAt (Criterion.sitesAll d depth cs)) (Criterion.compileAll d clause cs)
  | [], clause => .pure clause
  | c :: cs, clause => by
    unfold Criterion.sitesAll
    rw [textsAt_append]
    exact (c.compile_brings depth).bind fun test =>
      Criterion.compileAll_brings depth cs (clause.append c.appendRule test)

theorem Order.compile_brings (depth : Nat) (o : Order) :
    Brings (textsAt (o.sites d depth)) (o.compile d) := by
  have hsites : textsAt (o.sites d depth) = textsAt (o.sites d depth).tail := by
    unfold Order.sites
    rfl
  rw [hsites]
  unfold Order.sites
  rw [List.tail_cons]
  cases o with
  | column c descending => exact (c.compile_brings depth).returning _
  | nulls c nullsFirst => exact (c.compile_brings depth).returning _
  | explicit c vs othersFirst =>
    rw [Order.compile]
    dsimp only
    cases vs.isEmpty with
    | true => exact .pure ""
    | false =>
      rw [if_neg Bool.false_ne_true, if_neg Bool.false_ne_true, textsAt_append, textsAt_flatten,
        d.textsAt_listed]
      exact .listedOrder d (c.compile_brings depth) (Operand.compileAll_brings depth vs)
        othersFirst
  | random => exact .pure _

theorem Order.compileAll_brings (depth : Nat) : ∀ os : List Order,
    List.Forall₂ Brings ((Order.sitesAll d depth os).map textsAt) (Order.compileAll d os)
  | [] => .nil
  | o :: os => .cons (o.compile_brings depth) (Order.compileAll_brings depth os)

theorem Join.compile_brings (depth : Nat) : ∀ j : Join,
    Brings (textsAt (j.sites d depth)) (j.compile d)
  | ⟨_, t, _, cs⟩ => by
    unfold Join.sites
    rw [textsAt_append]
    exact (t.compile_brings depth).bind fun _ =>
      (Criterion.compileAll_brings depth cs .empty).returning _

theorem Join.compileAll_brings (depth : Nat) : ∀ js : List Join,
    List.Forall₂ Brings ((Join.sitesAll d depth js).map textsAt) (Join.compileAll d js)
  | [] => .nil
  | j :: js => .cons (j.compile_brings depth) (Join.compileAll_brings depth js)

/-- A SELECT brings the texts of its sites. -/
theorem Query.compileSelect_brings (depth : Nat) : ∀ q : Query,
    Brings (textsAt (q.sites d depth)) (q.compileSelect d)
  | ⟨table, aliasName, items, insert, update, delete, joins, criteria, order, offset, limit⟩ => by
    unfold Query.sites
    rw [textsAt_append, textsAt_flatten]
    refine (Brings.commaList (SelectItem.compileAll_brings depth items)).bind fun _ => ?_
    show Brings (textsAt (Table.sitesSlot d depth table ++ _)) _
    rw [textsAt_append, textsAt_append, textsAt_flatten, textsAt_append, textsAt_append,
      textsAt_flatten, d.textsAt_inWindow]
    exact (Table.target_brings depth "FROM" .noFromTable aliasName table).bind fun _ =>
      (Brings.inSequence (Join.compileAll_brings depth joins)).bind fun _ =>
        (Brings.clauseParts (Criterion.compileAll_brings depth criteria .empty)
          (Order.compileAll_brings depth order) (.window d
            (Operand.boundPart_brings depth · offset)
            (Operand.boundPart_brings depth · limit))).returning _

end

end SqlTree
