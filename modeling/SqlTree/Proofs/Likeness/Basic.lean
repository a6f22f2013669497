import SqlTree.Proofs.Compile.RelatedTexts

/-!
# Trees that are alike

Two trees are alike where they have the same shape, the same values and the
same raw texts, and identifiers in the same places.  A `Likeness` says what
the identifiers have to do with each other, for which dialects the two trees
are compiled, and how the texts of the two are then related.

Where the dialects word something differently, alike trees must not ask for
it: values in their order where one dialect sorts by position and the other
by rank, an offset where they place it differently, and an order at random
where its two wordings are not related.

Only what a SELECT is made of is compared.  What a query would write is not
read where it stands as a sub-query.
-/

set_option autoImplicit false

namespace SqlTree

/-- How two trees are alike, and how their texts are related. -/
structure Likeness where
  /-- the dialect of the first tree -/
  left : Dialect
  /-- the dialect of the second tree -/
  right : Dialect
  texts : TextRelation
  /-- the names of tables and columns -/
  Names : String → String → Prop
  Aliases : String → String → Prop
  names_hold : ∀ {n n' : String}, Names n n' →
    texts.Holds (left.quoteIdentifier n) (right.quoteIdentifier n')
  aliases_hold : ∀ {a a' : String}, Aliases a a' →
    texts.Holds (left.quoteName a) (right.quoteName a')

variable (L : Likeness)

/-- Both dialects sort by position, or both by rank. -/
def Likeness.SortsAlike : Prop :=
  L.left = .mysql ↔ L.right = .mysql

/-- The same statement, with a text that is related to itself. -/
def Statement.Like (s s' : Statement) : Prop :=
  s = s' ∧ L.texts.Holds s.sql s.sql

/-- The same expression. -/
def Expression.Like (e e' : Expression) : Prop :=
  e = e' ∧ L.texts.Holds e.toStatement.sql e.toStatement.sql

mutual

/-- Column slots. -/
def Column.Like : Column → Column → Prop
  | .name n, c' => ∃ n', c' = .name n' ∧ L.Names n n'
  | .query q, c' => ∃ q', c' = .query q' ∧ q.Like q'
  | .expr e, c' => ∃ e', c' = .expr e' ∧ e.Like L e'
termination_by structural c => c

/-- Value slots. -/
def Operand.Like : Operand → Operand → Prop
  | .value v, o' => o' = .value v
  | .query q, o' => ∃ q', o' = .query q' ∧ q.Like q'
  | .expr e, o' => ∃ e', o' = .expr e' ∧ e.Like L e'
termination_by structural o => o

def Operand.LikeAll : List Operand → List Operand → Prop
  | [], os' => os' = []
  | o :: os, os' => ∃ o' rest, os' = o' :: rest ∧ o.Like o' ∧ Operand.LikeAll os rest
termination_by structural os => os

def Operand.LikeSlot : Option Operand → Option Operand → Prop
  | none, o' => o' = none
  | some o, o' => ∃ p, o' = some p ∧ o.Like p
termination_by structural o => o

/-- Tables. -/
def Table.Like : Table → Table → Prop
  | .name n, t' => ∃ n', t' = .name n' ∧ L.Names n n'
  | .query q, t' => ∃ q', t' = .query q' ∧ q.Like q'
  | .raw s, t' => ∃ s', t' = .raw s' ∧ s.Like L s'
termination_by structural t => t

def Table.LikeSlot : Option Table → Option Table → Prop
  | none, t' => t' = none
  | some t, t' => ∃ u, t' = some u ∧ t.Like u
termination_by structural t => t

/-- Sub-selects. -/
def Subquery.Like : Subquery → Subquery → Prop
  | .query q, s' => ∃ q', s' = .query q' ∧ q.Like q'
  | .raw s, s' => ∃ r, s' = .raw r ∧ s.Like L r
termination_by structural s => s

/-- Right sides of IN. -/
def Members.Like : Members → Members → Prop
  | .list vs, vs' => ∃ ws, vs' = .list ws ∧ Operand.LikeAll vs ws
  | .select s, vs' => ∃ s', vs' = .select s' ∧ s.Like s'
termination_by structural vs => vs

/-- Calls of the same function. -/
def Aggregate.Like : Aggregate → Aggregate → Prop
  | ⟨function, c⟩, a' =>
    function = a'.function ∧ L.texts.Holds function function ∧ c.Like a'.column
termination_by structural a => a

/-- What a select list may hold. -/
def Selectable.Like : Selectable → Selectable → Prop
  | .column c, s' => ∃ c', s' = .column c' ∧ c.Like c'
  | .aggregate a, s' => ∃ a', s' = .aggregate a' ∧ a.Like a'
termination_by structural s => s

/-- Entries of a select list. -/
def SelectItem.Like : SelectItem → SelectItem → Prop
  | ⟨aliasName, s⟩, item' => Option.Rel L.Aliases aliasName item'.aliasName ∧ s.Like item'.value
termination_by structural item => item

def SelectItem.LikeAll : List SelectItem → List SelectItem → Prop
  | [], items' => items' = []
  | item :: items, items' =>
    ∃ item' rest, items' = item' :: rest ∧ item.Like item' ∧ SelectItem.LikeAll items rest
termination_by structural items => items

/-- Tests. -/
def Criterion.Like : Criterion → Criterion → Prop
  | .value c rule v append, t' =>
    ∃ c' v', t' = .value c' rule v' append ∧ c.Like c' ∧ v.Like v'
  | .columns l rule r append, t' =>
    ∃ l' r', t' = .columns l' rule r' append ∧ l.Like l' ∧ r.Like r'
  | .between c low high negated append, t' =>
    ∃ c' low' high', t' = .between c' low' high' negated append
      ∧ c.Like c' ∧ low.Like low' ∧ high.Like high'
  | .group cs negated append, t' =>
    ∃ cs', t' = .group cs' negated append ∧ Criterion.LikeAll cs cs'
  | .exists s negated append, t' => ∃ s', t' = .exists s' negated append ∧ s.Like s'
  | .member c vs negated append, t' =>
    ∃ c' vs', t' = .member c' vs' negated append ∧ c.Like c' ∧ vs.Like vs'
  | .null c isNull append, t' => ∃ c', t' = .null c' isNull append ∧ c.Like c'
  | .raw s append, t' => ∃ s', t' = .raw s' append ∧ s.Like L s'
termination_by structural c => c

def Criterion.LikeAll : List Criterion → List Criterion → Prop
  | [], cs' => cs' = []
  | c :: cs, cs' => ∃ c' rest, cs' = c' :: rest ∧ c.Like c' ∧ Criterion.LikeAll cs rest
termination_by structural cs => cs

/-- Items of an order. -/
def Order.Like : Order → Order → Prop
  | .column c descending, o' => ∃ c', o' = .column c' descending ∧ c.Like c'
  | .nulls c nullsFirst, o' => ∃ c', o' = .nulls c' nullsFirst ∧ c.Like c'
  | .explicit c vs othersFirst, o' =>
    ∃ c' vs', o' = .explicit c' vs' othersFirst ∧ c.Like c' ∧ Operand.LikeAll vs vs'
      ∧ (vs = [] ∨ L.SortsAlike)
  | .random, o' => o' = .random ∧ L.texts.Holds L.left.randomOrder L.right.randomOrder
termination_by structural o => o

def Order.LikeAll : List Order → List Order → Prop
  | [], os' => os' = []
  | o :: os, os' => ∃ o' rest, os' = o' :: rest ∧ o.Like o' ∧ Order.LikeAll os rest
termination_by structural os => os

/-- Joins. -/
def Join.Like : Join → Join → Prop
  | ⟨kind, t, aliasName, cs⟩, j' =>
    kind = j'.kind ∧ t.Like j'.table ∧ Option.Rel L.Aliases aliasName j'.aliasName
      ∧ Criterion.LikeAll cs j'.criteria
termination_by structural j => j

def Join.LikeAll : List Join → List Join → Prop
  | [], js' => js' = []
  | j :: js, js' => ∃ j' rest, js' = j' :: rest ∧ j.Like j' ∧ Join.LikeAll js rest
termination_by structural js => js

/-- Queries, as SELECTs. -/
def Query.Like : Query → Query → Prop
  | ⟨table, aliasName, select, _, _, _, joins, criteria, order, offset, limit⟩, q' =>
    Table.LikeSlot table q'.table ∧ Option.Rel L.Aliases aliasName q'.tableAlias
      ∧ SelectItem.LikeAll select q'.select ∧ Join.LikeAll joins q'.joins
      ∧ Criterion.LikeAll criteria q'.criteria ∧ Order.LikeAll order q'.order
      ∧ Operand.LikeSlot offset q'.offset ∧ Operand.LikeSlot limit q'.limit
      ∧ (offset = none ∨ L.left = L.right)
termination_by structural q => q

end

end SqlTree
