import SqlTree.Proofs.Likeness.Statements
import SqlTree.Proofs.Tree.Nodes
import SqlTree.Proofs.Tree.Verbatim

/-!
# One tree in two dialects

A tree is like itself, in two dialects whose quoted names are related, where
it asks for nothing that they word differently.  What it asks for can be seen
from its queries one by one, and from its verbatim texts.
-/

set_option autoImplicit false
set_option linter.unusedSectionVars false

namespace SqlTree

/-- The text itself. -/
def Verbatim.sql : Verbatim → String
  | .statement s => s.sql
  | .bare sql => sql

/-- Every name is like itself. -/
structure Likeness.KeepsNames (L : Likeness) : Prop where
  names : ∀ n, L.Names n n
  aliases : ∀ a, L.Aliases a a

/-- An item that two dialects word alike. -/
def Order.SharedBy (L : Likeness) : Order → Prop
  | .explicit _ vs _ => vs = [] ∨ L.SortsAlike
  | .random => L.texts.Holds L.left.randomOrder L.right.randomOrder
  | .column _ _ | .nulls _ _ => True

/-- A query whose order and window two dialects word alike. -/
structure Query.SharedBy (L : Likeness) (q : Query) : Prop where
  offset : q.offset = none ∨ L.left = L.right
  order : ∀ o ∈ q.order, o.SharedBy L

/-- A part of a tree, given by its queries and its texts, that two dialects
word alike. -/
structure Shared (L : Likeness) (nodes : List Query) (texts : List Verbatim) : Prop where
  nodes : ∀ node ∈ nodes, node.SharedBy L
  texts : ∀ text ∈ texts, L.texts.Holds text.sql text.sql

namespace Shared

variable {L : Likeness} {nodes nodes' : List Query} {texts texts' : List Verbatim}

theorem left (h : Shared L (nodes ++ nodes') (texts ++ texts')) : Shared L nodes texts :=
  ⟨(List.forall_mem_append.mp h.nodes).1, (List.forall_mem_append.mp h.texts).1⟩

theorem right (h : Shared L (nodes ++ nodes') (texts ++ texts')) : Shared L nodes' texts' :=
  ⟨(List.forall_mem_append.mp h.nodes).2, (List.forall_mem_append.mp h.texts).2⟩

/-- A statement of its own. -/
theorem statement {s : Statement} (h : Shared L nodes [.statement s]) : s.Like L s :=
  ⟨rfl, h.texts (.statement s) List.mem_cons_self⟩

theorem expression {e : Expression} (h : Shared L nodes e.verbatim) : e.Like L e := by
  cases e with
  | raw s => exact ⟨rfl, h.texts (.statement s) List.mem_cons_self⟩
  | value v => exact ⟨rfl, .fixed "?"⟩
  | column name => exact ⟨rfl, h.texts (.bare name) List.mem_cons_self⟩

end Shared

section

variable {L : Likeness} (keeps : L.KeepsNames)

include keeps

theorem Likeness.KeepsNames.aliases_self (aliasName : Option String) :
    Option.Rel L.Aliases aliasName aliasName := by
  cases aliasName with
  | none => exact .none
  | some a => exact .some (keeps.aliases a)

mutual

theorem Column.like_self : ∀ c : Column, Shared L c.nodes c.verbatim → c.Like L c
  | .name n, _ => ⟨n, rfl, keeps.names n⟩
  | .query q, h => ⟨q, rfl, q.like_self h⟩
  | .expr e, h => ⟨e, rfl, h.expression⟩

theorem Operand.like_self : ∀ o : Operand, Shared L o.nodes o.verbatim → o.Like L o
  | .value _, _ => rfl
  | .query q, h => ⟨q, rfl, q.like_self h⟩
  | .expr e, h => ⟨e, rfl, h.expression⟩

theorem Operand.like_selfAll : ∀ os : List Operand,
    Shared L (Operand.nodesAll os) (Operand.verbatimAll os) → Operand.LikeAll L os os
  | [], _ => rfl
  | o :: os, h => ⟨o, os, rfl, o.like_self h.left, Operand.like_selfAll os h.right⟩

theorem Operand.like_selfSlot : ∀ o : Option Operand,
    Shared L (Operand.nodesSlot o) (Operand.verbatimSlot o) → Operand.LikeSlot L o o
  | none, _ => rfl
  | some o, h => ⟨o, rfl, o.like_self h⟩

theorem Table.like_self : ∀ t : Table, Shared L t.nodes t.verbatim → t.Like L t
  | .name n, _ => ⟨n, rfl, keeps.names n⟩
  | .query q, h => ⟨q, rfl, q.like_self h⟩
  | .raw s, h => ⟨s, rfl, h.statement⟩

theorem Table.like_selfSlot : ∀ t : Option Table,
    Shared L (Table.nodesSlot t) (Table.verbatimSlot t) → Table.LikeSlot L t t
  | none, _ => rfl
  | some t, h => ⟨t, rfl, t.like_self h⟩

theorem Subquery.like_self : ∀ s : Subquery, Shared L s.nodes s.verbatim → s.Like L s
  | .query q, h => ⟨q, rfl, q.like_self h⟩
  | .raw s, h => ⟨s, rfl, h.statement⟩

theorem Members.like_self : ∀ vs : Members, Shared L vs.nodes vs.verbatim → vs.Like L vs
  | .list vs, h => ⟨vs, rfl, Operand.like_selfAll vs h⟩
  | .select s, h => ⟨s, rfl, s.like_self h⟩

theorem Aggregate.like_self : ∀ a : Aggregate, Shared L a.nodes a.verbatim → a.Like L a
  | ⟨function, c⟩, h => by
    obtain ⟨hfunction, hrest⟩ := List.forall_mem_cons.mp h.texts
    exact ⟨rfl, hfunction, c.like_self ⟨h.nodes, hrest⟩⟩

theorem Selectable.like_self : ∀ s : Selectable, Shared L s.nodes s.verbatim → s.Like L s
  | .column c, h => ⟨c, rfl, c.like_self h⟩
  | .aggregate a, h => ⟨a, rfl, a.like_self h⟩

theorem SelectItem.like_self : ∀ item : SelectItem, Shared L item.nodes item.verbatim →
    item.Like L item
  | ⟨aliasName, s⟩, h => ⟨keeps.aliases_self aliasName, s.like_self h⟩

theorem SelectItem.like_selfAll : ∀ items : List SelectItem,
    Shared L (SelectItem.nodesAll items) (SelectItem.verbatimAll items) →
      SelectItem.LikeAll L items items
  | [], _ => rfl
  | item :: items, h =>
    ⟨item, items, rfl, item.like_self h.left, SelectItem.like_selfAll items h.right⟩

theorem Criterion.like_self : ∀ c : Criterion, Shared L c.nodes c.verbatim → c.Like L c
  | .value c _ v _, h => ⟨c, v, rfl, c.like_self h.left, v.like_self h.right⟩
  | .columns l _ r _, h => ⟨l, r, rfl, l.like_self h.left, r.like_self h.right⟩
  | .between c low high _ _, h =>
    ⟨c, low, high, rfl, c.like_self h.left.left, low.like_self h.left.right,
      high.like_self h.right⟩
  | .group cs _ _, h => ⟨cs, rfl, Criterion.like_selfAll cs h⟩
  | .exists s _ _, h => ⟨s, rfl, s.like_self h⟩
  | .member c vs _ _, h => ⟨c, vs, rfl, c.like_self h.left, vs.like_self h.right⟩
  | .null c _ _, h => ⟨c, rfl, c.like_self h⟩
  | .raw s _, h => ⟨s, rfl, h.statement⟩

theorem Criterion.like_selfAll : ∀ cs : List Criterion,
    Shared L (Criterion.nodesAll cs) (Criterion.verbatimAll cs) → Criterion.LikeAll L cs cs
  | [], _ => rfl
  | c :: cs, h => ⟨c, cs, rfl, c.like_self h.left, Criterion.like_selfAll cs h.right⟩

theorem Order.like_self : ∀ o : Order, o.SharedBy L → Shared L o.nodes o.verbatim → o.Like L o
  | .column c _, _, h => ⟨c, rfl, c.like_self h⟩
  | .nulls c _, _, h => ⟨c, rfl, c.like_self h⟩
  | .explicit c vs _, hsorts, h =>
    ⟨c, vs, rfl, c.like_self h.left, Operand.like_selfAll vs h.right, hsorts⟩
  | .random, hrandom, _ => ⟨rfl, hrandom⟩

theorem Order.like_selfAll : ∀ os : List Order, (∀ o ∈ os, o.SharedBy L) →
    Shared L (Order.nodesAll os) (Order.verbatimAll os) → Order.LikeAll L os os
  | [], _, _ => rfl
  | o :: os, hos, h => by
    obtain ⟨ho, hrest⟩ := List.forall_mem_cons.mp hos
    exact ⟨o, os, rfl, o.like_self ho h.left, Order.like_selfAll os hrest h.right⟩

theorem Join.like_self : ∀ j : Join, Shared L j.nodes j.verbatim → j.Like L j
  | ⟨_, t, aliasName, cs⟩, h =>
    ⟨rfl, t.like_self h.left, keeps.aliases_self aliasName, Criterion.like_selfAll cs h.right⟩

theorem Join.like_selfAll : ∀ js : List Join,
    Shared L (Join.nodesAll js) (Join.verbatimAll js) → Join.LikeAll L js js
  | [], _ => rfl
  | j :: js, h => ⟨j, js, rfl, j.like_self h.left, Join.like_selfAll js h.right⟩

theorem Query.like_self : ∀ q : Query, Shared L q.nodes q.verbatim → q.Like L q
  | ⟨table, aliasName, select, insert, update, _, joins, criteria, order, offset, limit⟩, h => by
    obtain ⟨hq, hinside⟩ := List.forall_mem_cons.mp h.nodes
    have hlimit : Shared L (_ ++ Operand.nodesSlot limit) (_ ++ Operand.verbatimSlot limit) :=
      ⟨hinside, h.texts⟩
    have hoffset := hlimit.left
    have horder := hoffset.left
    have hcriteria := horder.left
    have hjoins := hcriteria.left
    have hselect := hjoins.left.left.left
    exact ⟨Table.like_selfSlot table hselect.left, keeps.aliases_self aliasName,
      SelectItem.like_selfAll select hselect.right, Join.like_selfAll joins hjoins.right,
      Criterion.like_selfAll criteria hcriteria.right,
      Order.like_selfAll order hq.order horder.right,
      Operand.like_selfSlot offset hoffset.right, Operand.like_selfSlot limit hlimit.right,
      hq.offset⟩

end

/-! ## What a tree writes -/

/-- Every column is itself. -/
def Likeness.KeepsNames.sameColumns : L.Correspondence where
  Holds := Eq
  names h := h ▸ keeps.names _
  unique ha hb := by rw [ha, hb]

theorem Row.like_self (row : Row)
    (h : Shared L (Assignment.nodesAll row) (Assignment.verbatimAll row)) :
    Row.Like keeps.sameColumns row row := by
  refine ⟨?_, rfl⟩
  induction row with
  | nil => exact .nil
  | cons a row ih =>
    obtain ⟨column, value⟩ := a
    exact .cons ⟨rfl, value.like_self keeps h.left⟩ (ih h.right)

theorem Insert.like_self (i : Insert) (h : Shared L i.nodes i.verbatim) :
    Insert.Like keeps.sameColumns i i := by
  cases i with
  | rows rows =>
    refine .rows ?_
    have hrows : Shared L (Assignment.nodesRows rows) (Assignment.verbatimRows rows) := h
    clear h
    induction rows with
    | nil => exact .nil
    | cons row rows ih => exact .cons (Row.like_self keeps row hrows.left) (ih hrows.right)
  | select source =>
    obtain ⟨columns, select⟩ := source
    refine .select ?_ (select.like_self keeps h)
    cases columns with
    | none => exact .none
    | some columns => exact .some (List.forall₂_same.mpr fun n _ => keeps.names n)

/-- A tree that two dialects word alike also writes alike in them. -/
theorem Query.writesLike_self (q : Query) (h : Shared L q.nodes q.verbatim) :
    q.WritesLike keeps.sameColumns q := by
  have hselect := q.like_self keeps h
  cases q with | mk table aliasName select insert update =>
  have hinside := (List.forall_mem_cons.mp h.nodes).2
  have hlimit : Shared L (_ ++ Operand.nodesSlot _) (_ ++ Operand.verbatimSlot _) :=
    ⟨hinside, h.texts⟩
  have hupdate := hlimit.left.left.left.left.left
  refine ⟨hselect, ?_, Row.like_self keeps update hupdate.right, rfl⟩
  cases insert with
  | none => exact .none
  | some insert => exact .some (insert.like_self keeps hupdate.left.right)

end

end SqlTree
