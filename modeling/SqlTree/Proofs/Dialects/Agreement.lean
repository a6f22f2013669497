import SqlTree.Proofs.Dialects.OutsideQuotes
import SqlTree.Proofs.Likeness.SameTree

/-!
# Where the dialects agree

The dialects differ in the characters that they quote with, in the order of
OFFSET and LIMIT, in the order of listed values, in the order at random, in
the statements that they take for inserted rows, and in the alias of a
target.  A tree that asks for none of that compiles to the same in all of
them (`Query.statements_across_dialects`): in SQLite to the very statements
of the common dialect, and in MySQL to statements with the same bindings and
the same texts outside of quotes.
-/

set_option autoImplicit false

namespace SqlTree

/-! ## Two dialects and their names -/

/-- One tree in two dialects, whose texts `T` relates. -/
def Dialect.likeness (d d' : Dialect) (T : TextRelation)
    (hnames : ∀ n, T.Holds (d.quoteIdentifier n) (d'.quoteIdentifier n))
    (haliases : ∀ a, T.Holds (d.quoteName a) (d'.quoteName a)) : Likeness where
  left := d
  right := d'
  texts := T
  Names := Eq
  Aliases := Eq
  names_hold := by
    rintro n _ rfl
    exact hnames n
  aliases_hold := by
    rintro a _ rfl
    exact haliases a

namespace Likeness

/-- SQLite and the common dialect quote with the same character. -/
def sqliteCommon : Likeness :=
  Dialect.likeness .sqlite .common .equality (fun _ => rfl) (fun _ => rfl)

/-- MySQL and the common dialect, by what stands outside of quotes. -/
def mysqlCommon : Likeness :=
  Dialect.likeness .mysql .common .sameOutside
    (fun _ => Dialect.quoteIdentifier_sameOutside .mysql .common rfl)
    (fun a => Dialect.quoteName_sameOutside .mysql a .common a)

/-- MySQL and the common dialect, whatever they write. -/
def mysqlCommonWordless : Likeness :=
  Dialect.likeness .mysql .common .sameEmptiness
    (fun n => (mysqlCommon.names_hold (rfl : n = n)).isEmpty_eq)
    (fun a => (mysqlCommon.aliases_hold (rfl : a = a)).isEmpty_eq)

theorem sqliteCommon_keepsNames : sqliteCommon.KeepsNames :=
  ⟨fun _ => rfl, fun _ => rfl⟩

theorem mysqlCommon_keepsNames : mysqlCommon.KeepsNames :=
  ⟨fun _ => rfl, fun _ => rfl⟩

theorem mysqlCommonWordless_keepsNames : mysqlCommonWordless.KeepsNames :=
  ⟨fun _ => rfl, fun _ => rfl⟩

end Likeness

/-! ## What a tree asks for -/

/-- Whether the item lists values in their order. -/
def Order.listsValues : Order → Bool
  | .explicit _ (_ :: _) _ => true
  | _ => false

/-- Whether the item is the order at random. -/
def Order.isRandom : Order → Bool
  | .random => true
  | _ => false

/-- An item that lists no values is worded alike where the order at random
is. -/
theorem Order.sharedBy {L : Likeness} {o : Order} (hlists : o.listsValues = false)
    (hrandom : o.isRandom = false ∨ L.texts.Holds L.left.randomOrder L.right.randomOrder) :
    o.SharedBy L := by
  cases o with
  | column c descending => trivial
  | nulls c nullsFirst => trivial
  | explicit c vs othersFirst =>
    cases vs with
    | nil => exact .inl rfl
    | cons v vs => cases hlists
  | random => exact hrandom.resolve_left (by simp [isRandom])

/-- Dialects that sort listed values alike word every item alike. -/
theorem Order.sharedBy_of_sortsAlike {L : Likeness} (hsorts : L.SortsAlike)
    (hrandom : L.texts.Holds L.left.randomOrder L.right.randomOrder) (o : Order) :
    o.SharedBy L := by
  cases o with
  | column c descending => trivial
  | nulls c nullsFirst => trivial
  | explicit c vs othersFirst => exact .inr hsorts
  | random => exact hrandom

/-! ## Agreement -/

/-- Statements with the same texts and bindings are the same. -/
theorem StatementsAgree.eq {x y : Except QueryError (List Statement)}
    (h : StatementsAgree .equality x y) : x = y := by
  cases h with
  | error e => rfl
  | ok hss =>
    congr 1
    rw [← List.forall₂_eq_eq_eq]
    refine hss.imp ?_
    rintro ⟨sql, bindings⟩ ⟨sql', bindings'⟩ ⟨hsql, hbindings⟩
    obtain rfl : sql = sql' := hsql
    obtain rfl : bindings = bindings' := hbindings
    rfl

/-- Statements with the same bindings. -/
def Statement.SameBindings (s s' : Statement) : Prop :=
  s.bindings = s'.bindings

/-- Statements with the same bindings, and the same texts outside of
quotes. -/
def Statement.SameOutside (s s' : Statement) : Prop :=
  s.bindings = s'.bindings ∧ s.outsideQuotes = s'.outsideQuotes

namespace Query

variable {q : Query} (hoffset : ∀ node ∈ q.nodes, node.offset = none)

include hoffset

/-- SQLite writes what the common dialect writes. -/
theorem statements_sqlite_eq_common
    (htarget : q.kind = .update ∨ q.kind = .delete → q.tableAlias = none)
    (hrows : ∀ rows, q.insert = some (.rows rows) → rows.length ≤ 1) :
    q.statements .sqlite = q.statements .common := by
  have hsorts : Likeness.sqliteCommon.SortsAlike := ⟨nofun, nofun⟩
  have hshared : Shared Likeness.sqliteCommon q.nodes q.verbatim :=
    { nodes := fun node hnode => ⟨.inl (hoffset node hnode),
        fun o _ => o.sharedBy_of_sortsAlike hsorts rfl⟩
      texts := fun _ _ => rfl }
  have hwrites := q.writesLike_self Likeness.sqliteCommon_keepsNames hshared
  have hagree := hwrites.statements_mirror (.inr hrows) fun hkind => .inl (htarget hkind)
  exact StatementsAgree.eq hagree

variable (hlists : ∀ node ∈ q.nodes, ∀ o ∈ node.order, o.listsValues = false)

include hlists

/-- MySQL binds what the common dialect binds. -/
theorem statements_mysql_sameBindings :
    Agree (List.Forall₂ Statement.SameBindings) (q.statements .mysql) (q.statements .common) := by
  have hrandom : Likeness.mysqlCommonWordless.texts.Holds Dialect.mysql.randomOrder
      Dialect.common.randomOrder := by
    show Dialect.mysql.randomOrder.isEmpty = Dialect.common.randomOrder.isEmpty
    rfl
  have hshared : Shared Likeness.mysqlCommonWordless q.nodes q.verbatim :=
    { nodes := fun node hnode => ⟨.inl (hoffset node hnode),
        fun o ho => Order.sharedBy (hlists node hnode o ho) (.inr hrandom)⟩
      texts := fun _ _ => rfl }
  have hwrites := q.writesLike_self Likeness.mysqlCommonWordless_keepsNames hshared
  have halike : Likeness.mysqlCommonWordless.WritesAlike := ⟨nofun, nofun⟩
  have hagree := hwrites.statements_mirror (.inl halike) fun _ => .inr ⟨halike, rfl⟩
  exact hagree.mono fun ss ss' hss => hss.imp fun s s' hs => hs.bindings_eq

/-- Outside of quotes, MySQL writes what the common dialect writes. -/
theorem statements_mysql_sameOutside
    (hrandom : ∀ node ∈ q.nodes, ∀ o ∈ node.order, o.isRandom = false)
    (htexts : ∀ text ∈ q.verbatim, EndsUnquoted text.sql) :
    Agree (List.Forall₂ Statement.SameOutside) (q.statements .mysql) (q.statements .common) := by
  have hshared : Shared Likeness.mysqlCommon q.nodes q.verbatim :=
    { nodes := fun node hnode => ⟨.inl (hoffset node hnode),
        fun o ho => Order.sharedBy (hlists node hnode o ho) (.inl (hrandom node hnode o ho))⟩
      texts := fun text htext => TextRelation.sameOutside.refl (htexts text htext) }
  have hwrites := q.writesLike_self Likeness.mysqlCommon_keepsNames hshared
  have halike : Likeness.mysqlCommon.WritesAlike := ⟨nofun, nofun⟩
  have hagree := hwrites.statements_mirror (.inl halike) fun _ => .inr ⟨halike, rfl⟩
  refine hagree.mono fun ss ss' hss => hss.imp ?_
  intro s s' hs
  exact ⟨hs.bindings_eq, hs.sql.outside_eq⟩

end Query

/-- **The dialects differ only where they are said to.**  Let no query of a
tree have an offset.  Without an alias of a target and with at most one
inserted row, SQLite gives the result of the common dialect.  Without listed
orders, MySQL fails with the same error or gives as many statements with the
same bindings; and without random orders, and with verbatim texts that end
outside of quotes, its texts are the same outside of quotes. -/
theorem Query.statements_across_dialects (q : Query)
    (hoffset : ∀ node ∈ q.nodes, node.offset = none) :
    ((q.kind = .update ∨ q.kind = .delete → q.tableAlias = none) →
      (∀ rows, q.insert = some (.rows rows) → rows.length ≤ 1) →
        q.statements .sqlite = q.statements .common)
    ∧ ((∀ node ∈ q.nodes, ∀ o ∈ node.order, o.listsValues = false) →
      Agree (List.Forall₂ Statement.SameBindings) (q.statements .mysql) (q.statements .common)
      ∧ ((∀ node ∈ q.nodes, ∀ o ∈ node.order, o.isRandom = false) →
        (∀ text ∈ q.verbatim, EndsUnquoted text.sql) →
          Agree (List.Forall₂ Statement.SameOutside) (q.statements .mysql)
            (q.statements .common))) :=
  ⟨q.statements_sqlite_eq_common hoffset, fun hlists =>
    ⟨q.statements_mysql_sameBindings hoffset hlists,
      q.statements_mysql_sameOutside hoffset hlists⟩⟩

/-- Counted rows of a table whose name holds quotes, with a raw test that
holds them too, and with a limit inside of a sub-query. -/
def Query.counting : Query :=
  { Query.empty with
    table := some (.name "main.it's\x60?")
    select := [⟨some "n\"", .aggregate ⟨"COUNT", .name "*"⟩⟩]
    criteria :=
      [.value (.name "name") "LIKE" (.value (.text "x%")) .and,
        .raw ⟨"k = '?\x60' AND n > ?", .ofValues [.int 3]⟩ .or,
        .member (.name "id") (.select (.query { Query.empty with
          table := some (.name "b")
          select := [⟨none, .column (.name "b.id")⟩]
          order := [.column (.name "at") true]
          limit := some (.value (.int 1)) })) true .and]
    order := [.nulls (.name "name") false] }

theorem Query.counting_across_dialects :
    (∀ node ∈ counting.nodes, node.offset = none)
      ∧ counting.statements .sqlite = counting.statements .common
      ∧ Agree (List.Forall₂ Statement.SameOutside) (counting.statements .mysql)
        (counting.statements .common)
      ∧ (counting.statements .common).isOk = true := by
  have hoffset : ∀ node ∈ counting.nodes, node.offset = none := by decide
  obtain ⟨hsqlite, hmysql⟩ := statements_across_dialects counting hoffset
  obtain ⟨-, houtside⟩ := hmysql (by decide)
  have hrows : ∀ rows, counting.insert = some (.rows rows) → rows.length ≤ 1 := by
    intro rows hinsert
    cases hinsert
  exact ⟨hoffset, hsqlite (by decide) hrows, houtside (by decide) (by decide), rfl⟩

end SqlTree
