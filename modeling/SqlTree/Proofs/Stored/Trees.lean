import SqlTree.Proofs.Stored.Records
import SqlTree.Proofs.Tree.Scalars

/-!
# Stored trees, read back

`Query.decode_leaner` says that a query is read back from its stored form,
and from whatever is left of it when fields with their defaults are taken
out.

The proof follows the tree: each part is recovered by its reader, given the
readers of the queries and criteria inside of it, in documents that are
nested up to any depth.  Only an infinity and a NaN have no stored form.
-/

set_option autoImplicit false

namespace SqlTree

open Stored

variable {depth : Nat} {holder : String}

/-! ## Leaves -/

theorem AppendRule.recovers (rule : AppendRule) :
    appendRule.Recovers depth holder rule.toJson rule :=
  .keyword (by cases rule <;> decide)

theorem JoinKind.recovers (kind : JoinKind) :
    joinKind.Recovers depth holder kind.toJson kind :=
  .keyword (by cases kind <;> decide)

/-- The kind of a join is left out for INNER. -/
theorem JoinKind.inner_of_omitted (kind : JoinKind)
    (h : omitted? holder "kind" = some kind.toJson) : some JoinKind.inner = some kind := by
  have hkeyword := Json.string.inj (Option.some.inj h)
  cases kind with
  | inner => rfl
  | left | right | outer | cross => exact absurd hkeyword (by decide)

/-- A value that can be stored is recovered. -/
theorem Value.recovers : ∀ {v : Value}, v.IsStorable → value.Recovers depth holder v.toJson v
  | .null, _ => Choice.recovers_unit rfl
  | .bool b, _ => Choice.recovers_single rfl (.bool b)
  | .int n, _ => Choice.recovers_single rfl (.int64 n)
  | .float _, hv => Choice.recovers_single rfl (.float hv)
  | .text s, _ => Choice.recovers_single rfl (.string s)
  | .timestamp t, _ => Choice.recovers_single rfl (.timestamp t)

/-- The field for the append rule, which is left out for AND. -/
theorem AppendRule.holds (rule : AppendRule) :
    (Fields.cons appendField .nil).Holds depth holder (rule, ())
      [("append_rule", rule.toJson)] := by
  refine .member rule.recovers (fun homit => ?_) .nil
  cases rule with
  | and => rfl
  | or => exact absurd (Json.string.inj (Option.some.inj homit)) (by decide)

/-- A binding without a name is stored without one. -/
theorem Binding.recovers {b : Binding} (hb : b.value.IsStorable) :
    binding.Recovers depth holder b.toJson b := by
  obtain ⟨name, v⟩ := b
  have hvalue : (Fields.cons (.required "value" Stored.value) .nil).Holds depth holder (v, ())
      [("value", v.toJson)] := .required (Value.recovers hb) .nil
  cases name with
  | none => exact Record.recovers_within (.absent rfl hvalue) rfl
  | some name => exact Record.recovers_within (.optional (.name (some name)) hvalue) rfl

theorem Bindings.recovers {b : Bindings} (hb : AllStorable b.values) :
    bindings.Recovers depth holder b.toJson b := by
  obtain ⟨entries⟩ := b
  have hall : binding.RecoversAll depth holder (entries.map Binding.toJson) entries := by
    rw [Reader.RecoversAll, List.forall₂_map_left_iff, List.forall₂_same]
    exact fun b hb' => Binding.recovers (hb _ (List.mem_map_of_mem hb'))
  exact (Reader.Recovers.list hall).map Bindings.mk

/-- The values of a statement are left out where there are none. -/
theorem Statement.recovers {s : Statement} (hs : AllStorable s.bindings.values) :
    statement.Recovers depth holder s.toJson s := by
  obtain ⟨sql, ⟨entries⟩⟩ := s
  refine Record.recovers_within (.required (.string sql)
    (.member (Bindings.recovers hs) (fun homit => ?_) .nil)) rfl
  cases entries with
  | nil => rfl
  | cons => cases homit

theorem Expression.recovers : ∀ {e : Expression}, AllStorable e.scalars →
    expression.Recovers depth holder e.toJson e
  | .raw _, he => Choice.recovers_single rfl (Statement.recovers he)
  | .value v, he => Choice.recovers_single rfl (Value.recovers (he v List.mem_cons_self))
  | .column name, _ => Choice.recovers_single rfl (.string name)

/-! ## Trees -/

/-- The reader of queries in documents nested up to a depth. -/
abbrev Stored.queryUpTo (depth : Nat) : Reader Query :=
  (TreeReaders.upTo (depth + 1)).query

/-- The reader of criteria in documents nested up to a depth. -/
abbrev Stored.criterionUpTo (depth : Nat) : Reader Criterion :=
  (TreeReaders.upTo (depth + 1)).criterion

/-- A list of criteria may be left out, but not the one of a group. -/
theorem Fields.Holds.criteria {αs : List Type} {fields : Fields αs} {as : Values αs}
    {members : List (String × Json)} {read : Reader Criterion} {vs : List Json}
    {cs : List Criterion} (h : read.RecoversAll depth "criteria" vs cs)
    (hs : fields.Holds depth holder as members) :
    (cons (.list "criteria" read) fields).Holds depth holder (cs, as)
      (("criteria", .array vs) :: members) := by
  refine .list h hs ?_
  by_cases hholder : holder = "Group"
  · exact .inl (if_pos hholder)
  · exact .inr (if_neg hholder)

/-- A criterion is recovered at every depth where it is at those that a
criterion can have. -/
theorem Criterion.recovers_of_inside {c : Criterion}
    (h : ∀ {depth : Nat} {holder : String},
      (Choice.read (criterionChoice (queryUpTo depth) (criterionUpTo depth))).Recovers
        (depth + 1) holder c.toJson c) :
    (criterionUpTo depth).Recovers depth holder c.toJson c := by
  cases depth with
  | zero => cases c <;> exact .of_object
  | succ depth => exact h

-- By induction on the tree, for every depth.  A query or a criterion takes away
-- from the depth, and its readers inside are the ones for what remains.
mutual

theorem Column.recovers : ∀ (c : Column) {depth : Nat} {holder : String}, AllStorable c.scalars →
    (column (queryUpTo depth)).Recovers depth holder c.toJson c
  | .name n, _, _, _ => Choice.recovers_single rfl (.string n)
  | .query q, _, _, h => Choice.recovers_single rfl (q.recovers h)
  | .expr _, _, _, h => Choice.recovers_single rfl (Expression.recovers h)

theorem Operand.recovers : ∀ (o : Operand) {depth : Nat} {holder : String},
    AllStorable o.scalars → (operand (queryUpTo depth)).Recovers depth holder o.toJson o
  | .value v, _, _, h => Choice.recovers_single rfl (Value.recovers (h v List.mem_cons_self))
  | .query q, _, _, h => Choice.recovers_single rfl (q.recovers h)
  | .expr _, _, _, h => Choice.recovers_single rfl (Expression.recovers h)

theorem Operand.recoversSlot : ∀ (o : Option Operand) {depth : Nat} {holder : String},
    AllStorable (Operand.scalarsSlot o) →
    (operand (queryUpTo depth)).RecoversSlot depth holder (Operand.slotToJson o) o
  | none, _, _, _ => .none
  | some o, _, _, h => .some (by cases o <;> nofun) (o.recovers h)

theorem Operand.recoversAll : ∀ (os : List Operand) {depth : Nat} {holder : String},
    AllStorable (Operand.scalarsAll os) →
    (operand (queryUpTo depth)).RecoversAll depth holder (Operand.allToJson os) os
  | [], _, _, _ => .nil
  | o :: os, _, _, h => by
    obtain ⟨ho, hos⟩ := List.forall_mem_append.mp h
    exact .cons (o.recovers ho) (Operand.recoversAll os hos)

theorem Table.recovers : ∀ (t : Table) {depth : Nat} {holder : String},
    AllStorable t.scalars → (table (queryUpTo depth)).Recovers depth holder t.toJson t
  | .name n, _, _, _ => Choice.recovers_single rfl (.string n)
  | .query q, _, _, h => Choice.recovers_single rfl (q.recovers h)
  | .raw _, _, _, h => Choice.recovers_single rfl (Statement.recovers h)

theorem Table.recoversSlot : ∀ (t : Option Table) {depth : Nat} {holder : String},
    AllStorable (Table.scalarsSlot t) →
    (table (queryUpTo depth)).RecoversSlot depth holder (Table.slotToJson t) t
  | none, _, _, _ => .none
  | some t, _, _, h => .some (by cases t <;> nofun) (t.recovers h)

theorem Subquery.recovers : ∀ (s : Subquery) {depth : Nat} {holder : String},
    AllStorable s.scalars → (subquery (queryUpTo depth)).Recovers depth holder s.toJson s
  | .query q, _, _, h => Choice.recovers_single rfl (q.recovers h)
  | .raw _, _, _, h => Choice.recovers_single rfl (Statement.recovers h)

theorem Members.recovers : ∀ (vs : Members) {depth : Nat} {holder : String},
    AllStorable vs.scalars → (members (queryUpTo depth)).Recovers depth holder vs.toJson vs
  | .list vs, _, _, h => Choice.recovers_single rfl (.list (Operand.recoversAll vs h))
  | .select s, _, _, h => Choice.recovers_single rfl (s.recovers h)

theorem Aggregate.recovers : ∀ (a : Aggregate) {depth : Nat} {holder : String},
    AllStorable a.scalars → (aggregate (queryUpTo depth)).Recovers depth holder a.toJson a
  | ⟨function, c⟩, _, _, h =>
    Record.recovers_within (.required (.string function) <| .required (c.recovers h) .nil) rfl

theorem Selectable.recovers : ∀ (s : Selectable) {depth : Nat} {holder : String},
    AllStorable s.scalars → (selectable (queryUpTo depth)).Recovers depth holder s.toJson s
  | .column c, _, _, h => Choice.recovers_single rfl (c.recovers h)
  | .aggregate a, _, _, h => Choice.recovers_single rfl (a.recovers h)

theorem SelectItem.recovers : ∀ (item : SelectItem) {depth : Nat} {holder : String},
    AllStorable item.scalars →
    (selectItem (queryUpTo depth)).Recovers depth holder item.toJson item
  | ⟨aliasName, s⟩, _, _, h =>
    Record.recovers_within (.optional (.name aliasName) <| .required (s.recovers h) .nil) rfl

theorem SelectItem.recoversAll : ∀ (items : List SelectItem) {depth : Nat} {holder : String},
    AllStorable (SelectItem.scalarsAll items) →
    (selectItem (queryUpTo depth)).RecoversAll depth holder (SelectItem.allToJson items) items
  | [], _, _, _ => .nil
  | item :: items, _, _, h => by
    obtain ⟨hitem, hitems⟩ := List.forall_mem_append.mp h
    exact .cons (item.recovers hitem) (SelectItem.recoversAll items hitems)

theorem Criterion.recoversInside : ∀ (c : Criterion) {depth : Nat} {holder : String},
    AllStorable c.scalars →
    (Choice.read (criterionChoice (queryUpTo depth) (criterionUpTo depth))).Recovers
      (depth + 1) holder c.toJson c
  | .value c rule v append, _, _, h => by
    obtain ⟨hc, hv⟩ := List.forall_mem_append.mp h
    exact Choice.recovers_record rfl
      (.required (c.recovers hc) <| .required (.string rule) <|
        .required (v.recovers hv) append.holds) rfl
  | .columns l rule r append, _, _, h => by
    obtain ⟨hl, hr⟩ := List.forall_mem_append.mp h
    exact Choice.recovers_record rfl
      (.required (l.recovers hl) <| .required (.string rule) <|
        .required (r.recovers hr) append.holds) rfl
  | .between c low high negated append, _, _, h => by
    obtain ⟨hvs, hhigh⟩ := List.forall_mem_append.mp h
    obtain ⟨hc, hlow⟩ := List.forall_mem_append.mp hvs
    exact Choice.recovers_record rfl
      (.required (c.recovers hc) <| .required (low.recovers hlow) <|
        .required (high.recovers hhigh) <| .flag append.holds) rfl
  | .group cs negated append, _, _, h =>
    Choice.recovers_record rfl
      (.required (.list (Criterion.recoversAll cs h)) <| .flag append.holds) rfl
  | .exists s negated append, _, _, h =>
    Choice.recovers_record rfl (.required (s.recovers h) <| .flag append.holds) rfl
  | .member c vs negated append, _, _, h => by
    obtain ⟨hc, hvs⟩ := List.forall_mem_append.mp h
    exact Choice.recovers_record rfl
      (.required (c.recovers hc) <| .required (vs.recovers hvs) <|
        .flag append.holds) rfl
  | .null c isNull append, _, _, h =>
    Choice.recovers_record rfl
      (.required (c.recovers h) <| .required (.bool isNull) append.holds) rfl
  | .raw s append, _, _, h =>
    Choice.recovers_record rfl (.required (Statement.recovers h) append.holds) rfl

theorem Criterion.recoversAll : ∀ (cs : List Criterion) {depth : Nat} {holder : String},
    AllStorable (Criterion.scalarsAll cs) →
    (criterionUpTo depth).RecoversAll depth holder (Criterion.allToJson cs) cs
  | [], _, _, _ => .nil
  | c :: cs, _, _, h => by
    obtain ⟨hc, hcs⟩ := List.forall_mem_append.mp h
    exact .cons (Criterion.recovers_of_inside (c.recoversInside hc)) (Criterion.recoversAll cs hcs)

theorem Order.recovers : ∀ (o : Order) {depth : Nat} {holder : String},
    AllStorable o.scalars → (order (queryUpTo depth)).Recovers depth holder o.toJson o
  | .column c descending, _, _, h =>
    .mono (Choice.recovers_record rfl (.required (c.recovers h) <| .flag .nil) rfl) (Nat.le_succ _)
  | .nulls c nullsFirst, _, _, h =>
    .mono (Choice.recovers_record rfl
      (.required (c.recovers h) <| .required (.bool nullsFirst) .nil) rfl) (Nat.le_succ _)
  | .explicit c vs othersFirst, _, _, h => by
    obtain ⟨hc, hvs⟩ := List.forall_mem_append.mp h
    exact .mono (Choice.recovers_record rfl
      (.required (c.recovers hc) <| .required (.list (Operand.recoversAll vs hvs)) <|
        .flag .nil) rfl) (Nat.le_succ _)
  | .random, _, _, _ => Choice.recovers_unit rfl

theorem Order.recoversAll : ∀ (os : List Order) {depth : Nat} {holder : String},
    AllStorable (Order.scalarsAll os) →
    (order (queryUpTo depth)).RecoversAll depth holder (Order.allToJson os) os
  | [], _, _, _ => .nil
  | o :: os, _, _, h => by
    obtain ⟨ho, hos⟩ := List.forall_mem_append.mp h
    exact .cons (o.recovers ho) (Order.recoversAll os hos)

theorem Join.recovers : ∀ (j : Join) {depth : Nat} {holder : String}, AllStorable j.scalars →
    (join (queryUpTo depth) (criterionUpTo depth)).Recovers depth holder j.toJson j
  | ⟨kind, t, aliasName, cs⟩, _, _, h => by
    obtain ⟨ht, hcs⟩ := List.forall_mem_append.mp h
    exact Record.recovers_within
      (.member kind.recovers kind.inner_of_omitted <|
        .required (t.recovers ht)
          (.optional (.name aliasName) <| .criteria (Criterion.recoversAll cs hcs) .nil)
          (by cases t <;> nofun)) rfl

theorem Join.recoversAll : ∀ (js : List Join) {depth : Nat} {holder : String},
    AllStorable (Join.scalarsAll js) →
    (join (queryUpTo depth) (criterionUpTo depth)).RecoversAll depth holder (Join.allToJson js) js
  | [], _, _, _ => .nil
  | j :: js, _, _, h => by
    obtain ⟨hj, hjs⟩ := List.forall_mem_append.mp h
    exact .cons (j.recovers hj) (Join.recoversAll js hjs)

theorem Assignment.recovers : ∀ (a : Assignment) {depth : Nat} {holder : String},
    AllStorable a.scalars → (assignment (queryUpTo depth)).Recovers depth holder a.toJson a
  | ⟨column, v⟩, _, _, h => (Reader.Recovers.pair (.string column) (v.recovers h)).map _

theorem Assignment.recoversAll : ∀ (row : List Assignment) {depth : Nat} {holder : String},
    AllStorable (Assignment.scalarsAll row) →
    (assignment (queryUpTo depth)).RecoversAll depth holder (Assignment.allToJson row) row
  | [], _, _, _ => .nil
  | a :: row, _, _, h => by
    obtain ⟨ha, hrow⟩ := List.forall_mem_append.mp h
    exact .cons (a.recovers ha) (Assignment.recoversAll row hrow)

theorem Assignment.recoversRows : ∀ (rows : List (List Assignment)) {depth : Nat}
    {holder : String}, AllStorable (Assignment.scalarsRows rows) →
    (row (queryUpTo depth)).RecoversAll depth holder (Assignment.rowsToJson rows) rows
  | [], _, _, _ => .nil
  | row :: rows, _, _, h => by
    obtain ⟨hrow, hrows⟩ := List.forall_mem_append.mp h
    exact .cons (.list (Assignment.recoversAll row hrow)) (Assignment.recoversRows rows hrows)

theorem InsertSelect.recovers : ∀ (s : InsertSelect) {depth : Nat} {holder : String},
    AllStorable s.scalars → (insertSelect (queryUpTo depth)).Recovers depth holder s.toJson s
  | ⟨columns, q⟩, _, _, h =>
    Record.recovers_within
      (.optional (.names columns) <| .required (q.recovers h) .nil (by cases q; nofun)) rfl

theorem Insert.recovers : ∀ (i : Insert) {depth : Nat} {holder : String},
    AllStorable i.scalars → (insert (queryUpTo depth)).Recovers depth holder i.toJson i
  | .rows rows, _, _, h => Choice.recovers_single rfl (.list (Assignment.recoversRows rows h))
  | .select s, _, _, h => Choice.recovers_single rfl (s.recovers h)

theorem Insert.recoversSlot : ∀ (i : Option Insert) {depth : Nat} {holder : String},
    AllStorable (Insert.scalarsSlot i) →
    (insert (queryUpTo depth)).RecoversSlot depth holder (Insert.slotToJson i) i
  | none, _, _, _ => .none
  | some i, _, _, h => .some (by cases i <;> nofun) (i.recovers h)

theorem Query.recovers : ∀ (q : Query) {depth : Nat} {holder : String},
    AllStorable q.scalars → (queryUpTo depth).Recovers depth holder q.toJson q
  | ⟨_, _, _, _, _, _, _, _, _, _, _⟩, 0, _, _ => .of_object
  | ⟨table, aliasName, select, source, update, delete, joins, criteria, order, offset, limit⟩,
    _ + 1, _, h => by
    have parts := Query.partsStorable _ h
    exact Record.recovers
      (.optional (Table.recoversSlot table parts.table) <|
        .optional (.name aliasName) <|
        .list (SelectItem.recoversAll select parts.select) <|
        .optional (Insert.recoversSlot source parts.insert) <|
        .list (Assignment.recoversAll update parts.update) <|
        .flag <|
        .list (Join.recoversAll joins parts.joins) <|
        .criteria (Criterion.recoversAll criteria parts.criteria) <|
        .list (Order.recoversAll order parts.order) <|
        .optional (Operand.recoversSlot offset parts.offset) <|
        .optional (Operand.recoversSlot limit parts.limit) .nil) rfl

end

/-! ## Documents -/

/-- **The stored form of a tree loses nothing.**  A query is read back from
its stored form, and from what is left of it when any fields with their
default values are taken out, anywhere in it. -/
theorem Query.decode_leaner (q : Query) (hq : AllStorable q.scalars) :
    Stored.query.decode q.toJson = .ok q
      ∧ ∀ {v : Json}, q.toJson.Leaner "" v → Stored.query.decode v = .ok q := by
  have hleaner : ∀ {v : Json}, q.toJson.Leaner "" v → Stored.query.decode v = .ok q :=
    fun hlean => (q.recovers hq).reads hlean le_rfl
  exact ⟨hleaner (.refl "" q.toJson), hleaner⟩

/-- A query with a test and a number, which is read back from its table, its
test and its limit. -/
def Query.largeOrders : Query :=
  { Query.empty with
    table := some (.name "orders")
    criteria := [.value (.name "total") ">" (.value (.float ⟨0x3FF8000000000000⟩)) .and]
    limit := some (.value (.int 10)) }

/-- What is left of it without its default values. -/
def Json.largeOrders : Json :=
  .object
    [("table", .variant "Name" (.string "orders")),
     ("criteria", .array
        [.variant "Value" (.object
          [("column", .variant "Name" (.string "total")), ("rule", .string ">"),
           ("value", .variant "Value"
              (.variant "Float" (.number (.float ⟨0x3FF8000000000000⟩))))])]),
     ("limit", .variant "Value" (.variant "Int" (.number (.integer 10))))]

theorem Query.largeOrders_decode :
    AllStorable Query.largeOrders.scalars ∧ Query.largeOrders.toJson.Leaner "" Json.largeOrders
      ∧ Stored.query.decode Json.largeOrders = .ok Query.largeOrders := by
  have hq : AllStorable Query.largeOrders.scalars := by decide
  have htest : Json.LeanerItems "criteria" (Criterion.allToJson Query.largeOrders.criteria)
      [.variant "Value" (.object
        [("column", .variant "Name" (.string "total")), ("rule", .string ">"),
         ("value", .variant "Value"
            (.variant "Float" (.number (.float ⟨0x3FF8000000000000⟩))))])] :=
    .cons (.object <| .keep (.object <| .keep (.refl _ _) <| .keep .string <|
      .keep (.refl _ _) <| .drop rfl .nil) .nil) .nil
  have hleaner : Query.largeOrders.toJson.Leaner "" Json.largeOrders :=
    .object <| .keep (.refl _ _) <| .drop rfl <| .drop rfl <| .drop rfl <| .drop rfl <|
      .drop rfl <| .drop rfl <| .keep (.array htest) <| .drop rfl <| .drop rfl <|
      .keep (.refl _ _) .nil
  exact ⟨hq, hleaner, (Query.decode_leaner Query.largeOrders hq).2 hleaner⟩

end SqlTree
