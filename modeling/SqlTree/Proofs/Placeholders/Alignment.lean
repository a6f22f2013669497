import SqlTree.Proofs.Placeholders.Fragments

/-!
# Placeholders and values line up

`Query.compileSelect_writes` follows a tree through the compiler, with the
direct writer beside it: at every node, what is compiled fills to what is
written in place, from the values that the node collects.

Two parts of the tree may be written without what they compile to: a test
that says nothing is left out, and so is an order of no values.  Neither
has collected anything by then.
-/

set_option autoImplicit false

namespace SqlTree

open Compiler

variable {literal : Value → String}

/-- The tests that are written are those that are not blank. -/
theorem Criterion.writtenAll_isEmpty (d : Dialect) (cs : List Criterion) :
    (Criterion.writtenAll d literal cs).isEmpty = Criterion.areBlank cs := by
  induction cs with
  | nil => rfl
  | cons c cs ih =>
    rw [Criterion.writtenAll, Criterion.areBlank]
    cases c.isBlank with
    | true => exact ih
    | false => rfl

/-- A condition joins the tests that are not blank. -/
theorem joinsTo_of_fills {d : Dialect} {cs : List Criterion}
    (h : (Criterion.compileAll d .empty cs).Collects fun clause vs =>
      ClauseFills literal clause vs (Clause.empty.joinAll (Criterion.writtenAll d literal cs))) :
    JoinsTo literal (Criterion.compileAll d .empty cs) (Criterion.writtenAll d literal cs) := by
  refine (h.and_returns (Criterion.compileAll_isEmpty d cs)).mono ?_
  intro clause vs ⟨fills, blank⟩
  refine ⟨fills.fills, ?_⟩
  rw [blank, Criterion.writtenAll_isEmpty]

/-- A select list is written after its keyword, or a star where it is
empty. -/
theorem selectList_collects {d : Dialect} (items : List SelectItem)
    (h : List.Forall₂ (WritesTo literal) (SelectItem.compileAll d items)
      (SelectItem.writtenAll d literal items)) :
    (commaList (SelectItem.compileAll d items)).Collects fun columns vs =>
      FillsTo literal ("SELECT " ++ if items.isEmpty then "*" else columns) vs
        ("SELECT " ++ if items.isEmpty then "*"
          else String.intercalate ", " (SelectItem.writtenAll d literal items)) := by
  cases items with
  | cons item items =>
    refine (WritesTo.commaList h).mono ?_
    intro list vs hlist
    exact hlist.plain_append "SELECT "
  | nil =>
    have hnone : (inSequence []).Collects fun _ vs => vs = [] := .pure rfl
    refine hnone.bind ?_
    intro _ vs hvs
    refine .pure ?_
    subst hvs
    have hstar : FillsTo literal "SELECT *" [] "SELECT *" := .plain (by decide)
    exact hstar

mutual

theorem Column.compile_writes (d : Dialect) : ∀ c : Column, AllAligned c.verbatim →
    WritesTo literal (c.compile d) (c.written d literal)
  | .name n, _ => .pure (.plain (d.isPlain_quoteIdentifier n))
  | .query q, h => .subquery (q.compileSelect_writes d h)
  | .expr _, h => .expression h

theorem Operand.compile_writes (d : Dialect) : ∀ o : Operand, AllAligned o.verbatim →
    WritesTo literal (o.compile d) (o.written d literal)
  | .value v, _ => .placeholder literal v
  | .query q, h => .subquery (q.compileSelect_writes d h)
  | .expr _, h => .expression h

theorem Operand.compileAll_writes (d : Dialect) : ∀ os : List Operand,
    AllAligned (Operand.verbatimAll os) →
    List.Forall₂ (WritesTo literal) (Operand.compileAll d os) (Operand.writtenAll d literal os)
  | [], _ => .nil
  | o :: os, h => by
    obtain ⟨ho, hos⟩ := List.forall_mem_append.mp h
    exact .cons (o.compile_writes d ho) (Operand.compileAll_writes d os hos)

theorem Operand.compileOption_writes (d : Dialect) : ∀ o : Option Operand,
    AllAligned (Operand.verbatimSlot o) →
    Option.Rel (WritesTo literal) (Operand.compileOption d o) (Operand.writtenOption d literal o)
  | none, _ => .none
  | some o, h => .some (o.compile_writes d h)

theorem Table.compile_writes (d : Dialect) : ∀ t : Table, AllAligned t.verbatim →
    WritesTo literal (t.compile d) (t.written d literal)
  | .name n, _ => .pure (.plain (d.isPlain_quoteIdentifier n))
  | .query q, h => .subquery (q.compileSelect_writes d h)
  | .raw s, h => .parenthesized (.statement (h (.statement s) List.mem_cons_self))

theorem Table.compileOption_writes (d : Dialect) : ∀ t : Option Table,
    AllAligned (Table.verbatimSlot t) →
    Option.Rel (WritesTo literal) (Table.compileOption d t) (Table.writtenOption d literal t)
  | none, _ => .none
  | some t, h => .some (t.compile_writes d h)

theorem Subquery.compile_writes (d : Dialect) : ∀ s : Subquery,
    AllAligned s.verbatim → WritesTo literal (s.compile d) (s.written d literal)
  | .query q, h => .subquery (q.compileSelect_writes d h)
  | .raw s, h => .parenthesized (.statement (h (.statement s) List.mem_cons_self))

theorem Members.compile_writes (d : Dialect) : ∀ vs : Members,
    AllAligned vs.verbatim → WritesTo literal (vs.compile d) (vs.written d literal)
  | .list vs, h =>
    (WritesTo.commaList (Operand.compileAll_writes d vs h)).bind fun _ _ hlist =>
      .pure ((hlist.plain_append "(").append_plain ")")
  | .select s, h => s.compile_writes d h

theorem Aggregate.compile_writes (d : Dialect) : ∀ a : Aggregate,
    AllAligned a.verbatim → WritesTo literal (a.compile d) (a.written d literal)
  | ⟨function, c⟩, h => by
    obtain ⟨hfunction, hc⟩ := List.forall_mem_cons.mp h
    have hopen : IsPlain (function ++ "(") := IsPlain.append hfunction (by decide)
    exact (c.compile_writes d hc).bind fun _ _ hcolumn =>
      .pure ((hcolumn.plain_append _ hopen).append_plain ")")

theorem Selectable.compile_writes (d : Dialect) : ∀ s : Selectable,
    AllAligned s.verbatim → WritesTo literal (s.compile d) (s.written d literal)
  | .column c, h => c.compile_writes d h
  | .aggregate a, h => a.compile_writes d h

theorem SelectItem.compile_writes (d : Dialect) : ∀ item : SelectItem,
    AllAligned item.verbatim → WritesTo literal (item.compile d) (item.written d literal)
  | ⟨aliasName, s⟩, h =>
    (s.compile_writes d h).bind fun _ _ hs => .pure (WritesTo.aliased d aliasName hs)

theorem SelectItem.compileAll_writes (d : Dialect) : ∀ items : List SelectItem,
    AllAligned (SelectItem.verbatimAll items) →
    List.Forall₂ (WritesTo literal) (SelectItem.compileAll d items)
      (SelectItem.writtenAll d literal items)
  | [], _ => .nil
  | item :: items, h => by
    obtain ⟨hitem, hitems⟩ := List.forall_mem_append.mp h
    exact .cons (item.compile_writes d hitem) (SelectItem.compileAll_writes d items hitems)

theorem Criterion.compile_writes (d : Dialect) : ∀ c : Criterion,
    AllAligned c.verbatim → WritesTo literal (c.compile d) (c.written d literal)
  | .value c rule v _, h => by
    obtain ⟨hc, hv⟩ := List.forall_mem_append.mp h
    unfold Criterion.compile Criterion.written
    refine (WritesTo.rule rule).bind ?_
    intro _ us ⟨hus, hrule⟩
    subst hus
    refine (c.compile_writes d hc).bind ?_
    intro column us hcolumn
    refine (v.compile_writes d hv).bind ?_
    intro value vs hvalue
    have hleft := ((hcolumn.append_plain " ").append_plain rule hrule).append_plain " "
    have htest := hleft.append hvalue
    cases hpattern : isPatternRule rule && v.isTextual with
    | true =>
      refine (WritesTo.placeholder literal escapeChar).bind ?_
      intro escape es hescape
      refine .pure ?_
      exact (htest.append_plain " ESCAPE ").append hescape
    | false => exact .pure htest
  | .columns l rule r _, h => by
    obtain ⟨hl, hr⟩ := List.forall_mem_append.mp h
    unfold Criterion.compile Criterion.written
    refine (WritesTo.rule rule).bind ?_
    intro _ us ⟨hus, hrule⟩
    subst hus
    refine (l.compile_writes d hl).bind ?_
    intro left us hleft
    refine (r.compile_writes d hr).bind ?_
    intro right vs hright
    refine .pure ?_
    exact (((hleft.append_plain " ").append_plain rule hrule).append_plain " ").append hright
  | .between c low high negated _, h => by
    obtain ⟨hcl, hhigh⟩ := List.forall_mem_append.mp h
    obtain ⟨hc, hlow⟩ := List.forall_mem_append.mp hcl
    unfold Criterion.compile Criterion.written
    refine (c.compile_writes d hc).bind ?_
    intro column us hcolumn
    refine (low.compile_writes d hlow).bind ?_
    intro min vs hmin
    refine (high.compile_writes d hhigh).bind ?_
    intro max ws hmax
    refine .pure ?_
    have hnegation := isPlain_negation negated
    have htest := ((hcolumn.plain_append "(").append_plain " ").append_plain _ hnegation
    have hlower := (htest.append_plain "BETWEEN ").append hmin
    exact ((hlower.append_plain " AND ").append hmax).append_plain ")"
  | .group cs negated _, h => by
    unfold Criterion.compile Criterion.written
    refine CollectsFrom.bind (joinsTo_of_fills (Criterion.compileAll_joins d cs h .empty)) ?_
    intro inner vs ⟨hinner, hempty⟩
    refine .pure ?_
    dsimp only
    rw [hempty]
    cases hnone : (Criterion.writtenAll d literal cs).isEmpty with
    | true =>
      rw [hinner.eq_nil (hempty.trans hnone)]
      exact FillsTo.empty
    | false =>
      have hopen : IsPlain (negation negated ++ "(") :=
        (isPlain_negation negated).append (by decide)
      exact (hinner.plain_append _ hopen).append_plain ")"
  | .exists s negated _, h => by
    unfold Criterion.compile Criterion.written
    have hopen : IsPlain (negation negated ++ "EXISTS ") :=
      (isPlain_negation negated).append (by decide)
    exact (s.compile_writes d h).bind fun _ _ hs => .pure (hs.plain_append _ hopen)
  | .member c vs negated _, h => by
    obtain ⟨hc, hvs⟩ := List.forall_mem_append.mp h
    unfold Criterion.compile Criterion.written
    split
    · exact .placeholder literal _
    · have hnegation := isPlain_negation negated
      refine (c.compile_writes d hc).bind ?_
      intro column us hcolumn
      refine (vs.compile_writes d hvs).bind ?_
      intro members ws hmembers
      refine .pure ?_
      have htest := ((hcolumn.append_plain " ").append_plain _ hnegation).append_plain "IN "
      exact htest.append hmembers
  | .null c isNull _, h => by
    unfold Criterion.compile Criterion.written
    have hnegation := isPlain_negation (!isNull)
    refine (c.compile_writes d h).bind ?_
    intro column us hcolumn
    refine .pure ?_
    exact ((hcolumn.append_plain " IS ").append_plain _ hnegation).append_plain "NULL"
  | .raw s _, h => .inline (.statement (h (.statement s) List.mem_cons_self))

theorem Criterion.compileAll_joins (d : Dialect) : ∀ (cs : List Criterion) {clause text : Clause}
    {us : List Value}, AllAligned (Criterion.verbatimAll cs) →
    ClauseFills literal clause us text →
    (Criterion.compileAll d clause cs).CollectsFrom us fun clause' vs =>
      ClauseFills literal clause' vs (text.joinAll (Criterion.writtenAll d literal cs))
  | [], _, _, _, _, hclause => .pure hclause
  | c :: cs, _, _, _, h, hclause => by
    obtain ⟨hc, hcs⟩ := List.forall_mem_append.mp h
    unfold Criterion.compileAll Criterion.writtenAll
    refine ((c.compile_writes d hc).and_returns (c.compile_isEmpty d)).bind ?_
    intro test vs ⟨htest, hblank⟩
    cases hc : c.isBlank with
    | true =>
      rw [hc] at hblank
      rw [Clause.append_of_empty _ _ hblank]
      exact Criterion.compileAll_joins d cs hcs (hclause.append_empty htest hblank)
    | false =>
      rw [hc] at hblank
      rw [Clause.append_of_nonempty _ _ hblank]
      exact Criterion.compileAll_joins d cs hcs (hclause.join c.appendRule htest hblank)

theorem Order.compile_writes (d : Dialect) : ∀ o : Order, AllAligned o.verbatim →
    WritesTo literal (o.compile d) (o.written d literal)
  | .column c descending, h => by
    have hdirection : IsPlain (directionText descending) := by cases descending <;> decide
    exact (c.compile_writes d h).bind fun _ _ hc => .pure (hc.append_plain _ hdirection)
  | .nulls c nullsFirst, h => by
    unfold Order.compile Order.written
    have hnegation := isPlain_negation nullsFirst
    refine (c.compile_writes d h).bind ?_
    intro column us hcolumn
    refine .pure ?_
    exact ((hcolumn.append_plain " IS ").append_plain _ hnegation).append_plain "NULL"
  | .explicit c vs othersFirst, h => by
    obtain ⟨hc, hvs⟩ := List.forall_mem_append.mp h
    unfold Order.compile Order.written
    split
    · exact .pure (.plain (by decide))
    · exact .listedOrder d (c.compile_writes d hc) (Operand.compileAll_writes d vs hvs) othersFirst
  | .random, _ => by
    have hrandom : IsPlain d.randomOrder := by cases d <;> decide
    exact .pure (.plain hrandom)

theorem Order.compileAll_writes (d : Dialect) : ∀ os : List Order,
    AllAligned (Order.verbatimAll os) →
    (inSequence (Order.compileAll d os)).Collects fun sqls vs =>
      FillsAll literal (sqls.filter fun o => !o.isEmpty) vs (Order.writtenAll d literal os)
  | [], _ => .pure .nil
  | o :: os, h => by
    obtain ⟨ho, hos⟩ := List.forall_mem_append.mp h
    unfold Order.compileAll Order.writtenAll
    refine ((o.compile_writes d ho).and_returns (o.compile_isEmpty d)).bind ?_
    intro sql vs ⟨hsql, hblank⟩
    refine (Order.compileAll_writes d os hos).bind ?_
    intro sqls ws hsqls
    refine .pure ?_
    rw [List.filter_cons, hblank]
    cases ho : o.isBlank with
    | true =>
      rw [hsql.eq_nil (hblank.trans ho)]
      exact hsqls
    | false => exact .cons hsql hsqls

theorem Join.compile_writes (d : Dialect) : ∀ j : Join, AllAligned j.verbatim →
    WritesTo literal (j.compile d) (j.written d literal)
  | ⟨kind, t, aliasName, cs⟩, h => by
    obtain ⟨ht, hcs⟩ := List.forall_mem_append.mp h
    unfold Join.compile Join.written
    refine (t.compile_writes d ht).bind ?_
    intro table us htable
    refine CollectsFrom.bind (joinsTo_of_fills (Criterion.compileAll_joins d cs hcs .empty)) ?_
    intro condition vs ⟨hcondition, hempty⟩
    refine .pure ?_
    have hjoin : IsPlain (kind.keyword ++ " JOIN ") := kind.isPlain_keyword.append (by decide)
    have hsource := (WritesTo.aliased d aliasName htable).plain_append _ hjoin
    dsimp only
    rw [hempty]
    cases hnone : (Criterion.writtenAll d literal cs).isEmpty with
    | true =>
      rw [hcondition.eq_nil (hempty.trans hnone)]
      exact hsource.append FillsTo.empty
    | false => exact hsource.append (hcondition.plain_append " ON ")

theorem Join.compileAll_writes (d : Dialect) : ∀ js : List Join,
    AllAligned (Join.verbatimAll js) →
    List.Forall₂ (WritesTo literal) (Join.compileAll d js) (Join.writtenAll d literal js)
  | [], _ => .nil
  | j :: js, h => by
    obtain ⟨hj, hjs⟩ := List.forall_mem_append.mp h
    exact .cons (j.compile_writes d hj) (Join.compileAll_writes d js hjs)

theorem Query.compileSelect_writes (d : Dialect) : ∀ q : Query,
    AllAligned q.verbatim →
    WritesTo literal (q.compileSelect d) (q.writtenSelect d literal)
  | ⟨table, aliasName, items, insert, update, _, joins, criteria, orders, offset, limit⟩, h => by
    obtain ⟨htable, hitems, -, -, hjoins, hcriteria, horders, hoffset, hlimit⟩ :=
      Query.partsAligned _ h
    unfold Query.compileSelect Query.writtenSelect
    refine CollectsFrom.bind (selectList_collects items
      (SelectItem.compileAll_writes d items hitems)) fun columns us hselect => ?_
    refine (WritesTo.target (by decide) .noFromTable (Table.compileOption_writes d table htable)
      aliasName).bind ?_
    intro target vs htarget
    refine (WritesTo.inSequence (Join.compileAll_writes d joins hjoins)).bind ?_
    intro joinLines ws hjoinLines
    refine (clauseParts_collects
      (joinsTo_of_fills (Criterion.compileAll_joins d criteria hcriteria .empty))
      (Order.compileAll_writes d orders horders)
      (WritesTo.window d (Operand.compileOption_writes d offset hoffset)
        (Operand.compileOption_writes d limit hlimit))).bind ?_
    intro tail xs htail
    refine .pure ?_
    have hlines := (FillsAll.cons hselect (.cons htarget hjoinLines)).append htail
    refine FillsAll.intercalate (by decide) ?_
    simpa only [List.nil_append, List.append_assoc] using hlines

end

end SqlTree
