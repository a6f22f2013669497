import SqlTree.Proofs.Likeness.Basic

/-!
# Alike trees compile alike

As SELECTs, alike trees fail with the same error or compile to related
texts with the same bindings (`Query.compileSelect_mirrors`).
-/

set_option autoImplicit false
set_option linter.unusedSectionVars false

namespace SqlTree

open Compiler

section

variable {L : Likeness}

theorem Members.Like.isEmpty_eq {vs vs' : Members} (h : vs.Like L vs') :
    vs.isEmpty = vs'.isEmpty := by
  cases vs with
  | list vs =>
    obtain ⟨ws, rfl, hws⟩ := h
    cases vs with
    | nil =>
      obtain rfl : ws = [] := hws
      rfl
    | cons v vs =>
      obtain ⟨_, _, rfl, -⟩ := hws
      rfl
  | select s =>
    obtain ⟨s', rfl, -⟩ := h
    rfl

theorem Operand.LikeAll.isEmpty_eq {vs vs' : List Operand} (h : Operand.LikeAll L vs vs') :
    vs.isEmpty = vs'.isEmpty := by
  cases vs with
  | nil =>
    obtain rfl : vs' = [] := h
    rfl
  | cons v vs =>
    obtain ⟨_, _, rfl, -⟩ := h
    rfl

theorem SelectItem.LikeAll.isEmpty_eq {items items' : List SelectItem}
    (h : SelectItem.LikeAll L items items') : items.isEmpty = items'.isEmpty := by
  cases items with
  | nil =>
    obtain rfl : items' = [] := h
    rfl
  | cons item items =>
    obtain ⟨_, _, rfl, -⟩ := h
    rfl

theorem Operand.Like.isTextual_eq {v v' : Operand} (h : v.Like L v') :
    v.isTextual = v'.isTextual := by
  cases v with
  | value v =>
    obtain rfl : v' = .value v := h
    rfl
  | query q =>
    obtain ⟨_, rfl, -⟩ := h
    rfl
  | expr e =>
    obtain ⟨_, rfl, -⟩ := h
    rfl

theorem Criterion.Like.appendRule_eq {c c' : Criterion} (h : c.Like L c') :
    c'.appendRule = c.appendRule := by
  cases c with
  | value => obtain ⟨_, _, rfl, -⟩ := h; rfl
  | columns => obtain ⟨_, _, rfl, -⟩ := h; rfl
  | between => obtain ⟨_, _, _, rfl, -⟩ := h; rfl
  | group => obtain ⟨_, rfl, -⟩ := h; rfl
  | «exists» => obtain ⟨_, rfl, -⟩ := h; rfl
  | member => obtain ⟨_, _, rfl, -⟩ := h; rfl
  | null => obtain ⟨_, rfl, -⟩ := h; rfl
  | raw => obtain ⟨_, rfl, -⟩ := h; rfl

/-- Aliases that are alike are quoted to related texts. -/
theorem Likeness.aliases_quoted {aliasName aliasName' : Option String}
    (h : Option.Rel L.Aliases aliasName aliasName') :
    Option.Rel (fun a a' => L.texts.Holds (L.left.quoteName a) (L.right.quoteName a'))
      aliasName aliasName' := by
  cases h with
  | none => exact .none
  | some h => exact .some (L.aliases_hold h)

theorem Statement.Like.parenthesized_mirrors {s s' : Statement} (h : s.Like L s') :
    Mirrors L.texts (parenthesized s) (parenthesized s') := by
  obtain ⟨rfl, hsql⟩ := h
  exact .parenthesized hsql rfl

theorem Expression.Like.compile_mirrors {e e' : Expression} (h : e.Like L e') :
    Mirrors L.texts e.compile e'.compile := by
  obtain ⟨rfl, hsql⟩ := h
  exact .parenthesized hsql rfl

/-- The window of one dialect, or of two where there is no offset. -/
theorem Operand.window_mirrors {offset offset' : Option Operand}
    {limit limit' : Option (Compiler String)}
    (hoffset : Option.Rel (Mirrors L.texts) (Operand.compileOption L.left offset)
      (Operand.compileOption L.right offset'))
    (hlimit : Option.Rel (Mirrors L.texts) limit limit')
    (hwindow : offset = none ∨ L.left = L.right) :
    MirrorsAll L.texts (L.left.window (Operand.compileOption L.left offset) limit)
      (L.right.window (Operand.compileOption L.right offset') limit') := by
  rcases hwindow with rfl | hsame
  · have hnone : Operand.compileOption L.right offset' = none := by
      cases offset' with
      | none => rfl
      | some offset' => cases hoffset
    rw [hnone]
    exact Mirrors.window_none L.left L.right hlimit
  · rw [hsame] at hoffset ⊢
    exact Mirrors.window L.right hoffset hlimit

mutual

theorem Column.compile_mirrors : ∀ {c c' : Column}, c.Like L c' →
    Mirrors L.texts (c.compile L.left) (c'.compile L.right)
  | .name _, _, ⟨_, rfl, h⟩ => .pure (L.names_hold h)
  | .query _, _, ⟨_, rfl, h⟩ => .subquery (Query.compileSelect_mirrors h)
  | .expr _, _, ⟨_, rfl, h⟩ => h.compile_mirrors

theorem Operand.compile_mirrors : ∀ {o o' : Operand}, o.Like L o' →
    Mirrors L.texts (o.compile L.left) (o'.compile L.right)
  | .value v, _, rfl => .placeholder L.texts v
  | .query _, _, ⟨_, rfl, h⟩ => .subquery (Query.compileSelect_mirrors h)
  | .expr _, _, ⟨_, rfl, h⟩ => h.compile_mirrors

theorem Operand.compileAll_mirrors : ∀ {os os' : List Operand}, Operand.LikeAll L os os' →
    List.Forall₂ (Mirrors L.texts) (Operand.compileAll L.left os) (Operand.compileAll L.right os')
  | [], _, rfl => .nil
  | _ :: _, _, ⟨_, _, rfl, ho, hos⟩ =>
    .cons (Operand.compile_mirrors ho) (Operand.compileAll_mirrors hos)

theorem Operand.compileOption_mirrors : ∀ {o o' : Option Operand}, Operand.LikeSlot L o o' →
    Option.Rel (Mirrors L.texts) (Operand.compileOption L.left o)
      (Operand.compileOption L.right o')
  | none, _, rfl => .none
  | some _, _, ⟨_, rfl, h⟩ => .some (Operand.compile_mirrors h)

theorem Table.compile_mirrors : ∀ {t t' : Table}, t.Like L t' →
    Mirrors L.texts (t.compile L.left) (t'.compile L.right)
  | .name _, _, ⟨_, rfl, h⟩ => .pure (L.names_hold h)
  | .query _, _, ⟨_, rfl, h⟩ => .subquery (Query.compileSelect_mirrors h)
  | .raw _, _, ⟨_, rfl, h⟩ => h.parenthesized_mirrors

theorem Table.compileOption_mirrors : ∀ {t t' : Option Table}, Table.LikeSlot L t t' →
    Option.Rel (Mirrors L.texts) (Table.compileOption L.left t) (Table.compileOption L.right t')
  | none, _, rfl => .none
  | some _, _, ⟨_, rfl, h⟩ => .some (Table.compile_mirrors h)

theorem Subquery.compile_mirrors : ∀ {s s' : Subquery}, s.Like L s' →
    Mirrors L.texts (s.compile L.left) (s'.compile L.right)
  | .query _, _, ⟨_, rfl, h⟩ => .subquery (Query.compileSelect_mirrors h)
  | .raw _, _, ⟨_, rfl, h⟩ => h.parenthesized_mirrors

theorem Members.compile_mirrors : ∀ {vs vs' : Members}, vs.Like L vs' →
    Mirrors L.texts (vs.compile L.left) (vs'.compile L.right)
  | .list _, _, ⟨_, rfl, h⟩ =>
    (Mirrors.commaList (Operand.compileAll_mirrors h)).bind fun _ _ hlist =>
      .pure ((hlist.after "(").before ")")
  | .select _, _, ⟨_, rfl, h⟩ => Subquery.compile_mirrors h

theorem Aggregate.compile_mirrors : ∀ {a a' : Aggregate}, a.Like L a' →
    Mirrors L.texts (a.compile L.left) (a'.compile L.right)
  | ⟨_, _⟩, ⟨_, _⟩, ⟨rfl, hfunction, h⟩ =>
    (Column.compile_mirrors h).bind fun _ _ hc =>
      .pure (((hfunction.before "(").append hc).before ")")

theorem Selectable.compile_mirrors : ∀ {s s' : Selectable}, s.Like L s' →
    Mirrors L.texts (s.compile L.left) (s'.compile L.right)
  | .column _, _, ⟨_, rfl, h⟩ => Column.compile_mirrors h
  | .aggregate _, _, ⟨_, rfl, h⟩ => Aggregate.compile_mirrors h

theorem SelectItem.compile_mirrors : ∀ {item item' : SelectItem}, item.Like L item' →
    Mirrors L.texts (item.compile L.left) (item'.compile L.right)
  | ⟨_, _⟩, ⟨_, _⟩, ⟨halias, h⟩ =>
    (Selectable.compile_mirrors h).bind fun _ _ hsql =>
      .pure (hsql.aliased (Likeness.aliases_quoted halias))

theorem SelectItem.compileAll_mirrors : ∀ {items items' : List SelectItem},
    SelectItem.LikeAll L items items' →
      List.Forall₂ (Mirrors L.texts) (SelectItem.compileAll L.left items)
        (SelectItem.compileAll L.right items')
  | [], _, rfl => .nil
  | _ :: _, _, ⟨_, _, rfl, hitem, hitems⟩ =>
    .cons (SelectItem.compile_mirrors hitem) (SelectItem.compileAll_mirrors hitems)

theorem Criterion.compile_mirrors : ∀ {c c' : Criterion}, c.Like L c' →
    Mirrors L.texts (c.compile L.left) (c'.compile L.right)
  | .value c rule v append, _, ⟨c', v', rfl, hc, hv⟩ => by
    unfold Criterion.compile
    refine (Mirrors.rule L.texts rule).bind ?_
    intro _ _ hrule
    refine (Column.compile_mirrors hc).bind ?_
    intro column column' hcolumn
    refine (Operand.compile_mirrors hv).bind ?_
    intro value value' hvalue
    have htest := (((hcolumn.before " ").append hrule).before " ").append hvalue
    rw [Operand.Like.isTextual_eq hv]
    dsimp only
    split
    · refine (Mirrors.placeholder L.texts escapeChar).bind ?_
      intro escape escape' hescape
      exact .pure ((htest.before " ESCAPE ").append hescape)
    · exact .pure htest
  | .columns l rule r append, _, ⟨l', r', rfl, hl, hr⟩ => by
    unfold Criterion.compile
    refine (Mirrors.rule L.texts rule).bind ?_
    intro _ _ hrule
    refine (Column.compile_mirrors hl).bind ?_
    intro left left' hleft
    refine (Column.compile_mirrors hr).bind ?_
    intro right right' hright
    exact .pure ((((hleft.before " ").append hrule).before " ").append hright)
  | .between c low high negated append, _, ⟨c', low', high', rfl, hc, hlow, hhigh⟩ => by
    unfold Criterion.compile
    have hnegation := (isPlain_negation negated).ends
    refine (Column.compile_mirrors hc).bind ?_
    intro column column' hcolumn
    refine (Operand.compile_mirrors hlow).bind ?_
    intro min min' hmin
    refine (Operand.compile_mirrors hhigh).bind ?_
    intro max max' hmax
    have hrange := (((hcolumn.after "(").before " ").before _ hnegation).before "BETWEEN "
    exact .pure ((((hrange.append hmin).before " AND ").append hmax).before ")")
  | .group cs negated append, _, ⟨cs', rfl, hcs⟩ => by
    unfold Criterion.compile
    have hnegation : EndsUnquoted (negation negated ++ "(") :=
      (isPlain_negation negated).ends.append (by decide)
    refine (Criterion.compileAll_mirrors hcs .empty).bind ?_
    intro inner inner' hinner
    rw [L.texts.isEmpty_eq hinner.sql]
    refine .pure ?_
    split
    · exact .fixed ""
    · exact (hinner.sql.after _ hnegation).before ")"
  | .exists s negated append, _, ⟨s', rfl, hs⟩ => by
    unfold Criterion.compile
    have hnegation : EndsUnquoted (negation negated ++ "EXISTS ") :=
      (isPlain_negation negated).ends.append (by decide)
    exact (Subquery.compile_mirrors hs).bind fun _ _ hsql => .pure (hsql.after _ hnegation)
  | .member c vs negated append, _, ⟨c', vs', rfl, hc, hvs⟩ => by
    unfold Criterion.compile
    rw [Members.Like.isEmpty_eq hvs]
    split
    · exact .placeholder L.texts _
    · have hnegation := (isPlain_negation negated).ends
      refine (Column.compile_mirrors hc).bind ?_
      intro column column' hcolumn
      refine (Members.compile_mirrors hvs).bind ?_
      intro members members' hmembers
      have hin := ((hcolumn.before " ").before _ hnegation).before "IN "
      exact .pure (hin.append hmembers)
  | .null c isNull append, _, ⟨c', rfl, hc⟩ => by
    unfold Criterion.compile
    have hnegation := (isPlain_negation (!isNull)).ends
    refine (Column.compile_mirrors hc).bind ?_
    intro column column' hcolumn
    exact .pure (((hcolumn.before " IS ").before _ hnegation).before "NULL")
  | .raw _ _, _, ⟨_, rfl, rfl, hsql⟩ => .inline hsql

theorem Criterion.compileAll_mirrors : ∀ {cs cs' : List Criterion}, Criterion.LikeAll L cs cs' →
    ∀ {clause clause' : Clause}, Clause.Related L.texts clause clause' →
      Tied Eq (Clause.Related L.texts) (Criterion.compileAll L.left clause cs)
        (Criterion.compileAll L.right clause' cs')
  | [], _, rfl, _, _, hclause => .pure hclause
  | c :: _, _, ⟨c', _, rfl, hc, hcs⟩, _, _, hclause => by
    unfold Criterion.compileAll
    refine (Criterion.compile_mirrors hc).bind ?_
    intro test test' htest
    rw [Criterion.Like.appendRule_eq hc]
    exact Criterion.compileAll_mirrors hcs (hclause.append c.appendRule htest)

theorem Order.compile_mirrors : ∀ {o o' : Order}, o.Like L o' →
    Mirrors L.texts (o.compile L.left) (o'.compile L.right)
  | .column c descending, _, ⟨_, rfl, hc⟩ => by
    have hdirection : EndsUnquoted (directionText descending) := by cases descending <;> decide
    exact (Column.compile_mirrors hc).bind fun _ _ hsql => .pure (hsql.before _ hdirection)
  | .nulls c nullsFirst, _, ⟨_, rfl, hc⟩ => by
    unfold Order.compile
    have hnegation := (isPlain_negation nullsFirst).ends
    refine (Column.compile_mirrors hc).bind ?_
    intro column column' hcolumn
    exact .pure (((hcolumn.before " IS ").before _ hnegation).before "NULL")
  | .explicit c vs othersFirst, _, ⟨c', vs', rfl, hc, hvs, hsorts⟩ => by
    unfold Order.compile
    rw [Operand.LikeAll.isEmpty_eq hvs]
    split
    · exact .pure (.fixed "")
    next hnonempty =>
      have hsorts' : L.SortsAlike := by
        refine hsorts.resolve_left ?_
        rintro rfl
        exact hnonempty (Operand.LikeAll.isEmpty_eq hvs ▸ rfl)
      exact .listedOrder (Column.compile_mirrors hc) (Operand.compileAll_mirrors hvs) hsorts'
        othersFirst
  | .random, _, ⟨rfl, hrandom⟩ => .pure hrandom

theorem Order.compileAll_mirrors : ∀ {os os' : List Order}, Order.LikeAll L os os' →
    List.Forall₂ (Mirrors L.texts) (Order.compileAll L.left os) (Order.compileAll L.right os')
  | [], _, rfl => .nil
  | _ :: _, _, ⟨_, _, rfl, ho, hos⟩ =>
    .cons (Order.compile_mirrors ho) (Order.compileAll_mirrors hos)

theorem Join.compile_mirrors : ∀ {j j' : Join}, j.Like L j' →
    Mirrors L.texts (j.compile L.left) (j'.compile L.right)
  | ⟨kind, t, aliasName, cs⟩, ⟨_, t', aliasName', cs'⟩, ⟨rfl, ht, halias, hcs⟩ => by
    unfold Join.compile
    have hkeyword : EndsUnquoted (kind.keyword ++ " JOIN ") :=
      kind.isPlain_keyword.ends.append (by decide)
    refine (Table.compile_mirrors ht).bind ?_
    intro table table' htable
    refine (Criterion.compileAll_mirrors hcs .empty).bind ?_
    intro condition condition' hcondition
    have hjoined := (htable.aliased (Likeness.aliases_quoted halias)).after _ hkeyword
    rw [L.texts.isEmpty_eq hcondition.sql]
    refine .pure (hjoined.append ?_)
    split
    · exact .fixed ""
    · exact hcondition.sql.after " ON "

theorem Join.compileAll_mirrors : ∀ {js js' : List Join}, Join.LikeAll L js js' →
    List.Forall₂ (Mirrors L.texts) (Join.compileAll L.left js) (Join.compileAll L.right js')
  | [], _, rfl => .nil
  | _ :: _, _, ⟨_, _, rfl, hj, hjs⟩ =>
    .cons (Join.compile_mirrors hj) (Join.compileAll_mirrors hjs)

/-- Alike trees compile alike, as SELECTs. -/
theorem Query.compileSelect_mirrors : ∀ {q q' : Query}, q.Like L q' →
    Mirrors L.texts (q.compileSelect L.left) (q'.compileSelect L.right)
  | ⟨_, _, items, _, _, _, _, _, _, _, _⟩, ⟨_, _, items', _, _, _, _, _, _, _, _⟩,
      ⟨htable, halias, hitems, hjoins, hcriteria, horders, hoffset, hlimit, hwindow⟩ => by
    unfold Query.compileSelect
    refine (Mirrors.commaList (SelectItem.compileAll_mirrors hitems)).bind ?_
    intro columns columns' hcolumns
    have hselect : L.texts.Holds ("SELECT " ++ if items.isEmpty then "*" else columns)
        ("SELECT " ++ if items'.isEmpty then "*" else columns') := by
      rw [SelectItem.LikeAll.isEmpty_eq hitems]
      split
      · exact .fixed "SELECT *"
      · exact hcolumns.after "SELECT "
    refine (Mirrors.target (by decide) .noFromTable (Table.compileOption_mirrors htable)
      (Likeness.aliases_quoted halias)).bind ?_
    intro target target' htarget
    refine (Tied.inSequence (Join.compileAll_mirrors hjoins)).bind ?_
    intro joins joins' hjoinTexts
    refine (Mirrors.clauseParts (Criterion.compileAll_mirrors hcriteria .empty)
      (Order.compileAll_mirrors horders) (Operand.window_mirrors
        (Operand.compileOption_mirrors hoffset) (Operand.compileOption_mirrors hlimit)
        hwindow)).bind ?_
    intro tail tail' htail
    have hlines := List.Forall₂.cons hselect
      (List.Forall₂.cons htarget (List.rel_append hjoinTexts htail))
    exact .pure (.intercalate (by decide) hlines)

end

end

end SqlTree
