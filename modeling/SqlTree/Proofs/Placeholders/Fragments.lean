import SqlTree.Proofs.Placeholders.InPlace
import SqlTree.Proofs.Tree.Verbatim

/-!
# Compilers that write in place

`WritesTo literal c text` says that whatever `c` compiles to fills to
`text` from the values that it collects.  Here are the rules for the ways
in which compilers are put together: sequences and lists, sub-queries,
orders of listed values, windows and conditions.

The rules for a sequence follow the order in which its parts run.  So they
hold only of compilers that collect their values in the order in which they
write, which is what there is to prove.
-/

set_option autoImplicit false

namespace SqlTree

open Compiler

variable {literal : Value → String}

/-! ## Lists of texts -/

/-- Texts that are filled one by one from a list of values. -/
inductive FillsAll (literal : Value → String) : List String → List Value → List String → Prop
  | nil : FillsAll literal [] [] []
  | cons {sql text : String} {sqls texts : List String} {vs ws : List Value} :
    FillsTo literal sql vs text → FillsAll literal sqls ws texts →
      FillsAll literal (sql :: sqls) (vs ++ ws) (text :: texts)

namespace FillsAll

variable {sqls sqls' texts texts' : List String} {vs vs' : List Value}

theorem single {sql text : String} (h : FillsTo literal sql vs text) :
    FillsAll literal [sql] vs [text] := by
  simpa using FillsAll.cons h .nil

theorem append (h : FillsAll literal sqls vs texts) (h' : FillsAll literal sqls' vs' texts') :
    FillsAll literal (sqls ++ sqls') (vs ++ vs') (texts ++ texts') := by
  induction h with
  | nil => exact h'
  | cons hd _ ih =>
    rw [List.append_assoc]
    exact .cons hd ih

theorem isEmpty_eq (h : FillsAll literal sqls vs texts) : sqls.isEmpty = texts.isEmpty := by
  cases h <;> rfl

/-- Texts with a plain text between them. -/
theorem intercalate {sep : String} (hsep : IsPlain sep) (h : FillsAll literal sqls vs texts) :
    FillsTo literal (String.intercalate sep sqls) vs (String.intercalate sep texts) := by
  induction h with
  | nil =>
    rw [String.intercalate_nil]
    exact .plain (by decide)
  | @cons sql text sqls texts vs ws hd tl ih =>
    cases tl with
    | nil => simpa using hd
    | cons hd' tl' =>
      rw [String.intercalate_cons_cons, String.intercalate_cons_cons]
      exact (hd.append_plain sep hsep).append ih

end FillsAll

/-! ## Rules for compilers -/

/-- Whatever the compiler writes fills to `text` from the values that it
collects. -/
abbrev WritesTo (literal : Value → String) (c : Compiler String) (text : String) : Prop :=
  c.Collects fun sql vs => FillsTo literal sql vs text

namespace WritesTo

theorem placeholder (literal : Value → String) (v : Value) :
    WritesTo literal (bindValue v) (literal v) :=
  bindValue_collects v (.placeholder v)

theorem inline {s : Statement} {text : String}
    (h : FillsTo literal s.sql s.bindings.positional text) : WritesTo literal (inline s) text :=
  inline_collects s h

/-- A rule that is refused collects nothing, and one that is written is a
rule. -/
theorem rule (rule : String) :
    (requireRule rule).Collects fun _ vs => vs = [] ∧ IsPlain rule := by
  unfold requireRule
  split
  next h => exact .pure ⟨rfl, isPlain_of_isRule h⟩
  next => exact .throw _

theorem parenthesized {s : Statement} {text : String}
    (h : FillsTo literal s.sql s.bindings.positional text) :
    WritesTo literal (parenthesized s) ("(" ++ text ++ ")") :=
  (inline h).bind fun _ _ hsql => .pure ((hsql.plain_append "(").append_plain ")")

/-- An expression is a statement, a placeholder or a bare text. -/
theorem expression {e : Expression} (h : AllAligned e.verbatim) :
    WritesTo literal e.compile ("(" ++ e.written literal ++ ")") := by
  cases e with
  | raw s =>
    have aligned : s.IsAligned := h (.statement s) List.mem_cons_self
    exact parenthesized (.statement aligned)
  | value v => exact parenthesized (.placeholder v)
  | column name =>
    have plain : IsPlain name := h (.bare name) List.mem_cons_self
    exact parenthesized (.plain plain)

/-- A statement holds the values of its text. -/
theorem statement {c : Compiler String} {text : String} (h : WritesTo literal c text)
    {s : Statement} (ok : c.statement = .ok s) : FillsTo literal s.sql s.bindings.positional text :=
  statement_collects h ok

/-- A sub-query brings its text and its values together. -/
theorem subquery {c : Compiler String} {text : String} (h : WritesTo literal c text) :
    WritesTo literal (subquery c) ("(" ++ text ++ ")") := by
  refine (nested_collects h).bind ?_
  intro s us ⟨hus, hs⟩
  subst hus
  exact parenthesized hs

theorem inSequence {cs : List (Compiler String)} {texts : List String}
    (h : List.Forall₂ (WritesTo literal) cs texts) :
    (inSequence cs).Collects fun sqls vs => FillsAll literal sqls vs texts := by
  induction h with
  | nil => exact .pure .nil
  | cons hd _ ih => exact hd.bind fun _ _ hsql => ih.bind fun _ _ hsqls => .pure (.cons hsql hsqls)

theorem commaList {cs : List (Compiler String)} {texts : List String}
    (h : List.Forall₂ (WritesTo literal) cs texts) :
    WritesTo literal (commaList cs) (String.intercalate ", " texts) :=
  (inSequence h).bind fun _ _ hsqls => .pure (hsqls.intercalate (by decide))

/-- An alias is a quoted name after the text. -/
theorem aliased {sql text : String} {vs : List Value} (d : Dialect) (aliasName : Option String)
    (h : FillsTo literal sql vs text) :
    FillsTo literal (d.aliased aliasName sql) vs (d.aliased aliasName text) := by
  cases aliasName with
  | none => exact h
  | some name => exact (h.append_plain " AS ").append_plain _ (d.isPlain_quoteName name)

theorem target {d : Dialect} {keyword : String} (hkeyword : IsPlain keyword) (missing : QueryError)
    {table : Option (Compiler String)} {text : Option String}
    (h : Option.Rel (WritesTo literal) table text) (aliasName : Option String) :
    WritesTo literal (targetClause d keyword missing table aliasName)
      (targetLine d keyword text aliasName) := by
  cases h with
  | none => exact .throw missing
  | some h =>
    have hspace : IsPlain (keyword ++ " ") := hkeyword.append (by decide)
    refine h.bind ?_
    intro sql vs hsql
    refine .pure ?_
    exact (aliased d aliasName hsql).plain_append (keyword ++ " ") hspace

/-! ## Orders of listed values -/

theorem caseBranches {vs : List (Compiler String)} {texts : List String}
    (h : List.Forall₂ (WritesTo literal) vs texts) (rank : Nat) :
    WritesTo literal (caseBranches rank vs) (rankedBranches literal rank texts) := by
  induction h generalizing rank with
  | nil => exact .pure (.plain (by decide))
  | cons hd _ ih =>
    refine hd.bind ?_
    intro value us hvalue
    refine (placeholder literal (.ofRank rank)).bind ?_
    intro place ps hplace
    refine (ih (rank + 1)).bind ?_
    intro rest ws hrest
    refine .pure ?_
    have hbranch := ((hvalue.plain_append " WHEN ").append_plain " THEN ").append hplace
    exact hbranch.append hrest

/-- The ranks of a CASE stand after their values. -/
theorem caseOrder {column : Compiler String} {columnText : String}
    (hcolumn : WritesTo literal column columnText) {values : List (Compiler String)}
    {texts : List String} (hvalues : List.Forall₂ (WritesTo literal) values texts)
    (othersFirst : Bool) :
    WritesTo literal (caseOrder column values othersFirst)
      (listedOrderText .common literal columnText texts othersFirst) := by
  refine hcolumn.bind ?_
  intro c us hc
  refine (caseBranches hvalues 0).bind ?_
  intro branches vs hbranches
  refine (placeholder literal (otherRank values.length othersFirst)).bind ?_
  intro place ws hplace
  refine .pure ?_
  rw [hvalues.length_eq] at hplace
  have hcase := (hc.plain_append "CASE ").append hbranches
  exact ((hcase.append_plain " ELSE ").append hplace).append_plain " END"

/-- The list of a FIELD is written and collected backwards where the other
rows come last. -/
theorem fieldOrder {column : Compiler String} {columnText : String}
    (hcolumn : WritesTo literal column columnText) {values : List (Compiler String)}
    {texts : List String} (hvalues : List.Forall₂ (WritesTo literal) values texts)
    (othersFirst : Bool) :
    WritesTo literal (fieldOrder column values othersFirst)
      (listedOrderText .mysql literal columnText texts othersFirst) := by
  have hdirection : IsPlain (if othersFirst then " ASC" else " DESC") := by
    cases othersFirst <;> decide
  refine hcolumn.bind ?_
  intro c us hc
  refine (commaList (forall₂_turned hvalues othersFirst)).bind ?_
  intro list vs hvs
  refine .pure ?_
  have hfield := ((hc.plain_append "FIELD(").append_plain ", ").append hvs
  exact (hfield.append_plain ")").append_plain _ hdirection

theorem listedOrder (d : Dialect) {column : Compiler String} {columnText : String}
    (hcolumn : WritesTo literal column columnText) {values : List (Compiler String)}
    {texts : List String} (hvalues : List.Forall₂ (WritesTo literal) values texts)
    (othersFirst : Bool) :
    WritesTo literal (d.listedOrder column values othersFirst)
      (listedOrderText d literal columnText texts othersFirst) := by
  cases d with
  | mysql => exact fieldOrder hcolumn hvalues othersFirst
  | common => exact caseOrder hcolumn hvalues othersFirst
  | sqlite => exact caseOrder hcolumn hvalues othersFirst

/-! ## Windows -/

theorem boundPart (keyword : String) (hkeyword : IsPlain keyword) {bound : Option (Compiler String)}
    {text : Option String} (h : Option.Rel (WritesTo literal) bound text) :
    (boundPart keyword bound).Collects fun sqls vs =>
      FillsAll literal sqls vs (keywordLine keyword text) := by
  cases h with
  | none => exact .pure .nil
  | some h =>
    have hspace : IsPlain (keyword ++ " ") := hkeyword.append (by decide)
    exact h.bind fun sql vs hsql => .pure (.single (hsql.plain_append _ hspace))

theorem limitFirst {unbounded : String} (hunbounded : IsPlain unbounded)
    {offset limit : Option (Compiler String)} {offsetText limitText : Option String}
    (hoffset : Option.Rel (WritesTo literal) offset offsetText)
    (hlimit : Option.Rel (WritesTo literal) limit limitText) :
    (limitFirst unbounded offset limit).Collects fun sqls vs =>
      FillsAll literal sqls vs (limitFirstLines unbounded offsetText limitText) := by
  have hlimitPart := boundPart "LIMIT" (by decide) hlimit
  have hoffsetPart := boundPart "OFFSET" (by decide) hoffset
  cases hlimit with
  | some hlimit =>
    exact hlimitPart.bind fun _ _ hl => hoffsetPart.bind fun _ _ ho => .pure (hl.append ho)
  | none =>
    cases hoffset with
    | none =>
      exact hlimitPart.bind fun _ _ hl => hoffsetPart.bind fun _ _ ho => .pure (hl.append ho)
    | some hoffset =>
      have hline : FillsTo literal ("LIMIT " ++ unbounded) [] ("LIMIT " ++ unbounded) :=
        (FillsTo.plain hunbounded).plain_append "LIMIT "
      exact hoffsetPart.bind fun _ _ ho => .pure ((FillsAll.single hline).append ho)

/-- OFFSET and LIMIT collect their values in the order of the dialect. -/
theorem window (d : Dialect) {offset limit : Option (Compiler String)}
    {offsetText limitText : Option String}
    (hoffset : Option.Rel (WritesTo literal) offset offsetText)
    (hlimit : Option.Rel (WritesTo literal) limit limitText) :
    (d.window offset limit).Collects fun sqls vs =>
      FillsAll literal sqls vs (windowLines d offsetText limitText) := by
  cases d with
  | common =>
    refine (boundPart "OFFSET" (by decide) hoffset).bind ?_
    intro _ _ ho
    exact (boundPart "LIMIT" (by decide) hlimit).bind fun _ _ hl => .pure (ho.append hl)
  | mysql => exact limitFirst (by decide) hoffset hlimit
  | sqlite => exact limitFirst (by decide) hoffset hlimit

end WritesTo

/-! ## Conditions -/

/-- A clause in the making, beside the same clause with values in place. -/
structure ClauseFills (literal : Value → String) (clause : Clause) (vs : List Value)
    (text : Clause) : Prop where
  fills : FillsTo literal clause.sql vs text.sql
  last : clause.last = text.last
  joined : clause.IsJoined

namespace ClauseFills

variable {clause text : Clause} {vs ws : List Value} {test testText : String}

theorem empty : ClauseFills literal .empty [] .empty :=
  ⟨.plain (by decide), rfl, Clause.isJoined_empty⟩

/-- Before anything is joined, nothing is collected. -/
theorem eq_nil (h : ClauseFills literal clause vs text) (hlast : clause.last = none) :
    vs = [] := by
  have joined : clause.sql.isEmpty = clause.last.isNone := h.joined
  rw [hlast] at joined
  exact h.fills.eq_nil joined

/-- A further test comes last, with or without parentheses around what
stands before it. -/
theorem join (h : ClauseFills literal clause vs text) (rule : AppendRule)
    (htest : FillsTo literal test ws testText) (hne : test.isEmpty = false) :
    ClauseFills literal (clause.join rule test) (vs ++ ws) (text.join rule testText) := by
  have hkeyword := rule.isPlain_keyword
  have plainly : FillsTo literal (clause.sql ++ " " ++ rule.keyword ++ " " ++ test) (vs ++ ws)
      (text.sql ++ " " ++ rule.keyword ++ " " ++ testText) :=
    (((h.fills.append_plain " ").append_plain _ hkeyword).append_plain " ").append htest
  have grouped : FillsTo literal ("(" ++ clause.sql ++ ") AND " ++ test) (vs ++ ws)
      ("(" ++ text.sql ++ ") AND " ++ testText) :=
    ((h.fills.plain_append "(").append_plain ") AND ").append htest
  refine ⟨?_, ?_, clause.isJoined_join rule hne⟩
  · unfold Clause.join
    rw [← h.last]
    cases hlast : clause.last with
    | none =>
      rw [h.eq_nil hlast]
      exact htest
    | some last =>
      cases last with
      | and => cases rule <;> exact plainly
      | or =>
        cases rule with
        | and => exact grouped
        | or => exact plainly
  · unfold Clause.join
    rw [← h.last]
    split <;> rfl

/-- A test that compiles to nothing has collected nothing. -/
theorem append_empty (h : ClauseFills literal clause vs text)
    (htest : FillsTo literal test ws testText) (he : test.isEmpty = true) :
    ClauseFills literal clause (vs ++ ws) text := by
  rw [htest.eq_nil he, List.append_nil]
  exact h

end ClauseFills

/-- Whatever the compiler joins fills to the join of `tests`, and is empty
just where there are none. -/
abbrev JoinsTo (literal : Value → String) (c : Compiler Clause)
    (tests : List (AppendRule × String)) : Prop :=
  c.Collects fun clause vs =>
    FillsTo literal clause.sql vs (joinTests tests) ∧ clause.sql.isEmpty = tests.isEmpty

/-- Texts that are not empty make an empty list only where there are
none. -/
theorem intercalate_isEmpty (sep : String) {texts : List String}
    (h : ∀ s ∈ texts, s.isEmpty = false) :
    (String.intercalate sep texts).isEmpty = texts.isEmpty := by
  cases texts with
  | nil => simp
  | cons s texts =>
    have hs := h s List.mem_cons_self
    cases texts with
    | nil => simpa using hs
    | cons t texts => simp [isEmpty_append, hs]

/-- A text after a keyword is left out where it is empty. -/
theorem keywordPart_fills (keyword : String) (hkeyword : IsPlain keyword) {sql text : String}
    {vs : List Value} {isEmpty : Bool} (h : FillsTo literal sql vs text)
    (he : sql.isEmpty = isEmpty) :
    FillsAll literal (keywordPart keyword sql) vs
      (keywordLine keyword (if isEmpty then none else some text)) := by
  subst he
  unfold keywordPart
  split
  next he =>
    rw [h.eq_nil he]
    exact .nil
  next =>
    exact .single (h.plain_append (keyword ++ " ") (hkeyword.append (by decide)))

/-- The condition, the order and the window follow each other. -/
theorem clauseParts_collects {criteria : Compiler Clause} {tests : List (AppendRule × String)}
    (hcriteria : JoinsTo literal criteria tests) {orders : List (Compiler String)}
    {orderTexts : List String}
    (horders : (inSequence orders).Collects fun sqls vs =>
      FillsAll literal (sqls.filter fun o => !o.isEmpty) vs orderTexts)
    {window : Compiler (List String)} {windowTexts : List String}
    (hwindow : window.Collects fun sqls vs => FillsAll literal sqls vs windowTexts) :
    (clauseParts criteria orders window).Collects fun sqls vs =>
      FillsAll literal sqls vs (clauseLines tests orderTexts windowTexts) := by
  refine hcriteria.bind ?_
  intro clause us ⟨hclause, hempty⟩
  refine horders.bind ?_
  intro sqls vs hsqls
  refine hwindow.bind ?_
  intro lines ws hlines
  refine .pure ?_
  have hwhere := keywordPart_fills "WHERE" (by decide) hclause hempty
  have horder : FillsAll literal
      (keywordPart "ORDER BY" (String.intercalate ", " (sqls.filter fun o => !o.isEmpty))) vs
      (keywordLine "ORDER BY"
        (if orderTexts.isEmpty then none else some (String.intercalate ", " orderTexts))) := by
    refine keywordPart_fills "ORDER BY" (by decide) (hsqls.intercalate (by decide)) ?_
    rw [intercalate_isEmpty _ fun s hs => by simpa using (List.mem_filter.mp hs).2]
    exact hsqls.isEmpty_eq
  exact (hwhere.append horder).append hlines

end SqlTree
