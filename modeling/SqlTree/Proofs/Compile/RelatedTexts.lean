import SqlTree.Proofs.Compile.TwoRuns
import SqlTree.Proofs.Condition.Blank
import SqlTree.Proofs.Placeholders.Scan

/-!
# Runs with related texts

Two dialects word a query differently, and so do two trees with other names
in them.  What their texts have in common is a relation of texts: it holds
of a text and itself, it is kept where texts are put together, and texts
that it relates are both empty or both not (`TextRelation`).  The last is
what compilers look at.

`Mirrors T c c'` says that two compilers do the same up to the relation:
from the same bindings they both fail with the same error, or both give
texts that `T` relates and the same bindings.  There is one rule for every
way in which compilers are put together.
-/

set_option autoImplicit false

namespace SqlTree

/-- A relation of texts that are put together alike. -/
structure TextRelation where
  Holds : String → String → Prop
  /-- it holds of a text that leaves no quotes open, and itself -/
  refl : ∀ {s : String}, EndsUnquoted s → Holds s s
  append : ∀ {s s' t t' : String}, Holds s s' → Holds t t' → Holds (s ++ t) (s' ++ t')
  /-- related texts are both empty or both not -/
  isEmpty_eq : ∀ {s s' : String}, Holds s s' → s.isEmpty = s'.isEmpty

/-- The same text. -/
def TextRelation.equality : TextRelation where
  Holds := Eq
  refl _ := rfl
  append hs ht := by rw [hs, ht]
  isEmpty_eq h := by rw [h]

/-- Texts that are both empty or both not. -/
def TextRelation.sameEmptiness : TextRelation where
  Holds s s' := s.isEmpty = s'.isEmpty
  refl _ := rfl
  append hs ht := by rw [isEmpty_append, isEmpty_append, hs, ht]
  isEmpty_eq h := h

namespace TextRelation.Holds

variable {T : TextRelation} {s s' t t' : String} {ss ss' : List String}

/-- A fixed text and itself. -/
theorem fixed (s : String) (h : EndsUnquoted s := by decide) : T.Holds s s :=
  T.refl h

theorem append (h : T.Holds s s') (h' : T.Holds t t') : T.Holds (s ++ t) (s' ++ t') :=
  T.append h h'

/-- Related texts after a fixed one. -/
theorem after (p : String) (h : T.Holds s s') (hp : EndsUnquoted p := by decide) :
    T.Holds (p ++ s) (p ++ s') :=
  T.append (T.refl hp) h

/-- Related texts before a fixed one. -/
theorem before (h : T.Holds s s') (p : String) (hp : EndsUnquoted p := by decide) :
    T.Holds (s ++ p) (s' ++ p) :=
  T.append h (T.refl hp)

/-- Related texts after a keyword. -/
theorem afterKeyword {keyword : String} (hkeyword : EndsUnquoted keyword) (h : T.Holds s s') :
    T.Holds (keyword ++ " " ++ s) (keyword ++ " " ++ s') :=
  h.after _ (hkeyword.append (by decide))

theorem intercalate {sep : String} (hsep : EndsUnquoted sep) (h : List.Forall₂ T.Holds ss ss') :
    T.Holds (String.intercalate sep ss) (String.intercalate sep ss') := by
  induction h with
  | nil => exact fixed ""
  | cons hd tl ih =>
    cases tl with
    | nil => simpa using hd
    | cons hd' tl' =>
      rw [String.intercalate_cons_cons, String.intercalate_cons_cons]
      exact (hd.before sep hsep).append ih

/-- A text after a keyword is left out on both sides or on none. -/
theorem keywordPart {keyword : String} (hkeyword : EndsUnquoted keyword) (h : T.Holds s s') :
    List.Forall₂ T.Holds (Compiler.keywordPart keyword s) (Compiler.keywordPart keyword s') := by
  unfold Compiler.keywordPart
  rw [T.isEmpty_eq h]
  split
  · exact .nil
  · exact .cons (h.afterKeyword hkeyword) .nil

/-- So is an empty text of a list. -/
theorem filter_isEmpty (h : List.Forall₂ T.Holds ss ss') :
    List.Forall₂ T.Holds (ss.filter fun s => !s.isEmpty) (ss'.filter fun s => !s.isEmpty) := by
  induction h with
  | nil => exact .nil
  | @cons s s' ss ss' hd _ ih =>
    rw [List.filter_cons, List.filter_cons, T.isEmpty_eq hd]
    split
    · exact .cons hd ih
    · exact ih

/-- Related texts with related aliases. -/
theorem aliased {d d' : Dialect} {aliasName aliasName' : Option String}
    (halias : Option.Rel (fun a a' => T.Holds (d.quoteName a) (d'.quoteName a')) aliasName
      aliasName')
    (h : T.Holds s s') : T.Holds (d.aliased aliasName s) (d'.aliased aliasName' s') := by
  cases halias with
  | none => exact h
  | some hname => exact (h.before " AS ").append hname

end TextRelation.Holds

/-! ## Conditions -/

/-- Clauses that are joined alike from related texts. -/
structure Clause.Related (T : TextRelation) (clause clause' : Clause) : Prop where
  sql : T.Holds clause.sql clause'.sql
  last : clause.last = clause'.last

namespace Clause.Related

variable {T : TextRelation} {clause clause' : Clause} {test test' : String}

theorem empty : Clause.Related T .empty .empty :=
  ⟨.fixed "", rfl⟩

theorem append (h : Clause.Related T clause clause') (rule : AppendRule)
    (htest : T.Holds test test') :
    Clause.Related T (clause.append rule test) (clause'.append rule test') := by
  have hkeyword : EndsUnquoted (" " ++ rule.keyword ++ " ") := by cases rule <;> decide
  have plainly : T.Holds (clause.sql ++ " " ++ rule.keyword ++ " " ++ test)
      (clause'.sql ++ " " ++ rule.keyword ++ " " ++ test') := by
    have hjoined := (h.sql.before _ hkeyword).append htest
    simpa only [String.append_assoc] using hjoined
  have grouped : T.Holds ("(" ++ clause.sql ++ ") AND " ++ test)
      ("(" ++ clause'.sql ++ ") AND " ++ test') :=
    ((h.sql.after "(").before ") AND ").append htest
  unfold Clause.append
  rw [T.isEmpty_eq htest, h.last]
  split
  · exact h
  · split
    · exact ⟨htest, rfl⟩
    · exact ⟨grouped, rfl⟩
    · exact ⟨plainly, rfl⟩

end Clause.Related

/-! ## Compilers -/

/-- Without an offset, the window of every dialect is a LIMIT. -/
theorem Dialect.window_none (d : Dialect) (limit : Option (Compiler String)) :
    d.window none limit = boundPart "LIMIT" limit := by
  have hnone : boundPart "OFFSET" none = pure [] := rfl
  cases d <;> cases limit <;> simp [Dialect.window, offsetFirst, limitFirst, hnone]

namespace Compiler

/-- From the same bindings the same error, or related texts and the same
bindings. -/
abbrev Mirrors (T : TextRelation) (c c' : Compiler String) : Prop :=
  Tied Eq T.Holds c c'

/-- The same for compilers of several texts. -/
abbrev MirrorsAll (T : TextRelation) (c c' : Compiler (List String)) : Prop :=
  Tied Eq (List.Forall₂ T.Holds) c c'

namespace Mirrors

variable {T : TextRelation}

theorem inline {s : Statement} (h : T.Holds s.sql s.sql) : Mirrors T (inline s) (inline s) := by
  rintro b _ rfl
  exact .ok ⟨h, rfl⟩

theorem placeholder (T : TextRelation) (v : Value) : Mirrors T (bindValue v) (bindValue v) := by
  rintro b _ rfl
  exact .ok ⟨.fixed "?", rfl⟩

theorem parenthesized {s s' : Statement} (h : T.Holds s.sql s'.sql)
    (hbindings : s.bindings = s'.bindings) :
    Mirrors T (parenthesized s) (parenthesized s') := by
  rintro b _ rfl
  refine .ok ⟨(h.after "(").before ")", ?_⟩
  rw [hbindings]

theorem subquery {c c' : Compiler String} (h : Mirrors T c c') :
    Mirrors T (subquery c) (subquery c') :=
  (Tied.nested_of_empty rfl h).bind fun _ _ ⟨hsql, hbindings⟩ => parenthesized hsql hbindings

theorem commaList {cs cs' : List (Compiler String)} (h : List.Forall₂ (Mirrors T) cs cs') :
    Mirrors T (commaList cs) (commaList cs') :=
  (Tied.inSequence h).bind fun _ _ htexts => .pure (.intercalate (by decide) htexts)

/-- A rule that is written is related to itself. -/
theorem rule (T : TextRelation) (rule : String) :
    Tied Eq (fun _ _ => T.Holds rule rule) (requireRule rule) (requireRule rule) := by
  unfold requireRule
  split
  next h => exact .pure (T.refl (isPlain_of_isRule h).ends)
  next => exact .throw _

theorem target {d d' : Dialect} {keyword : String} (hkeyword : EndsUnquoted keyword)
    (missing : QueryError) {table table' : Option (Compiler String)}
    (h : Option.Rel (Mirrors T) table table') {aliasName aliasName' : Option String}
    (halias : Option.Rel (fun a a' => T.Holds (d.quoteName a) (d'.quoteName a')) aliasName
      aliasName') :
    Mirrors T (targetClause d keyword missing table aliasName)
      (targetClause d' keyword missing table' aliasName') := by
  cases h with
  | none => exact .throw missing
  | some h =>
    refine h.bind ?_
    intro sql sql' hsql
    exact .pure ((hsql.aliased halias).afterKeyword hkeyword)

/-! ### Orders of listed values -/

theorem caseBranches {vs vs' : List (Compiler String)} (h : List.Forall₂ (Mirrors T) vs vs')
    (rank : Nat) : Mirrors T (caseBranches rank vs) (caseBranches rank vs') := by
  induction h generalizing rank with
  | nil => exact .pure (.fixed "")
  | cons hd _ ih =>
    refine hd.bind ?_
    intro value value' hvalue
    refine (placeholder T (.ofRank rank)).bind ?_
    intro place place' hplace
    refine (ih (rank + 1)).bind ?_
    intro rest rest' hrest
    exact .pure ((((hvalue.after " WHEN ").before " THEN ").append hplace).append hrest)

section

variable {column column' : Compiler String} (hcolumn : Mirrors T column column')
  {values values' : List (Compiler String)} (hvalues : List.Forall₂ (Mirrors T) values values')

include hcolumn hvalues

theorem caseOrder (othersFirst : Bool) :
    Mirrors T (caseOrder column values othersFirst) (caseOrder column' values' othersFirst) := by
  unfold SqlTree.caseOrder
  rw [hvalues.length_eq]
  refine hcolumn.bind ?_
  intro c c' hc
  refine (caseBranches hvalues 0).bind ?_
  intro branches branches' hbranches
  refine (placeholder T _).bind ?_
  intro place place' hplace
  have hcase := (hc.after "CASE ").append hbranches
  exact .pure (((hcase.before " ELSE ").append hplace).before " END")

theorem fieldOrder (othersFirst : Bool) :
    Mirrors T (fieldOrder column values othersFirst) (fieldOrder column' values' othersFirst) := by
  have hdirection : EndsUnquoted (if othersFirst then " ASC" else " DESC") := by
    cases othersFirst <;> decide
  refine hcolumn.bind ?_
  intro c c' hc
  refine (commaList (forall₂_turned hvalues othersFirst)).bind ?_
  intro list list' hlist
  have hfield := ((hc.after "FIELD(").before ", ").append hlist
  exact .pure ((hfield.before ")").before _ hdirection)

/-- Dialects that both sort by position or both by rank. -/
theorem listedOrder {d d' : Dialect} (hd : d = .mysql ↔ d' = .mysql) (othersFirst : Bool) :
    Mirrors T (d.listedOrder column values othersFirst)
      (d'.listedOrder column' values' othersFirst) := by
  have ranked := caseOrder hcolumn hvalues othersFirst
  have listed := fieldOrder hcolumn hvalues othersFirst
  cases d with
  | mysql =>
    obtain rfl := hd.mp rfl
    exact listed
  | common | sqlite =>
    cases d' with
    | mysql => cases hd.mpr rfl
    | common | sqlite => exact ranked

end

/-! ### Windows -/

theorem boundPart {keyword : String} (hkeyword : EndsUnquoted keyword)
    {bound bound' : Option (Compiler String)} (h : Option.Rel (Mirrors T) bound bound') :
    MirrorsAll T (boundPart keyword bound) (boundPart keyword bound') := by
  cases h with
  | none => exact .pure .nil
  | some h => exact h.bind fun _ _ hsql => .pure (.cons (hsql.afterKeyword hkeyword) .nil)

/-- Parts of a window, one after the other. -/
theorem bothBounds {first first' second second' : Compiler (List String)}
    (hfirst : MirrorsAll T first first') (hsecond : MirrorsAll T second second') :
    MirrorsAll T (do let l ← first; let o ← second; return l ++ o)
      (do let l ← first'; let o ← second'; return l ++ o) :=
  hfirst.bind fun _ _ hl => hsecond.bind fun _ _ ho => .pure (List.rel_append hl ho)

section

variable {offset offset' limit limit' : Option (Compiler String)}

theorem limitFirst {unbounded : String} (hunbounded : EndsUnquoted unbounded)
    (hoffset : Option.Rel (Mirrors T) offset offset')
    (hlimit : Option.Rel (Mirrors T) limit limit') :
    MirrorsAll T (limitFirst unbounded offset limit) (limitFirst unbounded offset' limit') := by
  have hlimitPart := boundPart (by decide : EndsUnquoted "LIMIT") hlimit
  have hoffsetPart := boundPart (by decide : EndsUnquoted "OFFSET") hoffset
  cases hlimit with
  | some hlimit => exact bothBounds hlimitPart hoffsetPart
  | none =>
    cases hoffset with
    | none => exact bothBounds hlimitPart hoffsetPart
    | some hoffset =>
      have hline : T.Holds ("LIMIT " ++ unbounded) ("LIMIT " ++ unbounded) :=
        (T.refl hunbounded).after "LIMIT "
      exact bothBounds (.pure (.cons hline .nil)) hoffsetPart

/-- The window of one dialect. -/
theorem window (d : Dialect) (hoffset : Option.Rel (Mirrors T) offset offset')
    (hlimit : Option.Rel (Mirrors T) limit limit') :
    MirrorsAll T (d.window offset limit) (d.window offset' limit') := by
  cases d with
  | common =>
    exact bothBounds (boundPart (by decide) hoffset) (boundPart (by decide) hlimit)
  | mysql => exact limitFirst (by decide) hoffset hlimit
  | sqlite => exact limitFirst (by decide) hoffset hlimit

/-- Without an offset, the windows of any two dialects. -/
theorem window_none (d d' : Dialect) (hlimit : Option.Rel (Mirrors T) limit limit') :
    MirrorsAll T (d.window none limit) (d'.window none limit') := by
  rw [d.window_none, d'.window_none]
  exact boundPart (by decide) hlimit

end

theorem clauseParts {criteria criteria' : Compiler Clause}
    (hcriteria : Tied Eq (Clause.Related T) criteria criteria')
    {orders orders' : List (Compiler String)} (horders : List.Forall₂ (Mirrors T) orders orders')
    {window window' : Compiler (List String)} (hwindow : MirrorsAll T window window') :
    MirrorsAll T (clauseParts criteria orders window) (clauseParts criteria' orders' window') := by
  refine hcriteria.bind ?_
  intro clause clause' hclause
  refine (Tied.inSequence horders).bind ?_
  intro texts texts' htexts
  refine hwindow.bind ?_
  intro lines lines' hlines
  have hwhere := hclause.sql.keywordPart (by decide : EndsUnquoted "WHERE")
  have hlist := TextRelation.Holds.intercalate (by decide : EndsUnquoted ", ")
    (TextRelation.Holds.filter_isEmpty htexts)
  have horder := hlist.keywordPart (by decide : EndsUnquoted "ORDER BY")
  exact .pure (List.rel_append (List.rel_append hwhere horder) hlines)

end Mirrors

end Compiler

end SqlTree
