import Mathlib.Data.List.Infix
import SqlTree.Proofs.Comments.Reader
import SqlTree.Proofs.Condition.Comparison
import SqlTree.Proofs.Placeholders.Alignment

/-!
# Comments in comparisons

The characters of comments are characters of operators, and a rule may hold
any of them in any order.  `Criterion.comparison_shows` says what a reader of
SQL makes of a comparison: where the two characters that open a comment stand
next to each other in the rule, a comment is opened, and else none but those of
the operand itself.  Nothing around the rule can open one: there are blanks on
both sides of it, and the names are quoted.
-/

set_option autoImplicit false

namespace SqlTree

open Compiler Text

/-! ## Rules -/

namespace Spot

/-- The two characters that open a comment stand next to each other. -/
def Opener (cs : List Char) : Prop :=
  ['-', '-'] <:+: cs ∨ ['/', '*'] <:+: cs

instance (cs : List Char) : Decidable (Opener cs) :=
  inferInstanceAs (Decidable (_ ∨ _))

/-- The first of the two, where it has been read. -/
def pending : Spot → List Char
  | dash => ['-']
  | slash => ['/']
  | code | quoted _ | line | block | star => []

theorem opener_cons_cons {c c' : Char} {cs : List Char} :
    Opener (c :: c' :: cs)
      ↔ (c = '-' ∧ c' = '-') ∨ (c = '/' ∧ c' = '*') ∨ Opener (c' :: cs) := by
  simp only [Opener, List.infix_cons_iff (a := c), List.cons_prefix_cons, List.nil_prefix, and_true,
    eq_comm (b := c), eq_comm (b := c')]
  tauto

theorem not_opener_singleton (c : Char) : ¬Opener [c] := by
  rintro (h | h) <;> exact absurd h.length_le (by simp)

/-- A character that is no quote may be the first of the two, and nothing
else. -/
theorem opener_ofChar {c : Char} (hc : isQuote c = false) (cs : List Char) :
    Opener (c :: cs) ↔ Opener ((ofChar c).pending ++ cs) := by
  rw [ofChar, hc, if_neg (by decide)]
  split
  next h => rw [h]; rfl
  next hdash =>
    split
    next h => rw [h]; rfl
    next hslash =>
      cases cs with
      | nil => exact iff_of_false (not_opener_singleton c) (by decide)
      | cons c' cs =>
        rw [opener_cons_cons]
        simp [hdash, hslash, pending]

theorem isOutside_ofChar {c : Char} (hc : isQuote c = false) : (ofChar c).isOutside = true := by
  rw [ofChar, hc, if_neg (by decide)]
  split
  · rfl
  · split <;> rfl

theorem inComment_of_isOutside {s : Spot} (hs : s.isOutside = true) : s.inComment = false := by
  cases s <;> first | rfl | cases hs

/-- Outside, a character that is no quote opens a comment or leads outside
again, and what has been read of the two characters is kept. -/
theorem next_of_isOutside {s : Spot} (hs : s.isOutside = true) {c : Char}
    (hc : isQuote c = false) (cs : List Char) :
    ((s.next c).inComment = true ∧ Opener (s.pending ++ c :: cs))
    ∨ ((s.next c).isOutside = true
        ∧ (Opener (s.pending ++ c :: cs) ↔ Opener ((s.next c).pending ++ cs))) := by
  have houtside := isOutside_ofChar hc
  have hopener := opener_ofChar hc cs
  cases s with
  | code => exact .inr ⟨houtside, hopener⟩
  | dash =>
    rw [next, pending, List.singleton_append, opener_cons_cons]
    split
    next h => exact .inl ⟨rfl, .inl ⟨rfl, h⟩⟩
    next h => exact .inr ⟨houtside, by simpa [h] using hopener⟩
  | slash =>
    rw [next, pending, List.singleton_append, opener_cons_cons]
    split
    next h => exact .inl ⟨rfl, .inr (.inl ⟨rfl, h⟩)⟩
    next h => exact .inr ⟨houtside, by simpa [h] using hopener⟩
  | quoted _ | line | block | star => cases hs

/-- Without quotes, a comment is opened just where the two characters stand
next to each other. -/
theorem opens_iff_opener {s : Spot} (hs : s.isOutside = true) {cs : List Char}
    (hcs : ∀ c ∈ cs, isQuote c = false) : s.opens cs = true ↔ Opener (s.pending ++ cs) := by
  induction cs generalizing s with
  | nil =>
    refine iff_of_false Bool.false_ne_true ?_
    cases s <;> first | decide | cases hs
  | cons c cs ih =>
    obtain ⟨hc, hcs⟩ := List.forall_mem_cons.mp hcs
    have hsafe := inComment_of_isOutside hs
    rw [opens, hsafe, Bool.not_false, Bool.true_and, Bool.or_eq_true]
    rcases next_of_isOutside hs hc cs with ⟨hnext, hopener⟩ | ⟨hnext, hopener⟩
    · exact iff_of_true (.inl hnext) hopener
    · rw [hopener, ← ih hnext hcs]
      simp [inComment_of_isOutside hnext]

end Spot

/-- Two dashes stand next to each other in the rule, or a slash and a star. -/
def HasOpener (rule : String) : Prop :=
  Spot.Opener rule.toList

instance (rule : String) : Decidable (HasOpener rule) :=
  inferInstanceAs (Decidable (Spot.Opener _))

/-- No comment is open at the end of the rule. -/
def ClosesComments (rule : String) : Prop :=
  (spotAfter rule).inComment = false

instance (rule : String) : Decidable (ClosesComments rule) :=
  inferInstanceAs (Decidable (_ = _))

/-! ## Comparisons -/

/-- What stands before the second operand of a comparison. -/
def comparisonFront (left rule : String) : String :=
  left ++ " " ++ rule ++ " "

section

variable {rule : String} (h : isRule rule = true)

include h

theorem unquoted_of_isRule : ∀ c ∈ rule.toList, isQuote c = false ∧ c ≠ '?' := by
  intro c hc
  exact not_isQuote_of_isRuleChar (List.all_eq_true.mp (Bool.and_eq_true_iff.mp h).2 c hc)

/-- A rule opens a comment just where it has the two characters. -/
theorem opensComment_iff_hasOpener : opensComment rule = true ↔ HasOpener rule :=
  Spot.opens_iff_opener rfl fun c hc => (unquoted_of_isRule h c hc).1

theorem closesComments_of_not_hasOpener (hopener : ¬HasOpener rule) : ClosesComments rule := by
  refine Spot.inComment_after rfl ?_
  rw [← opensComment_iff_hasOpener h, Bool.not_eq_true] at hopener
  exact hopener

theorem quote?_spotAfter_rule : (spotAfter rule).quote? = none :=
  (Spot.after_of_unquoted rfl (unquoted_of_isRule h)).1

/-- After the rule and a blank the reader is outside of quotes and comments, or
in a comment that the rule leaves open. -/
theorem next_spotAfter_rule :
    (spotAfter rule).next ' ' = .code ∧ ClosesComments rule
    ∨ ((spotAfter rule).next ' ' = .line ∨ (spotAfter rule).next ' ' = .block)
      ∧ ¬ClosesComments rule := by
  rcases Spot.next_blank (quote?_spotAfter_rule h) with ⟨hnext, hspot⟩ | ⟨hnext, hspot⟩
  · exact .inl ⟨hnext, hspot⟩
  · exact .inr ⟨hnext, fun hcloses => absurd (hspot.symm.trans hcloses) (by decide)⟩

/-- A reader makes of a name and the rule what it makes of the rule. -/
theorem read_comparisonFront (d : Dialect) (name : String) :
    spotAfter (comparisonFront (d.quoteIdentifier name) rule) = (spotAfter rule).next ' '
    ∧ opensComment (comparisonFront (d.quoteIdentifier name) rule) = opensComment rule
    ∧ visibleSlots (comparisonFront (d.quoteIdentifier name) rule) = 0 := by
  have htext : (comparisonFront (d.quoteIdentifier name) rule).toList
      = ((d.quoteIdentifier name).toList ++ [' ']) ++ (rule.toList ++ [' ']) := by
    simp [comparisonFront, show " ".toList = [' '] from rfl]
  have hlead : Spot.Quiet .code ((d.quoteIdentifier name).toList ++ [' ']) .code :=
    (d.quiet_quoteIdentifier name).append (.cons (by decide) (.nil _))
  have hname := d.visibleSlots_quoteIdentifier name
  rw [visibleSlots] at hname
  have hslots : Spot.code.slots ((d.quoteIdentifier name).toList ++ [' ']) = 0 := by
    rw [Spot.slots_append, (d.quiet_quoteIdentifier name).after, hname]
    rfl
  have hblank : ∀ c ∈ [' '], isQuote c = false ∧ c ≠ '?' :=
    List.forall_mem_singleton.mpr ⟨by decide, by decide⟩
  have hrule := (Spot.after_of_unquoted (s := .code) rfl
    (List.forall_mem_append.mpr ⟨unquoted_of_isRule h, hblank⟩)).2
  rw [spotAfter, opensComment, visibleSlots, htext, Spot.after_append, Spot.opens_append,
    Spot.slots_append, hlead.opens, hlead.after, hslots, hrule]
  refine ⟨?_, ?_, rfl⟩
  · rw [Spot.after_append]
    rfl
  · have hlast := Spot.opens_blank (quote?_spotAfter_rule h)
    rw [spotAfter] at hlast
    rw [Bool.false_or, Spot.opens_append, hlast, Bool.or_false, opensComment]

end

/-- What a reader makes of a comparison of `left` with `operand`, which has
`added` placeholders in its escape clause. -/
structure Shows (left rule operand sql : String) (added : Nat) : Prop where
  /-- a comment is opened by the rule, or by the operand itself -/
  opens : opensComment sql = true ↔ HasOpener rule ∨ opensComment operand = true
  /-- the operand stands after the rule -/
  placed : ∃ clause, sql = comparisonFront left rule ++ operand ++ clause
  /-- the operand stands outside of comments where the rule leaves none open -/
  outside : spotAfter (comparisonFront left rule) = .code ↔ ClosesComments rule
  /-- there its placeholders are seen, and those of the clause -/
  slots : ClosesComments rule → visibleSlots sql = visibleSlots operand + added

/-- Where no comment is opened, a reader sees a placeholder for each positional
value that a test binds. -/
theorem Criterion.slots_collects (d : Dialect) {c : Criterion} (h : AllAligned c.verbatim) :
    (c.compile d).Collects fun sql vs =>
      opensComment sql = false → visibleSlots sql = vs.length := by
  have hwrites : WritesTo Value.describe (c.compile d) (c.written d Value.describe) :=
    Criterion.compile_writes d c h
  refine hwrites.mono ?_
  intro sql vs hfills hquiet
  exact (Spot.slots_eq_countPlaceholders rfl hquiet).trans hfills.count

/-- Only a scalar has an escape clause. -/
theorem exists_value_of_isEscaped {rule : String} {v : Operand} (h : isEscaped rule v = true) :
    ∃ x, v = .value x := by
  have htextual := (Bool.and_eq_true_iff.mp h).2
  cases v with
  | value x => exact ⟨x, rfl⟩
  | query q | expr e => cases htextual

/-- A name is written, and then the operand. -/
theorem run_operands_name (d : Dialect) (name : String) (right : Compiler String) (b : Bindings) :
    (operands ((Column.name name).compile d) right).run b
      = (right.run b).map fun r => ((d.quoteIdentifier name, r.1), r.2) := by
  rw [operands, Column.compile, pure_bind]
  cases hright : right.run b with
  | error e => rw [run_bind_of_error hright, Except.map]
  | ok r =>
    rw [run_bind_of_ok hright]
    rfl

section

variable {rule : String} (h : isRule rule = true) (d : Dialect) (left : String)

include h

/-- The reader is outside after a name and the rule just where the rule leaves
no comment open. -/
theorem spotAfter_comparisonFront_iff :
    spotAfter (comparisonFront (d.quoteIdentifier left) rule) = .code ↔ ClosesComments rule := by
  rw [(read_comparisonFront h d left).1]
  rcases next_spotAfter_rule h with ⟨hcode, hcloses⟩ | ⟨hcomment, hopen⟩
  · exact iff_of_true hcode hcloses
  · refine iff_of_false (fun hcode => ?_) hopen
    rw [hcode] at hcomment
    exact absurd hcomment (by decide)

/-- A comparison whose escape clause comes after a placeholder. -/
theorem comparison_shows_operand {operand : String} {escaped : Bool}
    (hescaped : escaped = true → operand = "?") :
    Shows (d.quoteIdentifier left) rule operand
      (comparisonFront (d.quoteIdentifier left) rule ++ operand ++ escapeClause escaped)
      (escapeEntries escaped).length := by
  obtain ⟨-, hopens, hslots⟩ := read_comparisonFront h d left
  have houtside := spotAfter_comparisonFront_iff h d left
  -- after an operand with an escape clause the reader is outside
  have hclause : (Spot.code.after operand.toList).opens (escapeClause escaped).toList = false
      ∧ (Spot.code.after operand.toList).slots (escapeClause escaped).toList
        = (escapeEntries escaped).length := by
    cases escaped with
    | false => exact ⟨rfl, rfl⟩
    | true =>
      rw [hescaped rfl]
      decide
  have hfront : opensComment (comparisonFront (d.quoteIdentifier left) rule) = true
      ↔ HasOpener rule := by rw [hopens, opensComment_iff_hasOpener h]
  rw [opensComment] at hfront
  rw [visibleSlots] at hslots
  refine ⟨?_, ⟨_, rfl⟩, houtside, fun hcloses => ?_⟩
  · rw [opensComment, String.toList_append, String.toList_append, List.append_assoc,
      Spot.opens_append, Bool.or_eq_true, hfront]
    refine or_congr_right' fun hopener => ?_
    have hcode := houtside.mpr (closesComments_of_not_hasOpener h hopener)
    rw [spotAfter] at hcode
    rw [hcode, Spot.opens_append, hclause.1, Bool.or_false, opensComment]
  · have hcode := houtside.mpr hcloses
    rw [spotAfter] at hcode
    rw [visibleSlots, String.toList_append, String.toList_append, List.append_assoc,
      Spot.slots_append, hslots, hcode, Spot.slots_append, hclause.2, Nat.zero_add, visibleSlots]

/-- Against a scalar, the placeholders are seen where the rule leaves no comment
open, and none of them in a comment. -/
theorem visibleSlots_scalar_iff (escaped : Bool) :
    visibleSlots (comparisonFront (d.quoteIdentifier left) rule ++ "?" ++ escapeClause escaped)
        = 1 + (escapeEntries escaped).length
      ↔ ClosesComments rule := by
  obtain ⟨hafter, -, hslots⟩ := read_comparisonFront h d left
  rw [visibleSlots] at hslots
  rw [spotAfter] at hafter
  rw [visibleSlots, String.toList_append, String.toList_append, List.append_assoc,
    Spot.slots_append, hslots, hafter, Nat.zero_add]
  rcases next_spotAfter_rule h with ⟨hcode, hcloses⟩ | ⟨hline | hblock, hopen⟩
  · rw [hcode]
    exact iff_of_true (by cases escaped <;> decide) hcloses
  · rw [hline]
    exact iff_of_false (by cases escaped <;> decide) hopen
  · rw [hblock]
    exact iff_of_false (by cases escaped <;> decide) hopen

/-- A comparison with any operand that compiles. -/
theorem Criterion.value_shows (v : Operand) (append : AppendRule) (b : Bindings) :
    (∃ e, (v.compile d).run b = .error e
      ∧ ((Criterion.value (.name left) rule v append).compile d).run b = .error e)
    ∨ ∃ operand b' sql added, (v.compile d).run b = .ok (operand, b')
      ∧ ((Criterion.value (.name left) rule v append).compile d).run b
        = .ok (sql, ⟨b'.entries ++ added⟩)
      ∧ Shows (d.quoteIdentifier left) rule operand sql added.length
      ∧ (AllAligned v.verbatim → opensComment sql = false →
          ∃ vs, (Bindings.mk (b'.entries ++ added)).positional = b.positional ++ vs
            ∧ visibleSlots sql = vs.length) := by
  have hrun := run_value h d append b (.name left) v
  rw [run_operands_name] at hrun
  cases hv : (v.compile d).run b with
  | error e =>
    rw [hv] at hrun
    exact .inl ⟨e, rfl, hrun⟩
  | ok r =>
    obtain ⟨operand, b'⟩ := r
    rw [hv] at hrun
    have hescaped : isEscaped rule v = true → operand = "?" := by
      intro hescaped
      obtain ⟨x, rfl⟩ := exists_value_of_isEscaped hescaped
      cases hv
      rfl
    refine .inr ⟨operand, b', _, _, rfl, hrun, comparison_shows_operand h d left hescaped, ?_⟩
    intro haligned hquiet
    have hall : AllAligned (Criterion.value (.name left) rule v append).verbatim := haligned
    obtain ⟨vs, hvs, hslots⟩ := Criterion.slots_collects d hall b.positional (by simp) hrun
    exact ⟨vs, hvs, hslots hquiet⟩

/-- A comparison with a scalar binds it, and the character of its escape
clause. -/
theorem Criterion.scalar_shows (x : Value) (append : AppendRule) (b : Bindings) :
    ∃ sql added,
      ((Criterion.value (.name left) rule (.value x) append).compile d).run b
          = .ok (sql, ⟨b.entries ++ added⟩)
        ∧ (opensComment sql = true ↔ HasOpener rule)
        ∧ (visibleSlots sql = added.length ↔ ClosesComments rule) := by
  have hrun : ((Criterion.value (.name left) rule (.value x) append).compile d).run b
      = .ok (comparisonFront (d.quoteIdentifier left) rule ++ "?"
            ++ escapeClause (isEscaped rule (.value x)),
          ⟨b.entries ++ ⟨none, x⟩ :: escapeEntries (isEscaped rule (.value x))⟩) := by
    rw [run_value h, run_operands_name, List.append_cons]
    rfl
  have hshows : Shows (d.quoteIdentifier left) rule "?"
      (comparisonFront (d.quoteIdentifier left) rule ++ "?"
        ++ escapeClause (isEscaped rule (.value x))) _ :=
    comparison_shows_operand h d left fun _ => rfl
  have hplain : opensComment "?" = false := by decide
  refine ⟨_, _, hrun, ?_, ?_⟩
  · rw [hshows.opens, hplain]
    simp
  · rw [List.length_cons, Nat.add_comm]
    exact visibleSlots_scalar_iff h d left _

/-- A comparison of two names binds nothing. -/
theorem Criterion.columns_show (right : String) (append : AppendRule) (b : Bindings) :
    ∃ sql,
      ((Criterion.columns (.name left) rule (.name right) append).compile d).run b
          = .ok (sql, b)
        ∧ Shows (d.quoteIdentifier left) rule (d.quoteIdentifier right) sql 0
        ∧ (opensComment sql = true ↔ HasOpener rule)
        ∧ (ClosesComments rule → visibleSlots sql = 0) := by
  have hrun : ((Criterion.columns (.name left) rule (.name right) append).compile d).run b
      = .ok (comparisonFront (d.quoteIdentifier left) rule ++ d.quoteIdentifier right
            ++ escapeClause false, b) := by
    rw [run_columns h, run_operands_name, Column.compile]
    show Except.ok (comparison rule false ((_, d.quoteIdentifier right), b)) = _
    rw [comparison, escapeEntries, if_neg Bool.false_ne_true, List.append_nil]
    rfl
  have hshows : Shows (d.quoteIdentifier left) rule (d.quoteIdentifier right)
      (comparisonFront (d.quoteIdentifier left) rule ++ d.quoteIdentifier right
        ++ escapeClause false) 0 :=
    comparison_shows_operand h d left fun hfalse => absurd hfalse Bool.false_ne_true
  have hplain : opensComment (d.quoteIdentifier right) = false :=
    (d.quiet_quoteIdentifier right).opens
  refine ⟨_, hrun, hshows, ?_, fun hcloses => ?_⟩
  · rw [hshows.opens, hplain]
    simp
  · rw [hshows.slots hcloses, d.visibleSlots_quoteIdentifier]

end

/-- **What a rule can hide.**  A comparison of a name with an operand opens a
comment where its rule has the characters that open one, and else only where
the operand does by itself.  Where the rule leaves no comment open, as one
without the characters, the operand stands outside of comments, and the
placeholders that a reader sees are those of the operand and of the escape
clause: one for each value that is bound, if no comment is opened and the texts
of the operand bring as many values as they have placeholders.  A comparison
with a scalar shows a placeholder for each value just where the rule leaves no
comment open, and one of two names opens a comment just where the rule does. -/
theorem Criterion.comparison_shows (d : Dialect) (left : String) {rule : String}
    (append : AppendRule) (b : Bindings) (h : isRule rule = true) :
    (¬HasOpener rule → ClosesComments rule)
    ∧ (∀ v : Operand,
        (∃ e, (v.compile d).run b = .error e
          ∧ ((Criterion.value (.name left) rule v append).compile d).run b = .error e)
        ∨ ∃ operand b' sql added, (v.compile d).run b = .ok (operand, b')
          ∧ ((Criterion.value (.name left) rule v append).compile d).run b
            = .ok (sql, ⟨b'.entries ++ added⟩)
          ∧ Shows (d.quoteIdentifier left) rule operand sql added.length
          ∧ (AllAligned v.verbatim → opensComment sql = false →
              ∃ vs, (Bindings.mk (b'.entries ++ added)).positional = b.positional ++ vs
                ∧ visibleSlots sql = vs.length))
    ∧ (∀ x : Value, ∃ sql added,
        ((Criterion.value (.name left) rule (.value x) append).compile d).run b
            = .ok (sql, ⟨b.entries ++ added⟩)
          ∧ (opensComment sql = true ↔ HasOpener rule)
          ∧ (visibleSlots sql = added.length ↔ ClosesComments rule))
    ∧ ∀ right : String, ∃ sql,
        ((Criterion.columns (.name left) rule (.name right) append).compile d).run b
            = .ok (sql, b)
          ∧ Shows (d.quoteIdentifier left) rule (d.quoteIdentifier right) sql 0
          ∧ (opensComment sql = true ↔ HasOpener rule)
          ∧ (ClosesComments rule → visibleSlots sql = 0) :=
  ⟨closesComments_of_not_hasOpener h, fun v => value_shows h d left v append b,
    fun x => scalar_shows h d left x append b, fun right => columns_show h d left right append b⟩

/-- An arrow holds a dash that opens nothing. -/
theorem Criterion.arrow_shows :
    (isRule "->" = true ∧ ¬HasOpener "->")
    ∧ ∃ sql added,
        ((Criterion.value (.name "a") "->" (.value (.text "x%")) .and).compile .common).run .empty
            = .ok (sql, ⟨added⟩)
          ∧ opensComment sql = false ∧ visibleSlots sql = added.length := by
  have hrule : isRule "->" = true := by decide
  have hopener : ¬HasOpener "->" := by decide
  obtain ⟨hcloses, -, hscalar, -⟩ := Criterion.comparison_shows .common "a" .and .empty hrule
  obtain ⟨sql, added, hrun, hopens, hslots⟩ := hscalar (.text "x%")
  refine ⟨⟨hrule, hopener⟩, sql, added, hrun, ?_, hslots.mpr (hcloses hopener)⟩
  rw [← Bool.not_eq_true, hopens]
  exact hopener

/-- Two dashes are accepted as a rule.  They open a comment, and the
placeholder after them is in it. -/
theorem Criterion.dashes_hide :
    isRule "--" = true
    ∧ ((Criterion.value (.name "a") "--" (.value (.text "x%")) .and).compile .common).run .empty
        = .ok ("\"a\" -- ?", ⟨[⟨none, .text "x%"⟩]⟩)
    ∧ opensComment "\"a\" -- ?" = true ∧ visibleSlots "\"a\" -- ?" = 0 := by
  refine ⟨by decide, by decide +kernel, by decide, by decide⟩

end SqlTree
