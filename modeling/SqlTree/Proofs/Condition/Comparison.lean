import SqlTree.Compile.Select
import SqlTree.Proofs.Compile.Run
import SqlTree.Query.Build

/-!
# Comparisons

A comparison is its two operands with the rule between them, as it is
(`Criterion.run_value`, `Criterion.run_columns`).  A test against a pattern
has an escape clause too, whose character is bound after the operands.

Rules are spelled in many ways.  In its normal form a rule has upper case
letters and no blanks around it, and that is how `Criterion.compare` keeps
it; a tree that is read from outside has its rules as they stand.  Another
spelling goes into the text as it is, and where it is one of LIKE or NOT LIKE
against a text, the escape clause is missed: only the normal form is known to
compare with a pattern (`Criterion.value_respelled`).
-/

set_option autoImplicit false

namespace SqlTree

open Compiler Text Criterion

/-! ## What is written -/

/-- Two operands, one after the other. -/
def operands (left right : Compiler String) : Compiler (String × String) := do
  let leftText ← left
  let rightText ← right
  return (leftText, rightText)

/-- Whether the test has an escape clause. -/
def isEscaped (rule : String) (v : Operand) : Bool :=
  isPatternRule rule && v.isTextual

/-- The escape clause, where there is one. -/
def escapeClause (escaped : Bool) : String :=
  if escaped then " ESCAPE ?" else ""

/-- The entry of its character. -/
def escapeEntries (escaped : Bool) : List Binding :=
  if escaped then [⟨none, escapeChar⟩] else []

/-- A rule between two operands, with an escape clause or without. -/
def comparison (rule : String) (escaped : Bool) :
    (String × String) × Bindings → String × Bindings
  | ((left, right), b) =>
    (left ++ " " ++ rule ++ " " ++ right ++ escapeClause escaped,
      ⟨b.entries ++ escapeEntries escaped⟩)

theorem comparison_bare (rule left right : String) (b : Bindings) :
    comparison rule false ((left, right), b) = (left ++ " " ++ rule ++ " " ++ right, b) := by
  simp [comparison, escapeClause, escapeEntries]

theorem comparison_escaped (rule left right : String) (b : Bindings) :
    comparison rule true ((left, right), b)
      = (left ++ " " ++ rule ++ " " ++ right ++ " ESCAPE " ++ "?", b.push escapeChar) := by
  have hclause : escapeClause true = " ESCAPE " ++ "?" := rfl
  rw [comparison, hclause, ← String.append_assoc]
  rfl

/-- What is written from two operands is written once they are. -/
theorem run_operands {left right : Compiler String} {write : String → String → Compiler String}
    {written : (String × String) × Bindings → String × Bindings}
    (hwrite : ∀ l r b, (write l r).run b = .ok (written ((l, r), b))) (b : Bindings) :
    (do let l ← left; let r ← right; write l r : Compiler String).run b
      = ((operands left right).run b).map written := by
  rw [operands]
  cases hleft : left.run b with
  | error e => rw [run_bind_of_error hleft, run_bind_of_error hleft, Except.map]
  | ok result =>
    rw [run_bind_of_ok hleft, run_bind_of_ok hleft]
    cases hright : right.run result.2 with
    | error e => rw [run_bind_of_error hright, run_bind_of_error hright, Except.map]
    | ok result' =>
      rw [run_bind_of_ok hright, run_bind_of_ok hright, hwrite]
      rfl

theorem requireRule_of_isRule {rule : String} (h : isRule rule = true) :
    requireRule rule = pure () :=
  if_pos h

section

variable {rule : String} (h : isRule rule = true) (d : Dialect) (append : AppendRule)
  (b : Bindings)

include h

/-- A comparison with a value. -/
theorem Criterion.run_value (c : Column) (v : Operand) :
    ((Criterion.value c rule v append).compile d).run b
      = ((operands (c.compile d) (v.compile d)).run b).map
          (comparison rule (isEscaped rule v)) := by
  rw [Criterion.compile, requireRule_of_isRule h, pure_bind]
  refine run_operands (fun l r b => ?_) b
  rw [isEscaped]
  cases isPatternRule rule && v.isTextual with
  | false =>
    rw [comparison_bare]
    rfl
  | true =>
    rw [comparison_escaped]
    rfl

/-- A comparison of columns never has an escape clause. -/
theorem Criterion.run_columns (left right : Column) :
    ((Criterion.columns left rule right append).compile d).run b
      = ((operands (left.compile d) (right.compile d)).run b).map (comparison rule false) := by
  rw [Criterion.compile, requireRule_of_isRule h, pure_bind]
  refine run_operands (fun l r b => ?_) b
  rw [comparison_bare]
  rfl

end

/-! ## Rules in normal form -/

/-- A character of a rule is an ASCII character. -/
theorem toNat_of_isRuleChar {c : Char} (h : isRuleChar c = true) : c.toNat < 0x80 := by
  have hcases : c.isAlpha = true ∨ c = ' ' ∨ c ∈ operatorChars := by
    simpa [isRuleChar, or_assoc] using h
  rcases hcases with halpha | rfl | hop
  · rcases Bool.or_eq_true_iff.mp halpha with hupper | hlower
    · have hle : c.val ≤ 'Z'.val := (of_decide_eq_true hupper).2
      exact Nat.lt_of_le_of_lt (UInt32.le_iff_toNat_le.mp hle) (by decide)
    · have hle : c.val ≤ 'z'.val := of_decide_eq_true (Bool.and_eq_true_iff.mp hlower).2
      exact Nat.lt_of_le_of_lt (UInt32.le_iff_toNat_le.mp hle) (by decide)
  · decide
  · have hall : operatorChars.all (fun c => decide (c.toNat < 0x80)) = true := by decide
    exact of_decide_eq_true (List.all_eq_true.mp hall c hop)

/-- In upper case it is still one, and a blank just where it was. -/
theorem toUpper_of_isRuleChar {c : Char} (h : isRuleChar c = true) :
    isRuleChar c.toUpper = true ∧ isBlank c.toUpper = isBlank c := by
  have hall : ∀ n < 0x80, isRuleChar (Char.ofNat n) = true →
      isRuleChar (Char.ofNat n).toUpper = true
        ∧ isBlank (Char.ofNat n).toUpper = isBlank (Char.ofNat n) := by
    decide +kernel
  have hc := hall c.toNat (toNat_of_isRuleChar h)
  rw [Char.ofNat_toNat] at hc
  exact hc h

/-- ASCII characters have their upper case one by one. -/
theorem toList_upper {s : String} (h : ∀ c ∈ s.toList, c.toNat < 0x80) :
    (upper s).toList = s.toList.map Char.toUpper := by
  rw [upper, String.toList_ofList, ← List.flatMap_pure_eq_map]
  refine List.flatMap_congr fun c hc => ?_
  exact if_pos (h c hc)

/-- What is left of a text without the blanks before it has the same
characters that are no blanks. -/
theorem any_trimStart (cs : List Char) :
    (trimStart cs).any (fun c => !isBlank c) = cs.any fun c => !isBlank c := by
  induction cs with
  | nil => rfl
  | cons c cs ih =>
    rw [trimStart, List.dropWhile_cons]
    split
    next hc => rw [← trimStart, ih, List.any_cons, hc, Bool.not_true, Bool.false_or]
    next => rfl

theorem trimStart_subset (cs : List Char) : trimStart cs ⊆ cs :=
  (List.dropWhile_sublist _).subset

/-- A rule is still a rule in its normal form. -/
theorem isRule_normalRule {rule : String} (h : isRule rule = true) :
    isRule (normalRule rule) = true := by
  obtain ⟨hany, hall⟩ := Bool.and_eq_true_iff.mp h
  rw [List.all_eq_true] at hall
  have hchars : ∀ c ∈ (trim rule).toList, isRuleChar c = true := by
    intro c hc
    rw [trim, String.toList_ofList, trimEnd, List.mem_reverse] at hc
    have hstart := List.mem_reverse.mp (trimStart_subset _ hc)
    exact hall c (trimStart_subset _ hstart)
  have hblank : (trim rule).toList.any (fun c => !isBlank c) = true := by
    rw [trim, String.toList_ofList, trimEnd, List.any_reverse, any_trimStart, List.any_reverse,
      any_trimStart]
    exact hany
  rw [isRule, normalRule, toList_upper fun c hc => toNat_of_isRuleChar (hchars c hc),
    Bool.and_eq_true_iff, List.any_map, List.all_map]
  refine ⟨?_, List.all_eq_true.mpr fun c hc => (toUpper_of_isRuleChar (hchars c hc)).1⟩
  obtain ⟨c, hc, hnot⟩ := List.any_eq_true.mp hblank
  refine List.any_eq_true.mpr ⟨c, hc, ?_⟩
  rw [Function.comp_apply, (toUpper_of_isRuleChar (hchars c hc)).2]
  exact hnot

/-- A rule that is known to compare with a pattern is in its normal form. -/
theorem normalRule_of_isPatternRule {rule : String} (h : isPatternRule rule = true) :
    normalRule rule = rule := by
  obtain rfl | rfl : rule = "LIKE" ∨ rule = "NOT LIKE" := by
    simpa [isPatternRule] using h
  all_goals decide

/-! ## Other spellings -/

/-- The rule is another spelling of one that compares with a pattern, and the
value is a text. -/
def MissesEscape (rule : String) (v : Operand) : Prop :=
  isEscaped (normalRule rule) v = true ∧ rule ≠ normalRule rule

/-- Its escape clause is what tells it from the normal form. -/
theorem isEscaped_normalRule_iff (rule : String) (v : Operand) :
    isEscaped rule v = isEscaped (normalRule rule) v ↔ ¬MissesEscape rule v := by
  cases hpattern : isPatternRule rule with
  | true =>
    have hnormal := normalRule_of_isPatternRule hpattern
    exact iff_of_true (by rw [hnormal]) fun hmisses => hmisses.2 hnormal.symm
  | false =>
    have hplain : isEscaped rule v = false := by rw [isEscaped, hpattern, Bool.false_and]
    rw [hplain, MissesEscape, not_and_not_right]
    constructor
    · intro heq hescaped
      exact absurd (heq.trans hescaped) (by decide)
    · intro hsame
      cases hescaped : isEscaped (normalRule rule) v with
      | false => rfl
      | true =>
        rw [← hsame hescaped, hplain] at hescaped
        cases hescaped

/-- A comparison shows its rule. -/
theorem comparison_inj {rule rule' : String} {escaped : Bool} {r : (String × String) × Bindings}
    (heq : comparison rule escaped r = comparison rule' escaped r) : rule = rule' := by
  have htext := congrArg Prod.fst heq
  simpa [comparison, String.append_assoc, String.append_right_inj, String.append_left_inj]
    using htext

/-- It binds the same just where it has the same escape clause. -/
theorem comparison_bindings_iff (rule rule' : String) (escaped escaped' : Bool)
    (r : (String × String) × Bindings) :
    (comparison rule escaped r).2 = (comparison rule' escaped' r).2 ↔ escaped = escaped' := by
  rw [comparison, comparison, Bindings.mk.injEq, List.append_cancel_left_eq]
  cases escaped <;> cases escaped' <;> decide

/-- The runs of two comparisons that differ in their rules: the same error, or
the same operands with each of the rules between them. -/
inductive Respelled (v : Operand) (rule rule' : String) :
    Except QueryError (String × Bindings) → Except QueryError (String × Bindings) → Prop
  | fails (e : QueryError) : Respelled v rule rule' (.error e) (.error e)
  | writes (left right : String) (b : Bindings) :
    Respelled v rule rule' (.ok (comparison rule (isEscaped rule v) ((left, right), b)))
      (.ok (comparison rule' (isEscaped rule' v) ((left, right), b)))

/-- **How a rule is spelled.**  A rule is also one in its normal form, and the
two spellings make the same of the operands.  The same values are bound unless
the escape clause is missed, which is where the rule is another spelling of one
that compares with a pattern, against a text.  The texts are the same only
where the rule is in its normal form. -/
theorem Criterion.value_respelled (d : Dialect) (c : Column) {rule : String} (v : Operand)
    (append : AppendRule) (b : Bindings) (h : isRule rule = true) :
    isRule (normalRule rule) = true
    ∧ Respelled v rule (normalRule rule)
        (((Criterion.value c rule v append).compile d).run b)
        (((Criterion.value c (normalRule rule) v append).compile d).run b)
    ∧ ((((Criterion.value c rule v append).compile d).run b).map Prod.snd
          = (((Criterion.value c (normalRule rule) v append).compile d).run b).map Prod.snd
        ↔ ¬MissesEscape rule v
          ∨ ∃ e, ((Criterion.value c rule v append).compile d).run b = .error e)
    ∧ (((Criterion.value c rule v append).compile d).run b
          = ((Criterion.value c (normalRule rule) v append).compile d).run b
        ↔ rule = normalRule rule
          ∨ ∃ e, ((Criterion.value c rule v append).compile d).run b = .error e) := by
  have hnormal := isRule_normalRule h
  rw [run_value h, run_value hnormal]
  refine ⟨hnormal, ?_⟩
  cases (operands (c.compile d) (v.compile d)).run b with
  | error e =>
    simp only [Except.map]
    exact ⟨.fails e, iff_of_true trivial (.inr ⟨e, rfl⟩), iff_of_true trivial (.inr ⟨e, rfl⟩)⟩
  | ok r =>
    simp only [Except.map, Except.ok.injEq, reduceCtorEq, exists_false, or_false]
    refine ⟨.writes r.1.1 r.1.2 r.2, ?_, ?_, fun hrule => by rw [← hrule]⟩
    · rw [comparison_bindings_iff, isEscaped_normalRule_iff]
    · intro hsame
      rw [(comparison_bindings_iff ..).mp (congrArg Prod.snd hsame)] at hsame
      exact comparison_inj hsame

/-- An operator in small letters binds the same value. -/
theorem Criterion.regexp_respelled :
    isRule " regexp " = true
    ∧ (((Criterion.value (.name "a") " regexp " (.value (.text "x")) .and).compile .mysql).run
          .empty).map Prod.snd
        = (((Criterion.value (.name "a") (normalRule " regexp ") (.value (.text "x")) .and).compile
          .mysql).run .empty).map Prod.snd := by
  have hrule : isRule " regexp " = true := by decide
  obtain ⟨-, -, hbindings, -⟩ := Criterion.value_respelled .mysql (.name "a")
    (.value (.text "x")) .and .empty hrule
  exact ⟨hrule, hbindings.mpr (.inl fun hmisses => absurd hmisses.1 (by decide))⟩

/-- LIKE in small letters against a text is accepted, and written without its
escape clause. -/
theorem Criterion.like_misses_escape :
    isRule "like" = true ∧ normalRule "like" = "LIKE"
    ∧ ((Criterion.value (.name "a") "like" (.value (.text "x%")) .and).compile .common).run .empty
        = .ok ("\"a\" like ?", ⟨[⟨none, .text "x%"⟩]⟩)
    ∧ ((Criterion.value (.name "a") (normalRule "like") (.value (.text "x%")) .and).compile
          .common).run .empty
        = .ok ("\"a\" LIKE ? ESCAPE ?", ⟨[⟨none, .text "x%"⟩, ⟨none, escapeChar⟩]⟩) := by
  refine ⟨by decide, by decide, by decide +kernel, by decide +kernel⟩

end SqlTree
