import SqlTree.Compile.Clause

/-!
# Filling placeholders

`Statement.filled` puts a literal of each positional value where its
placeholder stands.  It reads the text once, by the scan that counts
placeholders, so a literal is never read again, whatever it holds.

`FillsTo literal sql vs text` says that the values `vs` are exactly those
of the placeholders of `sql`, that `sql` ends outside of quotes, and that
filling it gives `text`.  Such texts can be put one after the other
(`FillsTo.append`): the quotes of the first do not reach into the second,
and the values of the second start where those of the first end.

Plain texts, quoted names and comparison rules fill to themselves from no
values.  A quoted name may hold quotes of any kind and question marks.
-/

set_option autoImplicit false

namespace SqlTree

open Text

/-! ## The scan -/

/-- A text is scanned part by part. -/
theorem quoteAfterAll_append (quote : Option Char) (cs ds : List Char) :
    quoteAfterAll quote (cs ++ ds) = quoteAfterAll (quoteAfterAll quote cs) ds :=
  List.foldl_append

/-- Outside of quotes, a character that is no quote opens none. -/
theorem quoteAfter_of_not_isQuote {c : Char} (hc : isQuote c = false) :
    quoteAfter none c = none := by
  simp [quoteAfter, hc]

/-- The open quote closes its text. -/
theorem quoteAfter_close (quote : Char) : quoteAfter (some quote) quote = none := by
  simp [quoteAfter]

/-- Any other character stays in it. -/
theorem quoteAfter_of_ne {quote c : Char} (hc : c ≠ quote) :
    quoteAfter (some quote) c = some quote := by
  simp [quoteAfter, hc]

/-- The text ends outside of quotes. -/
def EndsUnquoted (sql : String) : Prop :=
  quoteAfterAll none sql.toList = none

instance (sql : String) : Decidable (EndsUnquoted sql) :=
  inferInstanceAs (Decidable (_ = _))

namespace EndsUnquoted

variable {s t : String}

/-- Texts one after the other end outside of quotes where each of them
does. -/
theorem append (hs : EndsUnquoted s) (ht : EndsUnquoted t) : EndsUnquoted (s ++ t) := by
  rw [EndsUnquoted] at hs ht ⊢
  rw [String.toList_append, quoteAfterAll_append, hs]
  exact ht

/-- What follows such a text is counted by itself. -/
theorem count_append (hs : EndsUnquoted s) :
    countPlaceholders none (s ++ t).toList
      = countPlaceholders none s.toList + countPlaceholders none t.toList := by
  rw [EndsUnquoted] at hs
  rw [String.toList_append, countPlaceholders_append, hs]

end EndsUnquoted

/-- The text ends outside of quotes and has no placeholder. -/
structure IsPlain (sql : String) : Prop where
  ends : EndsUnquoted sql
  count : countPlaceholders none sql.toList = 0

instance (sql : String) : Decidable (IsPlain sql) :=
  decidable_of_iff (EndsUnquoted sql ∧ countPlaceholders none sql.toList = 0)
    ⟨fun h => ⟨h.1, h.2⟩, fun h => ⟨h.ends, h.count⟩⟩

/-- The text ends outside of quotes, and each positional value has its
placeholder. -/
structure Statement.IsAligned (s : Statement) : Prop where
  ends : EndsUnquoted s.sql
  count : s.placeholderCount = s.bindings.positional.length

instance (s : Statement) : Decidable s.IsAligned :=
  decidable_of_iff (EndsUnquoted s.sql ∧ s.placeholderCount = s.bindings.positional.length)
    ⟨fun h => ⟨h.1, h.2⟩, fun h => ⟨h.ends, h.count⟩⟩

/-! ## Filling -/

section

variable (literal : Value → String)

/-- A text that starts with `quote` open, with its placeholders replaced by
literals of the values, from left to right.  Placeholders without a value
stay. -/
def fillPlaceholders (quote : Option Char) : List Char → List Value → List Char
  | [], _ => []
  | c :: cs, vs =>
    if quote.isNone && c == '?' then
      match vs with
      | [] => c :: fillPlaceholders quote cs []
      | v :: vs => (literal v).toList ++ fillPlaceholders quote cs vs
    else
      c :: fillPlaceholders (quoteAfter quote c) cs vs

/-- The statement's text with its positional values filled in. -/
def Statement.filled (s : Statement) : String :=
  String.ofList (fillPlaceholders literal none s.sql.toList s.bindings.positional)

/-- A placeholder takes the next value. -/
theorem fillPlaceholders_slot (cs : List Char) (v : Value) (vs : List Value) :
    fillPlaceholders literal none ('?' :: cs) (v :: vs)
      = (literal v).toList ++ fillPlaceholders literal none cs vs :=
  rfl

/-- Any other character stays. -/
theorem fillPlaceholders_cons {quote : Option Char} {c : Char}
    (h : ¬(quote.isNone && c == '?') = true) (cs : List Char) (vs : List Value) :
    fillPlaceholders literal quote (c :: cs) vs
      = c :: fillPlaceholders literal (quoteAfter quote c) cs vs := by
  rw [fillPlaceholders.eq_def]
  exact if_neg h

/-- From no values, a text stays as it is. -/
theorem fillPlaceholders_nil (quote : Option Char) (cs : List Char) :
    fillPlaceholders literal quote cs [] = cs := by
  induction cs generalizing quote with
  | nil => rfl
  | cons c cs ih =>
    rw [fillPlaceholders]
    split
    · rw [ih]
    · rw [ih]

/-- A text with as many values as placeholders is filled on its own, and
what follows it from the values that are left. -/
theorem fillPlaceholders_append (quote : Option Char) (cs ds : List Char) (vs ws : List Value)
    (h : countPlaceholders quote cs = vs.length) :
    fillPlaceholders literal quote (cs ++ ds) (vs ++ ws)
      = fillPlaceholders literal quote cs vs
        ++ fillPlaceholders literal (quoteAfterAll quote cs) ds ws := by
  induction cs generalizing quote vs with
  | nil =>
    obtain rfl : vs = [] := List.length_eq_zero_iff.mp h.symm
    rfl
  | cons c cs ih =>
    rw [countPlaceholders] at h
    split at h
    next isSlot =>
      obtain ⟨rfl, rfl⟩ : quote = none ∧ c = '?' := by simpa using isSlot
      cases vs with
      | nil => simp at h
      | cons v vs =>
        have hopen : quoteAfter none '?' = none := by decide
        rw [hopen] at h
        rw [List.length_cons] at h
        have hrest := ih none vs (by omega)
        rw [List.cons_append, List.cons_append, fillPlaceholders_slot, fillPlaceholders_slot, hrest,
          List.append_assoc, quoteAfterAll, quoteAfterAll, List.foldl_cons, hopen]
    next notSlot =>
      have hrest := ih (quoteAfter quote c) vs (by simpa using h)
      rw [List.cons_append, fillPlaceholders_cons literal notSlot,
        fillPlaceholders_cons literal notSlot, hrest, List.cons_append, quoteAfterAll,
        quoteAfterAll, List.foldl_cons]

/-- The text has just the values `vs` for its placeholders, ends outside of
quotes, and becomes `text` when they are filled in. -/
structure FillsTo (sql : String) (vs : List Value) (text : String) : Prop where
  ends : EndsUnquoted sql
  count : countPlaceholders none sql.toList = vs.length
  filled : fillPlaceholders literal none sql.toList vs = text.toList

namespace FillsTo

variable {literal} {sql sql' text text' : String} {vs vs' : List Value}

/-- Texts that stand one after the other are filled one by one. -/
theorem append (h : FillsTo literal sql vs text) (h' : FillsTo literal sql' vs' text') :
    FillsTo literal (sql ++ sql') (vs ++ vs') (text ++ text') := by
  have ends : quoteAfterAll none sql.toList = none := h.ends
  refine ⟨h.ends.append h'.ends, ?_, ?_⟩
  · rw [h.ends.count_append, h.count, h'.count, List.length_append]
  · rw [String.toList_append, fillPlaceholders_append literal none _ _ _ _ h.count, ends,
      h.filled, h'.filled, String.toList_append]

/-- A plain text fills to itself. -/
theorem plain (h : IsPlain sql) : FillsTo literal sql [] sql :=
  ⟨h.ends, h.count, fillPlaceholders_nil literal none _⟩

/-- The empty text has nothing to fill. -/
theorem empty : FillsTo literal "" [] "" :=
  plain (by decide)

/-- A plain text before. -/
theorem plain_append (p : String) (h : FillsTo literal sql vs text)
    (hp : IsPlain p := by decide) : FillsTo literal (p ++ sql) vs (p ++ text) :=
  (plain hp).append h

/-- A plain text after. -/
theorem append_plain (h : FillsTo literal sql vs text) (p : String)
    (hp : IsPlain p := by decide) : FillsTo literal (sql ++ p) vs (text ++ p) := by
  simpa using h.append (plain hp)

/-- A placeholder fills to the literal of its value. -/
theorem placeholder (v : Value) : FillsTo literal "?" [v] (literal v) := by
  refine ⟨by decide, by rfl, ?_⟩
  exact List.append_nil (literal v).toList

/-- A statement with a placeholder for each value fills to its filled
text. -/
theorem statement {s : Statement} (h : s.IsAligned) :
    FillsTo literal s.sql s.bindings.positional (s.filled literal) :=
  ⟨h.ends, h.count, by rw [Statement.filled, String.toList_ofList]⟩

/-- An empty text has no values. -/
theorem eq_nil (h : FillsTo literal sql vs text) (he : sql.isEmpty = true) : vs = [] := by
  rw [String.isEmpty_iff] at he
  have hcount := h.count
  rw [he] at hcount
  exact List.length_eq_zero_iff.mp hcount.symm

end FillsTo

end

/-! ## Texts without placeholders -/

/-- Characters that are neither quotes nor placeholders make a plain
text. -/
theorem isPlain_of_all {sql : String}
    (h : ∀ c ∈ sql.toList, isQuote c = false ∧ c ≠ '?') : IsPlain sql := by
  suffices hs : ∀ cs : List Char, (∀ c ∈ cs, isQuote c = false ∧ c ≠ '?') →
      quoteAfterAll none cs = none ∧ countPlaceholders none cs = 0 by
    obtain ⟨ends, count⟩ := hs _ h
    exact ⟨ends, count⟩
  intro cs hcs
  induction cs with
  | nil => exact ⟨rfl, rfl⟩
  | cons c cs ih =>
    obtain ⟨hc, hrest⟩ := List.forall_mem_cons.mp hcs
    have hstep : quoteAfter none c = none := quoteAfter_of_not_isQuote hc.1
    obtain ⟨ends, count⟩ := ih hrest
    refine ⟨?_, ?_⟩
    · rw [quoteAfterAll, List.foldl_cons, hstep]
      exact ends
    · rw [countPlaceholders, hstep, count]
      simp [hc.2]

theorem IsPlain.append {sql sql' : String} (h : IsPlain sql) (h' : IsPlain sql') :
    IsPlain (sql ++ sql') :=
  ⟨h.ends.append h'.ends, by rw [h.ends.count_append, h.count, h'.count]⟩

/-- The words of the language are plain. -/
theorem isPlain_negation (negated : Bool) : IsPlain (negation negated) := by
  cases negated <;> decide

theorem AppendRule.isPlain_keyword (rule : AppendRule) : IsPlain rule.keyword := by
  cases rule <;> decide

theorem JoinKind.isPlain_keyword (kind : JoinKind) : IsPlain kind.keyword := by
  cases kind <;> decide

/-- No comparison rule holds a quote or a placeholder. -/
theorem not_isQuote_of_isRuleChar {c : Char} (h : isRuleChar c = true) :
    isQuote c = false ∧ c ≠ '?' := by
  constructor
  · cases hquote : isQuote c with
    | false => rfl
    | true =>
      obtain rfl | rfl | rfl : c = '\x27' ∨ c = '"' ∨ c = '\x60' := by
        simpa [isQuote, or_assoc] using hquote
      all_goals exact absurd h (by decide)
  · rintro rfl
    exact absurd h (by decide)

/-- So a comparison rule is a plain text. -/
theorem isPlain_of_isRule {rule : String} (h : isRule rule = true) : IsPlain rule := by
  refine isPlain_of_all fun c hc => not_isQuote_of_isRuleChar ?_
  exact List.all_eq_true.mp (Bool.and_eq_true_iff.mp h).2 c hc

/-! ## Quoted names -/

section

variable {quote : Char}

theorem quoteAfter_self (hq : isQuote quote = true) : quoteAfter none quote = some quote := by
  simp [quoteAfter, hq]

theorem ne_placeholder_of_isQuote (hq : isQuote quote = true) : quote ≠ '?' := by
  rintro rfl
  exact absurd hq (by decide)

/-- Inside of quotes, a doubled quote closes one part and opens the next,
so the scan of a name comes back to where it was. -/
theorem scan_doubleQuotes (hq : isQuote quote = true) (name : List Char) :
    quoteAfterAll (some quote) (doubleQuotes quote name) = some quote
      ∧ countPlaceholders (some quote) (doubleQuotes quote name) = 0 := by
  induction name with
  | nil => exact ⟨rfl, rfl⟩
  | cons c cs ih =>
    obtain ⟨ends, count⟩ := ih
    rw [doubleQuotes]
    split
    next =>
      refine ⟨?_, ?_⟩
      · rw [quoteAfterAll, List.foldl_cons, List.foldl_cons, quoteAfter_close, quoteAfter_self hq]
        exact ends
      · rw [countPlaceholders, countPlaceholders, quoteAfter_close, quoteAfter_self hq, count]
        simp [ne_placeholder_of_isQuote hq]
    next hc =>
      refine ⟨?_, ?_⟩
      · rw [quoteAfterAll, List.foldl_cons, quoteAfter_of_ne hc]
        exact ends
      · rw [countPlaceholders, quoteAfter_of_ne hc, count]
        simp

/-- A quoted name is one quoted part after the other. -/
theorem scan_quoteChars (hq : isQuote quote = true) (name : List Char) :
    quoteAfterAll none (quoteChars quote name) = none
      ∧ countPlaceholders none (quoteChars quote name) = 0 := by
  obtain ⟨ends, count⟩ := scan_doubleQuotes hq name
  rw [quoteChars]
  refine ⟨?_, ?_⟩
  · rw [List.cons_append, quoteAfterAll, List.foldl_cons, quoteAfter_self hq]
    rw [← quoteAfterAll, quoteAfterAll_append, ends]
    exact quoteAfter_close quote
  · rw [List.cons_append, countPlaceholders, quoteAfter_self hq, countPlaceholders_append, ends,
      count]
    simp [countPlaceholders, ne_placeholder_of_isQuote hq]

/-- A part of an identifier is quoted or a star. -/
theorem scan_quotePart (hq : isQuote quote = true) (part : List Char) :
    quoteAfterAll none (quotePart quote part) = none
      ∧ countPlaceholders none (quotePart quote part) = 0 := by
  rw [quotePart]
  split
  next h =>
    subst h
    exact ⟨by decide, by decide⟩
  next => exact scan_quoteChars hq part

/-- So is each of the parts of a dotted identifier. -/
theorem scan_quoteParts (hq : isQuote quote = true) :
    ∀ parts : List (List Char), quoteAfterAll none (quoteParts quote parts) = none
      ∧ countPlaceholders none (quoteParts quote parts) = 0
  | [] => ⟨rfl, rfl⟩
  | [part] => scan_quotePart hq part
  | part :: next :: parts => by
    obtain ⟨ends, count⟩ := scan_quotePart hq part
    obtain ⟨ends', count'⟩ := scan_quoteParts hq (next :: parts)
    have hdot : quoteAfter none '.' = none := by decide
    rw [show quoteParts quote (part :: next :: parts)
      = quotePart quote part ++ '.' :: quoteParts quote (next :: parts) from rfl]
    refine ⟨?_, ?_⟩
    · rw [quoteAfterAll_append, ends, quoteAfterAll, List.foldl_cons, hdot]
      exact ends'
    · rw [countPlaceholders_append, ends, count, countPlaceholders, hdot, count']
      decide

end

theorem Dialect.isQuote_quoteChar (d : Dialect) : isQuote d.quoteChar = true := by
  cases d <;> decide

/-- A quoted name is plain, whatever characters it holds. -/
theorem Dialect.isPlain_quoteName (d : Dialect) (name : String) : IsPlain (d.quoteName name) := by
  obtain ⟨ends, count⟩ := scan_quoteChars d.isQuote_quoteChar name.toList
  rw [Dialect.quoteName]
  exact ⟨by rwa [EndsUnquoted, String.toList_ofList], by rwa [String.toList_ofList]⟩

/-- A quoted identifier is plain, whatever parts it has. -/
theorem Dialect.isPlain_quoteIdentifier (d : Dialect) (name : String) :
    IsPlain (d.quoteIdentifier name) := by
  obtain ⟨ends, count⟩ := scan_quoteParts d.isQuote_quoteChar (splitAll '.' name.toList)
  rw [Dialect.quoteIdentifier]
  exact ⟨by rwa [EndsUnquoted, String.toList_ofList], by rwa [String.toList_ofList]⟩

end SqlTree
