import SqlTree.Proofs.Placeholders.Scan

/-!
# Reading past quotes and comments

A reader of SQL passes over quoted texts and over comments of two kinds: from
two dashes up to the end of the line, and from a slash and a star up to a star
and a slash.  A placeholder in a comment is none to it.

Where no comment is opened, the reader sees what the scan of placeholders
counts (`Spot.slots_eq_countPlaceholders`).  A quoted name opens none, whatever
it holds (`Dialect.quiet_quoteIdentifier`).
-/

set_option autoImplicit false

namespace SqlTree

open Text

/-! ## The reader -/

/-- Where a reader of SQL stands. -/
inductive Spot where
  /-- outside of quotes and comments -/
  | code
  /-- outside, after a dash -/
  | dash
  /-- outside, after a slash -/
  | slash
  /-- between quotes -/
  | quoted (quote : Char)
  /-- in a comment up to the end of the line -/
  | line
  /-- in a comment up to a star and a slash -/
  | block
  /-- in such a comment, after a star -/
  | star
deriving DecidableEq

namespace Spot

/-- Whether the reader is in a comment. -/
def inComment : Spot → Bool
  | line | block | star => true
  | code | dash | slash | quoted _ => false

/-- Whether the reader is outside of quotes and comments. -/
def isOutside : Spot → Bool
  | code | dash | slash => true
  | quoted _ | line | block | star => false

/-- The open quote. -/
def quote? : Spot → Option Char
  | quoted q => some q
  | code | dash | slash | line | block | star => none

/-- What a character opens by itself. -/
def ofChar (c : Char) : Spot :=
  if isQuote c then quoted c
  else if c = '-' then dash
  else if c = '/' then slash
  else code

/-- The spot after a character. -/
def next : Spot → Char → Spot
  | code, c => ofChar c
  | dash, c => if c = '-' then line else ofChar c
  | slash, c => if c = '*' then block else ofChar c
  | quoted q, c => if c = q then code else quoted q
  | line, c => if c = '\n' then code else line
  | block, c => if c = '*' then star else block
  | star, c => if c = '/' then code else if c = '*' then star else block

/-- The spot after a text. -/
def after (s : Spot) (cs : List Char) : Spot :=
  cs.foldl next s

/-- Whether a comment is opened in a text. -/
def opens (s : Spot) : List Char → Bool
  | [] => false
  | c :: cs => (!s.inComment && (s.next c).inComment) || (s.next c).opens cs

/-- The number of placeholders outside of quotes and comments. -/
def slots (s : Spot) : List Char → Nat
  | [] => 0
  | c :: cs => (if s.isOutside && c == '?' then 1 else 0) + (s.next c).slots cs

/-! ## Texts in parts -/

theorem after_append (s : Spot) (cs ds : List Char) :
    s.after (cs ++ ds) = (s.after cs).after ds :=
  List.foldl_append

theorem opens_append (s : Spot) (cs ds : List Char) :
    s.opens (cs ++ ds) = (s.opens cs || (s.after cs).opens ds) := by
  induction cs generalizing s with
  | nil => rfl
  | cons c cs ih => rw [List.cons_append, opens, opens, ih, Bool.or_assoc, after, after,
      List.foldl_cons]

theorem slots_append (s : Spot) (cs ds : List Char) :
    s.slots (cs ++ ds) = s.slots cs + (s.after cs).slots ds := by
  induction cs generalizing s with
  | nil => exact (Nat.zero_add _).symm
  | cons c cs ih => rw [List.cons_append, slots, slots, ih, Nat.add_assoc, after, after,
      List.foldl_cons]

/-! ## Texts without comments -/

/-- The text opens no comment, and takes the reader from `s` to `t`. -/
structure Quiet (s : Spot) (cs : List Char) (t : Spot) : Prop where
  opens : s.opens cs = false
  after : s.after cs = t

theorem Quiet.nil (s : Spot) : Quiet s [] s :=
  ⟨rfl, rfl⟩

theorem Quiet.cons {s t : Spot} {c : Char} {cs : List Char} (hc : (s.next c).inComment = false)
    (h : Quiet (s.next c) cs t) : Quiet s (c :: cs) t :=
  ⟨by rw [Spot.opens, hc, h.opens, Bool.and_false, Bool.or_false], h.after⟩

theorem Quiet.append {s t u : Spot} {cs ds : List Char} (h : Quiet s cs t) (h' : Quiet t ds u) :
    Quiet s (cs ++ ds) u :=
  ⟨by rw [opens_append, h.opens, h.after, h'.opens, Bool.or_false],
    by rw [after_append, h.after, h'.after]⟩

theorem quote?_ofChar (c : Char) : (ofChar c).quote? = quoteAfter none c := by
  unfold ofChar quoteAfter
  split
  · rfl
  · split
    · rfl
    · split <;> rfl

/-- Outside of comments a character opens what it opens for the scan of
placeholders. -/
theorem quote?_next {s : Spot} {c : Char} (hs : s.inComment = false)
    (hnext : (s.next c).inComment = false) : (s.next c).quote? = quoteAfter s.quote? c := by
  cases s with
  | code => exact quote?_ofChar c
  | dash | slash =>
    rw [next] at hnext ⊢
    split at hnext
    · cases hnext
    next hc =>
      rw [if_neg hc]
      exact quote?_ofChar c
  | quoted q =>
    rw [next, quoteAfter.eq_def]
    show _ = if c = q then none else some q
    split <;> rfl
  | line | block | star => cases hs

/-- A text that opens no comment leaves none open. -/
theorem inComment_after {s : Spot} {cs : List Char} (hs : s.inComment = false)
    (h : s.opens cs = false) : (s.after cs).inComment = false := by
  induction cs generalizing s with
  | nil => exact hs
  | cons c cs ih =>
    obtain ⟨hc, hcs⟩ := Bool.or_eq_false_iff.mp h
    have hnext : (s.next c).inComment = false := by simpa [hs] using hc
    exact ih hnext hcs

/-- The placeholders of a text that opens no comment are those that the scan
counts. -/
theorem slots_eq_countPlaceholders {s : Spot} {cs : List Char} (hs : s.inComment = false)
    (h : s.opens cs = false) : s.slots cs = countPlaceholders s.quote? cs := by
  induction cs generalizing s with
  | nil => rfl
  | cons c cs ih =>
    obtain ⟨hc, hcs⟩ := Bool.or_eq_false_iff.mp h
    have hnext : (s.next c).inComment = false := by simpa [hs] using hc
    have houtside : s.isOutside = s.quote?.isNone := by cases s <;> first | rfl | cases hs
    rw [slots, countPlaceholders, ih hnext hcs, quote?_next hs hnext, houtside]

/-! ## Quoted names -/

section

variable {quote : Char} (hq : isQuote quote = true)

include hq

theorem quiet_quote {cs : List Char} {t : Spot} (h : Quiet (quoted quote) cs t) :
    Quiet code (quote :: cs) t := by
  have hnext : code.next quote = quoted quote := if_pos hq
  exact .cons (by rw [hnext]; rfl) (by rw [hnext]; exact h)

/-- A doubled quote leads out of quotes and into them again. -/
theorem quiet_doubleQuotes (name : List Char) :
    Quiet (quoted quote) (doubleQuotes quote name) (quoted quote) := by
  have hclose : (quoted quote).next quote = code := if_pos rfl
  induction name with
  | nil => exact .nil _
  | cons c cs ih =>
    rw [doubleQuotes]
    split
    · exact .cons (by rw [hclose]; rfl) (by rw [hclose]; exact quiet_quote hq ih)
    next hc =>
      have hstay : (quoted quote).next c = quoted quote := if_neg hc
      exact .cons (by rw [hstay]; rfl) (by rw [hstay]; exact ih)

/-- What stands between quotes opens no comment, and a star by itself
neither. -/
theorem quiet_quotePart (part : List Char) : Quiet code (quotePart quote part) code := by
  have hclose : (quoted quote).next quote = code := if_pos rfl
  rw [quotePart]
  split
  next h =>
    subst h
    exact ⟨by decide, by decide⟩
  next =>
    rw [quoteChars, List.cons_append]
    refine quiet_quote hq ((quiet_doubleQuotes hq part).append ?_)
    exact .cons (by rw [hclose]; rfl) (by rw [hclose]; exact .nil _)

theorem quiet_quoteParts :
    ∀ parts : List (List Char), Quiet code (quoteParts quote parts) code
  | [] => .nil _
  | [part] => quiet_quotePart hq part
  | part :: next :: parts =>
    (quiet_quotePart hq part).append (.cons (by decide) (quiet_quoteParts (next :: parts)))

end

/-! ## Texts without quotes -/

/-- A character that is no quote leads into no quotes. -/
theorem quote?_next_of_not_isQuote {s : Spot} (hs : s.quote? = none) {c : Char}
    (hc : isQuote c = false) : (s.next c).quote? = none := by
  have hchar : (ofChar c).quote? = none := by
    rw [quote?_ofChar, quoteAfter.eq_def]
    exact if_neg (by simp [hc])
  unfold next
  split
  · exact hchar
  · split
    · rfl
    · exact hchar
  · split
    · rfl
    · exact hchar
  · cases hs
  · split <;> rfl
  · split <;> rfl
  · split
    · rfl
    · split <;> rfl

/-- Without quotes and placeholders, a text leads into no quotes and shows no
placeholders, in comments or not. -/
theorem after_of_unquoted {s : Spot} (hs : s.quote? = none) {cs : List Char}
    (hcs : ∀ c ∈ cs, isQuote c = false ∧ c ≠ '?') :
    (s.after cs).quote? = none ∧ s.slots cs = 0 := by
  induction cs generalizing s with
  | nil => exact ⟨hs, rfl⟩
  | cons c cs ih =>
    obtain ⟨⟨hc, hslot⟩, hcs⟩ := List.forall_mem_cons.mp hcs
    obtain ⟨hafter, hslots⟩ := ih (quote?_next_of_not_isQuote hs hc) hcs
    exact ⟨hafter, by rw [slots, hslots]; simp [hslot]⟩

/-- A blank leads back outside, or stays in a comment. -/
theorem next_blank {s : Spot} (hs : s.quote? = none) :
    s.next ' ' = code ∧ s.inComment = false
      ∨ (s.next ' ' = line ∨ s.next ' ' = block) ∧ s.inComment = true := by
  cases s with
  | quoted q => cases hs
  | code | dash | slash | line | block | star => decide

/-- It opens no comment. -/
theorem opens_blank {s : Spot} (hs : s.quote? = none) : s.opens [' '] = false := by
  cases s with
  | quoted q => cases hs
  | code | dash | slash | line | block | star => decide

end Spot

/-! ## Whole texts -/

/-- Whether a text opens a comment. -/
def opensComment (sql : String) : Bool :=
  Spot.code.opens sql.toList

/-- The number of placeholders in a text outside of quotes and comments. -/
def visibleSlots (sql : String) : Nat :=
  Spot.code.slots sql.toList

/-- Where a reader stands after a text. -/
def spotAfter (sql : String) : Spot :=
  Spot.code.after sql.toList

/-- A reader passes over a quoted name. -/
theorem Dialect.quiet_quoteIdentifier (d : Dialect) (name : String) :
    Spot.Quiet .code (d.quoteIdentifier name).toList .code := by
  rw [quoteIdentifier, String.toList_ofList]
  exact Spot.quiet_quoteParts d.isQuote_quoteChar _

/-- It shows no placeholder, whatever it holds. -/
theorem Dialect.visibleSlots_quoteIdentifier (d : Dialect) (name : String) :
    visibleSlots (d.quoteIdentifier name) = 0 := by
  rw [visibleSlots, Spot.slots_eq_countPlaceholders rfl (d.quiet_quoteIdentifier name).opens]
  exact (d.isPlain_quoteIdentifier name).count

end SqlTree
