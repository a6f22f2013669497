import SqlTree.Proofs.Identifiers.ReadBack
import SqlTree.Proofs.Placeholders.Scan

/-!
# The scan as a reader of quoted texts

The scan of placeholders has two states.  It leaves a quoted text at each
character that is the open quote, also at the first of a doubled one.  A reader
that keeps to the rules of SQL looks ahead: a doubled quote stands for a quote
in the text, and the text goes on behind it.

`Lexes cs ls` says what such a reader may find, rule by rule, and `lexemes` is
the reader.  Every text has just one reading (`lexes_iff`), and the scan agrees
with it: it counts the placeholders that the reader finds outside of quotes, and
it ends in the quote that the reader finds open at the end (`Lexes.scan`).
Between the two halves of a doubled quote the scan stands outside while the
reader stands inside, so they are compared only where a lexeme ends.

Two texts that are put together may have other lexemes than each of them: a
quote at the end of the first and one at the start of the second become a
doubled quote.  The counts still add up when the first ends outside of quotes.
-/

set_option autoImplicit false

namespace SqlTree

/-! ## Lexemes -/

/-- A piece of SQL text. -/
inductive Lexeme where
  /-- a character outside of quotes -/
  | bare (c : Char)
  /-- a text between quotes -/
  | quoted (quote : Char) (content : List Char)
  /-- a quote that is not closed, and all that follows it -/
  | unclosed (quote : Char) (rest : List Char)
deriving DecidableEq

namespace Lexeme

/-- Whether the piece is a placeholder. -/
def isPlaceholder : Lexeme → Bool
  | bare c => c == '?'
  | quoted _ _ | unclosed _ _ => false

/-- The quote that the piece leaves open. -/
def openQuote? : Lexeme → Option Char
  | unclosed quote _ => some quote
  | bare _ | quoted _ _ => none

end Lexeme

/-- The text is made of the pieces.  A quote in a quoted text is doubled, and
the quote that closes it is not. -/
inductive Lexes : List Char → List Lexeme → Prop where
  | nil : Lexes [] []
  | bare {c : Char} {cs : List Char} {ls : List Lexeme} (hc : isQuote c = false)
      (h : Lexes cs ls) : Lexes (c :: cs) (.bare c :: ls)
  | quoted {quote : Char} (hq : isQuote quote = true) (content : List Char) {rest : List Char}
      (hrest : rest.head? ≠ some quote) {ls : List Lexeme} (h : Lexes rest ls) :
      Lexes (quoteChars quote content ++ rest) (.quoted quote content :: ls)
  | unclosed {quote : Char} (hq : isQuote quote = true) (content : List Char) :
      Lexes (quote :: doubleQuotes quote content) [.unclosed quote (doubleQuotes quote content)]

/-- The pieces of a text. -/
def lexemes : List Char → List Lexeme
  | [] => []
  | c :: cs =>
    if isQuote c then
      match _ : readToQuote c cs with
      | some (content, rest) => .quoted c content :: lexemes rest
      | none => [.unclosed c cs]
    else
      .bare c :: lexemes cs
termination_by cs => cs.length
decreasing_by
  · exact Nat.lt_succ_of_lt (length_of_readToQuote ‹_›)
  · exact Nat.lt_succ_self _

/-! ## The reader finds the reading -/

theorem lexemes_of_bare {c : Char} (hc : isQuote c = false) (cs : List Char) :
    lexemes (c :: cs) = .bare c :: lexemes cs := by
  rw [lexemes, if_neg (by simp [hc])]

theorem lexemes_of_quoted {c : Char} (hc : isQuote c = true) {cs content rest : List Char}
    (h : readToQuote c cs = some (content, rest)) :
    lexemes (c :: cs) = .quoted c content :: lexemes rest := by
  rw [lexemes, if_pos hc]
  split
  next heq =>
    rw [h] at heq
    cases heq
    rfl
  next heq =>
    rw [h] at heq
    cases heq

theorem lexemes_of_unclosed {c : Char} (hc : isQuote c = true) {cs : List Char}
    (h : readToQuote c cs = none) : lexemes (c :: cs) = [.unclosed c cs] := by
  rw [lexemes, if_pos hc]
  split
  next heq =>
    rw [h] at heq
    cases heq
  next => rfl

/-- A text has no reading but the one that the reader finds. -/
theorem Lexes.eq_lexemes {cs : List Char} {ls : List Lexeme} (h : Lexes cs ls) :
    ls = lexemes cs := by
  induction h with
  | nil => rw [lexemes]
  | bare hc _ ih => rw [lexemes_of_bare hc, ih]
  | @quoted quote hq content rest hrest ls _ ih =>
    have hread := readToQuote_doubleQuotes hrest content
    have hcons : quoteChars quote content ++ rest
        = quote :: (doubleQuotes quote content ++ quote :: rest) := by
      simp [quoteChars]
    rw [hcons, lexemes_of_quoted hq hread, ih]
  | unclosed hq content => rw [lexemes_of_unclosed hq (readToQuote_doubleQuotes_self content)]

/-- The reader finds a reading of every text. -/
theorem lexes_lexemes (cs : List Char) : Lexes cs (lexemes cs) := by
  fun_induction lexemes cs with
  | case1 => exact .nil
  | case2 c cs hc content rest hread ih =>
    obtain ⟨rfl, hrest⟩ := eq_of_readToQuote hread
    simpa [quoteChars] using Lexes.quoted hc content hrest ih
  | case3 c cs hc hread =>
    obtain ⟨content, rfl⟩ := exists_of_readToQuote_eq_none hread
    exact .unclosed hc content
  | case4 c cs hc ih => exact .bare (by simpa using hc) ih

/-- Every text has just one reading. -/
theorem lexes_iff {cs : List Char} {ls : List Lexeme} : Lexes cs ls ↔ ls = lexemes cs := by
  refine ⟨Lexes.eq_lexemes, ?_⟩
  rintro rfl
  exact lexes_lexemes cs

/-! ## The scan -/

/-- The scan ends in the quote that is open at the end, and counts the
placeholders outside of quotes. -/
theorem Lexes.scan {cs : List Char} {ls : List Lexeme} (h : Lexes cs ls) :
    quoteAfterAll none cs = ls.findSome? Lexeme.openQuote?
      ∧ countPlaceholders none cs = ls.countP Lexeme.isPlaceholder := by
  -- Lexeme by lexeme: a quoted one takes the scan out of quotes and back, and
  -- leaves it outside.
  induction h with
  | nil => exact ⟨rfl, rfl⟩
  | @bare c cs ls hc _ ih =>
    obtain ⟨ends, count⟩ := ih
    have hstep : quoteAfter none c = none := quoteAfter_of_not_isQuote hc
    refine ⟨?_, ?_⟩
    · rw [quoteAfterAll, List.foldl_cons, hstep]
      exact ends
    · rw [countPlaceholders, hstep, count, List.countP_cons, Nat.add_comm]
      rfl
  | @quoted quote hq content rest _ ls _ ih =>
    obtain ⟨ends, count⟩ := ih
    obtain ⟨closed, unseen⟩ := scan_quoteChars hq content
    refine ⟨?_, ?_⟩
    · rw [quoteAfterAll_append, closed]
      exact ends
    · rw [countPlaceholders_append, closed, unseen, count, Nat.zero_add]
      exact (List.countP_cons_of_neg (by simp [Lexeme.isPlaceholder])).symm
  | @unclosed quote hq content =>
    obtain ⟨stays, unseen⟩ := scan_doubleQuotes hq content
    refine ⟨?_, ?_⟩
    · rw [quoteAfterAll, List.foldl_cons, quoteAfter_self hq]
      exact stays
    · rw [countPlaceholders, quoteAfter_self hq, unseen]
      simp [ne_placeholder_of_isQuote hq, Lexeme.isPlaceholder]

/-- **The scan reads quoted texts as SQL does.**  Every text has just one reading
in which a doubled quote stands for a quote of the quoted text, for quotes of
every kind and also when the text ends before the closing quote.  A statement
has as many placeholders as this reading has outside of quotes, and the scan
ends outside of quotes just when the reading leaves no quote open.  After a
text that ends outside of quotes, a text adds its own placeholders, even where
the quotes of the two meet and are read as one. -/
theorem Statement.placeholderCount_lexed :
    (∀ (cs : List Char) (ls : List Lexeme), Lexes cs ls ↔ ls = lexemes cs)
    ∧ (∀ s : Statement, s.placeholderCount = (lexemes s.sql.toList).countP Lexeme.isPlaceholder)
    ∧ (∀ sql : String,
      EndsUnquoted sql ↔ (lexemes sql.toList).findSome? Lexeme.openQuote? = none)
    ∧ ∀ (sql sql' : String) (b b' b'' : Bindings), EndsUnquoted sql →
      placeholderCount ⟨sql ++ sql', b⟩
        = placeholderCount ⟨sql, b'⟩ + placeholderCount ⟨sql', b''⟩ := by
  refine ⟨fun _ _ => lexes_iff, ?_, ?_, ?_⟩
  · intro s
    exact (lexes_lexemes s.sql.toList).scan.2
  · intro sql
    rw [EndsUnquoted, (lexes_lexemes sql.toList).scan.1]
  · intro sql sql' b b' b'' ends
    exact ends.count_append

/-- The quote that ends the first text and the one that starts the second become
a doubled quote, and what they stood for is one quoted text. -/
theorem Statement.metQuotes_lexed :
    EndsUnquoted "? '?'"
      ∧ placeholderCount ⟨"? '?'" ++ "'?' ? \x60?", .empty⟩
        = placeholderCount ⟨"? '?'", .empty⟩ + placeholderCount ⟨"'?' ? \x60?", .empty⟩
      ∧ placeholderCount ⟨"? '?'" ++ "'?' ? \x60?", .empty⟩ = 2
      ∧ Lexes "? '?''?' ? \x60?".toList
        [.bare '?', .bare ' ', .quoted '\x27' "?'?".toList, .bare ' ', .bare '?', .bare ' ',
          .unclosed '\x60' ['?']] := by
  obtain ⟨reads, -, -, adds⟩ := Statement.placeholderCount_lexed
  have ends : EndsUnquoted "? '?'" := by decide
  refine ⟨ends, adds _ _ _ _ _ ends, by decide, (reads _ _).mpr ?_⟩
  simp [lexemes, isQuote, readToQuote, withChar]

end SqlTree
