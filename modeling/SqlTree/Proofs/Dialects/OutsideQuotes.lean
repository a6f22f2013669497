import SqlTree.Proofs.Compile.RelatedTexts

/-!
# Texts outside of quotes

`outsideQuotes` keeps the characters of a text that stand outside of quotes,
by the scan that counts placeholders.  The quotes themselves are left out, so
it does not matter which character a dialect quotes with.

A quoted name has nothing outside of quotes, whatever it holds, and an
identifier just the dots between its parts and the parts that are stars.
-/

set_option autoImplicit false

namespace SqlTree

open Text

/-- The characters outside of quotes, of a text that starts with `quote`
open. -/
def outsideQuotes (quote : Option Char) : List Char → List Char
  | [] => []
  | c :: cs =>
    if quote.isNone && (quoteAfter quote c).isNone then
      c :: outsideQuotes (quoteAfter quote c) cs
    else
      outsideQuotes (quoteAfter quote c) cs

/-- The characters of a statement outside of quotes. -/
def Statement.outsideQuotes (s : Statement) : List Char :=
  SqlTree.outsideQuotes none s.sql.toList

/-- A text is read part by part. -/
theorem outsideQuotes_append (quote : Option Char) (cs ds : List Char) :
    outsideQuotes quote (cs ++ ds)
      = outsideQuotes quote cs ++ outsideQuotes (quoteAfterAll quote cs) ds := by
  induction cs generalizing quote with
  | nil => rfl
  | cons c cs ih =>
    simp only [List.cons_append, outsideQuotes, ih, quoteAfterAll, List.foldl_cons]
    split <;> rfl

/-- Texts that end outside of quotes, and have the same characters there. -/
structure SameOutside (s s' : String) : Prop where
  ends_left : EndsUnquoted s
  ends_right : EndsUnquoted s'
  outside_eq : outsideQuotes none s.toList = outsideQuotes none s'.toList
  isEmpty_eq : s.isEmpty = s'.isEmpty

/-- The same text outside of quotes. -/
def TextRelation.sameOutside : TextRelation where
  Holds := SameOutside
  refl h := ⟨h, h, rfl, rfl⟩
  append {s s' t t'} h h' := by
    have hs : quoteAfterAll none s.toList = none := h.ends_left
    have hs' : quoteAfterAll none s'.toList = none := h.ends_right
    refine ⟨h.ends_left.append h'.ends_left, h.ends_right.append h'.ends_right, ?_, ?_⟩
    · rw [String.toList_append, String.toList_append, outsideQuotes_append, outsideQuotes_append,
        hs, hs', h.outside_eq, h'.outside_eq]
    · rw [isEmpty_append, isEmpty_append, h.isEmpty_eq, h'.isEmpty_eq]
  isEmpty_eq h := h.isEmpty_eq

/-! ## Quoted names -/

section

variable {quote : Char}

theorem outsideQuotes_doubleQuotes (hq : isQuote quote = true) (name : List Char) :
    outsideQuotes (some quote) (doubleQuotes quote name) = [] := by
  induction name with
  | nil => rfl
  | cons c cs ih =>
    rw [doubleQuotes]
    split
    next => simp [outsideQuotes, quoteAfter_close, quoteAfter_self hq, ih]
    next hc => simp [outsideQuotes, quoteAfter_of_ne hc, ih]

/-- A quoted name stands inside of quotes. -/
theorem outsideQuotes_quoteChars (hq : isQuote quote = true) (name : List Char) :
    outsideQuotes none (quoteChars quote name) = [] := by
  obtain ⟨ends, -⟩ := scan_doubleQuotes hq name
  have hname := outsideQuotes_doubleQuotes hq name
  rw [quoteChars, List.cons_append]
  simp [outsideQuotes, quoteAfter_self hq, outsideQuotes_append, hname, ends,
    quoteAfter_close]

/-- What stands outside of quotes in an identifier: its dots and stars. -/
def identifierShape : List (List Char) → List Char
  | [] => []
  | [part] => if part = ['*'] then part else []
  | part :: parts => (if part = ['*'] then part else []) ++ '.' :: identifierShape parts

theorem outsideQuotes_quotePart (hq : isQuote quote = true) (part : List Char) :
    outsideQuotes none (quotePart quote part) = if part = ['*'] then part else [] := by
  rw [quotePart]
  split
  next h =>
    subst h
    decide
  next => exact outsideQuotes_quoteChars hq part

theorem outsideQuotes_quoteParts (hq : isQuote quote = true) : ∀ parts : List (List Char),
    outsideQuotes none (quoteParts quote parts) = identifierShape parts
  | [] => rfl
  | [part] => outsideQuotes_quotePart hq part
  | part :: next :: parts => by
    obtain ⟨ends, -⟩ := scan_quotePart hq part
    have hdot : quoteAfter none '.' = none := by decide
    have hrest := outsideQuotes_quoteParts hq (next :: parts)
    rw [show quoteParts quote (part :: next :: parts)
      = quotePart quote part ++ '.' :: quoteParts quote (next :: parts) from rfl]
    rw [outsideQuotes_append, outsideQuotes_quotePart hq, ends, outsideQuotes, hdot, hrest]
    rfl

end

namespace Dialect

variable (d : Dialect) (name : String)

theorem isEmpty_quoteName : (d.quoteName name).isEmpty = false := by
  simp [quoteName, quoteChars, String.isEmpty_eq_false_iff]

theorem isEmpty_quoteIdentifier : (d.quoteIdentifier name).isEmpty = false := by
  have hparts : ∀ parts, parts ≠ [] → quoteParts d.quoteChar parts ≠ [] := by
    intro parts hne
    match parts, hne with
    | [part], _ =>
      rw [quoteParts, quotePart]
      split
      next h => simp [h]
      next => simp [quoteChars]
    | part :: next :: parts, _ => simp [quoteParts]
  have hname := hparts _ (splitAll_ne_nil '.' name.toList)
  simpa [quoteIdentifier, String.isEmpty_eq_false_iff] using hname

theorem outsideQuotes_quoteName : outsideQuotes none (d.quoteName name).toList = [] := by
  rw [quoteName, String.toList_ofList]
  exact outsideQuotes_quoteChars d.isQuote_quoteChar name.toList

theorem outsideQuotes_quoteIdentifier :
    outsideQuotes none (d.quoteIdentifier name).toList
      = identifierShape (splitAll '.' name.toList) := by
  rw [quoteIdentifier, String.toList_ofList]
  exact outsideQuotes_quoteParts d.isQuote_quoteChar _

variable (d' : Dialect)

/-- Any two quoted names have nothing outside of quotes. -/
theorem quoteName_sameOutside (name' : String) :
    SameOutside (d.quoteName name) (d'.quoteName name') where
  ends_left := (d.isPlain_quoteName name).ends
  ends_right := (d'.isPlain_quoteName name').ends
  outside_eq := by rw [outsideQuotes_quoteName, outsideQuotes_quoteName]
  isEmpty_eq := by rw [isEmpty_quoteName, isEmpty_quoteName]

/-- Identifiers of the same shape have the same outside of quotes. -/
theorem quoteIdentifier_sameOutside {name name' : String}
    (hshape : identifierShape (splitAll '.' name.toList)
      = identifierShape (splitAll '.' name'.toList)) :
    SameOutside (d.quoteIdentifier name) (d'.quoteIdentifier name') where
  ends_left := (d.isPlain_quoteIdentifier name).ends
  ends_right := (d'.isPlain_quoteIdentifier name').ends
  outside_eq := by rw [outsideQuotes_quoteIdentifier, outsideQuotes_quoteIdentifier, hshape]
  isEmpty_eq := by rw [isEmpty_quoteIdentifier, isEmpty_quoteIdentifier]

end Dialect

end SqlTree
