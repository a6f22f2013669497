import SqlTree.Keyword
import SqlTree.Text.Split

/-!
# Quoted identifiers

A name is written between quote characters, with each quote character
inside of it doubled.  A dotted identifier is quoted part by part, and a
part that is a star stays bare.
-/

set_option autoImplicit false

namespace SqlTree

open Text

/-- The quote character of identifiers. -/
def Dialect.quoteChar : Dialect → Char
  | .mysql => '\x60'
  | .common | .sqlite => '"'

/-- A text with each `quote` in it doubled. -/
def doubleQuotes (quote : Char) : List Char → List Char
  | [] => []
  | c :: cs => if c = quote then quote :: quote :: doubleQuotes quote cs
    else c :: doubleQuotes quote cs

/-- A name between `quote` characters. -/
def quoteChars (quote : Char) (name : List Char) : List Char :=
  quote :: doubleQuotes quote name ++ [quote]

/-- A part of an identifier. -/
def quotePart (quote : Char) (part : List Char) : List Char :=
  if part = ['*'] then part else quoteChars quote part

/-- The parts of an identifier, quoted and with dots between them. -/
def quoteParts (quote : Char) : List (List Char) → List Char
  | [] => []
  | [part] => quotePart quote part
  | part :: parts => quotePart quote part ++ '.' :: quoteParts quote parts

/-- A name in the quotes of the dialect, dots and all. -/
def Dialect.quoteName (d : Dialect) (name : String) : String :=
  String.ofList (quoteChars d.quoteChar name.toList)

/-- An identifier in the quotes of the dialect, part by part. -/
def Dialect.quoteIdentifier (d : Dialect) (name : String) : String :=
  String.ofList (quoteParts d.quoteChar (splitAll '.' name.toList))

/-- Parts are quoted one by one, with a dot between two lists of them. -/
theorem quoteParts_append (quote : Char) {parts parts' : List (List Char)} (h : parts ≠ [])
    (h' : parts' ≠ []) :
    quoteParts quote (parts ++ parts')
      = quoteParts quote parts ++ '.' :: quoteParts quote parts' := by
  induction parts with
  | nil => exact absurd rfl h
  | cons part parts ih =>
    cases parts with
    | nil =>
      obtain ⟨part', rest, rfl⟩ := List.exists_cons_of_ne_nil h'
      rfl
    | cons next rest =>
      have hrest := ih (List.cons_ne_nil next rest)
      simp only [List.cons_append, quoteParts, List.append_assoc] at hrest ⊢
      rw [hrest]

/-- A dot divides an identifier into two that are quoted on their own. -/
theorem Dialect.quoteIdentifier_append (d : Dialect) (qualifier name : String) :
    d.quoteIdentifier (qualifier ++ "." ++ name)
      = d.quoteIdentifier qualifier ++ "." ++ d.quoteIdentifier name := by
  have hdot : ".".toList = ['.'] := rfl
  have hsplit : splitAll '.' (qualifier ++ "." ++ name).toList
      = splitAll '.' qualifier.toList ++ splitAll '.' name.toList := by
    rw [String.toList_append, String.toList_append, hdot, List.append_assoc]
    exact splitAll_append '.' _ _
  rw [quoteIdentifier, hsplit, quoteParts_append _ (splitAll_ne_nil _ _) (splitAll_ne_nil _ _)]
  apply String.toList_inj.mp
  simp [quoteIdentifier, hdot]

/-- An identifier without a dot is quoted like a name, but for the star. -/
theorem Dialect.quoteIdentifier_of_bare (d : Dialect) {name : String} (hdot : '.' ∉ name.toList)
    (hstar : name ≠ "*") : d.quoteIdentifier name = d.quoteName name := by
  have hchars : name.toList ≠ ['*'] := fun h => hstar (String.toList_inj.mp h)
  rw [quoteIdentifier, splitAll_of_not_mem hdot, quoteParts, quotePart, if_neg hchars]
  rfl

/-- A doubled text ends at the first quote that is not doubled. -/
theorem doubleQuotes_append_inj {quote : Char} {cs cs' rest rest' : List Char}
    (hrest : rest.head? ≠ some quote) (hrest' : rest'.head? ≠ some quote)
    (h : doubleQuotes quote cs ++ quote :: rest = doubleQuotes quote cs' ++ quote :: rest') :
    cs = cs' ∧ rest = rest' := by
  induction cs generalizing cs' with
  | nil =>
    cases cs' with
    | nil => simpa [doubleQuotes] using h
    | cons c cs' =>
      by_cases hc : c = quote
      · subst hc
        obtain rfl : rest = c :: (doubleQuotes c cs' ++ c :: rest') := by
          simpa [doubleQuotes] using h
        exact absurd rfl hrest
      · simp [doubleQuotes, hc, Ne.symm hc] at h
  | cons c cs ih =>
    cases cs' with
    | nil =>
      by_cases hc : c = quote
      · subst hc
        obtain rfl : c :: (doubleQuotes c cs ++ c :: rest) = rest' := by
          simpa [doubleQuotes] using h
        exact absurd rfl hrest'
      · simp [doubleQuotes, hc] at h
    | cons c' cs' =>
      have hhead : c = c' := by
        by_cases hc : c = quote <;> by_cases hc' : c' = quote <;>
          simp_all [doubleQuotes]
      subst hhead
      have htail : doubleQuotes quote cs ++ quote :: rest
          = doubleQuotes quote cs' ++ quote :: rest' := by
        by_cases hc : c = quote <;> simpa [doubleQuotes, hc] using h
      obtain ⟨rfl, rfl⟩ := ih htail
      exact ⟨rfl, rfl⟩

theorem Dialect.quoteChar_ne_star (d : Dialect) : d.quoteChar ≠ '*' := by
  cases d <;> decide

theorem Dialect.quoteChar_ne_dot (d : Dialect) : d.quoteChar ≠ '.' := by
  cases d <;> decide

/-- A part in its quotes, before something else, is a quoted name only where
nothing else follows. -/
theorem quotePart_append_eq_quoteChars {quote : Char} {part name rest : List Char}
    (hstar : quote ≠ '*') (hrest : rest.head? ≠ some quote)
    (h : quotePart quote part ++ rest = quoteChars quote name) :
    part ≠ ['*'] ∧ part = name ∧ rest = [] := by
  unfold quotePart at h
  split at h
  next hpart =>
    simp [hpart, quoteChars, Ne.symm hstar] at h
  next hpart =>
    have hdoubled : doubleQuotes quote part ++ quote :: rest
        = doubleQuotes quote name ++ [quote] := by simpa [quoteChars] using h
    obtain ⟨hname, hnil⟩ := doubleQuotes_append_inj hrest (by simp) hdoubled
    exact ⟨hpart, hname, hnil⟩

/-- An identifier is quoted like a name exactly where it has one part and
is no star. -/
theorem Dialect.quoteIdentifier_eq_quoteName_iff (d : Dialect) {name name' : String} :
    d.quoteIdentifier name = d.quoteName name'
      ↔ name = name' ∧ '.' ∉ name.toList ∧ name ≠ "*" := by
  constructor
  · intro h
    have hchars : quoteParts d.quoteChar (splitAll '.' name.toList)
        = quoteChars d.quoteChar name'.toList := String.ofList_injective h
    by_cases hdot : '.' ∈ name.toList
    · exfalso
      obtain ⟨before, after, hname⟩ := List.append_of_mem hdot
      obtain ⟨part, parts, hbefore⟩ := List.exists_cons_of_ne_nil (splitAll_ne_nil '.' before)
      obtain ⟨next, rest, hafter⟩ :=
        List.exists_cons_of_ne_nil (List.append_ne_nil_of_right_ne_nil parts
          (splitAll_ne_nil '.' after))
      rw [hname, splitAll_append, hbefore, List.cons_append, hafter, quoteParts] at hchars
      · have hrest : ('.' :: quoteParts d.quoteChar (next :: rest)).head? ≠ some d.quoteChar := by
          simpa using d.quoteChar_ne_dot.symm
        obtain ⟨-, -, hnil⟩ := quotePart_append_eq_quoteChars d.quoteChar_ne_star hrest hchars
        cases hnil
      · simp
    · rw [splitAll_of_not_mem hdot, quoteParts, ← List.append_nil (quotePart _ _)] at hchars
      obtain ⟨hstar, hname, -⟩ :=
        quotePart_append_eq_quoteChars d.quoteChar_ne_star (by simp) hchars
      refine ⟨String.toList_inj.mp hname, hdot, ?_⟩
      rintro rfl
      exact hstar rfl
  · rintro ⟨rfl, hdot, hstar⟩
    exact d.quoteIdentifier_of_bare hdot hstar

end SqlTree
