import SqlTree.Compile.Quoting

/-!
# Reading quoted identifiers back

A reader of names takes the opening quote, reads a doubled quote as one, and
stops at the first quote that is not doubled.  A reader of identifiers reads
one segment after the other, a bare star or a quoted name, for as long as a
dot follows.

Both give back what was quoted and leave what follows it
(`Dialect.quoting_reads_back`), whatever quotes, dots and stars the names
hold.  They look ahead by one character, so what follows must not go on where
they stop: it must not start with a quote, and after an identifier not with a
dot either.  A reader of names takes nothing else: what it reads is a doubled
text with its closing quote (`eq_of_readToQuote`), and what it does not read is
a doubled text that no quote closes (`exists_of_readToQuote_eq_none`).
-/

set_option autoImplicit false

namespace SqlTree

open Text

/-! ## The readers -/

/-- A character before the name that has been read. -/
def withChar (c : Char) (read : List Char × List Char) : List Char × List Char :=
  (c :: read.1, read.2)

/-- The name up to its closing quote, and what follows that quote. -/
def readToQuote (quote : Char) : List Char → Option (List Char × List Char)
  | [] => none
  | [c] => if c = quote then some ([], []) else none
  | c :: next :: cs =>
    if c = quote then
      if next = quote then (readToQuote quote cs).map (withChar quote) else some ([], next :: cs)
    else
      (readToQuote quote (next :: cs)).map (withChar c)

/-- The name between quotes, and what follows it. -/
def readQuoted (quote : Char) : List Char → Option (List Char × List Char)
  | [] => none
  | c :: cs => if c = quote then readToQuote quote cs else none

/-- A segment of an identifier. -/
inductive Segment where
  /-- a bare star -/
  | star
  /-- a name between quotes -/
  | quoted (name : List Char)
deriving DecidableEq

/-- What a segment stands for. -/
def Segment.name : Segment → List Char
  | star => ['*']
  | quoted name => name

/-- How a part of an identifier is written. -/
def Segment.ofPart (part : List Char) : Segment :=
  if part = ['*'] then star else quoted part

/-- A segment, and what follows it. -/
def readSegment (quote : Char) : List Char → Option (Segment × List Char)
  | [] => none
  | c :: cs =>
    if c = '*' then some (.star, cs)
    else (readQuoted quote (c :: cs)).map fun (name, rest) => (.quoted name, rest)

/-- A name is shorter than the text that it is read from. -/
theorem length_of_readToQuote {quote : Char} {cs name rest : List Char}
    (h : readToQuote quote cs = some (name, rest)) : rest.length < cs.length := by
  fun_induction readToQuote quote cs generalizing name rest with
  | case1 => cases h
  | case2 =>
    cases h
    exact Nat.zero_lt_one
  | case3 => cases h
  | case4 cs ih =>
    obtain ⟨⟨name', rest'⟩, hread, hpair⟩ := Option.map_eq_some_iff.mp h
    cases hpair
    have := ih hread
    simp only [List.length_cons]
    omega
  | case5 =>
    cases h
    simp
  | case6 c next cs hc ih =>
    obtain ⟨⟨name', rest'⟩, hread, hpair⟩ := Option.map_eq_some_iff.mp h
    cases hpair
    exact Nat.lt_succ_of_lt (ih hread)

theorem length_of_readSegment {quote : Char} {cs rest : List Char} {segment : Segment}
    (h : readSegment quote cs = some (segment, rest)) : rest.length < cs.length := by
  cases cs with
  | nil => cases h
  | cons c cs =>
    rw [readSegment] at h
    split at h
    · cases h
      exact Nat.lt_succ_self _
    · obtain ⟨⟨name, rest'⟩, hread, hpair⟩ := Option.map_eq_some_iff.mp h
      cases hpair
      rw [readQuoted] at hread
      split at hread
      · exact Nat.lt_succ_of_lt (length_of_readToQuote hread)
      · cases hread

/-- The segments of an identifier, with dots between them, and what follows
it. -/
def readIdentifier (quote : Char) (cs : List Char) : Option (List Segment × List Char) :=
  match _ : readSegment quote cs with
  | none => none
  | some (segment, '.' :: rest) =>
    (readIdentifier quote rest).map fun (segments, rest) => (segment :: segments, rest)
  | some (segment, rest) => some ([segment], rest)
termination_by cs.length
decreasing_by
  have := length_of_readSegment ‹_›
  rw [List.length_cons] at this
  omega

/-- A dot goes on to the next segment. -/
theorem readIdentifier_of_dot {quote : Char} {cs rest : List Char} {segment : Segment}
    (h : readSegment quote cs = some (segment, '.' :: rest)) :
    readIdentifier quote cs
      = (readIdentifier quote rest).map fun (segments, rest) => (segment :: segments, rest) := by
  rw [readIdentifier, h]
  rfl

/-- Anything else ends the identifier. -/
theorem readIdentifier_of_end {quote : Char} {cs rest : List Char} {segment : Segment}
    (h : readSegment quote cs = some (segment, rest)) (hend : rest.head? ≠ some '.') :
    readIdentifier quote cs = some ([segment], rest) := by
  rw [readIdentifier, h]
  split
  next heq => cases heq
  next heq =>
    cases heq
    exact absurd rfl hend
  next heq =>
    cases heq
    rfl

/-! ## Names -/

section

variable {quote : Char} {rest : List Char}

/-- A doubled text is read up to the quote that closes it. -/
theorem readToQuote_doubleQuotes (hrest : rest.head? ≠ some quote) (name : List Char) :
    readToQuote quote (doubleQuotes quote name ++ quote :: rest) = some (name, rest) := by
  induction name with
  | nil =>
    cases rest with
    | nil => simp [doubleQuotes, readToQuote]
    | cons next rest =>
      have hnext : next ≠ quote := fun heq => hrest (congrArg some heq)
      simp [doubleQuotes, readToQuote, hnext]
  | cons c name ih =>
    by_cases hc : c = quote
    · subst hc
      simp [doubleQuotes, readToQuote, ih, withChar]
    · obtain ⟨next, cs, hcs⟩ : ∃ next cs, doubleQuotes quote name ++ quote :: rest = next :: cs :=
        List.exists_cons_of_ne_nil (by simp)
      rw [hcs] at ih
      simp [doubleQuotes, hc, hcs, readToQuote, ih, withChar]

/-- What is read up to a quote is a doubled text, and no quote follows the one
that closes it. -/
theorem eq_of_readToQuote {cs name : List Char} (h : readToQuote quote cs = some (name, rest)) :
    cs = doubleQuotes quote name ++ quote :: rest ∧ rest.head? ≠ some quote := by
  fun_induction readToQuote quote cs generalizing name rest with
  | case1 => cases h
  | case2 =>
    cases h
    exact ⟨rfl, by simp⟩
  | case3 => cases h
  | case4 cs ih =>
    obtain ⟨⟨name', rest'⟩, hread, hpair⟩ := Option.map_eq_some_iff.mp h
    cases hpair
    obtain ⟨rfl, hrest⟩ := ih hread
    exact ⟨by simp [doubleQuotes], hrest⟩
  | case5 next cs hnext =>
    cases h
    exact ⟨rfl, fun heq => hnext (Option.some.inj heq)⟩
  | case6 c next cs hc ih =>
    obtain ⟨⟨name', rest'⟩, hread, hpair⟩ := Option.map_eq_some_iff.mp h
    cases hpair
    obtain ⟨hcs, hrest⟩ := ih hread
    exact ⟨by rw [hcs]; simp [doubleQuotes, hc], hrest⟩

/-- A doubled text by itself is not closed. -/
theorem readToQuote_doubleQuotes_self (name : List Char) :
    readToQuote quote (doubleQuotes quote name) = none := by
  induction name with
  | nil => rfl
  | cons c name ih =>
    rw [doubleQuotes]
    split
    · simp [readToQuote, ih]
    next hc =>
      cases hname : doubleQuotes quote name with
      | nil => simp [readToQuote, hc]
      | cons next cs =>
        rw [hname] at ih
        simp [readToQuote, hc, ih]

/-- What is not closed is a doubled text. -/
theorem exists_of_readToQuote_eq_none {cs : List Char} (h : readToQuote quote cs = none) :
    ∃ name, cs = doubleQuotes quote name := by
  fun_induction readToQuote quote cs with
  | case1 => exact ⟨[], rfl⟩
  | case2 => cases h
  | case3 c hc => exact ⟨[c], by simp [doubleQuotes, hc]⟩
  | case4 cs ih =>
    obtain ⟨name, rfl⟩ := ih (Option.map_eq_none_iff.mp h)
    exact ⟨quote :: name, by simp [doubleQuotes]⟩
  | case5 => cases h
  | case6 c next cs hc ih =>
    obtain ⟨name, hname⟩ := ih (Option.map_eq_none_iff.mp h)
    exact ⟨c :: name, by simp [doubleQuotes, hc, hname]⟩

/-- A quoted name is read back. -/
theorem readQuoted_quoteChars (hrest : rest.head? ≠ some quote) (name : List Char) :
    readQuoted quote (quoteChars quote name ++ rest) = some (name, rest) := by
  have hname := readToQuote_doubleQuotes hrest name
  simpa [quoteChars, readQuoted] using hname

/-! ## Identifiers -/

/-- A part of an identifier is read back as a segment. -/
theorem readSegment_quotePart (hstar : quote ≠ '*') (hrest : rest.head? ≠ some quote)
    (part : List Char) :
    readSegment quote (quotePart quote part ++ rest) = some (.ofPart part, rest) := by
  unfold quotePart Segment.ofPart
  split
  next h =>
    subst h
    rfl
  next h =>
    have hname := readQuoted_quoteChars hrest part
    simp only [quoteChars, List.cons_append, List.append_assoc] at hname ⊢
    rw [readSegment, if_neg hstar, hname]
    rfl

/-- Parts with dots between them are read back as segments. -/
theorem readIdentifier_quoteParts (hstar : quote ≠ '*') (hdot : quote ≠ '.')
    (hrest : rest.head? ≠ some quote) (hend : rest.head? ≠ some '.') :
    ∀ {parts : List (List Char)}, parts ≠ [] →
      readIdentifier quote (quoteParts quote parts ++ rest) = some (parts.map .ofPart, rest)
  | [part], _ => readIdentifier_of_end (readSegment_quotePart hstar hrest part) hend
  | part :: next :: parts, _ => by
    have hparts := readIdentifier_quoteParts hstar hdot hrest hend (List.cons_ne_nil next parts)
    have hsegment : readSegment quote (quotePart quote part
          ++ '.' :: (quoteParts quote (next :: parts) ++ rest))
        = some (.ofPart part, '.' :: (quoteParts quote (next :: parts) ++ rest)) :=
      readSegment_quotePart hstar (by simpa using hdot.symm) part
    have hcons : quoteParts quote (part :: next :: parts) ++ rest
        = quotePart quote part ++ '.' :: (quoteParts quote (next :: parts) ++ rest) := by
      simp [quoteParts]
    rw [hcons, readIdentifier_of_dot hsegment, hparts]
    rfl

end

/-! ## Whole texts -/

/-- A part stands for itself, however it is written. -/
theorem Segment.name_ofPart (part : List Char) : (ofPart part).name = part := by
  unfold ofPart
  split
  next h => exact h.symm
  next => rfl

/-- A text is its parts with the separator between them. -/
theorem intercalate_splitAll (sep : Char) (cs : List Char) :
    List.intercalate [sep] (splitAll sep cs) = cs := by
  induction cs with
  | nil => rfl
  | cons c cs ih =>
    obtain ⟨part, parts, hparts⟩ := List.exists_cons_of_ne_nil (splitAll_ne_nil sep cs)
    rw [splitAll]
    split
    next hc =>
      rw [hparts] at ih ⊢
      rw [List.intercalate_cons_cons, ih, hc]
      rfl
    next hc =>
      rw [hparts] at ih ⊢
      cases parts with
      | nil => simpa using ih
      | cons next parts =>
        rw [List.intercalate_cons_cons] at ih ⊢
        rw [← ih]
        rfl

namespace Dialect

variable (d : Dialect)

/-- The name that a text starts with, in the quotes of the dialect, and what
follows it. -/
def readName (text : String) : Option (String × String) :=
  (readQuoted d.quoteChar text.toList).map fun (name, rest) =>
    (String.ofList name, String.ofList rest)

/-- The segments of the identifier that a text starts with, and what follows
it. -/
def readSegments (text : String) : Option (List Segment × String) :=
  (readIdentifier d.quoteChar text.toList).map fun (segments, rest) =>
    (segments, String.ofList rest)

end Dialect

/-- The identifier that segments make, with dots between them. -/
def Segment.joined (segments : List Segment) : String :=
  String.ofList (List.intercalate ['.'] (segments.map Segment.name))

/-- The parts of a name make the name. -/
theorem Segment.joined_ofParts (name : String) :
    joined ((splitAll '.' name.toList).map ofPart) = name := by
  have hnames : (splitAll '.' name.toList).map (Segment.name ∘ ofPart) = splitAll '.' name.toList :=
    List.map_id'' name_ofPart _
  rw [joined, List.map_map, hnames, intercalate_splitAll, String.ofList_toList]

/-- **Quoted names and identifiers are read back.**  Before anything that does
not start with a quote, a reader of names gives back the quoted name and
leaves what follows it.  Before anything that does not start with a dot
either, a reader of identifiers gives back the segments of the quoted
identifier, with a bare star just for each part that is a star, and leaves
what follows it.  So different identifiers are quoted differently. -/
theorem Dialect.quoting_reads_back (d : Dialect) :
    (∀ name rest : String, rest.toList.head? ≠ some d.quoteChar →
      d.readName (d.quoteName name ++ rest) = some (name, rest))
    ∧ (∀ name rest : String, rest.toList.head? ≠ some d.quoteChar →
      rest.toList.head? ≠ some '.' →
      ∃ segments, d.readSegments (d.quoteIdentifier name ++ rest) = some (segments, rest)
        ∧ Segment.joined segments = name
        ∧ segments = (splitAll '.' name.toList).map Segment.ofPart)
    ∧ Function.Injective d.quoteIdentifier := by
  have hidentifier (name rest : String) (hrest : rest.toList.head? ≠ some d.quoteChar)
      (hend : rest.toList.head? ≠ some '.') :
      d.readSegments (d.quoteIdentifier name ++ rest)
        = some ((splitAll '.' name.toList).map Segment.ofPart, rest) := by
    have hread := readIdentifier_quoteParts d.quoteChar_ne_star d.quoteChar_ne_dot hrest hend
      (splitAll_ne_nil '.' name.toList)
    rw [readSegments, String.toList_append, quoteIdentifier, String.toList_ofList, hread]
    simp
  refine ⟨?_, ?_, ?_⟩
  · intro name rest hrest
    rw [readName, String.toList_append, quoteName, String.toList_ofList,
      readQuoted_quoteChars hrest]
    simp
  · intro name rest hrest hend
    exact ⟨_, hidentifier name rest hrest hend, Segment.joined_ofParts name, rfl⟩
  · intro name name' heq
    have hread := hidentifier name "" (by simp) (by simp)
    rw [heq, hidentifier name' "" (by simp) (by simp)] at hread
    have hsegments := (Prod.mk.inj (Option.some.inj hread)).1
    rw [← Segment.joined_ofParts name, ← hsegments, Segment.joined_ofParts]

/-- Names of quotes, stars and dots, before a keyword. -/
theorem Dialect.quotedStars_read_back :
    (" AS".toList.head? ≠ some Dialect.common.quoteChar
        ∧ " AS".toList.head? ≠ some '.')
      ∧ Dialect.common.readName (Dialect.common.quoteName "\"*\"\"" ++ " AS")
        = some ("\"*\"\"", " AS")
      ∧ ∃ segments, Dialect.common.readSegments
          (Dialect.common.quoteIdentifier "\".*..**" ++ " AS") = some (segments, " AS")
        ∧ Segment.joined segments = "\".*..**"
        ∧ segments = (splitAll '.' "\".*..**".toList).map Segment.ofPart := by
  have hquote : " AS".toList.head? ≠ some Dialect.common.quoteChar := by decide
  have hdot : " AS".toList.head? ≠ some '.' := by decide
  obtain ⟨hname, hidentifier, -⟩ := Dialect.common.quoting_reads_back
  exact ⟨⟨hquote, hdot⟩, hname _ _ hquote, hidentifier _ _ hquote hdot⟩

end SqlTree
