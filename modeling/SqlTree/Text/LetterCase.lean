import SqlTree.Text.CaseTable

/-!
# Upper and lower case

The full case mappings of a text: a character may become several
(`ß` is `SS`), and a capital sigma is lowered by its place in the word.

The mappings are read from the tables of `CaseTable`; ASCII letters do
not reach the tables.
-/

set_option autoImplicit false

namespace SqlTree.Text

/-- The letter that the first run holding `c` maps it to, else `c`. -/
def shiftCase (runs : List CaseRun) (c : Char) : Char :=
  match runs.find? (·.holds c.toNat) with
  | some run => Char.ofNat (c.toNat + run.shift).toNat
  | none => c

/-- The upper case of one character. -/
def upperChar (c : Char) : List Char :=
  if c.toNat < 0x80 then
    [c.toUpper]
  else
    match upperExpansions.lookup c.toNat with
    | some codes => codes.map Char.ofNat
    | none => [shiftCase upperRuns c]

/-- The upper case of a text. -/
def upper (s : String) : String :=
  String.ofList (s.toList.flatMap upperChar)

/-- Whether a text, read past its ignorable characters, starts with a
cased one. -/
def startsCased (cs : List Char) : Bool :=
  match cs.dropWhile caseIgnorableRanges.holds with
  | c :: _ => casedRanges.holds c
  | [] => false

/-- The lower case of a capital sigma between `before`, read backwards,
and `after`: final at the end of a word. -/
def lowerSigma (before after : List Char) : Char :=
  if startsCased before && !startsCased after then 'ς' else 'σ'

/-- The lower case of the character `c` between `before`, read
backwards, and `after`. -/
def lowerChar (before : List Char) (c : Char) (after : List Char) : List Char :=
  if c.toNat < 0x80 then
    [c.toLower]
  else if c == 'Σ' then
    [lowerSigma before after]
  else if c == 'İ' then
    ['i', Char.ofNat 0x307]
  else
    [shiftCase lowerRuns c]

/-- The lower case of the text `cs` that follows `before`, read
backwards. -/
def lowerAfter (before : List Char) : List Char → List Char
  | [] => []
  | c :: cs => lowerChar before c cs ++ lowerAfter (c :: before) cs

/-- The lower case of a text. -/
def lower (s : String) : String :=
  String.ofList (lowerAfter [] s.toList)

end SqlTree.Text
