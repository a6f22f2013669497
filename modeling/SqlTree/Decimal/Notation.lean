import SqlTree.Decimal.Shortest

/-!
# Floating-point numbers as text

Two notations are in use.  A document writes a number so that it is seen
to be no integer: positionally, with at least one place after the point,
or with a signed exponent where the number is very large or very small.
A display writes it positionally at any size and shows no place that is
not needed.
-/

set_option autoImplicit false

namespace SqlTree.Decimal

/-- What a notation decides. -/
structure Notation where
  /-- the choice between two equally close decimals -/
  tie : Tie
  /-- the exponents of the first digit that are written positionally -/
  positional : Int → Bool
  /-- whether an integer gets a zero after the point -/
  pointed : Bool

/-- Numbers in documents: between `1e-5` and `1e16` positionally, else with
an exponent. -/
def document : Notation where
  tie := .toEven
  positional e := decide (-5 ≤ e) && decide (e < 16)
  pointed := true

/-- Numbers on display: always positionally. -/
def display : Notation where
  tie := .up
  positional _ := true
  pointed := false

/-- The text of `n` zeros. -/
def zeros (n : Nat) : String :=
  String.ofList (List.replicate n '0')

/-- The digits `ds`, the first of them with exponent `e`, written
positionally. -/
def positionalText (pointed : Bool) (ds : List Char) (e : Int) : String :=
  if e < 0 then
    "0." ++ zeros (-e - 1).toNat ++ String.ofList ds
  else
    let whole := e.toNat + 1
    let places := ds.drop whole
    let integer := String.ofList (ds.take whole) ++ zeros (whole - ds.length)
    if places.isEmpty then
      if pointed then integer ++ ".0" else integer
    else
      integer ++ "." ++ String.ofList places

/-- The digits `ds`, the first of them with exponent `e`, written with an
exponent. -/
def exponentText (ds : List Char) (e : Int) : String :=
  let lead := String.ofList (ds.take 1)
  let places := ds.drop 1
  let mantissa := if places.isEmpty then lead else lead ++ "." ++ String.ofList places
  mantissa ++ (if e < 0 then "e-" else "e+") ++ toString e.natAbs

/-- The text of a number. -/
def Notation.text (n : Notation) (x : Binary64) : String :=
  if x.isNaN then
    "NaN"
  else
    let sign := if x.isNegative then "-" else ""
    if x.isFinite then
      let d := shortest n.tie x
      let ds := Nat.toDigits 10 d.digits
      let e := d.exponent + ds.length - 1
      sign ++ if n.positional e then positionalText n.pointed ds e else exponentText ds e
    else
      sign ++ "inf"

end SqlTree.Decimal
