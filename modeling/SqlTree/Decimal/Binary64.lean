/-!
# Floating-point numbers

A 64-bit floating-point number is kept as its bits: a sign, eleven
exponent bits and fifty-two fraction bits.  Equality is equality of the
bits, so a negative zero differs from a positive one and a NaN equals
itself.

A finite number stands for `significand · 2 ^ exponent`.  Reading goes the
other way: `ofRatio?` gives the number nearest to a ratio of naturals, and
of two nearest ones the number with an even significand.  All of it is
arithmetic on naturals.
-/

set_option autoImplicit false

namespace SqlTree.Decimal

/-- A 64-bit floating-point number, by its bits. -/
structure Binary64 where
  bits : UInt64
deriving DecidableEq, Inhabited

namespace Binary64

/-- The sign bit, as a number. -/
def signBit : Nat := 0x8000000000000000

/-- The lowest exponent bit, as a number: one more than the greatest
fraction. -/
def unitBit : Nat := 0x10000000000000

/-- The bits without the sign. -/
def magnitudeBits (x : Binary64) : Nat :=
  x.bits.toNat % signBit

/-- Whether the sign bit is set. -/
def isNegative (x : Binary64) : Bool :=
  decide (signBit ≤ x.bits.toNat)

/-- The exponent bits, as a number. -/
def exponentBits (x : Binary64) : Nat :=
  x.magnitudeBits / unitBit

/-- The fraction bits, as a number. -/
def fractionBits (x : Binary64) : Nat :=
  x.magnitudeBits % unitBit

/-- Whether the number is neither infinite nor a NaN. -/
def isFinite (x : Binary64) : Bool :=
  decide (x.exponentBits < 2047)

/-- Whether the bits stand for no number. -/
def isNaN (x : Binary64) : Bool :=
  !x.isFinite && x.fractionBits != 0

/-- The integer `m` of the magnitude `m · 2 ^ q` of a finite number. -/
def significand (x : Binary64) : Nat :=
  if x.exponentBits = 0 then x.fractionBits else unitBit + x.fractionBits

/-- The exponent `q` of the magnitude `m · 2 ^ q` of a finite number. -/
def exponent (x : Binary64) : Int :=
  (max x.exponentBits 1 : Nat) - 1075

/-- Whether the neighbour below is half as far away as the one above. -/
def isPowerOfTwo (x : Binary64) : Bool :=
  x.fractionBits == 0 && decide (1 < x.exponentBits)

/-- The number with the given sign and magnitude bits. -/
def ofBits (negative : Bool) (magnitude : Nat) : Binary64 :=
  ⟨UInt64.ofNat (if negative then signBit + magnitude else magnitude)⟩

/-- The quotient of `num` by `den`, rounded to the nearest integer and a
half to the even one. -/
def roundRatio (num den : Nat) : Nat :=
  let quotient := num / den
  let twice := 2 * (num % den)
  if den < twice || (twice == den && quotient % 2 == 1) then quotient + 1 else quotient

/-- The number nearest to `num / den`, or `none` beyond the largest finite
one.

The exponent is the one that gives the significand fifty-three bits, and
no smaller than the least there is.  Adding the rounded significand to the
shifted exponent carries into the next exponent by itself. -/
def ofRatio? (negative : Bool) (num den : Nat) : Option Binary64 :=
  if num = 0 then
    some (ofBits negative 0)
  else
    let guess : Int := (Nat.log2 num : Int) - Nat.log2 den - 52
    let reaches := den * Nat.pow 2 (52 + guess).toNat ≤ num * Nat.pow 2 (-(52 + guess)).toNat
    let exponent := max (if reaches then guess else guess - 1) (-1074)
    let significand :=
      roundRatio (num * Nat.pow 2 (-exponent).toNat) (den * Nat.pow 2 exponent.toNat)
    let magnitude := (exponent + 1074).toNat * unitBit + significand
    if magnitude < 2047 * unitBit then some (ofBits negative magnitude) else none

/-- The number of decimal digits of `n`. -/
def digitCount (n : Nat) : Nat :=
  (Nat.toDigits 10 n).length

/-- The number nearest to `digits · 10 ^ exponent`, or `none` beyond the
largest finite one.  A magnitude below every number is zero, and one above
every number is refused, before any power is taken. -/
def ofDecimal? (negative : Bool) (digits : Nat) (exponent : Int) : Option Binary64 :=
  let scale := exponent + digitCount digits
  if digits = 0 || scale < -330 then
    some (ofBits negative 0)
  else if 310 < scale then
    none
  else
    ofRatio? negative (digits * Nat.pow 10 exponent.toNat) (Nat.pow 10 (-exponent).toNat)

/-- The number nearest to an integer of at most 64 bits. -/
def ofInt (n : Int) : Binary64 :=
  (ofRatio? (decide (n < 0)) n.natAbs 1).getD (ofBits false 0)

end Binary64

end SqlTree.Decimal
