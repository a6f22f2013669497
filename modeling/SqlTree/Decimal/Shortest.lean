import SqlTree.Decimal.Binary64

/-!
# The fewest digits that read back

Every floating-point number is the nearest one to a whole interval of
decimals.  `shortest` picks from that interval a decimal with as few
digits as possible, and of those the one closest to the number.

For a count of digits the candidates are the two neighbours of the number
on the grid with that many digits.  If any decimal with that many digits
lies in the interval, so does one of these two.
-/

set_option autoImplicit false

namespace SqlTree.Decimal

/-- The decimal number `digits · 10 ^ exponent`. -/
structure Numeral where
  digits : Nat
  exponent : Int
deriving DecidableEq

/-- Which of two equally close neighbours is taken. -/
inductive Tie where
  | toEven
  | up
deriving DecidableEq

/-- A positive ratio. -/
structure Ratio where
  num : Nat
  den : Nat

/-- The ratio `n · 2 ^ q`. -/
def Ratio.ofScaled (n : Nat) (q : Int) : Ratio :=
  ⟨n * Nat.pow 2 q.toNat, Nat.pow 2 (-q).toNat⟩

/-- The ratio `r / 10 ^ e`. -/
def Ratio.shiftDown (r : Ratio) (e : Int) : Ratio :=
  ⟨r.num * Nat.pow 10 (-e).toNat, r.den * Nat.pow 10 e.toNat⟩

/-- The interval of the decimals nearest to one number, on a grid: the
number itself and the two ends, all in units of the grid. -/
structure Interval where
  value : Ratio
  low : Ratio
  high : Ratio
  closed : Bool

/-- The interval of `x` on the grid of the multiples of `10 ^ e`.  Its ends
lie halfway to the neighbours of `x`, and belong to it where the
significand is even. -/
def Binary64.interval (x : Binary64) (e : Int) : Interval :=
  let m := x.significand
  let q := x.exponent - 2
  { value := (Ratio.ofScaled (4 * m) q).shiftDown e
    low := (Ratio.ofScaled (if x.isPowerOfTwo then 4 * m - 1 else 4 * m - 2) q).shiftDown e
    high := (Ratio.ofScaled (4 * m + 2) q).shiftDown e
    closed := m % 2 == 0 }

/-- Whether the grid point `n` lies in the interval. -/
def Interval.holds (i : Interval) (n : Nat) : Bool :=
  let atLow := n * i.low.den
  let atHigh := n * i.high.den
  (decide (i.low.num < atLow) || (i.closed && atLow == i.low.num))
    && (decide (atHigh < i.high.num) || (i.closed && atHigh == i.high.num))

/-- The closest grid point in the interval, if one of the value's two
neighbours lies there. -/
def Interval.closest (tie : Tie) (i : Interval) : Option Nat :=
  let below := i.value.num / i.value.den
  let above := below + 1
  let twice := 2 * i.value.num
  let middle := (below + above) * i.value.den
  match i.holds below && below != 0, i.holds above with
  | true, true =>
    if twice < middle then some below
    else if middle < twice then some above
    else match tie with
      | .toEven => some (if below % 2 == 0 then below else above)
      | .up => some above
  | true, false => some below
  | false, true => some above
  | false, false => none

/-- The least `k` not below `start` with `r < 10 ^ k`, looked for in
`fuel` steps. -/
def Ratio.powerAbove (r : Ratio) (start : Int) : Nat → Int
  | 0 => start
  | fuel + 1 =>
    let shifted := r.shiftDown start
    if shifted.num < shifted.den then start else r.powerAbove (start + 1) fuel

/-- The `k` with `10 ^ (k - 1) ≤ x < 10 ^ k`.  The binary logarithm gives
it up to one. -/
def Binary64.decimalScale (x : Binary64) : Int :=
  let log := (Nat.log2 x.significand : Int) + x.exponent
  (Ratio.ofScaled x.significand x.exponent).powerAbove (log * 30103 / 100000) 3

/-- The first hit for `count`, `count + 1`, … digits. -/
def Binary64.shortestFrom (tie : Tie) (x : Binary64) (scale : Int) (count : Nat) :
    Nat → Option Numeral
  | 0 => none
  | fuel + 1 =>
    let e := scale - count
    match (x.interval e).closest tie with
    | some digits => some ⟨digits, e⟩
    | none => x.shortestFrom tie scale (count + 1) fuel

/-- The decimal without the zeros at its end. -/
def Numeral.stripZeros (d : Numeral) : Nat → Numeral
  | 0 => d
  | fuel + 1 =>
    if d.digits != 0 && d.digits % 10 == 0 then
      (⟨d.digits / 10, d.exponent + 1⟩ : Numeral).stripZeros fuel
    else
      d

/-- The shortest decimal that reads back as the finite number `x`, without
its sign.  Seventeen digits always suffice. -/
def shortest (tie : Tie) (x : Binary64) : Numeral :=
  if x.significand = 0 then
    ⟨0, 0⟩
  else
    match x.shortestFrom tie x.decimalScale 1 17 with
    | some d => d.stripZeros 20
    | none => ⟨0, 0⟩

end SqlTree.Decimal
