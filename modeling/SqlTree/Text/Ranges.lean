/-!
# Sets of characters as ranges

A set of characters named by a standard is written as a list of closed
ranges of code points, in order.  Membership is a scan of that list.
-/

set_option autoImplicit false

namespace SqlTree.Text

/-- Closed ranges of code points. -/
abbrev CodeRanges := List (Nat × Nat)

/-- Whether `c` lies in one of the ranges. -/
def CodeRanges.holds (ranges : CodeRanges) (c : Char) : Bool :=
  ranges.any fun range => range.1 ≤ c.toNat && c.toNat ≤ range.2

end SqlTree.Text
