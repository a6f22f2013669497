import SqlTree.Decimal.Notation
import SqlTree.Time.Rfc3339

/-!
# Values

The scalars that a statement binds to its placeholders.
-/

set_option autoImplicit false

namespace SqlTree

open Decimal Time

/-- A scalar value. -/
inductive Value where
  | null
  | bool (b : Bool)
  | int (n : Int64)
  | float (x : Binary64)
  | text (s : String)
  | timestamp (t : Timestamp)
deriving DecidableEq

/-- Whether the value is text.  A textual pattern of LIKE gets an escape
character. -/
def Value.isTextual : Value → Bool
  | .text _ => true
  | _ => false

/-- Whether the value is NULL. -/
def Value.isNull : Value → Bool
  | .null => true
  | _ => false

/-- An integer of 64 bits without a sign, as a value.  The upper half of
them becomes negative. -/
def Value.ofWord (n : UInt64) : Value :=
  .int n.toInt64

/-- A rank, which is a position in a list. -/
def Value.ofRank (n : Nat) : Value :=
  .int (Int64.ofNat n)

/-- A value on display.  A text is put between quotes as it is. -/
def Value.describe : Value → String
  | .null => "NULL"
  | .bool b => if b then "true" else "false"
  | .int n => toString n.toInt
  | .float x => display.text x
  | .text s => "'" ++ s ++ "'"
  | .timestamp t => "'" ++ t.text "+00:00" ++ "'"

end SqlTree
