import SqlTree.Decimal.Binary64

/-!
# JSON values

A number is an integer where its text has neither point nor exponent and
it fits 64 bits, and a floating-point number otherwise: `1` and `1.0` are
different values.  The members of an object keep their order, and a name
may occur twice.
-/

set_option autoImplicit false

namespace SqlTree

open Decimal (Binary64)

/-- A number of a JSON value. -/
inductive Number where
  | integer (n : Int)
  | float (x : Binary64)
deriving DecidableEq

/-- A JSON value. -/
inductive Json where
  | null
  | bool (b : Bool)
  | number (n : Number)
  | string (s : String)
  | array (items : List Json)
  | object (members : List (String × Json))

/-- The value of the last member with the name `name`. -/
def Json.member? (name : String) : Json → Option Json
  | .object members => (members.reverse.find? fun m => m.1 == name).map (·.2)
  | _ => none

end SqlTree
