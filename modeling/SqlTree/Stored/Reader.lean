import SqlTree.Stored.DecodeError
import SqlTree.Value

/-!
# Readers

A reader takes a value from an outline, or says why there is none.  The
outline comes from a JSON value, which has no faults, or from a text; some
misfits have another wording then, since the reading of a text ends at the
first character that does not fit.

The readers here take scalars, and make readers of lists, of slots that may
be empty, and of pairs.
-/

set_option autoImplicit false

namespace SqlTree

open Decimal Time

/-- What an outline was made from. -/
inductive Origin where
  | value
  | text
deriving DecidableEq

/-- Takes a value from an outline. -/
abbrev Reader (α : Type) := Origin → Outline → Except DecodeError α

/-- The error for an outline that is not what was expected. -/
def Outline.misfit (o : Outline) (expected : String) : DecodeError :=
  match o with
  | .null => .wrongType .null expected
  | .bool b => .wrongType (.bool b) expected
  | .number n => .wrongType (.number n) expected
  | .string s => .wrongType (.string s) expected
  | .badString fault _ => .badText fault
  | .badScalar fault _ => .badText fault
  | .badNull fault => .badText fault
  | .absent fault => .badText fault
  | .list _ _ _ => .wrongType .list expected
  | .object _ _ _ => .wrongType .object expected

/-- Refuses a container that is nested too deep. -/
def checkDepth (tooDeep : Bool) : Except DecodeError Unit :=
  if tooDeep then .error (.badText .nestedTooDeep) else .ok ()

/-- Refuses a fault of the text. -/
def checkFault : Option SyntaxFault → Except DecodeError Unit
  | none => .ok ()
  | some fault => .error (.badText fault)

namespace Reader

variable {α β : Type}

/-- A reader for what another one reads, made into something else. -/
def map (f : α → β) (read : Reader α) : Reader β :=
  fun origin o => (read origin o).map f

/-! ## Scalars -/

/-- The empty value. -/
def unit (value : α) : Reader α := fun _ o =>
  match o with
  | .null => .ok value
  | o => .error (o.misfit "unit")

/-- A truth value. -/
def bool : Reader Bool := fun _ o =>
  match o with
  | .bool b => .ok b
  | o => .error (o.misfit "a boolean")

/-- A string. -/
def string : Reader String := fun _ o =>
  match o with
  | .string s => .ok s
  | o => .error (o.misfit "a string")

/-- An integer from `low` to `high`. -/
def integer (low high : Int) (expected : String) : Reader Int := fun _ o =>
  match o with
  | .number (.integer n) =>
    if low ≤ n ∧ n ≤ high then .ok n else .error (.outOfRange n expected)
  | o => .error (o.misfit expected)

/-- An integer of 64 bits. -/
def int64 : Reader Int64 :=
  map Int64.ofInt (integer (-0x8000000000000000) 0x7FFFFFFFFFFFFFFF "i64")

/-- An integer of 32 bits, as one of 64. -/
def int32 : Reader Int64 :=
  map Int64.ofInt (integer (-0x80000000) 0x7FFFFFFF "i32")

/-- An integer of 64 bits without a sign. -/
def word : Reader UInt64 :=
  map (fun n => UInt64.ofNat n.toNat) (integer 0 0xFFFFFFFFFFFFFFFF "usize")

/-- A floating-point number. -/
def float : Reader Binary64 := fun _ o =>
  match o with
  | .number (.float x) => .ok x
  | .number (.integer n) => .ok (Binary64.ofInt n)
  | o => .error (o.misfit "f64")

/-- A point in time. -/
def timestamp : Reader Timestamp := fun _ o =>
  match o with
  | .string s => (Timestamp.read s).mapError .time
  | o => .error (o.misfit "an RFC 3339 formatted date and time string")

/-- A keyword. -/
def keyword (ofKeyword : String → Except KeywordError α) : Reader α := fun origin o => do
  let word ← string origin o
  (ofKeyword word).mapError .keyword

/-! ## Slots and lists -/

/-- A slot that may be empty. -/
def option (read : Reader α) : Reader (Option α) := fun origin o =>
  match o with
  | .null => .ok none
  | .badNull fault => .error (.badText fault)
  | o => (read origin o).map some

/-- The items of a list, in order. -/
def items (read : Reader α) (origin : Origin) : List Outline → Except DecodeError (List α)
  | [] => .ok []
  | o :: os => do
    let value ← read origin o
    let values ← items read origin os
    .ok (value :: values)

/-- A list. -/
def list (read : Reader α) : Reader (List α) := fun origin o =>
  match o with
  | .list tooDeep os fault => do
    checkDepth tooDeep
    let values ← items read origin os
    checkFault fault
    .ok values
  | o => .error (o.misfit "a sequence")

/-- The fault that ends an array after all items that were wanted. -/
def tailFault : SyntaxFault → SyntaxFault
  | .trailingComma => .trailingComma
  | .endInList => .endInList
  | _ => .trailingCharacters

/-- Refuses items, and faults, after the ones that were wanted.  There were
`length` items in all. -/
def checkTail (origin : Origin) (length : Nat) (rest : List Outline)
    (fault : Option SyntaxFault) : Except DecodeError Unit :=
  match rest, origin with
  | [], _ => checkFault (fault.map tailFault)
  | _ :: _, .text => .error (.badText .trailingCharacters)
  | _ :: _, .value => .error (.wrongLength length "fewer elements in array")

/-- The error for an item that is not there, after `count` items. -/
def missingItem (count : Nat) (fault : Option SyntaxFault) (expected : String) : DecodeError :=
  match fault with
  | some fault => .badText fault
  | none => .wrongLength count expected

/-- Two values of different types. -/
def pair (first : Reader α) (second : Reader β) : Reader (α × β) := fun origin o =>
  let expected := "a tuple of size 2"
  match o with
  | .list tooDeep os fault => do
    checkDepth tooDeep
    match os with
    | [] => .error (missingItem 0 fault expected)
    | o :: os =>
      let a ← first origin o
      match os with
      | [] => .error (missingItem 1 fault expected)
      | o :: rest =>
        let b ← second origin o
        checkTail origin (2 + rest.length) rest fault
        .ok (a, b)
  | o => .error (o.misfit expected)

end Reader

end SqlTree
