import SqlTree.Compile.Basic

/-!
# Orders and windows

The parts of a query that a dialect words in its own way: rows in random
order, rows in the order of listed values, and the window of rows that
OFFSET and LIMIT cut out.

In the order of listed values, one form ranks the values and sorts by rank,
and the first of equal values counts.  The other sorts by the position in a
list and can only put the rows that are not listed first; to put them last,
it turns the list and the direction around, and then the last of equal
values counts.
-/

set_option autoImplicit false

namespace SqlTree

open Compiler

/-- The expression that sorts at random. -/
def Dialect.randomOrder : Dialect → String
  | .mysql => "RAND()"
  | .common | .sqlite => "RANDOM()"

/-! ## The order of listed values -/

/-- The branches of a CASE that ranks the values, from the rank `rank`
on. -/
def caseBranches (rank : Nat) : List (Compiler String) → Compiler String
  | [] => return ""
  | v :: vs => do
    let value ← v
    let place ← bindValue (.ofRank rank)
    let rest ← caseBranches (rank + 1) vs
    return " WHEN " ++ value ++ " THEN " ++ place ++ rest

/-- The rank of the values that are not listed: before or after all
others. -/
def otherRank (count : Nat) (othersFirst : Bool) : Value :=
  if othersFirst then .int (-1) else .ofRank count

/-- Listed values in order, by their ranks. -/
def caseOrder (column : Compiler String) (values : List (Compiler String)) (othersFirst : Bool) :
    Compiler String := do
  let c ← column
  let branches ← caseBranches 0 values
  let place ← bindValue (otherRank values.length othersFirst)
  return "CASE " ++ c ++ branches ++ " ELSE " ++ place ++ " END"

/-- Listed values in order, by their positions. -/
def fieldOrder (column : Compiler String) (values : List (Compiler String)) (othersFirst : Bool) :
    Compiler String := do
  let c ← column
  let list ← commaList (if othersFirst then values else values.reverse)
  return "FIELD(" ++ c ++ ", " ++ list ++ ")" ++ if othersFirst then " ASC" else " DESC"

/-- Listed values in order, in the words of the dialect. -/
def Dialect.listedOrder (d : Dialect) (column : Compiler String)
    (values : List (Compiler String)) (othersFirst : Bool) : Compiler String :=
  match d with
  | .mysql => fieldOrder column values othersFirst
  | .common | .sqlite => caseOrder column values othersFirst

/-! ## Windows -/

/-- A bound of the window, where it is set. -/
def boundPart (keyword : String) : Option (Compiler String) → Compiler (List String)
  | none => return []
  | some bound => do return [keyword ++ " " ++ (← bound)]

/-- OFFSET before LIMIT. -/
def offsetFirst (offset limit : Option (Compiler String)) : Compiler (List String) := do
  let offset ← boundPart "OFFSET" offset
  let limit ← boundPart "LIMIT" limit
  return offset ++ limit

/-- LIMIT before OFFSET.  An offset without a limit gets `unbounded` as its
limit. -/
def limitFirst (unbounded : String) (offset limit : Option (Compiler String)) :
    Compiler (List String) := do
  let limit ← match limit, offset with
    | none, some _ => pure ["LIMIT " ++ unbounded]
    | limit, _ => boundPart "LIMIT" limit
  let offset ← boundPart "OFFSET" offset
  return limit ++ offset

/-- Before the OFFSET stands the bound of the limit, or a line of its own where
there is no limit. -/
theorem exists_limitFirst_eq (unbounded : String) (offset limit : Option (Compiler String)) :
    ∃ first, limitFirst unbounded offset limit = (do
        let limit ← first
        let offset ← boundPart "OFFSET" offset
        return limit ++ offset)
      ∧ (first = boundPart "LIMIT" limit
        ∨ limit = none ∧ first = pure ["LIMIT " ++ unbounded]) := by
  cases limit with
  | some limit => exact ⟨_, rfl, .inl rfl⟩
  | none =>
    cases offset with
    | none => exact ⟨_, rfl, .inl rfl⟩
    | some offset => exact ⟨_, rfl, .inr ⟨rfl, rfl⟩⟩

/-- The window in the words of the dialect. -/
def Dialect.window (d : Dialect) (offset limit : Option (Compiler String)) :
    Compiler (List String) :=
  match d with
  | .common => offsetFirst offset limit
  | .mysql => limitFirst "18446744073709551615" offset limit
  | .sqlite => limitFirst "-1" offset limit

end SqlTree
