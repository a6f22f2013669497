import SqlTree.Error
import SqlTree.Json.Printer
import SqlTree.Json.Outline
import SqlTree.Time.Rfc3339

/-!
# Documents that do not fit

Why a document is not the stored form of anything: it is no JSON, or a
value in it has the wrong shape.
-/

set_option autoImplicit false

namespace SqlTree

open Text Time

/-- What stands where something else was expected. -/
inductive Found where
  | null
  | bool (b : Bool)
  | number (n : Number)
  | string (s : String)
  | list
  | object
  /-- the bare name of a variant -/
  | unitVariant
deriving DecidableEq

/-- The wording of what was found. -/
def Found.text : Found → String
  | .null => "null"
  | .bool b => "boolean " ++ ticked (Json.boolText b)
  | .number (.integer n) => "integer " ++ ticked (toString n)
  | .number (.float x) => "floating point " ++ ticked (Number.float x).text
  | .string s => "string " ++ shown s
  | .list => "sequence"
  | .object => "map"
  | .unitVariant => "unit variant"

/-- Why a document does not fit. -/
inductive DecodeError where
  /-- the text is no JSON -/
  | badText (fault : SyntaxFault)
  | wrongType (found : Found) (expected : String)
  /-- an integer outside of its range -/
  | outOfRange (n : Int) (expected : String)
  /-- a choice whose object has not exactly one member -/
  | notSingleMember
  | unknownVariant (name : String) (known : List String)
  | unknownField (name : String) (known : List String)
  | missingField (name : String)
  | duplicateField (name : String)
  | wrongLength (length : Nat) (expected : String)
  | keyword (error : KeywordError)
  | time (error : TimeError)
deriving DecidableEq

/-- A choice of names, in words. -/
def oneOf (names : List String) : String :=
  match names.map ticked with
  | [a] => "expected " ++ a
  | [a, b] => "expected " ++ a ++ " or " ++ b
  | names => "expected one of " ++ String.intercalate ", " names

/-- The wording of a misfit. -/
def DecodeError.message : DecodeError → String
  | .badText fault => fault.message
  | .wrongType found expected => "invalid type: " ++ found.text ++ ", expected " ++ expected
  | .outOfRange n expected =>
    "invalid value: " ++ (Found.number (.integer n)).text ++ ", expected " ++ expected
  | .notSingleMember => "invalid value: map, expected map with a single key"
  | .unknownVariant name known => "unknown variant " ++ ticked name ++ ", " ++ oneOf known
  | .unknownField name known => "unknown field " ++ ticked name ++ ", " ++ oneOf known
  | .missingField name => "missing field " ++ ticked name
  | .duplicateField name => "duplicate field " ++ ticked name
  | .wrongLength length expected =>
    "invalid length " ++ toString length ++ ", expected " ++ expected
  | .keyword error => error.toError.text
  | .time error => error.message

/-- Whether the text is no JSON at all. -/
def DecodeError.isSyntax : DecodeError → Bool
  | .badText _ => true
  | _ => false

/-- A document that does not fit is a fault of the JSON. -/
def DecodeError.toError (e : DecodeError) : Error :=
  ⟨.json, e.message⟩

end SqlTree
