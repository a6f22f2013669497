import SqlTree.Json.Basic

/-!
# What a JSON text shows, read from the left

A document is decoded while it is read, and the first fault ends the
reading, be it a fault of the text or a value of the wrong shape.  So a
text is first read into an *outline*: the values as far as they go, with
each fault of the text left where it stands.  Decoding walks the outline
in the order of the text, and meets the faults in that order too.

Some faults are seen only by a decoder that takes the value.  A string
with half a surrogate pair, a number too large to hold and an array nested
too deep are passed over without complaint where no decoder wants them.

A JSON value has an outline without faults, `Outline.ofJson`, in which the
members of an object stand in the order of their names.
-/

set_option autoImplicit false

namespace SqlTree

/-- The faults of a JSON text. -/
inductive SyntaxFault where
  | endInList
  | endInObject
  | endInString
  | endInValue
  | expectedColon
  | expectedListComma
  | expectedObjectComma
  | expectedWord
  | expectedValue
  | invalidEscape
  | invalidNumber
  | numberOutOfRange
  | controlCharacter
  | nameNotString
  | loneSurrogate
  | trailingComma
  | trailingCharacters
  | unpairedEscape
  | nestedTooDeep
deriving DecidableEq

/-- The wording of a fault. -/
def SyntaxFault.message : SyntaxFault → String
  | .endInList => "EOF while parsing a list"
  | .endInObject => "EOF while parsing an object"
  | .endInString => "EOF while parsing a string"
  | .endInValue => "EOF while parsing a value"
  | .expectedColon => "expected `:`"
  | .expectedListComma => "expected `,` or `]`"
  | .expectedObjectComma => "expected `,` or `\x7d`"
  | .expectedWord => "expected ident"
  | .expectedValue => "expected value"
  | .invalidEscape => "invalid escape"
  | .invalidNumber => "invalid number"
  | .numberOutOfRange => "number out of range"
  | .controlCharacter => "control character (\\u0000-\\u001F) found while parsing a string"
  | .nameNotString => "key must be a string"
  | .loneSurrogate => "lone leading surrogate in hex escape"
  | .trailingComma => "trailing comma"
  | .trailingCharacters => "trailing characters"
  | .unpairedEscape => "unexpected end of hex escape"
  | .nestedTooDeep => "recursion limit exceeded"

/-- A JSON text as far as it can be read. -/
inductive Outline where
  | null
  | bool (b : Bool)
  | number (n : Number)
  | string (s : String)
  /-- a string with a fault, and what is wrong with it where it is passed over -/
  | badString (fault : SyntaxFault) (passing : Option SyntaxFault)
  /-- a number or a word with a fault, and what is wrong with it where it is passed over -/
  | badScalar (fault : SyntaxFault) (passing : Option SyntaxFault)
  /-- a word that starts as `null` does, with a fault -/
  | badNull (fault : SyntaxFault)
  /-- no value starts here -/
  | absent (fault : SyntaxFault)
  /-- an array, and the fault that ends it before its bracket -/
  | list (tooDeep : Bool) (items : List Outline) (fault : Option SyntaxFault)
  /-- an object, names first, and the fault that ends it before its brace -/
  | object (tooDeep : Bool) (members : List (Outline × Outline)) (fault : Option SyntaxFault)

/-! ## Passing over a value -/

/-- The fault that ends an array, where the array is passed over. -/
def SyntaxFault.passingList : SyntaxFault → SyntaxFault
  | .trailingComma => .expectedValue
  | fault => fault

/-- The fault that ends an object, where the object is passed over. -/
def SyntaxFault.passingObject : SyntaxFault → SyntaxFault
  | .trailingComma => .nameNotString
  | .endInValue => .endInObject
  | fault => fault

/-- The fault of a name, where its object is passed over. -/
def Outline.nameFault? : Outline → Option SyntaxFault
  | .string _ => none
  | .badString _ passing => passing
  | _ => some .nameNotString

mutual

/-- The first fault met in passing over a value. -/
def Outline.fault? : Outline → Option SyntaxFault
  | .badString _ passing => passing
  | .badScalar _ passing => passing
  | .badNull fault => some fault
  | .absent fault => some fault
  | .list _ items fault => (itemsFault? items).or (fault.map SyntaxFault.passingList)
  | .object _ members fault => (membersFault? members).or (fault.map SyntaxFault.passingObject)
  | _ => none

def Outline.itemsFault? : List Outline → Option SyntaxFault
  | [] => none
  | item :: items => item.fault?.or (itemsFault? items)

def Outline.membersFault? : List (Outline × Outline) → Option SyntaxFault
  | [] => none
  | (name, value) :: members =>
    (name.nameFault?.or value.fault?).or (membersFault? members)

end

/-! ## The outline of a value -/

/-- Puts a member in its place by name.  A member with the same name is
replaced. -/
def Outline.insertMember (name : String) (value : Outline) :
    List (String × Outline) → List (String × Outline)
  | [] => [(name, value)]
  | (other, found) :: members =>
    if name = other then (name, value) :: members
    else if name < other then (name, value) :: (other, found) :: members
    else (other, found) :: insertMember name value members

/-- The members in the order of their names, of equal names the last. -/
def Outline.sortMembers (members : List (String × Outline)) : List (String × Outline) :=
  members.foldl (fun sorted m => insertMember m.1 m.2 sorted) []

mutual

/-- The outline of a JSON value. -/
def Outline.ofJson : Json → Outline
  | .null => .null
  | .bool b => .bool b
  | .number n => .number n
  | .string s => .string s
  | .array items => .list false (ofItems items) none
  | .object members =>
    .object false ((sortMembers (ofMembers members)).map fun m => (.string m.1, m.2)) none

def Outline.ofItems : List Json → List Outline
  | [] => []
  | item :: items => ofJson item :: ofItems items

def Outline.ofMembers : List (String × Json) → List (String × Outline)
  | [] => []
  | (name, value) :: members => (name, ofJson value) :: ofMembers members

end

/-! ## The value of an outline -/

mutual

/-- The value that an outline without faults shows, members in their
order. -/
def Outline.toJson? : Outline → Option Json
  | .null => some .null
  | .bool b => some (.bool b)
  | .number n => some (.number n)
  | .string s => some (.string s)
  | .list false items none => (itemsToJson? items).map Json.array
  | .object false members none => (membersToJson? members).map Json.object
  | _ => none

def Outline.itemsToJson? : List Outline → Option (List Json)
  | [] => some []
  | item :: items => do
    let value ← item.toJson?
    let values ← itemsToJson? items
    some (value :: values)

def Outline.membersToJson? : List (Outline × Outline) → Option (List (String × Json))
  | [] => some []
  | (.string name, value) :: members => do
    let value ← value.toJson?
    let rest ← membersToJson? members
    some ((name, value) :: rest)
  | _ :: _ => none

end

/-! ## Nesting -/

mutual

/-- How deep arrays and objects are nested in an outline. -/
def Outline.height : Outline → Nat
  | .list _ items _ => itemsHeight items + 1
  | .object _ members _ => membersHeight members + 1
  | _ => 0

def Outline.itemsHeight : List Outline → Nat
  | [] => 0
  | item :: items => max item.height (itemsHeight items)

def Outline.membersHeight : List (Outline × Outline) → Nat
  | [] => 0
  | (_, value) :: members => max value.height (membersHeight members)

end

end SqlTree
