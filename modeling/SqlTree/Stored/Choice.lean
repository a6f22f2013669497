import SqlTree.Stored.Record

/-!
# Choices

A choice among variants is stored as an object with one member, whose name
is the variant and whose value is its content.  A variant without content
may be stored as its name alone.
-/

set_option autoImplicit false

namespace SqlTree

/-- How a variant is read. -/
structure Content (β : Type) where
  /-- the variant stored as its name alone -/
  bare : Except DecodeError β
  /-- the variant with its content -/
  read : Reader β

namespace Content

variable {β : Type}

/-- No content. -/
def unit (value : β) : Content β :=
  ⟨.ok value, .unit value⟩

/-- One value. -/
def single (read : Reader β) : Content β :=
  ⟨.error (.wrongType .unitVariant "newtype variant"), read⟩

/-- Fields.  In a JSON value they are stored as an object only. -/
def record {αs : List Type} (r : Record αs β) : Content β where
  bare := .error (.wrongType .unitVariant "struct variant")
  read origin o :=
    match origin, o with
    | .value, .object _ _ _ => r.read origin o
    | .value, o => .error (o.misfit "struct variant")
    | .text, o => r.read origin o

end Content

/-- A variant of a choice.  It has a name of its own and may have others. -/
structure Variant (β : Type) where
  names : List String
  content : Content β

namespace Variant

variable {β : Type}

/-- A variant without content. -/
def unit (name : String) (value : β) : Variant β :=
  ⟨[name], .unit value⟩

/-- A variant with one value. -/
def single {α : Type} (name : String) (make : α → β) (read : Reader α) : Variant β :=
  ⟨[name], .single (read.map make)⟩

/-- A variant with fields, of the choice `choice`. -/
def record {αs : List Type} (choice name : String) (fields : Fields αs) (make : Values αs → β) :
    Variant β :=
  ⟨[name], .record ⟨"struct variant " ++ choice ++ "::" ++ name, fields, make, false⟩⟩

end Variant

/-- The variants of a choice. -/
abbrev Choice (β : Type) := List (Variant β)

namespace Choice

variable {β : Type}

/-- The content that a name stands for. -/
def find (choice : Choice β) (name : String) : Except DecodeError (Content β) :=
  match List.find? (fun v => decide (name ∈ v.names)) choice with
  | some v => .ok v.content
  | none => .error (.unknownVariant name (List.flatMap Variant.names choice))

/-- The content of the one member of an object in a value. -/
def ofMembers (choice : Choice β) : List (Outline × Outline) → Except DecodeError β
  | [(.string name, o)] => do
    let content ← choice.find name
    content.read .value o
  | _ => .error .notSingleMember

/-- Refuses anything but a brace after the one member of an object. -/
def checkEnd (rest : List (Outline × Outline)) (fault : Option SyntaxFault) :
    Except DecodeError Unit :=
  match rest, fault with
  | [], none => .ok ()
  | [], some .endInObject => .error (.badText .endInObject)
  | _, _ => .error (.badText .expectedValue)

/-- The content of the first member of an object in a text, which has to be
the only one and to have a string for its name. -/
def ofText (choice : Choice β) (members : List (Outline × Outline))
    (fault : Option SyntaxFault) : Except DecodeError β :=
  match members with
  | [] => .error (.badText (fault.getD .expectedValue))
  | (.string name, o) :: rest => do
    let content ← choice.find name
    let value ← content.read .text o
    checkEnd rest fault
    .ok value
  | (.badString fault _, _) :: _ => .error (.badText fault)
  | _ :: _ => .error (.badText .nameNotString)

/-- A choice. -/
def read (choice : Choice β) : Reader β := fun origin o =>
  match origin, o with
  | _, .string name => do
    let content ← choice.find name
    content.bare
  | .value, .object _ members _ => choice.ofMembers members
  | .value, o => .error (o.misfit "string or map")
  | .text, .object tooDeep members fault => do
    checkDepth tooDeep
    choice.ofText members fault
  | .text, .badString fault _ => .error (.badText fault)
  | .text, .absent fault => .error (.badText fault)
  | .text, _ => .error (.badText .expectedValue)

end Choice

end SqlTree
