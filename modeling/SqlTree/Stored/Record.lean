import SqlTree.Stored.Reader

/-!
# Records

A record is stored as an object with a member for each field, or as an
array of its fields in their order.  A field that is left out takes its
default value, where it has one.

`Fields` describes the fields of a record, whose types differ.  Members are
read in the order of the document, each into the slot of its field; what is
still empty in the end is filled with the defaults.
-/

set_option autoImplicit false

namespace SqlTree

/-- A field of a record. -/
structure Field (α : Type) where
  name : String
  read : Reader α
  /-- the value of a field that is left out -/
  default : Option α

namespace Field

variable {α : Type}

/-- A field that may not be left out. -/
def required (name : String) (read : Reader α) : Field α :=
  ⟨name, read, none⟩

/-- A field that may be left out. -/
def withDefault (name : String) (read : Reader α) (value : α) : Field α :=
  ⟨name, read, some value⟩

/-- A field that may be empty, and is so where it is left out. -/
def optional (name : String) (read : Reader α) : Field (Option α) :=
  withDefault name (.option read) none

/-- A list that is empty where it is left out. -/
def list (name : String) (read : Reader α) : Field (List α) :=
  withDefault name (.list read) []

/-- A mark that is not set where it is left out. -/
def flag (name : String) : Field Bool :=
  withDefault name .bool false

end Field

/-- Values of the listed types. -/
@[reducible]
def Values : List Type → Type
  | [] => Unit
  | α :: αs => α × Values αs

/-- Slots for values of the listed types. -/
@[reducible]
def Slots : List Type → Type
  | [] => Unit
  | α :: αs => Option α × Slots αs

/-- The fields of a record, in order. -/
inductive Fields : List Type → Type 1 where
  | nil : Fields []
  | cons {α : Type} {αs : List Type} (field : Field α) (fields : Fields αs) : Fields (α :: αs)

namespace Fields

/-- The names of the fields. -/
def names {αs : List Type} : Fields αs → List String
  | nil => []
  | cons field fields => field.name :: names fields

/-- Slots without values. -/
def noValues {αs : List Type} : Fields αs → Slots αs
  | nil => ()
  | cons _ fields => (none, noValues fields)

/-- Reads a member into the slot of its name; nothing, where there is no
field of that name. -/
def put {αs : List Type} (origin : Origin) (name : String) (value : Outline) :
    Fields αs → Slots αs → Option (Except DecodeError (Slots αs))
  | nil, () => none
  | cons field fields, (slot, slots) =>
    if field.name = name then
      some <|
        if slot.isSome then .error (.duplicateField name)
        else (field.read origin value).map fun a => (some a, slots)
    else
      (put origin name value fields slots).map fun r => r.map fun slots => (slot, slots)

/-- The values of the slots, with the defaults for those without one. -/
def complete {αs : List Type} : Fields αs → Slots αs → Except DecodeError (Values αs)
  | nil, () => .ok ()
  | cons field fields, (slot, slots) =>
    match slot.or field.default with
    | none => .error (.missingField field.name)
    | some a => do
      let values ← complete fields slots
      .ok (a, values)

/-- The values of an array, `count` items into it. -/
def ofItems {αs : List Type} (origin : Origin) (expected : String) (count : Nat)
    (fault : Option SyntaxFault) : Fields αs → List Outline → Except DecodeError (Values αs)
  | nil, rest => do
    Reader.checkTail origin (count + rest.length) rest fault
    .ok ()
  | cons field fields, o :: os => do
    let a ← field.read origin o
    let values ← ofItems origin expected (count + 1) fault fields os
    .ok (a, values)
  | cons field fields, [] =>
    match fault, field.default with
    | none, some a => do
      let values ← ofItems origin expected (count + 1) fault fields []
      .ok (a, values)
    | fault, _ => .error (Reader.missingItem count fault expected)

end Fields

/-- A kind of record: its name, its fields and what they make. -/
structure Record (αs : List Type) (β : Type) where
  name : String
  fields : Fields αs
  make : Values αs → β
  /-- whether members that are no fields are refused, and not passed over -/
  strict : Bool := false

namespace Record

variable {αs : List Type} {β : Type}

/-- Reads the members of an object into slots. -/
def readMembers (r : Record αs β) (origin : Origin) (slots : Slots αs) :
    List (Outline × Outline) → Except DecodeError (Slots αs)
  | [] => .ok slots
  | (.string name, value) :: members =>
    match r.fields.put origin name value slots with
    | some result => do
      let slots ← result
      readMembers r origin slots members
    | none => do
      if r.strict then .error (.unknownField name r.fields.names)
      checkFault value.fault?
      readMembers r origin slots members
  | (.badString fault _, _) :: _ => .error (.badText fault)
  | _ :: _ => .error (.badText .nameNotString)

/-- The record of an object. -/
def ofMembers (r : Record αs β) (origin : Origin) (members : List (Outline × Outline))
    (fault : Option SyntaxFault) : Except DecodeError β := do
  let slots ← r.readMembers origin r.fields.noValues members
  checkFault fault
  let values ← r.fields.complete slots
  .ok (r.make values)

/-- The record of an array. -/
def ofItems (r : Record αs β) (origin : Origin) (items : List Outline)
    (fault : Option SyntaxFault) : Except DecodeError β := do
  let expected := r.name ++ " with " ++ toString αs.length ++ " elements"
  let values ← r.fields.ofItems origin expected 0 fault items
  .ok (r.make values)

/-- A record. -/
def read (r : Record αs β) : Reader β := fun origin o =>
  match o with
  | .list tooDeep items fault => do
    checkDepth tooDeep
    r.ofItems origin items fault
  | .object tooDeep members fault => do
    checkDepth tooDeep
    r.ofMembers origin members fault
  | o => .error (o.misfit r.name)

end Record

end SqlTree
