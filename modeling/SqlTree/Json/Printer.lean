import SqlTree.Decimal.Notation
import SqlTree.Json.Basic
import SqlTree.Text.Quoted

/-!
# JSON values as text

`Json.compact` writes a value without blanks.  `Json.pretty` writes each
item and each member on a line of its own, two blanks further in than what
holds it; an empty array or object stays on its line.
-/

set_option autoImplicit false

namespace SqlTree

open Text Decimal

/-- A character of a string. -/
def Json.stringChar (c : Char) : String :=
  match c with
  | '"' => "\\\""
  | '\\' => "\\\\"
  | '\n' => "\\n"
  | '\r' => "\\r"
  | '\t' => "\\t"
  | '\x08' => "\\b"
  | '\x0c' => "\\f"
  | _ =>
    if c.toNat < 0x10 then "\\u000" ++ hex c.toNat
    else if c.toNat < 0x20 then "\\u00" ++ hex c.toNat
    else c.toString

/-- A string in its quotes. -/
def Json.stringText (s : String) : String :=
  "\"" ++ String.join (s.toList.map Json.stringChar) ++ "\""

/-- A number.  An infinity and a NaN have no text of their own. -/
def Number.text : Number → String
  | .integer n => toString n
  | .float x => if x.isFinite then document.text x else "null"

/-- A truth value. -/
def Json.boolText (b : Bool) : String :=
  if b then "true" else "false"

/-! ## On one line -/

mutual

/-- The text of a value, without blanks. -/
def Json.compact : Json → String
  | .null => "null"
  | .bool b => boolText b
  | .number n => n.text
  | .string s => stringText s
  | .array items => "[" ++ String.intercalate "," (compactItems items) ++ "]"
  | .object members => "\x7b" ++ String.intercalate "," (compactMembers members) ++ "\x7d"

def Json.compactItems : List Json → List String
  | [] => []
  | item :: items => item.compact :: compactItems items

def Json.compactMembers : List (String × Json) → List String
  | [] => []
  | (name, value) :: members => (stringText name ++ ":" ++ value.compact) :: compactMembers members

end

/-! ## On many lines -/

/-- The start of a line at a depth. -/
def Json.newLine (depth : Nat) : String :=
  "\n" ++ String.ofList (List.replicate (2 * depth) ' ')

/-- Parts on lines of their own between two brackets. -/
def Json.block (left right : String) (depth : Nat) (parts : List String) : String :=
  if parts.isEmpty then
    left ++ right
  else
    left ++ newLine (depth + 1) ++ String.intercalate ("," ++ newLine (depth + 1)) parts
      ++ newLine depth ++ right

mutual

/-- The text of a value that starts at a depth. -/
def Json.prettyAt (depth : Nat) : Json → String
  | .null => "null"
  | .bool b => boolText b
  | .number n => n.text
  | .string s => stringText s
  | .array items => block "[" "]" depth (prettyItems (depth + 1) items)
  | .object members => block "\x7b" "\x7d" depth (prettyMembers (depth + 1) members)

def Json.prettyItems (depth : Nat) : List Json → List String
  | [] => []
  | item :: items => item.prettyAt depth :: prettyItems depth items

def Json.prettyMembers (depth : Nat) : List (String × Json) → List String
  | [] => []
  | (name, value) :: members =>
    (stringText name ++ ": " ++ value.prettyAt depth) :: prettyMembers depth members

end

/-- The text of a value, on as many lines as it has parts. -/
def Json.pretty (value : Json) : String :=
  value.prettyAt 0

end SqlTree
