import SqlTree.Text.HiddenTable

/-!
# Texts shown in messages

A text inside a message stands between double quotes, on one line and
without characters that the reader cannot see: those are written as
escapes.
-/

set_option autoImplicit false

namespace SqlTree.Text

/-- The number `n` in hexadecimal, lower case. -/
def hex (n : Nat) : String :=
  String.ofList (Nat.toDigits 16 n)

/-- A character of a shown text. -/
def shownChar (c : Char) : String :=
  match c with
  | '\x00' => "\\0"
  | '\t' => "\\t"
  | '\r' => "\\r"
  | '\n' => "\\n"
  | '\\' => "\\\\"
  | '"' => "\\\""
  | _ => if hiddenRanges.holds c then "\\u\x7b" ++ hex c.toNat ++ "\x7d" else c.toString

/-- A text as a message shows it. -/
def shown (s : String) : String :=
  "\"" ++ String.join (s.toList.map shownChar) ++ "\""

/-- A text between backticks. -/
def ticked (s : String) : String :=
  "`" ++ s ++ "`"

end SqlTree.Text
