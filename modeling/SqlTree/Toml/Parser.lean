import SqlTree.Json.Parser

/-!
# Settings in TOML

The part of TOML that settings need: lines with a key and a value, headers
of tables, comments and blank lines.  A key is bare or quoted.  A value is
a string on one line, an integer or a truth value.

`Toml.read` takes a text apart into its lines and gives no meaning to
them.
-/

set_option autoImplicit false

namespace SqlTree.Toml

/-- What is wrong with a text. -/
inductive Fault where
  | key
  | equals
  | value
  | string
  | escape
  | header
  | lineEnd
deriving DecidableEq

/-- The wording of a fault. -/
def Fault.message : Fault → String
  | .key => "a key is missing"
  | .equals => "a key is not followed by `=`"
  | .value => "a value is missing"
  | .string => "a string does not end on its line"
  | .escape => "a string holds an unknown escape"
  | .header => "a header of a table does not end"
  | .lineEnd => "a line goes on after its value"

/-- A value. -/
inductive Value where
  | string (s : String)
  | integer (n : Int)
  | bool (b : Bool)
deriving DecidableEq

/-- A line that is not blank. -/
inductive Line where
  | entry (key : String) (value : Value)
  /-- the header of the table that the next lines belong to -/
  | header (name : String)
deriving DecidableEq

/-- What was read, with the characters after it. -/
abbrev Reading (α : Type) := Except Fault (α × List Char)

/-- Passes over the blanks of a line. -/
def skipBlanks (cs : List Char) : List Char :=
  cs.dropWhile fun c => c == ' ' || c == '\t'

/-- Whether a comment or a string may hold the character. -/
def isPlain (c : Char) : Bool :=
  c == '\t' || (decide (0x20 ≤ c.toNat) && decide (c.toNat ≠ 0x7F))

/-! ## Strings -/

/-- Where a string with escapes is being read. -/
inductive StringState where
  | plain
  /-- after a backslash -/
  | escape
  /-- inside an escape by number -/
  | code (missing : Nat) (value : Nat)

/-- The character that a letter after a backslash stands for. -/
def escaped? : Char → Option Char
  | 'b' => some '\x08'
  | 't' => some '\t'
  | 'n' => some '\n'
  | 'f' => some '\x0c'
  | 'r' => some '\r'
  | '"' => some '"'
  | '\\' => some '\\'
  | _ => none

/-- The string with escapes whose opening quote has been read.  `text` is
what it holds so far, backwards. -/
def readBasic (state : StringState) (text : List Char) : List Char → Reading String
  | [] => .error .string
  | c :: cs =>
    match state with
    | .plain =>
      if c = '"' then .ok (String.ofList text.reverse, cs)
      else if c = '\\' then readBasic .escape text cs
      else if isPlain c then readBasic .plain (c :: text) cs
      else .error .string
    | .escape =>
      match c, escaped? c with
      | 'u', _ => readBasic (.code 4 0) text cs
      | 'U', _ => readBasic (.code 8 0) text cs
      | _, some e => readBasic .plain (e :: text) cs
      | _, none => .error .escape
    | .code missing value =>
      match Json.hexDigit? c with
      | none => .error .escape
      | some d =>
        let value := 16 * value + d
        if 1 < missing then readBasic (.code (missing - 1) value) text cs
        else if value.isValidChar then readBasic .plain (Char.ofNat value :: text) cs
        else .error .escape

/-- The string without escapes whose opening quote has been read. -/
def readLiteral (cs : List Char) : Reading String :=
  let text := cs.takeWhile fun c => isPlain c && c != '\x27'
  match cs.drop text.length with
  | '\x27' :: rest => .ok (String.ofList text, rest)
  | _ => .error .string

/-! ## Lines -/

/-- Whether a bare key may hold the character. -/
def isKeyChar (c : Char) : Bool :=
  c.isAlphanum || c == '_' || c == '-'

/-- A key. -/
def readKey : List Char → Reading String
  | '"' :: cs => readBasic .plain [] cs
  | '\x27' :: cs => readLiteral cs
  | cs =>
    let key := cs.takeWhile isKeyChar
    if key.isEmpty then .error .key else .ok (String.ofList key, cs.drop key.length)

/-- The digits of an integer. -/
def readInteger (negative : Bool) (cs : List Char) : Reading Value :=
  let digits := cs.takeWhile Char.isDigit
  if digits.isEmpty then
    .error .value
  else
    let n := Json.naturalOf digits
    .ok (.integer (if negative then -(n : Int) else n), cs.drop digits.length)

/-- A value. -/
def readValue : List Char → Reading Value
  | '"' :: cs => (readBasic .plain [] cs).map fun (s, rest) => (.string s, rest)
  | '\x27' :: cs => (readLiteral cs).map fun (s, rest) => (.string s, rest)
  | 't' :: 'r' :: 'u' :: 'e' :: cs => .ok (.bool true, cs)
  | 'f' :: 'a' :: 'l' :: 's' :: 'e' :: cs => .ok (.bool false, cs)
  | '-' :: cs => readInteger true cs
  | '+' :: cs => readInteger false cs
  | cs => readInteger false cs

/-- Passes over the end of a line, with its comment. -/
def skipLineEnd (cs : List Char) : Except Fault (List Char) :=
  let cs := match skipBlanks cs with
    | '#' :: cs => cs.dropWhile isPlain
    | cs => cs
  match cs with
  | [] => .ok []
  | '\n' :: cs => .ok cs
  | '\r' :: '\n' :: cs => .ok cs
  | _ => .error .lineEnd

/-- The header whose bracket has been read. -/
def readHeader (cs : List Char) : Except Fault (Line × List Char) := do
  let (name, cs) ← readKey (skipBlanks cs)
  match skipBlanks cs with
  | ']' :: cs => .ok (.header name, cs)
  | _ => .error .header

/-- A key with its value. -/
def readEntry (cs : List Char) : Except Fault (Line × List Char) := do
  let (key, cs) ← readKey cs
  match skipBlanks cs with
  | '=' :: cs =>
    let (value, cs) ← readValue (skipBlanks cs)
    .ok (.entry key value, cs)
  | _ => .error .equals

/-- The line at the front of a text, or nothing where it is blank. -/
def readLine (cs : List Char) : Reading (Option Line) :=
  match skipBlanks cs with
  | [] => .ok (none, [])
  | '\n' :: cs => .ok (none, '\n' :: cs)
  | '\r' :: cs => .ok (none, '\r' :: cs)
  | '#' :: cs => .ok (none, '#' :: cs)
  | '[' :: cs => (readHeader cs).map fun (line, rest) => (some line, rest)
  | cs => (readEntry cs).map fun (line, rest) => (some line, rest)

/-- The lines of a text.  Every line uses up a character, so fuel for each
of them suffices. -/
def readLines (fuel : Nat) (cs : List Char) : Except Fault (List Line) :=
  match fuel, cs with
  | 0, _ => .ok []
  | _, [] => .ok []
  | fuel + 1, cs => do
    let (line, cs) ← readLine cs
    let cs ← skipLineEnd cs
    let lines ← readLines fuel cs
    .ok (line.toList ++ lines)

/-- The lines of a text that are not blank.  A byte order mark before the
first of them is passed over. -/
def read (text : String) : Except Fault (List Line) :=
  let cs := match text.toList with
    | '\ufeff' :: cs => cs
    | cs => cs
  readLines cs.length cs

end SqlTree.Toml
