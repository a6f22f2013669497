import SqlTree.Json.Outline

/-!
# Reading JSON text

`Outline.ofText` reads a text into its outline.  Every reader takes the
characters from where it stands and gives what it read together with the
characters after it, or with `none` where a fault ends the reading.

Containers are read with fuel.  Each step of it uses up a character, so
the length of the text suffices.
-/

set_option autoImplicit false

namespace SqlTree

open Decimal

/-- The characters after what was read, unless a fault ended the reading. -/
abbrev Rest := Option (List Char)

/-- Passes over the four blanks of the format. -/
def Json.skipBlanks (cs : List Char) : List Char :=
  cs.dropWhile fun c => c == ' ' || c == '\n' || c == '\t' || c == '\r'

/-! ## Words -/

/-- The characters after `word`, or the fault in it. -/
def Json.readWord : List Char → List Char → Except SyntaxFault (List Char)
  | [], cs => .ok cs
  | _ :: _, [] => .error .endInValue
  | w :: ws, c :: cs => if c = w then readWord ws cs else .error .expectedWord

/-- A word that stands for `value`, or else for what its fault makes of it. -/
def Outline.ofWord (word : List Char) (value : Outline) (bad : SyntaxFault → Outline)
    (cs : List Char) : Outline × Rest :=
  match Json.readWord word cs with
  | .ok rest => (value, some rest)
  | .error fault => (bad fault, none)

/-- A word with a fault. -/
def Outline.badWord (fault : SyntaxFault) : Outline :=
  .badScalar fault (some fault)

/-! ## Numbers -/

/-- The parts of a number's text. -/
structure NumberText where
  negative : Bool
  whole : List Char
  fraction : Option (List Char)
  exponent : Option Int

/-- The number that a list of digits writes. -/
def Json.naturalOf (digits : List Char) : Nat :=
  digits.foldl (fun n c => 10 * n + (c.toNat - 48)) 0

/-- Digits that have to stand here. -/
def Json.readDigits (cs : List Char) : Except SyntaxFault (List Char × List Char) :=
  let digits := cs.takeWhile Char.isDigit
  if digits.isEmpty then
    .error (if cs.isEmpty then .endInValue else .invalidNumber)
  else
    .ok (digits, cs.drop digits.length)

/-- The digits before the point: no zero stands before another digit. -/
def Json.readWhole (cs : List Char) : Except SyntaxFault (List Char × List Char) := do
  let (digits, rest) ← readDigits cs
  if digits.head? = some '0' ∧ 1 < digits.length then .error .invalidNumber
  else .ok (digits, rest)

/-- An optional fraction. -/
def Json.readFraction (cs : List Char) : Except SyntaxFault (Option (List Char) × List Char) :=
  match cs with
  | '.' :: cs => do
    let (digits, rest) ← readDigits cs
    .ok (some digits, rest)
  | _ => .ok (none, cs)

/-- An optional exponent. -/
def Json.readExponent (cs : List Char) : Except SyntaxFault (Option Int × List Char) :=
  match cs with
  | c :: cs' =>
    if c = 'e' ∨ c = 'E' then do
      let (negative, cs) := match cs' with
        | '-' :: cs => (true, cs)
        | '+' :: cs => (false, cs)
        | cs => (false, cs)
      let (digits, rest) ← readDigits cs
      let n := naturalOf digits
      .ok (some (if negative then -(n : Int) else n), rest)
    else
      .ok (none, cs)
  | [] => .ok (none, cs)

/-- The parts of the number at the front of a text. -/
def Json.readNumberText (cs : List Char) : Except SyntaxFault (NumberText × List Char) := do
  let (negative, cs) := match cs with
    | '-' :: cs => (true, cs)
    | cs => (false, cs)
  let (whole, cs) ← readWhole cs
  let (fraction, cs) ← readFraction cs
  let (exponent, cs) ← readExponent cs
  .ok (⟨negative, whole, fraction, exponent⟩, cs)

/-- The value of a number's text.  Without fraction and exponent it is an
integer, unless that needs more than 64 bits or is a negative zero. -/
def NumberText.value? (t : NumberText) : Option Number :=
  let n := Json.naturalOf t.whole
  let isInteger := t.fraction.isNone && t.exponent.isNone
    && (if t.negative then decide (0 < n ∧ n ≤ 0x8000000000000000)
      else decide (n ≤ 0xFFFFFFFFFFFFFFFF))
  if isInteger then
    some (.integer (if t.negative then -(n : Int) else n))
  else
    let places := t.fraction.getD []
    let digits := Json.naturalOf (t.whole ++ places)
    (Binary64.ofDecimal? t.negative digits (t.exponent.getD 0 - places.length)).map Number.float

/-- A number, passed over, ends where its digits do. -/
def SyntaxFault.passingNumber : SyntaxFault → SyntaxFault
  | .endInValue => .invalidNumber
  | fault => fault

/-- The number at the front of a text. -/
def Outline.readNumber (cs : List Char) : Outline × Rest :=
  match Json.readNumberText cs with
  | .error fault => (.badScalar fault (some fault.passingNumber), none)
  | .ok (text, rest) =>
    match text.value? with
    | some n => (.number n, some rest)
    | none => (.badScalar .numberOutOfRange none, some rest)

/-! ## Strings -/

/-- Where a string is being read. -/
inductive StringState where
  | plain
  /-- after a backslash -/
  | escape
  /-- inside an escape by number, with the surrogate before it -/
  | code (missing : Nat) (value : Nat) (lead : Option Nat)
  /-- after a leading surrogate -/
  | lead (surrogate : Nat)
  /-- after a leading surrogate and a backslash -/
  | leadEscape (surrogate : Nat)

/-- The value of a hexadecimal digit. -/
def Json.hexDigit? (c : Char) : Option Nat :=
  if c.isDigit then some (c.toNat - 48)
  else if 'a' ≤ c ∧ c ≤ 'f' then some (c.toNat - 87)
  else if 'A' ≤ c ∧ c ≤ 'F' then some (c.toNat - 55)
  else none

/-- The character that a letter after a backslash stands for. -/
def Json.escaped? : Char → Option Char
  | '"' => some '"'
  | '\\' => some '\\'
  | '/' => some '/'
  | 'b' => some '\x08'
  | 'f' => some '\x0c'
  | 'n' => some '\n'
  | 'r' => some '\r'
  | 't' => some '\t'
  | _ => none

/-- The characters read so far, backwards, and the first fault that ends
the string only for a decoder that takes it. -/
structure StringText where
  text : List Char
  fault : Option SyntaxFault

/-- Adds a character. -/
def StringText.push (t : StringText) (c : Char) : StringText :=
  { t with text := c :: t.text }

/-- Notes a fault. -/
def StringText.note (t : StringText) (fault : SyntaxFault) : StringText :=
  { t with fault := t.fault.or (some fault) }

/-- The outline of a complete string. -/
def StringText.outline (t : StringText) : Outline :=
  match t.fault with
  | none => .string (String.ofList t.text.reverse)
  | some fault => .badString fault none

/-- The outline of a string that `fault` breaks off. -/
def StringText.broken (t : StringText) (fault : SyntaxFault) : Outline × Rest :=
  (.badString (t.fault.getD fault) (some fault), none)

/-- What a complete escape by number adds, and where it leads. -/
def StringText.pushCode (t : StringText) (value : Nat) (lead : Option Nat) :
    StringText × StringState :=
  let trails := 0xDC00 ≤ value && value ≤ 0xDFFF
  match lead with
  | some first =>
    if trails then
      (t.push (Char.ofNat (0x10000 + (first - 0xD800) * 0x400 + (value - 0xDC00))), .plain)
    else
      (t.note .loneSurrogate, .plain)
  | none =>
    if trails then (t.note .loneSurrogate, .plain)
    else if 0xD800 ≤ value && value ≤ 0xDBFF then (t, .lead value)
    else (t.push (Char.ofNat value), .plain)

/-- Whether fewer than four octets are left. -/
def Json.endsEarly (cs : List Char) : Bool :=
  decide ((cs.take 4).foldl (fun n c => n + c.utf8Size) 0 < 4)

/-- The string whose opening quote has been read. -/
def Outline.readString (state : StringState) (t : StringText) : List Char → Outline × Rest
  | [] => t.broken .endInString
  | c :: cs =>
    match state with
    | .plain => plain t c cs
    | .escape =>
      if c = 'u' then
        if Json.endsEarly cs then t.broken .endInString
        else readString (.code 4 0 none) t cs
      else
        match Json.escaped? c with
        | some e => readString .plain (t.push e) cs
        | none => t.broken .invalidEscape
    | .code missing value lead =>
      match Json.hexDigit? c with
      | none => t.broken .invalidEscape
      | some d =>
        let value := 16 * value + d
        if missing ≤ 1 then
          let (t, state) := t.pushCode value lead
          readString state t cs
        else
          readString (.code (missing - 1) value lead) t cs
    | .lead surrogate =>
      if c = '\\' then readString (.leadEscape surrogate) t cs
      else plain (t.note .unpairedEscape) c cs
    | .leadEscape surrogate =>
      if c = 'u' then
        if Json.endsEarly cs then t.broken .endInString
        else readString (.code 4 0 (some surrogate)) t cs
      else
        let t := t.note .unpairedEscape
        match Json.escaped? c with
        | some e => readString .plain (t.push e) cs
        | none => t.broken .invalidEscape
where
  /-- The character `c` outside of any escape. -/
  plain (t : StringText) (c : Char) (cs : List Char) : Outline × Rest :=
    if c = '"' then (t.outline, some cs)
    else if c = '\\' then readString .escape t cs
    else if c.toNat < 0x20 then t.broken .controlCharacter
    else readString .plain (t.push c) cs

/-! ## Containers -/

/-- The deepest container that a decoder takes. -/
def Json.depthLimit : Nat := 127

mutual

/-- The value at the front of a text, inside of `depth` containers. -/
def Outline.readValue (depth : Nat) (fuel : Nat) (cs : List Char) :
    Outline × Rest :=
  match fuel with
  | 0 => (.absent .endInValue, none)
  | fuel + 1 =>
    let tooDeep := decide (Json.depthLimit ≤ depth)
    match Json.skipBlanks cs with
    | [] => (.absent .endInValue, none)
    | 'n' :: cs => ofWord ['u', 'l', 'l'] .null .badNull cs
    | 't' :: cs => ofWord ['r', 'u', 'e'] (.bool true) badWord cs
    | 'f' :: cs => ofWord ['a', 'l', 's', 'e'] (.bool false) badWord cs
    | '"' :: cs => readString .plain ⟨[], none⟩ cs
    | '[' :: cs =>
      let (items, fault, rest) := readItems (depth + 1) true fuel cs
      (.list tooDeep items fault, rest)
    | '{' :: cs =>
      let (members, fault, rest) := readMembers (depth + 1) true fuel cs
      (.object tooDeep members fault, rest)
    | c :: cs =>
      if c = '-' || c.isDigit then readNumber (c :: cs)
      else (.absent .expectedValue, none)
termination_by structural fuel

/-- The items of an array, from its bracket or from after an item. -/
def Outline.readItems (depth : Nat) (first : Bool) (fuel : Nat) (cs : List Char) :
    List Outline × Option SyntaxFault × Rest :=
  match fuel with
  | 0 => ([], some .endInList, none)
  | fuel + 1 =>
    match Json.skipBlanks cs, first with
    | [], _ => ([], some .endInList, none)
    | ']' :: cs, _ => ([], none, some cs)
    | ',' :: cs, false =>
      match Json.skipBlanks cs with
      | [] => ([], some .endInValue, none)
      | ']' :: _ => ([], some .trailingComma, none)
      | cs => readItem depth fuel cs
    | cs, true => readItem depth fuel cs
    | _, false => ([], some .expectedListComma, none)
termination_by structural fuel

/-- An item of an array, and the items after it. -/
def Outline.readItem (depth : Nat) (fuel : Nat) (cs : List Char) :
    List Outline × Option SyntaxFault × Rest :=
  match fuel with
  | 0 => ([], some .endInList, none)
  | fuel + 1 =>
    match readValue depth fuel cs with
    | (item, none) => ([item], none, none)
    | (item, some cs) =>
      let (items, fault, rest) := readItems depth false fuel cs
      (item :: items, fault, rest)
termination_by structural fuel

/-- The members of an object, from its brace or from after a member. -/
def Outline.readMembers (depth : Nat) (first : Bool) (fuel : Nat) (cs : List Char) :
    List (Outline × Outline) × Option SyntaxFault × Rest :=
  match fuel with
  | 0 => ([], some .endInObject, none)
  | fuel + 1 =>
    match Json.skipBlanks cs, first with
    | [], _ => ([], some .endInObject, none)
    | '}' :: cs, _ => ([], none, some cs)
    | ',' :: cs, false =>
      match Json.skipBlanks cs with
      | [] => ([], some .endInValue, none)
      | '}' :: _ => ([], some .trailingComma, none)
      | cs => readMember depth fuel cs
    | cs, true => readMember depth fuel cs
    | _, false => ([], some .expectedObjectComma, none)
termination_by structural fuel

/-- A member of an object, and the members after it. -/
def Outline.readMember (depth : Nat) (fuel : Nat) (cs : List Char) :
    List (Outline × Outline) × Option SyntaxFault × Rest :=
  match fuel with
  | 0 => ([], some .endInObject, none)
  | fuel + 1 =>
    match readValue depth fuel cs with
    | (.string name, some cs) => readMemberValue depth (.string name) fuel cs
    | (.badString fault passing, some cs) =>
      readMemberValue depth (.badString fault passing) fuel cs
    | (name, _) => ([(name, .absent .nameNotString)], none, none)
termination_by structural fuel

/-- The value of a member whose name has been read, and the members after
it. -/
def Outline.readMemberValue (depth : Nat) (name : Outline) (fuel : Nat) (cs : List Char) :
    List (Outline × Outline) × Option SyntaxFault × Rest :=
  match fuel with
  | 0 => ([], some .endInObject, none)
  | fuel + 1 =>
    match Json.skipBlanks cs with
    | [] => ([(name, .absent .endInObject)], none, none)
    | ':' :: cs =>
      match readValue depth fuel cs with
      | (value, none) => ([(name, value)], none, none)
      | (value, some cs) =>
        let (members, fault, rest) := readMembers depth false fuel cs
        ((name, value) :: members, fault, rest)
    | _ => ([(name, .absent .expectedColon)], none, none)
termination_by structural fuel

end

/-! ## Whole texts -/

/-- The outline of the value at the front of a text, and the fault of what
follows it. -/
def Outline.ofText (s : String) : Outline × Option SyntaxFault :=
  let cs := s.toList
  match readValue 0 (5 * cs.length + 5) cs with
  | (outline, none) => (outline, none)
  | (outline, some rest) =>
    (outline, if (Json.skipBlanks rest).isEmpty then none else some .trailingCharacters)

/-- The value of a text without faults. -/
def Json.ofText? (s : String) : Option Json :=
  match Outline.ofText s with
  | (outline, none) => outline.toJson?
  | _ => none

end SqlTree
