import SqlTree.Text.Blank
import SqlTree.Time.Timestamp

/-!
# Points in time as text

`Timestamp.text` writes the date, a `T`, the time and the offset of UTC.
A fraction of a second has three, six or nine digits, the fewest that
hold it.

Reading is more liberal: blanks may stand between the fields, a field may
have fewer digits, the date and the time may be separated by a blank, and
any offset from UTC below a day is converted.  Fields are read from left
to right, and the first fault is reported.
-/

set_option autoImplicit false

namespace SqlTree.Time

open SqlTree.Text

/-- Why a text is no point in time. -/
inductive TimeError where
  | tooShort
  | invalid
  | outOfRange
  | impossible
  | trailing
deriving DecidableEq

/-- The wording of an error. -/
def TimeError.message : TimeError → String
  | .tooShort => "premature end of input"
  | .invalid => "input contains invalid characters"
  | .outOfRange => "input is out of range"
  | .impossible => "no possible date and time matching input"
  | .trailing => "trailing input"

/-! ## Writing -/

/-- The number `n` with at least `width` digits. -/
def padded (width n : Nat) : String :=
  let digits := Nat.toDigits 10 n
  String.ofList (List.replicate (width - digits.length) '0' ++ digits)

/-- A year: four digits, and a sign where four do not hold it. -/
def yearText (year : Int) : String :=
  if 0 ≤ year ∧ year ≤ 9999 then padded 4 year.toNat
  else (if year < 0 then "-" else "+") ++ padded 4 year.natAbs

/-- A fraction of a second, with its point. -/
def fractionText (nanosecond : Nat) : String :=
  if nanosecond = 0 then ""
  else if nanosecond % 1000000 = 0 then "." ++ padded 3 (nanosecond / 1000000)
  else if nanosecond % 1000 = 0 then "." ++ padded 6 (nanosecond / 1000)
  else "." ++ padded 9 nanosecond

/-- A point in time, with the given text for the offset of UTC. -/
def Timestamp.text (t : Timestamp) (utc : String) : String :=
  yearText t.date.year ++ "-" ++ padded 2 t.date.month ++ "-" ++ padded 2 t.date.day
    ++ "T" ++ padded 2 t.clock.hour ++ ":" ++ padded 2 t.clock.minute ++ ":"
    ++ padded 2 t.clock.second ++ fractionText t.clock.nanosecond ++ utc

/-! ## Reading -/

/-- A step that reads from the front of a text. -/
abbrev Reading := StateT (List Char) (Except TimeError)

/-- The value of a digit. -/
def digitValue (c : Char) : Nat :=
  c.toNat - 48

/-- The number that a list of digits writes. -/
def numberOf (digits : List Char) : Nat :=
  digits.foldl (fun n c => 10 * n + digitValue c) 0

/-- Passes over blanks. -/
def skipBlanks : Reading Unit :=
  modify trimStart

/-- The digits of a number: at least one, and `width` at most. -/
def readDigits (width : Nat) : Reading (List Char) := do
  let cs ← get
  if cs.isEmpty then throw .tooShort
  let digits := (cs.take width).takeWhile Char.isDigit
  if digits.isEmpty then throw .invalid
  set (cs.drop digits.length)
  return digits

/-- A field after blanks, in its range. -/
def readField (low high : Nat) : Reading Nat := do
  skipBlanks
  let n := numberOf (← readDigits 2)
  if n < low ∨ high < n then throw .outOfRange
  return n

/-- A mark that has to stand here, perhaps after blanks. -/
def readMark (mark : Char) : Reading Unit := do
  skipBlanks
  match ← get with
  | [] => throw .tooShort
  | c :: rest =>
    if c ≠ mark then throw .invalid
    set rest

/-- A year with a sign: any number of digits. -/
def readSignedYear (sign : Int) : Reading Int := do
  let year := sign * numberOf (← readDigits (← get).length)
  if year < -0x80000000 ∨ 0x80000000 ≤ year then throw .outOfRange
  return year

/-- A year: four digits at most, or a sign and any number of them. -/
def readYear : Reading Int := do
  skipBlanks
  match ← get with
  | '-' :: rest => set rest; readSignedYear (-1)
  | '+' :: rest => set rest; readSignedYear 1
  | _ => return numberOf (← readDigits 4)

/-- The separator between the date and the time. -/
def readSeparator : Reading Unit := do
  match ← get with
  | [] => throw .tooShort
  | c :: rest =>
    if c ≠ 'T' ∧ c ≠ 't' ∧ c ≠ ' ' then throw .invalid
    set rest

/-- The nanoseconds of an optional fraction.  Digits after the ninth are
dropped. -/
def readFraction : Reading Nat := do
  match ← get with
  | '.' :: rest =>
    set rest
    let digits ← readDigits 9
    modify fun cs => cs.dropWhile Char.isDigit
    return numberOf digits * Nat.pow 10 (9 - digits.length)
  | _ => return 0

/-- Two digits.  One character that takes two octets or more is not too
short for them, but it is no digit. -/
def readPair : Reading Nat := do
  match ← get with
  | a :: b :: rest =>
    if !a.isDigit || !b.isDigit then throw .invalid
    set rest
    return 10 * digitValue a + digitValue b
  | [c] => throw (if c.utf8Size < 2 then .tooShort else .invalid)
  | [] => throw .tooShort

/-- The hours and minutes of an offset, in minutes. -/
def readHoursMinutes : Reading Int := do
  let hours ← readPair
  modify fun cs => cs.dropWhile fun c => c == ':' || isBlank c
  let minutes ← readPair
  if 60 ≤ minutes then throw .outOfRange
  return 60 * hours + minutes

/-- An offset from UTC, in minutes. -/
def readOffset : Reading Int := do
  skipBlanks
  let cs ← get
  if (cs.take 3).map Char.toUpper = ['U', 'T', 'C'] then
    set (cs.drop 3)
    return 0
  match cs with
  | [] => throw .tooShort
  | c :: rest =>
    set rest
    if c = 'Z' ∨ c = 'z' then
      return 0
    else if c = '+' then
      readHoursMinutes
    else if c = '-' ∨ c = '−' then
      return -(← readHoursMinutes)
    else
      throw .invalid

/-- The point in time at the front of a text, perhaps after blanks. -/
def readTimestamp : Reading Timestamp := do
  let year ← readYear
  readMark '-'
  let month ← readField 1 12
  readMark '-'
  let day ← readField 1 31
  readSeparator
  let hour ← readField 0 23
  readMark ':'
  let minute ← readField 0 59
  readMark ':'
  let second ← readField 0 60
  let nanosecond ← readFraction
  let offset ← readOffset
  skipBlanks
  if !(← get).isEmpty then throw .trailing
  let date : Date := ⟨year, month, day⟩
  if !date.isValid || decide (1440 ≤ offset.natAbs) then throw .outOfRange
  match Timestamp.ofLocal? date ⟨hour, minute, second, nanosecond⟩ offset with
  | some t => return t
  | none => throw .impossible

/-- The point in time that a text writes. -/
def Timestamp.read (s : String) : Except TimeError Timestamp :=
  readTimestamp.run' s.toList

end SqlTree.Time
