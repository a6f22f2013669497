/-!
# Points in time

A point in time is kept by the fields of its date and time in UTC, in the
proleptic Gregorian calendar, to the nanosecond.  A leap second is second
60 of its minute, and any minute may hold one.

The fields of a `Timestamp` are always in their ranges, so a date such as
the 30th of February is not a value of the type.
-/

set_option autoImplicit false

namespace SqlTree.Time

/-- Whether the year has a 29th of February. -/
def isLeapYear (year : Int) : Bool :=
  year % 4 == 0 && (year % 100 != 0 || year % 400 == 0)

/-- The number of days of a month. -/
def daysInMonth (year : Int) (month : Nat) : Nat :=
  if month = 2 then
    if isLeapYear year then 29 else 28
  else if month = 4 || month = 6 || month = 9 || month = 11 then
    30
  else
    31

/-- A day of the calendar. -/
structure Date where
  year : Int
  month : Nat
  day : Nat
deriving DecidableEq

/-- The first year of the calendar. -/
def firstYear : Int := -262143

/-- The last year of the calendar. -/
def lastYear : Int := 262142

/-- Whether the fields name a day of the calendar. -/
def Date.isValid (d : Date) : Bool :=
  decide (firstYear ≤ d.year) && decide (d.year ≤ lastYear)
    && decide (1 ≤ d.month) && decide (d.month ≤ 12)
    && decide (1 ≤ d.day) && decide (d.day ≤ daysInMonth d.year d.month)

/-- The day after. -/
def Date.next (d : Date) : Date :=
  if d.day < daysInMonth d.year d.month then { d with day := d.day + 1 }
  else if d.month < 12 then ⟨d.year, d.month + 1, 1⟩
  else ⟨d.year + 1, 1, 1⟩

/-- The day before. -/
def Date.previous (d : Date) : Date :=
  if 1 < d.day then { d with day := d.day - 1 }
  else if 1 < d.month then ⟨d.year, d.month - 1, daysInMonth d.year (d.month - 1)⟩
  else ⟨d.year - 1, 12, 31⟩

/-- A time of day. -/
structure Clock where
  hour : Nat
  minute : Nat
  second : Nat
  nanosecond : Nat
deriving DecidableEq

/-- Whether the fields name a time of day. -/
def Clock.isValid (c : Clock) : Bool :=
  decide (c.hour < 24) && decide (c.minute < 60) && decide (c.second ≤ 60)
    && decide (c.nanosecond < 1000000000)

/-- A point in time. -/
structure Timestamp where
  date : Date
  clock : Clock
  date_valid : date.isValid = true
  clock_valid : clock.isValid = true
deriving DecidableEq

/-- The point in time with these fields, if they are in their ranges. -/
def Timestamp.ofFields? (date : Date) (clock : Clock) : Option Timestamp :=
  if h : date.isValid = true ∧ clock.isValid = true then some ⟨date, clock, h.1, h.2⟩ else none

/-- Fields with their ranges make a point in time. -/
theorem Timestamp.ofFields?_fields (t : Timestamp) :
    Timestamp.ofFields? t.date t.clock = some t := by
  simp [Timestamp.ofFields?, t.date_valid, t.clock_valid]

/-- The date and the minutes of the day that are `minutes` earlier, for a
shift of less than a day. -/
def shiftBack (date : Date) (minuteOfDay : Nat) (minutes : Int) : Date × Nat :=
  let shifted := (minuteOfDay : Int) - minutes
  if shifted < 0 then (date.previous, (shifted + 1440).toNat)
  else if 1440 ≤ shifted then (date.next, (shifted - 1440).toNat)
  else (date, shifted.toNat)

/-- The point in time that a clock `minutes` ahead of UTC shows with these
fields, if it lies in the calendar.  Seconds are the same on both clocks. -/
def Timestamp.ofLocal? (date : Date) (clock : Clock) (minutes : Int) : Option Timestamp :=
  let (day, minuteOfDay) := shiftBack date (60 * clock.hour + clock.minute) minutes
  Timestamp.ofFields? day { clock with hour := minuteOfDay / 60, minute := minuteOfDay % 60 }

end SqlTree.Time
