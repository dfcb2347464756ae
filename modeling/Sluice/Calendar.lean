import Sluice.Text

/-!
# Dates and times of day

Dates of the proleptic Gregorian calendar in the years 1 to 9999, and times of day to the
microsecond, with or without an offset from UTC. A date counts its days from 1 January of the year 1
(`Date.ordinal`, that day being 1); a time with an offset names an instant, counted in microseconds
(`DateTime.instant`). Shifting to UTC keeps the instant and fails when it leaves the calendar.

Offsets count whole seconds. A time whose offset has a fraction of a second is no value here, nor is
one that belongs to a time zone but has no offset in it.
-/

namespace Sluice

/-- A day of the calendar. -/
structure Date where
  year : Nat
  month : Nat
  day : Nat
  deriving DecidableEq, Repr

/-- A day and a time of day, ahead of UTC by as many whole seconds as `offset` says, if that is
known. -/
structure DateTime where
  date : Date
  hour : Nat
  minute : Nat
  second : Nat
  microsecond : Nat
  offset : Option Int
  deriving DecidableEq, Repr

namespace Calendar

def isLeap (year : Nat) : Bool := year % 4 == 0 && (year % 100 != 0 || year % 400 == 0)

/-- The lengths of the months of a year. -/
def monthLengths (year : Nat) : List Nat :=
  [31, if isLeap year then 29 else 28, 31, 30, 31, 30, 31, 31, 30, 31, 30, 31]

/-- Days before 1 January of a year that is at least 1. -/
def daysBeforeYear (year : Nat) : Nat :=
  let y := year - 1
  y * 365 + y / 4 - y / 100 + y / 400

/-- Days of a year before a month. -/
def daysBeforeMonth (year month : Nat) : Nat :=
  ((monthLengths year).take (month - 1)).foldl (· + ·) 0

/-- The number of days from the start of the year 1 to the end of the year 9999. -/
def lastOrdinal : Nat := 3652059

/-- The month and day in which a number of days into the year falls, months counted from `month`. -/
def splitMonths (month : Nat) : List Nat → Nat → Nat × Nat
  | [], rest => (month, rest + 1)
  | len :: lens, rest =>
    if rest < len then (month, rest + 1) else splitMonths (month + 1) lens (rest - len)

/-- The year in which the day number `n` (counted from 0) falls. -/
def yearOfDays (n : Nat) : Nat :=
  let estimate := n * 400 / 146097 + 1
  if n < daysBeforeYear estimate then estimate - 1
  else if daysBeforeYear (estimate + 1) ≤ n then estimate + 1
  else estimate

end Calendar

namespace Date

open Calendar

/-- A date that the calendar has. -/
def isValid (d : Date) : Bool :=
  1 ≤ d.year && d.year ≤ 9999 && 1 ≤ d.month && d.month ≤ 12 && 1 ≤ d.day &&
    d.day ≤ (monthLengths d.year).getD (d.month - 1) 0

/-- The number of the day, 1 January of the year 1 being 1. -/
def ordinal (d : Date) : Nat := daysBeforeYear d.year + daysBeforeMonth d.year d.month + d.day

/-- The day with a given number. -/
def ofOrdinal (n : Nat) : Date :=
  let days := n - 1
  let year := yearOfDays days
  let (month, day) := splitMonths 1 (monthLengths year) (days - daysBeforeYear year)
  ⟨year, month, day⟩

/-- The day with a given number, if the calendar reaches it. -/
def ofOrdinal? (n : Int) : Option Date :=
  if 1 ≤ n ∧ n ≤ lastOrdinal then some (ofOrdinal n.toNat) else none

end Date

namespace DateTime

/-- Seconds since the start of the day, without the microseconds. -/
def secondOfDay (t : DateTime) : Nat := t.hour * 3600 + t.minute * 60 + t.second

/-- Microseconds since the start of the calendar on the wall clock. -/
def wall (t : DateTime) : Int :=
  ((t.date.ordinal - 1 : Nat) * 86400 + t.secondOfDay : Nat) * 1000000 + t.microsecond

/-- The instant in microseconds; a time without an offset is read as UTC. -/
def instant (t : DateTime) : Int := t.wall - t.offset.getD 0 * 1000000

/-- The time on a wall clock `offset` seconds ahead of UTC that shows the given number of
microseconds, if the calendar reaches it. -/
def ofWall? (offset : Option Int) (n : Int) : Option DateTime :=
  match Date.ofOrdinal? (n.fdiv 86400000000 + 1) with
  | none => none
  | some date =>
    let rest := (n.fmod 86400000000).toNat
    let seconds := rest / 1000000
    some ⟨date, seconds / 3600, seconds / 60 % 60, seconds % 60, rest % 1000000, offset⟩

/-- The same instant in UTC; `none` when it lies outside the calendar. A time without an offset is
read as UTC. -/
def toUtc? (t : DateTime) : Option DateTime :=
  match t.offset with
  | none => some { t with offset := some 0 }
  | some offset => if offset = 0 then some t else ofWall? (some 0) t.instant

/-- The wall-clock time without its offset. -/
def withoutOffset (t : DateTime) : DateTime := { t with offset := none }

end DateTime

end Sluice
