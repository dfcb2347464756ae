import Sluice.Arrow.Literal
import Sluice.Failure
import Sluice.Text.Utf8

/-!
# Cells of Arrow columns

How values are stored in the cells of a column, and how stored values are shown again. Dates, times
and durations are stored as whole numbers of units, decimals with the places of their column,
numbers of single precision rounded; structs have the members of their type in order. A stored date
or time that the calendar does not reach cannot be shown.
-/

namespace Sluice.Arrow

/-- Microseconds from the start of the calendar to the start of 1970. -/
def epochMicros : Int := (Literal.epoch - 1) * 86400000000

namespace TimeUnit

/-- A number of microseconds in a unit, rounded down. -/
def ofMicros (u : TimeUnit) (n : Int) : Int :=
  match u with
  | .second => n.fdiv 1000000
  | .milli => n.fdiv 1000
  | .micro => n
  | .nano => n * 1000

/-- The microseconds of a number of units, unless some would be lost. -/
def toMicros? (u : TimeUnit) (n : Int) : Option Int :=
  match u with
  | .second => some (n * 1000000)
  | .milli => some (n * 1000)
  | .micro => some n
  | .nano => if n.fmod 1000 = 0 then some (n.fdiv 1000) else none

end TimeUnit

namespace DataType

/-! ## 1. Storing -/

/-- A decimal with so many places; digits that do not fit in are dropped. -/
def toPlaces (scale : Int) : Decimal → Decimal
  | .finite negative c e =>
    match e + scale with
    | .ofNat k => .finite negative (c * Nat.pow 10 k) (-scale)
    | .negSucc k => .finite negative (c / Nat.pow 10 (k + 1)) (-scale)
  | d => d

/-- The form in which a value without parts is stored. -/
def storeAtom (type : DataType) (v : Value) : Value :=
  match type, v with
  | .float _, .int n => .float (.ofInt n)
  | .float 32, .float x => .float x.toSingle
  | .decimal _ _ scale, .decimal d => .decimal (toPlaces scale d)
  | .decimal _ _ scale, .int n => .decimal (toPlaces scale (.ofInt n))
  | .timestamp unit _, .dateTime t => .int (unit.ofMicros (t.instant - epochMicros))
  | .date32, .date d => .int (d.ordinal - Literal.epoch)
  | .date64, .date d => .int ((d.ordinal - Literal.epoch) * 86400000)
  | .binary _, .text t => .bytes (t.flatMap fun
      | .char c => Text.Utf8.encodeChar c
      | .half _ => [])
  | _, v => v

/-- The form in which a value is stored. -/
def store : DataType → Value → Value
  | .list _ _ item _, .list xs => .list (xs.map item.store)
  | .struct members, .mapping es => .mapping (storeMembers members es)
  | .dictionary _ value, v => value.store v
  | type, v => type.storeAtom v
where
  /-- The members of a struct in the order of its type, null where one is missing. -/
  storeMembers : List (Text × DataType × Bool) → List (Value × Value) → List (Value × Value)
    | [], _ => []
    | (name, type, _) :: rest, es =>
      (.text name, type.store ((Value.lookup name es).getD .null)) :: storeMembers rest es

/-! ## 2. Showing -/

/-- The failure of a date or a time that the calendar does not reach. -/
def outsideCalendar : Failure := .outside "OverflowError" "date value out of range"

/-- The failure of a time with parts of a microsecond. -/
def tooPrecise (n : Int) : Failure :=
  .outside "ValueError"
    ("Nanosecond resolution temporal type " ++ Text.ofInt n ++
      " is not safely convertible to microseconds to convert to datetime.datetime. " ++
      "Install pandas to return as Timestamp with nanosecond support or access the .value " ++
      "attribute.")

/-- The date of a number of days from 1970. -/
def showDate (days : Int) : Except Failure Value :=
  match Date.ofOrdinal? (days + Literal.epoch) with
  | some d => .ok (.date d)
  | none => .error outsideCalendar

/-- The offset of a zone that is named by it; other zones are taken to be UTC. -/
def zoneOffset (zone : Text) : Int :=
  match zone.chars? with
  | some (sign :: h1 :: h2 :: ':' :: m) =>
    let seconds := ((Literal.offsetBody? (h1 :: h2 :: ':' :: m)).getD 0)
    if sign = '-' then -seconds else if sign = '+' then seconds else 0
  | _ => 0

/-- The time of a number of units from 1970. -/
def showTime (unit : TimeUnit) (zone? : Option Text) (n : Int) : Except Failure Value :=
  match unit.toMicros? n with
  | none => .error (tooPrecise n)
  | some micros =>
    let offset? := zone?.map zoneOffset
    match DateTime.ofWall? offset? (micros + epochMicros + offset?.getD 0 * 1000000) with
    | some t => .ok (.dateTime t)
    | none => .error outsideCalendar

/-- A stored value without parts as it is shown. -/
def showAtom (type : DataType) (v : Value) : Except Failure Value :=
  match type, v with
  | .timestamp unit zone?, .int n => showTime unit zone? n
  | .date32, .int n => showDate n
  | .date64, .int n => showDate (n.fdiv 86400000)
  | .time .., .int _ => .ok (.foreign "time")
  | .duration _, .int _ => .ok (.foreign "timedelta")
  | _, v => .ok v

/-- A stored value as it is shown. -/
def present : DataType → Value → Except Failure Value
  | .list _ _ item _, .list xs => (xs.mapM item.present).map .list
  | .struct members, .mapping es => (presentMembers members es).map .mapping
  | .dictionary _ value, v => value.present v
  | type, v => type.showAtom v
where
  /-- The members of a struct. -/
  presentMembers : List (Text × DataType × Bool) → List (Value × Value) →
      Except Failure (List (Value × Value))
    | (_, type, _) :: rest, (k, v) :: es => do
      let w ← type.present v
      return (k, w) :: (← presentMembers rest es)
    | _, _ => .ok []

end DataType

end Sluice.Arrow
