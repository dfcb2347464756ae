import Sluice.Arrow.Cell
import Sluice.Number.Shortest
import Sluice.Value.Display

/-!
# Casts between column types

How the cells of a column become cells of the type that a scalar is stored in. For each of those
types `conversion?` says whether there is a cast from another type at all, and what it does with a
cell that is not null. A number is converted only if it stays the same number; doubles that become
decimals are the exception, they are rounded to the places that decimals have. A column is converted
as a whole or not at all (`convert`).
-/

namespace Sluice.Arrow

/-- Why a column is not converted. -/
inductive CastFault where
  | unsupported (source : DataType) (target : Scalar)
  | outOfRange (n low high : Int)
  | truncated (x : Binary64) (target : Scalar)
  | unreadable (t : Text) (target : Scalar)
  | offsetNeeded (t : Text) (target : Scalar)
  | noDecimal (t : Text)
  | unbounded (x : Binary64)
  | dataLoss
  | overPrecision
  | notUtf8
  | lostTime (n : Int) (source : DataType)
  deriving Repr

/-- A conversion of cells that are not null. -/
abbrev Conversion := Value → Except CastFault Value

namespace CastFault

/-- Doubles as they stand in texts made of columns: written out from `10^-6` to below `10^10`, whole
ones without a point, exponents with a sign. -/
def floatNotation : Number.FloatNotation := ⟨-6, 9, [], 1, "inf", "nan"⟩

/-- The word for a target among casts. -/
def castName : Scalar → Text
  | .bool => "boolean"
  | .numeric => "decimal"
  | .bytes => "binary"
  | .date => "date32"
  | .timestamp => "timestamp"
  | s => s.toArrow.text

private def unread (t : Text) (target : Scalar) : Text :=
  "Failed to parse string: '" ++ t ++ "' as a scalar of type " ++ target.toArrow.text

/-- The wording of a fault. -/
def message : CastFault → Text
  | .unsupported source target =>
    "Unsupported cast from " ++ source.text ++ " to " ++ target.toArrow.text ++
      " using function cast_" ++ castName target
  | .outOfRange n low high =>
    "Integer value " ++ Text.ofInt n ++ " not in range: " ++ Text.ofInt low ++ " to " ++
      Text.ofInt high
  | .truncated x target =>
    "Float value " ++ floatNotation.write x ++ " was truncated converting to " ++
      target.toArrow.text
  | .unreadable t target => unread t target
  | .offsetNeeded t target =>
    unread t target ++ ": expected a zone offset. If these timestamps are in local time, parse " ++
      "them as timestamps without timezone, then call assume_timezone."
  | .noDecimal t => "The string '" ++ t ++ "' is not a valid decimal128 number"
  | .unbounded x =>
    "Cannot convert " ++ floatNotation.write x ++ " to Decimal128(precision = 38, scale = 9): " ++
      "overflow"
  | .dataLoss => "Rescaling Decimal128 value would cause data loss"
  | .overPrecision => "Decimal value does not fit in precision 38"
  | .notUtf8 => "Invalid UTF8 payload"
  | .lostTime n source =>
    "Casting from " ++ source.text ++ " to " ++ Scalar.timestamp.toArrow.text ++
      " would lose data: " ++ Text.ofInt n

end CastFault

/-! ## 1. Cells -/

/-- The characters of a cell that holds a text or bytes. -/
def cellText : Value → Text
  | .text t => t
  | .bytes bs => bs.map fun b => .char (Char.ofNat b.toNat)
  | _ => []

private def charsOf (v : Value) : List Char := (cellText v).chars?.getD []

/-- Reads the text of a cell. -/
def reading {α : Type} (target : Scalar) (read? : List Char → Option α) (wrap : α → Value) :
    Conversion :=
  fun v => match read? (charsOf v) with
    | some a => .ok (wrap a)
    | none => .error (.unreadable (cellText v) target)

/-! ## 2. Truth values and numbers -/

/-- Truth values: what is not zero is true, and texts are read. -/
def toBool? : DataType → Option Conversion
  | .int .. => some fun
    | .int n => .ok (.bool (n != 0))
    | v => .ok v
  | .float bits => if bits = 16 then none else some fun
    | .float x => .ok (.bool (!x.isZero))
    | v => .ok v
  | .string _ => some (reading .bool Literal.bool? .bool)
  | .binary _ => some (reading .bool Literal.bool? .bool)
  | _ => none

/-- A whole number between two bounds. -/
def inRange (low high n : Int) : Except CastFault Value :=
  if low ≤ n ∧ n ≤ high then .ok (.int n) else .error (.outOfRange n low high)

/-- A double as a whole number between two bounds. -/
def wholeFloat (target : Scalar) (low high : Int) (x : Binary64) : Except CastFault Value :=
  let (n, exact) := x.toInt
  if x.isFinite && exact && low ≤ n && n ≤ high then .ok (.int n) else .error (.truncated x target)

/-- A decimal as a whole number between two bounds. -/
def wholeDecimal (low high : Int) (d : Decimal) : Except CastFault Value :=
  match d.ratio? with
  | none => .error .dataLoss
  | some (n, k) => if n % k = 0 then inRange low high (n / k) else .error .dataLoss

/-- Whole numbers of so many bits. -/
def toInt? (target : Scalar) (bits : Nat) : DataType → Option Conversion :=
  let low : Int := -(Nat.pow 2 (bits - 1) : Nat)
  let high : Int := (Nat.pow 2 (bits - 1) : Nat) - 1
  fun
  | .bool => some fun
    | .bool b => .ok (.int (if b then 1 else 0))
    | v => .ok v
  | .int .. => some fun
    | .int n => inRange low high n
    | v => .ok v
  | .float _ => some fun
    | .float x => wholeFloat target low high x
    | v => .ok v
  | .decimal .. => some fun
    | .decimal d => wholeDecimal low high d
    | v => .ok v
  | .string _ => some (reading target (Literal.int? bits) .int)
  | .binary _ => some (reading target (Literal.int? bits) .int)
  | .timestamp .. => if bits = 64 then some .ok else none
  | .date64 => if bits = 64 then some .ok else none
  | .duration _ => if bits = 64 then some .ok else none
  | .date32 => if bits = 32 then some .ok else none
  | .time width _ => if bits = width then some .ok else none
  | _ => none

/-- Up to this number all whole numbers are doubles. -/
def exactDoubles : Int := 9007199254740992

/-- A whole number as a double, if all whole numbers up to it are doubles. -/
def intToDouble (signed : Bool) (n : Int) : Except CastFault Value :=
  (inRange (if signed then -exactDoubles else 0) exactDoubles n).map fun _ => .float (.ofInt n)

/-- Doubles. -/
def toDouble? : DataType → Option Conversion
  | .bool => some fun
    | .bool b => .ok (.float (.ofInt (if b then 1 else 0)))
    | v => .ok v
  | .int signed _ => some fun
    | .int n => intToDouble signed n
    | v => .ok v
  | .float _ => some .ok
  | .decimal .. => some fun
    | .decimal d => .ok (match d.ratio? with
      | some (n, k) => .float (.ofRatio n k)
      | none => .float .nan)
    | v => .ok v
  | .string _ => some (reading .double Literal.double? .float)
  | .binary _ => some (reading .double Literal.double? .float)
  | _ => none

/-- The decimal of a whole number of units of the last place, if it has not too many digits. -/
def ofUnits (negative : Bool) (units : Nat) : Except CastFault Value :=
  if units < Nat.pow 10 numericPrecision then
    .ok (.decimal (.finite negative units (-numericScale)))
  else .error .overPrecision

/-- A decimal with the places of the schema, if it stays the same number. -/
def rescale (d : Decimal) : Except CastFault Value :=
  match d with
  | .finite negative c e =>
    match e + numericScale with
    | .ofNat k => ofUnits (negative && c != 0) (c * Nat.pow 10 k)
    | .negSucc k =>
      if c % Nat.pow 10 (k + 1) = 0 then ofUnits (negative && c != 0) (c / Nat.pow 10 (k + 1))
      else .error .dataLoss
  | _ => .error .dataLoss

/-- A double rounded to the places of the schema, a half to the even neighbour. -/
def roundToPlaces (x : Binary64) : Except CastFault Value :=
  if !x.isFinite then .error (.unbounded x)
  else
    let units := Number.roundHalfEven (x.units * Nat.pow 10 numericScale) (Nat.pow 2 1074)
    if units < Nat.pow 10 numericPrecision then
      .ok (.decimal (.finite (x.negative && units != 0) units (-numericScale)))
    else .error (.unbounded x)

/-- Decimals with the places of the schema. -/
def toNumeric? : DataType → Option Conversion
  | .int .. => some fun
    | .int n => rescale (.ofInt n)
    | v => .ok v
  | .float bits => if bits = 16 then none else some fun
    | .float x => roundToPlaces x
    | v => .ok v
  | .decimal .. => some fun
    | .decimal d => rescale d
    | v => .ok v
  | .string _ => some readDecimal
  | .binary _ => some readDecimal
  | _ => none
where
  /-- Reads the decimal in a cell. -/
  readDecimal (v : Value) : Except CastFault Value :=
    match Literal.decimal? (charsOf v) with
    | some d => rescale d
    | none => .error (.noDecimal (cellText v))

/-- A time in units as the clock of its zone shows it. -/
def onClock (unit : TimeUnit) (zone? : Option Text) (n : Int) : Int :=
  n + (zone?.map DataType.zoneOffset).getD 0 * unit.perSecond

/-! ## 3. Texts and bytes -/

/-- The text of a decimal: written out unless it has no whole digits and more than six zeros behind
the point, or zeros that are not its own. -/
def decimalText (d : Decimal) : Text :=
  match d with
  | .finite negative c e =>
    let digits := Text.ofNat c
    let scale := -e
    let top := (digits.length : Int) - 1 - scale
    let body : Text :=
      if scale = 0 then digits
      else if scale < 0 ∨ top < -6 then
        digits.take 1 ++ .char '.' :: digits.drop 1 ++ .char 'E' ::
          (if top < 0 then Text.ofInt top else .char '+' :: Text.ofInt top)
      else
        let padded := Text.padZeros (scale.toNat + 1) digits
        padded.take (padded.length - scale.toNat) ++ .char '.' ::
          padded.drop (padded.length - scale.toNat)
    if negative && c != 0 then .char '-' :: body else body
  | d => d.toText

/-- A time of day in units, with all places of the unit. -/
def clockText (unit : TimeUnit) (n : Nat) : Text :=
  let seconds := n / unit.perSecond
  let two := fun (k : Nat) => Text.padZeros 2 (Text.ofNat k)
  two (seconds / 3600) ++ .char ':' :: two (seconds / 60 % 60) ++ .char ':' :: two (seconds % 60) ++
    (if unit.places = 0 then []
      else .char '.' :: Text.padZeros unit.places (Text.ofNat (n % unit.perSecond)))

/-- A day as it is written, or its number when the calendar does not reach it. -/
def dayText (days : Int) : Text :=
  match Date.ofOrdinal? (days + Literal.epoch) with
  | some d => Calendar.dateText d
  | none => Text.ofInt days

/-- What stands behind a time in a zone: a `Z` for UTC, and the hours and minutes of the offset for
any other zone. -/
def zoneText (zone : Text) : Text :=
  if zone = utc then "Z"
  else
    let offset := DataType.zoneOffset zone
    let two := fun (k : Nat) => Text.padZeros 2 (Text.ofNat k)
    (if offset < 0 then Symbol.char '-' else .char '+') :: two (offset.natAbs / 3600) ++
      two (offset.natAbs / 60 % 60)

/-- A time in units as it is written, on the clock of its zone if it has one. -/
def momentText (unit : TimeUnit) (zone? : Option Text) (n : Int) : Text :=
  let day : Int := 86400 * unit.perSecond
  let n := onClock unit zone? n
  dayText (n.fdiv day) ++ .char ' ' :: clockText unit (n.fmod day).toNat ++
    (zone?.map zoneText).getD []

private def utf8 (bs : List UInt8) : Except CastFault Value :=
  match Text.ofUtf8? bs with
  | some t => .ok (.text t)
  | none => .error .notUtf8

/-- Texts. -/
def toText? : DataType → Option Conversion
  | .bool => some fun
    | .bool b => .ok (.text (if b then "true" else "false"))
    | v => .ok v
  | .int .. => some number
  | .float bits => if bits = 16 then none else some fun
    | .float x =>
      .ok (.text (if bits = 32 then CastFault.floatNotation.writeSingle x
        else CastFault.floatNotation.write x))
    | v => .ok v
  | .decimal .. => some fun
    | .decimal d => .ok (.text (decimalText d))
    | v => .ok v
  | .string _ => some .ok
  | .binary _ => some bytes
  | .fixedBinary _ => some bytes
  | .timestamp unit zone? => some fun
    | .int n => .ok (.text (momentText unit zone? n))
    | v => .ok v
  | .date32 => some fun
    | .int n => .ok (.text (dayText n))
    | v => .ok v
  | .date64 => some fun
    | .int n => .ok (.text (dayText (n.fdiv 86400000)))
    | v => .ok v
  | .time _ unit => some fun
    | .int n => .ok (.text (clockText unit n.toNat))
    | v => .ok v
  | .duration _ => some number
  | _ => none
where
  /-- The digits of a whole number. -/
  number : Value → Except CastFault Value
    | .int n => .ok (.text (Text.ofInt n))
    | v => .ok v
  /-- Bytes as a text. -/
  bytes : Value → Except CastFault Value
    | .bytes bs => utf8 bs
    | v => .ok v

/-- Bytes. -/
def toBytes? : DataType → Option Conversion
  | .string _ => some fun
    | .text t => .ok ((DataType.binary false).store (.text t))
    | v => .ok v
  | .binary _ => some .ok
  | .fixedBinary _ => some .ok
  | _ => none

/-! ## 4. Dates and times -/

/-- Times in microseconds; texts must name an offset from UTC. -/
def toTimestamp? (source : DataType) : Option Conversion :=
  match source with
  | .timestamp unit _ => some fun
    | .int n => match unit.toMicros? n with
      | some micros => .ok (.int micros)
      | none => .error (.lostTime n source)
    | v => .ok v
  | .date32 => some fun
    | .int n => .ok (.int (n * 86400000000))
    | v => .ok v
  | .date64 => some fun
    | .int n => .ok (.int (n * 1000))
    | v => .ok v
  | .int true 64 => some .ok
  | .string _ => some fun v => match Literal.timestamp? .micro (charsOf v) with
    | some (n, true) => .ok (.int n)
    | some (_, false) => .error (.offsetNeeded (cellText v) .timestamp)
    | none =>
      .error (if Literal.namesOffset (charsOf v) then .unreadable (cellText v) .timestamp
        else .offsetNeeded (cellText v) .timestamp)
  | _ => none

/-- Dates; of a time the day on the clock of its zone. -/
def toDate? : DataType → Option Conversion
  | .timestamp unit zone? => some fun
    | .int n => .ok (.int ((onClock unit zone? n).fdiv (86400 * unit.perSecond)))
    | v => .ok v
  | .date64 => some fun
    | .int n => .ok (.int (n.fdiv 86400000))
    | v => .ok v
  | .int true 32 => some .ok
  | .string _ => some (reading .date Literal.date? .int)
  | _ => none

/-! ## 5. Columns -/

/-- What is done with the cells of a type that are not null, if there is a cast. -/
def conversion? (target : Scalar) (source : DataType) : Option Conversion :=
  match source, target with
  | .null, _ => some .ok
  | .dictionary _ value, target => if value.stores? = some target then some .ok else none
  | source, .bool => toBool? source
  | source, .int32 => toInt? .int32 32 source
  | source, .int64 => toInt? .int64 64 source
  | _, .float => none
  | source, .double => toDouble? source
  | source, .numeric => toNumeric? source
  | source, .string => toText? source
  | source, .bytes => toBytes? source
  | source, .timestamp => toTimestamp? source
  | source, .date => toDate? source

/-- A cell after a conversion; null stays null. -/
def convertCell (f : Conversion) (v : Value) : Except CastFault Value :=
  if v.isNull then .ok .null else f v

/-- The cells of a column in the type of a scalar's columns, unless one of them cannot be
converted. -/
def convert (target : Scalar) (source : DataType) (cells : List Value) :
    Except CastFault (List Value) :=
  match conversion? target source with
  | none => .error (.unsupported source target)
  | some f => cells.mapM (convertCell f)

end Sluice.Arrow
