import Sluice.Arrow.Type
import Sluice.Calendar
import Sluice.Number.Binary64
import Sluice.Number.Decimal

/-!
# Texts that are read as values of columns

Whole numbers in decimal or hexadecimal digits, doubles, decimals, truth values, dates and times as
they may stand in an input file. Nothing may surround them, not even blanks. Dates and times are
counted from the start of 1970, dates in days and times in a unit of time; a time says whether it
names an offset from UTC, which is then taken into account.
-/

namespace Sluice.Arrow.Literal

/-! ## 1. Numbers -/

private def digitsValue (cs : List Char) : Nat := cs.foldl (fun n c => n * 10 + (c.toNat - 48)) 0

private def hexDigit? (c : Char) : Option Nat :=
  if c.isDigit then some (c.toNat - 48)
  else if 'a' ≤ c ∧ c ≤ 'f' then some (c.toNat - 87)
  else if 'A' ≤ c ∧ c ≤ 'F' then some (c.toNat - 55)
  else none

/-- The whole number of so many bits whose bits are given by hexadecimal digits. -/
def hex? (bits : Nat) (cs : List Char) : Option Int :=
  if cs.isEmpty || bits < 4 * cs.length then none
  else
    let n? := cs.foldl (fun n? c => n?.bind fun n => (hexDigit? c).map fun d => n * 16 + d)
      (some (0 : Nat))
    n?.map fun n => if Nat.pow 2 (bits - 1) ≤ n then (n : Int) - (Nat.pow 2 bits : Nat) else n

/-- A whole number of so many bits: digits behind an optional minus sign, or hexadecimal digits
behind `0x`. -/
def int? (bits : Nat) (cs : List Char) : Option Int :=
  match cs with
  | '0' :: 'x' :: d :: rest => hex? bits (d :: rest)
  | '0' :: 'X' :: d :: rest => hex? bits (d :: rest)
  | '-' :: ds =>
    if !ds.isEmpty && ds.all Char.isDigit && digitsValue ds ≤ Nat.pow 2 (bits - 1) then
      some (-(digitsValue ds : Int))
    else none
  | ds =>
    if !ds.isEmpty && ds.all Char.isDigit && digitsValue ds < Nat.pow 2 (bits - 1) then
      some (digitsValue ds)
    else none

/-- A finite decimal: a sign, digits around a point, and an exponent, each but the digits
optional. -/
def decimal? (cs : List Char) : Option Decimal :=
  match Decimal.ofChars? cs with
  | some (.finite negative c e) => some (.finite negative c e)
  | _ => none

/-- A double: the nearest one to a decimal without a plus sign in front, or the name of infinity or
of what is not a number. -/
def double? (cs : List Char) : Option Binary64 :=
  if cs.head? == some '+' then none
  else match Decimal.ofChars? cs with
    | some (.finite negative c e) => some (.ofDecimal negative c e)
    | some (.infinite negative) => some (.infinity negative)
    | some (.nan false _ 0) => some .nan
    | _ => none

/-- A truth value: `true` or `false` in letters of either case, or a digit. -/
def bool? (cs : List Char) : Option Bool :=
  let lower := cs.map Char.toLower
  if lower = "true".toList ∨ cs = ['1'] then some true
  else if lower = "false".toList ∨ cs = ['0'] then some false
  else none

/-! ## 2. Dates and times -/

/-- The day number of the first day of 1970. -/
def epoch : Int := 719163

/-- A number of as many digits as are there, at most `most`. -/
def capped? (most : Nat) (cs : List Char) : Option Nat :=
  if cs.all Char.isDigit ∧ digitsValue cs ≤ most then some (digitsValue cs) else none

/-- The days of a date with dashes. -/
def date? (cs : List Char) : Option Int :=
  match cs with
  | [y1, y2, y3, y4, '-', m1, m2, '-', d1, d2] => do
    let date : Date :=
      ⟨← capped? 9999 [y1, y2, y3, y4], ← capped? 12 [m1, m2], ← capped? 31 [d1, d2]⟩
    if date.isValid then some ((date.ordinal : Int) - epoch) else none
  | _ => none

/-- The seconds of an hour, an hour and minutes, or hours, minutes and seconds. -/
def clock? (cs : List Char) : Option Nat :=
  match cs with
  | [h1, h2] => do return (← capped? 23 [h1, h2]) * 3600
  | [h1, h2, ':', m1, m2] => do
    return (← capped? 23 [h1, h2]) * 3600 + (← capped? 59 [m1, m2]) * 60
  | [h1, h2, ':', m1, m2, ':', s1, s2] => do
    return (← capped? 23 [h1, h2]) * 3600 + (← capped? 59 [m1, m2]) * 60 + (← capped? 59 [s1, s2])
  | _ => none

/-- The seconds of a time of day with minutes at least. -/
def timeOfDay? (cs : List Char) : Option Nat := if cs.length < 5 then none else clock? cs

/-- The seconds of an offset behind its sign. -/
def offsetBody? (cs : List Char) : Option Int :=
  match cs with
  | [h1, h2] => (clock? [h1, h2]).map Int.ofNat
  | [h1, h2, m1, m2] => (clock? [h1, h2, ':', m1, m2]).map Int.ofNat
  | [h1, h2, ':', m1, m2] => (clock? [h1, h2, ':', m1, m2]).map Int.ofNat
  | _ => none

/-- A clock without the offset at its end, and the offset in seconds if there is one; nothing when
what should be an offset is none. -/
def splitOffset? (cs : List Char) : Option (List Char × Option Int) :=
  let signAt := fun (n : Nat) =>
    match (cs.drop (cs.length - n)).head? with
    | some c => n ≤ cs.length && (c == '+' || c == '-')
    | none => false
  let cut := fun (n : Nat) =>
    let tail := cs.drop (cs.length - n)
    (offsetBody? tail.tail).map fun seconds =>
      (cs.take (cs.length - n), some (if tail.head? == some '-' then -seconds else seconds))
  if cs.getLast? == some 'Z' then some (cs.dropLast, some 0)
  else if signAt 3 then cut 3
  else if signAt 5 then cut 5
  else if signAt 6 && (cs.drop (cs.length - 3)).head? == some ':' then cut 6
  else some (cs, none)

/-- The units of digits behind the point of a second; there may not be more than the unit has. -/
def fraction? (unit : TimeUnit) (cs : List Char) : Option Nat :=
  if cs.isEmpty || unit.places < cs.length || !cs.all Char.isDigit then none
  else some (digitsValue cs * Nat.pow 10 (unit.places - cs.length))

/-- The units of a clock that may have a fraction. -/
def preciseClock? (unit : TimeUnit) (cs : List Char) : Option Nat :=
  match cs.drop 8 with
  | [] => (clock? cs).map (· * unit.perSecond)
  | '.' :: places => do
    return (← clock? (cs.take 8)) * unit.perSecond + (← fraction? unit places)
  | _ => none

/-- The units of a date or of a date and a time, and whether an offset is named. -/
def timestamp? (unit : TimeUnit) (cs : List Char) : Option (Int × Bool) := do
  let days ← date? (cs.take 10)
  let midnight := days * 86400 * unit.perSecond
  match cs.drop 10 with
  | [] => some (midnight, false)
  | separator :: rest =>
    if separator == ' ' || separator == 'T' then
      let (clock, offset?) ← splitOffset? rest
      let units ← preciseClock? unit clock
      some (midnight + units - offset?.getD 0 * unit.perSecond, offset?.isSome)
    else none

/-- Whether behind a date and a separator something ends with an offset. -/
def namesOffset (cs : List Char) : Bool :=
  match date? (cs.take 10), cs.drop 10 with
  | some _, separator :: rest =>
    (separator == ' ' || separator == 'T') &&
      ((splitOffset? rest).bind fun (_, offset?) => offset?).isSome
  | _, _ => false

end Sluice.Arrow.Literal
