import Sluice.Calendar
import Sluice.Failure
import Sluice.Number.Binary64
import Sluice.Number.Decimal
import Sluice.Text.Quoted
import Sluice.Value

/-!
# Kinds of YAML values

What kind of value a tag or the form of a plain scalar says, and the values of the kinds that have
forms of their own: truth values, whole numbers to several bases, numbers, dates and times. The form
decides the kind (`Kind.ofPlain`); a value is then read from the text alone, so a tag may ask for
a kind that the text has not the form of.
-/

namespace Sluice.Yaml

/-- The kinds of values. -/
inductive Kind where
  | null
  | bool
  | int
  | float
  | binary
  | timestamp
  | omap
  | pairs
  | set
  | str
  | seq
  | map
  | merge
  | value
  | other
  deriving DecidableEq, Repr

namespace Kind

/-- The kinds under their names. -/
def names : List (String × Kind) :=
  [ ("null", .null), ("bool", .bool), ("int", .int), ("float", .float), ("binary", .binary),
    ("timestamp", .timestamp), ("omap", .omap), ("pairs", .pairs), ("set", .set), ("str", .str),
    ("seq", .seq), ("map", .map) ]

/-- The kind of a tag. -/
def ofTag (tag : List Char) : Kind :=
  ((names.find? fun (n, _) => "tag:yaml.org,2002:".toList ++ n.toList == tag).map (·.2)).getD .other

end Kind

/-! ## 1. Forms -/

private def digitOr (c : Char) : Bool := c.isDigit || c == '_'

private def unsigned (cs : List Char) : List Char :=
  match cs with
  | '-' :: rest => rest
  | '+' :: rest => rest
  | cs => cs

/-- The words for truth values. -/
def boolWords : List (String × Bool) :=
  [ ("yes", true), ("Yes", true), ("YES", true), ("no", false), ("No", false), ("NO", false),
    ("true", true), ("True", true), ("TRUE", true), ("false", false), ("False", false),
    ("FALSE", false), ("on", true), ("On", true), ("ON", true), ("off", false), ("Off", false),
    ("OFF", false) ]

/-- One or two digits below sixty, several times, each behind a colon. -/
def isSixties : List Char → Bool
  | ':' :: a :: b :: rest =>
    if '0' ≤ a ∧ a ≤ '5' ∧ b.isDigit then rest.isEmpty || isSixties rest
    else a.isDigit && isSixties (b :: rest)
  | [':', a] => a.isDigit
  | _ => false

/-- The form of whole numbers. -/
def isInt (cs : List Char) : Bool :=
  match unsigned cs with
  | ['0'] => true
  | '0' :: 'b' :: rest => !rest.isEmpty && rest.all fun c => c == '0' || c == '1' || c == '_'
  | '0' :: 'x' :: rest =>
    !rest.isEmpty && rest.all fun c =>
      digitOr c || ('a' ≤ c && c ≤ 'f') || ('A' ≤ c && c ≤ 'F')
  | '0' :: rest => !rest.isEmpty && rest.all fun c => ('0' ≤ c && c ≤ '7') || c == '_'
  | c :: rest =>
    c.isDigit && (let tail := rest.dropWhile digitOr
      tail.isEmpty || isSixties tail)
  | [] => false

/-- An exponent with its sign, or nothing. -/
def isExponent : List Char → Bool
  | [] => true
  | e :: s :: rest =>
    (e == 'e' || e == 'E') && (s == '-' || s == '+') && !rest.isEmpty && rest.all Char.isDigit
  | _ => false

/-- Digits below sixty behind colons, and places behind a point. -/
def isSixtiesWithPoint (cs : List Char) : Bool :=
  let whole := cs.takeWhile (· != '.')
  let places := cs.drop whole.length
  isSixties whole && !places.isEmpty && places.tail.all digitOr

/-- The form of numbers with a point. -/
def isFloat (cs : List Char) : Bool :=
  match cs with
  | '.' :: rest =>
    let names := ["inf", "Inf", "INF", "nan", "NaN", "NAN"].map String.toList
    names.contains rest ||
      (match rest with
        | c :: _ => c.isDigit && isExponent (rest.dropWhile digitOr)
        | [] => false)
  | cs =>
    match unsigned cs with
    | '.' :: rest => (["inf", "Inf", "INF"].map String.toList).contains rest
    | c :: rest =>
      c.isDigit && (match rest.dropWhile digitOr with
        | '.' :: places => isExponent (places.dropWhile digitOr)
        | tail => isSixtiesWithPoint tail)
    | [] => false

/-- A time as it is written. -/
structure Stamp where
  year : Nat
  month : Nat
  day : Nat
  clock? : Option (Nat × Nat × Nat × List Char) := none
  offset? : Option Int := none
  deriving Repr

private def number (cs : List Char) : Nat := cs.foldl (fun n c => n * 10 + (c.toNat - 48)) 0

/-- At least `least` and at most `most` digits at the start. -/
def digits? (least most : Nat) (cs : List Char) : Option (Nat × List Char) :=
  let ds := (cs.take most).takeWhile Char.isDigit
  if ds.length < least then none else some (number ds, cs.drop ds.length)

private def literal? (c : Char) (cs : List Char) : Option (List Char) :=
  match cs with
  | x :: rest => if x == c then some rest else none
  | [] => none

private def isTab (c : Char) : Bool := c == ' ' || c == '\t'

/-- The offset at the end of a time: none, `Z`, or hours and minutes. -/
def offset? (cs : List Char) : Option (Option Int) :=
  match cs.dropWhile isTab with
  | [] => if cs.isEmpty then some none else none
  | ['Z'] => some (some 0)
  | s :: rest =>
    if s == '-' || s == '+' then
      (digits? 1 2 rest).bind fun (h, rest) =>
        let minutes? := match rest with
          | [] => some 0
          | ':' :: rest => match digits? 2 2 rest with
            | some (m, []) => some m
            | _ => none
          | _ => none
        minutes?.map fun m =>
          let seconds : Int := (h * 3600 + m * 60 : Nat)
          some (if s == '-' then -seconds else seconds)
    else none

/-- The clock and the offset behind a date. -/
def clock? (cs : List Char) : Option ((Nat × Nat × Nat × List Char) × Option Int) := do
  let cs ← match cs with
    | 'T' :: rest => some rest
    | 't' :: rest => some rest
    | c :: rest => if isTab c then some (rest.dropWhile isTab) else none
    | [] => none
  let (h, cs) ← digits? 1 2 cs
  let cs ← literal? ':' cs
  let (m, cs) ← digits? 2 2 cs
  let cs ← literal? ':' cs
  let (s, cs) ← digits? 2 2 cs
  let (places, cs) := match cs with
    | '.' :: rest => (rest.takeWhile Char.isDigit, rest.dropWhile Char.isDigit)
    | cs => ([], cs)
  let offset ← offset? cs
  return ((h, m, s, places), offset)

/-- A date alone, or a date and a clock. -/
def stamp? (cs : List Char) : Option Stamp := do
  let (year, rest) ← digits? 4 4 cs
  let rest ← literal? '-' rest
  let (month, rest) ← digits? 1 2 rest
  let rest ← literal? '-' rest
  let (day, rest) ← digits? 1 2 rest
  if rest.isEmpty then some { year, month, day }
  else
    let (clock, offset?) ← clock? rest
    some { year, month, day, clock? := some clock, offset? }

/-- The form of dates and times; a date alone has four and twice two digits. -/
def isStamp (cs : List Char) : Bool :=
  match stamp? cs with
  | some s => s.clock?.isSome || cs.length = 10
  | none => false

/-- The kind of a plain scalar. -/
def Kind.ofPlain (cs : List Char) : Kind :=
  if (boolWords.map fun (w, _) => w.toList).contains cs then .bool
  else if isFloat cs then .float
  else if isInt cs then .int
  else if cs = ['<', '<'] then .merge
  else if (["", "~", "null", "Null", "NULL"].map String.toList).contains cs then .null
  else if isStamp cs then .timestamp
  else if cs = ['='] then .value
  else .str

/-! ## 2. Values -/

/-- A failure that the form of a text forbids, so that only a tag leads to it. -/
def badLiteral (base : Nat) (cs : List Char) : Failure :=
  .outside "ValueError"
    ("invalid literal for int() with base " ++ Text.ofNat base ++ ": " ++
      Text.quoted (cs.map .char))

/-- The failure of a number with too many decimal digits. -/
def tooManyDigits (count : Nat) : Failure :=
  .outside "ValueError"
    (Value.digitsExceeded ++ ": value has " ++ Text.ofNat count ++ " digits" ++ Value.digitsAdvice)

private def digitOf? (base : Nat) (c : Char) : Option Nat :=
  let d := if c.isDigit then c.toNat - 48
    else if 'a' ≤ c ∧ c ≤ 'z' then c.toNat - 87
    else if 'A' ≤ c ∧ c ≤ 'Z' then c.toNat - 55
    else base
  if d < base then some d else none

/-- Digits to a base. -/
def digitsTo (base : Nat) (cs : List Char) : Except Failure Nat :=
  let count := (cs.takeWhile Char.isDigit).length
  if cs.isEmpty then .error (badLiteral base cs)
  else if base = 10 ∧ Value.mostDigits < count then .error (tooManyDigits count)
  else
    let n? := cs.foldl
      (fun n? c => n?.bind fun n => (digitOf? base c).map fun d => n * base + d) (some 0)
    match n? with
    | some n => .ok n
    | none => .error (badLiteral base cs)

private def splitColons (cs : List Char) : List (List Char) :=
  cs.foldr (fun c parts =>
    if c == ':' then [] :: parts
    else match parts with
      | p :: ps => (c :: p) :: ps
      | [] => [[c]]) [[]]

private def signOf (cs : List Char) : Bool × List Char :=
  match cs with
  | '-' :: rest => (true, rest)
  | '+' :: rest => (false, rest)
  | cs => (false, cs)

private def withoutUnderscores (cs : List Char) : List Char := cs.filter (· != '_')

/-- The failure of a number without a first digit. -/
def noDigit : Failure := .outside "IndexError" "string index out of range"

/-- A whole number. -/
def intValue (cs : List Char) : Except Failure Int := do
  let (negative, cs) := signOf (withoutUnderscores cs)
  let n ← match cs with
    | [] => .error noDigit
    | ['0'] => .ok 0
    | '0' :: 'b' :: rest => digitsTo 2 rest
    | '0' :: 'x' :: rest => digitsTo 16 rest
    | '0' :: rest => digitsTo 8 ('0' :: rest)
    | cs =>
      if cs.contains ':' then do
        let parts ← (splitColons cs).mapM (digitsTo 10)
        pure (parts.foldl (fun n d => n * 60 + d) 0)
      else digitsTo 10 cs
  return if negative then -(n : Int) else n

/-- A number without sign. -/
def plainFloat (cs : List Char) : Except Failure Binary64 :=
  match Decimal.ofChars? cs with
  | some (.finite negative c e) => .ok (.ofDecimal negative c e)
  | some (.infinite negative) => .ok (.infinity negative)
  | some (.nan ..) => .ok .nan
  | none =>
    .error (.outside "ValueError"
      ("could not convert string to float: " ++ Text.quoted (cs.map .char)))

/-- The sum of numbers, each counted sixty times the one before it. -/
def sixtyfold (sum weight : Binary64) : List Binary64 → Binary64
  | [] => sum
  | x :: rest => sixtyfold (sum + x * weight) (weight * .ofInt 60) rest

/-- A number. -/
def floatValue (cs : List Char) : Except Failure Binary64 := do
  let given := (withoutUnderscores cs).map Char.toLower
  let (negative, cs) := signOf given
  let x ← if given.isEmpty then .error noDigit
    else if cs = ".inf".toList then .ok (.infinity false)
    else if cs = ".nan".toList then .ok .nan
    else if cs.contains ':' then do
      let parts ← (splitColons cs).mapM plainFloat
      pure (sixtyfold .zero (.ofInt 1) parts.reverse)
    else plainFloat cs
  return if negative && !x.isNaN then -x else x

private def outOfRange (message : Text) : Failure := .outside "ValueError" message

/-- An offset must be less than a day. -/
def offsetFailure? (s : Stamp) : Option Failure :=
  s.offset?.bind fun seconds =>
    if seconds.natAbs < 86400 then none
    else some (outOfRange
      ("offset must be a timedelta strictly between -timedelta(hours=24) and " ++
        "timedelta(hours=24), not " ++ Calendar.quotedSpan seconds ++ "."))

/-- A date or a time. -/
def stampValue (s : Stamp) : Except Failure Value :=
  let date : Date := ⟨s.year, s.month, s.day⟩
  if let some f := offsetFailure? s then .error f
  else if s.year = 0 then .error (outOfRange "year 0 is out of range")
  else if s.month < 1 ∨ 12 < s.month then .error (outOfRange "month must be in 1..12")
  else if !date.isValid then .error (outOfRange "day is out of range for month")
  else match s.clock? with
    | none => .ok (.date date)
    | some (h, m, sec, places) =>
      if 23 < h then .error (outOfRange "hour must be in 0..23")
      else if 59 < m then .error (outOfRange "minute must be in 0..59")
      else if 59 < sec then .error (outOfRange "second must be in 0..59")
      else
        let six := places.take 6
        .ok (.dateTime
          ⟨date, h, m, sec, number (six ++ List.replicate (6 - six.length) '0'), s.offset?⟩)

end Sluice.Yaml
