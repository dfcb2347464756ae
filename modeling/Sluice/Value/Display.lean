import Sluice.Number.Shortest
import Sluice.Text.Quoted
import Sluice.Value

/-!
# Values for people to read

Every value has two texts: `quoted` shows its kind (texts between quotes, decimals and dates with
their names), `shown` is for running text, where texts, numbers and dates stand bare. Inside lists,
tuples and mappings everything is quoted. Whole numbers with very many digits are not shown
(`Value.holdsOverlong`).
-/

namespace Sluice

namespace Calendar

private def padded (width n : Nat) : Text := Text.padZeros width (Text.ofNat n)

/-- A date with dashes. -/
def dateText (d : Date) : Text :=
  padded 4 d.year ++ .char '-' :: padded 2 d.month ++ .char '-' :: padded 2 d.day

/-- An offset from UTC in hours and minutes, and seconds if there are some. -/
def offsetText (offset : Int) : Text :=
  let n := offset.natAbs
  (if offset < 0 then Symbol.char '-' else .char '+') :: padded 2 (n / 3600) ++
    .char ':' :: padded 2 (n / 60 % 60) ++
      (if n % 60 = 0 then [] else .char ':' :: padded 2 (n % 60))

/-- The time of day with colons, and microseconds if there are some. -/
def clockText (t : DateTime) : Text :=
  padded 2 t.hour ++ .char ':' :: padded 2 t.minute ++ .char ':' :: padded 2 t.second ++
    (if t.microsecond = 0 then [] else .char '.' :: padded 6 t.microsecond)

/-- A date and time in running text. -/
def dateTimeText (t : DateTime) : Text :=
  dateText t.date ++ .char ' ' :: clockText t ++
    (match t.offset with
      | none => []
      | some offset => offsetText offset)

private def joined (parts : List Nat) : Text := Text.join ", " (parts.map Text.ofNat)

/-- A date with its name. -/
def quotedDate (d : Date) : Text :=
  "datetime.date(" ++ joined [d.year, d.month, d.day] ++ ")"

/-- A span of seconds with its name, as whole days and seconds. -/
def quotedSpan (offset : Int) : Text :=
  let days := offset.fdiv 86400
  let seconds := (offset.fmod 86400).toNat
  let dayPart : List Text :=
    if days = 0 then [] else ["days=" ++ Text.ofInt days]
  let secondPart : List Text :=
    if seconds = 0 then [] else ["seconds=" ++ Text.ofNat seconds]
  let parts := dayPart ++ secondPart
  let inner : Text := if parts.isEmpty then "0" else Text.join ", " parts
  "datetime.timedelta(" ++ inner ++ ")"

/-- An offset with its name. -/
def quotedOffset (offset : Int) : Text :=
  if offset = 0 then "datetime.timezone.utc"
  else "datetime.timezone(" ++ quotedSpan offset ++ ")"

/-- A date and time with its name; seconds and microseconds only as far as they are not zero. -/
def quotedDateTime (t : DateTime) : Text :=
  let clock :=
    if t.microsecond ≠ 0 then [t.second, t.microsecond]
    else if t.second ≠ 0 then [t.second]
    else []
  "datetime.datetime(" ++
    joined ([t.date.year, t.date.month, t.date.day, t.hour, t.minute] ++ clock) ++
    (match t.offset with
      | none => []
      | some offset => ", tzinfo=" ++ quotedOffset offset) ++ ")"

end Calendar

namespace Value

/-- A real part of a complex number, whole ones without a point. -/
private def partText (x : Binary64) : Text :=
  ({ Number.shownFloat with wholeSuffix := [] } : Number.FloatNotation).write x

private def complexText (re im : Binary64) : Text :=
  if re.isZero && !re.negative then partText im ++ "j"
  else
    let sign : Text := if im.negative then [] else "+"
    "(" ++ partText re ++ sign ++ partText im ++ "j)"

/-- The text of a value that shows its kind. -/
def quoted : Value → Text
  | .null => "None"
  | .bool b => if b then "True" else "False"
  | .int n => Text.ofInt n
  | .float x => Number.shownFloat.write x
  | .decimal d => "Decimal('" ++ d.toText ++ "')"
  | .ratio n d => "Fraction(" ++ Text.ofInt n ++ ", " ++ Text.ofNat d ++ ")"
  | .complex re im => complexText re im
  | .text t => t.quoted
  | .bytes bs => Text.quotedBytes bs
  | .buffer bs => "bytearray(" ++ Text.quotedBytes bs ++ ")"
  | .view _ => "<memory at 0x700000000000>"
  | .dateTime t => Calendar.quotedDateTime t
  | .date d => Calendar.quotedDate d
  | .list xs => "[" ++ quotedItems xs ++ "]"
  | .tuple [x] => "(" ++ quoted x ++ ",)"
  | .tuple xs => "(" ++ quotedItems xs ++ ")"
  | .mapping es => "\x7b" ++ quotedEntries es ++ "\x7d"
  | .frozen es => "mappingproxy(\x7b" ++ quotedEntries es ++ "\x7d)"
  | .set [] => "set()"
  | .set xs => "\x7b" ++ quotedItems xs ++ "\x7d"
  | .foreign kind => "<" ++ kind ++ ">"
where
  /-- Items quoted and separated by commas. -/
  quotedItems : List Value → Text
    | [] => []
    | [x] => quoted x
    | x :: rest => quoted x ++ ", " ++ quotedItems rest
  /-- Entries quoted and separated by commas. -/
  quotedEntries : List (Value × Value) → Text
    | [] => []
    | [(k, v)] => quoted k ++ ": " ++ quoted v
    | (k, v) :: rest => quoted k ++ ": " ++ quoted v ++ ", " ++ quotedEntries rest

/-- The text of a value in running text. -/
def shown : Value → Text
  | .text t => t
  | .decimal d => d.toText
  | .ratio n d => if d = 1 then Text.ofInt n else Text.ofInt n ++ .char '/' :: Text.ofNat d
  | .dateTime t => Calendar.dateTimeText t
  | .date d => Calendar.dateText d
  | v => v.quoted

/-- The most digits of a whole number that is shown. -/
def mostDigits : Nat := 4300

/-- What is said of a number with more digits. -/
def digitsExceeded : Text :=
  "Exceeds the limit (" ++ Text.ofNat mostDigits ++ " digits) for integer string conversion"

/-- Where more digits are let through. -/
def digitsAdvice : Text := "; use sys.set_int_max_str_digits() to increase the limit"

/-- Whether a whole number has too many digits to be shown. -/
def isOverlong (n : Int) : Bool := Nat.pow 10 mostDigits ≤ n.natAbs

/-- Whether a value holds a whole number with too many digits to be shown. -/
def holdsOverlong : Value → Bool
  | .int n => isOverlong n
  | .ratio n d => isOverlong n || isOverlong d
  | .list xs => itemOverlong xs
  | .tuple xs => itemOverlong xs
  | .mapping es => entryOverlong es
  | .frozen es => entryOverlong es
  | .set xs => itemOverlong xs
  | _ => false
where
  /-- Whether one of several items holds such a number. -/
  itemOverlong : List Value → Bool
    | [] => false
    | x :: rest => holdsOverlong x || itemOverlong rest
  /-- Whether a key or a value of several entries holds such a number. -/
  entryOverlong : List (Value × Value) → Bool
    | [] => false
    | (k, v) :: rest => holdsOverlong k || holdsOverlong v || entryOverlong rest

end Value

end Sluice
