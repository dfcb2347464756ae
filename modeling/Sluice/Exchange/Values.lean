import Sluice.Json
import Sluice.Text.Quoted
import Sluice.Value.Key

/-!
# Values in exchange

The JSON form in which values are exchanged. Null, truth values, whole numbers, texts, lists and
mappings from names are written as they are; every other value is an object with one member, whose
name begins with a dollar sign and says what it is. Numbers with a point or an exponent are read as
the nearest doubles. A tag is read after what stands below it (`Exchange.tagged`).
-/

namespace Sluice.Exchange

/-! ## 1. Building JSON -/

def number (n : Int) : Json := .number (toString n).toList

def name (t : Text) : Json := .string t

/-- An object with the given members. -/
def object (members : List (Text × Json)) : Json := .object members

/-- A member of an object. -/
def entry (label : Text) (v : Json) : Text × Json := (label, v)

/-- A member that is there only sometimes. -/
def entry? (label : Text) (v? : Option Json) : List (Text × Json) := (v?.map (entry label)).toList

/-- An optional part, null when it is missing. -/
def orNull {α : Type} (f : α → Json) : Option α → Json
  | some a => f a
  | none => .null

/-- What is wanted, under the name `ok`. -/
def success (v : Json) : Json := object [entry "ok" v]

/-! ## 2. Writing values -/

/-- A text; one with a lone half is written by its code points. -/
def writeText (t : Text) : Json :=
  if t.isWellFormed then .string t
  else object [entry "$codepoints" (.array (t.map fun s => number s.code))]

private def hexBits (x : Binary64) : Json :=
  if x.isNaN then name "nan" else .string (Text.hex 16 x.toBits)

def writeFloat (x : Binary64) : Json := object [entry "$float" (hexBits x)]

private def hexBytes (bs : List UInt8) : Json := .string (bs.flatMap fun b => Text.hex 2 b.toNat)

private def writeTime (t : DateTime) : Json :=
  let parts : List Nat := [t.date.year, t.date.month, t.date.day, t.hour, t.minute, t.second,
    t.microsecond]
  .array (parts.map (fun (n : Nat) => number n) ++ [orNull number t.offset])

/-- Writes a value. -/
def write : Value → Json
  | .null => .null
  | .bool b => .bool b
  | .int n => number n
  | .float x => writeFloat x
  | .decimal d => object [entry "$decimal" (.string d.toText)]
  | .ratio n d => object [entry "$fraction" (.array [number n, number d])]
  | .complex re im => object [entry "$complex" (.array [hexBits re, hexBits im])]
  | .text t => writeText t
  | .bytes bs => object [entry "$bytes" (hexBytes bs)]
  | .buffer bs => object [entry "$bytes" (hexBytes bs)]
  | .view bs => object [entry "$memoryview" (hexBytes bs)]
  | .dateTime t => object [entry "$datetime" (writeTime t)]
  | .date d => object [entry "$date" (.array [number d.year, number d.month, number d.day])]
  | .list xs => .array (writeItems xs)
  | .tuple xs => object [entry "$tuple" (.array (writeItems xs))]
  | .mapping es => object [entry "$dict" (.array (writeEntries es))]
  | .frozen es => object [entry "$dict" (.array (writeEntries es))]
  | .set xs => object [entry "$set" (.array (writeItems xs))]
  | .foreign kind => object [entry "$object" (writeText kind)]
where
  /-- Writes items. -/
  writeItems : List Value → List Json
    | [] => []
    | x :: rest => write x :: writeItems rest
  /-- Writes entries as pairs. -/
  writeEntries : List (Value × Value) → List Json
    | [] => []
    | (k, v) :: rest => .array [write k, write v] :: writeEntries rest

/-- Named values as pairs. -/
def writeRow (row : List (Text × Value)) : Json :=
  .array (row.map fun (k, v) => .array [writeText k, write v])

/-! ## 3. Reading values -/

private def hexDigit (c : Char) : Nat :=
  if c.isDigit then c.toNat - 48 else if 'a' ≤ c then c.toNat - 87 else c.toNat - 55

private def hexNat (cs : List Char) : Nat := cs.foldl (fun n c => n * 16 + hexDigit c) 0

/-- The bytes of pairs of digits of base 16. -/
def readBytes : List Char → List UInt8
  | a :: b :: rest => (hexDigit a * 16 + hexDigit b).toUInt8 :: readBytes rest
  | _ => []

/-- The characters of a text value. -/
def charsOf : Value → List Char
  | .text t => t.chars?.getD []
  | _ => []

/-- The items of a list value. -/
def itemsOf : Value → List Value
  | .list xs => xs
  | _ => []

/-- The whole number of a value, 0 for other kinds. -/
def intOf : Value → Int
  | .int n => n
  | .bool b => if b then 1 else 0
  | _ => 0

private def floatOf (v : Value) : Binary64 :=
  let cs := charsOf v
  if cs = "nan".toList then .nan else .ofBits (hexNat cs)

private def ratioOf (n d : Int) : Value :=
  let g := Nat.gcd n.natAbs d.natAbs
  .ratio ((if d < 0 then -n else n) / g) (d.natAbs / g)

private def timeOf : List Value → Value
  | [y, mo, d, h, mi, s, us, offset] =>
    let part := fun v => (intOf v).toNat
    .dateTime ⟨⟨part y, part mo, part d⟩, part h, part mi, part s, part us,
      if offset.isNull then none else some (intOf offset)⟩
  | _ => .null

private def pairOf : Value → Option (Value × Value)
  | .list [k, v] => some (k, v)
  | _ => none

/-- The value that a tag and what stands below it mean; `none` for a name that is no tag. -/
def tagged (tag : Text) (v : Value) : Option Value :=
  match tag.toString? with
  | some "$float" => some (.float (floatOf v))
  | some "$bytes" => some (.bytes (readBytes (charsOf v)))
  | some "$bytearray" => some (.buffer (readBytes (charsOf v)))
  | some "$memoryview" => some (.view (readBytes (charsOf v)))
  | some "$decimal" => some (.decimal ((Decimal.ofChars? (charsOf v)).getD (.nan false false 0)))
  | some "$fraction" =>
    match itemsOf v with
    | [n, d] => some (ratioOf (intOf n) (intOf d))
    | _ => some .null
  | some "$datetime" => some (timeOf (itemsOf v))
  | some "$date" =>
    match itemsOf v with
    | [y, m, d] => some (.date ⟨(intOf y).toNat, (intOf m).toNat, (intOf d).toNat⟩)
    | _ => some .null
  | some "$tuple" => some (.tuple (itemsOf v))
  | some "$codepoints" =>
    some (.text ((itemsOf v).flatMap fun n => (Symbol.ofCode? (intOf n).toNat).toList))
  | some "$dict" => some (.mapping (Value.mappingOf ((itemsOf v).filterMap pairOf)))
  | some "$proxy" => some (.frozen (v.entries?.getD []))
  | some "$set" => some (.set (Value.distinct (itemsOf v)))
  | some "$complex" =>
    match itemsOf v with
    | [re, im] => some (.complex (floatOf re) (floatOf im))
    | _ => some .null
  | some "$object" =>
    match v with
    | .text kind => some (.foreign kind)
    | _ => some .null
  | _ => none

/-- A number: whole, or the nearest double. -/
def readNumber (lexeme : List Char) : Value :=
  match Json.integer? lexeme with
  | some n => .int n
  | none =>
    match Decimal.ofChars? lexeme with
    | some (.finite negative c e) => .float (.ofDecimal negative c e)
    | _ => .null

/-- The value of an object with the given members. -/
def readObject (members : List (Text × Value)) : Value :=
  let plain := Value.mapping (Value.mappingOf (members.map fun (k, v) => (.text k, v)))
  match members with
  | [(k, v)] => (tagged k v).getD plain
  | _ => plain

/-- Reads a value. -/
def read : Json → Value
  | .null => .null
  | .bool b => .bool b
  | .number lexeme => readNumber lexeme
  | .string t => .text t
  | .array items => .list (readItems items)
  | .object members => readObject (readMembers members)
where
  /-- Reads items. -/
  readItems : List Json → List Value
    | [] => []
    | j :: rest => read j :: readItems rest
  /-- Reads members. -/
  readMembers : List (Text × Json) → List (Text × Value)
    | [] => []
    | (k, j) :: rest => (k, read j) :: readMembers rest

end Sluice.Exchange
