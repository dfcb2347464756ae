import Sluice.Failure
import Sluice.Schema.Reader

/-!
# Types of Arrow columns

The types that columns of an Arrow table have, with their texts, and how they stand to the fields of
a schema. Every field has one type (`Field.toArrow`); a type is read as a field when it is one of
those that fields are made of, where several widths and encodings count as the same
(`Field.ofArrow`). `stores?` finds the scalar whose column type a type is exactly.
-/

namespace Sluice

namespace Arrow

/-- A unit of time. -/
inductive TimeUnit where
  | second
  | milli
  | micro
  | nano
  deriving DecidableEq, Repr

namespace TimeUnit

def name : TimeUnit → Text
  | .second => "s"
  | .milli => "ms"
  | .micro => "us"
  | .nano => "ns"

def all : List TimeUnit := [.second, .milli, .micro, .nano]

/-- How many digits behind the point of a second the unit has. -/
def places : TimeUnit → Nat
  | .second => 0
  | .milli => 3
  | .micro => 6
  | .nano => 9

/-- How many units a second has. -/
def perSecond (u : TimeUnit) : Nat := Nat.pow 10 u.places

end TimeUnit

/-- The type of a column. An item of a list and the members of a struct have a name and may be
nullable. Of types that no field is ever read as, the name alone is kept. -/
inductive DataType where
  | null
  | bool
  | int (signed : Bool) (bits : Nat)
  | float (bits : Nat)
  | decimal (bits precision : Nat) (scale : Int)
  | string (large : Bool)
  | binary (large : Bool)
  | fixedBinary (width : Nat)
  | timestamp (unit : TimeUnit) (zone? : Option Text)
  | date32
  | date64
  | time (bits : Nat) (unit : TimeUnit)
  | duration (unit : TimeUnit)
  | list (large : Bool) (name : Text) (item : DataType) (nullable : Bool)
  | struct (members : List (Text × DataType × Bool))
  | map (key value : DataType)
  | dictionary (index value : DataType)
  | other (name : Text)
  deriving Repr, Inhabited

/-- How many digits a decimal of the schema has in all, and how many behind the point. -/
def numericPrecision : Nat := 38

def numericScale : Nat := 9

/-- The zone of times in the schema. -/
def utc : Text := "UTC"

namespace DataType

private def large (isLarge : Bool) (t : Text) : Text := if isLarge then "large_" ++ t else t

private def floatName (bits : Nat) : Text :=
  if bits = 16 then "halffloat" else if bits = 32 then "float" else "double"

/-- What stands behind the type of a member that is not nullable. -/
private def nullability (nullable : Bool) : Text := if nullable then [] else " not null"

/-- The text of a type. -/
def text : DataType → Text
  | .null => "null"
  | .bool => "bool"
  | .int signed bits => (if signed then "int" else "uint") ++ Text.ofNat bits
  | .float bits => floatName bits
  | .decimal bits precision scale =>
    "decimal" ++ Text.ofNat bits ++ "(" ++ Text.ofNat precision ++ ", " ++ Text.ofInt scale ++ ")"
  | .string isLarge => large isLarge "string"
  | .binary isLarge => large isLarge "binary"
  | .fixedBinary width => "fixed_size_binary[" ++ Text.ofNat width ++ "]"
  | .timestamp unit none => "timestamp[" ++ unit.name ++ "]"
  | .timestamp unit (some zone) => "timestamp[" ++ unit.name ++ ", tz=" ++ zone ++ "]"
  | .date32 => "date32[day]"
  | .date64 => "date64[ms]"
  | .time bits unit => "time" ++ Text.ofNat bits ++ "[" ++ unit.name ++ "]"
  | .duration unit => "duration[" ++ unit.name ++ "]"
  | .list isLarge name item nullable =>
    large isLarge "list<" ++ name ++ ": " ++ item.text ++ nullability nullable ++ ">"
  | .struct members => "struct<" ++ membersText members ++ ">"
  | .map key value => "map<" ++ key.text ++ ", " ++ value.text ++ ">"
  | .dictionary index value =>
    "dictionary<values=" ++ value.text ++ ", indices=" ++ index.text ++ ", ordered=0>"
  | .other name => name
where
  /-- Members with their types, separated by commas. -/
  membersText : List (Text × DataType × Bool) → Text
    | [] => []
    | [(name, type, nullable)] => name ++ ": " ++ type.text ++ nullability nullable
    | (name, type, nullable) :: rest =>
      name ++ ": " ++ type.text ++ nullability nullable ++ ", " ++ membersText rest

/-- The scalar whose columns have exactly this type. -/
def stores? : DataType → Option Scalar
  | .bool => some .bool
  | .int true 32 => some .int32
  | .int true 64 => some .int64
  | .float 32 => some .float
  | .float 64 => some .double
  | .decimal 128 precision scale =>
    if precision = numericPrecision ∧ scale = numericScale then some .numeric else none
  | .string false => some .string
  | .binary false => some .bytes
  | .timestamp .micro (some zone) => if zone = utc then some .timestamp else none
  | .date32 => some .date
  | _ => none

/-- The scalar that values of a type are. -/
def scalar? : DataType → Option Scalar
  | .bool => some .bool
  | .int true bits => some (if bits ≤ 32 then .int32 else .int64)
  | .int false bits => some (if bits ≤ 16 then .int32 else .int64)
  | .float bits => some (if bits ≤ 32 then .float else .double)
  | .decimal .. => some .numeric
  | .string _ => some .string
  | .binary _ => some .bytes
  | .fixedBinary _ => some .bytes
  | .timestamp .. => some .timestamp
  | .date32 => some .date
  | .date64 => some .date
  | _ => none

end DataType

end Arrow

/-- The type of a scalar's columns. -/
def Scalar.toArrow : Scalar → Arrow.DataType
  | .bool => .bool
  | .int32 => .int true 32
  | .int64 => .int true 64
  | .float => .float 32
  | .double => .float 64
  | .numeric => .decimal 128 Arrow.numericPrecision Arrow.numericScale
  | .string => .string false
  | .bytes => .binary false
  | .timestamp => .timestamp .micro (some Arrow.utc)
  | .date => .date32

namespace Field

/-- The type of a field's columns; the item of a list is named `element`. -/
def toArrow : Field → Arrow.DataType
  | .scalar _ _ type .. => type.toArrow
  | .array _ _ element _ => .list false "element" element.toArrow element.nullable
  | .record _ _ members _ => .struct (membersToArrow members)
where
  /-- The members of a struct. -/
  membersToArrow : List Field → List (Text × Arrow.DataType × Bool)
    | [] => []
    | f :: rest => (f.name, f.toArrow, f.nullable) :: membersToArrow rest

/-- Why a type cannot be read as a field. -/
inductive Unreadable where
  | noType (field type : Text)
  | refused (is : List Issue)
  deriving Repr

/-- The failure of a type that no field has. -/
def noTypeFailure (field type : Text) : Failure :=
  .outside "ValueError" ("Unsupported Arrow type for field '" ++ field ++ "': " ++ type)

private def orRefused {α : Type} : Checked α → Except Unreadable α
  | .ok a => .ok a
  | .error is => .error (.refused is)

/-- The field that a type is read as. -/
def ofArrow (name : Text) (nullable : Bool) (type : Arrow.DataType) : Except Unreadable Field :=
  match type with
  | .list _ _ item itemNullable => do
    let element ← ofArrow "element" itemNullable item
    orRefused (assemble name nullable .array (some element) none)
  | .struct members => do
    let fields ← membersOfArrow members
    orRefused (assemble name nullable .record none (some fields))
  | type =>
    match type.scalar? with
    | some s => .ok (.ofScalar name nullable s)
    | none => .error (.noType name type.text)
where
  /-- The fields that the members of a struct are read as. -/
  membersOfArrow : List (Text × Arrow.DataType × Bool) → Except Unreadable (List Field)
    | [] => .ok []
    | (name, type, nullable) :: rest => do
      let f ← ofArrow name nullable type
      return f :: (← membersOfArrow rest)

end Field

namespace Schema

/-- The columns of a schema with their types. -/
def toArrow (s : Schema) : List (Text × Arrow.DataType × Bool) :=
  Field.toArrow.membersToArrow s.fields

/-- The schema that columns with their types are read as. -/
def ofArrow (columns : List (Text × Arrow.DataType × Bool)) : Except Field.Unreadable Schema := do
  let fields ← Field.ofArrow.membersOfArrow columns
  match ofFields fields with
  | .ok s => .ok s
  | .error is => .error (.refused is)

end Schema

/-! ## Laws -/

namespace Arrow.DataType

/-- A type stores a scalar exactly when it is the type of the scalar's columns. -/
theorem stores?_eq_some_iff {t : DataType} {s : Scalar} : t.stores? = some s ↔ t = s.toArrow := by
  constructor
  · intro h
    unfold stores? at h
    split at h <;> simp_all [Scalar.toArrow]
    all_goals obtain ⟨-, rfl⟩ := h; rfl
  · rintro rfl
    cases s <;> simp [Scalar.toArrow, stores?]

end Arrow.DataType

end Sluice
