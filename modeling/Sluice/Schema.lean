import Sluice.Text

/-!
# Schemas

The columns of a table. A field is a scalar, an array of a described element or a record of named
members, so an array never lacks its element. Descriptions may also carry an element or members
that their type has no use for; they are kept (`spareElement?`, `spareMembers?`) and nothing
depends on them.

A schema that has been accepted is `WellFormed`: it has columns, records at every depth have
members, and names at one level are distinct.
-/

namespace Sluice

/-- The types without parts. -/
inductive Scalar where
  | bool
  | int32
  | int64
  | float
  | double
  | numeric
  | string
  | bytes
  | timestamp
  | date
  deriving DecidableEq, Repr

/-- The name of a scalar type. -/
def Scalar.name : Scalar → Text
  | .bool => "BOOL"
  | .int32 => "INT32"
  | .int64 => "INT64"
  | .float => "FLOAT"
  | .double => "DOUBLE"
  | .numeric => "NUMERIC"
  | .string => "STRING"
  | .bytes => "BYTES"
  | .timestamp => "TIMESTAMP"
  | .date => "DATE"

/-- A column, an array element or a record member. -/
inductive Field where
  | scalar (name : Text) (nullable : Bool) (type : Scalar)
      (spareElement? : Option Field) (spareMembers? : Option (List Field))
  | array (name : Text) (nullable : Bool) (element : Field) (spareMembers? : Option (List Field))
  | record (name : Text) (nullable : Bool) (members : List Field) (spareElement? : Option Field)
  deriving Repr

namespace Field

instance : Inhabited Field := ⟨.scalar [] true .bool none none⟩

def name : Field → Text
  | .scalar name .. => name
  | .array name .. => name
  | .record name .. => name

def nullable : Field → Bool
  | .scalar _ nullable .. => nullable
  | .array _ nullable .. => nullable
  | .record _ nullable .. => nullable

/-- The type as it is written in a configuration. -/
def typeName : Field → Text
  | .scalar _ _ type .. => type.name
  | .array _ _ element _ => "ARRAY<" ++ element.typeName ++ ">"
  | .record .. => "RECORD"

/-- The word for the type, without the element of an array. -/
def typeWord : Field → Text
  | .scalar _ _ type .. => type.name
  | .array .. => "ARRAY"
  | .record .. => "RECORD"

/-- The description of an element, needed or not. -/
def element? : Field → Option Field
  | .scalar _ _ _ element? _ => element?
  | .array _ _ element _ => some element
  | .record _ _ _ element? => element?

/-- The descriptions of members, needed or not. -/
def members? : Field → Option (List Field)
  | .scalar _ _ _ _ members? => members?
  | .array _ _ _ members? => members?
  | .record _ _ members _ => some members

/-- A scalar field and nothing else. -/
def ofScalar (name : Text) (nullable : Bool) (type : Scalar) : Field :=
  .scalar name nullable type none none

/-- Records at every depth have members with distinct names. -/
def isWellFormed : Field → Bool
  | .scalar .. => true
  | .array _ _ element _ => element.isWellFormed
  | .record _ _ members _ =>
    !members.isEmpty && decide (members.map name).Nodup && allWellFormed members
where
  /-- Every field of a list is well-formed. -/
  allWellFormed : List Field → Bool
    | [] => true
    | f :: rest => f.isWellFormed && allWellFormed rest

end Field

/-- The first name that occurs a second time. -/
def firstRepeated? : List Text → Option Text
  | names => go [] names
where
  /-- The first name that is among those seen or occurs a second time. -/
  go (seen : List Text) : List Text → Option Text
    | [] => none
    | name :: rest => if seen.contains name then some name else go (name :: seen) rest

/-- The columns of a table in order. -/
structure Schema where
  fields : List Field
  deriving Repr, Inhabited

namespace Schema

/-- The column with a name. -/
def field? (s : Schema) (name : Text) : Option Field := s.fields.find? fun f => f.name == name

def names (s : Schema) : List Text := s.fields.map Field.name

/-- There are columns, their names are distinct and they are well-formed. -/
def isWellFormed (s : Schema) : Bool :=
  !s.fields.isEmpty && decide s.names.Nodup && Field.isWellFormed.allWellFormed s.fields

end Schema

end Sluice
