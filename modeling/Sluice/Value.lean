import Sluice.Calendar
import Sluice.Number.Binary64
import Sluice.Number.Decimal

/-!
# Values

One type for everything a record may hold before it is checked and for everything a store is given
after it. The kinds of value are told apart by `kindName`, the word that error messages use.

Mappings keep the order of their entries and have no two equal keys; a look-up by text
(`Value.member?`) finds the entry whose key is that text and nothing else, since a text equals no
value of another kind.
-/

namespace Sluice

/-- A value of a record, raw or converted. -/
inductive Value where
  | null
  | bool (b : Bool)
  | int (n : Int)
  | float (x : Binary64)
  | decimal (d : Decimal)
  | ratio (num : Int) (den : Nat)
  | complex (re im : Binary64)
  | text (t : Text)
  | bytes (content : List UInt8)
  | buffer (content : List UInt8)
  | view (content : List UInt8)
  | dateTime (t : DateTime)
  | date (d : Date)
  | list (items : List Value)
  | tuple (items : List Value)
  | mapping (entries : List (Value × Value))
  | frozen (entries : List (Value × Value))
  | set (items : List Value)
  | foreign (kind : Text)
  deriving Repr, Inhabited

namespace Value

/-- The word for the kind of a value. -/
def kindName : Value → Text
  | .null => "NoneType"
  | .bool _ => "bool"
  | .int _ => "int"
  | .float _ => "float"
  | .decimal _ => "Decimal"
  | .ratio .. => "Fraction"
  | .complex .. => "complex"
  | .text _ => "str"
  | .bytes _ => "bytes"
  | .buffer _ => "bytearray"
  | .view _ => "memoryview"
  | .dateTime _ => "datetime"
  | .date _ => "date"
  | .list _ => "list"
  | .tuple _ => "tuple"
  | .mapping _ => "dict"
  | .frozen _ => "mappingproxy"
  | .set _ => "set"
  | .foreign kind => kind

def isNull : Value → Bool
  | .null => true
  | _ => false

/-- The entries of a mapping, read-only or not. -/
def entries? : Value → Option (List (Value × Value))
  | .mapping es => some es
  | .frozen es => some es
  | _ => none

/-- The value stored under a text. -/
def lookup (name : Text) : List (Value × Value) → Option Value
  | [] => none
  | (.text k, v) :: rest => if k = name then some v else lookup name rest
  | _ :: rest => lookup name rest

/-- The member of a mapping with a given name; other values have no members. -/
def member? (v : Value) (name : Text) : Option Value := v.entries?.bind (lookup name)

/-- A value under a name. -/
def entry (name : Text) (v : Value) : Text × Value := (name, v)

/-- A mapping from names. -/
def ofPairs (pairs : List (Text × Value)) : Value :=
  .mapping (pairs.map fun (k, v) => (.text k, v))

end Value

end Sluice
