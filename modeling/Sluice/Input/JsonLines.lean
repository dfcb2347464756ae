import Sluice.Arrow.Table
import Sluice.Json
import Sluice.Text.Utf8

/-!
# Tables from JSON Lines

A file of JSON objects, one behind the other, is read as a table with one row for each object. The
columns are the members in the order in which they are first seen; a missing member is null. The
type of a column is found from all its values together (`infer?`): numbers are whole unless one of
them is not, texts are times when all of them are, and lists and objects are looked into. Values of
different kinds do not make a column, nor does an object with a member given twice.
-/

namespace Sluice.Input.JsonLines

open Arrow

/-! ## 1. Kinds of values -/

/-- The kinds of values that make a column. -/
inductive Shape where
  | bool
  | number
  | text
  | list
  | object
  deriving DecidableEq, Repr

/-- The kind of a value, which null has not. -/
def shape? : Json → Option Shape
  | .null => none
  | .bool _ => some .bool
  | .number _ => some .number
  | .string _ => some .text
  | .array _ => some .list
  | .object _ => some .object

/-- The one kind of all values that are not null. -/
def commonShape? (vs : List Json) : Option (Option Shape) :=
  match vs.filterMap shape? with
  | [] => some none
  | s :: rest => if rest.all (· == s) then some (some s) else none

/-! ## 2. Columns without parts -/

private def lexeme? : Json → Option (List Char)
  | .number cs => some cs
  | _ => none

private def chars? : Json → Option (List Char)
  | .string t => t.chars?
  | _ => none

/-- The cells that the values are read as, null staying null. -/
def cells? (read? : Json → Option Value) (vs : List Json) : Option (List Value) :=
  vs.mapM fun v => match v with
    | .null => some .null
    | v => read? v

/-- Cells that hold nothing but truth values. -/
def boolCells (vs : List Json) : List Value :=
  vs.map fun v => match v with
    | .bool b => .bool b
    | _ => .null

/-- A column of numbers, whole ones if all of them are. -/
def numbers? (vs : List Json) : Option (DataType × List Value) :=
  match cells? (fun v => (lexeme? v).bind fun cs => (Literal.int? 64 cs).map .int) vs with
  | some cells => some (.int true 64, cells)
  | none =>
    (cells? (fun v => (lexeme? v).bind fun cs => (Literal.double? cs).map .float) vs).map
      fun cells => (.float 64, cells)

/-- A column of texts, or of times if all of them are. -/
def texts? (vs : List Json) : Option (DataType × List Value) :=
  let time? := fun v =>
    (chars? v).bind fun cs => (Literal.timestamp? .second cs).map fun (n, _) => Value.int n
  match cells? time? vs with
  | some cells => some (.timestamp .second none, cells)
  | none =>
    (cells? (fun v => (chars? v).map fun cs => .text (cs.map .char)) vs).map
      fun cells => (.string false, cells)

/-! ## 3. Columns with parts -/

private def itemsOf : Json → List Json
  | .array xs => xs
  | _ => []

private def membersOf : Json → List (Text × Json)
  | .object ms => ms
  | _ => []

/-- Gives every list among the values as many cells back as it has items. -/
def regroup : List Json → List Value → List Value
  | [], _ => []
  | .array xs :: rest, cells => .list (cells.take xs.length) :: regroup rest (cells.drop xs.length)
  | _ :: rest, cells => .null :: regroup rest cells

/-- The names of members in the order in which they are first seen. -/
def namesOf (vs : List Json) : List Text :=
  vs.foldl (fun names v => (membersOf v).foldl
    (fun names (name, _) => if names.contains name then names else names ++ [name]) names) []

/-- Whether an object has every member once. -/
def hasDistinctNames (v : Json) : Bool := (firstRepeated? ((membersOf v).map (·.1))).isNone

/-- What every value has under a name. -/
def under (name : Text) (vs : List Json) : List Json :=
  vs.map fun v => (v.member? name).getD .null

/-- Puts a member of the rows into the structs, null where there is no object. -/
def attach (name : Text) (cells : List Value) (structs : List (List (Value × Value))) :
    List (List (Value × Value)) :=
  (structs.zip cells).map fun (es, v) => es ++ [(.text name, v)]

mutual

/-- The type of a column and its cells, found from all its values. -/
def infer? : Nat → List Json → Option (DataType × List Value)
  | 0, _ => none
  | fuel + 1, vs =>
    match commonShape? vs with
    | none => none
    | some none => some (.null, vs.map fun _ => .null)
    | some (some .bool) => some (.bool, boolCells vs)
    | some (some .number) => numbers? vs
    | some (some .text) => texts? vs
    | some (some .list) =>
      (infer? fuel (vs.flatMap itemsOf)).map fun (type, cells) =>
        (.list false "item" type true, regroup vs cells)
    | some (some .object) =>
      if vs.all hasDistinctNames then
        (inferMembers? fuel vs (namesOf vs)).map fun columns =>
          let structs := columns.foldl (fun es c => attach c.name c.cells es) (vs.map fun _ => [])
          let cells := (vs.zip structs).map fun (v, es) => match v with
            | .null => Value.null
            | _ => .mapping es
          (.struct (columns.map fun c => (c.name, c.type, true)), cells)
      else none

/-- The columns of members with the given names. -/
def inferMembers? : Nat → List Json → List Text → Option (List Column)
  | 0, _, _ => none
  | _ + 1, _, [] => some []
  | fuel + 1, vs, name :: rest =>
    match infer? fuel (under name vs), inferMembers? fuel vs rest with
    | some (type, cells), some columns => some (⟨name, type, cells⟩ :: columns)
    | _, _ => none

end

/-! ## 4. Files -/

/-- The values of a text that stand one behind the other. -/
def values? : Nat → List Char → Option (List Json)
  | 0, _ => none
  | fuel + 1, cs =>
    let cs := Json.skipBlanks cs
    if cs.isEmpty then some []
    else (Json.valueAt? cs).bind fun (v, rest) => (values? fuel rest).map (v :: ·)

private def isObject : Json → Bool
  | .object _ => true
  | _ => false

mutual

/-- Whether a value holds whole characters only. -/
def isWellFormed : Json → Bool
  | .string t => t.isWellFormed
  | .array xs => itemsWellFormed xs
  | .object ms => membersWellFormed ms
  | _ => true

/-- Whether items hold whole characters only. -/
def itemsWellFormed : List Json → Bool
  | [] => true
  | v :: rest => isWellFormed v && itemsWellFormed rest

/-- Whether members hold whole characters only. -/
def membersWellFormed : List (Text × Json) → Bool
  | [] => true
  | (name, v) :: rest => name.isWellFormed && isWellFormed v && membersWellFormed rest

end

/-- The table of objects. -/
def ofObjects? (fuel : Nat) (vs : List Json) : Option Arrow.Table :=
  if vs.all isObject && vs.all hasDistinctNames && itemsWellFormed vs then
    (inferMembers? fuel vs (namesOf vs)).map fun columns => ⟨columns, vs.length⟩
  else none

/-- The table of a file, which must not be empty. -/
def read? (content : List UInt8) : Option Arrow.Table :=
  match content, Text.Utf8.decode content with
  | [], _ => none
  | _, .error _ => none
  | _, .ok cs => (values? (cs.length + 1) cs).bind (ofObjects? (2 * cs.length + 2))

end Sluice.Input.JsonLines
