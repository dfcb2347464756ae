import Sluice.Arrow.Table
import Sluice.Text.Utf8

/-!
# Tables from comma-separated values

A file of lines whose fields stand between commas is read as a table. The first line names the
columns; every further line must have as many fields. A field that begins with a quote goes on to
the next quote that is not doubled, whatever stands between. Empty lines count for nothing.

The type of a column is the first one of a fixed series that all its fields can be read as
(`Reading.series`). Fields that stand for a missing value are null in every column but those of
texts.
-/

namespace Sluice.Input.Csv

open Arrow

/-! ## 1. Fields -/

/-- The bytes of a field. -/
abbrev Field := List UInt8

/-- Where a byte stands: at the beginning of a field, inside one, or between quotes. -/
inductive Place where
  | start
  | bare
  | quoted
  deriving DecidableEq, Repr

/-- The line that ends, unless it is empty, and the lines behind it. -/
def endLine (place : Place) (field : Field) (line : List Field) (others : List (List Field)) :
    List (List Field) :=
  if place = .start ∧ line.isEmpty then others else (field.reverse :: line).reverse :: others

/-- Lines of fields; `field` and `line` hold, the last one first, what the open field and the open
line have so far. -/
def linesFrom : Place → Field → List Field → List UInt8 → List (List Field)
  | place, field, line, [] => endLine place field line []
  | .quoted, field, line, 34 :: 34 :: rest => linesFrom .quoted (34 :: field) line rest
  | .quoted, field, line, 34 :: rest => linesFrom .bare field line rest
  | .quoted, field, line, b :: rest => linesFrom .quoted (b :: field) line rest
  | .start, field, line, 34 :: rest => linesFrom .quoted field line rest
  | _, field, line, 44 :: rest => linesFrom .start [] (field.reverse :: line) rest
  | place, field, line, 13 :: 10 :: rest => endLine place field line (linesFrom .start [] [] rest)
  | place, field, line, 13 :: rest => endLine place field line (linesFrom .start [] [] rest)
  | place, field, line, 10 :: rest => endLine place field line (linesFrom .start [] [] rest)
  | _, field, line, b :: rest => linesFrom .bare (b :: field) line rest

/-- The mark of its encoding that a text may begin with. -/
def mark : List UInt8 := [0xEF, 0xBB, 0xBF]

/-- The lines of a file. -/
def lines (content : List UInt8) : List (List Field) :=
  linesFrom .start [] [] (if mark.isPrefixOf content then content.drop 3 else content)

/-! ## 2. Readings of columns -/

/-- The fields that stand for a missing value. -/
def missing : List String :=
  [ "", "#N/A", "#N/A N/A", "#NA", "-1.#IND", "-1.#QNAN", "-NaN", "-nan", "1.#IND", "1.#QNAN",
    "N/A", "NA", "NULL", "NaN", "n/a", "nan", "null" ]

/-- The characters of a field, each of which is one byte. -/
def charsOf (f : Field) : List Char := f.map fun b => Char.ofNat b.toNat

def isMissing (f : Field) : Bool := missing.any fun s => s.toList == charsOf f

private def isPad (c : Char) : Bool := c == ' ' || c == '\t'

/-- Characters without the blanks and tabs at their ends. -/
def trim (cs : List Char) : List Char := ((cs.dropWhile isPad).reverse.dropWhile isPad).reverse

/-- A way to read the fields of a column. -/
structure Reading where
  type : DataType
  nullable : Bool
  read? : Field → Option Value

namespace Reading

private def plain (type : DataType) (read? : List Char → Option Value) : Reading :=
  ⟨type, true, fun f => read? (charsOf f)⟩

private def time (unit : TimeUnit) (zoned : Bool) : Reading :=
  plain (.timestamp unit (if zoned then some utc else none)) fun cs =>
    match Literal.timestamp? unit cs with
    | some (n, hasOffset) => if hasOffset = zoned then some (.int n) else none
    | none => none

/-- Truth values as they may be written. -/
def bool? (cs : List Char) : Option Bool :=
  if (["1", "True", "TRUE", "true"].map String.toList).contains cs then some true
  else if (["0", "False", "FALSE", "false"].map String.toList).contains cs then some false
  else none

/-- The ways to read a column, in the order in which they are tried. -/
def series : List Reading :=
  [ plain .null fun _ => none,
    plain (.int true 64) fun cs => (Literal.int? 64 (trim cs)).map .int,
    plain .bool fun cs => (bool? cs).map .bool,
    plain .date32 fun cs => (Literal.date? (trim cs)).map .int,
    plain (.time 32 .second) fun cs => (Literal.timeOfDay? (trim cs)).map fun n => .int n,
    time .second false, time .nano false, time .second true, time .nano true,
    plain (.float 64) fun cs => (Literal.double? (trim cs)).map .float,
    ⟨.string false, false, fun f => (Text.ofUtf8? f).map .text⟩,
    ⟨.binary false, false, fun f => some (.bytes f)⟩ ]

/-- The cells of a column, if all its fields can be read. -/
def cells? (r : Reading) (fields : List Field) : Option (List Value) :=
  fields.mapM fun f => if r.nullable && isMissing f then some .null else r.read? f

end Reading

/-- The column of fields: the first reading of the series that fits. -/
def column (name : Text) (fields : List Field) : Column :=
  (Reading.series.findSome? fun r => (r.cells? fields).map fun cells => ⟨name, r.type, cells⟩).getD
    ⟨name, .null, []⟩

/-! ## 3. Files -/

/-- Columns taken from lines, one field of each at a time. -/
def columns : List Text → List (List Field) → List Column
  | [], _ => []
  | name :: rest, ls =>
    column name (ls.map fun l => l.head?.getD []) :: columns rest (ls.map List.tail)

/-- The table of a file; it has a line that names the columns. -/
def read? (content : List UInt8) : Option Arrow.Table :=
  match lines content with
  | [] => none
  | header :: body =>
    match header.mapM Text.ofUtf8? with
    | none => none
    | some names =>
      if body.all fun l => l.length == names.length then
        some ⟨columns names body, body.length⟩
      else none

end Sluice.Input.Csv
