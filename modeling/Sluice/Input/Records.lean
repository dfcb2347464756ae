import Sluice.Input.Csv
import Sluice.Input.Format
import Sluice.Input.JsonLines

/-!
# Records from files

An input file is read as a table in the format that is named or that the ending of its name stands
for. When a schema is given, the columns that it names are converted to the types of their fields,
and then the rows are records.
-/

namespace Sluice.Input

open Arrow

/-- The failure of a file that is not there. -/
def notFound (path : Text) : Failure :=
  { kind := .input, message := "Input file not found: " ++ path }

/-- The failure of a file that is not in its format. -/
def unreadable (format : Format) (path : Text) : Failure :=
  { kind := .input, message := "Failed to read " ++ format.name ++ " input"
    context := [("path", .text path)] }

/-- The table in the bytes of a file. Tables in the third format are not read from bytes. -/
def tableOf? (format : Format) (content : List UInt8) : Option Arrow.Table :=
  match format with
  | .jsonLines => JsonLines.read? content
  | .csv => Csv.read? content
  | .parquet => none

/-- The table in a file. -/
def readTable (folder : Folder) (named? : Option Text) (path : Text) :
    Except Failure Arrow.Table := do
  let format ← Format.choose named? path
  if !folder.has path then .error (notFound path)
  else match folder.find path with
    | .file content =>
      match tableOf? format content with
      | some t => .ok t
      | none => .error (unreadable format path)
    | _ => .error (unreadable format path)

/-- Records that have been read, and the entries of the log about them. -/
structure Reading where
  source : Source
  log : List Log.Entry

/-- The entry of the log about a table that has been read. -/
def readEntry (t : Arrow.Table) (path : Text) : Log.Entry :=
  { level := .debug
    message := "Read " ++ Text.ofNat t.height ++ " rows from " ++ path }

/-- The records of a table, converted for a schema if there is one. -/
def readingOf (t : Arrow.Table) (schema? : Option Schema) (path : Text) : Reading :=
  let (t, entries) := match schema? with
    | some s => t.align s
    | none => (t, [])
  ⟨t.toSource, entries ++ [readEntry t path]⟩

/-- The records in a file. -/
def readRecords (folder : Folder) (named? : Option Text) (path : Text) (schema? : Option Schema) :
    Except Failure Reading :=
  (readTable folder named? path).map fun t => readingOf t schema? path

end Sluice.Input
