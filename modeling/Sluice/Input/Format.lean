import Sluice.Failure
import Sluice.Folder
import Sluice.Text.Lower

/-!
# Formats of input files

The three formats that records are read from, their names, and the endings of file names that stand
for them. A format that is not named is inferred from the ending of the file's name, in letters of
either case.
-/

namespace Sluice.Input

/-- A format of input files. -/
inductive Format where
  | jsonLines
  | parquet
  | csv
  deriving DecidableEq, Repr

namespace Format

def all : List Format := [.jsonLines, .parquet, .csv]

def name : Format → Text
  | .jsonLines => "jsonl"
  | .parquet => "parquet"
  | .csv => "csv"

/-- The endings of file names, in small letters. -/
def suffixes : Format → List Text
  | .jsonLines => [".jsonl", ".ndjson", ".json"]
  | .parquet => [".parquet", ".pq"]
  | .csv => [".csv"]

/-- The format with a name. -/
def ofName? (t : Text) : Option Format := all.find? fun f => f.name == t

/-- The failure of a path whose ending stands for no format; a path without an ending is named
whole. -/
def unknownSuffix (path suffix : Text) : Failure :=
  { kind := .input
    message := "Cannot infer input format from '" ++ (if suffix.isEmpty then path else suffix) ++
      "'"
    context := [("supported", .text (Text.join ", " (all.map name)))] }

/-- The format that the ending of a path stands for. -/
def infer (path : Text) : Except Failure Format :=
  let suffix := Text.lower (Path.suffix path)
  match all.find? fun f => f.suffixes.contains suffix with
  | some f => .ok f
  | none => .error (unknownSuffix path suffix)

/-- The format of a file: the one that is named, or else the one inferred. -/
def choose (named? : Option Text) (path : Text) : Except Failure Format :=
  let given := named?.getD []
  if given.isEmpty then infer path
  else match ofName? given with
    | some f => .ok f
    | none =>
      .error { kind := .input, message := "Unsupported input format: " ++ given }

end Format

end Sluice.Input
