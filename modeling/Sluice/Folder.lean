import Sluice.Text

/-!
# Paths and the files of a folder

A path is a text; its parts are the names between slashes, where empty names and single dots count
for nothing. A folder is given by its files, each with its path and its bytes; the folders below it
are those on the way to its files.
-/

namespace Sluice

namespace Path

/-- The names on a path. -/
def parts (path : Text) : List Text :=
  (path.splitAll (.char '/')).filter fun p => !p.isEmpty && p != Text.ofString "."

/-- Whether a path begins at the root. -/
def isAbsolute (path : Text) : Bool := path.head? == some (.char '/')

/-- The path without what counts for nothing; a dot stands for no names. -/
def normal (path : Text) : Text :=
  if isAbsolute path then .char '/' :: Text.join "/" (parts path)
  else if (parts path).isEmpty then "."
  else Text.join "/" (parts path)

/-- The last name on a path. -/
def fileName (path : Text) : Text := ((parts path).getLast?).getD []

/-- The last name from its last dot on. A dot at the very beginning or end of the name does not
count. -/
def suffix (path : Text) : Text :=
  let name := fileName path
  let tail := (name.reverse.takeWhile (· != .char '.')).reverse
  let stem := name.length - tail.length - 1
  if tail.length = name.length ∨ tail.isEmpty ∨ stem = 0 then [] else .char '.' :: tail

end Path

/-- What is found at a path. -/
inductive Found where
  | file (content : List UInt8)
  | folder
  | nothing
  | throughFile
  deriving DecidableEq, Repr

/-- The files of a folder. -/
structure Folder where
  files : List (Text × List UInt8) := []
  deriving Repr, Inhabited

namespace Folder

/-- What is found at a path. -/
def find (f : Folder) (path : Text) : Found :=
  let parts := Path.parts path
  let files := f.files.filter fun (p, _) => Path.isAbsolute p == Path.isAbsolute path
  match files.find? fun (p, _) => Path.parts p == parts with
  | some (_, content) => .file content
  | none =>
    if parts.isEmpty || files.any fun (p, _) => parts.isPrefixOf (Path.parts p) then .folder
    else if files.any fun (p, _) => (Path.parts p).isPrefixOf parts then .throughFile
    else .nothing

/-- Whether there is a file or a folder at a path. -/
def has (f : Folder) (path : Text) : Bool :=
  match f.find path with
  | .file _ => true
  | .folder => true
  | _ => false

end Folder

end Sluice
