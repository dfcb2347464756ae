import Sluice.Config.Reader
import Sluice.Config.Template
import Sluice.Folder
import Sluice.Text.Utf8
import Sluice.Yaml.Value

/-!
# Configuration files

A configuration is loaded from a file: its bytes are decoded, the text is read as YAML, the
templates in the mapping are rendered, and the settings are checked. Each step may fail in its own
way (`Config.load`); when the settings are refused, what is wrong with them is kept beside the
failure.

Variables for templates come from the environment and from `name=value` pairs (`Variables.read`).
-/

namespace Sluice

/-! ## 1. Text files -/

namespace Folder

/-- The failure of a path that leads to no file. -/
def wrongKind (code description : Text) (kind path : Text) : Failure :=
  .outside kind ("[Errno " ++ code ++ "] " ++ description ++ ": " ++ Text.quoted (Path.normal path))

/-- Characters with every line end as a line feed. -/
def unifyLines : List Char → List Char
  | [] => []
  | '\r' :: '\n' :: rest => '\n' :: unifyLines rest
  | '\r' :: rest => '\n' :: unifyLines rest
  | c :: rest => c :: unifyLines rest

/-- A character that is cut off at the end of a file is reported from its own first byte. -/
def atEnd : Text.Utf8.Fault → Text.Utf8.Fault
  | .truncated _ length byte => .truncated 0 length byte
  | f => f

/-- The text of a file; nothing when there is none. -/
def text? (f : Folder) (path : Text) : Except Failure (Option (List Char)) :=
  match f.find path with
  | .nothing => .ok none
  | .folder => .error (wrongKind "21" "Is a directory" "IsADirectoryError" path)
  | .throughFile => .error (wrongKind "20" "Not a directory" "NotADirectoryError" path)
  | .file content =>
    match Text.Utf8.decode content with
    | .ok cs => .ok (some (unifyLines cs))
    | .error fault => .error (.outside "UnicodeDecodeError" (atEnd fault).message)

end Folder

/-! ## 2. Variables -/

namespace Variables

/-- A variable without a value. -/
structure Fault where
  given : Text
  deriving DecidableEq, Repr

/-- The wording of the fault. -/
def Fault.message (f : Fault) : Text :=
  "Invalid variable format: " ++ f.given ++ ". Use key=value"

/-- The option that variables are given with. -/
def option : Text := "--vars"

/-- Sets a variable; one that is there stays in its place. -/
def put (name value : Text) : List (Text × Text) → List (Text × Text)
  | [] => [(name, value)]
  | (n, v) :: rest => if n = name then (n, value) :: rest else (n, v) :: put name value rest

/-- Reads names and values; the value begins behind the first equals sign. -/
def readOnto (vars : List (Text × Text)) : List Text → Except Fault (List (Text × Text))
  | [] => .ok vars
  | t :: rest =>
    match t.splitFirst (.char '=') with
    | some (name, value) => readOnto (put name value vars) rest
    | none => .error ⟨t⟩

/-- The variables of a list of `name=value`. -/
def read (given : List Text) : Except Fault (List (Text × Text)) := readOnto [] given

end Variables

/-! ## 3. Loading -/

namespace Config

/-- Why a configuration cannot be loaded; `issues?` says what is wrong with its settings. -/
structure LoadFailure where
  failure : Failure
  issues? : Option (List Issue) := none
  deriving Repr

/-- A fault of the file at a path. -/
def fileFailure (path message : Text) : LoadFailure :=
  { failure := { kind := .configuration, message, context := [("path", .text path)] } }

/-- The mapping that a text holds. -/
def mappingOf (path : Text) (cs : List Char) : Except LoadFailure (List (Value × Value)) :=
  match Yaml.read cs with
  | .error .malformed => .error (fileFailure path "Invalid YAML in config file")
  | .error (.outside f) => .error { failure := f }
  | .ok (.mapping es) => .ok es
  | .ok _ => .error (fileFailure path "Config file must contain a YAML dictionary")

/-- The configuration of a mapping whose templates are rendered. -/
def ofRendered (path : Text) (es : List (Value × Value)) : Except LoadFailure Config :=
  match read es with
  | .ok c => .ok c
  | .error .unnamed => .error { failure := unnamedFailure }
  | .error (.issues is) =>
    .error { fileFailure path "Config validation failed" with issues? := some is }

/-- The configuration of a mapping: its templates are rendered before it is read. -/
def ofEntries (environment vars : List (Text × Text)) (path : Text) (es : List (Value × Value)) :
    Except LoadFailure Config :=
  match Template.render.renderEntries (Template.scopeOf (.mapping es) environment vars) es with
  | .error fault => .error { failure := fault.failure }
  | .ok rendered => ofRendered path rendered

/-- The configuration in a file. -/
def load (folder : Folder) (environment vars : List (Text × Text)) (path : Text) :
    Except LoadFailure Config :=
  match folder.text? path with
  | .error f => .error { failure := f }
  | .ok none => .error (fileFailure path ("Config file not found: " ++ path))
  | .ok (some cs) => do
    let es ← mappingOf path cs
    ofEntries environment vars path es

/-- The variables of the environment that a configuration file asks for. -/
def environmentNames (folder : Folder) (path : Text) : List Text :=
  match folder.text? path with
  | .ok (some cs) =>
    match mappingOf path cs with
    | .ok es => Template.environmentNames (.mapping es)
    | .error _ => []
  | _ => []

end Config

end Sluice
