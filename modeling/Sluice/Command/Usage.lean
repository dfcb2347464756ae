import Sluice.Config.File
import Sluice.Input.Format
import Sluice.Log
import Sluice.Text.Quoted
import Sluice.Text.Similar

/-!
# The command line

What the program can be asked for (`Command`) and how the arguments are read. Options may stand
anywhere behind the name of a command; two dashes end them. Unknown options and those without the
text that they need are reported first, then what was given, in the order in which it was given,
then what is missing, and last what is too much.
-/

namespace Sluice

/-- What is to be done with an input file. -/
structure Job where
  configPath : Text
  inputPath : Text
  format? : Option Text
  assignments : List Text
  level : Log.Level
  json : Bool
  deriving Repr

/-- What the program is asked for. -/
inductive Command where
  | help
  | version
  | stores
  | validate (configPath : Text) (assignments : List Text)
  | run (job : Job)
  | dryRun (job : Job)
  deriving Repr

namespace Command

/-! ## 1. Faults -/

/-- What is wrong with the arguments. -/
inductive Fault where
  | noArguments
  | noSuchCommand (given : Text)
  | noSuchOption (given : Text) (similar : List Text)
  | needsArgument (option : Text)
  | takesNoValue (option : Text)
  | notChoice (option given : Text) (choices : List Text)
  | noPath (argument given : Text)
  | missing (argument : Text)
  | extra (given : List Text)
  | variable (fault : Variables.Fault)
  deriving DecidableEq, Repr

/-- What may have been meant, in alphabetical order. -/
private def suggestion : List Text → Text
  | [] => []
  | [t] => " Did you mean " ++ t ++ "?"
  | ts => " (Possible options: " ++ Text.join ", " (ts.mergeSort fun a b => !Text.lt b a) ++ ")"

/-- The wording of a fault. -/
def Fault.message : Fault → Text
  | .noArguments => []
  | .noSuchCommand given => "No such command " ++ given.quoted ++ "."
  | .noSuchOption given similar => "No such option: " ++ given ++ suggestion similar
  | .needsArgument option => "Option " ++ option.quoted ++ " requires an argument."
  | .takesNoValue option => "Option " ++ option.quoted ++ " does not take a value."
  | .notChoice option given choices =>
    "Invalid value for '" ++ option ++ "': " ++ given.quoted ++ " is not one of " ++
      Text.join ", " (choices.map Text.quoted) ++ "."
  | .noPath argument given =>
    "Invalid value for '" ++ argument ++ "': Path " ++ given.quoted ++ " does not exist."
  | .missing argument => "Missing argument '" ++ argument ++ "'."
  | .extra [t] => "Got unexpected extra argument (" ++ t ++ ")"
  | .extra ts => "Got unexpected extra arguments (" ++ Text.join " " ts ++ ")"
  | .variable fault => "Invalid value for " ++ Variables.option ++ ": " ++ fault.message

/-! ## 2. Options -/

/-- What an option takes. -/
inductive Takes where
  | nothing
  | anything
  | oneOf (choices : List Text)
  deriving DecidableEq, Repr

/-- An option under its name. -/
structure Opt where
  name : Text
  takes : Takes
  deriving DecidableEq, Repr

def helpOption : Opt := ⟨"--help", .nothing⟩

def versionOption : Opt := ⟨"--version", .nothing⟩

def variablesOption : Opt := ⟨Variables.option, .anything⟩

/-- The formats in alphabetical order. -/
def formatNames : List Text := ["csv", "jsonl", "parquet"]

def formatOption : Opt := ⟨"--format", .oneOf formatNames⟩

def levelOption : Opt := ⟨"--log-level", .oneOf (Log.Level.all.map Log.Level.name)⟩

def jsonOption : Opt := ⟨"--json-logs", .nothing⟩

/-- What has been read: the options with their texts and the other arguments. -/
structure Given where
  options : List (Opt × Text) := []
  others : List Text := []
  deriving Repr

/-- Whether an argument is an option. -/
def isOption (t : Text) : Bool := t.head? == some (.char '-') && 1 < t.length

/-- The name of an option and the text behind an equals sign. -/
def splitOption (t : Text) : Text × Option Text :=
  match t.splitFirst (.char '=') with
  | some (name, value) => (name, some value)
  | none => (t, none)

/-- The fault of an option that is not known. -/
def unknown (known : List Opt) (t : Text) : Fault :=
  let (name, _) := splitOption t
  if t.take 2 = Text.ofString "--" then .noSuchOption name (Text.closeTo name (known.map Opt.name))
  else .noSuchOption (t.take 2) []

/-- Reads arguments. -/
def scan (known : List Opt) : List Text → Except Fault Given
  | [] => .ok {}
  | t :: rest =>
    if t = Text.ofString "--" then .ok { others := rest }
    else if isOption t then
      let (name, value?) := splitOption t
      match known.find? fun o => o.name == name, value? with
      | none, _ => .error (unknown known t)
      | some o, some value =>
        if o.takes = .nothing then .error (.takesNoValue name)
        else (scan known rest).map fun g => { g with options := (o, value) :: g.options }
      | some o, none =>
        if o.takes = .nothing then
          (scan known rest).map fun g => { g with options := (o, []) :: g.options }
        else match rest with
          | [] => .error (.needsArgument name)
          | value :: rest =>
            (scan known rest).map fun g => { g with options := (o, value) :: g.options }
    else (scan known rest).map fun g => { g with others := t :: g.others }

namespace Given

/-- The texts that an option was given with. -/
def texts (g : Given) (o : Opt) : List Text :=
  (g.options.filter fun (p, _) => p == o).map (·.2)

/-- The last text that an option was given with. -/
def text? (g : Given) (o : Opt) : Option Text := (g.texts o).getLast?

def has (g : Given) (o : Opt) : Bool := !(g.texts o).isEmpty

/-- The options in the order in which they were given first. -/
def order (g : Given) : List Opt :=
  g.options.foldl (fun os (o, _) => if os.contains o then os else os ++ [o]) []

/-- What is wrong with the text of an option. -/
def optionFault? (g : Given) (o : Opt) : Option Fault :=
  match o.takes, g.text? o with
  | .oneOf choices, some t =>
    if choices.contains t then none else some (.notChoice o.name t choices)
  | _, _ => none

/-- What is wrong with the arguments that have names, each of which is a path. -/
def pathFault? (exists_ : Text → Bool) : List Text → List Text → Option Fault
  | [], [] => none
  | [], extra => some (.extra extra)
  | name :: _, [] => some (.missing name)
  | name :: names, t :: rest =>
    if !t.isEmpty && exists_ t then pathFault? exists_ names rest else some (.noPath name t)

/-- The first fault of what has been read, when arguments with the given names are wanted. -/
def fault? (g : Given) (exists_ : Text → Bool) (names : List Text) : Option Fault :=
  (g.order.findSome? g.optionFault?).or (pathFault? exists_ names g.others)

end Given

/-! ## 3. Commands -/

/-- Reads the arguments of a command that wants paths. -/
def readGiven (exists_ : Text → Bool) (options : List Opt) (names args : List Text) :
    Except Fault Given := do
  let g ← scan (options ++ [helpOption]) args
  if g.has helpOption then .ok g
  else match g.fault? exists_ names with
    | some fault => .error fault
    | none => .ok g

/-- Reads the arguments of a command that works on an input file. -/
def readJob (exists_ : Text → Bool) (level : Log.Level) (make : Job → Command) (args : List Text) :
    Except Fault Command := do
  let options := [formatOption, variablesOption, levelOption, jsonOption]
  let g ← readGiven exists_ options ["CONFIG_PATH", "INPUT_PATH"] args
  if g.has helpOption then .ok .help
  else
    .ok (make
      { configPath := (g.others[0]?).getD [], inputPath := (g.others[1]?).getD []
        format? := g.text? formatOption, assignments := g.texts variablesOption
        level := ((g.text? levelOption).bind Log.Level.ofName?).getD level
        json := g.has jsonOption })

/-- Reads the arguments of the command that checks a configuration. -/
def readValidate (exists_ : Text → Bool) (args : List Text) : Except Fault Command := do
  let g ← readGiven exists_ [variablesOption] ["CONFIG_PATH"] args
  if g.has helpOption then .ok .help
  else .ok (.validate ((g.others.head?).getD []) (g.texts variablesOption))

/-- Reads the arguments of the command that lists stores. -/
def readStores (exists_ : Text → Bool) (args : List Text) : Except Fault Command := do
  let g ← readGiven exists_ [] [] args
  if g.has helpOption then .ok .help else .ok .stores

/-- Reads the name of a command and its arguments. -/
def readNamed (exists_ : Text → Bool) : List Text → Except Fault Command
  | [] => .error .noArguments
  | name :: args =>
    match (name.toString?).getD "" with
    | "run" => readJob exists_ .info .run args
    | "dry-run" => readJob exists_ .warning .dryRun args
    | "validate" => readValidate exists_ args
    | "list-stores" => readStores exists_ args
    | _ => .error (.noSuchCommand name)

/-- Reads all arguments: options of the program itself, of which the first one counts, and a
command. -/
def readFrom (exists_ : Text → Bool) (found? : Option Command) : List Text → Except Fault Command
  | [] => match found? with
    | some c => .ok c
    | none => .error .noArguments
  | t :: rest =>
    let last := fun args => match found? with
      | some c => .ok c
      | none => readNamed exists_ args
    if t = Text.ofString "--" then last rest
    else if isOption t then
      let (name, value?) := splitOption t
      let known := [versionOption, helpOption]
      if name = versionOption.name ∨ name = helpOption.name then
        if value?.isSome then .error (.takesNoValue name)
        else
          let found := if name = helpOption.name then Command.help else .version
          readFrom exists_ (found?.or (some found)) rest
      else .error (unknown known t)
    else last (t :: rest)

/-- Reads the arguments of the program; `exists_` says whether there is something at a path. -/
def read (exists_ : Text → Bool) (args : List Text) : Except Fault Command :=
  readFrom exists_ none args

end Command

end Sluice
