import Sluice.Json
import Sluice.Text.Upper
import Sluice.Value.Display

/-!
# The log

A run leaves a log of entries, each with a level, a message and named values. Which entries are
written, and whether as lines of text or as JSON objects, is a setting; a sink may stamp its name on
every entry that does not carry one.
-/

namespace Sluice.Log

/-- How serious an entry is. -/
inductive Level where
  | debug
  | info
  | warning
  | error
  | critical
  deriving DecidableEq, Repr, Inhabited

namespace Level

def rank : Level → Nat
  | .debug => 10
  | .info => 20
  | .warning => 30
  | .error => 40
  | .critical => 50

def name : Level → Text
  | .debug => "DEBUG"
  | .info => "INFO"
  | .warning => "WARNING"
  | .error => "ERROR"
  | .critical => "CRITICAL"

def all : List Level := [.debug, .info, .warning, .error, .critical]

/-- The level with a name. -/
def ofName? (name : Text) : Option Level := all.find? fun l => l.name == name

/-- The lowest level that is written when a level is asked for by name, in letters of either case;
an unknown name asks for `INFO`. The name of the standard layout of lines is known, but it names no
level. -/
def lowest? (name : Text) : Option Level :=
  let upper := Text.upper name
  if upper = Text.ofString "BASIC_FORMAT" then none
  else if upper = Text.ofString "WARN" ∨ upper = Text.ofString "NOTSET" then some .warning
  else if upper = Text.ofString "FATAL" then some .critical
  else some ((ofName? upper).getD .info)

end Level

/-- The name of the log; what is logged below it belongs to it. -/
def root : Text := "spannerload"

/-- Whether what is logged under a name belongs to the log. -/
def isOurs (name : Text) : Bool := name == root || (root ++ ".").isPrefixOf name

/-- An entry of the log. -/
structure Entry where
  level : Level
  message : Text
  members : List (Text × Value) := []
  deriving Repr, Inhabited

namespace Entry

/-- The value stored under a name. -/
def member? (e : Entry) (name : Text) : Option Value :=
  (e.members.find? fun (n, _) => n == name).map (·.2)

/-- The entry with the name of the sink, unless it has one. -/
def stamp (sink? : Option Text) (e : Entry) : Entry :=
  match sink?, e.member? "sink_name" with
  | some sink, none =>
    if sink.isEmpty then e
    else { e with members := e.members ++ [Value.entry "sink_name" (.text sink)] }
  | _, _ => e

/-- The kind of a context that holds no named values, so that the entry has no line. -/
def unlisted? (e : Entry) : Option Text :=
  (e.member? "context").bind fun v => if v.entries?.isSome then none else some v.kindName

private def shownMember (e : Entry) (label name : Text) : List Text :=
  match e.member? name with
  | some v => [label ++ .char '=' :: v.shown]
  | none => []

private def shownContext (e : Entry) : List Text :=
  match (e.member? "context").bind Value.entries? with
  | some es => es.map fun (k, v) => k.shown ++ .char '=' :: v.shown
  | none => []

/-- The entry as one line: its level in brackets, the sink, the table, the batch and the context as
far as they are known, and the message. -/
def line (e : Entry) : Text :=
  Text.join " "
    (("[" ++ e.level.name ++ "]") :: e.shownMember "sink" "sink_name" ++
      e.shownMember "table" "table" ++ e.shownMember "batch" "batch_id" ++ e.shownContext ++
      [e.message])

end Entry

/-- Which entries are written and how. -/
structure Settings where
  lowest : Level
  json : Bool
  sink? : Option Text
  deriving Repr, Inhabited

/-- An entry as it is written. -/
inductive Line where
  | text (t : Text)
  | json (members : List (Text × Value))
  deriving Repr

namespace Settings

/-- The line of an entry, if the entry is written. -/
def line? (s : Settings) (e : Entry) : Option Line :=
  if e.level.rank < s.lowest.rank then none
  else
    let e := e.stamp s.sink?
    if s.json then some (.json (e.members ++ [Value.entry "message" (.text e.message)]))
    else if e.unlisted?.isSome then none
    else some (.text e.line)

/-- The lines of a log. -/
def lines (s : Settings) (log : List Entry) : List Line := log.filterMap s.line?

end Settings

end Sluice.Log
