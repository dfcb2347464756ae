import Sluice.Command.Outcome
import Sluice.Exchange.Reports

/-!
# Outcomes in exchange

The JSON form of what a command printed and how it ended. A line of text that holds line breaks
counts as several. Messages that end in the words of another library are cut short there, and with
them everything that follows on the same stream (`cut`).
-/

namespace Sluice.Exchange

/-! ## 1. Streams -/

/-- The phrases after which a message goes on in words of another library. -/
def lastPhrases : List Text :=
  [ "Config validation failed", "Invalid YAML in config file", "Failed to read jsonl input",
    "Failed to read parquet input", "Failed to read csv input" ]

/-- The text up to the end of the first of these phrases, if it holds one. -/
def upToPhrase? : Text → Option Text
  | [] => none
  | c :: rest =>
    match lastPhrases.find? fun p => p.isPrefixOf (c :: rest) with
    | some p => some p
    | none => (upToPhrase? rest).map (c :: ·)

/-- The lines of a stream, the breaks inside lines included. -/
def singleLines (ls : List Log.Line) : List Log.Line :=
  ls.flatMap fun
    | .text t => (Text.splitAll (.char '\n') t).map .text
    | l => [l]

/-- The lines up to the end of the first phrase that is followed by words of another library. -/
def cut : List Log.Line → List Log.Line
  | [] => []
  | .text t :: rest =>
    match upToPhrase? t with
    | some kept => [.text kept]
    | none => .text t :: cut rest
  | l :: rest => l :: cut rest

/-- A stream. -/
def stream (ls : List Log.Line) : Json := .array ((cut (singleLines ls)).map line)

/-! ## 2. Outcomes -/

/-- The calls that a store made its client, if it made any. -/
def calls : Option (Backend Sql.Script Cloud.Script) → List (Text × Json)
  | some (.database d) => listed "duckdb_calls" (d.client.calls.map sqlCall)
  | some (.cloud d) => listed "spanner_calls" (d.client.calls.map cloudCall)
  | _ => []
where
  /-- A list that is left out when it is empty. -/
  listed (label : Text) (js : List Json) : List (Text × Json) :=
    if js.isEmpty then [] else [entry label (.array js)]

/-- How a command went. -/
def command (o : Outcome Sql.Script Cloud.Script) : Json :=
  object ([entry "exit_code" (number o.code), entry "stdout" (stream o.stdout),
    entry "stderr" (stream (o.stderr.map .text))] ++
    entry? "exception" (o.uncaught?.map loadFailure) ++ calls o.backend?)

end Sluice.Exchange
