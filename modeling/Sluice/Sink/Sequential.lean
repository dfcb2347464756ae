import Sluice.Sink

/-!
# Writing in sequence

One worker takes the records in order and commits every batch as soon as it is sealed; the rest is
committed at the end. A record that stops the run is preceded by a commit of what has been accepted
before it; what is open when the run is stopped otherwise is dropped. Either way the account of what
has been done is kept (`SinkResult`), and the sink's metrics are those of all its runs.
-/

namespace Sluice.Sequential

variable {σ : Type}

/-- Takes the record at a position and commits what that seals. -/
def take (config : Config) (transformer : Transformer) (store : Store σ) (w : Worker)
    (index : Nat) (record : Value) (s : Session σ) : Option Stop × Worker × Session σ :=
  match w.accept config transformer index record s with
  | (.sealed batch?, w, s) => w.commit? config store batch? s
  | (.halted h, w, s) => (some (.outside h.failure), w, s)
  | (.refused r, w, s) =>
    match config.onRecordError with
    | .skip => (none, w, s)
    | .fail =>
      let (batch?, w) := w.flush
      match w.commit? config store batch? s with
      | (none, w, s) => (some (.record index r), w, s)
      | (some stop, w, s) => (some stop, w, s)

/-- Takes records from a position on, until the run is stopped or they are at their end. -/
def takeAll (config : Config) (transformer : Transformer) (store : Store σ) :
    Nat → List Value → Worker → Session σ → Option Stop × Worker × Session σ
  | _, [], w, s => (none, w, s)
  | index, record :: rest, w, s =>
    match take config transformer store w index record s with
    | (none, w, s) => takeAll config transformer store (index + 1) rest w s
    | (some stop, w, s) => (some stop, w, s)

/-- Takes all records of a source and commits the rest. -/
def drain (config : Config) (transformer : Transformer) (store : Store σ) (source : Source)
    (w : Worker) (s : Session σ) : Option Stop × Worker × Session σ :=
  match takeAll config transformer store 0 source.records w s with
  | (some stop, w, s) => (some stop, w, s)
  | (none, w, s) =>
    match source.failure? with
    | some f => (some (.outside f), w, s)
    | none =>
      let (batch?, w) := w.flush
      w.commit? config store batch? s

end Sluice.Sequential

namespace Sluice.Sink

variable {σ : Type}

/-- Writes the records of a source in sequence. -/
def write (store : Store σ) (sink : Sink σ) (source : Source) : Option Stop × SinkResult × Sink σ :=
  let w := Worker.start sink.config "batch" sink.session.clock
  let (stop?, w, s) := Sequential.drain sink.config sink.transformer store source w sink.session
  let (w, s) := if stop?.isSome then w.discard sink.config s else (w, s)
  let metrics := (sink.metrics.merge w.metrics).finish s.clock
  (stop?, { w.result with metrics? := some metrics }, { sink with session := s, metrics })

end Sluice.Sink
