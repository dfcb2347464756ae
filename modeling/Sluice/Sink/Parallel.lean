import Sluice.Sink

/-!
# Writing in parallel

Records are dealt to workers in turn, each of which has a bounded queue, an open batch and commits
of its own. The run is a machine: `step` says what one of its parts does next, or that it cannot do
anything now, and every order of steps is a run (`Reachable`).

* The producer puts the next record into its queue, or an end mark behind the records, as long as
  the queue has room.
* A worker that is ready takes the next item of its queue.
* A commit under way makes one submission; when it has ended, its worker goes on later, and only
  then takes account of it.
* Once a worker or the producer has stopped with an error, the others are cancelled: ready workers
  drop their open batches, commits under way are seen through, and their outcome is taken account
  of.
* The run is waited for, to its end or until what was cancelled has ended too, and only then are the
  accounts of the workers put together (`Sink.conclude?`).

`drive` runs the machine in one fixed order.
-/

namespace Sluice.Parallel

/-- What a worker does when it has taken account of its commit: take further items, come to its
end, stop with a rejected record, or give way because it was cancelled meanwhile. -/
inductive Then where
  | goOn
  | finish
  | stop (index : Nat) (r : Record.Rejection)
  | unwind
  deriving Repr

/-- What a worker is doing. Its commit is under way, or has ended without the worker knowing yet. -/
inductive Phase where
  | ready
  | committing (commit : Commit) (begun : Binary64) (next : Then)
  | ended (batch : Batch) (verdict : Commit.Verdict) (begun : Binary64) (next : Then)
  | finished
  | stopped (stop : Stop)
  | cancelled
  deriving Repr

namespace Phase

/-- The worker does nothing any more. -/
def isOver : Phase → Bool
  | .finished => true
  | .stopped _ => true
  | .cancelled => true
  | _ => false

/-- The error that a worker stopped with. -/
def stop? : Phase → Option Stop
  | .stopped stop => some stop
  | _ => none

end Phase

/-- What is put into a queue: a record with its position, or the end mark. -/
inductive Item where
  | record (index : Nat) (v : Value)
  | last
  deriving Repr

/-- A worker with its queue. -/
structure Lane where
  worker : Worker
  queue : List Item := []
  phase : Phase := .ready
  deriving Repr

/-- What the producer is doing: dealing the records that are left, the first of which has the given
position, or putting the end mark into the queue with the given number. -/
inductive Producer where
  | records (index : Nat) (rest : List Value)
  | marks (lane : Nat)
  | finished
  | failed (f : Failure)
  | cancelled
  deriving Repr

namespace Producer

/-- The producer does nothing any more. -/
def isOver : Producer → Bool
  | .records _ _ => false
  | .marks _ => false
  | _ => true

/-- The error that the producer has ended with. -/
def failure? : Producer → Option Failure
  | .failed f => some f
  | _ => none

end Producer

/-- Whether anything was stopped: nothing yet, or the workers are cancelled because of an error or
from outside. -/
inductive Course where
  | running
  | stopping (stop : Stop)
  | interrupted
  deriving Repr

/-- What does not change during a run. -/
structure Plan (σ : Type) where
  config : Config
  transformer : Transformer
  store : Store σ
  room : Nat
  sourceFailure? : Option Failure

/-- A run. -/
structure State (σ : Type) where
  lanes : List Lane
  producer : Producer
  course : Course := .running
  session : Session σ

/-- Which part takes the next step. -/
inductive Choice where
  | produce
  | work (lane : Nat)
  | submit (lane : Nat)
  | resume (lane : Nat)
  | noticeWorker (lane : Nat)
  | noticeProducer
  | interrupt
  deriving DecidableEq, Repr

variable {σ : Type}

/-! ## 1. The producer -/

/-- Puts an item into a queue that has room. -/
def put? (room : Nat) (lanes : List Lane) (n : Nat) (item : Item) : Option (List Lane) :=
  match lanes[n]? with
  | some lane =>
    if lane.queue.length < room then
      some (lanes.set n { lane with queue := lane.queue ++ [item] })
    else none
  | none => none

/-- The producer's step. -/
def produce? (plan : Plan σ) (st : State σ) : Option (State σ) :=
  match st.producer with
  | .records index (record :: rest) =>
    (put? plan.room st.lanes (index % st.lanes.length) (.record index record)).map fun lanes =>
      { st with lanes, producer := .records (index + 1) rest }
  | .records _ [] =>
    match plan.sourceFailure? with
    | some f => some { st with producer := .failed f }
    | none => some { st with producer := .marks 0 }
  | .marks n =>
    if n < st.lanes.length then
      (put? plan.room st.lanes n .last).map fun lanes =>
        { st with lanes, producer := .marks (n + 1) }
    else some { st with producer := .finished }
  | _ => none

/-! ## 2. A worker -/

/-- A worker stops with an error and drops its open batch. -/
def stopLane (plan : Plan σ) (lane : Lane) (stop : Stop) (s : Session σ) : Lane × Session σ :=
  let (worker, s) := lane.worker.discard plan.config s
  ({ lane with worker, phase := .stopped stop }, s)

/-- A worker that was cancelled drops its open batch. -/
def leave (plan : Plan σ) (lane : Lane) (s : Session σ) : Lane × Session σ :=
  let (worker, s) := lane.worker.discard plan.config s
  ({ lane with worker, phase := .cancelled }, s)

/-- Goes on without a commit. -/
def proceed (plan : Plan σ) (lane : Lane) (next : Then) (s : Session σ) : Lane × Session σ :=
  match next with
  | .goOn => ({ lane with phase := .ready }, s)
  | .finish => ({ lane with phase := .finished }, s)
  | .stop index r => stopLane plan lane (.record index r) s
  | .unwind => leave plan lane s

/-- Begins the commit of a batch if there is one, and goes on otherwise. -/
def begin_ (plan : Plan σ) (lane : Lane) (batch? : Option Batch) (next : Then) (s : Session σ) :
    Lane × Session σ :=
  match batch? with
  | some batch => ({ lane with phase := .committing { batch } s.clock next }, s)
  | none => proceed plan lane next s

/-- Takes an item out of the queue. -/
def takeItem (plan : Plan σ) (lane : Lane) (item : Item) (s : Session σ) : Lane × Session σ :=
  match item with
  | .last =>
    let (batch?, worker) := lane.worker.flush
    begin_ plan { lane with worker } batch? .finish s
  | .record index record =>
    match lane.worker.accept plan.config plan.transformer index record s with
    | (.sealed batch?, worker, s) => begin_ plan { lane with worker } batch? .goOn s
    | (.halted h, worker, s) => stopLane plan { lane with worker } (.outside h.failure) s
    | (.refused r, worker, s) =>
      match plan.config.onRecordError with
      | .skip => ({ lane with worker }, s)
      | .fail =>
        let (batch?, worker) := worker.flush
        begin_ plan { lane with worker } batch? (.stop index r) s

/-- The step of a worker that is ready. -/
def work? (plan : Plan σ) (lane : Lane) (s : Session σ) : Option (Lane × Session σ) :=
  match lane.phase, lane.queue with
  | .ready, item :: queue => some (takeItem plan { lane with queue } item s)
  | _, _ => none

/-- Logs that a commit which was seen through was broken off. -/
def tellBroken (batch : Batch) (verdict : Commit.Verdict) (s : Session σ) : Session σ :=
  match verdict with
  | .broken f =>
    s.say .error ("Commit ended with unexpected error during cancellation: " ++ f.text)
      [("batch_id", .text batch.id)]
  | _ => s

/-- Takes account of a commit that has ended, and goes on unless that stops the worker. A worker
that was cancelled is not stopped any more. -/
def settled (plan : Plan σ) (lane : Lane) (batch : Batch) (verdict : Commit.Verdict)
    (begun : Binary64) (next : Then) (s : Session σ) : Lane × Session σ :=
  let (stop?, worker, s) := lane.worker.settle plan.config batch verdict (s.clock - begun) s
  match next, stop? with
  | .unwind, _ => leave plan { lane with worker } (tellBroken batch verdict s)
  | _, some stop => stopLane plan { lane with worker } stop s
  | next, none => proceed plan { lane with worker } next s

/-- The step of a commit under way: one submission. -/
def submit? (plan : Plan σ) (lane : Lane) (s : Session σ) : Option (Lane × Session σ) :=
  match lane.phase with
  | .committing commit begun next =>
    match commit.step plan.config.retry plan.store s with
    | (.inl (commit, delay), s) =>
      some ({ lane with phase := .committing commit begun next }, s.noteDelay delay)
    | (.inr verdict, s) => some ({ lane with phase := .ended commit.batch verdict begun next }, s)
  | _ => none

/-- The step of a worker whose commit has ended. -/
def resume? (plan : Plan σ) (lane : Lane) (s : Session σ) : Option (Lane × Session σ) :=
  match lane.phase with
  | .ended batch verdict begun next => some (settled plan lane batch verdict begun next s)
  | _ => none

/-! ## 3. Cancelling -/

/-- Cancels a worker. -/
def cancelLane (plan : Plan σ) (lane : Lane) (s : Session σ) : Lane × Session σ :=
  match lane.phase with
  | .ready => leave plan lane s
  | .committing commit begun _ => ({ lane with phase := .committing commit begun .unwind }, s)
  | .ended batch verdict begun _ => ({ lane with phase := .ended batch verdict begun .unwind }, s)
  | _ => (lane, s)

/-- Cancels workers in order. -/
def cancelLanes (plan : Plan σ) : List Lane → Session σ → List Lane × Session σ
  | [], s => ([], s)
  | lane :: rest, s =>
    let (lane, s) := cancelLane plan lane s
    let (rest, s) := cancelLanes plan rest s
    (lane :: rest, s)

/-- Cancels the producer. -/
def cancelProducer : Producer → Producer
  | .records .. => .cancelled
  | .marks _ => .cancelled
  | p => p

/-- Cancels everything that still goes on. -/
def cancelAll (plan : Plan σ) (course : Course) (st : State σ) : State σ :=
  let (lanes, session) := cancelLanes plan st.lanes st.session
  { lanes, session, producer := cancelProducer st.producer, course }

/-! ## 4. Runs -/

/-- A step of the worker with the given number. -/
def onLane? (f : Lane → Session σ → Option (Lane × Session σ)) (n : Nat) (st : State σ) :
    Option (State σ) :=
  match st.lanes[n]? with
  | none => none
  | some lane =>
    (f lane st.session).map fun (lane, session) => { st with lanes := st.lanes.set n lane, session }

/-- What one part does next, if it can do anything. -/
def step (plan : Plan σ) (st : State σ) : Choice → Option (State σ)
  | .produce => produce? plan st
  | .work n => onLane? (work? plan) n st
  | .submit n => onLane? (submit? plan) n st
  | .resume n => onLane? (resume? plan) n st
  | .noticeWorker n =>
    match st.course, (st.lanes[n]?).bind fun lane => lane.phase.stop? with
    | .running, some stop => some (cancelAll plan (.stopping stop) st)
    | _, _ => none
  | .noticeProducer =>
    match st.course, st.producer with
    | .running, .failed f => some (cancelAll plan (.stopping (.outside f)) st)
    | _, _ => none
  | .interrupt =>
    match st.course with
    | .running => some (cancelAll plan .interrupted st)
    | _ => none

/-- The states that can be reached, in any order of steps. -/
inductive Reachable (plan : Plan σ) (st : State σ) : State σ → Prop where
  | start : Reachable plan st st
  | step {st' st'' : State σ} {choice : Choice} :
      Reachable plan st st' → step plan st' choice = some st'' → Reachable plan st st''

/-- The workers of a run that has not begun. -/
def lanes (config : Config) (clock : Binary64) (count : Nat) : List Lane :=
  (List.range count).map fun n =>
    { worker := Worker.start config ("worker" ++ Text.ofNat n) clock }

/-- A run that has not begun. -/
def start (config : Config) (count : Nat) (source : Source) (s : Session σ) : State σ :=
  { lanes := lanes config s.clock count, producer := .records 0 source.records, session := s }

/-- The state after the first of several choices that is possible. -/
def firstStep (plan : Plan σ) (st : State σ) (choices : List Choice) : Option (State σ) :=
  choices.findSome? (step plan st)

/-- Runs the machine, taking the first possible choice each time, until none is possible. -/
def drive (plan : Plan σ) (choices : State σ → List Choice) : Nat → State σ → State σ
  | 0, st => st
  | fuel + 1, st =>
    match firstStep plan st (choices st) with
    | some st => drive plan choices fuel st
    | none => st

/-- The usual order: the workers whose commits have ended, the producer, the other workers, what is
to be noticed, the submissions. -/
def usualOrder (st : State σ) : List Choice :=
  let numbers := List.range st.lanes.length
  numbers.map .resume ++ .produce :: numbers.map .work ++ .noticeProducer :: numbers.map .noticeWorker ++
    numbers.map .submit

/-- More steps than a run can take: every record and every end mark is put and taken once and may
be followed by a commit. -/
def stepBound (config : Config) (count records : Nat) : Nat :=
  (records + count + 2) * (config.retry.maxRetries + 6) + 2 * count + 8

/-! ## 5. The end -/

/-- The accounts of all workers as one. -/
def mergedResult (lanes : List Lane) : SinkResult :=
  lanes.foldl (fun r lane => r.merge lane.worker.result) {}

/-- The counts of all workers, folded into those of the sink. -/
def mergedMetrics (metrics : Metrics) (lanes : List Lane) : Metrics :=
  lanes.foldl (fun m lane => m.merge lane.worker.metrics) metrics

/-- The failure that a stopped parallel run reports. -/
def failureOf (config : Config) (count : Nat) (stop : Stop) : Failure :=
  let f := stop.failure config.name
  if f.kind = .sink then f
  else
    { kind := .sink, message := "Parallel write failed: " ++ f.text
      context := [("sink_name", .text config.name), ("parallelism", .int count)] }

/-- The error of a run, if it had one. -/
def stop? (st : State σ) : Option Stop :=
  match st.course with
  | .stopping stop => some stop
  | _ => none

/-- Whether nothing is waited for any more: every worker is at its end and so is the producer, and
if nothing has been cancelled, then none of them has ended with an error. -/
def State.isLeft (st : State σ) : Bool :=
  (st.lanes.all fun lane => lane.phase.isOver) && st.producer.isOver &&
    match st.course with
    | .running =>
      (st.lanes.all fun lane => lane.phase.stop?.isNone) && st.producer.failure?.isNone
    | _ => true

end Sluice.Parallel

namespace Sluice.Sink

variable {σ : Type}

/-- How a sink's parallel runs are planned. -/
def plan (store : Store σ) (sink : Sink σ) (room : Nat) (source : Source) : Parallel.Plan σ :=
  ⟨sink.config, sink.transformer, store, room, source.failure?⟩

/-- The account of a parallel run and the sink after it. -/
def conclude (sink : Sink σ) (st : Parallel.State σ) : SinkResult × Sink σ :=
  let metrics := (Parallel.mergedMetrics sink.metrics st.lanes).finish st.session.clock
  ({ Parallel.mergedResult st.lanes with metrics? := some metrics },
    { sink with session := st.session, metrics })

/-- The last step of a run: its error if it had one, its account, and the sink after it. It is not
possible while anything is waited for. -/
def conclude? (sink : Sink σ) (st : Parallel.State σ) : Option (Option Stop × SinkResult × Sink σ) :=
  if st.isLeft then some (Parallel.stop? st, sink.conclude st) else none

/-- Writes the records of a source with several workers. -/
def writeParallel (store : Store σ) (sink : Sink σ) (count : Nat) (source : Source) :
    Option Stop × SinkResult × Sink σ :=
  let st := Parallel.drive (sink.plan store sink.config.bounds.maxOperations source)
    Parallel.usualOrder (Parallel.stepBound sink.config count source.records.length)
    (Parallel.start sink.config count source sink.session)
  let (result, sink) := sink.conclude st
  (Parallel.stop? st, result, sink)

end Sluice.Sink
