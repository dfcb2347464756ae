import Sluice.Sink.Parallel
import Sluice.Store.Scripted

/-!
# Runs with a submission held back

An order of steps of a parallel run for a scripted store: the submission that concerns one key waits
until the workers are cancelled, and one that concerns another key waits until the first one does.
Everything else goes on as usual. If the run is to be interrupted, that happens when nothing else
can.
-/

namespace Sluice.Parallel

/-- Whether a worker's next submission concerns a key. -/
def isAbout (key : Value) (lane : Lane) : Bool :=
  match lane.phase with
  | .committing c _ _ => c.batch.operations.any (Scripted.concerns key)
  | _ => false

/-- Nothing was stopped yet. -/
def Course.isRunning : Course → Bool
  | .running => true
  | _ => false

/-- Whether a worker may submit. -/
def maySubmit (held failing : Value) (st : State Scripted) (n : Nat) : Bool :=
  match st.lanes[n]? with
  | none => false
  | some lane =>
    if isAbout held lane then !st.course.isRunning
    else if isAbout failing lane then st.lanes.any (isAbout held)
    else true

/-- The order of steps. -/
def heldOrder (held failing : Value) (interrupted : Bool) (st : State Scripted) : List Choice :=
  let numbers := List.range st.lanes.length
  numbers.map .resume ++ .produce :: numbers.map .work ++ .noticeProducer :: numbers.map .noticeWorker ++
    (numbers.filter (maySubmit held failing st)).map .submit ++
    (if interrupted then [.interrupt] else [])

end Sluice.Parallel
