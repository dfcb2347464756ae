import Sluice.Failure
import Sluice.Sql.Statement

/-!
# Database clients

A client opens a connection, executes statements one by one, each of which fails or yields a row or
none, and closes the connection. While a transaction runs it may be watched by a timer.
`Script.client` is a client that answers as it is told, call by call, and keeps a record of all
calls.
-/

namespace Sluice.Sql

/-- A client with states of type `δ`. -/
structure Client (δ : Type) where
  connect : δ → Text → Except Failure Unit × δ
  execute : δ → Statement → Except Failure (Option (List Value)) × δ
  close : δ → δ
  startTimer : δ → Binary64 → δ
  stopTimer : δ → δ

/-- A call to a client. -/
inductive Call where
  | connect (database : Text)
  | execute (s : Statement)
  | close
  | startTimer (seconds : Binary64)
  | stopTimer
  deriving Repr

/-- What a scripted client answers to the calls of `execute` and to `connect`, how many statements
it has executed, and its calls. -/
structure Script where
  answer : Nat → Except Failure (Option (List Value))
  connectFailure? : Option Failure := none
  executed : Nat := 0
  calls : List Call := []

namespace Script

/-- Every statement succeeds and yields a row with the number 1. -/
def willing : Script := { answer := fun _ => .ok (some [.int 1]) }

private def note (s : Script) (c : Call) : Script := { s with calls := s.calls ++ [c] }

/-- The client that follows its script. -/
def client : Client Script where
  connect s database :=
    (match s.connectFailure? with
      | some f => .error f
      | none => .ok (), s.note (.connect database))
  execute s statement :=
    (s.answer s.executed, { s.note (.execute statement) with executed := s.executed + 1 })
  close s := s.note .close
  startTimer s seconds := s.note (.startTimer seconds)
  stopTimer s := s.note .stopTimer

end Script

end Sluice.Sql
