import Sluice.Failure
import Sluice.Log
import Sluice.Operation
import Sluice.Schema

/-!
# Stores

A store takes operations in groups, each of which it applies as a whole or not at all. It is given
by what it does to its state `σ`: `prepare` makes a table ready, `submit` applies a group of
operations, `close` releases what the store holds. Every call may fail, take time and leave entries
in the log.

A `Session` is a store in use: its state, the clock, the delays that have been waited, and the log.
Waiting is left to the surroundings, which are taken to wait for whatever they are asked to.
-/

namespace Sluice

/-- What a call to a store brings about. -/
structure Reply (σ : Type) where
  outcome : Except Failure Unit
  state : σ
  seconds : Binary64 := .zero
  log : List Log.Entry := []

/-- A store with states of type `σ`. -/
structure Store (σ : Type) where
  prepare : σ → Text → Schema → List Text → Reply σ
  submit : σ → List Operation → Option Binary64 → Reply σ
  close : σ → σ

/-- A store in use. -/
structure Session (σ : Type) where
  state : σ
  clock : Binary64
  sleeps : List Binary64 := []
  log : List Log.Entry := []

namespace Session

variable {σ : Type}

/-- Adds an entry to the log. -/
def say (s : Session σ) (level : Log.Level) (message : Text) (members : List (Text × Value)) :
    Session σ :=
  { s with log := s.log ++ [⟨level, message, members⟩] }

/-- Notes a delay; other work may go on meanwhile. -/
def noteDelay (s : Session σ) (seconds : Binary64) : Session σ :=
  { s with sleeps := s.sleeps ++ [seconds] }

/-- Waits: the delay is noted, and the clock goes on by it. Waiting never fails, whatever the delay:
a negative one, one that is not a number and one of more than nine thousand million seconds, which
the surroundings may refuse, are noted like any other. -/
def sleep (s : Session σ) (seconds : Binary64) : Session σ :=
  { s.noteDelay seconds with clock := s.clock + seconds }

/-- The session after a call to the store. -/
def after (s : Session σ) (r : Reply σ) : Session σ :=
  { s with state := r.state, clock := s.clock + r.seconds, log := s.log ++ r.log }

end Session

end Sluice
