import Sluice.Store.Memory

/-!
# A store that fails as it is told

A store in memory whose submissions fail by a script: the failures to come, call by call; failures
for submissions with certain keys, each of which is used up; and keys whose submissions always fail.
It keeps account of what it was asked.
-/

namespace Sluice

/-- A store in memory with its script and its account. -/
structure Scripted where
  memory : Memory := {}
  failures : List (Option Failure) := []
  byKey : List (Value × List (Option Failure)) := []
  always : List (Value × Failure) := []
  seconds : Binary64 := .zero
  prepareFailure? : Option Failure := none
  submits : List (Nat × Option Binary64) := []
  prepared : List (Text × List Text × List Text) := []
  closed : Nat := 0

namespace Scripted

/-- Whether an operation's key begins with a value. -/
def concerns (key : Value) (o : Operation) : Bool :=
  match o.key with
  | [] => false
  | v :: _ => v.same key

/-- Takes the first failure in store for the keys of operations. -/
def takeByKey (operations : List Operation) : List (Value × List (Option Failure)) →
    Option Failure × List (Value × List (Option Failure))
  | [] => (none, [])
  | (key, failures) :: rest =>
    match failures with
    | some f :: more =>
      if operations.any (concerns key) then (some f, (key, more) :: rest)
      else
        let (f?, rest) := takeByKey operations rest
        (f?, (key, failures) :: rest)
    | none :: more =>
      let (f?, rest) := takeByKey operations rest
      (f?, (key, if operations.any (concerns key) then more else failures) :: rest)
    | [] =>
      let (f?, rest) := takeByKey operations rest
      (f?, (key, []) :: rest)

/-- The failure that the script has for a submission. -/
def nextFailure (s : Scripted) (operations : List Operation) : Option Failure × Scripted :=
  match (s.always.find? fun (key, _) => operations.any (concerns key)).map (·.2) with
  | some f => (some f, s)
  | none =>
    match s.failures with
    | some f :: rest => (some f, { s with failures := rest })
    | failures =>
      let (f?, byKey) := takeByKey operations s.byKey
      (f?, { s with failures := failures.tail, byKey })

/-- Makes a table ready, unless that is to fail. -/
def prepare (s : Scripted) (table : Text) (schema : Schema) (keys : List Text) : Reply Scripted :=
  match s.prepareFailure? with
  | some f => { outcome := .error f, state := s }
  | none =>
    { outcome := .ok ()
      state := { s with
        memory := s.memory.prepare table
        prepared := s.prepared ++ [(table, schema.names, keys)] } }

/-- Applies operations, unless that is to fail. -/
def submit (s : Scripted) (operations : List Operation) (timeout? : Option Binary64) :
    Reply Scripted :=
  let s := { s with submits := s.submits ++ [(operations.length, timeout?)] }
  match s.nextFailure operations with
  | (some f, s) => { outcome := .error f, state := s, seconds := s.seconds }
  | (none, s) =>
    let reply := Memory.store.submit s.memory operations timeout?
    { outcome := reply.outcome, state := { s with memory := reply.state }, seconds := s.seconds
      log := reply.log }

/-- The store that follows its script. -/
def store : Store Scripted where
  prepare := prepare
  submit := submit
  close s := { s with closed := s.closed + 1 }

end Scripted

end Sluice
