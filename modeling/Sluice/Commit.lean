import Sluice.Batch
import Sluice.Config
import Sluice.Store

/-!
# Commits

A sealed batch is submitted to a store as a whole. A passing failure is followed by a delay and the
same submission again, up to the number of retries that the policy allows; any other failure ends
the commit at once. A commit under way is a value (`Commit`), and `Commit.step` makes one
submission; `Commit.run` makes as many as it takes.

What a commit assumes of its surroundings is that every delay which can be computed can be waited
(`Session.sleep`). Where a delay is refused, because it is negative, not a number or longer than the
clock can count, the commit is broken off at that point, and nothing is said here of what follows.

Main facts:

* `step_steps`: what follows from the outcome of a submission, case by case (`Steps`);
* `step_state`, `step_sleeps`: a step changes the store as its one submission does, and waits for
  nothing;
* `Steps.isEnded`: after the last retry that the policy allows a submission ends the commit.
-/

namespace Sluice

/-- The states that a batch goes through. -/
inductive BatchState where
  | sealed
  | submitting
  | retrying
  | committed
  | failed
  deriving DecidableEq, Repr

/-- The word for a state. -/
def BatchState.word : BatchState → Text
  | .sealed => "sealed"
  | .submitting => "submitting"
  | .retrying => "retrying"
  | .committed => "committed"
  | .failed => "failed"

/-- Nothing happens to a batch after these states. -/
def BatchState.isTerminal : BatchState → Bool
  | .committed => true
  | .failed => true
  | _ => false

/-- Why a batch failed, and at which operation if that is known. -/
structure CommitFailure where
  reason : Text
  operation? : Option Nat
  deriving DecidableEq, Repr

/-- How the commit of a batch ended. -/
structure CommitResult where
  batch : Text
  succeeded : Nat
  attempts : Nat
  state : BatchState
  failure? : Option CommitFailure
  history : List BatchState
  deriving DecidableEq, Repr

/-- The failure of a commit: refused for good, or given up after passing failures. -/
inductive CommitError where
  | rejected (cause : Failure) (operation? : Option Nat)
  | exhausted (cause : Failure) (attempts : Nat)
  deriving Repr

namespace CommitError

/-- The wording of a failed commit. -/
def message : CommitError → Text
  | .rejected cause _ => "Commit rejected: " ++ cause.text
  | .exhausted cause attempts =>
    "Commit retries exhausted after " ++ Text.ofNat attempts ++ " attempts: " ++ cause.text

/-- The failure of the commit of a batch. -/
def failure (e : CommitError) (batch : Text) : Failure :=
  match e with
  | .rejected _ operation? =>
    { kind := .commitRejected, message := e.message, operation?
      context := Value.entry "batch_id" (.text batch) ::
        (match operation? with
          | some n => [Value.entry "operation_index" (.int n)]
          | none => []) }
  | .exhausted _ attempts =>
    { kind := .commitExhausted, message := e.message, attempts? := some attempts
      context := [Value.entry "batch_id" (.text batch)] }

end CommitError

namespace RetryPolicy

/-- A policy that makes no sense. -/
inductive Fault where
  | retries
  | delay
  | rate
  deriving DecidableEq, Repr

/-- The wording of a fault. -/
def Fault.message : Fault → Text
  | .retries => "max_retries must be non-negative"
  | .delay => "retry_delay must be non-negative"
  | .rate => "backoff_rate must be at least 1.0"

/-- A policy from its parts. -/
def make (maxRetries : Int) (delay rate maxDelay : Binary64) (timeout? : Option Binary64) :
    Except Fault RetryPolicy :=
  if maxRetries < 0 then .error .retries
  else if delay.lt .zero then .error .delay
  else if rate.lt (.ofInt 1) then .error .rate
  else .ok ⟨maxRetries.toNat, delay, rate, maxDelay, timeout?⟩

/-- The delay before a retry, counted from 0: the first delay grown by the rate as often, but at
most the upper limit. There is none when the growth goes beyond the largest number. -/
def delayBefore? (p : RetryPolicy) (retry : Int) : Option Binary64 :=
  (p.rate.power? retry).map fun growth => Binary64.least (p.delay * growth) p.maxDelay

/-- The failure of a delay that cannot be computed. -/
def overflow : Failure := .outside "OverflowError" "(34, 'Numerical result out of range')"

end RetryPolicy

/-- A commit under way: the submissions made so far and the states gone through. -/
structure Commit where
  batch : Batch
  attempts : Nat := 0
  history : List BatchState := [.sealed]
  deriving Repr, Inhabited

namespace Commit

/-- How a commit may end: done, failed, or broken off because a delay cannot be computed. -/
inductive Verdict where
  | committed (r : CommitResult)
  | failed (e : CommitError) (r : CommitResult)
  | broken (f : Failure)
  deriving Repr

variable {σ : Type}

private def tell (c : Commit) (s : Session σ) (level : Log.Level) (message : Text) : Session σ :=
  s.say level message [Value.entry "batch_id" (.text c.batch.id)]

/-- The next state, which is logged. -/
private def enter (c : Commit) (state : BatchState) (s : Session σ) : Commit × Session σ :=
  ({ c with history := c.history ++ [state] },
    c.tell s .debug ("Batch -> " ++ state.word ++ " (attempt " ++ Text.ofNat c.attempts ++ ")"))

/-- The result of a failed commit. -/
def failedResult (c : Commit) (reason : Text) (operation? : Option Nat) : CommitResult :=
  ⟨c.batch.id, 0, c.attempts, .failed, some ⟨reason, operation?⟩, c.history⟩

/-- The result of a commit that is done. -/
def doneResult (c : Commit) : CommitResult :=
  ⟨c.batch.id, c.batch.count, c.attempts, .committed, none, c.history⟩

/-- What follows from the outcome of a submission. -/
inductive Next where
  | done
  | again (f : Failure) (delay : Binary64)
  | exhausted (f : Failure)
  | broken
  | rejected (f : Failure)
  deriving Repr

/-- What follows from the outcome of the submission with the given number, counted from 1. -/
def next (policy : RetryPolicy) (attempt : Nat) : Except Failure Unit → Next
  | .ok _ => .done
  | .error f =>
    if f.kind.isTransient then
      if policy.maxRetries < attempt then .exhausted f
      else match policy.delayBefore? (attempt - 1 : Nat) with
        | none => .broken
        | some delay => .again f delay
    else .rejected f

/-- A commit after one more submission with the delay before the next one, or how it ended. -/
abbrev Stepped (σ : Type) := Sum (Commit × Binary64) Verdict × Session σ

/-- The store has applied the batch. -/
private def succeed (c : Commit) (s : Session σ) : Stepped σ :=
  let (c, s) := c.enter .committed s
  (.inr (.committed c.doneResult),
    c.tell s .debug ("Committed " ++ Text.ofNat c.batch.count ++ " operations in " ++
      Text.ofNat c.attempts ++ " attempt(s)"))

/-- A passing failure once no retry is left. -/
private def exhaust (c : Commit) (f : Failure) (s : Session σ) : Stepped σ :=
  let (c, s) := c.enter .failed s
  (.inr (.failed (.exhausted f c.attempts) (c.failedResult f.textOrLabel none)),
    c.tell s .error ("Commit failed after " ++ Text.ofNat c.attempts ++ " attempts: " ++ f.text))

/-- A failure that does not pass. -/
private def reject (c : Commit) (f : Failure) (s : Session σ) : Stepped σ :=
  let operation? := if f.kind = .storeRejected then f.operation? else none
  let (c, s) := c.enter .failed s
  (.inr (.failed (.rejected f operation?) (c.failedResult f.text operation?)),
    c.tell s .error ("Commit rejected: " ++ f.text))

/-- A passing failure, and the delay before the next submission. -/
private def retry (c : Commit) (f : Failure) (delay : Binary64) (s : Session σ) : Stepped σ :=
  let (c, s) := c.enter .retrying s
  let s := c.tell s .warning
    ("Transient commit failure on attempt " ++ Text.ofNat c.attempts ++ ", retrying in " ++
      Number.writeFixed 2 delay ++ "s: " ++ f.text)
  (.inl (c, delay), s)

/-- The commit and its session with the outcome of one more submission. -/
def submit (policy : RetryPolicy) (store : Store σ) (c : Commit) (s : Session σ) :
    Commit × Except Failure Unit × Session σ :=
  let (c, s) := { c with attempts := c.attempts + 1 }.enter .submitting s
  let reply := store.submit s.state c.batch.operations policy.timeout?
  (c, reply.outcome, s.after reply)

/-- Makes one submission and does what follows from its outcome. -/
def step (policy : RetryPolicy) (store : Store σ) (c : Commit) (s : Session σ) : Stepped σ :=
  let (c, outcome, s) := c.submit policy store s
  match next policy c.attempts outcome with
  | .done => c.succeed s
  | .again f delay => c.retry f delay s
  | .exhausted f => c.exhaust f s
  | .broken => (.inr (.broken RetryPolicy.overflow), s)
  | .rejected f => c.reject f s

/-- Makes submissions until the commit ends, at most the given number. -/
def runFor (policy : RetryPolicy) (store : Store σ) : Nat → Commit → Session σ →
    Option Verdict × Session σ
  | 0, _, s => (none, s)
  | n + 1, c, s =>
    match c.step policy store s with
    | (.inr verdict, s) => (some verdict, s)
    | (.inl (c, delay), s) => runFor policy store n c (s.sleep delay)

/-- Commits a batch: one submission and as many retries as the policy allows. -/
def run (policy : RetryPolicy) (store : Store σ) (batch : Batch) (s : Session σ) :
    Verdict × Session σ :=
  match runFor policy store (policy.maxRetries + 1) { batch } s with
  | (some verdict, s) => (verdict, s)
  | (none, s) => (.broken RetryPolicy.overflow, s)

/-! ## Laws -/

/-- A commit after one more submission, in which it has gone through the given states. -/
def after (c : Commit) (states : List BatchState) : Commit :=
  { c with attempts := c.attempts + 1, history := c.history ++ states }

/-- The operation that a failure which does not pass is about. -/
def culprit? (f : Failure) : Option Nat := if f.kind = .storeRejected then f.operation? else none

/-- **What a submission with a given outcome leads to**, and when: there is no other way. -/
inductive Steps (policy : RetryPolicy) (c : Commit) :
    Except Failure Unit → Sum (Commit × Binary64) Verdict → Prop where
  | done (u : Unit) :
      Steps policy c (.ok u) (.inr (.committed (c.after [.submitting, .committed]).doneResult))
  | again (f : Failure) (delay : Binary64) (ht : f.kind.isTransient = true)
      (hr : c.attempts < policy.maxRetries) (hd : policy.delayBefore? c.attempts = some delay) :
      Steps policy c (.error f) (.inl (c.after [.submitting, .retrying], delay))
  | exhausted (f : Failure) (ht : f.kind.isTransient = true)
      (hr : policy.maxRetries ≤ c.attempts) :
      Steps policy c (.error f)
        (.inr (.failed (.exhausted f (c.attempts + 1))
          ((c.after [.submitting, .failed]).failedResult f.textOrLabel none)))
  | broken (f : Failure) (ht : f.kind.isTransient = true) (hr : c.attempts < policy.maxRetries)
      (hd : policy.delayBefore? c.attempts = none) :
      Steps policy c (.error f) (.inr (.broken RetryPolicy.overflow))
  | rejected (f : Failure) (ht : f.kind.isTransient = false) :
      Steps policy c (.error f)
        (.inr (.failed (.rejected f (culprit? f))
          ((c.after [.submitting, .failed]).failedResult f.text (culprit? f))))

section Step

variable (policy : RetryPolicy) (store : Store σ) (c : Commit) (s : Session σ)

/-- The states that are entered in turn are entered together. -/
private theorem enter_submitting (state : BatchState) (s' : Session σ) :
    ((({ c with attempts := c.attempts + 1 }.enter .submitting s).1.enter state s').1) =
      c.after [.submitting, state] := by
  simp [enter, after]

theorem step_state :
    (c.step policy store s).2.state =
      (store.submit s.state c.batch.operations policy.timeout?).state := by
  simp only [step]
  split <;> rfl

/-- A step waits for nothing: what it asks to wait for is part of what it returns. -/
theorem step_sleeps : (c.step policy store s).2.sleeps = s.sleeps := by
  simp only [step]
  split <;> rfl

theorem step_steps :
    Steps policy c (store.submit s.state c.batch.operations policy.timeout?).outcome
      (c.step policy store s).1 := by
  simp only [step]
  change Steps policy c (c.submit policy store s).2.1 _
  generalize ho : (c.submit policy store s).2.1 = outcome
  have hn : (c.submit policy store s).1.attempts = c.attempts + 1 := rfl
  rw [hn]
  cases outcome with
  | ok u =>
    simp only [next, succeed, submit, enter_submitting]
    exact .done u
  | error f =>
    cases ht : f.kind.isTransient with
    | false =>
      simp only [next, ht, reject, submit, enter_submitting]
      exact .rejected f ht
    | true =>
      by_cases hr : policy.maxRetries < c.attempts + 1
      · simp only [next, ht, hr, if_true, exhaust, submit, enter_submitting]
        exact .exhausted f ht (Nat.le_of_lt_succ hr)
      · simp only [next, ht, hr, if_true, if_false, Nat.add_sub_cancel]
        cases hd : policy.delayBefore? c.attempts with
        | none => exact .broken f ht (by omega) hd
        | some delay =>
          simp only [retry, submit, enter_submitting]
          exact .again f delay ht (by omega) hd

end Step

/-- After the last retry that the policy allows a submission ends the commit. -/
theorem Steps.isEnded {policy : RetryPolicy} {c : Commit} {outcome : Except Failure Unit}
    {next : Sum (Commit × Binary64) Verdict} (h : Steps policy c outcome next)
    (hr : policy.maxRetries ≤ c.attempts) : ∃ v, next = .inr v := by
  cases h with
  | again f delay ht hlt hd => omega
  | done u => exact ⟨_, rfl⟩
  | exhausted f ht hle => exact ⟨_, rfl⟩
  | broken f ht hlt hd => exact ⟨_, rfl⟩
  | rejected f ht => exact ⟨_, rfl⟩

end Commit

end Sluice
