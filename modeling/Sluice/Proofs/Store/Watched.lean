import Sluice.Proofs.Commit.Verdict

/-!
# Stores that are watched

Any store can be watched: beside its state stands what has been submitted to it, with the outcomes.
Watching changes neither outcomes nor states, and nothing that is submitted goes unseen.

* `run_seen`: **a commit submits its whole batch, as often as its verdict says**.
-/

namespace Sluice

variable {σ : Type}

/-- One submission, as a store has seen it. -/
structure Submission where
  operations : List Operation
  timeout? : Option Binary64
  outcome : Except Failure Unit

/-- The state of a store, with the submissions that it has seen. -/
structure Watched (σ : Type) where
  state : σ
  seen : List Submission := []

/-- The groups of operations that have been submitted. -/
def Watched.groups (w : Watched σ) : List (List Operation) := w.seen.map (·.operations)

/-- A store that is watched. -/
def Store.watched (store : Store σ) : Store (Watched σ) where
  prepare w table schema keys :=
    let reply := store.prepare w.state table schema keys
    { outcome := reply.outcome, state := { w with state := reply.state }
      seconds := reply.seconds, log := reply.log }
  submit w os timeout? :=
    let reply := store.submit w.state os timeout?
    { outcome := reply.outcome
      state := ⟨reply.state, w.seen ++ [⟨os, timeout?, reply.outcome⟩]⟩
      seconds := reply.seconds, log := reply.log }
  close w := { w with state := store.close w.state }

/-- What is submitted is seen, with its outcome. -/
theorem Store.watched_seen (store : Store σ) (w : Watched σ) (os : List Operation)
    (timeout? : Option Binary64) :
    (store.watched.submit w os timeout?).state.seen =
      w.seen ++ [⟨os, timeout?, (store.watched.submit w os timeout?).outcome⟩] := rfl

namespace Commit

theorem Steps.attempts_eq {policy : RetryPolicy} {c : Commit} {outcome : Except Failure Unit}
    {v : Verdict} (h : Steps policy c outcome (.inr v)) (hv : v.IsClear) :
    v.attempts = c.attempts + 1 := by
  cases h with
  | done u => rfl
  | exhausted f ht hr => rfl
  | broken f ht hr hd => cases hv
  | rejected f ht => rfl

theorem run_seen {policy : RetryPolicy} {store : Store σ} (batch : Batch)
    (s : Session (Watched σ)) (hv : (run policy store.watched batch s).1.IsClear) :
    (run policy store.watched batch s).2.state.groups =
      s.state.groups ++
        List.replicate (run policy store.watched batch s).1.attempts batch.operations := by
  revert hv
  refine run_rule
    (I := fun c st => c.batch = batch ∧
      st.groups = s.state.groups ++ List.replicate c.attempts batch.operations)
    (Q := fun v st => v.IsClear →
      st.groups = s.state.groups ++ List.replicate v.attempts batch.operations)
    ?_ ?_ s ⟨rfl, (List.append_nil _).symm⟩
  · rintro c st c' delay ⟨rfl, hseen⟩ h
    obtain ⟨-, hbatch, hattempts⟩ := h.again_inv
    refine ⟨hbatch, ?_⟩
    unfold reply Watched.groups
    rw [Store.watched_seen, List.map_append, hattempts, List.replicate_succ', ← List.append_assoc]
    exact congrArg (· ++ [c.batch.operations]) hseen
  · rintro c st v ⟨rfl, hseen⟩ h hv
    unfold reply Watched.groups
    rw [Store.watched_seen, List.map_append, h.attempts_eq hv, List.replicate_succ',
      ← List.append_assoc]
    exact congrArg (· ++ [c.batch.operations]) hseen

end Commit

end Sluice
