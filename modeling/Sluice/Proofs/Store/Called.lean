import Sluice.Proofs.Sink.Told
import Sluice.Proofs.Parallel.Run

/-!
# Stores and the calls to them

Any store can be given a list of the calls that are made to it, beside its state: to make a table
ready, to apply a group of operations, to close. Nothing is lost by that, and neither outcomes nor
states change.

Between two moments of a run in which records are written, only submissions have been made, all with
the time that one attempt may take (`Store.SubmitsTo`):

* `Commit.run_submits`, `Sink.write_submits`: **a commit and a run in sequence only submit**;
* `Run.submits`: **so does a parallel run**, in whatever order its steps are taken;
* `Store.SubmitsTo.calls`: what that says of the calls.
-/

namespace Sluice

variable {σ : Type}

/-! ## 1. Calls -/

/-- What a store is asked to do. -/
inductive StoreCall where
  | prepare (table : Text) (schema : Schema) (keyColumns : List Text)
  | submit (operations : List Operation) (timeout? : Option Binary64)
  | close

/-- The state of a store, with the calls that have been made to it, in order. -/
structure Called (σ : Type) where
  state : σ
  calls : List StoreCall := []

/-- A store that lists the calls to it; a call is listed when it is made. -/
def Store.called (store : Store σ) : Store (Called σ) where
  prepare w table schema keyColumns :=
    let reply := store.prepare w.state table schema keyColumns
    { outcome := reply.outcome
      state := ⟨reply.state, w.calls ++ [.prepare table schema keyColumns]⟩
      seconds := reply.seconds, log := reply.log }
  submit w os timeout? :=
    let reply := store.submit w.state os timeout?
    { outcome := reply.outcome, state := ⟨reply.state, w.calls ++ [.submit os timeout?]⟩
      seconds := reply.seconds, log := reply.log }
  close w := ⟨store.close w.state, w.calls ++ [.close]⟩

/-! ## 2. Nothing but submissions -/

/-- **Only submissions lie between two states of a store**, with the given time for an attempt. -/
inductive Store.SubmitsTo (store : Store σ) (timeout? : Option Binary64) (st : σ) : σ → Prop where
  | none : SubmitsTo store timeout? st st
  | snoc {st' : σ} (os : List Operation) (h : SubmitsTo store timeout? st st') :
      SubmitsTo store timeout? st (store.submit st' os timeout?).state

section Submits

variable {store : Store σ} {timeout? : Option Binary64} {st st' st'' : σ}

theorem Store.SubmitsTo.trans (h : store.SubmitsTo timeout? st st')
    (h' : store.SubmitsTo timeout? st' st'') : store.SubmitsTo timeout? st st'' := by
  induction h' with
  | none => exact h
  | snoc os _ ih => exact ih.snoc os

/-- **What is called where nothing but submissions is made.** -/
theorem Store.SubmitsTo.calls {w w' : Called σ} (h : store.called.SubmitsTo timeout? w w') :
    ∃ groups : List (List Operation),
      w'.calls = w.calls ++ groups.map (StoreCall.submit · timeout?) := by
  induction h with
  | none => exact ⟨[], (List.append_nil _).symm⟩
  | @snoc w₁ os _ ih =>
    obtain ⟨groups, hcalls⟩ := ih
    refine ⟨groups ++ [os], ?_⟩
    change w₁.calls ++ [.submit os timeout?] = _
    rw [hcalls, List.map_append, List.append_assoc]
    rfl

/-- **A commit only submits**, by the rule of commits. -/
theorem Commit.run_submits (policy : RetryPolicy) (store : Store σ) (batch : Batch)
    (s : Session σ) :
    store.SubmitsTo policy.timeout? s.state (run policy store batch s).2.state := by
  refine run_rule (I := fun _ st => store.SubmitsTo policy.timeout? s.state st)
    (Q := fun _ st => store.SubmitsTo policy.timeout? s.state st) ?_ ?_ s .none
  · intro c st c' delay h _
    exact h.snoc c.batch.operations
  · intro c st v h _
    exact h.snoc c.batch.operations

theorem Commits.submits {policy : RetryPolicy} {j : Journal} (h : Commits policy store st j st') :
    store.SubmitsTo policy.timeout? st st' := by
  induction h with
  | none => exact .none
  | snoc batch _ ih => exact ih.trans (Commit.run_submits policy store batch _)

/-- **A run in sequence only submits.** -/
theorem Sink.write_submits {sink sink' : Sink σ} {source : Source} {stop? : Option Stop}
    {r : SinkResult} (h : sink.write store source = (stop?, r, sink')) :
    store.SubmitsTo sink.config.retry.timeout? sink.session.state sink'.session.state := by
  obtain ⟨j, hcommits, -⟩ := write_keeps h
  exact hcommits.submits

/-- **A parallel run only submits**, in whatever order its steps are taken. -/
theorem Parallel.Run.submits {plan : Plan σ} {st st' : State σ} {log : List Event}
    (h : Run plan st log st') :
    plan.store.SubmitsTo plan.config.retry.timeout? st.session.state st'.session.state := by
  refine h.rule (P := fun _ st' => plan.store.SubmitsTo plan.config.retry.timeout?
    st.session.state st'.session.state) .none ?_
  intro log st₁ more st₂ hsubmits hm
  rcases hm.session_state with ⟨-, hstate⟩ | ⟨n, c, -, hstate⟩
  · rw [hstate]
    exact hsubmits
  · rw [hstate]
    exact hsubmits.snoc c.batch.operations

end Submits

end Sluice
