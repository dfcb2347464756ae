import Sluice.Proofs.Parallel.Handled
import Sluice.Proofs.Sink.Undisturbed
import Mathlib.Data.List.Flatten

/-!
# What is applied and what is under way

At every moment of a parallel run the batches that the store has applied and those whose commits are
under way come from different records. So as long as no worker has stopped, their operations are
among those of the records, each of them at most once.

* `Run.applied`: **the tables are the old ones with the applied batches applied**, in the order of
  the submissions;
* `booksFor_sublist`: what one worker has had applied, and has under way, it has taken;
* `Dealing.takenBy_sublist`: what it has taken has been dealt to it;
* `Booked.within`: **all of that together is among the operations of the records**.
-/

namespace Sluice.Parallel

variable {σ : Type}

/-! ## 1. The tables -/

/-- **The tables at any moment of a run**: those from before, with the applied batches applied. -/
theorem Run.applied {plan : Plan σ} {memory : σ → Memory} (hg : plan.store.Guards memory)
    {st st' : State σ} {log : List Event} (h : Run plan st log st') :
    Memory.applyBatches (memory st.session.state).tables (appliedIn ((submitted log).map (·.2))) =
      .ok (memory st'.session.state).tables := by
  refine h.rule (P := fun log st' => Memory.applyBatches (memory st.session.state).tables
    (appliedIn ((submitted log).map (·.2))) = .ok (memory st'.session.state).tables) rfl ?_
  intro log st₁ more st₂ happlied hm
  rw [submitted_append, List.map_append, appliedIn_append, Memory.applyBatches_append, happlied]
  change Memory.applyBatches _ _ = _
  rcases hm.session_state with ⟨hnone, hstate⟩ | ⟨n, c, hsubmitted, hstate⟩
  · rw [hnone, hstate]
    rfl
  · rw [hsubmitted, hstate]
    unfold Commit.reply
    cases hout : (plan.store.submit st₁.session.state c.batch.operations
        plan.config.retry.timeout?).outcome with
    | ok u =>
      change Memory.applyBatches _ [c.batch] = _
      rw [Memory.applyBatches_singleton]
      exact hg.applied hout
    | error f => exact congrArg Except.ok (hg.unchanged hout).symm

/-! ## 2. One worker -/

/-- The batch whose commit is under way. -/
def Phase.pending : Phase → List Batch
  | .committing c _ _ => [c.batch]
  | _ => []

/-- **What a worker has had applied and has under way, it has taken.** -/
theorem booksFor_sublist {plan : Plan σ} {config : Config} {n : Nat} {taken : List (Nat × Value)}
    {subs : List (Batch × Except Failure Unit)} {j : Journal} {lane : Lane}
    (h : booksFor plan (fresh config n) taken subs j lane) :
    ((appliedIn subs ++ lane.phase.pending).flatMap (·.operations)).Sublist
      (operations plan.transformer taken) := by
  have hsub : (appliedIn subs ++ lane.phase.pending).Sublist (j.batches ++ lane.phase.flight) := by
    have happlied := h.applied
    rw [happlied, Journal.applied_append, List.append_assoc]
    refine (Journal.withResult_sublist _ j).append ?_
    cases hphase : lane.phase with
    | ended b v begun next =>
      exact (List.append_nil _).symm ▸ Journal.withResult_sublist Commit.Verdict.committed? [(b, v)]
    | _ => exact List.Sublist.refl _
  have hsealed : j.batches ++ lane.phase.flight <+: Plan.batchesOf (fresh config n)
      (operations plan.transformer taken) := h.sealed.cut lane.worker.accumulator
  have hall : (Plan.batchesOf (fresh config n) (operations plan.transformer taken)).flatMap
      (·.operations) = operations plan.transformer taken := Accumulator.flatMap_batchesOf _ _
  rw [← hall]
  exact (hsub.trans hsealed.sublist).flatMap _

section Dealt

variable {records : List Value} {log : List Event} {st : State σ}

/-- The record that an item brings. -/
def Item.record? : Item → Option (Nat × Value)
  | .record index v => some (index, v)
  | .last => none

theorem record?_ofRecord (xs : List (Nat × Value)) :
    (xs.map Item.ofRecord).filterMap Item.record? = xs := by
  rw [List.filterMap_map]
  exact List.filterMap_some

theorem record?_markIf (b : Bool) : (markIf b).filterMap Item.record? = [] := by
  cases b <;> rfl

/-- Those records that have been dealt first are dealt to the same workers. -/
theorem share_take_isPrefix (count : Nat) (records : List Value) (k n : Nat) :
    share count (records.take k) n <+: share count records n := by
  have hall : positioned 0 (records.take k) <+: positioned 0 records := by
    refine ⟨positioned (0 + (records.take k).length) (records.drop k), ?_⟩
    unfold positioned
    rw [← List.map_append, ← List.zipIdx_append, List.take_append_drop]
  rw [share_eq, share_eq]
  exact hall.filter _

/-- What a worker has taken, and what waits in its queue, has been dealt to it. -/
theorem Dealing.dealt_isPrefix (hd : Dealing records log st) {n : Nat} {lane : Lane}
    (hlane : st.lanes[n]? = some lane) (hstop : lane.phase.stop? = none) :
    takenBy n log ++ lane.queue.filterMap Item.record? <+: share st.lanes.length records n := by
  have hqueue := congrArg (List.filterMap Item.record?) (hd.queues n lane hlane hstop)
  rw [List.filterMap_append, List.filterMap_append, List.filterMap_append, record?_ofRecord,
    record?_ofRecord, record?_markIf, record?_markIf, List.append_nil, List.append_nil] at hqueue
  rw [hqueue]
  exact share_take_isPrefix ..

theorem Dealing.takenBy_sublist (hd : Dealing records log st) {n : Nat} {lane : Lane}
    (hlane : st.lanes[n]? = some lane) (hstop : lane.phase.stop? = none) :
    (takenBy n log).Sublist (share st.lanes.length records n) :=
  ((List.prefix_append _ _).trans (hd.dealt_isPrefix hlane hstop)).sublist

/-- What waits in a queue is one of the records, or the end mark. -/
theorem Dealing.mem_records (hd : Dealing records log st) {n : Nat} {lane : Lane}
    (hlane : st.lanes[n]? = some lane) (hstop : lane.phase.stop? = none) {index : Nat} {v : Value}
    (h : Item.record index v ∈ lane.queue) : v ∈ records := by
  have hqueue : (index, v) ∈ lane.queue.filterMap Item.record? :=
    List.mem_filterMap.mpr ⟨_, h, rfl⟩
  have hshare := (hd.dealt_isPrefix hlane hstop).subset (List.mem_append.mpr (.inr hqueue))
  exact List.mem_of_getElem? ((mem_share ..).mp hshare).2

end Dealt

/-! ## 3. All workers -/

theorem operations_positioned (t : Transformer) (first : Nat) (records : List Value) :
    operations t (positioned first records) = t.operationsOf records := by
  unfold operations positioned Transformer.operationsOf
  rw [List.filterMap_map]
  have hvalues : records = (records.zipIdx first).map (·.1) := (List.zipIdx_map_fst first records).symm
  conv_rhs => rw [hvalues, List.filterMap_map]
  rfl

/-- What the worker with a number has under way. -/
def State.pendingOf (st : State σ) (n : Nat) : List Batch :=
  (st.lanes[n]?).elim [] (·.phase.pending)

theorem State.pendingOf_eq {st : State σ} {n : Nat} {lane : Lane}
    (hlane : st.lanes[n]? = some lane) : st.pendingOf n = lane.phase.pending := by
  unfold pendingOf
  rw [hlane]
  rfl

/-- **What the store has applied and what is under way, all workers together, is among the
operations of the records**, each at most once. -/
theorem Booked.within {plan : Plan σ} {records : List Value} {log : List Event} {st : State σ}
    (hb : Booked plan log st) (hd : Dealing records log st) (hcount : 0 < st.lanes.length)
    (hlive : ∀ (n : Nat) (lane : Lane), st.lanes[n]? = some lane → lane.phase.stop? = none)
    (hnumbers : ∀ e ∈ submitted log, e.1 < st.lanes.length) :
    List.Subperm ((appliedIn ((submitted log).map (·.2)) ++
        st.lanes.flatMap (·.phase.pending)).flatMap (·.operations))
      (plan.transformer.operationsOf records) := by
  -- worker by worker
  have happlied : (appliedIn ((submitted log).map (·.2))).Perm
      ((List.range st.lanes.length).flatMap fun n => appliedIn (submittedBy n log)) := by
    have hperm := ((flatMap_entriesOf_perm hnumbers).symm.filterMap _ : (appliedIn _).Perm _)
    rwa [List.filterMap_flatMap] at hperm
  have hpending : st.lanes.flatMap (·.phase.pending) =
      (List.range st.lanes.length).flatMap st.pendingOf :=
    flatMap_lanes fun n lane hlane => (State.pendingOf_eq hlane).symm
  have hboth := happlied.append_right (st.lanes.flatMap (·.phase.pending))
  rw [hpending] at hboth ⊢
  have hall := (hboth.trans (List.flatMap_append_perm ..)).flatMap_right (·.operations)
  rw [List.flatMap_assoc] at hall
  have hone : ∀ n ∈ List.range st.lanes.length,
      ((appliedIn (submittedBy n log) ++ st.pendingOf n).flatMap (·.operations)).Sublist
        (operations plan.transformer (share st.lanes.length records n)) := by
    intro n hn
    have hlane := List.getElem?_eq_getElem (List.mem_range.mp hn)
    obtain ⟨j, hj⟩ := hb n _ hlane
    rw [State.pendingOf_eq hlane]
    exact (booksFor_sublist hj).trans
      ((hd.takenBy_sublist hlane (hlive n _ hlane)).filterMap _)
  have hshares := operations_share_perm plan.transformer hcount records
  rw [operations_positioned] at hshares
  exact (hall.subperm.trans (List.Sublist.flatMap_right _ hone).subperm).trans hshares.subperm

theorem Run.within {plan : Plan σ} {count : Nat} {source : Source} {s : Session σ}
    {log : List Event} {st : State σ}
    (h : Run plan (Parallel.start plan.config count source s) log st) (hcourse : st.course = .running)
    (hcount : 0 < count)
    (hlive : ∀ (n : Nat) (lane : Lane), st.lanes[n]? = some lane → lane.phase.stop? = none) :
    List.Subperm ((appliedIn ((submitted log).map (·.2)) ++
        st.lanes.flatMap (·.phase.pending)).flatMap (·.operations))
      (plan.transformer.operationsOf source.records) := by
  have hlength := h.length_lanes
  refine h.booked.within (h.dealing hcourse) ?_ hlive ?_
  · rw [hlength, length_start]
    exact hcount
  · rw [hlength]
    exact h.numbers.2

end Sluice.Parallel
