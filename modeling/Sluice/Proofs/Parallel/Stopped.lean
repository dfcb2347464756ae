import Sluice.Proofs.Parallel.Ending
import Sluice.Sink.Execution

/-!
# What a stopped parallel run accounts for

A parallel run is stopped when a worker or the producer has failed. Everything else is cancelled
then, once, at whatever point it has reached; a commit in flight is seen through and booked. The
failure that is reported carries the merged account of all workers.

* `Journals.results_perm`: the results of committed batches are those of the batches that the store
  has applied;
* `Sink.parallel_stopped`: **the account of a stopped run tells of everything that the store has
  applied**, and of everything else that was submitted.
-/

namespace Sluice

open Parallel

namespace Parallel

variable {σ : Type} {plan : Plan σ} {log : List Event} {st : State σ} {J : Nat → Journal}

theorem course_of_stop? {stop : Stop} (h : stop? st = some stop) : st.course ≠ .running := by
  intro hrunning
  unfold stop? at h
  rw [hrunning] at h
  cases h

/-- Every failure of a stopped run is one of the sink. -/
theorem failureOf_kind (config : Config) (count : Nat) (stop : Stop) :
    (failureOf config count stop).kind = .sink := by
  unfold failureOf
  dsimp only
  split
  · next h => exact h
  · rfl

/-- With computable delays no commit has been broken off. -/
theorem Journals.clear (hJ : Journals plan log st J) (hover : AllOver st)
    (hp : plan.config.retry.IsComputable) {n : Nat} (hn : n < st.lanes.length) : (J n).IsClear := by
  obtain ⟨lane, -, hbooks⟩ := hJ.over hover hn
  have hclear := hbooks.computable hp
  rwa [List.append_nil] at hclear

/-- **The committed results are those of the batches that the store has applied.** -/
theorem Journals.results_perm (hJ : Journals plan log st J) (hover : AllOver st)
    (hnumbers : ∀ e ∈ submitted log, e.1 < st.lanes.length) :
    ((mergedResult st.lanes).committed.map fun c => (c.batch, c.succeeded)).Perm
      ((appliedIn ((submitted log).map (·.2))).map fun b => (b.id, b.count)) := by
  obtain ⟨-, -, hcommitted, -⟩ := hJ.merged
  refine List.Perm.trans ?_ ((hJ.applied_perm hover hnumbers).map _).symm
  rw [hcommitted, List.map_flatMap, List.map_flatMap]
  refine List.Perm.flatMap_left _ fun n hn => ?_
  obtain ⟨lane, -, hbooks⟩ := hJ.over hover (List.mem_range.mp hn)
  have hsound := hbooks.sound
  rw [List.append_nil] at hsound
  rw [Journal.committed_applied hsound]

end Parallel

/-- **A stopped run accounts for everything that the store has applied**, in whatever order its
steps were taken and wherever its workers were when they were cancelled. Once everything is at its
end, the failure of the sink carries the merged account: as many operations are written as the store
has applied, the committed batches are those that it has applied, every batch that was ever
submitted is committed or failed and not both, and nothing is submitted any more. -/
theorem Sink.parallel_stopped {σ : Type} {store : Store σ} {sink : Sink (Watched σ)}
    {source : Source} {room count : Nat} {log : List Event} {st : State (Watched σ)} {stop : Stop}
    (hp : sink.config.retry.IsComputable)
    (h : Parallel.Run (sink.plan store.watched room source)
      (start sink.config count source sink.session) log st)
    (hstop : stop? st = some stop) (hover : AllOver st) :
    let r := (sink.conclude st).1
    let submissions := (submitted log).map (·.2)
    (∃ f, parallelEnding sink.config count r (stop? st) = .failed f (some r) ∧ f.kind = .sink) ∧
    st.session.state.seen = sink.session.state.seen ++
      submissions.map (fun e => ⟨e.1.operations, sink.config.retry.timeout?, e.2⟩) ∧
    r.written = Batch.total (appliedIn submissions) ∧
    (r.committed.map fun c => (c.batch, c.succeeded)).Perm
      ((appliedIn submissions).map fun b => (b.id, b.count)) ∧
    ((r.committed ++ r.failed).map (·.batch)).Nodup ∧
    (∀ e ∈ submissions, e.1.id ∈ (r.committed ++ r.failed).map (·.batch)) ∧
    (∀ e ∈ submissions, ∀ e' ∈ submissions, e.1.id = e'.1.id → e.1 = e'.1) ∧
    ∀ choice, step (sink.plan store.watched room source) st choice = none := by
  have hne := course_of_stop? hstop
  have hlength : st.lanes.length = count := h.length_lanes.trans (length_start ..)
  have hnumbers : ∀ e ∈ submitted log, e.1 < st.lanes.length := by
    rw [hlength, ← length_start sink.config count source sink.session]
    exact h.numbers.2
  obtain ⟨J, hJ⟩ := h.booked.exists_journals
  obtain ⟨-, hwritten, -⟩ := hJ.merged
  have hclear : ∀ n < st.lanes.length, (J n).IsClear := fun n hn => hJ.clear hover hp hn
  have hids := hJ.ids_perm hover hclear
  have hnodup := hJ.nodup_ids hover
  have hmem : ∀ e ∈ (submitted log).map (·.2), e.1 ∈ batchesOfAll J st.lanes.length :=
    fun e he => hJ.mem_of_submitted hover hnumbers he
  refine ⟨?_, ?_, ?_, hJ.results_perm hover hnumbers, hids.nodup_iff.mpr hnodup, ?_, ?_, ?_⟩
  · rw [hstop]
    exact ⟨_, rfl, failureOf_kind sink.config count stop⟩
  · rw [h.seen rfl, List.map_map]
    rfl
  · exact hwritten.trans (Batch.total_perm (hJ.applied_perm hover hnumbers)).symm
  · exact fun e he => hids.mem_iff.mpr (List.mem_map_of_mem (hmem e he))
  · exact fun e he e' he' hid => List.inj_on_of_nodup_map hnodup (hmem e he) (hmem e' he') hid
  · intro choice
    exact hover.step_none (h.settling hne).producer fun hrunning => absurd hrunning hne

/-- Two workers with a batch of one number each in flight: the first one fails, and the second one,
which is cancelled in the middle of its commit, is accounted for. -/
theorem Sink.parallel_stopped_inFlight :
    let sink := Sample.sink ⟨1, 1000⟩ .fail (Watched.mk (Sample.store 1) [])
    let source : Source := ⟨[Sample.record 1, Sample.record 2, Sample.record 3], none⟩
    let st := drive (sink.plan Scripted.store.watched 1 source) usualOrder 100
      (start sink.config 2 source sink.session)
    ∃ log, (sink.conclude st).1.written = Batch.total (appliedIn ((submitted log).map (·.2))) ∧
      (sink.conclude st).1.written = 1 ∧ (sink.conclude st).1.failed.length = 1 := by
  intro sink source st
  have hstop : (stop? st).isSome = true := by decide +kernel
  obtain ⟨stop, hstop⟩ := Option.isSome_iff_exists.mp hstop
  obtain ⟨log, hrun⟩ := Run.drive_start (sink.plan Scripted.store.watched 1 source) usualOrder 100
    (start sink.config 2 source sink.session)
  have h := parallel_stopped (by decide +kernel) hrun hstop (by decide +kernel)
  exact ⟨log, h.2.2.1, by decide +kernel, by decide +kernel⟩

end Sluice
