import Sluice.Proofs.Parallel.Bounded
import Sluice.Proofs.Parallel.Stopped
import Sluice.Proofs.Sink.Told

/-!
# What the failure of a stopped run carries

When a run is stopped, the failure of the sink is to carry the account of what was done before. The
account is there in either way of writing (`SinkResult.Tells`), and it is attached wherever the sink
itself has found the reason to stop. In a parallel run it is attached whatever the reason was. In a
run in sequence it gets lost when the reason comes from outside: then the failure is made anew where
the account is out of reach.

* `Parallel.Run.tells`: **a parallel run that is over tells of its submissions**, like one in
  sequence;
* `Sink.Writes`: the runs of a sink, in sequence or with workers in any order of steps;
  `executeWith_writes`: a whole run is one of them;
* `Sink.writes_stopped`: **what a run that fails reports**, and with which account.
-/

namespace Sluice

open Parallel

/-! ## 1. Accounts of parallel runs -/

section Parallel

variable {σ : Type}

/-- What an account of several workers is about has been submitted. -/
theorem Parallel.Journals.begun {plan : Plan σ} {log : List Event} {st : State σ}
    {J : Nat → Journal} (hJ : Journals plan log st J) (hover : AllOver st) {b : Batch}
    (hb : b ∈ batchesOfAll J st.lanes.length) : ∃ e ∈ (submitted log).map (·.2), e.1 = b := by
  obtain ⟨n, hn, hb⟩ := List.mem_flatMap.mp hb
  obtain ⟨lane, -, hbooks⟩ := hJ.over hover (List.mem_range.mp hn)
  have hbegun := hbooks.begun b
  rw [List.append_nil] at hbegun
  obtain ⟨e, he, heb⟩ := hbegun hb
  unfold submittedBy entriesOf at he
  obtain ⟨entry, hentry, rfl⟩ := List.mem_map.mp he
  exact ⟨entry.2, List.mem_map_of_mem (List.mem_filter.mp hentry).1, heb⟩

/-- **The account of a parallel run tells of its submissions**, once everything is at its end. -/
theorem Parallel.Run.tells {store : Store σ} {sink : Sink (Watched σ)} {source : Source}
    {room count : Nat} {log : List Event} {st : State (Watched σ)}
    (hp : sink.config.retry.IsComputable)
    (h : Parallel.Run (sink.plan store.watched room source)
      (Parallel.start sink.config count source sink.session) log st) (hover : AllOver st) :
    st.session.state.seen = sink.session.state.seen ++
        ((submitted log).map (·.2)).map (Submission.of sink.config.retry) ∧
      (sink.conclude st).1.Tells ((submitted log).map (·.2)) := by
  have hlength : st.lanes.length = count := h.length_lanes.trans (length_start ..)
  have hnumbers : ∀ e ∈ submitted log, e.1 < st.lanes.length := by
    rw [hlength, ← length_start sink.config count source sink.session]
    exact h.numbers.2
  obtain ⟨J, hJ⟩ := h.booked.exists_journals
  obtain ⟨-, hwritten, -⟩ := hJ.merged
  have happlied := Batch.total_perm (hJ.applied_perm hover hnumbers)
  refine ⟨?_, SinkResult.tells_of (batchesOfAll J st.lanes.length) ?_ ?_ ?_ ?_ ?_ ?_⟩
  · rw [h.seen rfl, List.map_map]
    rfl
  · exact hJ.results_perm hover hnumbers
  · exact hwritten.trans happlied.symm
  · exact hJ.ids_perm hover fun n hn => hJ.clear hover hp hn
  · exact hJ.nodup_ids hover
  · exact fun e he => hJ.mem_of_submitted hover hnumbers he
  · exact fun b hb => hJ.begun hover hb

end Parallel

/-! ## 2. Runs -/

/-- Whether a run is stopped by something that the sink has no part in. -/
def Stop.isOutside : Stop → Bool
  | .outside _ => true
  | _ => false

namespace Sink

variable {σ : Type}

/-- **The runs of a sink** that come to their end, with what stopped them, the account and the sink
then: in sequence, or with several workers, whose steps come in any order until none is possible. -/
inductive Writes (store : Store σ) (sink : Sink σ) (source : Source) :
    Way → Option Stop → SinkResult → Sink σ → Prop where
  | sequential {stop? : Option Stop} {r : SinkResult} {sink' : Sink σ}
      (h : sink.write store source = (stop?, r, sink')) :
      Writes store sink source .sequential stop? r sink'
  | parallel {room count : Nat} {log : List Event} {st : State σ}
      (hrun : Parallel.Run (sink.plan store room source)
        (start sink.config count source sink.session) log st)
      (hcourse : st.course ≠ .interrupted) (hstuck : Stuck (sink.plan store room source) st) :
      Writes store sink source (.parallel count) (stop? st) (sink.conclude st).1
        (sink.conclude st).2

/-- How a run ends that was stopped by this or by nothing, with its account. -/
def endingBy (sink : Sink σ) (way : Way) (r : SinkResult) (stop? : Option Stop) : Ending :=
  (sink.conclusion <|
    match way with
    | .sequential => sequentialEnding sink.config r stop?
    | .parallel count => parallelEnding sink.config count.toNat r stop?).1

/-- A whole run ends as its writing does, whatever is left to do then. -/
theorem executeWith_ending {config : Config} {store : Store σ} {owned : Bool} {source : Source}
    {s s₀ : Session σ} {sink sink' : Sink σ} {ending : Ending}
    (hsetup : setup config store owned s = (.ok sink, s₀))
    (hwritten : sink.writeBy store
      (if 1 < config.workers then .parallel config.workers else .sequential) source =
        (ending, sink')) :
    (executeWith config store owned source s).1 = (sink'.conclusion ending).1 := by
  unfold executeWith
  rw [hsetup]
  dsimp only
  rw [hwritten]
  dsimp only
  split
  · next r hr => exact hr.symm
  · rfl

/-- **A whole run is one of these runs** of the sink that it has set up, and ends as this one
does. -/
theorem executeWith_writes {config : Config} {store : Store σ} {owned : Bool} (source : Source)
    {s s₀ : Session σ} {sink : Sink σ} (hsetup : setup config store owned s = (.ok sink, s₀)) :
    ∃ way stop? r sink₀ sink', sink₀.config = sink.config ∧
      sink₀.transformer = sink.transformer ∧ sink₀.session.state = sink.session.state ∧
      Writes store sink₀ source way stop? r sink' ∧
      (way = .sequential ↔ ¬ 1 < config.workers) ∧
      (executeWith config store owned source s).1 = sink'.endingBy way r stop? := by
  by_cases hworkers : 1 < config.workers
  · have hcount : Parallel.workers (config.workers : Nat) = .ok config.workers := by
      unfold Parallel.workers
      rw [if_neg (by omega), Int.toNat_natCast]
    let sink₀ : Sink σ := { sink with
      session := reportTable sink.config
        ("Writing with " ++ Text.ofInt config.workers ++ " workers") sink.session }
    obtain ⟨log, st, hrun, hstuck, hcourse, hwrite⟩ :=
      sink₀.writeParallel_run store config.workers source
    have hwritten : sink.writeBy store
        (if 1 < config.workers then .parallel config.workers else .sequential) source =
          (parallelEnding sink.config config.workers (sink₀.conclude st).1 (stop? st),
            (sink₀.conclude st).2) := by
      rw [if_pos hworkers]
      unfold writeBy
      dsimp only
      rw [hcount]
      dsimp only
      rw [hwrite]
      rfl
    refine ⟨.parallel config.workers, _, _, sink₀, _, rfl, rfl, rfl,
      .parallel hrun hcourse hstuck, ?_, executeWith_ending hsetup hwritten⟩
    exact ⟨fun h => (by cases h), fun h => absurd hworkers h⟩
  · have hwritten : sink.writeBy store
        (if 1 < config.workers then .parallel config.workers else .sequential) source =
          (sequentialEnding sink.config (sink.write store source).2.1 (sink.write store source).1,
            (sink.write store source).2.2) := by
      rw [if_neg hworkers]
      rfl
    exact ⟨.sequential, _, _, sink, _, rfl, rfl, rfl, .sequential rfl,
      ⟨fun _ => hworkers, fun _ => rfl⟩, executeWith_ending hsetup hwritten⟩

/-! ## 3. Failures -/

/-- A run that nothing stops is done. -/
theorem endingBy_none (sink : Sink σ) (way : Way) (r : SinkResult) :
    sink.endingBy way r none = .done r := by
  cases way <;> rfl

/-- **The failure that a stopped run reports** is one of the sink. It carries the account, unless
the run was in sequence and is stopped from outside. -/
theorem endingBy_stop (sink : Sink σ) (way : Way) (r : SinkResult) (stop : Stop) :
    ∃ f, f.kind = .sink ∧ sink.endingBy way r (some stop) =
      .failed f (if way = .sequential ∧ stop.isOutside = true then none else some r) := by
  unfold endingBy
  cases way with
  | parallel count =>
    have hkind := failureOf_kind sink.config count.toNat stop
    refine ⟨_, hkind, ?_⟩
    unfold parallelEnding conclusion
    dsimp only
    rw [if_pos hkind, if_neg (by simp)]
  | sequential =>
    cases stop with
    | batch id e => exact ⟨_, rfl, rfl⟩
    | record index rejection => exact ⟨_, rfl, rfl⟩
    | outside f =>
      unfold sequentialEnding conclusion
      dsimp only
      by_cases hkind : f.kind = .sink
      · rw [if_pos hkind]
        exact ⟨f, hkind, rfl⟩
      · rw [if_neg hkind]
        exact ⟨_, rfl, rfl⟩

/-- A run that reports a failure has been stopped. -/
theorem endingBy_failed {sink : Sink σ} {way : Way} {r : SinkResult} {stop? : Option Stop}
    {f : Failure} {partial? : Option SinkResult}
    (h : sink.endingBy way r stop? = .failed f partial?) :
    ∃ stop, stop? = some stop ∧ f.kind = .sink ∧
      partial? = if way = .sequential ∧ stop.isOutside = true then none else some r := by
  cases stop? with
  | none =>
    rw [endingBy_none] at h
    cases h
  | some stop =>
    obtain ⟨g, hkind, hending⟩ := endingBy_stop sink way r stop
    obtain ⟨rfl, rfl⟩ := Ending.failed.inj (h.symm.trans hending)
    exact ⟨stop, rfl, hkind, rfl⟩

/-- **What a run that fails reports.** In sequence or with several workers in any order of their
steps (`executeWith_writes`), whatever the source and the store do: the failure is one of the sink,
and there is an account that tells of all submissions, in which the committed batches are those that
the store has applied and the failed ones those that were submitted in vain. The failure carries
this account, except in a run in sequence that is stopped from outside, by its source or by a record
that becomes no operation and is not rejected. Then it carries none. -/
theorem writes_stopped {store : Store σ} {sink sink' : Sink (Watched σ)} {source : Source}
    {way : Way} {stop? : Option Stop} {r : SinkResult} (hp : sink.config.retry.IsComputable)
    (h : sink.Writes store.watched source way stop? r sink') {f : Failure}
    {partial? : Option SinkResult} (hfailed : sink'.endingBy way r stop? = .failed f partial?) :
    f.kind = .sink ∧
    (∃ subs, sink'.session.state.seen =
        sink.session.state.seen ++ subs.map (Submission.of sink.config.retry) ∧ r.Tells subs) ∧
    ∃ stop, stop? = some stop ∧
      (partial? = if way = .sequential ∧ stop.isOutside = true then none else some r) ∧
      (way = .sequential → ∀ g, stop = .outside g →
        source.failure? = some g ∨ ¬ sink.transformer.Decides source.records) := by
  obtain ⟨stop, hstop, hkind, hcarried⟩ := endingBy_failed hfailed
  refine ⟨hkind, ?_, stop, hstop, hcarried, ?_⟩
  · cases h with
    | sequential h => exact write_tells hp h
    | parallel hrun hcourse hstuck =>
      have hover := hrun.over_of_stuck (course_of_stop? hstop) hstuck
      exact ⟨_, hrun.tells hp hover⟩
  · rintro rfl g rfl
    subst hstop
    cases h with
    | sequential h => exact write_outside hp h

/-- Two batches of one number each, of which the first one fails: the failure carries an account in
which it is the failed one. -/
theorem writes_stopped_batch :
    let sink := Sample.sink ⟨1, 1000⟩ .fail (Watched.mk (Sample.store 1) [])
    let source : Source := ⟨[Sample.record 1, Sample.record 2], none⟩
    let out := sink.write Scripted.store.watched source
    ∃ f r, out.2.2.endingBy .sequential out.2.1 out.1 = .failed f (some r) ∧ f.kind = .sink ∧
      r.failed.map (·.batch) = ["batch-1"] ∧
      ∃ subs, out.2.2.session.state.seen.length = subs.length ∧ r.Tells subs := by
  intro sink source out
  have hout : sink.write Scripted.store.watched source = (out.1, out.2.1, out.2.2) := rfl
  have hending : out.2.2.endingBy .sequential out.2.1 out.1 = .failed _ (some out.2.1) := rfl
  have hp : sink.config.retry.IsComputable := by decide +kernel
  obtain ⟨hkind, ⟨subs, hseen, htells⟩, -⟩ := writes_stopped hp (.sequential hout) hending
  refine ⟨_, _, hending, hkind, by decide +kernel, subs, ?_, htells⟩
  rw [hseen]
  simp [sink, Sample.sink]

/-- **An account gets lost**: a source that fails behind its first record, which has been written. -/
theorem executeWith_lost :
    let source : Source := ⟨[Sample.record 1], some (.outside "OSError" "source went away")⟩
    let out := executeWith (Sample.config ⟨1, 1000⟩ .fail) Memory.store true source
      ⟨{}, .zero, [], []⟩
    (∃ f, out.1 = .failed f none ∧ f.kind = .sink) ∧
      out.2.state.tables.map (fun e => e.2.length) = [1] := by
  intro source out
  exact ⟨⟨_, rfl, rfl⟩, by decide +kernel⟩

end Sink

end Sluice
