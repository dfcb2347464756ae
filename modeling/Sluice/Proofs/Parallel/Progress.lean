import Sluice.Proofs.Parallel.Bounded

/-!
# Parallel runs never get stuck

The producer may wait for room in one queue while other workers wait for records; a worker that has
stopped empties its queue no more, and the producer may be waiting for just that queue. None of this
is a deadlock. A run is left when everything is at its end and no error is left to be noticed
(`State.Returns`), and as long as it is not, some part can go on.

* `Run.returns_of_stuck`, `State.Returns.stuck`: **nothing can go on exactly when the run is left**;
* `Run.concludes_iff`: so a run is concluded exactly where none of its parts can go on;
* `Sink.parallel_goesOn`: so it is in every state that can be reached, and from each of them the run
  can be brought to its end;
* `Sink.writeParallel_concludes`: **writing in parallel comes to such an end**, and is concluded
  there.
-/

namespace Sluice

namespace Parallel

variable {σ : Type}

/-! ## 1. Leaving a run -/

/-- **A run is left**: every worker is at its end and so is the producer, and if nothing has been
cancelled, then none of them has ended with an error. -/
structure State.Returns (st : State σ) : Prop where
  lanes : AllOver st
  producer : st.producer.isOver = true
  noticed : st.course = .running →
    (∀ lane ∈ st.lanes, lane.phase.stop? = none) ∧ st.producer.failure? = none

section Returns

variable {plan : Plan σ} {st st' st₀ : State σ} {log : List Event}

/-- What `State.isLeft` decides. -/
theorem State.isLeft_iff : st.isLeft = true ↔ st.Returns := by
  unfold isLeft
  rw [Bool.and_eq_true, Bool.and_eq_true, List.all_eq_true]
  constructor
  · rintro ⟨⟨hlanes, hproducer⟩, hcourse⟩
    refine ⟨hlanes, hproducer, fun hrunning => ?_⟩
    rw [hrunning, Bool.and_eq_true, List.all_eq_true] at hcourse
    exact ⟨fun lane hlane => Option.isNone_iff_eq_none.mp (hcourse.1 lane hlane),
      Option.isNone_iff_eq_none.mp hcourse.2⟩
  · intro h
    refine ⟨⟨h.lanes, h.producer⟩, ?_⟩
    cases hcourse : st.course with
    | running =>
      obtain ⟨hstops, hfailure⟩ := h.noticed hcourse
      rw [Bool.and_eq_true, List.all_eq_true]
      exact ⟨fun lane hlane => Option.isNone_iff_eq_none.mpr (hstops lane hlane),
        Option.isNone_iff_eq_none.mpr hfailure⟩
    | stopping stop => rfl
    | interrupted => rfl

/-- Where a run is left nothing can go on. -/
theorem State.Returns.stuck (h : st.Returns) : Stuck plan st := by
  refine fun choice hne => h.lanes.step_none h.producer fun hrunning hnotice => ?_
  obtain ⟨hstop, hfailure⟩ := h.noticed hrunning
  rcases hnotice with ⟨n, rfl⟩ | rfl | rfl
  · cases hlane : st.lanes[n]? with
    | none => simp [step, hrunning, hlane]
    | some lane => simp [step, hrunning, hlane, hstop lane (List.mem_of_getElem? hlane)]
  · cases hproducer : st.producer with
    | failed f => rw [hproducer] at hfailure; cases hfailure
    | _ => simp [step, hrunning, hproducer]
  · exact absurd rfl hne

/-- **Where nothing can go on the run is left**, in whatever order its steps were taken. A run that
has been stopped has cancelled the producer, wherever that was waiting; one that has not been
stopped has dealt all records, since every queue that the producer could wait for is emptied. -/
theorem Run.returns_of_stuck {config : Config} {count : Nat} {source : Source} {s : Session σ}
    (h : Run plan (Parallel.start config count source s) log st) (hcount : 0 < count)
    (hroom : 0 < plan.room) (hstuck : Stuck plan st) : st.Returns := by
  by_cases hcourse : st.course = .running
  · obtain ⟨hlanes, hproducer⟩ := h.finished_of_stuck hcount hroom hcourse hstuck
    refine ⟨fun lane hlane => ?_, ?_, fun _ => ⟨fun lane hlane => ?_, ?_⟩⟩
    · rw [hlanes lane hlane]
      rfl
    · rw [hproducer]
      rfl
    · rw [hlanes lane hlane]
      rfl
    · rw [hproducer]
      rfl
  · exact ⟨h.over_of_stuck hcourse hstuck, (h.settling hcourse).producer,
      fun hrunning => absurd hrunning hcourse⟩

/-- **A run is concluded where none of its parts can go on**, and nowhere else. -/
theorem Run.concludes_iff {config : Config} {count : Nat} {source : Source} {s : Session σ}
    (h : Run plan (Parallel.start config count source s) log st) (hcount : 0 < count)
    (hroom : 0 < plan.room) (sink : Sink σ) :
    (∃ ending, sink.conclude? st = some ending) ↔ Stuck plan st := by
  unfold Sink.conclude?
  constructor
  · rintro ⟨ending, hending⟩
    split at hending
    · next hleft => exact (State.isLeft_iff.mp hleft).stuck
    · cases hending
  · intro hstuck
    rw [if_pos (State.isLeft_iff.mpr (h.returns_of_stuck hcount hroom hstuck))]
    exact ⟨_, rfl⟩

theorem Reachable.trans (h : Reachable plan st₀ st) (h' : Reachable plan st st') :
    Reachable plan st₀ st' := by
  induction h' with
  | start => exact h
  | step _ hs ih => exact ih.step hs

end Returns

end Parallel

/-! ## 2. Progress -/

open Parallel

/-- **A parallel run never gets stuck.** With any number of workers, queues of any size, whatever
the records are, however the store answers and in whatever order the steps are taken: as long as a
worker or the producer is unfinished, or an error is not noticed yet, something can go on without an
interruption from outside; when all is at its end nothing does; and from every state that is reached
the run can be brought there. -/
theorem Sink.parallel_goesOn {σ : Type} {store : Store σ} {sink : Sink σ} {source : Source}
    {room count : Nat} {st : State σ} (hcount : 0 < count) (hroom : 0 < room)
    (h : Reachable (sink.plan store room source) (start sink.config count source sink.session) st) :
    (¬ st.Returns → ∃ choice st', choice ≠ .interrupt ∧
      step (sink.plan store room source) st choice = some st') ∧
    (st.Returns → ∀ choice, choice ≠ .interrupt →
      step (sink.plan store room source) st choice = none) ∧
    ∃ st', Reachable (sink.plan store room source) st st' ∧ st'.Returns := by
  obtain ⟨log, hrun⟩ := reachable_iff.mp h
  refine ⟨fun hopen => ?_, fun hreturns => hreturns.stuck, ?_⟩
  · have hgoes : ¬ Stuck (sink.plan store room source) st :=
      fun hstuck => hopen (hrun.returns_of_stuck hcount hroom hstuck)
    unfold Stuck at hgoes
    push Not at hgoes
    obtain ⟨choice, hne, hstep⟩ := hgoes
    obtain ⟨st', hst'⟩ := Option.ne_none_iff_exists'.mp hstep
    exact ⟨choice, st', hne, hst'⟩
  · have hhere : Parallel.Run (sink.plan store room source) st [] st := .start
    obtain ⟨more, st', hmore, hstuck⟩ := hhere.extends
    have hreach : Reachable (sink.plan store room source) st st' := reachable_iff.mpr ⟨_, hmore⟩
    obtain ⟨log', hrun'⟩ := reachable_iff.mp (h.trans hreach)
    exact ⟨st', hreach, hrun'.returns_of_stuck hcount hroom hstuck⟩

/-- Two workers with room for one record each, of which the first one stops with a failed batch. The
order of steps notices nothing, so the producer waits for room in the queue of just that worker:
what can go on is that its error is noticed. -/
theorem Sink.parallel_goesOn_fullQueue :
    let sink := Sample.sink ⟨1, 1000⟩ .fail (Sample.store 1)
    let source : Source := ⟨(List.range 8).map fun n => Sample.record n, none⟩
    let plan := sink.plan Scripted.store 1 source
    let unnoticed := fun _ =>
      [.resume 0, .resume 1, .produce, .work 0, .submit 0, .work 1, .submit 1]
    let st := drive plan unnoticed 100 (start sink.config 2 source sink.session)
    (st.lanes.map fun lane => (lane.phase.stop?.isSome, lane.queue.length)) =
      [(true, 1), (false, 0)] ∧
    st.producer.isOver = false ∧ (step plan st .produce).isNone ∧
    ∃ choice st', choice ≠ .interrupt ∧ step plan st choice = some st' := by
  intro sink source plan unnoticed st
  have hproducer : st.producer.isOver = false := by decide +kernel
  obtain ⟨log, hrun⟩ := Run.drive_start plan unnoticed 100
    (start sink.config 2 source sink.session)
  have h := Sink.parallel_goesOn (by decide) (by decide) (reachable_iff.mpr ⟨log, hrun⟩)
  refine ⟨by decide +kernel, hproducer, by decide +kernel, h.1 fun hreturns => ?_⟩
  rw [hreturns.producer] at hproducer
  cases hproducer

/-- **Writing in parallel comes to its end and is concluded there.** What it gives is what the last
step of a run gives, in a state that the run reaches and in which nothing is waited for. -/
theorem Sink.writeParallel_concludes {σ : Type} (store : Store σ) (sink : Sink σ) {count : Nat}
    (source : Source) (hcount : 0 < count) (hroom : 0 < sink.config.bounds.maxOperations) :
    ∃ st, Reachable (sink.plan store sink.config.bounds.maxOperations source)
        (start sink.config count source sink.session) st ∧
      sink.conclude? st = some (sink.writeParallel store count source) := by
  obtain ⟨log, st, hrun, hstuck, -, hwrite⟩ := sink.writeParallel_run store count source
  refine ⟨st, reachable_iff.mpr ⟨log, hrun⟩, ?_⟩
  have hleft := State.isLeft_iff.mpr (hrun.returns_of_stuck hcount hroom hstuck)
  unfold Sink.conclude?
  rw [if_pos hleft, hwrite]

end Sluice
