import Sluice.Proofs.Parallel.Within

/-!
# Parallel runs that nothing disturbs

When records do not get in each other's way and the store only holds up, every batch can be applied
at the moment when its commit is under way, whatever else has been applied before it. So every
answer of the store is that the batch is applied, or a passing failure, and a commit that is spared
is done. Then no worker ever stops, and nothing stops the run, whatever the order of its steps.

* `Phase.Thrives`, `Thriving`: all commits that have ended are done, and nobody has stopped;
* `Moves.thriving`: **every move keeps it so**, as long as what is under way can be applied;
* `Run.thriving`: so it is **along every run that is not interrupted**;
* `Sink.parallel_undisturbed`: at its end **all operations have been applied**, in some order.
-/

namespace Sluice

open Parallel

namespace Parallel

variable {σ : Type}

/-! ## 1. Workers that thrive -/

/-- The worker goes on with its records, or comes to its end. -/
def Then.isPlain : Then → Bool
  | .goOn => true
  | .finish => true
  | _ => false

/-- Outcomes of which the last so many are passing failures. -/
def HeldUp (n : Nat) (outcomes : List (Except Failure Unit)) : Prop :=
  ∃ held, held <:+ outcomes ∧ (∀ outcome ∈ held, Commit.IsPassing outcome) ∧ held.length = n

/-- **What a worker that thrives is doing**, given the outcomes of its submissions: a commit under
way has been held up as often as it was attempted, and one that has ended is done. -/
inductive Phase.Thrives (outcomes : List (Except Failure Unit)) : Phase → Prop where
  | ready : Thrives outcomes .ready
  | committing (c : Commit) (begun : Binary64) (next : Then) (hnext : next.isPlain = true)
      (hheld : HeldUp c.attempts outcomes) : Thrives outcomes (.committing c begun next)
  | ended (b : Batch) (v : Commit.Verdict) (begun : Binary64) (next : Then)
      (hnext : next.isPlain = true) (hv : v.committed?.isSome = true) :
      Thrives outcomes (.ended b v begun next)
  | finished : Thrives outcomes .finished

/-- A worker that thrives: no batch of it has failed. -/
structure Lane.Thrives (outcomes : List (Except Failure Unit)) (lane : Lane) : Prop where
  phase : lane.phase.Thrives outcomes
  failed : lane.worker.result.failed = []

section Lanes

variable {plan : Plan σ} {lane : Lane} {outcomes : List (Except Failure Unit)}

theorem Phase.Thrives.stop? {phase : Phase} (h : phase.Thrives outcomes) : phase.stop? = none := by
  cases h <;> rfl

theorem HeldUp.zero (outcomes : List (Except Failure Unit)) : HeldUp 0 outcomes :=
  ⟨[], List.nil_suffix, fun _ h => absurd h List.not_mem_nil, rfl⟩

theorem HeldUp.succ {n : Nat} {outcome : Except Failure Unit} (h : HeldUp n outcomes)
    (ho : Commit.IsPassing outcome) : HeldUp (n + 1) (outcomes ++ [outcome]) := by
  obtain ⟨held, ⟨before, rfl⟩, hpassing, rfl⟩ := h
  refine ⟨held ++ [outcome], ⟨before, (List.append_assoc ..).symm⟩, fun x hx => ?_, by simp⟩
  rcases List.mem_append.mp hx with hx | hx
  · exact hpassing x hx
  · rw [List.mem_singleton.mp hx]
    exact ho

/-- Nobody who is spared is held up more often than he may be. -/
theorem HeldUp.le {n m : Nat} (h : HeldUp n outcomes) (hspared : Spared m outcomes) : n ≤ m := by
  obtain ⟨held, hlast, hpassing, rfl⟩ := h
  exact hspared held hlast.isInfix hpassing

theorem proceed_thrives {next : Then} {s : Session σ} (hnext : next.isPlain = true)
    (hf : lane.worker.result.failed = []) : (proceed plan lane next s).1.Thrives outcomes := by
  cases next with
  | goOn => exact ⟨.ready, hf⟩
  | finish => exact ⟨.finished, hf⟩
  | stop index r => cases hnext
  | unwind => cases hnext

theorem begin_thrives {batch? : Option Batch} {next : Then} {s : Session σ}
    (hnext : next.isPlain = true) (hf : lane.worker.result.failed = []) :
    (begin_ plan lane batch? next s).1.Thrives outcomes := by
  cases batch? with
  | none => exact proceed_thrives hnext hf
  | some batch => exact ⟨.committing _ _ _ hnext (.zero _), hf⟩

/-- A worker that takes an item goes on to thrive, unless that is a record that stops it. -/
theorem takeItem_thrives (hrule : plan.config.onRecordError = .skip) {item : Item} {s : Session σ}
    (hd : ∀ index v, item = .record index v →
      ∀ h, plan.transformer.transform v ≠ .error (.halted h))
    (hphase : lane.phase = .ready) (hf : lane.worker.result.failed = []) :
    (takeItem plan lane item s).1.Thrives outcomes := by
  cases item with
  | last => exact begin_thrives rfl hf
  | record index v =>
    have haccepts := Worker.accept_accepts plan.config plan.transformer lane.worker index v s
    have hfailed := congrArg SinkResult.failed haccepts.result
    unfold takeItem
    dsimp only
    generalize lane.worker.accept plan.config plan.transformer index v s = out at haccepts hfailed ⊢
    obtain ⟨out, worker, s'⟩ := out
    dsimp only at haccepts hfailed ⊢
    rw [hf] at hfailed
    cases haccepts with
    | sealed o _ ho ha hr => exact begin_thrives rfl hfailed
    | halted e _ ho ha hr => exact absurd ho (hd index v rfl e)
    | refused r _ ho ha hr =>
      dsimp only
      rw [hrule]
      refine ⟨?_, hfailed⟩
      dsimp only
      rw [hphase]
      exact .ready

/-- **A commit that is held up or done goes on to thrive**, as long as it is spared. -/
theorem submit?_thrives (hp : plan.config.retry.IsComputable) {lane' : Lane} {s s' : Session σ}
    {c : Commit} {begun : Binary64} {next : Then} (hphase : lane.phase = .committing c begun next)
    (hstep : submit? plan lane s = some (lane', s')) (h : lane.Thrives outcomes)
    {outcome : Except Failure Unit}
    (ho : (Commit.reply plan.config.retry plan.store c s.state).outcome = outcome)
    (hout : outcome = .ok () ∨ Commit.IsPassing outcome)
    (hspared : Spared plan.config.retry.maxRetries (outcomes ++ [outcome])) :
    lane'.Thrives (outcomes ++ [outcome]) := by
  have hthrives := h.phase
  rw [hphase] at hthrives
  obtain ⟨stepped, hsteps, rfl⟩ := submit?_steps hphase hstep
  rw [ho] at hsteps
  cases hthrives with
  | committing _ _ _ hnext hheld =>
    refine ⟨?_, h.failed⟩
    cases stepped with
    | inl again =>
      obtain ⟨c', delay⟩ := again
      obtain ⟨hpassing, -, -, rfl⟩ := hsteps.again_eq
      exact .committing _ _ _ hnext (hheld.succ hpassing)
    | inr v =>
      refine .ended _ _ _ _ hnext (hsteps.committed_iff.mpr ?_)
      rcases hout with hok | hpassing
      · exact hok
      · -- the commit would have been given up, which is once too often
        exfalso
        rcases hsteps.isPassing_of_ended hpassing with hmax | ⟨hleft, hnone, -⟩
        · have hle := (hheld.succ hpassing).le hspared
          omega
        · exact hp.ne_none hleft hnone

/-- A worker whose commit is done goes on. -/
theorem resume?_thrives {lane' : Lane} {s s' : Session σ}
    (hstep : resume? plan lane s = some (lane', s')) (h : lane.Thrives outcomes) :
    lane'.Thrives outcomes := by
  unfold resume? at hstep
  split at hstep
  · next b v begun next hphase =>
    have hthrives := h.phase
    rw [hphase] at hthrives
    cases hthrives with
    | ended _ _ _ _ hnext hv =>
      obtain ⟨r, hr⟩ := Option.isSome_iff_exists.mp hv
      cases v with
      | failed e r => cases hr
      | broken f => cases hr
      | committed r =>
        have hlane := congrArg Prod.fst (Option.some.inj hstep)
        rw [← show _ = lane' from hlane]
        cases next with
        | goOn => exact ⟨.ready, h.failed⟩
        | finish => exact ⟨.finished, h.failed⟩
        | stop index r => cases hnext
        | unwind => cases hnext
  · cases hstep

end Lanes

/-! ## 2. Runs that thrive -/

/-- The outcomes of a worker's submissions. -/
def outcomesOf (n : Nat) (log : List Event) : List (Except Failure Unit) :=
  (submittedBy n log).map (·.2)

/-- **All workers thrive**, and nothing has stopped the run. -/
structure Thriving (I : σ → Prop) (log : List Event) (st : State σ) : Prop where
  course : st.course = .running
  producer : ∀ f, st.producer ≠ .failed f
  lanes : ∀ (n : Nat) (lane : Lane), st.lanes[n]? = some lane → lane.Thrives (outcomesOf n log)
  inside : I st.session.state

section Runs

variable {plan : Plan σ} {memory : σ → Memory} {I : σ → Prop} {log more : List Event}
  {st st' : State σ} {records : List Value}

theorem outcomesOf_append {n : Nat} :
    outcomesOf n (log ++ more) = outcomesOf n log ++ outcomesOf n more := by
  unfold outcomesOf
  rw [submittedBy_append, List.map_append]

theorem outcomesOf_events (m n : Nat) (item : Item) : outcomesOf m (item.events n) = [] := by
  unfold outcomesOf
  rw [submittedBy_events]
  rfl

theorem outcomesOf_submitted (m n : Nat) (b : Batch) (outcome : Except Failure Unit) :
    outcomesOf m [.submitted n b outcome] = if n = m then [outcome] else [] := by
  unfold outcomesOf
  rw [submittedBy_submitted]
  split <;> rfl

theorem Thriving.stop? (h : Thriving I log st) {n : Nat} {lane : Lane}
    (hlane : st.lanes[n]? = some lane) : lane.phase.stop? = none :=
  (h.lanes n lane hlane).phase.stop?

theorem Produces.ne_failed {failure? : Option Failure} {count : Nat} {p p' : Producer}
    {put? : Option (Nat × Item)} (h : Produces failure? count p put? p') (hf : failure? = none)
    (f : Failure) : p' ≠ .failed f := by
  intro he
  cases h with
  | fails index f hfails =>
    rw [hf] at hfails
    cases hfails
  | _ => cases he

/-- **Every move keeps all workers thriving**, unless it stops the run: the commits under way can be
applied, and they are spared. -/
theorem Moves.thriving (hm : Moves plan st more st') (hs : plan.store.Stalls memory I)
    (hrule : plan.config.onRecordError = .skip) (hp : plan.config.retry.IsComputable)
    (hends : plan.sourceFailure? = none) (hd : plan.transformer.Decides records)
    (hdealing : Dealing records log st)
    (happlies : ∀ b ∈ st.lanes.flatMap (·.phase.pending), ∃ tables,
      Memory.applyAll (memory st.session.state).tables 0 b.operations = .ok tables)
    (hspared : ∀ n, Spared plan.config.retry.maxRetries (outcomesOf n (log ++ more)))
    (h : Thriving I log st) (hcourse : st'.course = .running) :
    Thriving I (log ++ more) st' := by
  cases hm with
  | put n item lane producer hproduces hlane hroom =>
    rw [List.append_nil]
    have hlane' := h.lanes n lane hlane
    exact ⟨hcourse, hproduces.ne_failed hends, forall_set ⟨hlane'.phase, hlane'.failed⟩
      fun m other _ hother => h.lanes m other hother, h.inside⟩
  | turn producer hproduces =>
    rw [List.append_nil]
    exact ⟨hcourse, hproduces.ne_failed hends, h.lanes, h.inside⟩
  | take n item lane queue hlane hphase hqueue =>
    have houtcomes : ∀ m, outcomesOf m (log ++ item.events n) = outcomesOf m log := by
      intro m
      rw [outcomesOf_append, outcomesOf_events, List.append_nil]
    refine ⟨hcourse, h.producer, forall_set ?_ fun m other _ hother => ?_, ?_⟩
    · refine takeItem_thrives hrule ?_ hphase (h.lanes n lane hlane).failed
      rintro index v rfl
      have hwaits : Item.record index v ∈ lane.queue := by
        rw [hqueue]
        exact List.mem_cons_self
      exact hd v (hdealing.mem_records hlane (h.stop? hlane) hwaits)
    · rw [houtcomes]
      exact h.lanes m other hother
    · dsimp only
      rw [takeItem_state]
      exact h.inside
  | submit n lane lane' s c begun next hlane hphase hsubmit =>
    have hpending : c.batch ∈ st.lanes.flatMap (·.phase.pending) := by
      refine List.mem_flatMap.mpr ⟨lane, List.mem_of_getElem? hlane, ?_⟩
      rw [hphase]
      exact List.mem_cons_self
    obtain ⟨tables, htables⟩ := happlies c.batch hpending
    have hspared := hspared n
    rw [outcomesOf_append, outcomesOf_submitted, if_pos rfl] at hspared
    refine ⟨hcourse, h.producer, forall_set ?_ fun m other hne hother => ?_, ?_⟩
    · rw [outcomesOf_append, outcomesOf_submitted, if_pos rfl]
      exact submit?_thrives hp hphase hsubmit (h.lanes n lane hlane) rfl
        (hs.outcome h.inside htables) hspared
    · rw [outcomesOf_append, outcomesOf_submitted, if_neg hne.symm, List.append_nil]
      exact h.lanes m other hother
    · dsimp only
      rw [submit?_state hphase hsubmit]
      exact hs.keeps _ _ _ h.inside
  | resume n lane lane' s hlane hresume =>
    rw [List.append_nil]
    refine ⟨hcourse, h.producer, forall_set (resume?_thrives hresume (h.lanes n lane hlane))
      fun m other _ hother => h.lanes m other hother, ?_⟩
    dsimp only
    rw [resume?_state hresume]
    exact h.inside
  | cancel course hrunning hne => exact absurd hcourse hne

/-- **What stops a run**: a worker that has stopped, a source that has failed, or an interruption
from outside. -/
theorem step_course {choice : Choice} (hs : step plan st choice = some st')
    (hrunning : st.course = .running) : st'.course = .running ∨ st'.course = .interrupted ∨
      (∃ f, st.producer = .failed f) ∨
      ∃ (n : Nat) (lane : Lane) (stop : Stop),
        st.lanes[n]? = some lane ∧ lane.phase.stop? = some stop := by
  cases choice with
  | produce => exact .inl ((produce?_course hs).trans hrunning)
  | work n =>
    obtain ⟨lane, lane', s, -, -, rfl⟩ := onLane?_inv hs
    exact .inl hrunning
  | submit n =>
    obtain ⟨lane, lane', s, -, -, rfl⟩ := onLane?_inv hs
    exact .inl hrunning
  | resume n =>
    obtain ⟨lane, lane', s, -, -, rfl⟩ := onLane?_inv hs
    exact .inl hrunning
  | noticeWorker n =>
    dsimp only [step] at hs
    split at hs
    · next stop _ hstop =>
      obtain ⟨lane, hlane, hphase⟩ := Option.bind_eq_some_iff.mp hstop
      exact .inr (.inr (.inr ⟨n, lane, stop, hlane, hphase⟩))
    · cases hs
  | noticeProducer =>
    dsimp only [step] at hs
    split at hs
    · next f _ hf => exact .inr (.inr (.inl ⟨f, hf⟩))
    · cases hs
  | interrupt =>
    dsimp only [step] at hs
    split at hs
    · cases hs
      exact .inr (.inl rfl)
    · cases hs

theorem Moves.interrupted (hm : Moves plan st more st') (h : st.course = .interrupted) :
    st'.course = .interrupted := by
  cases hm with
  | cancel course hrunning hne =>
    rw [h] at hrunning
    cases hrunning
  | _ => exact h

/-- The operations that the store has applied, in order. -/
def appliedOperations (log : List Event) : List Operation :=
  (appliedIn ((submitted log).map (·.2))).flatMap (·.operations)

/-- **The table at any moment**: what has been applied has been applied to it one by one. -/
theorem Run.table {source : Source} {t : Table} {st₀ : State σ}
    (hu : Undisturbed plan.config plan.transformer plan.store memory I source st₀.session.state t)
    (h : Run plan st₀ log st)
    (hsub : List.Subperm (appliedOperations log) (plan.transformer.operationsOf source.records)) :
    Memory.table? (memory st.session.state).tables plan.transformer.table =
      some (t.afterAll (appliedOperations log)) := by
  exact Memory.applyBatches_afterAll (fun o ho => Transformer.table_of_mem (hsub.subset ho)) hu.there
    (h.applied hu.stalls.guards)

/-- **What is under way can be applied**: its operations are on other keys than those that have been
applied. -/
theorem Run.applies {source : Source} {t : Table} {st₀ : State σ} {b : Batch}
    (hu : Undisturbed plan.config plan.transformer plan.store memory I source st₀.session.state t)
    (h : Run plan st₀ log st) (hb : b ∈ st.lanes.flatMap (·.phase.pending))
    (hwithin : List.Subperm ((appliedIn ((submitted log).map (·.2)) ++
        st.lanes.flatMap (·.phase.pending)).flatMap (·.operations))
      (plan.transformer.operationsOf source.records)) :
    ∃ tables, Memory.applyAll (memory st.session.state).tables 0 b.operations = .ok tables := by
  rw [List.flatMap_append] at hwithin
  have hone : (appliedOperations log ++ b.operations).Sublist (appliedOperations log ++
      (st.lanes.flatMap (·.phase.pending)).flatMap (·.operations)) :=
    (List.Sublist.refl _).append (List.sublist_flatten_of_mem (List.mem_map_of_mem hb))
  have hsub := hone.subperm.trans hwithin
  have htable := h.table hu ((List.sublist_append_left _ _).subperm.trans hsub)
  refine Memory.applyAll_independent (fun o ho => ?_) htable
    (hu.apart.independent.subperm hsub).drop
  exact Transformer.table_of_mem (hsub.subset (List.mem_append.mpr (.inr ho)))

/-- **All workers thrive along every run that nothing disturbs** and that is not interrupted, by
induction on the run: what is under way at any moment are operations that the ones applied so far
leave free, so it can be applied. -/
theorem Run.thriving {count : Nat} {source : Source} {s : Session σ} {t : Table}
    (hu : Undisturbed plan.config plan.transformer plan.store memory I source s.state t)
    (hends : plan.sourceFailure? = none) (hcount : 0 < count)
    (h : Run plan (Parallel.start plan.config count source s) log st)
    (hspared : ∀ n, Spared plan.config.retry.maxRetries (outcomesOf n log))
    (hcourse : st.course ≠ .interrupted) : Thriving I log st := by
  induction h with
  | start =>
    refine ⟨rfl, fun f hf => (by cases hf), fun n lane hlane => ?_, hu.inside⟩
    obtain ⟨-, rfl⟩ := start_inv hlane
    exact ⟨.ready, rfl⟩
  | @step log st₁ st₂ choice hrun hs ih =>
    have hm := step_moves hs
    have hbefore : ∀ n, Spared plan.config.retry.maxRetries (outcomesOf n log) := by
      intro n
      have hall := hspared n
      rw [outcomesOf_append] at hall
      exact hall.of_append
    have hthrives := ih hbefore (fun hi => hcourse (hm.interrupted hi))
    have hrunning : st₂.course = .running := by
      rcases step_course hs hthrives.course with hr | hi | ⟨f, hf⟩ | ⟨n, lane, stop, hlane, hstop⟩
      · exact hr
      · exact absurd hi hcourse
      · exact absurd hf (hthrives.producer f)
      · rw [hthrives.stop? hlane] at hstop
        cases hstop
    have hdealing := hrun.dealing hthrives.course
    have hwithin := hrun.within hthrives.course hcount fun n lane => hthrives.stop?
    exact hm.thriving hu.stalls hu.skips hu.computable hends hu.apart.decides hdealing
      (fun b hb => hrun.applies hu hb hwithin) hspared hthrives hrunning

/-- Failures that a store has injected can be counted: nobody is held up more often than there are
passing failures among all that it has seen. -/
theorem Run.spared_of_seen {store : Store σ} {plan : Plan (Watched σ)}
    (hplan : plan.store = store.watched) {st st' : State (Watched σ)} (h : Run plan st log st')
    {m : Nat} (hm : (st'.session.state.seen.map (·.outcome)).countP
      (fun outcome => Commit.IsPassing outcome) ≤ m) (n : Nat) : Spared m (outcomesOf n log) := by
  have hall : (submitted log).map (fun e => e.2.2) <:+ st'.session.state.seen.map (·.outcome) := by
    rw [h.seen hplan, List.map_append, List.map_map]
    exact List.suffix_append _ _
  have hone : (outcomesOf n log).Sublist ((submitted log).map fun e => e.2.2) := by
    unfold outcomesOf submittedBy entriesOf
    rw [List.map_map]
    exact List.filter_sublist.map _
  exact .of_countP (((hone.trans hall.sublist).countP_le).trans hm)

end Runs

end Parallel

/-! ## 3. Whole runs -/

/-- **A parallel run that nothing disturbs**, and whose commits are spared, is not stopped, whatever
the order of its steps; when it is over, all operations have been applied to the table, in some
order. -/
theorem Sink.parallel_undisturbed {σ : Type} {store : Store σ} {memory : σ → Memory} {I : σ → Prop}
    {sink : Sink σ} {source : Source} {room count : Nat} {log : List Event} {st : State σ}
    {t : Table} (hu : Undisturbed sink.config sink.transformer store memory I source
      sink.session.state t)
    (hcount : 0 < count) (hroom : 0 < room)
    (h : Parallel.Run (sink.plan store room source)
      (start sink.config count source sink.session) log st)
    (hspared : ∀ n, Spared sink.config.retry.maxRetries (outcomesOf n log))
    (hcourse : st.course ≠ .interrupted) (hstuck : Stuck (sink.plan store room source) st) :
    st.course = .running ∧
      Memory.table? (memory st.session.state).tables sink.transformer.table =
        some (t.afterAll (appliedOperations log)) ∧
      (appliedOperations log).Perm (sink.transformer.operationsOf source.records) := by
  have hthrives : Thriving I log st := h.thriving hu hu.ends hcount hspared hcourse
  have hrunning := hthrives.course
  obtain ⟨hfinished, hproducer⟩ := h.finished_of_stuck hcount hroom hrunning hstuck
  have hlength : st.lanes.length = count := h.length_lanes.trans (length_start ..)
  have hnumbers : ∀ e ∈ submitted log, e.1 < st.lanes.length := by
    rw [hlength, ← length_start sink.config count source sink.session]
    exact h.numbers.2
  have hover : AllOver st := fun lane hlane => by rw [hfinished lane hlane]; rfl
  obtain ⟨J, hJ⟩ := Booked.exists_journals h.booked
  -- every worker has committed all the batches that it has made of its share
  have hdone : ∀ n ∈ List.range st.lanes.length, (J n).applied =
      Plan.batchesOf (fresh sink.config n)
        (operations sink.transformer (share count source.records n)) := by
    intro n hn
    have hn := List.mem_range.mp hn
    obtain ⟨hbatches, hclear⟩ := hJ.closed hfinished hn
    have hlane := List.getElem?_eq_getElem hn
    have hfailed := (hJ n _ hlane).failed
    rw [(hthrives.lanes n _ hlane).failed] at hfailed
    rw [(hclear.isDone hfailed.symm).applied, hbatches,
      h.takenBy_eq hrunning hfinished hproducer (hlength ▸ hn)]
    rfl
  have hperm : (appliedOperations log).Perm (sink.transformer.operationsOf source.records) := by
    have happlied := (hJ.applied_perm hover hnumbers).flatMap_right (·.operations)
    rw [List.flatMap_congr hdone, hlength] at happlied
    have hshared := sharedBatches_operations_perm sink.config sink.transformer hcount source.records
    rw [operations_positioned] at hshared
    exact happlied.trans hshared
  exact ⟨hrunning, h.table hu hperm.subperm, hperm⟩

end Sluice
