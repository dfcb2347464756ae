import Sluice.Proofs.Parallel.Ending

/-!
# Runs come to an end

Everything that a run can still do has been paid for in advance: each record and each end mark pays
for being put, for being taken, and for the commit that may follow, with as many submissions as the
policy allows. Each move spends some of that (`State.left`), so no run goes on for ever, and the one
in the usual order comes to its end within the number of steps that it is given.

* `Moves.left_lt`: **every move leaves less to do**;
* `wellFounded_step`: no run goes on for ever, whatever the order of its steps;
* `Run.extends`: every run can be brought to an end;
* `Sink.writeParallel_run`: **writing in parallel is a run that has come to its end**.
-/

namespace Sluice

namespace Parallel

variable {σ : Type}

/-! ## 1. What is left to do -/

/-- The moves that are left to a commit, at most: its submissions, and that its worker goes on. -/
def Phase.left (retries : Nat) : Phase → Nat
  | .committing c _ _ => (retries - c.attempts) + 2
  | .ended _ _ _ _ => 1
  | _ => 0

/-- The moves that an item in a queue may lead to: that it is taken, and a whole commit. -/
def itemCost (retries : Nat) : Nat := retries + 3

/-- The moves that are left to a worker. -/
def Lane.left (retries : Nat) (lane : Lane) : Nat :=
  lane.phase.left retries + lane.queue.length * itemCost retries

/-- The moves that are left to the producer, and those that its items may lead to. -/
def Producer.left (retries count : Nat) : Producer → Nat
  | .records _ rest => (rest.length + count) * (itemCost retries + 1) + 2
  | .marks n => (count - n) * (itemCost retries + 1) + 1
  | _ => 0

/-- A run can be stopped once. -/
def Course.left : Course → Nat
  | .running => 1
  | _ => 0

/-- The moves that are left to a run, at most. -/
def State.left (retries : Nat) (st : State σ) : Nat :=
  st.producer.left retries st.lanes.length + (st.lanes.map (Lane.left retries)).sum +
    st.course.left

section Parts

variable {plan : Plan σ} {count : Nat} {lane lane' : Lane} {s s' : Session σ} (retries : Nat)

/-- What an item may lead to has been paid for by the producer. -/
theorem Produces.left_put {failure? : Option Failure} {p p' : Producer} {n : Nat} {item : Item}
    (h : Produces failure? count p (some (n, item)) p') :
    p.left retries count = p'.left retries count + itemCost retries + 1 := by
  cases h with
  | record index v rest =>
    simp only [Producer.left, List.length_cons]
    rw [show rest.length + 1 + count = rest.length + count + 1 by omega, Nat.succ_mul]
    omega
  | mark n h =>
    simp only [Producer.left]
    rw [show count - n = count - (n + 1) + 1 by omega, Nat.succ_mul]
    omega

theorem Produces.left_turn {failure? : Option Failure} {p p' : Producer}
    (h : Produces failure? count p none p') : p'.left retries count < p.left retries count := by
  cases h with
  | fails index f h => simp [Producer.left]
  | ends index h => simp [Producer.left]
  | finishes n h => simp [Producer.left]

theorem Then.Leads.left {next : Then} {p : Phase} (h : next.Leads p) : p.left retries = 0 := by
  cases h <;> rfl

theorem begin_left (lane : Lane) (batch? : Option Batch) (next : Then) (s : Session σ) :
    (begin_ plan lane batch? next s).1.phase.left retries ≤ retries + 2 := by
  cases batch? with
  | none =>
    have hleads := (proceed_leads plan lane s next).1
    unfold begin_
    dsimp only
    rw [hleads.left]
    exact Nat.zero_le _
  | some batch => exact Nat.le_refl _

/-- An item that is taken pays for all that follows from it. -/
theorem takeItem_left (lane : Lane) (s : Session σ) (hphase : lane.phase = .ready) (item : Item) :
    (takeItem plan lane item s).1.phase.left retries < itemCost retries := by
  refine Nat.lt_succ_of_le ?_
  cases item with
  | last => exact begin_left _ _ _ _ _
  | record index v =>
    unfold takeItem
    dsimp only
    split
    · exact begin_left _ _ _ _ _
    · exact Nat.zero_le _
    · split
      · dsimp only
        rw [hphase]
        exact Nat.zero_le _
      · exact begin_left _ _ _ _ _

/-- A commit is repeated only as long as the policy allows another retry. -/
theorem submit?_left {c : Commit} {begun : Binary64} {next : Then}
    (hphase : lane.phase = .committing c begun next)
    (h : submit? plan lane s = some (lane', s')) :
    lane'.left plan.config.retry.maxRetries < lane.left plan.config.retry.maxRetries := by
  obtain ⟨stepped, hsteps, rfl⟩ := submit?_steps hphase h
  refine Nat.add_lt_add_right ?_ _
  rw [hphase]
  generalize (Commit.reply plan.config.retry plan.store c s.state).outcome = outcome at hsteps
  cases hsteps with
  | again f delay ht hr hd =>
    change (_ - (c.attempts + 1)) + 2 < (_ - c.attempts) + 2
    omega
  | _ => exact Nat.lt_add_left _ (Nat.lt_succ_self 1)

theorem resume?_left (h : resume? plan lane s = some (lane', s')) :
    lane'.left retries < lane.left retries := by
  obtain ⟨b, v, begun, next, hphase, hqueue, hleads⟩ := resume?_inv h
  unfold Lane.left
  rw [hqueue, hphase, hleads.left]
  exact Nat.add_lt_add_right Nat.zero_lt_one _

theorem cancelLane_left (plan : Plan σ) (lane : Lane) (s : Session σ) :
    (cancelLane plan lane s).1.left retries = lane.left retries := by
  unfold cancelLane Lane.left
  cases hphase : lane.phase with
  | ready => rfl
  | committing c begun next => rfl
  | ended b v begun next => rfl
  | _ => dsimp only; rw [hphase]

theorem cancelLanes_left (plan : Plan σ) : ∀ (ls : List Lane) (s : Session σ),
    ((cancelLanes plan ls s).1.map (Lane.left retries)).sum = (ls.map (Lane.left retries)).sum
  | [], _ => rfl
  | lane :: rest, s => by
    unfold cancelLanes
    dsimp only
    rw [List.map_cons, List.map_cons, List.sum_cons, List.sum_cons, cancelLane_left,
      cancelLanes_left plan rest]

theorem cancelProducer_left (p : Producer) :
    (cancelProducer p).left retries count ≤ p.left retries count := by
  cases p <;> exact Nat.zero_le _

/-- What is left to all workers changes as what is left to the one that has moved. -/
theorem sum_left_set (lane' : Lane) : ∀ {ls : List Lane} {n : Nat}, ls[n]? = some lane →
    ((ls.set n lane').map (Lane.left retries)).sum + lane.left retries =
      (ls.map (Lane.left retries)).sum + lane'.left retries
  | [], _, h => by cases h
  | _ :: rest, 0, h => by
    cases h
    simp only [List.set_cons_zero, List.map_cons, List.sum_cons]
    omega
  | other :: rest, n + 1, h => by
    have hrest := sum_left_set lane' (List.getElem?_cons_succ.symm.trans h)
    simp only [List.set_cons_succ, List.map_cons, List.sum_cons]
    omega

end Parts

/-! ## 2. Runs -/

section Runs

variable {plan : Plan σ} {st st' st₀ : State σ} {log more : List Event}

/-- **Every move leaves less to do**, whichever part makes it. -/
theorem Moves.left_lt (h : Moves plan st more st') :
    st'.left plan.config.retry.maxRetries < st.left plan.config.retry.maxRetries := by
  have hlength := h.length_lanes
  unfold State.left
  rw [hlength]
  generalize hretries : plan.config.retry.maxRetries = retries
  cases h with
  | put n item lane producer hproduces hlane hroom =>
    have hpaid := hproduces.left_put retries
    have hsum := sum_left_set retries { lane with queue := lane.queue ++ [item] } hlane
    have hlonger : Lane.left retries { lane with queue := lane.queue ++ [item] } =
        lane.left retries + itemCost retries := by
      simp only [Lane.left, List.length_append, List.length_singleton, Nat.succ_mul]
      omega
    dsimp only
    omega
  | turn producer hproduces =>
    have hturn := hproduces.left_turn retries
    dsimp only
    omega
  | take n item lane queue hlane hphase hqueue =>
    have hsum := sum_left_set retries (takeItem plan { lane with queue } item st.session).1 hlane
    have hless : (takeItem plan { lane with queue } item st.session).1.left retries <
        lane.left retries := by
      have hcost : (takeItem plan { lane with queue } item st.session).1.phase.left retries < _ :=
        takeItem_left retries { lane with queue } st.session hphase item
      have hrest := (takeItem_phase plan { lane with queue } st.session item hphase).2.2
      unfold Lane.left
      rw [hrest, hqueue, List.length_cons, Nat.succ_mul]
      dsimp only
      omega
    dsimp only
    omega
  | submit n lane lane' s c begun next hlane hphase hsubmit =>
    have hsum := sum_left_set retries lane' hlane
    have hless := submit?_left hphase hsubmit
    rw [hretries] at hless
    dsimp only
    omega
  | resume n lane lane' s hlane hresume =>
    have hsum := sum_left_set retries lane' hlane
    have hless := resume?_left retries hresume
    dsimp only
    omega
  | cancel course hrunning hne =>
    have hlanes := cancelLanes_left retries plan st.lanes st.session
    have hproducer : (cancelProducer st.producer).left retries st.lanes.length ≤ _ :=
      cancelProducer_left retries st.producer
    have hcourse : course.left < st.course.left := by
      rw [hrunning]
      cases course with
      | running => exact absurd rfl hne
      | _ => exact Nat.zero_lt_one
    simp only [cancelAll]
    omega

/-- **No run goes on for ever**, whatever the order of its steps. -/
theorem wellFounded_step (plan : Plan σ) :
    WellFounded fun st' st : State σ => ∃ choice, step plan st choice = some st' :=
  Subrelation.wf (fun ⟨_, h⟩ => (step_moves h).left_lt)
    (InvImage.wf (State.left plan.config.retry.maxRetries) Nat.lt_wfRel.wf)

/-- **Every run can be brought to an end.** -/
theorem Run.extends (h : Run plan st₀ log st) :
    ∃ more st', Run plan st₀ (log ++ more) st' ∧ Stuck plan st' := by
  induction st using (wellFounded_step plan).induction generalizing log with
  | _ st ih =>
    by_cases hstuck : Stuck plan st
    · exact ⟨[], st, by rwa [List.append_nil], hstuck⟩
    · unfold Stuck at hstuck
      push Not at hstuck
      obtain ⟨choice, -, hstep⟩ := hstuck
      obtain ⟨st₁, hst₁⟩ := Option.ne_none_iff_exists'.mp hstep
      obtain ⟨more, st', hrun, hend⟩ := ih st₁ ⟨choice, hst₁⟩ (h.step choice hst₁)
      exact ⟨events plan st choice ++ more, st', by rwa [← List.append_assoc], hend⟩

end Runs

/-! ## 3. The usual order -/

section Order

variable {plan : Plan σ} {st st' : State σ}

/-- The usual order forgets nothing that is possible. -/
theorem mem_usualOrder {choice : Choice} (hne : choice ≠ .interrupt)
    (h : step plan st choice = some st') : choice ∈ usualOrder st := by
  have hlane : ∀ {f : Lane → Session σ → Option (Lane × Session σ)} {n : Nat},
      onLane? f n st = some st' → n ∈ List.range st.lanes.length := by
    intro f n h
    obtain ⟨lane, -, -, hlane, -, -⟩ := onLane?_inv h
    exact List.mem_range.mpr (List.getElem?_eq_some_iff.mp hlane).1
  unfold usualOrder
  cases choice with
  | produce => simp
  | work n => simpa using hlane h
  | submit n => simpa using hlane h
  | resume n => simpa using hlane h
  | noticeWorker n =>
    have hn : n < st.lanes.length := by
      dsimp only [step] at h
      split at h
      · next stop _ hstop =>
        obtain ⟨lane, hlane, -⟩ := Option.bind_eq_some_iff.mp hstop
        exact (List.getElem?_eq_some_iff.mp hlane).1
      · cases h
    simpa using hn
  | noticeProducer => simp
  | interrupt => exact absurd rfl hne

theorem interrupt_notMem_usualOrder (st : State σ) : .interrupt ∉ usualOrder st := by
  simp [usualOrder]

theorem firstStep_eq_none (h : firstStep plan st (usualOrder st) = none) : Stuck plan st := by
  intro choice hne
  rw [← Option.not_isSome_iff_eq_none]
  intro hsome
  obtain ⟨st', hst'⟩ := Option.isSome_iff_exists.mp hsome
  have hnone := List.findSome?_eq_none_iff.mp h choice (mem_usualOrder hne hst')
  rw [hst'] at hnone
  cases hnone

/-- **The run in the usual order comes to its end**, given steps enough for what is left. -/
theorem drive_stuck : ∀ (fuel : Nat) {st : State σ},
    st.left plan.config.retry.maxRetries ≤ fuel → Stuck plan (drive plan usualOrder fuel st)
  | 0, st, h => by
    intro choice _
    change step plan st choice = none
    rw [← Option.not_isSome_iff_eq_none]
    intro hsome
    obtain ⟨st', hst'⟩ := Option.isSome_iff_exists.mp hsome
    exact absurd (step_moves hst').left_lt (by omega)
  | fuel + 1, st, h => by
    unfold drive
    split
    · next st' hfirst =>
      obtain ⟨choice, -, hstep⟩ := List.exists_of_findSome?_eq_some hfirst
      have hless := (step_moves hstep).left_lt
      exact drive_stuck fuel (by omega)
    · next hnone => exact firstStep_eq_none hnone

/-- A run in the usual order is not interrupted. -/
theorem step_uninterrupted {choice : Choice} (hne : choice ≠ .interrupt)
    (h : step plan st choice = some st') (hcourse : st.course ≠ .interrupted) :
    st'.course ≠ .interrupted := by
  cases choice with
  | produce => rwa [produce?_course h]
  | work n =>
    obtain ⟨lane, lane', s, -, -, rfl⟩ := onLane?_inv h
    exact hcourse
  | submit n =>
    obtain ⟨lane, lane', s, -, -, rfl⟩ := onLane?_inv h
    exact hcourse
  | resume n =>
    obtain ⟨lane, lane', s, -, -, rfl⟩ := onLane?_inv h
    exact hcourse
  | noticeWorker n =>
    dsimp only [step] at h
    split at h
    · cases h
      simp [cancelAll]
    · cases h
  | noticeProducer =>
    dsimp only [step] at h
    split at h
    · cases h
      simp [cancelAll]
    · cases h
  | interrupt => exact absurd rfl hne

theorem drive_uninterrupted (plan : Plan σ) : ∀ (fuel : Nat) {st : State σ},
    st.course ≠ .interrupted → (drive plan usualOrder fuel st).course ≠ .interrupted
  | 0, _, h => h
  | fuel + 1, st, h => by
    unfold drive
    split
    · next st' hfirst =>
      obtain ⟨choice, hchoice, hstep⟩ := List.exists_of_findSome?_eq_some hfirst
      have hne : choice ≠ .interrupt := by
        rintro rfl
        exact interrupt_notMem_usualOrder st hchoice
      exact drive_uninterrupted plan fuel (step_uninterrupted hne hstep h)
    · exact h

/-- The steps that a run is given are enough for what is left at its beginning. -/
theorem left_start_le (config : Config) (count : Nat) (source : Source) (s : Session σ) :
    (start config count source s).left config.retry.maxRetries ≤
      stepBound config count source.records.length := by
  have hlanes : ((start config count source s).lanes.map
      (Lane.left config.retry.maxRetries)).sum = 0 := by
    simp [start, lanes, Lane.left, Phase.left, Function.comp_def]
  have hcost : (source.records.length + count) * (itemCost config.retry.maxRetries + 1) ≤
      (source.records.length + count + 2) * (config.retry.maxRetries + 6) := by
    refine Nat.mul_le_mul (Nat.le_add_right _ 2) ?_
    unfold itemCost
    omega
  unfold State.left stepBound
  rw [hlanes, length_start]
  simp only [start, Producer.left, Course.left]
  omega

end Order

end Parallel

/-! ## 4. Writing in parallel -/

/-- **Writing in parallel is a run that has come to its end** and was not interrupted: what holds of
all such runs, whatever the order of their steps, holds of its account and of the sink after it. -/
theorem Sink.writeParallel_run {σ : Type} (store : Store σ) (sink : Sink σ) (count : Nat)
    (source : Source) :
    ∃ log st,
      Parallel.Run (sink.plan store sink.config.bounds.maxOperations source)
        (Parallel.start sink.config count source sink.session) log st ∧
      Parallel.Stuck (sink.plan store sink.config.bounds.maxOperations source) st ∧
      st.course ≠ .interrupted ∧
      sink.writeParallel store count source =
        (Parallel.stop? st, (sink.conclude st).1, (sink.conclude st).2) := by
  obtain ⟨log, hrun⟩ := Parallel.Run.drive_start
    (sink.plan store sink.config.bounds.maxOperations source) Parallel.usualOrder
    (Parallel.stepBound sink.config count source.records.length)
    (Parallel.start sink.config count source sink.session)
  refine ⟨log, _, hrun, Parallel.drive_stuck _ ?_, Parallel.drive_uninterrupted _ _ ?_, rfl⟩
  · exact Parallel.left_start_le sink.config count source sink.session
  · intro h
    cases h

end Sluice
