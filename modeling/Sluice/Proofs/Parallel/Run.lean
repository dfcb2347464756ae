import Sluice.Proofs.Parallel.Books
import Sluice.Proofs.Store.Watched

/-!
# Runs with their events

A run of the machine is told by its events: which worker has taken which record, and which batch has
been submitted with which outcome. `Moves` says once what a step can do; what follows from it holds
along every run, whatever the order of its steps.

* `step_moves`: **every step is a move**;
* `Run.booked`: along every run the books of every worker are in order;
* `Run.seen`: the events tell of all submissions that have reached the store, and of no others.
-/

namespace Sluice.Parallel

variable {σ : Type}

/-! ## 1. Events -/

/-- What a step brings about. -/
inductive Event where
  | took (lane index : Nat) (record : Value)
  | submitted (lane : Nat) (batch : Batch) (outcome : Except Failure Unit)

/-- The events of a step. -/
def events (plan : Plan σ) (st : State σ) : Choice → List Event
  | .work n =>
    match st.lanes[n]? with
    | some { phase := .ready, queue := .record index record :: _, .. } => [.took n index record]
    | _ => []
  | .submit n =>
    match st.lanes[n]? with
    | some { phase := .committing c _ _, .. } =>
      [.submitted n c.batch (Commit.reply plan.config.retry plan.store c st.session.state).outcome]
    | _ => []
  | _ => []

/-- Runs in any order of steps, with the events in order. -/
inductive Run (plan : Plan σ) (st : State σ) : List Event → State σ → Prop where
  | start : Run plan st [] st
  | step {log : List Event} {st' st'' : State σ} (choice : Choice) (h : Run plan st log st')
      (hs : step plan st' choice = some st'') :
      Run plan st (log ++ events plan st' choice) st''

/-- The entries under a number, in order. -/
def entriesOf {α : Type} (n : Nat) (xs : List (Nat × α)) : List α :=
  (xs.filter fun e => e.1 = n).map (·.2)

/-- The records that were taken, under the numbers of the workers that took them. -/
def taken (log : List Event) : List (Nat × Nat × Value) :=
  log.filterMap fun
    | .took n index record => some (n, index, record)
    | .submitted .. => none

/-- The batches that were submitted, under the numbers of the workers that submitted them. -/
def submitted (log : List Event) : List (Nat × Batch × Except Failure Unit) :=
  log.filterMap fun
    | .took .. => none
    | .submitted n batch outcome => some (n, batch, outcome)

/-- The records that a worker has taken. -/
def takenBy (n : Nat) (log : List Event) : List (Nat × Value) := entriesOf n (taken log)

/-- The batches that a worker has submitted. -/
def submittedBy (n : Nat) (log : List Event) : List (Batch × Except Failure Unit) :=
  entriesOf n (submitted log)

section Entries

variable {α : Type} {xs ys : List (Nat × α)} {log more : List Event} {m n : Nat}

theorem entriesOf_append : entriesOf n (xs ++ ys) = entriesOf n xs ++ entriesOf n ys := by
  simp [entriesOf]

theorem entriesOf_self {x : α} : entriesOf n [(n, x)] = [x] := by simp [entriesOf]

theorem entriesOf_ne (h : m ≠ n) {x : α} : entriesOf n [(m, x)] = [] := by simp [entriesOf, h]

theorem taken_append : taken (log ++ more) = taken log ++ taken more := List.filterMap_append

theorem submitted_append : submitted (log ++ more) = submitted log ++ submitted more :=
  List.filterMap_append

theorem takenBy_append : takenBy n (log ++ more) = takenBy n log ++ takenBy n more := by
  unfold takenBy
  rw [taken_append, entriesOf_append]

theorem submittedBy_append :
    submittedBy n (log ++ more) = submittedBy n log ++ submittedBy n more := by
  unfold submittedBy
  rw [submitted_append, entriesOf_append]

end Entries

/-- The event of a worker that takes an item. -/
def Item.events (n : Nat) : Item → List Event
  | .record index v => [.took n index v]
  | .last => []

/-! ## 2. Moves -/

/-- **What the producer does**: it puts an item into a queue, or turns to something else. -/
inductive Produces (failure? : Option Failure) (count : Nat) :
    Producer → Option (Nat × Item) → Producer → Prop where
  | record (index : Nat) (v : Value) (rest : List Value) :
      Produces failure? count (.records index (v :: rest)) (some (index % count, .record index v))
        (.records (index + 1) rest)
  | mark (n : Nat) (h : n < count) :
      Produces failure? count (.marks n) (some (n, .last)) (.marks (n + 1))
  | fails (index : Nat) (f : Failure) (h : failure? = some f) :
      Produces failure? count (.records index []) none (.failed f)
  | ends (index : Nat) (h : failure? = none) :
      Produces failure? count (.records index []) none (.marks 0)
  | finishes (n : Nat) (h : count ≤ n) : Produces failure? count (.marks n) none .finished

/-- **What a step does**: there is no other way for a run to go on. -/
inductive Moves (plan : Plan σ) (st : State σ) : List Event → State σ → Prop where
  | put (n : Nat) (item : Item) (lane : Lane) (producer : Producer)
      (hproduces :
        Produces plan.sourceFailure? st.lanes.length st.producer (some (n, item)) producer)
      (hlane : st.lanes[n]? = some lane) (hroom : lane.queue.length < plan.room) :
      Moves plan st []
        { st with
          lanes := st.lanes.set n { lane with queue := lane.queue ++ [item] }
          producer := producer }
  | turn (producer : Producer)
      (hproduces : Produces plan.sourceFailure? st.lanes.length st.producer none producer) :
      Moves plan st [] { st with producer }
  | take (n : Nat) (item : Item) (lane : Lane) (queue : List Item)
      (hlane : st.lanes[n]? = some lane) (hphase : lane.phase = .ready)
      (hqueue : lane.queue = item :: queue) :
      Moves plan st (item.events n)
        { st with
          lanes := st.lanes.set n (takeItem plan { lane with queue } item st.session).1
          session := (takeItem plan { lane with queue } item st.session).2 }
  | submit (n : Nat) (lane lane' : Lane) (s : Session σ) (c : Commit) (begun : Binary64)
      (next : Then) (hlane : st.lanes[n]? = some lane)
      (hphase : lane.phase = .committing c begun next)
      (hsubmit : submit? plan lane st.session = some (lane', s)) :
      Moves plan st
        [.submitted n c.batch
          (Commit.reply plan.config.retry plan.store c st.session.state).outcome]
        { st with lanes := st.lanes.set n lane', session := s }
  | resume (n : Nat) (lane lane' : Lane) (s : Session σ) (hlane : st.lanes[n]? = some lane)
      (hresume : resume? plan lane st.session = some (lane', s)) :
      Moves plan st [] { st with lanes := st.lanes.set n lane', session := s }
  | cancel (course : Course) (hrunning : st.course = .running) (hcourse : course ≠ .running) :
      Moves plan st [] (cancelAll plan course st)

section Steps

variable {plan : Plan σ} {st st' : State σ}

theorem put?_inv {room n : Nat} {ls ls' : List Lane} {item : Item}
    (h : put? room ls n item = some ls') :
    ∃ lane, ls[n]? = some lane ∧ lane.queue.length < room ∧
      ls' = ls.set n { lane with queue := lane.queue ++ [item] } := by
  unfold put? at h
  split at h
  · next lane hlane =>
    split at h
    · next hroom => exact ⟨lane, hlane, hroom, (Option.some.inj h).symm⟩
    · cases h
  · cases h

theorem produce?_moves (h : produce? plan st = some st') : Moves plan st [] st' := by
  unfold produce? at h
  split at h
  · next index v rest hp =>
    obtain ⟨ls, hput, rfl⟩ := Option.map_eq_some_iff.mp h
    obtain ⟨lane, hlane, hroom, rfl⟩ := put?_inv hput
    exact .put _ _ lane _ (hp ▸ .record index v rest) hlane hroom
  · next index hp =>
    split at h
    · next f hf => cases h; exact .turn _ (hp ▸ .fails index f hf)
    · next hf => cases h; exact .turn _ (hp ▸ .ends index hf)
  · next n hp =>
    split at h
    · next hn =>
      obtain ⟨ls, hput, rfl⟩ := Option.map_eq_some_iff.mp h
      obtain ⟨lane, hlane, hroom, rfl⟩ := put?_inv hput
      exact .put _ _ lane _ (hp ▸ .mark n hn) hlane hroom
    · next hn => cases h; exact .turn _ (hp ▸ .finishes n (Nat.le_of_not_lt hn))
  · cases h

theorem produce?_course (h : produce? plan st = some st') : st'.course = st.course := by
  unfold produce? at h
  split at h
  · obtain ⟨ls, -, rfl⟩ := Option.map_eq_some_iff.mp h
    rfl
  · split at h <;> cases h <;> rfl
  · split at h
    · obtain ⟨ls, -, rfl⟩ := Option.map_eq_some_iff.mp h
      rfl
    · cases h
      rfl
  · cases h

theorem onLane?_inv {f : Lane → Session σ → Option (Lane × Session σ)} {n : Nat}
    (h : onLane? f n st = some st') :
    ∃ lane lane' s, st.lanes[n]? = some lane ∧ f lane st.session = some (lane', s) ∧
      st' = { st with lanes := st.lanes.set n lane', session := s } := by
  unfold onLane? at h
  split at h
  · cases h
  · next lane hlane =>
    obtain ⟨⟨lane', s⟩, hf, hst⟩ := Option.map_eq_some_iff.mp h
    exact ⟨lane, lane', s, hlane, hf, hst.symm⟩

theorem work?_inv {lane lane' : Lane} {s s' : Session σ}
    (h : work? plan lane s = some (lane', s')) :
    ∃ item queue, lane.phase = .ready ∧ lane.queue = item :: queue ∧
      (lane', s') = takeItem plan { lane with queue } item s := by
  unfold work? at h
  split at h
  · next item queue hphase hqueue => exact ⟨item, queue, hphase, hqueue, (Option.some.inj h).symm⟩
  · cases h

theorem submit?_inv {lane lane' : Lane} {s s' : Session σ}
    (h : submit? plan lane s = some (lane', s')) :
    ∃ c begun next, lane.phase = .committing c begun next ∧ lane'.queue = lane.queue ∧
      ((∃ c', lane'.phase = .committing c' begun next) ∨
        ∃ v, lane'.phase = .ended c.batch v begun next) := by
  unfold submit? at h
  split at h
  · next c begun next hphase =>
    refine ⟨c, begun, next, hphase, ?_⟩
    split at h
    · next c' delay s₁ hstep => cases h; exact ⟨rfl, .inl ⟨c', rfl⟩⟩
    · next v s₁ hstep => cases h; exact ⟨rfl, .inr ⟨v, rfl⟩⟩
  · cases h

/-- A step of a commit says what follows from the outcome of its submission. -/
theorem submit?_steps {lane lane' : Lane} {s s' : Session σ} {c : Commit} {begun : Binary64}
    {next : Then} (hphase : lane.phase = .committing c begun next)
    (h : submit? plan lane s = some (lane', s')) :
    ∃ stepped, Commit.Steps plan.config.retry c
        (Commit.reply plan.config.retry plan.store c s.state).outcome stepped ∧
      lane' = { lane with phase := match stepped with
        | .inl (c', _) => .committing c' begun next
        | .inr v => .ended c.batch v begun next } := by
  have hsteps := Commit.step_steps plan.config.retry plan.store c s
  unfold submit? at h
  rw [hphase] at h
  dsimp only at h
  split at h
  · next c' delay s₁ hstep =>
    rw [hstep] at hsteps
    cases h
    exact ⟨_, hsteps, rfl⟩
  · next v s₁ hstep =>
    rw [hstep] at hsteps
    cases h
    exact ⟨_, hsteps, rfl⟩

/-- **Every step is a move.** -/
theorem step_moves {choice : Choice} (h : step plan st choice = some st') :
    Moves plan st (events plan st choice) st' := by
  cases choice with
  | produce => exact produce?_moves h
  | work n =>
    obtain ⟨lane, lane', s, hlane, hwork, rfl⟩ := onLane?_inv h
    obtain ⟨item, queue, hphase, hqueue, htake⟩ := work?_inv hwork
    have hevents : events plan st (.work n) = item.events n := by
      obtain ⟨w, q, p⟩ := lane
      dsimp only at hphase hqueue
      subst hphase hqueue
      simp only [events, hlane]
      cases item <;> rfl
    rw [hevents, show lane' = _ from congrArg Prod.fst htake,
      show s = _ from congrArg Prod.snd htake]
    exact .take n item lane queue hlane hphase hqueue
  | submit n =>
    obtain ⟨lane, lane', s, hlane, hsubmit, rfl⟩ := onLane?_inv h
    obtain ⟨c, begun, next, hphase, -⟩ := submit?_inv hsubmit
    have hevents : events plan st (.submit n) = [.submitted n c.batch
        (Commit.reply plan.config.retry plan.store c st.session.state).outcome] := by
      obtain ⟨w, q, p⟩ := lane
      dsimp only at hphase
      subst hphase
      simp only [events, hlane]
    rw [hevents]
    exact .submit n lane lane' s c begun next hlane hphase hsubmit
  | resume n =>
    obtain ⟨lane, lane', s, hlane, hresume, rfl⟩ := onLane?_inv h
    exact .resume n lane lane' s hlane hresume
  | noticeWorker n =>
    dsimp only [step] at h
    split at h
    · next hrunning _ => cases h; exact .cancel _ hrunning (by simp)
    · cases h
  | noticeProducer =>
    dsimp only [step] at h
    split at h
    · next hrunning _ => cases h; exact .cancel _ hrunning (by simp)
    · cases h
  | interrupt =>
    dsimp only [step] at h
    split at h
    · next hrunning => cases h; exact .cancel _ hrunning (by simp)
    · cases h

/-- **The rule of runs**: what holds at the start, and after every move if it held before it, holds
along every run. -/
theorem Run.rule {P : List Event → State σ → Prop} {log : List Event} (h : Run plan st log st')
    (hstart : P [] st)
    (hmove : ∀ log st₁ more st₂, P log st₁ → Moves plan st₁ more st₂ → P (log ++ more) st₂) :
    P log st' := by
  induction h with
  | start => exact hstart
  | step choice _ hs ih => exact hmove _ _ _ _ ih (step_moves hs)

/-- Runs reach what can be reached. -/
theorem reachable_iff : Reachable plan st st' ↔ ∃ log, Run plan st log st' := by
  constructor
  · intro h
    induction h with
    | start => exact ⟨[], .start⟩
    | step _ hs ih =>
      obtain ⟨log, hrun⟩ := ih
      exact ⟨_, hrun.step _ hs⟩
  · rintro ⟨log, h⟩
    induction h with
    | start => exact .start
    | step choice _ hs ih => exact .step ih hs

end Steps

/-! ## 3. Workers of a run -/

section Lanes

variable {plan : Plan σ} {st st' : State σ} {log : List Event}

/-- Every worker is at its end. -/
def AllOver (st : State σ) : Prop := ∀ lane ∈ st.lanes, lane.phase.isOver = true

instance (st : State σ) : Decidable (AllOver st) :=
  inferInstanceAs (Decidable (∀ lane ∈ st.lanes, _))

/-- The worker with a number, after one of them has been changed. -/
theorem getElem?_set_inv {ls : List Lane} {m n : Nat} {x lane : Lane}
    (h : (ls.set n x)[m]? = some lane) :
    (m = n ∧ lane = x) ∨ (m ≠ n ∧ ls[m]? = some lane) := by
  rw [List.getElem?_set] at h
  split at h
  · next hmn =>
    split at h
    · exact .inl ⟨hmn.symm, (Option.some.inj h).symm⟩
    · cases h
  · next hmn => exact .inr ⟨fun e => hmn e.symm, h⟩

/-- What holds of the worker that has been changed, and of all others, holds of all. -/
theorem forall_set {ls : List Lane} {n : Nat} {x : Lane} {P : Nat → Lane → Prop} (hx : P n x)
    (hrest : ∀ m lane, m ≠ n → ls[m]? = some lane → P m lane) :
    ∀ m lane, (ls.set n x)[m]? = some lane → P m lane := by
  intro m lane hlane
  rcases getElem?_set_inv hlane with ⟨rfl, rfl⟩ | ⟨hne, hlane⟩
  · exact hx
  · exact hrest m lane hne hlane

theorem cancelLanes_getElem? (plan : Plan σ) : ∀ (ls : List Lane) (s : Session σ) (n : Nat),
    ∃ s', (cancelLanes plan ls s).1[n]? = ls[n]?.map fun lane => (cancelLane plan lane s').1
  | [], s, _ => ⟨s, rfl⟩
  | _ :: _, s, 0 => ⟨s, rfl⟩
  | lane :: rest, s, n + 1 => cancelLanes_getElem? plan rest (cancelLane plan lane s).2 n

theorem cancelLanes_length (plan : Plan σ) : ∀ (ls : List Lane) (s : Session σ),
    (cancelLanes plan ls s).1.length = ls.length
  | [], _ => rfl
  | lane :: rest, s => congrArg (· + 1) (cancelLanes_length plan rest (cancelLane plan lane s).2)

theorem cancelLanes_state (plan : Plan σ) : ∀ (ls : List Lane) (s : Session σ),
    (cancelLanes plan ls s).2.state = s.state
  | [], _ => rfl
  | lane :: rest, s =>
    (cancelLanes_state plan rest (cancelLane plan lane s).2).trans (cancelLane_state plan lane s)

/-- A worker that was cancelled with the others. -/
theorem cancelAll_inv {course : Course} {n : Nat} {lane : Lane}
    (h : (cancelAll plan course st).lanes[n]? = some lane) :
    ∃ old s, st.lanes[n]? = some old ∧ lane = (cancelLane plan old s).1 := by
  obtain ⟨s, hs⟩ := cancelLanes_getElem? plan st.lanes st.session n
  obtain ⟨old, hold, hlane⟩ := Option.map_eq_some_iff.mp (hs.symm.trans h)
  exact ⟨old, s, hold, hlane.symm⟩

theorem Moves.length_lanes {more : List Event} (h : Moves plan st more st') :
    st'.lanes.length = st.lanes.length := by
  cases h with
  | turn => rfl
  | cancel course => exact cancelLanes_length plan st.lanes st.session
  | _ => exact List.length_set

theorem Run.length_lanes (h : Run plan st log st') : st'.lanes.length = st.lanes.length :=
  h.rule (P := fun _ st' => st'.lanes.length = st.lanes.length) rfl
    fun _ _ _ _ hp hm => hm.length_lanes.trans hp

theorem length_start (config : Config) (count : Nat) (source : Source) (s : Session σ) :
    (start config count source s).lanes.length = count := by
  simp [start, lanes]

theorem start_inv {config : Config} {count : Nat} {source : Source} {s : Session σ} {n : Nat}
    {lane : Lane} (h : (start config count source s).lanes[n]? = some lane) :
    n < count ∧ lane = { worker := Worker.start config (workerName n) s.clock } := by
  obtain ⟨m, hm, hlane⟩ := Option.map_eq_some_iff.mp (List.getElem?_map.symm.trans h)
  obtain ⟨hn, rfl⟩ := List.getElem?_eq_some_iff.mp hm
  rw [List.length_range] at hn
  rw [List.getElem_range] at hlane
  exact ⟨hn, hlane.symm⟩

/-- The events of a run are those of its workers. -/
theorem Run.numbers (h : Run plan st log st') :
    (∀ e ∈ taken log, e.1 < st.lanes.length) ∧ ∀ e ∈ submitted log, e.1 < st.lanes.length := by
  refine (h.rule (P := fun log st' => st'.lanes.length = st.lanes.length ∧
    (∀ e ∈ taken log, e.1 < st.lanes.length) ∧ ∀ e ∈ submitted log, e.1 < st.lanes.length)
    ⟨rfl, fun _ he => absurd he List.not_mem_nil, fun _ he => absurd he List.not_mem_nil⟩ ?_).2
  rintro log st₁ more st₂ ⟨hlength, htaken, hsubmitted⟩ hm
  refine ⟨hm.length_lanes.trans hlength, ?_, ?_⟩
  · rw [taken_append]
    intro e he
    rcases List.mem_append.mp he with he | he
    · exact htaken e he
    · cases hm with
      | take n item lane queue hlane hphase hqueue =>
        cases item with
        | last => cases he
        | record index v =>
          rw [List.mem_singleton.mp he, ← hlength]
          exact (List.getElem?_eq_some_iff.mp hlane).1
      | _ => cases he
  · rw [submitted_append]
    intro e he
    rcases List.mem_append.mp he with he | he
    · exact hsubmitted e he
    · cases hm with
      | submit n lane lane' s c begun next hlane hphase hsubmit =>
        rw [List.mem_singleton.mp he, ← hlength]
        exact (List.getElem?_eq_some_iff.mp hlane).1
      | take n item => cases item <;> cases he
      | _ => cases he

end Lanes

/-! ## 4. Books of all workers -/

section Booked

variable {plan : Plan σ} {st st' : State σ} {log : List Event}

/-- An accumulator that has been given nothing, of the worker with a number. -/
def fresh (config : Config) (n : Nat) : Accumulator :=
  { bounds := config.bounds, name := workerName n }

/-- The books of every worker are in order. -/
def Booked (plan : Plan σ) (log : List Event) (st : State σ) : Prop :=
  ∀ n lane, st.lanes[n]? = some lane →
    ∃ j, booksFor plan (fresh plan.config n) (takenBy n log) (submittedBy n log) j lane

theorem takenBy_events (m n : Nat) (item : Item) :
    takenBy m (item.events n) = if n = m then item.records else [] := by
  cases item with
  | last => rw [Item.records, ite_self]; rfl
  | record index v =>
    change entriesOf m [(n, (index, v))] = _
    split
    · next h => subst h; exact entriesOf_self
    · next h => exact entriesOf_ne h

theorem submittedBy_events (m n : Nat) (item : Item) : submittedBy m (item.events n) = [] := by
  cases item <;> rfl

theorem takenBy_submitted (m n : Nat) (b : Batch) (outcome : Except Failure Unit) :
    takenBy m [.submitted n b outcome] = [] := rfl

theorem submittedBy_submitted (m n : Nat) (b : Batch) (outcome : Except Failure Unit) :
    submittedBy m [.submitted n b outcome] = if n = m then [(b, outcome)] else [] := by
  change entriesOf m [(n, (b, outcome))] = _
  split
  · next h => subst h; exact entriesOf_self
  · next h => exact entriesOf_ne h

theorem Moves.booked {more : List Event} (h : Moves plan st more st') (hb : Booked plan log st) :
    Booked plan (log ++ more) st' := by
  cases h with
  | put n item old producer hproduces hold hroom =>
    rw [List.append_nil]
    exact forall_set (hb n old hold) fun m lane _ hlane => hb m lane hlane
  | turn producer hproduces =>
    rw [List.append_nil]
    exact hb
  | take n item old queue hold hphase hqueue =>
    refine forall_set ?_ fun m lane hne hlane => ?_
    · obtain ⟨j, hj⟩ := hb n old hold
      rw [takenBy_append, submittedBy_append, takenBy_events, if_pos rfl, submittedBy_events,
        List.append_nil]
      exact ⟨j, takeItem_books item _ hphase hj⟩
    · rw [takenBy_append, submittedBy_append, takenBy_events, if_neg hne.symm, submittedBy_events,
        List.append_nil, List.append_nil]
      exact hb m lane hlane
  | submit n old lane' s c begun next hold hphase hsubmit =>
    refine forall_set ?_ fun m lane hne hlane => ?_
    · obtain ⟨j, hj⟩ := hb n old hold
      obtain ⟨c', begun', next', hphase', hbooks⟩ := submit?_books hsubmit hj
      cases hphase.symm.trans hphase'
      rw [takenBy_append, submittedBy_append, takenBy_submitted, List.append_nil,
        submittedBy_submitted, if_pos rfl]
      exact ⟨j, hbooks⟩
    · rw [takenBy_append, submittedBy_append, takenBy_submitted, submittedBy_submitted,
        if_neg hne.symm, List.append_nil, List.append_nil]
      exact hb m lane hlane
  | resume n old lane' s hold hresume =>
    rw [List.append_nil]
    obtain ⟨j, hj⟩ := hb n old hold
    exact forall_set ⟨_, resume?_books hresume hj⟩ fun m lane _ hlane => hb m lane hlane
  | cancel course hrunning hcourse =>
    rw [List.append_nil]
    intro m lane hlane
    obtain ⟨old, s, hold, rfl⟩ := cancelAll_inv hlane
    obtain ⟨j, hj⟩ := hb m old hold
    exact ⟨j, cancelLane_books s hj⟩

/-- **Along every run the books of every worker are in order.** -/
theorem Run.booked {count : Nat} {source : Source} {s : Session σ}
    (h : Run plan (Parallel.start plan.config count source s) log st) : Booked plan log st := by
  refine h.rule (fun n lane hlane => ?_) fun _ _ _ _ hb hm => hm.booked hb
  obtain ⟨-, rfl⟩ := start_inv hlane
  exact ⟨[], .start _ _ _ _ _⟩

end Booked

/-! ## 5. What the store has seen -/

/-- **Nothing but a submission reaches the store.** -/
theorem Moves.session_state {plan : Plan σ} {st st' : State σ} {more : List Event}
    (h : Moves plan st more st') :
    (submitted more = [] ∧ st'.session.state = st.session.state) ∨
      ∃ n c, submitted more = [(n, c.batch,
          (Commit.reply plan.config.retry plan.store c st.session.state).outcome)] ∧
        st'.session.state = (Commit.reply plan.config.retry plan.store c st.session.state).state := by
  cases h with
  | put => exact .inl ⟨rfl, rfl⟩
  | turn => exact .inl ⟨rfl, rfl⟩
  | take n item lane queue hlane hphase hqueue =>
    have hnone : submitted (item.events n) = [] := by cases item <;> rfl
    exact .inl ⟨hnone, takeItem_state ..⟩
  | submit n lane lane' s c begun next hlane hphase hsubmit =>
    exact .inr ⟨n, c, rfl, submit?_state hphase hsubmit⟩
  | resume n lane lane' s hlane hresume => exact .inl ⟨rfl, resume?_state hresume⟩
  | cancel course hrunning hcourse => exact .inl ⟨rfl, cancelLanes_state ..⟩

/-- A submission as a store sees it. -/
def seenAs (plan : Plan σ) (e : Nat × Batch × Except Failure Unit) : Submission :=
  ⟨e.2.1.operations, plan.config.retry.timeout?, e.2.2⟩

/-- **The events tell of what has reached the store**, and the store has seen nothing else. -/
theorem Run.seen {store : Store σ} {plan : Plan (Watched σ)} (hplan : plan.store = store.watched)
    {st st' : State (Watched σ)} {log : List Event} (h : Run plan st log st') :
    st'.session.state.seen = st.session.state.seen ++ (submitted log).map (seenAs plan) := by
  refine h.rule (P := fun log st' => st'.session.state.seen =
    st.session.state.seen ++ (submitted log).map (seenAs plan)) (List.append_nil _).symm ?_
  intro log st₁ more st₂ hseen hm
  rw [submitted_append, List.map_append, ← List.append_assoc, ← hseen]
  rcases hm.session_state with ⟨hnone, hstate⟩ | ⟨n, c, hsubmitted, hstate⟩
  · rw [hnone, hstate]
    exact (List.append_nil _).symm
  · rw [hsubmitted, hstate]
    unfold Commit.reply
    rw [hplan]
    exact Store.watched_seen ..

end Sluice.Parallel
