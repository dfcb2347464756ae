import Sluice.Proofs.Parallel.Dealing

/-!
# How runs end

No run gets stuck: when no part can go on, everything is at its end (`Stuck`). A run that has been
stopped has cancelled everything, and one that has not been stopped has dealt all records, and its
workers have taken them.

* `Run.finished_of_stuck`, `Run.over_of_stuck`: **a run in which no step is possible has ended**;
* `Run.takenBy_eq`: **at its end every worker has taken its share of the records**, in order;
* `AllOver.step_none`: where everything is at its end nothing is done any more.
-/

namespace Sluice.Parallel

variable {σ : Type}

/-! ## 1. Runs that cannot go on -/

section Stuck

variable {plan : Plan σ} {records : List Value} {st : State σ} {log : List Event}

/-- No part can go on; only an interruption from outside is left. -/
def Stuck (plan : Plan σ) (st : State σ) : Prop :=
  ∀ choice, choice ≠ .interrupt → step plan st choice = none

theorem onLane?_none {f : Lane → Session σ → Option (Lane × Session σ)} {n : Nat} {lane : Lane}
    (h : onLane? f n st = none) (hlane : st.lanes[n]? = some lane) : f lane st.session = none := by
  unfold onLane? at h
  rw [hlane] at h
  exact Option.map_eq_none_iff.mp h

/-- A worker of such a run waits for its queue or is at its end. -/
theorem Stuck.lane (h : Stuck plan st) {n : Nat} {lane : Lane} (hlane : st.lanes[n]? = some lane) :
    (lane.phase = .ready ∧ lane.queue = []) ∨ lane.phase.isOver = true := by
  cases hphase : lane.phase with
  | ready =>
    have hwork := onLane?_none (h (.work n) (by simp)) hlane
    unfold work? at hwork
    cases hqueue : lane.queue with
    | nil => exact .inl ⟨rfl, rfl⟩
    | cons item queue => rw [hphase, hqueue] at hwork; cases hwork
  | committing c begun next =>
    have hsubmit := onLane?_none (h (.submit n) (by simp)) hlane
    unfold submit? at hsubmit
    rw [hphase] at hsubmit
    dsimp only at hsubmit
    split at hsubmit <;> cases hsubmit
  | ended b v begun next =>
    have hresume := onLane?_none (h (.resume n) (by simp)) hlane
    unfold resume? at hresume
    rw [hphase] at hresume
    cases hresume
  | _ => exact .inr rfl

/-- **A run that has been stopped goes on until everything is at its end.** -/
theorem Run.over_of_stuck {config : Config} {count : Nat} {source : Source} {s : Session σ}
    (h : Run plan (Parallel.start config count source s) log st) (hcourse : st.course ≠ .running)
    (hstuck : Stuck plan st) : AllOver st := by
  intro lane hmem
  obtain ⟨n, hlane⟩ := List.getElem?_of_mem hmem
  rcases hstuck.lane hlane with ⟨hready, -⟩ | hover
  · have hsettling := (h.settling hcourse).lanes n lane hlane
    rw [hready] at hsettling
    rcases hsettling with h | h <;> cases h
  · exact hover

/-- Nobody has stopped in a run that cannot go on and is not stopped: it would be noticed. -/
theorem Stuck.stop?_eq_none (h : Stuck plan st) (hcourse : st.course = .running) {n : Nat}
    {lane : Lane} (hlane : st.lanes[n]? = some lane) : lane.phase.stop? = none := by
  have hnotice := h (.noticeWorker n) (by simp)
  cases hstop : lane.phase.stop? with
  | none => rfl
  | some stop => simp [Parallel.step, hcourse, hlane, hstop] at hnotice

/-- So everybody waits or has finished. -/
theorem Dealing.waits (hd : Dealing records log st) (hstuck : Stuck plan st)
    (hcourse : st.course = .running) {n : Nat} {lane : Lane} (hlane : st.lanes[n]? = some lane) :
    (lane.phase = .ready ∧ lane.queue = []) ∨ lane.phase = .finished := by
  rcases hstuck.lane hlane with hready | hover
  · exact .inl hready
  · have hnone := hstuck.stop?_eq_none hcourse hlane
    have hgoing := hd.going n lane hlane
    cases hphase : lane.phase with
    | finished => exact .inr rfl
    | stopped stop => rw [hphase] at hnone; cases hnone
    | cancelled => rw [hphase] at hgoing; cases hgoing
    | _ => rw [hphase] at hover; cases hover

/-- A queue to which no end mark has been put has room then. -/
theorem Dealing.put?_isSome (hd : Dealing records log st) (hstuck : Stuck plan st)
    (hcourse : st.course = .running) (hroom : 0 < plan.room) {n : Nat} (hn : n < st.lanes.length)
    (hmark : ¬ n < st.producer.marked st.lanes.length) (item : Item) :
    ∃ ls, put? plan.room st.lanes n item = some ls := by
  have hlane := List.getElem?_eq_getElem hn
  rcases hd.waits hstuck hcourse hlane with ⟨-, hqueue⟩ | hfinished
  · unfold put?
    rw [hlane]
    dsimp only
    rw [hqueue, if_pos (by simpa using hroom)]
    exact ⟨_, rfl⟩
  · exact absurd (hd.marked hlane (hstuck.stop?_eq_none hcourse hlane) (by rw [hfinished]; rfl))
      hmark

/-- The producer has put everything then. -/
theorem Dealing.producer_finished (hd : Dealing records log st) (hstuck : Stuck plan st)
    (hcourse : st.course = .running) (hroom : 0 < plan.room) (hcount : 0 < st.lanes.length) :
    st.producer = .finished := by
  have hproduce : produce? plan st = none := hstuck .produce (by simp)
  have hput : ∀ n < st.lanes.length, ¬ n < st.producer.marked st.lanes.length → ∀ item,
      ∃ ls, put? plan.room st.lanes n item = some ls :=
    fun n hn hmark item => hd.put?_isSome hstuck hcourse hroom hn hmark item
  have hat := hd.producer
  unfold produce? at hproduce
  cases hp : st.producer with
  | records index rest =>
    rw [hp] at hproduce hput
    cases rest with
    | nil => cases hf : plan.sourceFailure? <;> simp [hf] at hproduce
    | cons v rest =>
      obtain ⟨ls, hls⟩ := hput (index % st.lanes.length) (Nat.mod_lt _ hcount) (Nat.not_lt_zero _)
        (.record index v)
      simp [hls] at hproduce
  | marks n =>
    rw [hp] at hproduce hput
    dsimp only at hproduce
    split at hproduce
    · next hn =>
      obtain ⟨ls, hls⟩ := hput n hn (Nat.lt_irrefl n) .last
      simp [hls] at hproduce
    · cases hproduce
  | finished => rfl
  | failed f =>
    have hnotice := hstuck .noticeProducer (by simp)
    simp [Parallel.step, hcourse, hp] at hnotice
  | cancelled =>
    rw [hp] at hat
    exact hat.elim

/-- **A run that is not stopped goes on until every worker has finished.** -/
theorem Run.finished_of_stuck {config : Config} {count : Nat} {source : Source} {s : Session σ}
    (h : Run plan (Parallel.start config count source s) log st) (hcount : 0 < count)
    (hroom : 0 < plan.room) (hcourse : st.course = .running) (hstuck : Stuck plan st) :
    (∀ lane ∈ st.lanes, lane.phase = .finished) ∧ st.producer = .finished := by
  have hd := h.dealing hcourse
  have hlength : st.lanes.length = count := h.length_lanes.trans (length_start ..)
  have hproducer := hd.producer_finished hstuck hcourse hroom (hlength ▸ hcount)
  refine ⟨fun lane hmem => ?_, hproducer⟩
  obtain ⟨n, hlane⟩ := List.getElem?_of_mem hmem
  rcases hd.waits hstuck hcourse hlane with ⟨hready, hqueue⟩ | hfinished
  · have hno := hd.unmarked hlane hready hqueue
    rw [hproducer] at hno
    exact absurd (List.getElem?_eq_some_iff.mp hlane).1 hno
  · exact hfinished

/-- **At the end every worker has taken its share.** -/
theorem Run.takenBy_eq {config : Config} {count : Nat} {source : Source} {s : Session σ}
    (h : Run plan (Parallel.start config count source s) log st) (hcourse : st.course = .running)
    (hlanes : ∀ lane ∈ st.lanes, lane.phase = .finished) (hproducer : st.producer = .finished)
    {n : Nat} (hn : n < count) : takenBy n log = share count source.records n := by
  have hd := h.dealing hcourse
  have hlength : st.lanes.length = count := h.length_lanes.trans (length_start ..)
  have hlane := List.getElem?_eq_getElem (hlength ▸ hn)
  have hfinished := hlanes _ (List.mem_of_getElem? hlane)
  have htaken := hd.takenBy_eq hlane (by rw [hfinished]; rfl) (by rw [hfinished]; rfl)
  rw [hproducer, hlength] at htaken
  rwa [Producer.dealt, List.take_length] at htaken
  · intro _ _ e
    cases e

end Stuck

/-! ## 2. Runs that are at their end -/

section End

variable {plan : Plan σ} {st st₀ : State σ} {log : List Event}

theorem onLane?_over {f : Lane → Session σ → Option (Lane × Session σ)}
    (hf : ∀ lane s, lane.phase.isOver = true → f lane s = none) (hover : AllOver st) (n : Nat) :
    onLane? f n st = none := by
  unfold onLane?
  split
  · rfl
  · next lane hlane => rw [hf lane _ (hover lane (List.mem_of_getElem? hlane))]; rfl

/-- **Where everything is at its end nothing is done**, except that an error may still be noticed
in a run that is not stopped yet. -/
theorem AllOver.step_none (hover : AllOver st) (hproducer : st.producer.isOver = true)
    {choice : Choice} (hnotice : st.course = .running →
      (∃ n, choice = .noticeWorker n) ∨ choice = .noticeProducer ∨ choice = .interrupt →
      step plan st choice = none) : step plan st choice = none := by
  have hwork : ∀ lane s, lane.phase.isOver = true → work? plan lane s = none := by
    intro lane s h
    unfold work?
    split
    · next hphase _ => rw [hphase] at h; cases h
    · rfl
  have hsubmit : ∀ lane s, lane.phase.isOver = true → submit? plan lane s = none := by
    intro lane s h
    unfold submit?
    split
    · next hphase => rw [hphase] at h; cases h
    · rfl
  have hresume : ∀ lane s, lane.phase.isOver = true → resume? plan lane s = none := by
    intro lane s h
    unfold resume?
    split
    · next hphase => rw [hphase] at h; cases h
    · rfl
  cases choice with
  | produce =>
    dsimp only [step]
    unfold produce?
    split
    · next hp => rw [hp] at hproducer; cases hproducer
    · next hp => rw [hp] at hproducer; cases hproducer
    · next hp => rw [hp] at hproducer; cases hproducer
    · rfl
  | work n => exact onLane?_over hwork hover n
  | submit n => exact onLane?_over hsubmit hover n
  | resume n => exact onLane?_over hresume hover n
  | noticeWorker n =>
    cases hcourse : st.course with
    | running => exact hnotice hcourse (.inl ⟨n, rfl⟩)
    | _ => simp [step, hcourse]
  | noticeProducer =>
    cases hcourse : st.course with
    | running => exact hnotice hcourse (.inr (.inl rfl))
    | _ => simp [step, hcourse]
  | interrupt =>
    cases hcourse : st.course with
    | running => exact hnotice hcourse (.inr (.inr rfl))
    | _ => simp [step, hcourse]

/-- The run has come to its end without having been stopped. -/
def State.isDone (st : State σ) : Bool :=
  match st.course, st.producer with
  | .running, .finished => st.lanes.all fun lane =>
    match lane.phase with
    | .finished => true
    | _ => false
  | _, _ => false

theorem State.isDone_inv (h : st.isDone = true) :
    st.course = .running ∧ st.producer = .finished ∧
      ∀ lane ∈ st.lanes, lane.phase = .finished := by
  unfold isDone at h
  split at h
  · next hcourse hproducer =>
    refine ⟨hcourse, hproducer, fun lane hlane => ?_⟩
    have hphase := List.all_eq_true.mp h lane hlane
    split at hphase
    · next heq => exact heq
    · cases hphase
  · cases h

theorem State.isDone_stuck (h : st.isDone = true) : Stuck plan st := by
  obtain ⟨hcourse, hproducer, hlanes⟩ := isDone_inv h
  have hover : AllOver st := fun lane hlane => by rw [hlanes lane hlane]; rfl
  refine fun choice hne => hover.step_none (by rw [hproducer]; rfl) fun _ hnotice => ?_
  rcases hnotice with ⟨n, rfl⟩ | rfl | rfl
  · dsimp only [step]
    rw [hcourse]
    cases hlane : st.lanes[n]? with
    | none => rfl
    | some lane =>
      have hphase := hlanes lane (List.mem_of_getElem? hlane)
      simp [hphase, Phase.stop?]
  · simp [step, hcourse, hproducer]
  · exact absurd rfl hne

/-- **The run in the usual order is one of the runs.** -/
theorem Run.drive (choices : State σ → List Choice) : ∀ (fuel : Nat) {st : State σ}
    {log : List Event}, Run plan st₀ log st → ∃ log, Run plan st₀ log (drive plan choices fuel st)
  | 0, _, log, h => ⟨log, h⟩
  | fuel + 1, st, log, h => by
    unfold Parallel.drive
    split
    · next st' hfirst =>
      obtain ⟨choice, -, hstep⟩ := List.exists_of_findSome?_eq_some hfirst
      exact Run.drive choices fuel (h.step choice hstep)
    · exact ⟨log, h⟩

theorem Run.drive_start (plan : Plan σ) (choices : State σ → List Choice) (fuel : Nat)
    (st : State σ) : ∃ log, Run plan st log (Parallel.drive plan choices fuel st) :=
  Run.drive choices fuel .start

end End

end Sluice.Parallel
