import Sluice.Proofs.Parallel.Run

/-!
# Runs that have been stopped

A run that is stopped cancels everything that still goes on. A worker whose commit is under way
gives way when that commit has ended, and is at its end then; nothing else is begun.

* `takeItem_phase`, `resume?_inv`, `cancelLane_phase`: what a worker turns to;
* `Moves.settling`, `Run.settling`: **once a run has been stopped, every worker is at its end or
  gives way**.
-/

namespace Sluice.Parallel

variable {σ : Type}

/-! ## 1. What a worker turns to -/

namespace Phase

/-- The worker was cancelled. -/
def isCancelled : Phase → Bool
  | .committing _ _ .unwind => true
  | .ended _ _ _ .unwind => true
  | .cancelled => true
  | _ => false

/-- The worker has taken its end mark. -/
def hasMark : Phase → Bool
  | .committing _ _ .finish => true
  | .ended _ _ _ .finish => true
  | .finished => true
  | _ => false

end Phase

/-- What may follow when a worker has taken account of its commit. -/
inductive Then.Leads : Then → Phase → Prop where
  | goOn : Leads .goOn .ready
  | finish : Leads .finish .finished
  | stops (next : Then) (stop : Stop) (h : next ≠ .unwind) : Leads next (.stopped stop)
  | unwind : Leads .unwind .cancelled

section Phases

variable (plan : Plan σ) (lane : Lane) (s : Session σ)

theorem proceed_leads (next : Then) :
    next.Leads (proceed plan lane next s).1.phase ∧
      (proceed plan lane next s).1.queue = lane.queue := by
  cases next with
  | goOn => exact ⟨.goOn, rfl⟩
  | finish => exact ⟨.finish, rfl⟩
  | stop index r => exact ⟨.stops _ _ (by simp), rfl⟩
  | unwind => exact ⟨.unwind, rfl⟩

theorem settled_leads (b : Batch) (v : Commit.Verdict) (begun : Binary64) (next : Then) :
    next.Leads (settled plan lane b v begun next s).1.phase ∧
      (settled plan lane b v begun next s).1.queue = lane.queue := by
  unfold settled
  dsimp only
  split
  · exact ⟨.unwind, rfl⟩
  · next hne _ => exact ⟨.stops _ _ hne, rfl⟩
  · exact proceed_leads plan _ _ _

/-- Whether an item is the end mark. -/
def Item.isLast : Item → Bool
  | .record _ _ => false
  | .last => true

/-- A worker that takes an item is not cancelled by that, and has its end mark if that is the
item. -/
theorem takeItem_phase (item : Item) (hphase : lane.phase = .ready) :
    (takeItem plan lane item s).1.phase.isCancelled = false ∧
      (takeItem plan lane item s).1.phase.hasMark = item.isLast ∧
      (takeItem plan lane item s).1.queue = lane.queue := by
  cases item with
  | last =>
    unfold takeItem begin_
    dsimp only
    split <;> exact ⟨rfl, rfl, rfl⟩
  | record index v =>
    unfold takeItem
    dsimp only
    split
    · next batch? worker s' _ => cases batch? <;> exact ⟨rfl, rfl, rfl⟩
    · exact ⟨rfl, rfl, rfl⟩
    · next r worker s' _ =>
      split
      · dsimp only
        rw [hphase]
        exact ⟨rfl, rfl, rfl⟩
      · unfold begin_
        dsimp only
        split <;> exact ⟨rfl, rfl, rfl⟩

theorem cancelLane_phase :
    (cancelLane plan lane s).1.phase.isCancelled = true ∨
      (cancelLane plan lane s).1.phase.isOver = true := by
  unfold cancelLane
  cases hphase : lane.phase with
  | ready => exact .inl rfl
  | committing c begun next => exact .inl rfl
  | ended b v begun next => exact .inl rfl
  | _ => exact .inr (by dsimp only; rw [hphase]; rfl)

theorem resume?_inv {plan : Plan σ} {lane lane' : Lane} {s s' : Session σ}
    (h : resume? plan lane s = some (lane', s')) :
    ∃ b v begun next, lane.phase = .ended b v begun next ∧ lane'.queue = lane.queue ∧
      next.Leads lane'.phase := by
  unfold resume? at h
  split at h
  · next b v begun next hphase =>
    have hleads := settled_leads plan lane s b v begun next
    rw [Option.some.inj h] at hleads
    exact ⟨b, v, begun, next, hphase, hleads.2, hleads.1⟩
  · cases h

end Phases

/-! ## 2. Runs that have been stopped -/

/-- Nothing is begun any more: every worker is at its end or gives way. -/
structure Settling (st : State σ) : Prop where
  lanes : ∀ (n : Nat) (lane : Lane), st.lanes[n]? = some lane →
    lane.phase.isCancelled = true ∨ lane.phase.isOver = true
  producer : st.producer.isOver = true

section Settling

variable {plan : Plan σ} {st st' : State σ} {log more : List Event}

theorem Produces.isOver {failure? : Option Failure} {count : Nat} {p p' : Producer}
    {put? : Option (Nat × Item)} (h : Produces failure? count p put? p') : p.isOver = false := by
  cases h <;> rfl

/-- **Once a run has been stopped it only settles.** -/
theorem Moves.settling (h : Moves plan st more st') (hs : st.course ≠ .running → Settling st)
    (hcourse : st'.course ≠ .running) : Settling st' := by
  cases h with
  | put n item lane producer hproduces hlane hroom =>
    exact absurd hproduces.isOver (by rw [(hs hcourse).producer]; simp)
  | turn producer hproduces =>
    exact absurd hproduces.isOver (by rw [(hs hcourse).producer]; simp)
  | take n item lane queue hlane hphase hqueue =>
    have := (hs hcourse).lanes n lane hlane
    rw [hphase] at this
    rcases this with h | h <;> cases h
  | submit n lane lane' s c begun next hlane hphase hsubmit =>
    refine ⟨forall_set ?_ fun m other _ hother => (hs hcourse).lanes m other hother,
      (hs hcourse).producer⟩
    obtain ⟨c, begun, next, hphase, -, hnext⟩ := submit?_inv hsubmit
    have hold := (hs hcourse).lanes n lane hlane
    rw [hphase] at hold
    cases next with
    | unwind => rcases hnext with ⟨c', h⟩ | ⟨v, h⟩ <;> rw [h] <;> exact .inl rfl
    | _ => rcases hold with h | h <;> cases h
  | resume n lane lane' s hlane hresume =>
    refine ⟨forall_set ?_ fun m other _ hother => (hs hcourse).lanes m other hother,
      (hs hcourse).producer⟩
    obtain ⟨b, v, begun, next, hphase, -, hleads⟩ := resume?_inv hresume
    have hold := (hs hcourse).lanes n lane hlane
    rw [hphase] at hold
    cases next with
    | unwind =>
      generalize lane'.phase = p at hleads
      cases hleads with
      | unwind => exact .inl rfl
      | stops _ stop => exact .inr rfl
    | _ => rcases hold with h | h <;> cases h
  | cancel course hrunning hne =>
    refine ⟨fun m other hother => ?_, ?_⟩
    · obtain ⟨old, s, -, rfl⟩ := cancelAll_inv hother
      exact cancelLane_phase plan old s
    · change (cancelProducer st.producer).isOver = true
      cases st.producer <;> rfl

theorem Run.settling {config : Config} {count : Nat} {source : Source} {s : Session σ}
    (h : Run plan (Parallel.start config count source s) log st) (hcourse : st.course ≠ .running) :
    Settling st := by
  refine h.rule (P := fun _ st => st.course ≠ .running → Settling st) (fun hne => ?_) ?_ hcourse
  · exact absurd rfl hne
  · exact fun _ _ _ _ hs hm => hm.settling hs

end Settling

end Sluice.Parallel
