import Sluice.Proofs.Batch.Sealing
import Sluice.Proofs.Sink.Account
import Sluice.Sink.Parallel

/-!
# The books of one worker

A worker of a parallel run has taken records and submitted batches. Its books are in order when its
account agrees with both, whatever the worker is doing at the moment: a commit may be under way
(`flight`), or may have ended without the worker knowing yet (`due`), and the worker may still take
records, or none any more, or may have been cut off (`Stage`).

* `Books`: the invariant; `booksFor` reads it off a worker's phase;
* `takeItem_books`, `submit?_books`, `resume?_books`, `cancelLane_books`: **whatever a worker does,
  and whenever it is cancelled, its books stay in order**;
* `takeItem_state`, `settled_state`, `cancelLane_state`: nothing but a submission reaches the store.
-/

namespace Sluice.Parallel

/-! ## 1. Records and submissions -/

/-- The operations of records. -/
def operations (t : Transformer) (taken : List (Nat × Value)) : List Operation :=
  taken.filterMap fun (_, record) => (t.transform record).toOption

/-- The rejections of records, with the positions of the records. -/
def rejections (t : Transformer) (taken : List (Nat × Value)) : List (Nat × Record.Rejection) :=
  taken.filterMap fun (index, record) => match t.transform record with
    | .error (.rejected r) => some (index, r)
    | _ => none

section Taken

variable {t : Transformer} {record : Value} (taken : List (Nat × Value)) (index : Nat)

theorem operations_ok {o : Operation} (h : t.transform record = .ok o) :
    operations t (taken ++ [(index, record)]) = operations t taken ++ [o] := by
  simp [operations, h, Except.toOption]

theorem operations_error {e : Record.Refusal} (h : t.transform record = .error e) :
    operations t (taken ++ [(index, record)]) = operations t taken := by
  simp [operations, h, Except.toOption]

theorem rejections_rejected {r : Record.Rejection} (h : t.transform record = .error (.rejected r)) :
    rejections t (taken ++ [(index, record)]) = rejections t taken ++ [(index, r)] := by
  simp [rejections, h]

theorem rejections_ok {o : Operation} (h : t.transform record = .ok o) :
    rejections t (taken ++ [(index, record)]) = rejections t taken := by
  simp [rejections, h]

theorem rejections_halted {e : Record.Halt} (h : t.transform record = .error (.halted e)) :
    rejections t (taken ++ [(index, record)]) = rejections t taken := by
  simp [rejections, h]

end Taken

/-- The batches that a store has applied, among those submitted. -/
def appliedIn (subs : List (Batch × Except Failure Unit)) : List Batch :=
  subs.filterMap fun e => match e.2 with
    | .ok _ => some e.1
    | .error _ => none

theorem appliedIn_append (subs more : List (Batch × Except Failure Unit)) :
    appliedIn (subs ++ more) = appliedIn subs ++ appliedIn more := List.filterMap_append

/-! ## 2. Books -/

/-- How far a worker is: it may take further records, or it takes none any more, or it has been cut
off from what it would have done. -/
inductive Stage where
  | taking
  | closed
  | cut
  deriving DecidableEq, Repr

/-- What an accumulator has made of operations at a stage. -/
def Stage.Seals (stage : Stage) (fresh : Accumulator) (os : List Operation) (a : Accumulator)
    (bs : List Batch) : Prop :=
  match stage with
  | .taking => fresh.feed os = (bs, a)
  | .closed => Plan.batchesOf fresh os = bs
  | .cut => bs <+: Plan.batchesOf fresh os

theorem Stage.Seals.cut {stage : Stage} {fresh a : Accumulator} {os : List Operation}
    {bs : List Batch} (h : stage.Seals fresh os a bs) (a' : Accumulator) :
    Stage.cut.Seals fresh os a' bs := by
  cases stage with
  | taking =>
    have hinitial := Accumulator.feed_isPrefix fresh os []
    rw [List.append_nil, show fresh.feed os = (bs, a) from h] at hinitial
    exact hinitial
  | closed =>
    have hall : Plan.batchesOf fresh os = bs := h
    rw [← hall]
    exact List.prefix_refl _
  | cut => exact h

/-- **The books of a worker**: its account is that of the records taken and of a journal; the
submissions are those of the journal, of a commit that is due to be booked and of one in flight; and
the batches of all these are what the accumulator has sealed. A batch whose commit has ended has been
submitted. -/
structure Books (retry : RetryPolicy) (t : Transformer) (fresh : Accumulator)
    (taken : List (Nat × Value)) (subs : List (Batch × Except Failure Unit)) (j : Journal)
    (w : Worker) (due : Journal) (flight : List Batch) (stage : Stage) : Prop where
  received : w.result.received = taken.length
  rejected : w.result.rejected = rejections t taken
  committed : w.result.committed = j.committed
  failed : w.result.failed = j.failed
  written : w.result.written = Batch.total j.applied
  sound : Journal.IsSound (j ++ due)
  clear : stage ≠ .cut → j.IsClear
  computable : retry.IsComputable → Journal.IsClear (j ++ due)
  sealed : stage.Seals fresh (operations t taken) w.accumulator (j.batches ++ flight)
  applied : appliedIn subs = Journal.applied (j ++ due)
  submitted : ∀ e ∈ subs, e.1 ∈ j.batches ++ flight
  begun : ∀ b ∈ Journal.batches (j ++ due), ∃ e ∈ subs, e.1 = b

section Books

variable {σ : Type} {retry : RetryPolicy} {t : Transformer} {fresh : Accumulator}
  {taken : List (Nat × Value)} {subs : List (Batch × Except Failure Unit)} {j due : Journal}
  {w : Worker} {flight : List Batch} {stage : Stage} {config : Config}

theorem Books.start (retry : RetryPolicy) (t : Transformer) (config : Config) (name : Text)
    (clock : Binary64) :
    Books retry t { bounds := config.bounds, name } [] [] [] (Worker.start config name clock) [] []
      .taking where
  received := rfl
  rejected := rfl
  committed := rfl
  failed := rfl
  written := rfl
  sound _ he := absurd he List.not_mem_nil
  clear _ _ he := absurd he List.not_mem_nil
  computable _ _ he := absurd he List.not_mem_nil
  sealed := rfl
  applied := rfl
  submitted _ he := absurd he List.not_mem_nil
  begun _ hb := absurd hb List.not_mem_nil

/-- A worker may be cut off at any time; what is open then is dropped. -/
theorem Books.discard (h : Books retry t fresh taken subs j w due flight stage) (config : Config)
    (s : Session σ) :
    Books retry t fresh taken subs j (w.discard config s).1 due flight .cut where
  received := h.received
  rejected := h.rejected
  committed := h.committed
  failed := h.failed
  written := h.written
  sound := h.sound
  clear hne := absurd rfl hne
  computable := h.computable
  sealed := h.sealed.cut _
  applied := h.applied
  submitted := h.submitted
  begun := h.begun

theorem Books.cut (h : Books retry t fresh taken subs j w due flight stage) :
    Books retry t fresh taken subs j w due flight .cut :=
  { h with clear := fun hne => absurd rfl hne, sealed := h.sealed.cut _ }

/-- A record is taken. -/
theorem Books.accept {w' : Worker} {index : Nat} {record : Value} {out : Worker.Taken}
    (h : Books retry t fresh taken subs j w [] [] .taking)
    (ha : Worker.Accepts t w index record out w') :
    Books retry t fresh (taken ++ [(index, record)]) subs j w' [] out.batch?.toList .taking where
  received := by rw [ha.result, List.length_append]; exact congrArg (· + 1) h.received
  rejected := by
    cases ha with
    | sealed o _ ho _ hr => rw [hr, rejections_ok taken index ho]; exact h.rejected
    | refused r _ ho _ hr => rw [hr, rejections_rejected taken index ho, ← h.rejected]
    | halted e _ ho _ hr => rw [hr, rejections_halted taken index ho]; exact h.rejected
  committed := by rw [ha.result]; exact h.committed
  failed := by rw [ha.result]; exact h.failed
  written := by rw [ha.result]; exact h.written
  sound := h.sound
  clear := h.clear
  computable := h.computable
  sealed := by
    have hfeed : fresh.feed (operations t taken) = (j.batches ++ [], w.accumulator) := h.sealed
    change fresh.feed _ = _
    cases ha with
    | sealed o _ ho ha _ =>
      rw [operations_ok taken index ho, Accumulator.feed_append, hfeed, List.append_nil, ha]
      simp [Accumulator.feed, Worker.Taken.batch?]
    | refused r _ ho ha _ => rw [operations_error taken index ho, ha]; exact hfeed
    | halted e _ ho ha _ => rw [operations_error taken index ho, ha]; exact hfeed
  applied := h.applied
  submitted e he := List.mem_append.mpr (.inl (by simpa using h.submitted e he))
  begun := h.begun

/-- The open batch is sealed for good. -/
theorem Books.flush (h : Books retry t fresh taken subs j w [] [] .taking) :
    Books retry t fresh taken subs j w.flush.2 [] w.flush.1.toList .closed where
  received := h.received
  rejected := h.rejected
  committed := h.committed
  failed := h.failed
  written := h.written
  sound := h.sound
  clear _ := h.clear (by decide)
  computable := h.computable
  sealed := by
    have hfeed : fresh.feed (operations t taken) = (j.batches ++ [], w.accumulator) := h.sealed
    change Plan.batchesOf _ _ = _
    rw [Accumulator.batchesOf_eq, hfeed, List.append_nil, Worker.flush_batch]
  applied := h.applied
  submitted e he := List.mem_append.mpr (.inl (by simpa using h.submitted e he))
  begun := h.begun

/-- A submission fails and will be repeated. -/
theorem Books.repeated {b : Batch} {f : Failure}
    (h : Books retry t fresh taken subs j w [] [b] stage) :
    Books retry t fresh taken (subs ++ [(b, .error f)]) j w [] [b] stage :=
  { h with
    applied := by
      rw [appliedIn_append, h.applied]
      exact List.append_nil _
    submitted := fun e he => by
      rcases List.mem_append.mp he with he | he
      · exact h.submitted e he
      · rw [List.mem_singleton.mp he]
        exact List.mem_append.mpr (.inr List.mem_cons_self)
    begun := fun b' hb => by
      obtain ⟨e, he, hb⟩ := h.begun b' hb
      exact ⟨e, List.mem_append.mpr (.inl he), hb⟩ }

/-- A submission ends its commit. -/
theorem Books.ended {b : Batch} {v : Commit.Verdict} {outcome : Except Failure Unit}
    (h : Books retry t fresh taken subs j w [] [b] stage) (hv : v.About b)
    (hclear : retry.IsComputable → v.IsClear)
    (hok : v.committed?.isSome = true ↔ outcome = .ok ()) :
    Books retry t fresh taken (subs ++ [(b, outcome)]) j w [(b, v)] [b] stage :=
  { h with
    sound := by
      have := h.sound
      rw [List.append_nil] at this
      exact this.append (Journal.isSound_singleton hv)
    computable := fun hp => by
      have := h.computable hp
      rw [List.append_nil] at this
      exact this.append (Journal.isClear_singleton (hclear hp))
    applied := by
      rw [appliedIn_append, h.applied, List.append_nil, Journal.applied_append]
      congr 1
      cases outcome with
      | ok u =>
        obtain ⟨r, hr⟩ := Option.isSome_iff_exists.mp (hok.mpr rfl)
        simp [appliedIn, Journal.withResult, hr]
      | error f =>
        have hno : v.committed? = none := by
          cases hc : v.committed? with
          | none => rfl
          | some r => rw [hc] at hok; cases hok.mp rfl
        simp [appliedIn, Journal.withResult, hno]
    submitted := fun e he => by
      rcases List.mem_append.mp he with he | he
      · exact h.submitted e he
      · rw [List.mem_singleton.mp he]
        exact List.mem_append.mpr (.inr List.mem_cons_self)
    begun := fun b' hb => by
      rw [Journal.batches_append] at hb
      rcases List.mem_append.mp hb with hb | hb
      · obtain ⟨e, he, hb⟩ := h.begun b' (by rwa [List.append_nil])
        exact ⟨e, List.mem_append.mpr (.inl he), hb⟩
      · rw [List.mem_singleton.mp hb]
        exact ⟨_, List.mem_append.mpr (.inr List.mem_cons_self), rfl⟩ }

/-- **What was due is booked.** Only a worker that was cut off may book a commit that was broken
off. -/
theorem Books.settle {b : Batch} {v : Commit.Verdict}
    (h : Books retry t fresh taken subs j w [(b, v)] [b] stage) (config : Config)
    (seconds : Binary64) (s : Session σ) (hv : stage ≠ .cut → v.IsClear) :
    Books retry t fresh taken subs (j ++ [(b, v)]) (w.settle config b v seconds s).2.1 [] []
      stage := by
  have hbooked := Worker.settle_booked config w
    (h.sound (b, v) (List.mem_append.mpr (.inr List.mem_cons_self))) seconds s
  have hbatches : Journal.batches (j ++ [(b, v)]) ++ [] = j.batches ++ [b] := by
    rw [List.append_nil, Journal.batches_append]
    rfl
  constructor
  · rw [hbooked.received, h.received]
  · rw [hbooked.rejected, h.rejected]
  · rw [hbooked.committed, h.committed, Journal.committed_append]
  · rw [hbooked.failed, h.failed, Journal.failed_append]
  · rw [hbooked.written, h.written, Journal.applied_append, Batch.total_append]
  · rw [List.append_nil]
    exact h.sound
  · intro hne
    exact (h.clear hne).append (Journal.isClear_singleton (hv hne))
  · intro hp
    rw [List.append_nil]
    exact h.computable hp
  · rw [hbooked.accumulator, hbatches]
    exact h.sealed
  · rw [List.append_nil]
    exact h.applied
  · rw [hbatches]
    exact h.submitted
  · rw [List.append_nil]
    exact h.begun

end Books

/-! ## 3. Steps of a worker -/

def Then.stage : Then → Stage
  | .goOn => .taking
  | .finish => .closed
  | .stop _ _ => .closed
  | .unwind => .cut

namespace Phase

/-- How far a worker is. -/
def stage : Phase → Stage
  | .ready => .taking
  | .committing _ _ next => next.stage
  | .ended _ _ _ next => next.stage
  | .finished => .closed
  | .stopped _ => .cut
  | .cancelled => .cut

/-- The commit that has ended and is not booked yet. -/
def due : Phase → Journal
  | .ended batch verdict _ _ => [(batch, verdict)]
  | _ => []

/-- The batch whose commit is not booked yet. -/
def flight : Phase → List Batch
  | .committing commit _ _ => [commit.batch]
  | .ended batch _ _ _ => [batch]
  | _ => []

end Phase

/-- The books of a worker, for what it is doing now. -/
def booksFor {σ : Type} (plan : Plan σ) (fresh : Accumulator) (taken : List (Nat × Value))
    (subs : List (Batch × Except Failure Unit)) (j : Journal) (lane : Lane) : Prop :=
  Books plan.config.retry plan.transformer fresh taken subs j lane.worker lane.phase.due
    lane.phase.flight lane.phase.stage

section Steps

variable {σ : Type} {plan : Plan σ} {fresh : Accumulator} {taken : List (Nat × Value)}
  {subs : List (Batch × Except Failure Unit)} {j : Journal} {lane : Lane}

theorem stopLane_books {stage : Stage} (stop : Stop) (s : Session σ)
    (h : Books plan.config.retry plan.transformer fresh taken subs j lane.worker [] [] stage) :
    booksFor plan fresh taken subs j (stopLane plan lane stop s).1 :=
  h.discard plan.config s

theorem leave_books {stage : Stage} (s : Session σ)
    (h : Books plan.config.retry plan.transformer fresh taken subs j lane.worker [] [] stage) :
    booksFor plan fresh taken subs j (leave plan lane s).1 :=
  h.discard plan.config s

theorem proceed_books {next : Then} (s : Session σ)
    (h : Books plan.config.retry plan.transformer fresh taken subs j lane.worker [] []
      next.stage) :
    booksFor plan fresh taken subs j (proceed plan lane next s).1 := by
  cases next with
  | goOn => exact h
  | finish => exact h
  | stop index r => exact stopLane_books _ s h
  | unwind => exact leave_books s h

theorem begin_books (batch? : Option Batch) (next : Then) (s : Session σ)
    (h : Books plan.config.retry plan.transformer fresh taken subs j lane.worker []
      batch?.toList next.stage) :
    booksFor plan fresh taken subs j (begin_ plan lane batch? next s).1 := by
  cases batch? with
  | none => exact proceed_books s h
  | some batch => exact h

/-- The records that an item brings. -/
def Item.records : Item → List (Nat × Value)
  | .record index v => [(index, v)]
  | .last => []

/-- **A worker takes an item.** -/
theorem takeItem_books (item : Item) (s : Session σ) (hphase : lane.phase = .ready)
    (h : booksFor plan fresh taken subs j lane) :
    booksFor plan fresh (taken ++ item.records) subs j (takeItem plan lane item s).1 := by
  unfold booksFor at h
  rw [hphase] at h
  cases item with
  | last =>
    rw [Item.records, List.append_nil]
    exact begin_books _ .finish s h.flush
  | record index v =>
    have haccepts :=
      Worker.accept_accepts plan.config plan.transformer lane.worker index v s
    unfold takeItem
    dsimp only
    rcases hout : lane.worker.accept plan.config plan.transformer index v s with ⟨out, worker, s'⟩
    rw [hout] at haccepts
    have haccept := h.accept haccepts
    dsimp only at haccept ⊢
    cases out with
    | sealed batch? => exact begin_books batch? .goOn s' haccept
    | halted e => exact stopLane_books _ s' haccept
    | refused r =>
      dsimp only
      split
      · change Books _ _ _ _ _ _ _ lane.phase.due lane.phase.flight lane.phase.stage
        rw [hphase]
        exact haccept
      · exact begin_books _ (.stop index r) s' haccept.flush

/-- **A commit under way submits its batch once more.** -/
theorem submit?_books {lane' : Lane} {s s' : Session σ}
    (hstep : submit? plan lane s = some (lane', s')) (h : booksFor plan fresh taken subs j lane) :
    ∃ c begun next, lane.phase = .committing c begun next ∧
      booksFor plan fresh taken
        (subs ++ [(c.batch, (Commit.reply plan.config.retry plan.store c s.state).outcome)])
        j lane' := by
  unfold submit? at hstep
  split at hstep
  · next c begun next hphase =>
    have hsteps := Commit.step_steps plan.config.retry plan.store c s
    unfold booksFor at h
    rw [hphase] at h
    refine ⟨c, begun, next, hphase, ?_⟩
    split at hstep
    · next c' delay s₁ hc =>
      cases hstep
      rw [hc] at hsteps
      obtain ⟨⟨f, hf⟩, hbatch, -⟩ := hsteps.again_inv
      unfold Commit.reply
      rw [hf]
      change Books _ _ _ _ _ _ _ [] [c'.batch] next.stage
      rw [hbatch]
      exact h.repeated
    · next v s₁ hc =>
      cases hstep
      rw [hc] at hsteps
      exact h.ended hsteps.about (fun hp => hsteps.isClear hp) hsteps.committed_iff
  · cases hstep

theorem settle_isClear {config : Config} {w : Worker} {b : Batch} {v : Commit.Verdict}
    {seconds : Binary64} {s : Session σ} (h : (w.settle config b v seconds s).1 = none) :
    v.IsClear := by
  cases v with
  | committed r => trivial
  | failed e r => trivial
  | broken f => cases h

/-- A commit that has ended is booked, and the worker stops, gives way or goes on. -/
theorem settled_books {b : Batch} {v : Commit.Verdict} (begun : Binary64) (next : Then)
    (s : Session σ)
    (h : Books plan.config.retry plan.transformer fresh taken subs j lane.worker [(b, v)] [b]
      next.stage) :
    booksFor plan fresh taken subs (j ++ [(b, v)]) (settled plan lane b v begun next s).1 := by
  have hcut := h.cut.settle plan.config (s.clock - begun) s fun hne => absurd rfl hne
  have hclear : (lane.worker.settle plan.config b v (s.clock - begun) s).1 = none →
      Books _ _ _ _ _ _ _ _ _ _ := fun hnone =>
    h.settle plan.config (s.clock - begun) s fun _ => settle_isClear hnone
  unfold settled
  generalize lane.worker.settle plan.config b v (s.clock - begun) s = out at hcut hclear ⊢
  obtain ⟨stop?, worker, s₁⟩ := out
  dsimp only at hcut hclear ⊢
  split
  · exact leave_books _ hcut
  · exact stopLane_books _ _ hcut
  · exact proceed_books _ (hclear rfl)

/-- **A worker whose commit has ended goes on.** -/
theorem resume?_books {lane' : Lane} {s s' : Session σ}
    (hstep : resume? plan lane s = some (lane', s')) (h : booksFor plan fresh taken subs j lane) :
    booksFor plan fresh taken subs (j ++ lane.phase.due) lane' := by
  unfold resume? at hstep
  split at hstep
  · next b v begun next hphase =>
    unfold booksFor at h
    rw [hphase] at h ⊢
    have hsettled := settled_books begun next s h
    rw [Option.some.inj hstep] at hsettled
    exact hsettled
  · cases hstep

/-- **A worker is cancelled**, whatever it is doing. -/
theorem cancelLane_books (s : Session σ) (h : booksFor plan fresh taken subs j lane) :
    booksFor plan fresh taken subs j (cancelLane plan lane s).1 := by
  unfold booksFor at h
  unfold cancelLane
  cases hphase : lane.phase with
  | ready =>
    rw [hphase] at h
    exact leave_books s h
  | committing c begun next =>
    rw [hphase] at h
    exact h.cut
  | ended b v begun next =>
    rw [hphase] at h
    exact h.cut
  | _ => exact h

end Steps

/-! ## 4. The store -/

section Store

variable {σ : Type}

theorem stopLane_state (plan : Plan σ) (lane : Lane) (stop : Stop) (s : Session σ) :
    (stopLane plan lane stop s).2.state = s.state :=
  Worker.discard_state plan.config lane.worker s

theorem leave_state (plan : Plan σ) (lane : Lane) (s : Session σ) :
    (leave plan lane s).2.state = s.state :=
  Worker.discard_state plan.config lane.worker s

theorem proceed_state (plan : Plan σ) (lane : Lane) (next : Then) (s : Session σ) :
    (proceed plan lane next s).2.state = s.state := by
  cases next with
  | goOn => rfl
  | finish => rfl
  | stop index r => exact stopLane_state ..
  | unwind => exact leave_state ..

theorem begin_state (plan : Plan σ) (lane : Lane) (batch? : Option Batch) (next : Then)
    (s : Session σ) : (begin_ plan lane batch? next s).2.state = s.state := by
  cases batch? with
  | none => exact proceed_state ..
  | some batch => rfl

theorem takeItem_state (plan : Plan σ) (lane : Lane) (item : Item) (s : Session σ) :
    (takeItem plan lane item s).2.state = s.state := by
  cases item with
  | last => exact begin_state ..
  | record index v =>
    have hstate := Worker.accept_state plan.config plan.transformer lane.worker index v s
    unfold takeItem
    dsimp only
    generalize lane.worker.accept plan.config plan.transformer index v s = out at hstate ⊢
    obtain ⟨out, worker, s'⟩ := out
    cases out with
    | sealed batch? => exact (begin_state ..).trans hstate
    | halted e => exact (stopLane_state ..).trans hstate
    | refused r =>
      dsimp only
      split
      · exact hstate
      · exact (begin_state ..).trans hstate

theorem tellBroken_state (b : Batch) (v : Commit.Verdict) (s : Session σ) :
    (tellBroken b v s).state = s.state := by
  cases v <;> rfl

theorem settled_state (plan : Plan σ) (lane : Lane) (b : Batch) (v : Commit.Verdict)
    (begun : Binary64) (next : Then) (s : Session σ) :
    (settled plan lane b v begun next s).2.state = s.state := by
  have hstate := Worker.settle_state plan.config lane.worker b v (s.clock - begun) s
  unfold settled
  generalize lane.worker.settle plan.config b v (s.clock - begun) s = out at hstate ⊢
  obtain ⟨stop?, worker, s₁⟩ := out
  dsimp only at hstate ⊢
  split
  · exact (leave_state ..).trans ((tellBroken_state ..).trans hstate)
  · exact (stopLane_state ..).trans hstate
  · exact (proceed_state ..).trans hstate

theorem cancelLane_state (plan : Plan σ) (lane : Lane) (s : Session σ) :
    (cancelLane plan lane s).2.state = s.state := by
  unfold cancelLane
  split
  · exact leave_state ..
  · rfl
  · rfl
  · rfl

theorem submit?_state {plan : Plan σ} {lane lane' : Lane} {s s' : Session σ} {c : Commit}
    {begun : Binary64} {next : Then} (hphase : lane.phase = .committing c begun next)
    (h : submit? plan lane s = some (lane', s')) :
    s'.state = (Commit.reply plan.config.retry plan.store c s.state).state := by
  have hstate := Commit.step_state plan.config.retry plan.store c s
  unfold submit? at h
  rw [hphase] at h
  dsimp only at h
  split at h
  · next c' delay s₁ hc =>
    rw [hc] at hstate
    cases h
    exact hstate
  · next v s₁ hc =>
    rw [hc] at hstate
    cases h
    exact hstate

theorem resume?_state {plan : Plan σ} {lane lane' : Lane} {s s' : Session σ}
    (h : resume? plan lane s = some (lane', s')) : s'.state = s.state := by
  unfold resume? at h
  split at h
  · next b v begun next hphase =>
    have hstate := settled_state plan lane b v begun next s
    rw [Option.some.inj h] at hstate
    exact hstate
  · cases h

end Store

end Sluice.Parallel
