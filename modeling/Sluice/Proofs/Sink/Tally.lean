import Sluice.Proofs.Sink.Told
import Mathlib.Algebra.Group.Defs
import Mathlib.Algebra.BigOperators.Group.List.Basic

/-!
# Two ledgers

A worker keeps two ledgers: its account of the records and batches, and the counters of its metrics.
They are kept at different places, but every step adds the same to both of them.

* `Tally`: the six counts that both ledgers hold; `Metrics.Agrees` spells out what their agreement
  means;
* `accept_isTallied`, `settle_isTallied`: **a record or a commit adds the same to both ledgers**;
* `mergedMetrics_tally`, `mergedResult_tally`: the ledgers of several workers add up;
* `Sink.write_tally`: **a run in sequence adds to the metrics of its sink what its account says**,
  and the store has seen as many submissions as that.
-/

namespace Sluice

/-! ## 1. Tallies -/

/-- The counts that are kept twice: of records received and rejected, of batches committed and
failed, of operations written and of submissions made. -/
@[ext] structure Tally where
  received : Int
  rejected : Int
  committed : Int
  failed : Int
  written : Int
  attempts : Int
  deriving DecidableEq

namespace Tally

instance : Zero Tally := ⟨0, 0, 0, 0, 0, 0⟩

instance : Add Tally where
  add a b := ⟨a.received + b.received, a.rejected + b.rejected, a.committed + b.committed,
    a.failed + b.failed, a.written + b.written, a.attempts + b.attempts⟩

theorem add_def (a b : Tally) : a + b =
    ⟨a.received + b.received, a.rejected + b.rejected, a.committed + b.committed,
      a.failed + b.failed, a.written + b.written, a.attempts + b.attempts⟩ := rfl

theorem zero_def : (0 : Tally) = ⟨0, 0, 0, 0, 0, 0⟩ := rfl

instance : AddMonoid Tally where
  add_assoc a b c := by simp only [add_def, Int.add_assoc]
  zero_add a := by simp only [add_def, zero_def, Int.zero_add]
  add_zero a := by simp only [add_def, zero_def, Int.add_zero]
  nsmul := nsmulRec

end Tally

/-- The submissions that an account tells of. -/
def SinkResult.attempts (r : SinkResult) : Nat :=
  ((r.committed ++ r.failed).map (·.attempts)).sum

def Metrics.tally (m : Metrics) : Tally :=
  ⟨m.received, m.rejected, m.committed, m.failed, m.written, m.attempts⟩

def SinkResult.tally (r : SinkResult) : Tally :=
  ⟨r.received, r.rejected.length, r.committed.length, r.failed.length, r.written, r.attempts⟩

/-- **Metrics agree with accounts**: each counter is the sum of what the accounts say. -/
structure Metrics.Agrees (m : Metrics) (results : List SinkResult) : Prop where
  received : m.received = ((results.map (·.received)).sum : Nat)
  rejected : m.rejected = ((results.map (·.rejected.length)).sum : Nat)
  committed : m.committed = ((results.map (·.committed.length)).sum : Nat)
  failed : m.failed = ((results.map (·.failed.length)).sum : Nat)
  written : m.written = ((results.map (·.written)).sum : Nat)
  attempts : m.attempts = ((results.map SinkResult.attempts).sum : Nat)

theorem SinkResult.sum_tally : ∀ results : List SinkResult, (results.map tally).sum =
    ⟨((results.map (·.received)).sum : Nat), ((results.map (·.rejected.length)).sum : Nat),
      ((results.map (·.committed.length)).sum : Nat), ((results.map (·.failed.length)).sum : Nat),
      ((results.map (·.written)).sum : Nat), ((results.map attempts).sum : Nat)⟩
  | [] => rfl
  | r :: rest => by
    rw [List.map_cons, List.sum_cons, sum_tally rest, Tally.add_def]
    simp [tally]

/-- Agreement is an equation between tallies. -/
theorem Metrics.agrees_of_tally {m : Metrics} {results : List SinkResult}
    (h : m.tally = (results.map SinkResult.tally).sum) : m.Agrees results := by
  rw [SinkResult.sum_tally] at h
  obtain ⟨hreceived, hrejected, hcommitted, hfailed, hwritten, hattempts⟩ := Tally.mk.inj h
  exact ⟨hreceived, hrejected, hcommitted, hfailed, hwritten, hattempts⟩

section Metrics

variable (m : Metrics)

theorem Metrics.addReceived_tally (count : Int) :
    (m.addReceived count).tally = m.tally + ⟨count, 0, 0, 0, 0, 0⟩ := by
  simp [tally, addReceived, Tally.add_def]

theorem Metrics.addRejection_tally (f : Failure) (index : Int) :
    (m.addRejection f index).tally = m.tally + ⟨0, 1, 0, 0, 0, 0⟩ := by
  change (⟨m.received, m.rejected + 1, m.committed, m.failed, m.written, m.attempts⟩ : Tally) = _
  simp [tally, Tally.add_def]

theorem Metrics.addBatch_tally (operations : Int) (seconds : Binary64) (attempts : Int) :
    (m.addBatch operations seconds attempts).tally =
      m.tally + ⟨0, 0, 1, 0, operations, attempts⟩ := by
  simp [tally, addBatch, Tally.add_def]

theorem Metrics.addFailure_tally (f : Failure) (operations attempts : Int)
    (context : List (Text × Value)) :
    (m.addFailure f operations attempts context).tally = m.tally + ⟨0, 0, 0, 1, 0, attempts⟩ := by
  change (⟨m.received, m.rejected, m.committed, m.failed + 1, m.written, m.attempts + attempts⟩ :
    Tally) = _
  simp [tally, Tally.add_def]

theorem Metrics.merge_tally (other : Metrics) :
    (m.merge other).tally = m.tally + other.tally := rfl

theorem Metrics.finish_tally (clock : Binary64) : (m.finish clock).tally = m.tally := rfl

end Metrics

theorem SinkResult.merge_attempts (r other : SinkResult) :
    (r.merge other).attempts = r.attempts + other.attempts := by
  unfold attempts merge
  simp only [List.map_append, List.sum_append]
  omega

theorem SinkResult.merge_tally (r other : SinkResult) :
    (r.merge other).tally = r.tally + other.tally := by
  have hattempts := merge_attempts r other
  unfold tally
  rw [hattempts, Tally.add_def]
  simp [merge]

/-! ## 2. Workers -/

/-- The two ledgers of a worker agree. -/
def Worker.IsTallied (w : Worker) : Prop := w.metrics.tally = w.result.tally

namespace Worker

variable {σ : Type} {w : Worker}

theorem start_isTallied (config : Config) (name : Text) (clock : Binary64) :
    (start config name clock).IsTallied := rfl

/-- What a record adds to both ledgers. -/
def Taken.tally : Taken → Tally
  | .refused _ => ⟨1, 1, 0, 0, 0, 0⟩
  | _ => ⟨1, 0, 0, 0, 0, 0⟩

/-- Both ledgers of a worker have grown by a tally. -/
structure Adds (w : Worker) (t : Tally) (w' : Worker) : Prop where
  metrics : w'.metrics.tally = w.metrics.tally + t
  result : w'.result.tally = w.result.tally + t

theorem Adds.isTallied {t : Tally} {w' : Worker} (h : Adds w t w') (hw : w.IsTallied) :
    w'.IsTallied := by
  unfold IsTallied at hw ⊢
  rw [h.metrics, h.result, hw]

/-- **A record adds the same to both ledgers.** -/
theorem accept_adds (config : Config) (transformer : Transformer) (w : Worker) (index : Nat)
    (record : Value) (s : Session σ) :
    Adds w (w.accept config transformer index record s).1.tally
      (w.accept config transformer index record s).2.1 := by
  have hreceived : { w.result with received := w.result.received + 1 : SinkResult }.tally =
      w.result.tally + ⟨1, 0, 0, 0, 0, 0⟩ := by
    simp [SinkResult.tally, SinkResult.attempts, Tally.add_def]
  unfold accept
  dsimp only
  split
  · exact ⟨Metrics.addReceived_tally .., hreceived⟩
  · exact ⟨Metrics.addReceived_tally .., hreceived⟩
  · refine ⟨?_, ?_⟩
    · rw [Metrics.addRejection_tally, Metrics.addReceived_tally, add_assoc]
      rfl
    · simp [SinkResult.tally, SinkResult.attempts, Tally.add_def, Taken.tally]

/-- What the commit of a batch adds to both ledgers. -/
def added (b : Batch) : Commit.Verdict → Tally
  | .committed r => ⟨0, 0, 1, 0, b.count, r.attempts⟩
  | .failed _ r => ⟨0, 0, 0, 1, 0, r.attempts⟩
  | .broken _ => 0

/-- **A commit adds the same to both ledgers**: as many operations as its batch has, if it is
done. -/
theorem settle_adds (config : Config) (w : Worker) {b : Batch} {v : Commit.Verdict}
    (hv : v.About b) (seconds : Binary64) (s : Session σ) :
    Adds w (added b v) (w.settle config b v seconds s).2.1 := by
  cases v with
  | committed r =>
    refine ⟨Metrics.addBatch_tally .., ?_⟩
    have hcount : r.succeeded = b.count := hv.2
    have hattempts : { w.result with
        committed := w.result.committed ++ [r], written := w.result.written + r.succeeded :
          SinkResult }.attempts = w.result.attempts + r.attempts := by
      simp only [SinkResult.attempts, List.map_append, List.sum_append, List.map_cons, List.map_nil,
        List.sum_cons, List.sum_nil]
      omega
    unfold settle recordSuccess SinkResult.tally
    dsimp only
    rw [hattempts, hcount]
    simp [Tally.add_def, added]
  | failed e r =>
    refine ⟨Metrics.addFailure_tally .., ?_⟩
    have hattempts : { w.result with failed := w.result.failed ++ [r] : SinkResult }.attempts =
        w.result.attempts + r.attempts := by
      simp only [SinkResult.attempts, List.map_append, List.sum_append, List.map_cons, List.map_nil,
        List.sum_cons, List.sum_nil]
      omega
    unfold settle recordFailure SinkResult.tally
    dsimp only
    rw [hattempts]
    simp [Tally.add_def, added]
  | broken f => exact ⟨(add_zero _).symm, (add_zero _).symm⟩

theorem flush_isTallied (h : w.IsTallied) : w.flush.2.IsTallied := h

theorem discard_isTallied (config : Config) (s : Session σ) (h : w.IsTallied) :
    (w.discard config s).1.IsTallied := h

theorem commit?_isTallied (config : Config) (store : Store σ) (batch? : Option Batch)
    (s : Session σ) (h : w.IsTallied) : (w.commit? config store batch? s).2.1.IsTallied := by
  cases batch? with
  | none => exact h
  | some batch => exact (settle_adds config w (Commit.run_about batch s) _ _).isTallied h

end Worker

/-! ## 3. Runs in sequence -/

namespace Sequential

variable {σ : Type} (config : Config) (transformer : Transformer) (store : Store σ)

/-- One record. -/
theorem take_isTallied {w : Worker} (index : Nat) (record : Value) (s : Session σ)
    (h : w.IsTallied) : (take config transformer store w index record s).2.1.IsTallied := by
  have haccept := (Worker.accept_adds config transformer w index record s).isTallied h
  unfold take
  split
  · next batch? w₀ s₀ hout =>
    rw [hout] at haccept
    exact Worker.commit?_isTallied config store batch? s₀ haccept
  · next e w₀ s₀ hout =>
    rw [hout] at haccept
    exact haccept
  · next r w₀ s₀ hout =>
    rw [hout] at haccept
    split
    · exact haccept
    · have hcommit :=
        Worker.commit?_isTallied config store w₀.flush.1 s₀ (Worker.flush_isTallied haccept)
      dsimp only
      split
      · next w₁ s₁ hlast =>
        rw [hlast] at hcommit
        exact hcommit
      · next stop w₁ s₁ hlast =>
        rw [hlast] at hcommit
        exact hcommit

/-- All records, by induction on them. -/
theorem takeAll_isTallied : ∀ (records : List Value) (w : Worker) (index : Nat) (s : Session σ),
    w.IsTallied → (takeAll config transformer store index records w s).2.1.IsTallied
  | [], _, _, _, h => h
  | record :: rest, w, index, s, h => by
    have htake := take_isTallied config transformer store index record s h
    unfold takeAll
    split
    · next w₁ s₁ hout =>
      rw [hout] at htake
      exact takeAll_isTallied rest w₁ (index + 1) s₁ htake
    · next stop w₁ s₁ hout =>
      rw [hout] at htake
      exact htake

/-- The whole source. -/
theorem drain_isTallied (source : Source) {w : Worker} (s : Session σ) (h : w.IsTallied) :
    (drain config transformer store source w s).2.1.IsTallied := by
  have hall := takeAll_isTallied config transformer store source.records w 0 s h
  unfold drain
  split
  · next stop w₁ s₁ hout =>
    rw [hout] at hall
    exact hall
  · next w₁ s₁ hout =>
    rw [hout] at hall
    split
    · exact hall
    · exact Worker.commit?_isTallied config store w₁.flush.1 s₁ (Worker.flush_isTallied hall)

end Sequential

section Write

variable {σ : Type} {store : Store σ} {source : Source} {stop? : Option Stop} {r : SinkResult}

/-- **A run in sequence adds to the metrics of its sink what its account says.** -/
theorem Sink.write_tally {sink sink' : Sink σ} (h : sink.write store source = (stop?, r, sink')) :
    sink'.metrics.tally = sink.metrics.tally + r.tally := by
  have hdrain := Sequential.drain_isTallied sink.config sink.transformer store source sink.session
    (Worker.start_isTallied sink.config "batch" sink.session.clock)
  unfold write at h
  dsimp only at h
  generalize Sequential.drain sink.config sink.transformer store source
    (Worker.start sink.config "batch" sink.session.clock) sink.session = out at h hdrain
  obtain ⟨stop₀?, w, s⟩ := out
  have hmerge : ∀ w' : Worker, w'.IsTallied → ∀ clock,
      ((sink.metrics.merge w'.metrics).finish clock).tally =
        sink.metrics.tally + w'.result.tally := by
    intro w' hw' clock
    rw [Metrics.finish_tally, Metrics.merge_tally, hw']
  cases stop₀? with
  | none =>
    cases h
    exact hmerge w hdrain _
  | some stop =>
    cases h
    exact hmerge (w.discard sink.config s).1 (Worker.discard_isTallied sink.config s hdrain) _

/-- The submissions of commits, none of which was broken off, are those that their results tell
of. -/
theorem Journal.length_groups : ∀ {j : Journal}, j.IsClear →
    j.groups.length = ((j.committed ++ j.failed).map (·.attempts)).sum
  | [], _ => rfl
  | (b, v) :: rest, h => by
    obtain ⟨hv, hrest⟩ := isClear_cons h
    have hlength : groups ((b, v) :: rest) =
        List.replicate v.attempts b.operations ++ groups rest := rfl
    rw [hlength, List.length_append, List.length_replicate, length_groups hrest]
    cases v with
    | committed r => rfl
    | failed e r =>
      change r.attempts + _ = ((committed rest ++ r :: failed rest).map (·.attempts)).sum
      rw [List.map_append, List.map_append, List.sum_append, List.sum_append, List.map_cons,
        List.sum_cons]
      omega
    | broken f => exact hv.elim

/-- **The store has seen as many submissions as the account of a run in sequence tells of.** -/
theorem Sink.write_attempts {sink sink' : Sink (Watched σ)} (hp : sink.config.retry.IsComputable)
    (h : sink.write store.watched source = (stop?, r, sink')) :
    sink'.session.state.seen.length = sink.session.state.seen.length + r.attempts := by
  obtain ⟨j, hcommits, hcommitted, hfailed, -⟩ := write_keeps h
  have hclear := hcommits.isClear hp
  have hgroups := congrArg List.length (hcommits.groups hclear)
  rw [List.length_append, j.length_groups hclear, ← hcommitted, ← hfailed] at hgroups
  unfold Watched.groups at hgroups
  rwa [List.length_map, List.length_map] at hgroups

end Write

end Sluice
