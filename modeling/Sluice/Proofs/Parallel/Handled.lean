import Sluice.Proofs.Parallel.Ending
import Sluice.Proofs.Sink.Sequence

/-!
# What a parallel run does with every record

A parallel run that is not stopped does with the records what a run in sequence does with them, only
shared out: which worker takes a record depends on the position of the record alone, and what
becomes of it on the record alone, whatever the order of the steps.

* `Sequential.takeAll_rejected`, `Sink.write_rejected`: the rejections of a run in sequence;
* `Sink.parallel_handled`: **every record is handled exactly once under every schedule**.
-/

namespace Sluice

open Parallel

/-! ## 1. Rejections of a run in sequence -/

theorem Parallel.rejections_append (t : Transformer) (xs ys : List (Nat × Value)) :
    rejections t (xs ++ ys) = rejections t xs ++ rejections t ys :=
  List.filterMap_append

theorem Parallel.positioned_cons (first : Nat) (v : Value) (rest : List Value) :
    positioned first (v :: rest) = [(first, v)] ++ positioned (first + 1) rest := rfl

section Sequence

variable {σ : Type} {config : Config} {transformer : Transformer} {store : Store σ}

theorem Worker.commit?_rejected (w : Worker) (batch? : Option Batch) (s : Session σ) :
    (w.commit? config store batch? s).2.1.result.rejected = w.result.rejected := by
  obtain ⟨j, -, hbooked, -⟩ := Sequential.commit?_booked config store w batch? s
  exact hbooked.rejected

/-- A record that does not stop the run is rejected or not, as its transformation says. -/
theorem Sequential.take_rejected (config : Config) (transformer : Transformer) (store : Store σ)
    (w : Worker) (index : Nat) (record : Value) (s : Session σ)
    (h : (take config transformer store w index record s).1 = none) :
    (take config transformer store w index record s).2.1.result.rejected =
      w.result.rejected ++ rejections transformer [(index, record)] := by
  have haccepts := Worker.accept_accepts config transformer w index record s
  unfold take at h ⊢
  generalize w.accept config transformer index record s = out at haccepts h ⊢
  obtain ⟨out, w₀, s₀⟩ := out
  dsimp only at haccepts h ⊢
  cases haccepts with
  | halted e _ ho ha hr => cases h
  | sealed o _ ho ha hr =>
    dsimp only
    rw [Worker.commit?_rejected, hr, show rejections transformer [(index, record)] = [] from
      rejections_ok [] index ho, List.append_nil]
  | refused r _ ho ha hr =>
    rw [show rejections transformer [(index, record)] = [(index, r)] from
      rejections_rejected [] index ho]
    dsimp only at h ⊢
    split at h
    · rw [hr]
    · split at h <;> cases h

theorem Sequential.takeAll_rejected (config : Config) (transformer : Transformer)
    (store : Store σ) : ∀ (records : List Value) (w : Worker) (index : Nat) (s : Session σ),
    (takeAll config transformer store index records w s).1 = none →
    (takeAll config transformer store index records w s).2.1.result.rejected =
      w.result.rejected ++ rejections transformer (positioned index records)
  | [], w, index, s, _ => (List.append_nil _).symm
  | record :: rest, w, index, s, h => by
    have htake := take_rejected config transformer store w index record s
    unfold takeAll at h ⊢
    split at h
    · next w₁ s₁ hw =>
      rw [hw] at htake
      dsimp only at htake ⊢
      rw [takeAll_rejected config transformer store rest w₁ (index + 1) s₁ h, htake rfl,
        List.append_assoc, ← rejections_append, ← positioned_cons]
    · cases h

theorem Sequential.drain_rejected (config : Config) (transformer : Transformer) (store : Store σ)
    (source : Source) (w : Worker) (s : Session σ)
    (h : (drain config transformer store source w s).1 = none) :
    (drain config transformer store source w s).2.1.result.rejected =
      w.result.rejected ++ rejections transformer (positioned 0 source.records) := by
  have hall := takeAll_rejected config transformer store source.records w 0 s
  unfold drain at h ⊢
  split at h
  · cases h
  · next w₁ s₁ htake =>
    rw [htake] at hall
    split at h
    · cases h
    · dsimp only
      rw [Worker.commit?_rejected, Worker.flush_result]
      exact hall rfl

/-- **A run in sequence that is not stopped rejects what is to be rejected.** -/
theorem Sink.write_rejected {sink sink' : Sink σ} {source : Source} {r : SinkResult}
    (h : sink.write store source = (none, r, sink')) :
    r.rejected = rejections sink.transformer (positioned 0 source.records) := by
  have hdrain := Sequential.drain_rejected sink.config sink.transformer store source
    (Worker.start sink.config "batch" sink.session.clock) sink.session
  unfold write at h
  dsimp only at h
  generalize Sequential.drain sink.config sink.transformer store source
    (Worker.start sink.config "batch" sink.session.clock) sink.session = out at h hdrain
  obtain ⟨stop?, w, s⟩ := out
  dsimp only at h hdrain
  cases stop? with
  | some stop => cases h
  | none =>
    cases h
    exact hdrain rfl

end Sequence

/-! ## 2. Rejections in order -/

section Rejections

variable {t : Transformer}

theorem Parallel.map_fst_rejections_sublist (t : Transformer) (xs : List (Nat × Value)) :
    ((rejections t xs).map (·.1)).Sublist (xs.map (·.1)) := by
  induction xs with
  | nil => exact .slnil
  | cons x rest ih =>
    obtain ⟨index, v⟩ := x
    rw [show (index, v) :: rest = [(index, v)] ++ rest from rfl, rejections_append]
    cases ht : t.transform v with
    | ok o =>
      rw [show rejections t [(index, v)] = [] from rejections_ok [] index ht]
      exact ih.cons index
    | error e =>
      cases e with
      | rejected r =>
        rw [show rejections t [(index, v)] = [(index, r)] from rejections_rejected [] index ht]
        exact ih.cons_cons index
      | halted e =>
        rw [show rejections t [(index, v)] = [] from rejections_halted [] index ht]
        exact ih.cons index

theorem Parallel.rejections_sorted (t : Transformer) (records : List Value) :
    ((rejections t (positioned 0 records)).map (·.1)).Pairwise (· < ·) :=
  (List.pairwise_map.mpr (positioned_sorted records 0)).sublist (map_fst_rejections_sublist t _)

/-- **Rejections that are sorted by position are in the order of the records.** -/
theorem Parallel.rejections_eq {rejected : List (Nat × Record.Rejection)} {records : List Value}
    (hperm : rejected.Perm (rejections t (positioned 0 records)))
    (hsorted : rejected.Pairwise fun a b => a.1 ≤ b.1) :
    rejected = rejections t (positioned 0 records) := by
  have hstrict := rejections_sorted t records
  refine List.Perm.eq_of_pairwise (fun a b ha hb hab hba => ?_) hsorted
    ((List.pairwise_map.mp hstrict).imp Nat.le_of_lt) hperm
  exact List.inj_on_of_nodup_map (hstrict.imp Nat.ne_of_lt) (hperm.mem_iff.mp ha) hb
    (Nat.le_antisymm hab hba)

end Rejections

/-! ## 3. Every record once -/

namespace Parallel

variable {σ : Type} {plan : Plan σ} {log : List Event} {st : State σ} {J : Nat → Journal}

/-- The batches that all workers make of their shares. -/
def sharedBatches (config : Config) (t : Transformer) (count : Nat) (records : List Value) :
    List Batch :=
  (List.range count).flatMap fun n =>
    Plan.batchesOf (fresh config n) (operations t (share count records n))

/-- What becomes of the records in shares becomes of them all. -/
theorem rejections_share_perm (t : Transformer) {count : Nat} (hcount : 0 < count)
    (records : List Value) :
    ((List.range count).flatMap fun n => rejections t (share count records n)).Perm
      (rejections t (positioned 0 records)) := by
  unfold rejections
  rw [← List.filterMap_flatMap]
  exact (flatMap_share_perm records hcount).filterMap _

theorem operations_share_perm (t : Transformer) {count : Nat} (hcount : 0 < count)
    (records : List Value) :
    ((List.range count).flatMap fun n => operations t (share count records n)).Perm
      (operations t (positioned 0 records)) := by
  unfold operations
  rw [← List.filterMap_flatMap]
  exact (flatMap_share_perm records hcount).filterMap _

/-- The operations of all records are in these batches, each once. -/
theorem sharedBatches_operations_perm (config : Config) (t : Transformer) {count : Nat}
    (hcount : 0 < count) (records : List Value) :
    ((sharedBatches config t count records).flatMap (·.operations)).Perm
      (operations t (positioned 0 records)) := by
  unfold sharedBatches
  rw [List.flatMap_assoc]
  have hshares : ∀ n, (Plan.batchesOf (fresh config n)
      (operations t (share count records n))).flatMap (·.operations) =
        operations t (share count records n) := fun n => Accumulator.flatMap_batchesOf _ _
  rw [funext hshares]
  exact operations_share_perm t hcount records

/-- Workers that have finished have committed, or failed to, all that they were to. -/
theorem Journals.closed (hJ : Journals plan log st J)
    (hfinished : ∀ lane ∈ st.lanes, lane.phase = .finished) {n : Nat} (hn : n < st.lanes.length) :
    (J n).batches = Plan.batchesOf (fresh plan.config n)
      (operations plan.transformer (takenBy n log)) ∧ (J n).IsClear := by
  have hbooks := hJ n _ (List.getElem?_eq_getElem hn)
  unfold booksFor at hbooks
  rw [hfinished _ (List.getElem_mem hn)] at hbooks
  have hsealed : Plan.batchesOf _ _ = (J n).batches ++ [] := hbooks.sealed
  rw [List.append_nil] at hsealed
  exact ⟨hsealed.symm, hbooks.clear (by decide)⟩

end Parallel

/-- **Every record is handled exactly once under every schedule.** Whatever the order of the steps,
when nothing can go on and the run has not been stopped: a worker has taken the records whose
positions leave its number as the remainder, in rising order; as many records came in as there are;
the rejections are those of a run in sequence, in the same order; and the operations of all other
records are in the batches that have been committed or have failed, each in one, and no two of
these batches have the same id. -/
theorem Sink.parallel_handled {σ : Type} {store : Store σ} {sink : Sink σ} {source : Source}
    {room count : Nat} {log : List Event} {st : State σ} (hcount : 0 < count) (hroom : 0 < room)
    (h : Parallel.Run (sink.plan store room source)
      (start sink.config count source sink.session) log st)
    (hrunning : st.course = .running) (hstuck : Stuck (sink.plan store room source) st) :
    let r := (sink.conclude st).1
    let batches := sharedBatches sink.config sink.transformer count source.records
    (∀ n < count, (takenBy n log).Pairwise (fun a b => a.1 < b.1) ∧
      ∀ index v, (index, v) ∈ takenBy n log ↔
        index % count = n ∧ source.records[index]? = some v) ∧
    (∀ e ∈ taken log, e.1 < count) ∧
    r.received = source.records.length ∧
    r.rejected = rejections sink.transformer (positioned 0 source.records) ∧
    (∀ (τ : Type) (other : Store τ) (sink' sink'' : Sink τ) (r' : SinkResult),
      sink'.transformer = sink.transformer → sink'.write other source = (none, r', sink'') →
      r'.rejected = r.rejected) ∧
    (batches.flatMap (·.operations)).Perm
      (operations sink.transformer (positioned 0 source.records)) ∧
    ((r.committed ++ r.failed).map (·.batch)).Perm (batches.map (·.id)) ∧
    ((r.committed ++ r.failed).map (·.batch)).Nodup ∧
    ∀ e ∈ submitted log, e.2.1 ∈ batches := by
  obtain ⟨hfinished, hproducer⟩ := h.finished_of_stuck hcount hroom hrunning hstuck
  have hlength : st.lanes.length = count := h.length_lanes.trans (length_start ..)
  have hnumbers := h.numbers
  rw [length_start] at hnumbers
  have htaken : ∀ n < count, takenBy n log = share count source.records n :=
    fun n hn => h.takenBy_eq hrunning hfinished hproducer hn
  have hover : AllOver st := fun lane hlane => by rw [hfinished lane hlane]; rfl
  obtain ⟨J, hJ⟩ := Booked.exists_journals (h.booked)
  obtain ⟨hreceived, -, -, -, hrejected⟩ := hJ.merged
  have hclear : ∀ n < st.lanes.length, (J n).IsClear := fun n hn => (hJ.closed hfinished hn).2
  intro r batches
  have hbatches : batchesOfAll J st.lanes.length = batches := by
    unfold batchesOfAll batches sharedBatches
    rw [hlength]
    refine List.flatMap_congr fun n hn => ?_
    have hn := List.mem_range.mp hn
    rw [(hJ.closed hfinished (hlength ▸ hn)).1, htaken n hn]
    rfl
  have hrejections : r.rejected = rejections sink.transformer (positioned 0 source.records) := by
    refine rejections_eq (hrejected.trans ?_) (mergedResult_merged st.lanes).sorted
    rw [hlength, List.flatMap_congr fun n hn => by rw [htaken n (List.mem_range.mp hn)]]
    exact rejections_share_perm sink.transformer hcount source.records
  refine ⟨fun n hn => ?_, hnumbers.1, ?_, hrejections, ?_, ?_, ?_, ?_, ?_⟩
  · rw [htaken n hn]
    exact ⟨share_sorted .., fun index v => mem_share ..⟩
  · refine hreceived.trans ?_
    rw [hlength, List.flatMap_congr fun n hn => htaken n (List.mem_range.mp hn),
      (flatMap_share_perm source.records hcount).length_eq, positioned, List.length_map,
      List.length_zipIdx]
  · intro τ other sink' sink'' r' ht hw
    rw [hrejections, write_rejected hw, ht]
  · exact sharedBatches_operations_perm sink.config sink.transformer hcount source.records
  · rw [← hbatches]
    exact hJ.ids_perm hover hclear
  · exact (hJ.ids_perm hover hclear).nodup_iff.mpr (hJ.nodup_ids hover)
  · intro e he
    rw [← hbatches]
    exact hJ.mem_of_submitted hover (hlength ▸ hnumbers.2) (List.mem_map_of_mem he)

/-- Two workers, four records and a batch that fails: the second worker has taken every other
record. -/
theorem Sink.parallel_handled_second :
    let sink := Sample.sink ⟨2, 1000⟩ .proceed (Sample.store 1)
    let source : Source := ⟨[Sample.record 1, .ofPairs [], Sample.record 2, Sample.record 3], none⟩
    let st := drive (sink.plan Scripted.store 1 source) usualOrder 100
      (start sink.config 2 source sink.session)
    ∃ log, (∀ index v, (index, v) ∈ takenBy 1 log ↔
        index % 2 = 1 ∧ source.records[index]? = some v) ∧
      (sink.conclude st).1.received = 4 ∧ (sink.conclude st).1.failed.length = 1 := by
  intro sink source st
  have hdone : st.isDone = true := by decide +kernel
  obtain ⟨log, hrun⟩ := Run.drive_start (sink.plan Scripted.store 1 source) usualOrder 100
    (start sink.config 2 source sink.session)
  have h := parallel_handled (by decide) (by decide) hrun (State.isDone_inv hdone).1
    (State.isDone_stuck hdone)
  exact ⟨log, (h.1 1 (by decide)).2, h.2.2.1, by decide +kernel⟩

end Sluice
