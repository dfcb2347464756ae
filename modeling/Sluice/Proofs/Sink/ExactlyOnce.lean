import Sluice.Proofs.Sink.Sequence
import Mathlib.Data.List.Perm.Basic

/-!
# What a run in sequence leaves behind

Two accounts of a run are compared with what it did to its store. The batches that it may commit
are those of the records alone (`Sequential.planned`), and its results name them by their ids.

* `Sink.write_exactlyOnce`: **the tables are the old ones with the committed batches applied**, in
  their order, each whole and once;
* `Sink.write_balance`: **every record that came in is rejected or in a batch whose commit has
  ended**, but for the one operation that made the failing batch overflow.
-/

namespace Sluice

/-! ## 1. Numbers of batches -/

/-- Batches that are numbered without gaps are committed and refused under increasing numbers, each
under its own. -/
theorem Journal.numbers {j : Journal} {name : Text} (hc : j.IsClear)
    (hids : j.batches.map (·.id) = (List.range' 1 j.batches.length).map (Batch.idOf name)) :
    ∃ cs fs : List Nat, j.applied.map (·.id) = cs.map (Batch.idOf name) ∧
      j.refused.map (·.id) = fs.map (Batch.idOf name) ∧
      cs.Pairwise (· < ·) ∧ fs.Pairwise (· < ·) ∧
      (cs ++ fs).Perm (List.range' 1 (cs.length + fs.length)) := by
  have hcs := (withResult_sublist Commit.Verdict.committed? j).map (·.id)
  have hfs := (withResult_sublist Commit.Verdict.failed? j).map (·.id)
  rw [hids] at hcs hfs
  obtain ⟨cs, hcs, hcids⟩ := List.sublist_map_iff.mp hcs
  obtain ⟨fs, hfs, hfids⟩ := List.sublist_map_iff.mp hfs
  have hperm : (cs ++ fs).Perm (List.range' 1 j.batches.length) := by
    refine (List.map_perm_map_iff (f := Batch.idOf name) fun _ _ => Batch.idOf_number).mp ?_
    rw [List.map_append, ← hcids, ← hfids, ← hids, ← List.map_append]
    exact ((batches_perm hc).map _).symm
  have hlength : j.batches.length = cs.length + fs.length := by
    rw [← List.length_append, hperm.length_eq, List.length_range']
  have hsorted : (List.range' 1 j.batches.length).Pairwise (· < ·) := List.pairwise_lt_range'
  exact ⟨cs, fs, hcids, hfids, hsorted.sublist hcs, hsorted.sublist hfs, hlength ▸ hperm⟩

namespace Sequential

/-- The batches that records are put into. -/
def batches (config : Config) (transformer : Transformer) (records : List Value) : List Batch :=
  Plan.batchesOf { bounds := config.bounds, name := "batch" }
    (admitted config.onRecordError transformer records)

section Planned

variable {config : Config} {transformer : Transformer} {records : List Value}

theorem map_fst_planned :
    (planned config transformer records).map (·.1) = batches config transformer records :=
  Accumulator.map_fst_sealings _ _

theorem ids_batches (config : Config) (transformer : Transformer) (records : List Value) :
    (batches config transformer records).map (·.id) =
    (List.range' 1 (batches config transformer records).length).map (Batch.idOf "batch") :=
  Accumulator.ids_batchesOf _ _

theorem nodup_ids_batches (config : Config) (transformer : Transformer) (records : List Value) :
    ((batches config transformer records).map (·.id)).Nodup :=
  Accumulator.nodup_ids_batchesOf _ _

variable {ended : List (Batch × Accumulator.Cause)} {j : Journal} {w : Worker} {stop? : Option Stop}

theorem Reaches.isPrefix {all : List (Batch × Accumulator.Cause)}
    (h : Reaches stop? ended j w all []) : ended <+: all := by
  cases stop? with
  | none =>
    have hall : all = ended ++ [] := h
    rw [hall]
    exact List.prefix_append _ _
  | some stop => exact h.1

/-- Batches whose commits have ended are the first ones of the plan. -/
theorem batches_isPrefix (hb : j.batches = ended.map (·.1))
    (h : Reaches stop? ended j w (planned config transformer records) []) :
    j.batches <+: batches config transformer records := by
  rw [hb, ← map_fst_planned]
  exact h.isPrefix.map _

/-- So their numbers have no gaps. -/
theorem ids_of_isPrefix (h : j.batches <+: batches config transformer records) :
    j.batches.map (·.id) = (List.range' 1 j.batches.length).map (Batch.idOf "batch") := by
  obtain ⟨more, hmore⟩ := h
  have hids := ids_batches config transformer records
  rw [← hmore, List.length_append, ← List.range'_append_1, List.map_append, List.map_append] at hids
  exact List.append_inj_left hids (by simp)

end Planned

end Sequential

/-! ## 2. The store -/

/-- **The effect of a run, exactly once**: the tables are those from before with the committed
batches applied in the order of the account, each of them whole; what has failed has left no trace,
and the batches are numbered from one on without gaps or repetitions. -/
theorem Sink.write_exactlyOnce {σ : Type} {store : Store σ} {memory : σ → Memory}
    {sink sink' : Sink σ} {source : Source} {stop? : Option Stop} {r : SinkResult}
    (hg : store.Guards memory) (hp : sink.config.retry.IsComputable)
    (hd : sink.transformer.Decides source.records) (hf : source.failure? = none)
    (h : sink.write store source = (stop?, r, sink')) :
    let batches := Sequential.batches sink.config sink.transformer source.records
    let committed := Batch.allOf batches r.committed
    committed.map (·.id) = r.committed.map (·.batch) ∧
    Memory.applyBatches (memory sink.session.state).tables committed =
      .ok (memory sink'.session.state).tables ∧
    r.written = Batch.total committed ∧
    ∃ cs fs : List Nat, r.committed.map (·.batch) = cs.map (Batch.idOf "batch") ∧
      r.failed.map (·.batch) = fs.map (Batch.idOf "batch") ∧
      cs.Pairwise (· < ·) ∧ fs.Pairwise (· < ·) ∧
      (cs ++ fs).Perm (List.range' 1 (cs.length + fs.length)) := by
  obtain ⟨ended, j, w, hcommits, hb, hcommitted, hfailed, hwritten, -, hreach, -⟩ :=
    write_stretch hd hf h
  have hsound := hcommits.isSound
  have hinitial := Sequential.batches_isPrefix hb hreach
  have hall := Journal.allOf_committed hsound (Sequential.nodup_ids_batches _ _ _)
    fun b hb => hinitial.subset hb
  intro batches committed
  have hcommitted' : committed = j.applied := by
    unfold committed
    rw [hcommitted]
    exact hall
  rw [hcommitted', hcommitted, hfailed, Journal.ids_committed hsound, Journal.ids_failed hsound]
  exact ⟨rfl, hcommits.applied hg, hwritten,
    Journal.numbers (hcommits.isClear hp) (Sequential.ids_of_isPrefix hinitial)⟩

/-- Three numbers and a record without one: the first of two batches fails, the second one is all
that comes into the table. -/
theorem Sink.write_exactlyOnce_second :
    let sink := Sample.sink ⟨2, 1000⟩ .proceed (Sample.store 1)
    let source : Source := ⟨[.ofPairs [], Sample.record 1, Sample.record 2, Sample.record 3], none⟩
    let out := sink.write Scripted.store source
    let batches := Sequential.batches sink.config sink.transformer source.records
    let committed := Batch.allOf batches out.2.1.committed
    committed.map (·.id) = ["batch-2"] ∧
    Memory.applyBatches sink.session.state.memory.tables committed =
      .ok out.2.2.session.state.memory.tables := by
  intro sink source out batches committed
  have hout : sink.write Scripted.store source = (out.1, out.2.1, out.2.2) := rfl
  have h := write_exactlyOnce Scripted.store_guards (by decide +kernel) (by decide +kernel) rfl hout
  exact ⟨h.1.trans (by decide +kernel), h.2.1⟩

/-! ## 3. The balance -/

/-- Operations that are in no batch when a run is stopped: the one before which a batch was sealed
that then failed. -/
def Sequential.stray (stop? : Option Stop) (ended : List (Batch × Accumulator.Cause)) : Nat :=
  match stop?, ended.getLast? with
  | some (.batch _ _), some (_, .overflow) => 1
  | _, _ => 0

/-- What is still open at the end is astray. -/
theorem Sequential.Reaches.open_eq {stop? : Option Stop}
    {ended all : List (Batch × Accumulator.Cause)} {j : Journal} {w : Worker} (hc : j.IsClear)
    (h : Reaches stop? ended j w all []) (hopen : stop? = none → w.accumulator.open_ = []) :
    w.accumulator.open_.length = stray stop? ended := by
  cases stop? with
  | none => exact congrArg List.length (hopen rfl)
  | some stop =>
    obtain ⟨-, hleaves⟩ := h
    cases stop with
    | batch id e =>
      obtain ⟨b, cause, hlast, -, hlength⟩ := hleaves
      unfold stray
      rw [hlength, hlast]
      cases cause <;> rfl
    | record index r => exact congrArg List.length hleaves
    | outside f => exact absurd hc hleaves

/-- **No record is lost in silence.** What came in was rejected, or is in a batch whose commit has
ended; only an operation that made the failing batch overflow is neither. The store has seen the
batches whose commits have ended and nothing else: all of them when the run was not stopped, and
none behind the one that stopped it. -/
theorem Sink.write_balance {σ : Type} {store : Store σ} {sink sink' : Sink (Watched σ)}
    {source : Source} {stop? : Option Stop} {r : SinkResult}
    (hp : sink.config.retry.IsComputable) (hd : sink.transformer.Decides source.records)
    (hf : source.failure? = none) (h : sink.write store.watched source = (stop?, r, sink')) :
    let planned := Sequential.planned sink.config sink.transformer source.records
    let batches := planned.map (·.1)
    let ended := planned.take (r.committed.length + r.failed.length)
    r.received = r.rejected.length + Batch.total (Batch.allOf batches r.committed) +
      Batch.total (Batch.allOf batches r.failed) + Sequential.stray stop? ended ∧
    sink'.session.state.groups = sink.session.state.groups ++
      ended.flatMap (fun e => List.replicate (r.attemptsOf e.1) e.1.operations) ∧
    (stop? = none → ended = planned) ∧
    (∀ id error, stop? = some (.batch id error) →
      ∃ last, ended.getLast? = some last ∧ last.1.id = id) ∧
    ∀ f, stop? ≠ some (.outside f) := by
  obtain ⟨all, j, w, hcommits, hb, hcommitted, hfailed, -, hreceived, hreach, hopen⟩ :=
    write_stretch hd hf h
  have hsound := hcommits.isSound
  have hclear := hcommits.isClear hp
  have hinitial := Sequential.batches_isPrefix hb hreach
  have hnodup := Sequential.nodup_ids_batches sink.config sink.transformer source.records
  have hmem : ∀ b ∈ j.batches, b ∈ Sequential.batches sink.config sink.transformer source.records :=
    fun b hb => hinitial.subset hb
  intro planned batches ended
  have hbatches : batches = Sequential.batches sink.config sink.transformer source.records :=
    Sequential.map_fst_planned
  have hended : ended = all := by
    have hlength : r.committed.length + r.failed.length = all.length := by
      rw [hcommitted, hfailed, ← Journal.length_batches hsound hclear, hb, List.length_map]
    unfold ended
    rw [hlength]
    exact (List.prefix_iff_eq_take.mp hreach.isPrefix).symm
  rw [hended, hbatches, hcommitted, hfailed,
    Journal.allOf_committed hsound hnodup hmem, Journal.allOf_failed hsound hnodup hmem]
  refine ⟨?_, ?_, ?_, ?_, ?_⟩
  · have htotal := Batch.total_perm (Journal.batches_perm hclear)
    rw [Batch.total_append] at htotal
    rw [hreceived, hreach.open_eq hclear hopen, htotal]
    omega
  · rw [hcommits.groups hclear, Journal.groups_eq hsound hclear
      (hnodup.sublist (hinitial.sublist.map _)) hcommitted hfailed, hb, List.flatMap_map]
  · rintro rfl
    exact (List.append_nil all).symm.trans hreach.symm
  · rintro id error rfl
    obtain ⟨b, cause, hlast, hid, -⟩ := hreach.2
    exact ⟨(b, cause), hlast, hid⟩
  · rintro f rfl
    exact hreach.2 hclear

/-- A number that does not fit behind another one makes that one's batch fail, and is astray. -/
theorem Sink.write_balance_overflow :
    let sink := Sample.sink ⟨5, 20⟩ .fail (Watched.mk (Sample.store 1) [])
    let source : Source := ⟨[Sample.record 1, Sample.record 2, Sample.record 3], none⟩
    let out := sink.write Scripted.store.watched source
    out.1.isSome = true ∧ out.2.1.received = 0 + 0 + 1 + 1 ∧
      out.2.2.session.state.groups.length = 1 := by
  intro sink source out
  have hout : sink.write Scripted.store.watched source = (out.1, out.2.1, out.2.2) := rfl
  have h := write_balance (by decide +kernel) (by decide +kernel) rfl hout
  refine ⟨by decide +kernel, h.1.trans (by decide +kernel), ?_⟩
  exact (congrArg List.length h.2.1).trans (by decide +kernel)

end Sluice
