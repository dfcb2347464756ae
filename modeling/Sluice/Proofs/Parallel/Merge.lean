import Sluice.Proofs.Parallel.Run
import Mathlib.Data.List.Nodup
import Mathlib.Data.List.Perm.Basic

/-!
# The merged account

What several workers have done is put together twice: their events are told in the order in which
they happened, and their accounts are merged worker by worker. Both are the same things in another
order.

* `flatMap_entriesOf_perm`: what happened, worker by worker;
* `mergedResult_merged`: a merged account holds what the accounts hold, and its rejections are
  sorted by position;
* `Journals.nodup_ids`, `Journals.applied_perm`: **the batches of all workers have different ids,
  and the committed ones are those that the store has applied**.
-/

namespace Sluice.Parallel

/-! ## 1. Worker by worker -/

/-- **Entries under numbers are those of every number in turn.** -/
theorem flatMap_entriesOf_perm {α : Type} {xs : List (Nat × α)} {p : Nat}
    (h : ∀ e ∈ xs, e.1 < p) :
    ((List.range p).flatMap fun n => entriesOf n xs).Perm (xs.map (·.2)) := by
  have hall : ∀ q, ((List.range q).flatMap fun n => entriesOf n xs).Perm
      ((xs.filter fun e => e.1 < q).map (·.2)) := fun q => by
    induction q with
    | zero => simp
    | succ q ih =>
      have hsplit := List.filter_append_perm (fun e => decide (e.1 < q))
        (xs.filter fun e => e.1 < q + 1)
      rw [List.filter_filter, List.filter_filter] at hsplit
      have hlt : (xs.filter fun e => decide (e.1 < q) && decide (e.1 < q + 1)) =
          xs.filter fun e => e.1 < q := List.filter_congr fun e _ => by
        rw [← Bool.decide_and]
        exact decide_eq_decide.mpr (by omega)
      have heq : (xs.filter fun e => (!decide (e.1 < q)) && decide (e.1 < q + 1)) =
          xs.filter fun e => e.1 = q := List.filter_congr fun e _ => by
        rw [← decide_not, ← Bool.decide_and]
        exact decide_eq_decide.mpr (by omega)
      rw [hlt, heq] at hsplit
      rw [List.range_succ, List.flatMap_append, List.flatMap_singleton]
      refine (ih.append_right _).trans ?_
      unfold entriesOf
      rw [← List.map_append]
      exact hsplit.map _
  have := hall p
  rwa [List.filter_eq_self.mpr fun e he => decide_eq_true (h e he)] at this

section Lanes

variable {α : Type} {ls : List Lane} {f : Lane → α} {g : Nat → α}

theorem map_lanes (h : ∀ n lane, ls[n]? = some lane → f lane = g n) :
    ls.map f = (List.range ls.length).map g := by
  refine List.ext_getElem (by simp) fun n hn _ => ?_
  rw [List.getElem_map, List.getElem_map, List.getElem_range]
  exact h n _ (List.getElem?_eq_getElem (by simpa using hn))

theorem flatMap_lanes {f : Lane → List α} {g : Nat → List α}
    (h : ∀ n lane, ls[n]? = some lane → f lane = g n) :
    ls.flatMap f = (List.range ls.length).flatMap g := by
  rw [List.flatMap_def, List.flatMap_def, map_lanes h]

end Lanes

/-! ## 2. Merging -/

/-- **An account that holds what several accounts hold.** -/
structure Merged (rs : List SinkResult) (r : SinkResult) : Prop where
  received : r.received = (rs.map (·.received)).sum
  written : r.written = (rs.map (·.written)).sum
  committed : r.committed = rs.flatMap (·.committed)
  failed : r.failed = rs.flatMap (·.failed)
  rejected : r.rejected.Perm (rs.flatMap (·.rejected))
  sorted : r.rejected.Pairwise fun a b => a.1 ≤ b.1

theorem Merged.merge {rs : List SinkResult} {r : SinkResult} (h : Merged rs r)
    (other : SinkResult) : Merged (rs ++ [other]) (r.merge other) where
  received := by simp [SinkResult.merge, h.received]
  written := by simp [SinkResult.merge, h.written]
  committed := by simp [SinkResult.merge, h.committed]
  failed := by simp [SinkResult.merge, h.failed]
  rejected := by
    rw [List.flatMap_append, List.flatMap_singleton]
    exact (List.mergeSort_perm ..).trans (h.rejected.append_right _)
  sorted := by
    have htrans : ∀ a b c : Nat × Record.Rejection, decide (a.1 ≤ b.1) = true →
        decide (b.1 ≤ c.1) = true → decide (a.1 ≤ c.1) = true := fun a b c hab hbc =>
      decide_eq_true (Nat.le_trans (of_decide_eq_true hab) (of_decide_eq_true hbc))
    have htotal : ∀ a b : Nat × Record.Rejection,
        (decide (a.1 ≤ b.1) || decide (b.1 ≤ a.1)) = true := fun a b => by
      rw [Bool.or_eq_true, decide_eq_true_eq, decide_eq_true_eq]
      exact Nat.le_total a.1 b.1
    have hsorted := List.pairwise_mergeSort htrans htotal (r.rejected ++ other.rejected)
    exact hsorted.imp of_decide_eq_true

theorem mergedResult_merged (ls : List Lane) :
    Merged (ls.map (·.worker.result)) (mergedResult ls) := by
  have hfold : ∀ (ls : List Lane) (rs : List SinkResult) (r : SinkResult), Merged rs r →
      Merged (rs ++ ls.map (·.worker.result))
        (ls.foldl (fun r lane => r.merge lane.worker.result) r) := fun ls => by
    induction ls with
    | nil => intro rs r h; rwa [List.map_nil, List.append_nil]
    | cons lane rest ih =>
      intro rs r h
      have := ih _ _ (h.merge lane.worker.result)
      rwa [List.append_assoc] at this
  exact hfold ls [] {} ⟨rfl, rfl, rfl, rfl, .refl _, .nil⟩

/-! ## 3. The accounts of all workers -/

section Accounts

variable {σ : Type} {plan : Plan σ} {log : List Event} {st : State σ} {J : Nat → Journal}

/-- A journal for every worker. -/
def Journals (plan : Plan σ) (log : List Event) (st : State σ) (J : Nat → Journal) : Prop :=
  ∀ n lane, st.lanes[n]? = some lane →
    booksFor plan (fresh plan.config n) (takenBy n log) (submittedBy n log) (J n) lane

theorem Booked.exists_journals (h : Booked plan log st) : ∃ J, Journals plan log st J := by
  have hall : ∀ n, ∃ j, ∀ lane, st.lanes[n]? = some lane →
      booksFor plan (fresh plan.config n) (takenBy n log) (submittedBy n log) j lane := fun n => by
    cases hlane : st.lanes[n]? with
    | none => exact ⟨[], fun lane e => nomatch e⟩
    | some lane =>
      obtain ⟨j, hj⟩ := h n lane hlane
      refine ⟨j, fun lane' e => ?_⟩
      cases e
      exact hj
  choose J hJ using hall
  exact ⟨J, hJ⟩

/-- The batches of all workers whose commits have ended. -/
def batchesOfAll (J : Nat → Journal) (p : Nat) : List Batch :=
  (List.range p).flatMap fun n => (J n).batches

theorem Phase.isOver_flight {phase : Phase} (h : phase.isOver = true) :
    phase.due = [] ∧ phase.flight = [] := by
  cases phase with
  | ready => cases h
  | committing c begun next => cases h
  | ended b v begun next => cases h
  | _ => exact ⟨rfl, rfl⟩

/-- Workers that are at their end have nothing due and nothing in flight. -/
theorem Journals.over (hJ : Journals plan log st J) (hover : AllOver st) {n : Nat}
    (hn : n < st.lanes.length) : ∃ lane, st.lanes[n]? = some lane ∧
      Books plan.config.retry plan.transformer (fresh plan.config n) (takenBy n log)
        (submittedBy n log) (J n) lane.worker [] [] lane.phase.stage := by
  refine ⟨st.lanes[n], List.getElem?_eq_getElem hn, ?_⟩
  have hbooks := hJ n _ (List.getElem?_eq_getElem hn)
  obtain ⟨hdue, hflight⟩ := Phase.isOver_flight (hover _ (List.getElem_mem hn))
  unfold booksFor at hbooks
  rwa [hdue, hflight] at hbooks

variable (hJ : Journals plan log st J)
include hJ

/-- What has been merged, in terms of the journals. -/
theorem Journals.merged :
    (mergedResult st.lanes).received =
      ((List.range st.lanes.length).flatMap fun n => takenBy n log).length ∧
    (mergedResult st.lanes).written =
      Batch.total ((List.range st.lanes.length).flatMap fun n => (J n).applied) ∧
    (mergedResult st.lanes).committed =
      (List.range st.lanes.length).flatMap (fun n => (J n).committed) ∧
    (mergedResult st.lanes).failed = (List.range st.lanes.length).flatMap (fun n => (J n).failed) ∧
    (mergedResult st.lanes).rejected.Perm
      ((List.range st.lanes.length).flatMap fun n =>
        rejections plan.transformer (takenBy n log)) := by
  have h := mergedResult_merged st.lanes
  refine ⟨?_, ?_, ?_, ?_, ?_⟩
  · rw [h.received, List.map_map, Function.comp_def,
      map_lanes fun n lane hlane => (hJ n lane hlane).received,
      List.length_flatMap]
  · rw [h.written, List.map_map, Function.comp_def,
      map_lanes fun n lane hlane => (hJ n lane hlane).written]
    simp only [Batch.total_eq, List.flatMap_assoc, List.length_flatMap]
  · rw [h.committed, List.flatMap_map,
      flatMap_lanes fun n lane hlane => (hJ n lane hlane).committed]
  · rw [h.failed, List.flatMap_map, flatMap_lanes fun n lane hlane => (hJ n lane hlane).failed]
  · have hrejected := h.rejected
    rwa [List.flatMap_map, flatMap_lanes fun n lane hlane => (hJ n lane hlane).rejected]
      at hrejected

/-- The batches of a worker are numbered under its name. -/
theorem Journals.ids_isPrefix (hover : AllOver st) {n : Nat} (hn : n < st.lanes.length) :
    (J n).batches <+:
      Plan.batchesOf (fresh plan.config n) (operations plan.transformer (takenBy n log)) := by
  obtain ⟨lane, -, hbooks⟩ := hJ.over hover hn
  have hinitial := hbooks.cut.sealed
  rwa [List.append_nil] at hinitial

/-- **Batches of all workers have different ids.** -/
theorem Journals.nodup_ids (hover : AllOver st) :
    ((batchesOfAll J st.lanes.length).map (·.id)).Nodup := by
  have hids : ∀ n < st.lanes.length, ∀ id ∈ (J n).batches.map (·.id),
      ∃ number, id = Batch.idOf (workerName n) number := fun n hn id hid => by
    have hmem := ((hJ.ids_isPrefix hover hn).map (·.id)).subset hid
    rw [Accumulator.ids_batchesOf] at hmem
    obtain ⟨number, -, rfl⟩ := List.mem_map.mp hmem
    exact ⟨number, rfl⟩
  unfold batchesOfAll
  rw [List.map_flatMap, List.nodup_flatMap]
  refine ⟨fun n hn => ?_, ?_⟩
  · exact (Accumulator.nodup_ids_batchesOf _ _).sublist
      ((hJ.ids_isPrefix hover (List.mem_range.mp hn)).sublist.map _)
  · refine List.Pairwise.imp_of_mem (fun {m n} hm hn hmn id hidm hidn => ?_) List.nodup_range
    obtain ⟨k, hk⟩ := hids m (List.mem_range.mp hm) id hidm
    obtain ⟨l, hl⟩ := hids n (List.mem_range.mp hn) id hidn
    exact hmn (workerName_inj (Batch.idOf_inj (dash_notMem_workerName m) (hk.symm.trans hl)).1)

/-- The ids of the accounts are those of the batches whose commits have ended. -/
theorem Journals.ids_perm (hover : AllOver st)
    (hclear : ∀ n < st.lanes.length, (J n).IsClear) :
    (((mergedResult st.lanes).committed ++ (mergedResult st.lanes).failed).map (·.batch)).Perm
      ((batchesOfAll J st.lanes.length).map (·.id)) := by
  obtain ⟨-, -, hcommitted, hfailed, -⟩ := hJ.merged
  rw [hcommitted, hfailed]
  unfold batchesOfAll
  rw [List.map_flatMap]
  refine ((List.flatMap_append_perm _ _ _).map _).trans ?_
  rw [List.map_flatMap]
  refine List.Perm.flatMap_left _ fun n hn => ?_
  have hn := List.mem_range.mp hn
  obtain ⟨lane, -, hbooks⟩ := hJ.over hover hn
  have hsound := hbooks.sound
  rw [List.append_nil] at hsound
  exact Journal.ids_perm hsound (hclear n hn)

/-- **The committed batches are those that the store has applied.** -/
theorem Journals.applied_perm (hover : AllOver st)
    (hnumbers : ∀ e ∈ submitted log, e.1 < st.lanes.length) :
    (appliedIn ((submitted log).map (·.2))).Perm
      ((List.range st.lanes.length).flatMap fun n => (J n).applied) := by
  have hperm := (flatMap_entriesOf_perm hnumbers).symm
  refine (hperm.filterMap _).trans ?_
  rw [List.filterMap_flatMap]
  refine List.Perm.flatMap_left _ fun n hn => ?_
  obtain ⟨lane, -, hbooks⟩ := hJ.over hover (List.mem_range.mp hn)
  have happlied := hbooks.applied
  rw [List.append_nil] at happlied
  rw [← happlied]
  exact .refl _

/-- Whatever has been submitted is among the batches whose commits have ended. -/
theorem Journals.mem_of_submitted (hover : AllOver st)
    (hnumbers : ∀ e ∈ submitted log, e.1 < st.lanes.length) {e : Batch × Except Failure Unit}
    (he : e ∈ (submitted log).map (·.2)) : e.1 ∈ batchesOfAll J st.lanes.length := by
  have hmem := (flatMap_entriesOf_perm hnumbers).mem_iff.mpr he
  obtain ⟨n, hn, hen⟩ := List.mem_flatMap.mp hmem
  obtain ⟨lane, -, hbooks⟩ := hJ.over hover (List.mem_range.mp hn)
  have hsubmitted := hbooks.submitted e hen
  rw [List.append_nil] at hsubmitted
  exact List.mem_flatMap.mpr ⟨n, hn, hsubmitted⟩

end Accounts

end Sluice.Parallel
