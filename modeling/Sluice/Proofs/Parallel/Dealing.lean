import Sluice.Proofs.Parallel.Merge
import Sluice.Proofs.Parallel.Settling

/-!
# Dealing records to workers

The producer deals records in turn and puts an end mark behind them. As long as a run is not
stopped, what a worker has taken and what waits in its queue are together what it has been dealt
(`Dealing`).

* `flatMap_share_perm`: **the shares of all workers are all records**, each once;
* `Moves.dealing`, `Run.dealing`: every move keeps the dealing in order;
* `Dealing.takenBy_eq`: a worker that has its end mark has taken what it has been dealt.
-/

namespace Sluice.Parallel

variable {σ : Type}

/-! ## 1. Shares -/

/-- Records with their positions, the first of which is given. -/
def positioned (first : Nat) (records : List Value) : List (Nat × Value) :=
  (records.zipIdx first).map fun (v, index) => (index, v)

/-- Records with their positions, under the numbers of the workers that they are dealt to. -/
def numbered (count : Nat) (records : List Value) : List (Nat × Nat × Value) :=
  (positioned 0 records).map fun e => (e.1 % count, e)

/-- The records that are dealt to a worker: those whose positions leave its number as the
remainder. -/
def share (count : Nat) (records : List Value) (n : Nat) : List (Nat × Value) :=
  entriesOf n (numbered count records)

section Shares

variable (count : Nat) (records : List Value)

theorem map_fst_positioned (first : Nat) :
    (positioned first records).map (·.1) = List.range' first records.length := by
  unfold positioned
  rw [List.map_map]
  exact List.zipIdx_map_snd first records

theorem mem_positioned {index : Nat} {v : Value} :
    (index, v) ∈ positioned 0 records ↔ records[index]? = some v := by
  unfold positioned
  rw [← List.mk_mem_zipIdx_iff_getElem?, List.mem_map]
  constructor
  · rintro ⟨⟨v', index'⟩, hmem, e⟩
    cases e
    exact hmem
  · exact fun hmem => ⟨(v, index), hmem, rfl⟩

/-- Positions rise. -/
theorem positioned_sorted (first : Nat) :
    (positioned first records).Pairwise fun a b => a.1 < b.1 := by
  refine List.pairwise_map.mp ?_
  rw [map_fst_positioned]
  exact List.pairwise_lt_range'

theorem share_eq (n : Nat) :
    share count records n = (positioned 0 records).filter fun e => e.1 % count = n := by
  unfold share numbered entriesOf
  rw [List.filter_map, List.map_map]
  exact List.map_id _

theorem share_sorted (n : Nat) : (share count records n).Pairwise fun a b => a.1 < b.1 := by
  rw [share_eq]
  exact (positioned_sorted records 0).filter _

theorem mem_share {n index : Nat} {v : Value} :
    (index, v) ∈ share count records n ↔ index % count = n ∧ records[index]? = some v := by
  rw [share_eq, List.mem_filter, mem_positioned, decide_eq_true_eq]
  exact And.comm

/-- **All shares together are all records.** -/
theorem flatMap_share_perm {count : Nat} (hcount : 0 < count) :
    ((List.range count).flatMap fun n => share count records n).Perm (positioned 0 records) := by
  have hnumbers : ∀ e ∈ numbered count records, e.1 < count := fun e he => by
    obtain ⟨e', -, rfl⟩ := List.mem_map.mp he
    exact Nat.mod_lt _ hcount
  have hperm := flatMap_entriesOf_perm hnumbers
  unfold numbered at hperm
  rwa [List.map_map, show ((fun e : Nat × Nat × Value => e.2) ∘ fun e => (e.1 % count, e)) = id
    from rfl, List.map_id] at hperm

/-- One record more goes to one worker. -/
theorem share_take_succ {index n : Nat} {rest : List Value} {v : Value}
    (h : records.drop index = v :: rest) :
    share count (records.take (index + 1)) n =
      share count (records.take index) n ++
        if index % count = n then [(index, v)] else [] := by
  have hindex : index < records.length := by
    refine Nat.lt_of_not_le fun hle => ?_
    rw [List.drop_eq_nil_of_le hle] at h
    cases h
  have hv : records[index] = v := by
    rw [List.drop_eq_getElem_cons hindex] at h
    exact (List.cons.inj h).1
  unfold share numbered positioned
  rw [List.take_succ_eq_append_getElem hindex, hv, List.zipIdx_append, List.map_append,
    List.map_append, entriesOf_append, List.length_take, Nat.min_eq_left (Nat.le_of_lt hindex)]
  congr 1
  simp only [List.zipIdx_singleton, List.map_singleton, Nat.zero_add]
  split
  · next h => subst h; exact entriesOf_self
  · next h => exact entriesOf_ne h

end Shares

/-! ## 2. Dealing -/

namespace Producer

/-- How many records have been dealt, of all that there are. -/
def dealt (total : Nat) : Producer → Nat
  | .records index _ => index
  | _ => total

/-- How many end marks have been put. -/
def marked (count : Nat) : Producer → Nat
  | .marks n => n
  | .finished => count
  | _ => 0

/-- The producer is where it should be, unless it was cancelled. -/
def IsAt (records : List Value) (count : Nat) : Producer → Prop
  | .records index rest => index ≤ records.length ∧ rest = records.drop index
  | .marks n => n ≤ count
  | .cancelled => False
  | _ => True

end Producer

def Item.ofRecord (e : Nat × Value) : Item := .record e.1 e.2

/-- The end mark, or nothing. -/
def markIf (b : Bool) : List Item := if b then [.last] else []

/-- **The records are dealt in order**: as long as a worker has not stopped, what it has taken and
what waits in its queue are what it has been dealt. -/
structure Dealing (records : List Value) (log : List Event) (st : State σ) : Prop where
  producer : st.producer.IsAt records st.lanes.length
  going : ∀ (n : Nat) (lane : Lane), st.lanes[n]? = some lane → lane.phase.isCancelled = false
  queues : ∀ (n : Nat) (lane : Lane), st.lanes[n]? = some lane → lane.phase.stop? = none →
    (takenBy n log).map Item.ofRecord ++ markIf lane.phase.hasMark ++ lane.queue =
      (share st.lanes.length (records.take (st.producer.dealt records.length)) n).map
          Item.ofRecord ++
        markIf (n < st.producer.marked st.lanes.length)

section Dealing

variable {plan : Plan σ} {records : List Value} {st st' : State σ} {log more : List Event}

/-- The queue that something is put into has it at its end, and the others stay. -/
theorem Produces.deals {failure? : Option Failure} {count m n : Nat} {p p' : Producer}
    {item : Item} (h : Produces failure? count p (some (m, item)) p')
    (hat : p.IsAt records count) :
    p'.IsAt records count ∧
      (share count (records.take (p'.dealt records.length)) n).map Item.ofRecord ++
          markIf (n < p'.marked count) =
        (share count (records.take (p.dealt records.length)) n).map Item.ofRecord ++
          markIf (n < p.marked count) ++ (if m = n then [item] else []) := by
  cases h with
  | record index v rest =>
    obtain ⟨hle, hrest⟩ := hat
    have hlt : index < records.length := by
      refine Nat.lt_of_not_le fun hle => ?_
      rw [List.drop_eq_nil_of_le hle] at hrest
      cases hrest
    refine ⟨⟨hlt, ?_⟩, ?_⟩
    · rw [← List.tail_drop, ← hrest]
      rfl
    · simp only [Producer.dealt, Producer.marked, share_take_succ count records hrest.symm]
      rw [List.map_append]
      split <;> simp [markIf, Item.ofRecord]
  | mark _ hm =>
    refine ⟨hm, ?_⟩
    simp only [Producer.dealt, Producer.marked]
    rw [List.append_assoc]
    congr 1
    by_cases hmn : m = n
    · subst hmn
      simp [markIf]
    · rw [if_neg hmn, List.append_nil]
      congr 1
      exact decide_eq_decide.mpr (by omega)

theorem Produces.turns {failure? : Option Failure} {count : Nat} {p p' : Producer}
    (h : Produces failure? count p none p') (hat : p.IsAt records count) :
    p'.IsAt records count ∧
      records.take (p'.dealt records.length) = records.take (p.dealt records.length) ∧
      p'.marked count = p.marked count := by
  cases h with
  | fails index f hf =>
    refine ⟨trivial, ?_, rfl⟩
    obtain ⟨hle, hrest⟩ := hat
    have hge := List.drop_eq_nil_iff.mp hrest.symm
    change records.take records.length = records.take index
    rw [Nat.le_antisymm hle hge]
  | ends index hf =>
    refine ⟨Nat.zero_le _, ?_, rfl⟩
    obtain ⟨hle, hrest⟩ := hat
    have hge := List.drop_eq_nil_iff.mp hrest.symm
    change records.take records.length = records.take index
    rw [Nat.le_antisymm hle hge]
  | finishes n hn => exact ⟨trivial, rfl, (Nat.le_antisymm hat hn).symm⟩

/-- A worker that goes on after its commit has its end mark if it had it before. -/
theorem Then.Leads.hasMark {next : Then} {p : Phase} (h : next.Leads p) (hstop : p.stop? = none)
    (b : Batch) (v : Commit.Verdict) (begun : Binary64) :
    p.hasMark = (Phase.ended b v begun next).hasMark := by
  cases h with
  | stops next stop => cases hstop
  | _ => rfl

/-- A worker that turns to something else without taking anything keeps the dealing in order. -/
theorem Dealing.turn (hd : Dealing records log st) {n : Nat} {lane lane' : Lane} (s : Session σ)
    (hlane : st.lanes[n]? = some lane) (hstop : lane.phase.stop? = none)
    (hgoing : lane'.phase.isCancelled = false) (hqueue : lane'.queue = lane.queue)
    (hmark : lane'.phase.stop? = none → lane'.phase.hasMark = lane.phase.hasMark) :
    Dealing records log { st with lanes := st.lanes.set n lane', session := s } := by
  refine ⟨?_, forall_set hgoing fun m other _ hother => hd.going m other hother, ?_⟩
  · rw [List.length_set]
    exact hd.producer
  · rw [List.length_set]
    refine forall_set (fun hstop' => ?_) fun m other _ hother => hd.queues m other hother
    rw [hmark hstop', hqueue]
    exact hd.queues n lane hlane hstop

/-- **Every move keeps the dealing in order**, unless it stops the run. -/
theorem Moves.dealing (h : Moves plan st more st')
    (hd : st.course = .running → Dealing records log st) (hcourse : st'.course = .running) :
    Dealing records (log ++ more) st' := by
  cases h with
  | put n item lane producer hproduces hlane hroom =>
    have hd := hd hcourse
    have hdeals := fun m => hproduces.deals (n := m) hd.producer
    rw [List.append_nil]
    refine ⟨?_, forall_set (hd.going n lane hlane) fun m other _ hother => hd.going m other hother,
      ?_⟩
    · rw [List.length_set]
      exact (hdeals n).1
    · rw [List.length_set]
      refine forall_set (fun hstop => ?_) fun m other hne hother hstop => ?_
      · rw [(hdeals n).2, if_pos rfl, ← hd.queues n lane hlane hstop,
          List.append_assoc _ lane.queue]
      · rw [(hdeals m).2, if_neg hne.symm, List.append_nil]
        exact hd.queues m other hother hstop
  | turn producer hproduces =>
    have hd := hd hcourse
    obtain ⟨hat, hdealt, hmarked⟩ := hproduces.turns hd.producer
    rw [List.append_nil]
    refine ⟨hat, hd.going, fun m other hother hstop => ?_⟩
    dsimp only
    rw [hdealt, hmarked]
    exact hd.queues m other hother hstop
  | take n item lane queue hlane hphase hqueue =>
    have hd := hd hcourse
    obtain ⟨hgoing, hmark, hrest⟩ :=
      takeItem_phase plan { lane with queue } st.session item hphase
    refine ⟨?_, forall_set hgoing fun m other _ hother => hd.going m other hother, ?_⟩
    · rw [List.length_set]
      exact hd.producer
    · rw [List.length_set]
      refine forall_set (fun hstop => ?_) fun m other hne hother hstop => ?_
      · have hbefore := hd.queues n lane hlane (by rw [hphase]; rfl)
        rw [hphase, hqueue] at hbefore
        rw [takenBy_append, takenBy_events, hmark, hrest, if_pos rfl, ← hbefore]
        cases item <;> simp [Item.records, Item.isLast, Item.ofRecord, markIf, Phase.hasMark]
      · rw [takenBy_append, takenBy_events, if_neg hne.symm, List.append_nil]
        exact hd.queues m other hother hstop
  | submit n lane lane' s c begun next hlane hphase hsubmit =>
    have hd := hd hcourse
    obtain ⟨c₁, begun₁, next₁, hphase₁, hqueue, hnext⟩ := submit?_inv hsubmit
    cases hphase.symm.trans hphase₁
    have hsame : lane'.phase.isCancelled = lane.phase.isCancelled ∧
        lane'.phase.hasMark = lane.phase.hasMark := by
      rw [hphase]
      rcases hnext with ⟨c', h⟩ | ⟨v, h⟩ <;> rw [h] <;> cases next <;> exact ⟨rfl, rfl⟩
    have hturn := hd.turn s hlane (by rw [hphase]; rfl) (hsame.1.trans (hd.going n lane hlane))
      hqueue fun _ => hsame.2
    refine ⟨hturn.producer, hturn.going, fun m other hother hstop => ?_⟩
    rw [takenBy_append, takenBy_submitted, List.append_nil]
    exact hturn.queues m other hother hstop
  | resume n lane lane' s hlane hresume =>
    have hd := hd hcourse
    obtain ⟨b, v, begun, next, hphase, hqueue, hleads⟩ := resume?_inv hresume
    have hold := hd.going n lane hlane
    rw [hphase] at hold
    rw [List.append_nil]
    refine hd.turn s hlane (by rw [hphase]; rfl) ?_ hqueue fun hstop => ?_
    · generalize lane'.phase = p at hleads
      cases hleads with
      | unwind => cases hold
      | _ => rfl
    · rw [hphase]
      exact hleads.hasMark hstop b v begun
  | cancel course hrunning hne => exact absurd hcourse hne

theorem Run.dealing {config : Config} {count : Nat} {source : Source} {s : Session σ}
    (h : Run plan (Parallel.start config count source s) log st) (hcourse : st.course = .running) :
    Dealing source.records log st := by
  refine h.rule (P := fun log st => st.course = .running → Dealing source.records log st)
    (fun _ => ?_) (fun _ _ _ _ hd hm => hm.dealing hd) hcourse
  refine ⟨⟨Nat.zero_le _, rfl⟩, fun n lane hlane => ?_, fun n lane hlane _ => ?_⟩
  · obtain ⟨-, rfl⟩ := start_inv hlane
    rfl
  · obtain ⟨-, rfl⟩ := start_inv hlane
    rfl

/-! ## 3. What a worker has been dealt -/

theorem last_notMem (xs : List (Nat × Value)) : Item.last ∉ xs.map Item.ofRecord := by
  intro h
  obtain ⟨e, -, he⟩ := List.mem_map.mp h
  cases he

theorem ofRecord_injective : Function.Injective Item.ofRecord := by
  rintro ⟨i, v⟩ ⟨j, w⟩ h
  cases h
  rfl

/-- A worker that has its end mark has been given it. -/
theorem Dealing.marked (hd : Dealing records log st) {n : Nat} {lane : Lane}
    (hlane : st.lanes[n]? = some lane) (hstop : lane.phase.stop? = none)
    (hmark : lane.phase.hasMark = true) : n < st.producer.marked st.lanes.length := by
  have hqueue := hd.queues n lane hlane hstop
  rw [hmark] at hqueue
  refine Decidable.byContradiction fun hno => ?_
  rw [decide_eq_false hno, markIf, markIf, if_neg Bool.false_ne_true, List.append_nil] at hqueue
  have hmem : Item.last ∈ (takenBy n log).map Item.ofRecord ++ [.last] ++ lane.queue := by simp
  exact last_notMem _ (hqueue ▸ hmem)

/-- A worker whose queue is empty has not been given its end mark. -/
theorem Dealing.unmarked (hd : Dealing records log st) {n : Nat} {lane : Lane}
    (hlane : st.lanes[n]? = some lane) (hready : lane.phase = .ready) (hqueue : lane.queue = []) :
    ¬ n < st.producer.marked st.lanes.length := by
  intro hlt
  have h := hd.queues n lane hlane (by rw [hready]; rfl)
  rw [hready, hqueue, decide_eq_true hlt] at h
  have hmem : Item.last ∈ (takenBy n log).map Item.ofRecord ++ markIf false ++ [] := by
    rw [show (Phase.ready).hasMark = false from rfl] at h
    rw [h]
    simp [markIf]
  rw [markIf, if_neg Bool.false_ne_true, List.append_nil, List.append_nil] at hmem
  exact last_notMem _ hmem

/-- A worker that has its end mark has taken all that it has been dealt. -/
theorem Dealing.takenBy_eq (hd : Dealing records log st) {n : Nat} {lane : Lane}
    (hlane : st.lanes[n]? = some lane) (hstop : lane.phase.stop? = none)
    (hmark : lane.phase.hasMark = true) : takenBy n log =
      share st.lanes.length (records.take (st.producer.dealt records.length)) n := by
  have h := hd.queues n lane hlane hstop
  rw [hmark, decide_eq_true (hd.marked hlane hstop hmark), markIf, if_pos rfl, List.append_assoc,
    List.singleton_append] at h
  have heq := (List.append_cons_inj_of_notMem (last_notMem _) List.not_mem_nil).mp h.symm
  exact (List.map_injective_iff.mpr ofRecord_injective heq.1).symm

end Dealing

end Sluice.Parallel
