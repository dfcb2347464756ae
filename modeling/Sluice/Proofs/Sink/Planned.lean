import Sluice.Proofs.Parallel.Handled
import Sluice.Proofs.Sink.Undisturbed
import Sluice.Sink.Execution

/-!
# Plans that come true

A plan transforms all records first and puts the operations into batches then; a run in sequence
does both record by record, with commits in between. When bad records are skipped and the store
accepts what is submitted to it, both come to the same:

* `Plan.make_eq`: what a plan for records that all become operations or are rejected consists of;
* `Commits.accepted`: **what is accepted has been submitted once**, batch by batch;
* `Sink.write_planned`: **a run submits and commits the batches of the plan**, in their order, and
  rejects what the plan rejects.
-/

namespace Sluice

open Parallel

/-! ## 1. Plans -/

section Plans

variable {t : Transformer}

/-- **The outcomes of records that all become operations or are rejected**, by induction on them. -/
theorem Transformer.transformAll_decides : ∀ {records : List Value} (i : Nat), t.Decides records →
    (t.transformAll i records).2 = none ∧
    Plan.operationsOf (t.transformAll i records).1 = t.operationsOf records ∧
    Plan.rejectionsOf (t.transformAll i records).1 = rejections t (positioned i records) ∧
    (t.transformAll i records).1.length =
      (rejections t (positioned i records)).length + (t.operationsOf records).length
  | [], _, _ => ⟨rfl, rfl, rfl, rfl⟩
  | record :: rest, i, hd => by
    obtain ⟨hhalt, hoperations, hrejections, hlength⟩ :=
      transformAll_decides (i + 1) fun r hr => hd r (List.mem_cons_of_mem record hr)
    rw [positioned_cons, rejections_append]
    unfold transformAll
    cases ht : t.transform record with
    | ok o =>
      have hnone : rejections t [(i, record)] = [] := rejections_ok [] i ht
      have hcons : t.operationsOf (record :: rest) = o :: t.operationsOf rest := by
        unfold operationsOf
        rw [List.filterMap_cons, ht]
        rfl
      rw [hnone, hcons]
      exact ⟨hhalt, congrArg (o :: ·) hoperations, hrejections, congrArg (· + 1) hlength⟩
    | error refusal =>
      cases refusal with
      | rejected r =>
        have hone : rejections t [(i, record)] = [(i, r)] := rejections_rejected [] i ht
        have hcons : t.operationsOf (record :: rest) = t.operationsOf rest := by
          unfold operationsOf
          rw [List.filterMap_cons, ht]
          rfl
        rw [hone, hcons]
        refine ⟨hhalt, hoperations, congrArg ((i, r) :: ·) hrejections, ?_⟩
        rw [List.length_append, Nat.add_assoc, ← hlength]
        exact Nat.add_comm _ 1
      | halted h => exact absurd ht (hd record List.mem_cons_self h)

/-- **A plan**: the rejections of the records, and the batches of their operations. -/
theorem Plan.make_eq {config : Config} {source : Source}
    (hmake : Transformer.make config.table config.schema config.keyColumns config.verb = .ok t)
    (hd : t.Decides source.records) (hf : source.failure? = none) :
    ∃ plan log, Plan.make config source = (.ok plan, log) ∧
      plan.rejected = rejections t (positioned 0 source.records) ∧
      plan.batches = Plan.batchesOf { bounds := config.bounds, name := "batch" }
        (t.operationsOf source.records) ∧
      plan.total = plan.rejected.length + Batch.total plan.batches := by
  obtain ⟨hhalt, hoperations, hrejections, hlength⟩ := t.transformAll_decides 0 hd
  unfold make
  rw [hmake]
  dsimp only
  rw [hhalt, hf]
  refine ⟨_, _, rfl, hrejections, congrArg _ hoperations, ?_⟩
  unfold ofOutcomes
  rw [hoperations, hrejections, hlength, Batch.total_eq, Accumulator.flatMap_batchesOf]
  rfl

end Plans

/-! ## 2. What is accepted -/

/-- The submission of a batch that is accepted. -/
def Batch.accepted (policy : RetryPolicy) (b : Batch) : Submission :=
  ⟨b.operations, policy.timeout?, .ok ()⟩

/-- The result of a batch whose first submission is accepted. -/
def Batch.doneAtOnce (b : Batch) : CommitResult :=
  ⟨b.id, b.count, 1, .committed, none, [.sealed, .submitting, .committed]⟩

section Accepted

variable {σ : Type} {policy : RetryPolicy} {store : Store σ}

/-- **A commit whose submissions are accepted** makes one, and is done. -/
theorem Commit.run_accepted (batch : Batch) (s : Session (Watched σ)) {subs : List Submission}
    (hsubs : (run policy store.watched batch s).2.state.seen = s.state.seen ++ subs)
    (haccepts : ∀ sub ∈ subs, sub.outcome = .ok ()) :
    subs = [batch.accepted policy] ∧
      (run policy store.watched batch s).1 = .committed batch.doneAtOnce := by
  obtain ⟨n, -, hsubmits, hpassing, hsteps⟩ := run_course_of policy store batch s
  have hsame := List.append_cancel_left (hsubs.symm.trans hsubmits.seen)
  have hok : ∀ i < n + 1,
      store.answer batch.operations policy.timeout? s.state.state i = .ok () := by
    intro i hi
    refine haccepts ⟨batch.operations, policy.timeout?, _⟩ ?_
    rw [hsame]
    exact List.mem_map.mpr ⟨i, List.mem_range.mpr hi, rfl⟩
  cases n with
  | succ n =>
    -- the first answer is not one after which a submission is repeated
    have hfirst := hpassing 0 (Nat.succ_pos n)
    rw [hok 0 (Nat.succ_pos _)] at hfirst
    exact absurd hfirst id
  | zero =>
    have hfirst := hok 0 Nat.one_pos
    rw [hfirst] at hsteps
    refine ⟨?_, ?_⟩
    · rw [hsame, List.range_one, List.map_singleton, hfirst]
      rfl
    · generalize (run policy store.watched batch s).1 = v at hsteps
      cases hsteps
      rfl

/-- **Commits whose submissions are accepted**: each batch has been submitted once and is done. -/
theorem Commits.accepted {w w' : Watched σ} {j : Journal} {subs : List Submission}
    (h : Commits policy store.watched w j w') (hsubs : w'.seen = w.seen ++ subs)
    (haccepts : ∀ sub ∈ subs, sub.outcome = .ok ()) :
    subs = j.batches.map (·.accepted policy) ∧ j.committed = j.batches.map (·.doneAtOnce) ∧
      j.IsDone := by
  induction h generalizing subs with
  | none =>
    have hnone : subs = [] := List.self_eq_append_right.mp hsubs
    exact ⟨hnone, rfl, fun e he => absurd he List.not_mem_nil⟩
  | @snoc j s batch h ih =>
    obtain ⟨before, hbefore⟩ := h.sees
    obtain ⟨last, hlast⟩ := Commit.run_sees policy store batch s
    have hsplit : subs = before ++ last := by
      rw [hlast, hbefore, List.append_assoc] at hsubs
      exact (List.append_cancel_left hsubs).symm
    rw [hsplit] at haccepts ⊢
    obtain ⟨hsubmitted, hcommitted, hdone⟩ :=
      ih hbefore fun sub hsub => haccepts sub (List.mem_append.mpr (.inl hsub))
    obtain ⟨honce, hverdict⟩ := Commit.run_accepted batch s hlast fun sub hsub =>
      haccepts sub (List.mem_append.mpr (.inr hsub))
    rw [hverdict, Journal.batches_append, Journal.committed_append, List.map_append,
      List.map_append, hsubmitted, honce, hcommitted]
    refine ⟨rfl, rfl, hdone.append fun e he => ?_⟩
    rw [List.mem_singleton.mp he]
    rfl

end Accepted

/-! ## 3. Runs -/

/-- A sink that has been set up is made as its configuration says. -/
theorem Sink.setup_ok {σ : Type} {config : Config} {store : Store σ} {owned : Bool}
    {s s' : Session σ} {sink : Sink σ} (h : setup config store owned s = (.ok sink, s')) :
    sink.config = config ∧ sink.session = s' ∧
      Transformer.make config.table config.schema config.keyColumns config.verb =
        .ok sink.transformer := by
  unfold setup at h
  split at h
  · cases h
  · next t ht =>
    dsimp only at h
    split at h
    · cases h
    · cases h
      exact ⟨rfl, rfl, ht⟩

/-- **A run does what has been planned.** For records that all become operations or are rejected,
when bad records are skipped and the store accepts whatever is submitted to it: there is a plan; the
store has seen each of its batches once, in their order, and nothing else; these are the batches
that the run reports as committed, each at its first attempt; none has failed; and the rejections
are those of the plan, with the same positions. -/
theorem Sink.write_planned {σ : Type} {store : Store σ} {config : Config} {owned : Bool}
    {s s₀ : Session (Watched σ)} {sink sink' : Sink (Watched σ)} {source : Source}
    {stop? : Option Stop} {r : SinkResult} {subs : List Submission}
    (hsetup : setup config store.watched owned s = (.ok sink, s₀))
    (hskip : config.onRecordError = .skip) (hd : sink.transformer.Decides source.records)
    (hf : source.failure? = none) (h : sink.write store.watched source = (stop?, r, sink'))
    (hsubs : sink'.session.state.seen = sink.session.state.seen ++ subs)
    (haccepts : ∀ sub ∈ subs, sub.outcome = .ok ()) :
    ∃ plan log, Plan.make config source = (.ok plan, log) ∧ stop? = none ∧
      subs = plan.batches.map (fun b => ⟨b.operations, config.retry.timeout?, .ok ()⟩) ∧
      r.committed = plan.batches.map (·.doneAtOnce) ∧ r.failed = [] ∧
      r.rejected = plan.rejected ∧ r.received = plan.total := by
  obtain ⟨hconfig, -, hmake⟩ := setup_ok hsetup
  rw [← hconfig] at hskip hmake ⊢
  obtain ⟨plan, log, hplan, hrejected, hbatches, htotal⟩ := Plan.make_eq hmake hd hf
  obtain ⟨ended, j, w, hcommits, hb, hcommitted, hfailed, -, hreceived, hreach, hopen⟩ :=
    write_stretch hd hf h
  obtain ⟨honce, hresults, hdone⟩ := hcommits.accepted hsubs haccepts
  have hnone : stop? = none := by
    cases stop? with
    | none => rfl
    | some stop =>
      rcases write_stop hskip hd h with ⟨f, rfl⟩ | hne
      · exact absurd hdone.isClear hreach.2
      · exact absurd (hfailed.trans hdone.failed) hne
  subst hnone
  -- all that was to be sealed has been
  have hall : j.batches = plan.batches := by
    have hended : Sequential.planned sink.config sink.transformer source.records = ended :=
      hreach.trans (List.append_nil ended)
    rw [hb, ← hended, Sequential.map_fst_planned, hbatches]
    unfold Sequential.batches
    rw [hskip, Sequential.admitted_eq hd]
  have hrejections : r.rejected = plan.rejected := (write_rejected h).trans hrejected.symm
  rw [hall] at honce hresults hreceived
  refine ⟨plan, log, hplan, rfl, honce, hcommitted.trans hresults, hfailed.trans hdone.failed,
    hrejections, ?_⟩
  rw [hreceived, htotal, hrejections, hopen rfl]
  rfl

/-- Three numbers and a record without one, two operations to a batch: the plan has two batches, and
the run commits both. -/
theorem Sink.write_planned_rest :
    let config := Sample.config ⟨2, 1000⟩ .fail
    let source : Source := ⟨[Sample.record 1, .ofPairs [], Sample.record 2, Sample.record 3], none⟩
    let s : Session (Watched Memory) := ⟨⟨{}, []⟩, .zero, [], []⟩
    let s₀ := (setup config Memory.store.watched true s).2
    let sink : Sink (Watched Memory) :=
      ⟨config, Sample.transformer, s₀, { sink := "numbers", start := s₀.clock }⟩
    let out := sink.write Memory.store.watched source
    ∃ plan log, Plan.make config source = (.ok plan, log) ∧ out.1 = none ∧
      plan.batches.map (·.count) = [2, 1] ∧
      out.2.1.committed = plan.batches.map (·.doneAtOnce) ∧
      plan.rejected.map (·.1) = [1] ∧ out.2.1.rejected = plan.rejected := by
  intro config source s s₀ sink out
  have hsetup : setup config Memory.store.watched true s = (.ok sink, s₀) := rfl
  have hout : sink.write Memory.store.watched source = (out.1, out.2.1, out.2.2) :=
    Prod.ext rfl (Prod.ext rfl rfl)
  have hsubs : out.2.2.session.state.seen =
      sink.session.state.seen ++ out.2.2.session.state.seen := rfl
  have haccepts : ∀ sub ∈ out.2.2.session.state.seen, sub.outcome = .ok () := by
    have hall : ∀ sub ∈ out.2.2.session.state.seen, sub.outcome.isOk = true := by decide +kernel
    intro sub hsub
    cases ho : sub.outcome with
    | ok u => rfl
    | error f =>
      have hok := hall sub hsub
      rw [ho] at hok
      cases hok
  obtain ⟨plan, log, hplan, hstop, -, hcommitted, -, hrejected, -⟩ :=
    write_planned hsetup rfl (by decide +kernel) rfl hout hsubs haccepts
  have hcounts : out.2.1.committed.map (·.succeeded) = [2, 1] := by decide +kernel
  have hpositions : out.2.1.rejected.map (·.1) = [1] := by decide +kernel
  rw [hcommitted, List.map_map] at hcounts
  rw [hrejected] at hpositions
  exact ⟨plan, log, hplan, hstop, hcounts, hcommitted, hpositions, hrejected⟩

end Sluice
