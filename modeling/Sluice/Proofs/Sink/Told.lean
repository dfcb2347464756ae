import Sluice.Proofs.Commit.Course
import Sluice.Proofs.Parallel.Books
import Sluice.Proofs.Sink.Sequence
import Mathlib.Data.List.Nodup

/-!
# What an account tells of the store

An account tells of the submissions that were made: the batches among them that the store has
applied are the committed ones, all others are the failed ones (`SinkResult.Tells`). For a run in
sequence this needs no assumption about the records or their source: wherever the run breaks off,
the account is that of the commits that were made until then.

* `Commits.told`: **commits come of their submissions**, and the submissions tell which of them have
  been applied;
* `SinkResult.tells_of`: an account of commits tells of their submissions;
* `Sequential.Keeps`, `takeAll_keeps`, `drain_keeps`: **an account is kept of all commits**, record by
  record, whatever the records are;
* `Sink.write_tells`, `Sink.write_outside`: so it is when the run is over; and what else than the
  sink itself can have stopped it.
-/

namespace Sluice

open Parallel (appliedIn appliedIn_append)

/-! ## 1. Submissions -/

/-- A submission of a batch with its outcome, as a store sees it. -/
def Submission.of (policy : RetryPolicy) (e : Batch × Except Failure Unit) : Submission :=
  ⟨e.1.operations, policy.timeout?, e.2⟩

theorem mem_appliedIn {b : Batch} {subs : List (Batch × Except Failure Unit)} :
    b ∈ appliedIn subs ↔ (b, .ok ()) ∈ subs := by
  unfold appliedIn
  rw [List.mem_filterMap]
  constructor
  · rintro ⟨⟨b', outcome⟩, he, hb⟩
    cases outcome with
    | ok u =>
      cases hb
      exact he
    | error f => cases hb
  · exact fun he => ⟨(b, .ok ()), he, rfl⟩

/-- **A journal comes of submissions**: those of its batches, each at least once, of which the
successful ones have been applied. -/
structure Journal.ComesOf (j : Journal) (subs : List (Batch × Except Failure Unit)) : Prop where
  applied : appliedIn subs = j.applied
  submitted : ∀ e ∈ subs, e.1 ∈ j.batches
  begun : ∀ b ∈ j.batches, ∃ e ∈ subs, e.1 = b

theorem Journal.ComesOf.append {j k : Journal} {subs more : List (Batch × Except Failure Unit)}
    (h : j.ComesOf subs) (h' : k.ComesOf more) : Journal.ComesOf (j ++ k) (subs ++ more) where
  applied := by rw [appliedIn_append, h.applied, h'.applied, Journal.applied_append]
  submitted e he := by
    rw [Journal.batches_append]
    rcases List.mem_append.mp he with he | he
    · exact List.mem_append.mpr (.inl (h.submitted e he))
    · exact List.mem_append.mpr (.inr (h'.submitted e he))
  begun b hb := by
    rw [Journal.batches_append] at hb
    rcases List.mem_append.mp hb with hb | hb
    · obtain ⟨e, he, heb⟩ := h.begun b hb
      exact ⟨e, List.mem_append.mpr (.inl he), heb⟩
    · obtain ⟨e, he, heb⟩ := h'.begun b hb
      exact ⟨e, List.mem_append.mpr (.inr he), heb⟩

section Commits

variable {σ : Type} {policy : RetryPolicy} {store : Store σ}

/-- **A commit comes of its submissions**, the last of which decides whether its batch is applied. -/
theorem Commit.run_told (policy : RetryPolicy) (store : Store σ) (batch : Batch)
    (s : Session (Watched σ)) :
    ∃ subs, (run policy store.watched batch s).2.state.seen =
        s.state.seen ++ subs.map (Submission.of policy) ∧
      Journal.ComesOf [(batch, (run policy store.watched batch s).1)] subs := by
  obtain ⟨n, -, hsubmits, hpassing, hsteps⟩ := run_course_of policy store batch s
  generalize store.answer batch.operations policy.timeout? s.state.state = answer at *
  refine ⟨(List.range (n + 1)).map fun i => (batch, answer i), ?_, ?_⟩
  · rw [hsubmits.seen, List.map_map]
    rfl
  have hbefore : appliedIn ((List.range n).map fun i => (batch, answer i)) = [] := by
    refine List.filterMap_eq_nil_iff.mpr fun e he => ?_
    obtain ⟨i, hi, rfl⟩ := List.mem_map.mp he
    have hi' := hpassing i (List.mem_range.mp hi)
    cases ho : answer i with
    | ok u =>
      rw [ho] at hi'
      exact absurd hi' id
    | error f => rfl
  have hlast := hsteps.committed_iff
  refine ⟨?_, fun e he => ?_, fun b hb => ?_⟩
  · rw [List.range_succ, List.map_append, appliedIn_append, hbefore]
    generalize (run policy store.watched batch s).1 = v at hlast ⊢
    cases ho : answer n with
    | ok u =>
      obtain ⟨r, hr⟩ := Option.isSome_iff_exists.mp (hlast.mpr ho)
      simp [appliedIn, Journal.withResult, ho, hr]
    | error f =>
      have hnone : v.committed? = none := by
        cases hv : v.committed? with
        | none => rfl
        | some r =>
          rw [hv, ho] at hlast
          cases hlast.mp rfl
      simp [appliedIn, Journal.withResult, ho, hnone]
  · obtain ⟨i, -, rfl⟩ := List.mem_map.mp he
    exact List.mem_cons_self
  · rw [List.mem_singleton.mp hb]
    exact ⟨_, List.mem_map.mpr ⟨0, List.mem_range.mpr (Nat.succ_pos n), rfl⟩, rfl⟩

/-- **Commits come of their submissions**, one commit after the other. -/
theorem Commits.told {w w' : Watched σ} {j : Journal} (h : Commits policy store.watched w j w') :
    ∃ subs, w'.seen = w.seen ++ subs.map (Submission.of policy) ∧ j.ComesOf subs := by
  induction h with
  | none =>
    exact ⟨[], (List.append_nil _).symm, rfl, fun e he => absurd he List.not_mem_nil,
      fun b hb => absurd hb List.not_mem_nil⟩
  | @snoc j s batch _ ih =>
    obtain ⟨subs, hseen, hcomes⟩ := ih
    obtain ⟨more, hmore, hlast⟩ := Commit.run_told policy store batch s
    refine ⟨subs ++ more, ?_, hcomes.append hlast⟩
    rw [hmore, hseen, List.map_append, List.append_assoc]

end Commits

/-! ## 2. Accounts -/

/-- **An account tells of submissions.** The committed batches are those that the store has applied,
each with as many operations as it has; the failed ones are those that were submitted in vain. -/
structure SinkResult.Tells (r : SinkResult) (subs : List (Batch × Except Failure Unit)) : Prop where
  committed : (r.committed.map fun c => (c.batch, c.succeeded)).Perm
    ((appliedIn subs).map fun b => (b.id, b.count))
  failed : ∀ id, id ∈ r.failed.map (·.batch) ↔
    ∃ e ∈ subs, e.1.id = id ∧ ∀ e' ∈ subs, e'.1.id = id → e'.2 ≠ .ok ()
  nodup : ((r.committed ++ r.failed).map (·.batch)).Nodup
  same : ∀ e ∈ subs, ∀ e' ∈ subs, e.1.id = e'.1.id → e.1 = e'.1
  written : r.written = Batch.total (appliedIn subs)

/-- **An account of commits tells of their submissions**: its results are those of batches with
different ids, each of which has been submitted. -/
theorem SinkResult.tells_of {r : SinkResult} {subs : List (Batch × Except Failure Unit)}
    (bs : List Batch)
    (hcommitted : (r.committed.map fun c => (c.batch, c.succeeded)).Perm
      ((appliedIn subs).map fun b => (b.id, b.count)))
    (hwritten : r.written = Batch.total (appliedIn subs))
    (hids : ((r.committed ++ r.failed).map (·.batch)).Perm (bs.map (·.id)))
    (hn : (bs.map (·.id)).Nodup) (hsubmitted : ∀ e ∈ subs, e.1 ∈ bs)
    (hbegun : ∀ b ∈ bs, ∃ e ∈ subs, e.1 = b) : r.Tells subs := by
  have hnodup := hids.nodup_iff.mpr hn
  have hmem : ∀ id, id ∈ r.committed.map (·.batch) ∨ id ∈ r.failed.map (·.batch) ↔
      id ∈ bs.map (·.id) := by
    intro id
    rw [← List.mem_append, ← List.map_append, hids.mem_iff]
  have happlied : ∀ id, id ∈ r.committed.map (·.batch) ↔ ∃ e ∈ subs, e.1.id = id ∧ e.2 = .ok () := by
    intro id
    have hboth := (hcommitted.map Prod.fst).mem_iff (a := id)
    rw [List.map_map, List.map_map] at hboth
    refine hboth.trans ⟨fun h => ?_, ?_⟩
    · obtain ⟨b, hb, rfl⟩ := List.mem_map.mp h
      exact ⟨_, mem_appliedIn.mp hb, rfl, rfl⟩
    · rintro ⟨⟨b, outcome⟩, he, rfl, rfl⟩
      exact List.mem_map.mpr ⟨b, mem_appliedIn.mpr he, rfl⟩
  refine ⟨hcommitted, fun id => ⟨fun h => ?_, ?_⟩, hnodup, ?_, hwritten⟩
  · obtain ⟨b, hb, rfl⟩ := List.mem_map.mp ((hmem id).mp (.inr h))
    obtain ⟨e, he, rfl⟩ := hbegun b hb
    refine ⟨e, he, rfl, fun e' he' hid hok => ?_⟩
    rw [List.map_append] at hnodup
    exact (List.nodup_append.mp hnodup).2.2 _ ((happlied _).mpr ⟨e', he', hid, hok⟩) _ h rfl
  · rintro ⟨e, he, rfl, hvain⟩
    rcases (hmem _).mpr (List.mem_map_of_mem (hsubmitted e he)) with h | h
    · obtain ⟨e', he', hid, hok⟩ := (happlied _).mp h
      exact absurd hok (hvain e' he' hid)
    · exact h
  · intro e he e' he' hid
    exact List.inj_on_of_nodup_map hn (hsubmitted e he) (hsubmitted e' he') hid

/-! ## 3. Runs in sequence -/

namespace Sequential

variable {σ : Type}

/-- **An account is kept**: commits have been made, of batches that are numbered on, and their
results have been added to the account. -/
structure Keeps (policy : RetryPolicy) (store : Store σ) (w : Worker) (st : σ) (j : Journal)
    (w' : Worker) (st' : σ) : Prop where
  commits : Commits policy store st j st'
  committed : w'.result.committed = w.result.committed ++ j.committed
  failed : w'.result.failed = w.result.failed ++ j.failed
  written : w'.result.written = w.result.written + Batch.total j.applied
  numbers : w.accumulator.Numbers j.batches w'.accumulator

section Keeps

variable {policy : RetryPolicy} {store : Store σ} {w w' w'' : Worker} {st st' st'' : σ}
  {j k : Journal}

theorem Keeps.trans (h : Keeps policy store w st j w' st')
    (h' : Keeps policy store w' st' k w'' st'') : Keeps policy store w st (j ++ k) w'' st'' where
  commits := h.commits.trans h'.commits
  committed := by rw [h'.committed, h.committed, Journal.committed_append, List.append_assoc]
  failed := by rw [h'.failed, h.failed, Journal.failed_append, List.append_assoc]
  written := by
    rw [h'.written, h.written, Journal.applied_append, Batch.total_append, Nat.add_assoc]
  numbers := by rw [Journal.batches_append]; exact h.numbers.trans h'.numbers

/-- Nothing has been committed. -/
theorem Keeps.none (hcommitted : w'.result.committed = w.result.committed)
    (hfailed : w'.result.failed = w.result.failed)
    (hwritten : w'.result.written = w.result.written) (ha : w'.accumulator = w.accumulator) :
    Keeps policy store w st [] w' st where
  commits := .none
  committed := hcommitted.trans (List.append_nil _).symm
  failed := hfailed.trans (List.append_nil _).symm
  written := hwritten
  numbers := by rw [ha]; exact .refl _

end Keeps

/-- What stops a run from outside: a record, or a commit that is broken off. -/
def Outside (transformer : Transformer) (records : List Value) (j : Journal)
    (stop? : Option Stop) : Prop :=
  ∀ f, stop? = some (.outside f) → ¬ transformer.Decides records ∨ ¬ j.IsClear

section Records

variable {config : Config} {transformer : Transformer} {store : Store σ}

/-- A batch that has been sealed is committed. -/
theorem commit?_keeps (config : Config) (store : Store σ) {w w₀ : Worker} {batch? : Option Batch}
    {cause : Accumulator.Cause} (h : Seals w batch? cause w₀) (s : Session σ) :
    ∃ j, Keeps config.retry store w s.state j (w₀.commit? config store batch? s).2.1
        (w₀.commit? config store batch? s).2.2.state ∧
      ∀ f, (w₀.commit? config store batch? s).1 = some (.outside f) → ¬ j.IsClear := by
  obtain ⟨j, hcommits, hbooked, hbatches, hstop⟩ := commit?_booked config store w₀ batch? s
  refine ⟨j, ⟨hcommits, ?_, ?_, ?_, ?_⟩, fun f hf => ?_⟩
  · rw [hbooked.committed, h.committed]
  · rw [hbooked.failed, h.failed]
  · rw [hbooked.written, h.written]
  · rw [hbooked.accumulator, hbatches]
    exact h.numbers
  · rcases hstop _ hf with ⟨b, e, -, hne⟩ | ⟨f', -, hclear⟩
    · cases hne
    · exact hclear

/-- **One record.** -/
theorem take_keeps (config : Config) (transformer : Transformer) (store : Store σ) (w : Worker)
    (index : Nat) (record : Value) (s : Session σ) :
    ∃ j, Keeps config.retry store w s.state j
        (take config transformer store w index record s).2.1
        (take config transformer store w index record s).2.2.state ∧
      Outside transformer [record] j (take config transformer store w index record s).1 := by
  have haccepts := Worker.accept_accepts config transformer w index record s
  have hstate := Worker.accept_state config transformer w index record s
  unfold take
  generalize w.accept config transformer index record s = out at haccepts hstate
  obtain ⟨taken, w₀, s₀⟩ := out
  dsimp only at haccepts hstate ⊢
  rw [← hstate]
  cases haccepts with
  | halted h _ ho ha hr =>
    refine ⟨[], .none (by rw [hr]) (by rw [hr]) (by rw [hr]) ha, fun f _ => .inl fun hd => ?_⟩
    exact hd record List.mem_cons_self h ho
  | sealed o _ ho ha hr =>
    obtain ⟨j, hkeeps, hstop⟩ := commit?_keeps config store (seals_of_sealed ha hr) s₀
    exact ⟨j, hkeeps, fun f hf => .inr (hstop f hf)⟩
  | refused r _ ho ha hr =>
    have hfirst : Keeps config.retry store w s₀.state [] w₀ s₀.state :=
      .none (by rw [hr]) (by rw [hr]) (by rw [hr]) ha
    cases config.onRecordError with
    | skip => exact ⟨[], hfirst, fun f hf => nomatch hf⟩
    | fail =>
      obtain ⟨j, hkeeps, hstop⟩ := commit?_keeps config store (flush_seals w₀) s₀
      dsimp only
      split
      · next w₁ s₁ hcommit =>
        rw [hcommit] at hkeeps
        exact ⟨_, hfirst.trans hkeeps, fun f hf => nomatch hf⟩
      · next stop w₁ s₁ hcommit =>
        rw [hcommit] at hkeeps hstop
        exact ⟨_, hfirst.trans hkeeps, fun f hf => .inr (hstop f hf)⟩

/-- **All records**, by induction on them. -/
theorem takeAll_keeps (config : Config) (transformer : Transformer) (store : Store σ) :
    ∀ (records : List Value) (w : Worker) (index : Nat) (s : Session σ),
    ∃ j, Keeps config.retry store w s.state j
        (takeAll config transformer store index records w s).2.1
        (takeAll config transformer store index records w s).2.2.state ∧
      Outside transformer records j (takeAll config transformer store index records w s).1
  | [], w, index, s => ⟨[], .none rfl rfl rfl rfl, fun f hf => nomatch hf⟩
  | record :: rest, w, index, s => by
    obtain ⟨j, hkeeps, hfirst⟩ := take_keeps config transformer store w index record s
    unfold takeAll
    split
    · next w₁ s₁ htake =>
      rw [htake] at hkeeps
      obtain ⟨k, hkeeps', hrest⟩ := takeAll_keeps config transformer store rest w₁ (index + 1) s₁
      refine ⟨_, hkeeps.trans hkeeps', fun f hf => (hrest f hf).imp ?_ ?_⟩
      · exact fun hno hd => hno fun r hr => hd r (List.mem_cons_of_mem record hr)
      · exact fun hno hc => hno fun e he => hc e (List.mem_append.mpr (.inr he))
    · next stop w₁ s₁ htake =>
      rw [htake] at hkeeps hfirst
      refine ⟨j, hkeeps, fun f hf => (hfirst f hf).imp_left fun hno hd => hno fun r hr => ?_⟩
      rw [List.mem_singleton.mp hr]
      exact hd record List.mem_cons_self

/-- **The whole source**, which may fail behind its records. -/
theorem drain_keeps (config : Config) (transformer : Transformer) (store : Store σ)
    (source : Source) (w : Worker) (s : Session σ) :
    ∃ j, Keeps config.retry store w s.state j
        (drain config transformer store source w s).2.1
        (drain config transformer store source w s).2.2.state ∧
      ∀ f, (drain config transformer store source w s).1 = some (.outside f) →
        source.failure? = some f ∨ ¬ transformer.Decides source.records ∨ ¬ j.IsClear := by
  obtain ⟨j, hkeeps, hstop⟩ := takeAll_keeps config transformer store source.records w 0 s
  unfold drain
  split
  · next stop w₁ s₁ htake =>
    rw [htake] at hkeeps hstop
    exact ⟨j, hkeeps, fun f hf => .inr (hstop f hf)⟩
  · next w₁ s₁ htake =>
    rw [htake] at hkeeps
    cases hf : source.failure? with
    | some f =>
      refine ⟨j, hkeeps, fun f' hf' => .inl ?_⟩
      cases hf'
      rfl
    | none =>
      obtain ⟨k, hkeeps', hlast⟩ := commit?_keeps config store (flush_seals w₁) s₁
      refine ⟨_, hkeeps.trans hkeeps', fun f hf => .inr (.inr fun hc => hlast f hf ?_)⟩
      exact fun e he => hc e (List.mem_append.mpr (.inr he))

end Records

end Sequential

section Write

variable {σ : Type} {store : Store σ} {source : Source} {stop? : Option Stop} {r : SinkResult}

/-- **An account is kept of all commits of a run**, whatever stops it. -/
theorem Sink.write_keeps {sink sink' : Sink σ} (h : sink.write store source = (stop?, r, sink')) :
    ∃ j, Commits sink.config.retry store sink.session.state j sink'.session.state ∧
      r.committed = j.committed ∧ r.failed = j.failed ∧ r.written = Batch.total j.applied ∧
      (j.batches.map (·.id)).Nodup ∧
      ∀ f, stop? = some (.outside f) → source.failure? = some f ∨
        ¬ sink.transformer.Decides source.records ∨ ¬ j.IsClear := by
  obtain ⟨j, hkeeps, hstop⟩ := Sequential.drain_keeps sink.config sink.transformer store source
    (Worker.start sink.config "batch" sink.session.clock) sink.session
  have hdiscard := Worker.discard_state (σ := σ) sink.config
  unfold write at h
  dsimp only at h
  generalize Sequential.drain sink.config sink.transformer store source
    (Worker.start sink.config "batch" sink.session.clock) sink.session = out at h hkeeps hstop
  obtain ⟨stop₀?, w, s⟩ := out
  have hwritten := hkeeps.written.trans (Nat.zero_add _)
  cases stop₀? with
  | none =>
    cases h
    exact ⟨j, hkeeps.commits, hkeeps.committed, hkeeps.failed, hwritten, hkeeps.numbers.nodup, hstop⟩
  | some stop =>
    -- what is dropped at the end changes neither the account nor the store
    cases h
    refine ⟨j, ?_, hkeeps.committed, hkeeps.failed, hwritten, hkeeps.numbers.nodup, hstop⟩
    have hsame : (w.discard sink.config s).2.state = s.state := hdiscard w s
    exact hsame ▸ hkeeps.commits

/-- **The account of a run in sequence tells of its submissions**, whatever stops it. -/
theorem Sink.write_tells {sink sink' : Sink (Watched σ)} (hp : sink.config.retry.IsComputable)
    (h : sink.write store.watched source = (stop?, r, sink')) :
    ∃ subs, sink'.session.state.seen =
        sink.session.state.seen ++ subs.map (Submission.of sink.config.retry) ∧ r.Tells subs := by
  obtain ⟨j, hcommits, hcommitted, hfailed, hwritten, hnodup, -⟩ := write_keeps h
  obtain ⟨subs, hseen, hcomes⟩ := hcommits.told
  have hsound := hcommits.isSound
  refine ⟨subs, hseen, SinkResult.tells_of j.batches ?_ ?_ ?_ hnodup hcomes.submitted
    hcomes.begun⟩
  · rw [hcommitted, hcomes.applied, Journal.committed_applied hsound]
  · rw [hwritten, hcomes.applied]
  · rw [hcommitted, hfailed]
    exact Journal.ids_perm hsound (hcommits.isClear hp)

/-- **What stops a run in sequence from outside**: its source, or a record that becomes no operation
and is not rejected. -/
theorem Sink.write_outside {sink sink' : Sink σ} (hp : sink.config.retry.IsComputable) {f : Failure}
    (h : sink.write store source = (some (.outside f), r, sink')) :
    source.failure? = some f ∨ ¬ sink.transformer.Decides source.records := by
  obtain ⟨j, hcommits, -, -, -, -, hstop⟩ := write_keeps h
  rcases hstop f rfl with hf | hd | hc
  · exact .inl hf
  · exact .inr hd
  · exact absurd (hcommits.isClear hp) hc

end Write

end Sluice
