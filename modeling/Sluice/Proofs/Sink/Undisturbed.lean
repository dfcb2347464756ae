import Sluice.Proofs.Record.Operation
import Sluice.Proofs.Sink.ExactlyOnce
import Sluice.Proofs.Store.Stalls
import Mathlib.Data.List.Infix

/-!
# Runs in sequence that come to their end

When records do not get in each other's way, their operations can be put into batches of any sizes,
and each batch can be applied where the ones before it have been. A store that only holds up then
applies all of them, if it spares the commits, and the run has no reason to stop.

* `Transformer.KeepsApart`, `Undisturbed`: records that do not get in each other's way, and runs
  that nothing disturbs;
* `Commits.isDone`: **every commit is done**, one after the other;
* `Sequential.drain_stop`, `Sink.write_stop`: why a run that skips bad records stops;
* `Sink.write_undisturbed`: **the run ends with all operations applied**.
-/

namespace Sluice

/-! ## 1. Records that do not get in each other's way -/

/-- **Records that do not get in each other's way**: each becomes an operation or is rejected; the
operations have keys, no two of which are the same, and each can be applied to the table as it
is. -/
structure Transformer.KeepsApart (t : Transformer) (records : List Value) (table : Table) :
    Prop where
  decides : t.Decides records
  isMap : table.IsMap
  usable : ∀ o ∈ t.operationsOf records, Value.unusableKey? o.key = none
  apart : (t.operationsOf records).Pairwise fun o p => Value.sameKey o.key p.key = false
  admits : ∀ o ∈ t.operationsOf records, table.Admits o

section KeepsApart

variable {t : Transformer} {records : List Value} {table : Table}

theorem Transformer.KeepsApart.independent (h : t.KeepsApart records table) :
    table.Independent (t.operationsOf records) := by
  have hkeys : ∀ o ∈ t.operationsOf records, Value.IsKey o.key := by
    intro o ho
    obtain ⟨record, -, hrecord⟩ := mem_operationsOf ho
    exact ⟨h.usable o ho, transform_isProperKey hrecord⟩
  refine ⟨h.isMap, hkeys, ?_, h.admits⟩
  exact h.apart.imp_of_mem fun ho hp hop => (hkeys _ ho).apart (hkeys _ hp) hop

theorem Transformer.table_of_mem {o : Operation} (h : o ∈ t.operationsOf records) :
    o.table = t.table := by
  obtain ⟨record, -, hrecord⟩ := mem_operationsOf h
  exact (transform_inv hrecord).1

/-- **Nothing disturbs a run**: its records do not get in each other's way, bad ones are skipped,
the table is there, and the store does nothing worse than to hold up commits. -/
structure Undisturbed {σ : Type} (config : Config) (transformer : Transformer) (store : Store σ)
    (memory : σ → Memory) (I : σ → Prop) (source : Source) (state : σ) (table : Table) : Prop where
  stalls : store.Stalls memory I
  inside : I state
  there : Memory.table? (memory state).tables transformer.table = some table
  skips : config.onRecordError = .skip
  computable : config.retry.IsComputable
  ends : source.failure? = none
  apart : transformer.KeepsApart source.records table

/-- Watching disturbs nothing. -/
theorem Undisturbed.watched {σ : Type} {config : Config} {transformer : Transformer}
    {store : Store σ} {memory : σ → Memory} {I : σ → Prop} {source : Source} {w : Watched σ}
    {table : Table} (h : Undisturbed config transformer store memory I source w.state table) :
    Undisturbed config transformer store.watched (fun w => memory w.state) (fun w => I w.state)
      source w table :=
  { h with stalls := h.stalls.watched }

/-- When bad records are skipped, all operations are admitted. -/
theorem Sequential.admitted_eq : ∀ {records : List Value}, t.Decides records →
    admitted .skip t records = t.operationsOf records
  | [], _ => rfl
  | record :: rest, hd => by
    have hrest := admitted_eq fun r hr => hd r (List.mem_cons_of_mem record hr)
    unfold Transformer.operationsOf at hrest ⊢
    cases ht : t.transform record with
    | ok o =>
      rw [admitted_ok ht, hrest, List.filterMap_cons, ht]
      rfl
    | error refusal =>
      cases refusal with
      | rejected r =>
        rw [admitted_skip ht, hrest, List.filterMap_cons, ht]
        rfl
      | halted h => exact absurd ht (hd record List.mem_cons_self h)

end KeepsApart

/-- Batches that have been applied to one table: their operations have been, one by one. -/
theorem Memory.applyBatches_afterAll {name : Text} : ∀ {bs : List Batch}
    {tables tables' : List (Text × Table)} {t : Table},
    (∀ o ∈ bs.flatMap (·.operations), o.table = name) → table? tables name = some t →
    applyBatches tables bs = .ok tables' →
    table? tables' name = some (t.afterAll (bs.flatMap (·.operations)))
  | [], _, _, _, _, ht, h => by
    cases h
    exact ht
  | b :: bs, tables, tables', t, hname, ht, h => by
    rw [show b :: bs = [b] ++ bs from rfl, applyBatches_append, applyBatches_singleton] at h
    rw [List.flatMap_cons] at hname ⊢
    cases hb : applyAll tables 0 b.operations with
    | error f =>
      rw [hb] at h
      cases h
    | ok tables₁ =>
      rw [hb] at h
      have hfirst := applyAll_afterAll (fun o ho => hname o (List.mem_append.mpr (.inl ho))) ht hb
      have hrest := applyBatches_afterAll (fun o ho => hname o (List.mem_append.mpr (.inr ho)))
        hfirst h
      rw [hrest]
      unfold Table.afterAll
      rw [List.foldl_append]

/-! ## 2. Commits -/

namespace Journal

/-- Every commit is done. -/
def IsDone (j : Journal) : Prop := ∀ e ∈ j, e.2.committed?.isSome = true

variable {j k : Journal}

theorem IsDone.append (h : j.IsDone) (h' : k.IsDone) : IsDone (j ++ k) := fun e he =>
  (List.mem_append.mp he).elim (h e) (h' e)

theorem IsDone.isClear (h : j.IsDone) : j.IsClear := by
  rintro ⟨b, v⟩ he
  have hv := h _ he
  cases v with
  | committed r => trivial
  | failed e r => trivial
  | broken f => cases hv

theorem IsDone.failed (h : j.IsDone) : j.failed = [] := by
  refine List.filterMap_eq_nil_iff.mpr ?_
  rintro ⟨b, v⟩ he
  have hv := h _ he
  cases v with
  | committed r => rfl
  | failed e r => cases hv
  | broken f => rfl

theorem IsClear.isDone (hc : j.IsClear) (h : j.failed = []) : j.IsDone := by
  rintro ⟨b, v⟩ he
  have hno := List.filterMap_eq_nil_iff.mp h _ he
  have hv := hc _ he
  cases v with
  | committed r => rfl
  | failed e r => cases hno
  | broken f => cases hv

/-- What is done has been applied. -/
theorem IsDone.applied (h : j.IsDone) : j.applied = j.batches := by
  unfold Journal.applied Journal.withResult Journal.batches
  rw [← List.filterMap_eq_map]
  refine List.filterMap_congr ?_
  rintro ⟨b, v⟩ he
  obtain ⟨r, hr⟩ := Option.isSome_iff_exists.mp (h _ he)
  dsimp only at hr ⊢
  rw [hr]
  rfl

end Journal

section Commits

variable {σ : Type} {store : Store σ} {memory : σ → Memory} {I : σ → Prop} {policy : RetryPolicy}
  {w w' : Watched σ} {j : Journal}

theorem Commit.run_sees (policy : RetryPolicy) (store : Store σ) (batch : Batch)
    (s : Session (Watched σ)) :
    ∃ subs, (run policy store.watched batch s).2.state.seen = s.state.seen ++ subs := by
  obtain ⟨n, -, hsubmits, -⟩ := run_course_of policy store batch s
  exact ⟨_, hsubmits.seen⟩

theorem Commits.sees (h : Commits policy store.watched w j w') :
    ∃ subs, w'.seen = w.seen ++ subs := by
  induction h with
  | none => exact ⟨[], (List.append_nil _).symm⟩
  | snoc batch _ ih =>
    obtain ⟨subs, hsubs⟩ := ih
    obtain ⟨last, hlast⟩ := Commit.run_sees policy store batch _
    exact ⟨subs ++ last, by rw [hlast, hsubs, List.append_assoc]⟩

/-- **Every commit is done**, if the operations of all batches do not get in each other's way and
the store spares the commits; by induction on the commits, each of which finds what those before it
have left. -/
theorem Commits.isDone (hs : store.Stalls memory I) (hp : policy.IsComputable) {name : Text}
    {t : Table} (hI : I w.state) (ht : Memory.table? (memory w.state).tables name = some t)
    (h : Commits policy store.watched w j w')
    (hname : ∀ o ∈ j.batches.flatMap (·.operations), o.table = name)
    (hind : t.Independent (j.batches.flatMap (·.operations))) {subs : List Submission}
    (hsubs : w'.seen = w.seen ++ subs)
    (hspared : Spared policy.maxRetries (subs.map (·.outcome))) : j.IsDone ∧ I w'.state := by
  induction h generalizing subs with
  | none => exact ⟨fun e he => absurd he List.not_mem_nil, hI⟩
  | @snoc j s batch h ih =>
    rw [Journal.batches_append, List.flatMap_append] at hname hind
    have hone : (Journal.batches [(batch, (Commit.run policy store.watched batch s).1)]).flatMap
        (·.operations) = batch.operations := List.append_nil _
    rw [hone] at hname hind
    obtain ⟨before, hbefore⟩ := h.sees
    obtain ⟨last, hlast⟩ := Commit.run_sees policy store batch s
    -- the submissions of this commit are the last ones of all
    have hsplit : subs = before ++ last := by
      rw [hlast, hbefore, List.append_assoc] at hsubs
      exact (List.append_cancel_left hsubs).symm
    rw [hsplit, List.map_append] at hspared
    obtain ⟨hdone, hI'⟩ := ih (fun o ho => hname o (List.mem_append.mpr (.inl ho)))
      (hind.subperm (List.sublist_append_left _ _).subperm) hbefore hspared.of_append
    have happlied := h.applied hs.watched.guards
    rw [hdone.applied] at happlied
    have htable := Memory.applyBatches_afterAll
      (fun o ho => hname o (List.mem_append.mpr (.inl ho))) ht happlied
    obtain ⟨tables, happlies⟩ := Memory.applyAll_independent
      (fun o ho => hname o (List.mem_append.mpr (.inr ho))) htable hind.drop
    have hcommitted := Commit.run_spared hs hp hI' happlies hlast
      (hspared.of_isInfix (List.suffix_append _ _).isInfix)
    refine ⟨hdone.append ?_, Commit.run_keeps hs.watched batch s hI'⟩
    intro e he
    rw [List.mem_singleton.mp he]
    exact hcommitted

end Commits

/-! ## 3. Stops -/

section Stops

variable {σ : Type} {config : Config} {transformer : Transformer} {store : Store σ}

/-- A commit stops the run when it is broken off or has failed. -/
theorem Worker.commit?_stop {w : Worker} {batch? : Option Batch} {s : Session σ} {stop : Stop}
    (h : (w.commit? config store batch? s).1 = some stop) :
    (∃ f, stop = .outside f) ∨ (w.commit? config store batch? s).2.1.result.failed ≠ [] := by
  cases batch? with
  | none => cases h
  | some batch =>
    change (w.settle config batch (Commit.run config.retry store batch s).1 _ _).1 = _ at h
    change _ ∨ (w.settle config batch (Commit.run config.retry store batch s).1 _ _).2.1.result.failed
      ≠ []
    generalize (Commit.run config.retry store batch s).1 = v at h ⊢
    cases v with
    | committed r => cases h
    | failed e r => exact .inr (List.append_ne_nil_of_right_ne_nil _ (List.cons_ne_nil _ _))
    | broken f =>
      cases h
      exact .inl ⟨f, rfl⟩

namespace Sequential

theorem take_stop (hrule : config.onRecordError = .skip) {w : Worker} {index : Nat}
    {record : Value} {s : Session σ} (hd : ∀ h, transformer.transform record ≠ .error (.halted h))
    {stop : Stop} (h : (take config transformer store w index record s).1 = some stop) :
    (∃ f, stop = .outside f) ∨
      (take config transformer store w index record s).2.1.result.failed ≠ [] := by
  have haccepts := Worker.accept_accepts config transformer w index record s
  unfold take at h ⊢
  generalize w.accept config transformer index record s = out at haccepts h ⊢
  obtain ⟨out, w₀, s₀⟩ := out
  dsimp only at haccepts h ⊢
  cases haccepts with
  | halted e _ ho ha hr => exact absurd ho (hd e)
  | sealed o _ ho ha hr => exact Worker.commit?_stop h
  | refused r _ ho ha hr =>
    dsimp only at h
    rw [hrule] at h
    cases h

theorem takeAll_stop (hrule : config.onRecordError = .skip) {stop : Stop} :
    ∀ {records : List Value} {w : Worker} {index : Nat} {s : Session σ},
    transformer.Decides records →
    (takeAll config transformer store index records w s).1 = some stop →
    (∃ f, stop = .outside f) ∨
      (takeAll config transformer store index records w s).2.1.result.failed ≠ []
  | [], _, _, _, _, h => by cases h
  | record :: rest, w, index, s, hd, h => by
    unfold takeAll at h ⊢
    split at h
    · next w₁ s₁ htake =>
      exact takeAll_stop hrule (fun r hr => hd r (List.mem_cons_of_mem record hr)) h
    · next stop₁ w₁ s₁ htake =>
      cases h
      have hstop : (take config transformer store w index record s).1 = some stop := by rw [htake]
      have hcause := take_stop hrule (hd record List.mem_cons_self) hstop
      rw [htake] at hcause
      exact hcause

/-- **Why a run that skips bad records stops**: a commit was broken off, or has failed. -/
theorem drain_stop (store : Store σ) (hrule : config.onRecordError = .skip) {source : Source}
    (hd : transformer.Decides source.records) (w : Worker) (s : Session σ) (stop : Stop)
    (h : (drain config transformer store source w s).1 = some stop) :
    (∃ f, stop = .outside f) ∨
      (drain config transformer store source w s).2.1.result.failed ≠ [] := by
  unfold drain at h ⊢
  split at h
  · next stop₁ w₁ s₁ htake =>
    cases h
    have hstop : (takeAll config transformer store 0 source.records w s).1 = some stop := by
      rw [htake]
    have hcause := takeAll_stop hrule hd hstop
    rw [htake] at hcause
    exact hcause
  · next w₁ s₁ htake =>
    cases hf : source.failure? with
    | some f =>
      rw [hf] at h
      cases h
      exact .inl ⟨f, rfl⟩
    | none =>
      rw [hf] at h
      exact Worker.commit?_stop h

end Sequential

theorem Sink.write_stop {sink sink' : Sink σ} (hrule : sink.config.onRecordError = .skip)
    {source : Source} (hd : sink.transformer.Decides source.records) {stop : Stop} {r : SinkResult}
    (h : sink.write store source = (some stop, r, sink')) :
    (∃ f, stop = .outside f) ∨ r.failed ≠ [] := by
  have hdrain := fun stop => Sequential.drain_stop store hrule hd
    (Worker.start sink.config "batch" sink.session.clock) sink.session stop
  unfold write at h
  dsimp only at h
  generalize Sequential.drain sink.config sink.transformer store source
    (Worker.start sink.config "batch" sink.session.clock) sink.session = out at h hdrain
  obtain ⟨stop?, w, s⟩ := out
  cases h
  exact hdrain stop rfl

end Stops

/-! ## 4. Whole runs -/

/-- **A run in sequence that nothing disturbs**, and whose commits are spared, is not stopped; when
it is over, all operations have been applied to the table, in the order of the records. -/
theorem Sink.write_undisturbed {σ : Type} {store : Store σ} {memory : σ → Memory} {I : σ → Prop}
    {sink sink' : Sink (Watched σ)} {source : Source} {stop? : Option Stop} {r : SinkResult}
    {t : Table} {subs : List Submission}
    (hu : Undisturbed sink.config sink.transformer store memory I source sink.session.state.state t)
    (h : sink.write store.watched source = (stop?, r, sink'))
    (hsubs : sink'.session.state.seen = sink.session.state.seen ++ subs)
    (hspared : Spared sink.config.retry.maxRetries (subs.map (·.outcome))) :
    stop? = none ∧
      Memory.table? (memory sink'.session.state.state).tables sink.transformer.table =
        some (t.afterAll (sink.transformer.operationsOf source.records)) := by
  have hd := hu.apart.decides
  obtain ⟨ended, j, w, hcommits, hb, -, hfailed, -, -, hreach, -⟩ := write_stretch hd hu.ends h
  have hall : (Sequential.batches sink.config sink.transformer source.records).flatMap
      (·.operations) = sink.transformer.operationsOf source.records := by
    unfold Sequential.batches
    rw [Accumulator.flatMap_batchesOf, hu.skips, Sequential.admitted_eq hd]
    rfl
  -- however far the run has got, its batches are among those of the plan
  have hsub : (j.batches.flatMap (·.operations)).Sublist
      (sink.transformer.operationsOf source.records) := by
    rw [← hall]
    exact ((Sequential.batches_isPrefix hb hreach).flatMap _).sublist
  have hname : ∀ o ∈ j.batches.flatMap (·.operations), o.table = sink.transformer.table :=
    fun o ho => Transformer.table_of_mem (hsub.subset ho)
  have hind := hu.apart.independent.subperm hsub.subperm
  obtain ⟨hdone, -⟩ :=
    hcommits.isDone hu.stalls hu.computable hu.inside hu.there hname hind hsubs hspared
  have hnone : stop? = none := by
    cases stop? with
    | none => rfl
    | some stop =>
      rcases write_stop hu.skips hd h with ⟨f, rfl⟩ | hne
      · exact absurd hdone.isClear hreach.2
      · exact absurd (hfailed.trans hdone.failed) hne
  refine ⟨hnone, ?_⟩
  subst hnone
  have hplanned : Sequential.planned sink.config sink.transformer source.records = ended :=
    hreach.trans (List.append_nil ended)
  have happlied := hcommits.applied hu.stalls.watched.guards
  rw [hdone.applied] at happlied
  have htable := Memory.applyBatches_afterAll hname hu.there happlied
  rw [hb, ← hplanned, Sequential.map_fst_planned, hall] at htable
  exact htable

end Sluice
