import Sluice.Proofs.Batch.Sealing
import Sluice.Proofs.Sink.Commits
import Sluice.Sink.Sequential

/-!
# The course of a run in sequence

A run in sequence goes from one worker and one state of the store to the next, record by record.
`Stretch` is what such a way consists of: the batches that were sealed on it, and why, the commits
that were made of them, and the account that was kept. The batches are fixed beforehand by the
records alone (`admitted`), however the commits end; the commits only decide how far the run gets.

* `take_stretch`, `takeAll_stretch`, `drain_stretch`, `Sink.write_stretch`: one record, all records,
  the rest behind them, the whole run;
* `Leaves`: **what is still open when a run is stopped** -- after a failed batch the operation that
  made it overflow, and nothing else.
-/

namespace Sluice

/-- Every one of several records becomes an operation or is rejected. -/
def Transformer.Decides (t : Transformer) (records : List Value) : Prop :=
  ∀ record ∈ records, ∀ h, t.transform record ≠ .error (.halted h)

instance (t : Transformer) (record : Value) :
    Decidable (∀ h, t.transform record ≠ .error (.halted h)) :=
  match t.transform record with
  | .error (.halted h) => .isFalse fun hn => hn h rfl
  | .error (.rejected _) => .isTrue fun _ e => nomatch e
  | .ok _ => .isTrue fun _ e => nomatch e

instance (t : Transformer) (records : List Value) : Decidable (t.Decides records) :=
  inferInstanceAs (Decidable (∀ record ∈ records, _))

namespace Sequential

/-- The operations of records in order, up to a record that stops the run. -/
def admitted (rule : RecordRule) (t : Transformer) : List Value → List Operation
  | [] => []
  | record :: rest =>
    match t.transform record, rule with
    | .ok o, _ => o :: admitted rule t rest
    | .error (.rejected _), .skip => admitted rule t rest
    | .error _, _ => []

section Admitted

variable {t : Transformer} {rule : RecordRule} {record : Value} {r : Record.Rejection}

theorem admitted_ok {o : Operation} (h : t.transform record = .ok o) (rest : List Value) :
    admitted rule t (record :: rest) = o :: admitted rule t rest := by
  simp [admitted, h]

theorem admitted_skip (h : t.transform record = .error (.rejected r)) (rest : List Value) :
    admitted .skip t (record :: rest) = admitted .skip t rest := by
  simp [admitted, h]

theorem admitted_fail (h : t.transform record = .error (.rejected r)) (rest : List Value) :
    admitted .fail t (record :: rest) = [] := by
  simp [admitted, h]

end Admitted

variable {σ : Type}

/-! ## 1. Stretches -/

/-- **A stretch of a run**: batches have been sealed and their commits have ended, which is booked;
every record that came in is rejected, still open, or in one of these batches. -/
structure Stretch (policy : RetryPolicy) (store : Store σ) (w : Worker) (st : σ)
    (ended : List (Batch × Accumulator.Cause)) (j : Journal) (w' : Worker) (st' : σ) : Prop where
  commits : Commits policy store st j st'
  batches : j.batches = ended.map (·.1)
  committed : w'.result.committed = w.result.committed ++ j.committed
  failed : w'.result.failed = w.result.failed ++ j.failed
  written : w'.result.written = w.result.written + Batch.total j.applied
  balance : w'.result.received + (w.result.rejected.length + w.accumulator.open_.length) =
    w.result.received + (w'.result.rejected.length + w'.accumulator.open_.length +
      Batch.total j.batches)

section Stretch

variable {policy : RetryPolicy} {store : Store σ} {w w' w'' : Worker} {st st' st'' : σ}
  {ended ended' : List (Batch × Accumulator.Cause)} {j k : Journal}

theorem Stretch.refl (w : Worker) (st : σ) : Stretch policy store w st [] [] w st :=
  ⟨.none, rfl, (List.append_nil _).symm, (List.append_nil _).symm, rfl, rfl⟩

theorem Stretch.trans (h : Stretch policy store w st ended j w' st')
    (h' : Stretch policy store w' st' ended' k w'' st'') :
    Stretch policy store w st (ended ++ ended') (j ++ k) w'' st'' where
  commits := h.commits.trans h'.commits
  batches := by rw [Journal.batches_append, h.batches, h'.batches, List.map_append]
  committed := by rw [h'.committed, h.committed, Journal.committed_append, List.append_assoc]
  failed := by rw [h'.failed, h.failed, Journal.failed_append, List.append_assoc]
  written := by
    rw [h'.written, h.written, Journal.applied_append, Batch.total_append, Nat.add_assoc]
  balance := by
    have hb := h.balance
    have hb' := h'.balance
    rw [Journal.batches_append, Batch.total_append]
    omega

/-- What is still open when a run is stopped. -/
def Leaves (ended : List (Batch × Accumulator.Cause)) (j : Journal) (w : Worker) : Stop → Prop
  | .batch id _ => ∃ b cause, ended.getLast? = some (b, cause) ∧ b.id = id ∧
      w.accumulator.open_.length = if cause = .overflow then 1 else 0
  | .record _ _ => w.accumulator.open_ = []
  | .outside _ => ¬ j.IsClear

theorem Leaves.mono {stop : Stop} (h : Leaves ended' k w stop)
    (ended : List (Batch × Accumulator.Cause)) (j : Journal) :
    Leaves (ended ++ ended') (j ++ k) w stop := by
  cases stop with
  | batch id e =>
    obtain ⟨b, cause, hlast, hid, hopen⟩ := h
    refine ⟨b, cause, ?_, hid, hopen⟩
    rw [List.getLast?_append, hlast]
    rfl
  | record index r => exact h
  | outside f => exact fun hc => h fun e he => hc e (List.mem_append.mpr (.inr he))

end Stretch

/-! ## 2. One batch -/

/-- **A worker seals a batch, or none**: its account of commits is as it was, and every record that
came in is rejected, still open, or in that batch. -/
structure Seals (w : Worker) (batch? : Option Batch) (cause : Accumulator.Cause) (w' : Worker) :
    Prop where
  committed : w'.result.committed = w.result.committed
  failed : w'.result.failed = w.result.failed
  written : w'.result.written = w.result.written
  balance : w'.result.received + (w.result.rejected.length + w.accumulator.open_.length) =
    w.result.received + (w'.result.rejected.length + w'.accumulator.open_.length +
      Batch.total batch?.toList)
  left : batch?.isSome → w'.accumulator.open_.length = if cause = .overflow then 1 else 0
  numbers : w.accumulator.Numbers batch?.toList w'.accumulator

theorem flush_seals (w : Worker) : Seals w w.flush.1 .rest w.flush.2 where
  committed := rfl
  failed := rfl
  written := rfl
  balance := by
    have h := congrArg List.length w.accumulator.flush_operations
    rw [Batch.total_eq, Worker.flush_batch, h, Worker.flush_accumulator,
      Accumulator.flush_open]
    simp [Worker.flush_result]
  left _ := by rw [Worker.flush_accumulator, Accumulator.flush_open]; rfl
  numbers := Accumulator.flush_numbers w.accumulator

section Accept

variable {transformer : Transformer} {w w' : Worker} {index : Nat} {record : Value}

theorem seals_of_sealed {o : Operation} (ha : w'.accumulator = (w.accumulator.add o).2)
    (hr : w'.result = { w.result with received := w.result.received + 1 }) :
    Seals w (w.accumulator.add o).1 (w.accumulator.causeOf o) w' where
  committed := by rw [hr]
  failed := by rw [hr]
  written := by rw [hr]
  balance := by
    have h := congrArg List.length (Accumulator.add_adds w.accumulator o).operations
    rw [List.length_append, List.length_append, List.length_singleton] at h
    rw [hr, ha, Batch.total_eq]
    dsimp only
    omega
  left h := by rw [ha]; exact (Accumulator.add_adds w.accumulator o).left h
  numbers := by rw [ha]; exact (Accumulator.add_adds w.accumulator o).numbers

theorem seals_of_refused {r : Record.Rejection} (ha : w'.accumulator = w.accumulator)
    (hr : w'.result = { w.result with
      received := w.result.received + 1, rejected := w.result.rejected ++ [(index, r)] }) :
    Seals w none .rest w' where
  committed := by rw [hr]
  failed := by rw [hr]
  written := by rw [hr]
  balance := by
    rw [hr, ha]
    simp only [List.length_append, List.length_singleton]
    change _ = _ + (_ + _ + 0)
    omega
  left h := by cases h
  numbers := by rw [ha]; exact .refl _

end Accept

section Batches

variable {config : Config} {store : Store σ}

/-- The commit of a batch, if there is one: it is booked, and stops the run only under its own id
or when it was broken off. -/
theorem commit?_booked (config : Config) (store : Store σ) (w : Worker) (batch? : Option Batch)
    (s : Session σ) :
    ∃ j, Commits config.retry store s.state j (w.commit? config store batch? s).2.2.state ∧
      Worker.Booked w j (w.commit? config store batch? s).2.1 ∧ j.batches = batch?.toList ∧
      ∀ stop, (w.commit? config store batch? s).1 = some stop →
        (∃ b e, batch? = some b ∧ stop = .batch b.id e) ∨ ∃ f, stop = .outside f ∧ ¬ j.IsClear := by
  cases batch? with
  | none => exact ⟨[], .none, .refl w, rfl, fun stop h => (by cases h)⟩
  | some batch =>
    refine ⟨[(batch, (Commit.run config.retry store batch s).1)], ?_, ?_, rfl, fun stop h => ?_⟩
    · change Commits _ _ _ _ (w.settle config batch _ _ _).2.2.state
      rw [Worker.settle_state]
      exact .snoc batch .none
    · exact Worker.settle_booked config w (Commit.run_about batch s) _ _
    · change (w.settle config batch (Commit.run config.retry store batch s).1 _ _).1 = _ at h
      rcases Worker.settle_stop h with ⟨e, rfl⟩ | ⟨f, hv, rfl⟩
      · exact .inl ⟨batch, e, rfl, rfl⟩
      · refine .inr ⟨f, rfl, fun hc => ?_⟩
        have := hc _ List.mem_cons_self
        rw [hv] at this
        exact this

/-- A batch that has been sealed is committed. -/
theorem commit?_stretch (config : Config) (store : Store σ) {w w₀ : Worker}
    {batch? : Option Batch} {cause : Accumulator.Cause} (h : Seals w batch? cause w₀)
    (s : Session σ) :
    ∃ j, Stretch config.retry store w s.state (batch?.toList.map fun b => (b, cause)) j
        (w₀.commit? config store batch? s).2.1 (w₀.commit? config store batch? s).2.2.state ∧
      (w₀.commit? config store batch? s).2.1.accumulator = w₀.accumulator ∧
      ∀ stop, (w₀.commit? config store batch? s).1 = some stop →
        Leaves (batch?.toList.map fun b => (b, cause)) j (w₀.commit? config store batch? s).2.1
          stop := by
  obtain ⟨j, hcommits, hbooked, hbatches, hstop⟩ := commit?_booked config store w₀ batch? s
  refine ⟨j, ?_, hbooked.accumulator, fun stop hs => ?_⟩
  · refine ⟨hcommits, ?_, ?_, ?_, ?_, ?_⟩
    · rw [hbatches, Accumulator.map_fst_causes]
    · rw [hbooked.committed, h.committed]
    · rw [hbooked.failed, h.failed]
    · rw [hbooked.written, h.written]
    · rw [hbooked.received, hbooked.rejected, hbooked.accumulator, hbatches]
      exact h.balance
  · rcases hstop stop hs with ⟨b, e, rfl, rfl⟩ | ⟨f, rfl, hf⟩
    · exact ⟨b, cause, rfl, rfl, by rw [hbooked.accumulator]; exact h.left rfl⟩
    · exact hf

end Batches

/-! ## 3. Records -/

/-- **How far a stretch has got**: what it sealed is all of what was to be sealed, up to what is
left; or the first part of it, when the run was stopped. -/
def Reaches (stop? : Option Stop) (ended : List (Batch × Accumulator.Cause)) (j : Journal)
    (w : Worker) (all more : List (Batch × Accumulator.Cause)) : Prop :=
  match stop? with
  | none => all = ended ++ more
  | some stop => ended <+: all ∧ Leaves ended j w stop

theorem Reaches.of_stop {stop? : Option Stop} {ended : List (Batch × Accumulator.Cause)}
    {j : Journal} {w : Worker} (more : List (Batch × Accumulator.Cause))
    (h : ∀ stop, stop? = some stop → Leaves ended j w stop) :
    Reaches stop? ended j w (ended ++ more) more := by
  cases stop? with
  | none => rfl
  | some stop => exact ⟨List.prefix_append _ _, h stop rfl⟩

theorem Reaches.behind {stop? : Option Stop}
    {ended ended' all more more' : List (Batch × Accumulator.Cause)} {j k : Journal} {w : Worker}
    (h : all = ended ++ more) (h' : Reaches stop? ended' k w more more') :
    Reaches stop? (ended ++ ended') (j ++ k) w all more' := by
  subst h
  cases stop? with
  | none => exact (congrArg (ended ++ ·) h').trans (List.append_assoc ..).symm
  | some stop => exact ⟨(List.prefix_append_right_inj ended).mpr h'.1, h'.2.mono ended j⟩

section Records

variable {config : Config} {transformer : Transformer} {store : Store σ}

/-- What records make of an open batch: the batches that they are put into, and why these are
sealed. -/
def sealed (config : Config) (transformer : Transformer) (w : Worker) (records : List Value) :
    List (Batch × Accumulator.Cause) :=
  w.accumulator.sealings (admitted config.onRecordError transformer records)

/-- **One record.** -/
theorem take_stretch (config : Config) (store : Store σ) (w : Worker) (index : Nat)
    {record : Value} (s : Session σ) (hd : ∀ h, transformer.transform record ≠ .error (.halted h))
    (rest : List Value) :
    ∃ ended j, Stretch config.retry store w s.state ended j
        (take config transformer store w index record s).2.1
        (take config transformer store w index record s).2.2.state ∧
      Reaches (take config transformer store w index record s).1 ended j
        (take config transformer store w index record s).2.1
        (sealed config transformer w (record :: rest))
        (sealed config transformer (take config transformer store w index record s).2.1 rest) := by
  have haccepts := Worker.accept_accepts config transformer w index record s
  have hstate := Worker.accept_state config transformer w index record s
  unfold take
  generalize w.accept config transformer index record s = out at haccepts hstate
  obtain ⟨taken, w₀, s₀⟩ := out
  dsimp only at haccepts hstate ⊢
  rw [← hstate]
  cases haccepts with
  | halted h _ ho ha hr => exact absurd ho (hd h)
  | sealed o _ ho ha hr =>
    obtain ⟨j, hstretch, hacc, hstop⟩ :=
      commit?_stretch config store (seals_of_sealed ha hr) s₀
    refine ⟨_, j, hstretch, ?_⟩
    unfold sealed
    rw [admitted_ok ho, hacc, ha]
    exact .of_stop _ hstop
  | refused r _ ho ha hr =>
    obtain ⟨j, hstretch, hacc, -⟩ :=
      commit?_stretch config store (seals_of_refused ha hr) s₀
    cases hrule : config.onRecordError with
    | skip =>
      refine ⟨_, j, hstretch, ?_⟩
      unfold sealed
      rw [hrule, admitted_skip ho]
      exact congrArg (fun a : Accumulator => a.sealings _) ha.symm
    | fail =>
      obtain ⟨k, hstretch', hacc', hstop⟩ :=
        commit?_stretch config store (flush_seals w₀) s₀
      have hall : sealed config transformer w (record :: rest) =
          w₀.flush.1.toList.map fun b => (b, .rest) := by
        unfold sealed
        rw [hrule, admitted_fail ho, ← ha]
        rfl
      rw [hall]
      dsimp only
      split
      · next w₁ s₁ hcommit =>
        rw [hcommit] at hstretch' hacc'
        refine ⟨_, _, hstretch.trans hstretch', List.prefix_refl _, ?_⟩
        change w₁.accumulator.open_ = []
        rw [hacc', Worker.flush_accumulator, Accumulator.flush_open]
      · next stop w₁ s₁ hcommit =>
        rw [hcommit] at hstretch' hstop
        exact ⟨_, _, hstretch.trans hstretch', List.prefix_refl _, (hstop stop rfl).mono _ _⟩

/-- **All records**, by induction on them. -/
theorem takeAll_stretch (config : Config) (store : Store σ) :
    ∀ (records : List Value) (w : Worker) (index : Nat) (s : Session σ),
    transformer.Decides records →
    ∃ ended j, Stretch config.retry store w s.state ended j
        (takeAll config transformer store index records w s).2.1
        (takeAll config transformer store index records w s).2.2.state ∧
      Reaches (takeAll config transformer store index records w s).1 ended j
        (takeAll config transformer store index records w s).2.1
        (sealed config transformer w records)
        (sealed config transformer (takeAll config transformer store index records w s).2.1 [])
  | [], w, index, s, _ => ⟨[], [], .refl w s.state, rfl⟩
  | record :: rest, w, index, s, hd => by
    obtain ⟨ended, j, hstretch, hreach⟩ :=
      take_stretch config store w index s
        (hd record List.mem_cons_self) rest
    unfold takeAll
    split
    · next w₁ s₁ htake =>
      rw [htake] at hstretch hreach
      obtain ⟨ended', k, hstretch', hreach'⟩ := takeAll_stretch config store rest w₁ (index + 1) s₁
        fun r hr => hd r (List.mem_cons_of_mem _ hr)
      exact ⟨_, _, hstretch.trans hstretch', hreach'.behind hreach⟩
    · next stop w₁ s₁ htake =>
      rw [htake] at hstretch hreach
      exact ⟨ended, j, hstretch, hreach⟩

/-! ## 4. Whole runs -/

theorem drain_stretch (config : Config) (store : Store σ) {source : Source} (w : Worker)
    (s : Session σ) (hd : transformer.Decides source.records) (hf : source.failure? = none) :
    ∃ ended j, Stretch config.retry store w s.state ended j
        (drain config transformer store source w s).2.1
        (drain config transformer store source w s).2.2.state ∧
      Reaches (drain config transformer store source w s).1 ended j
        (drain config transformer store source w s).2.1
        (sealed config transformer w source.records) [] ∧
      ((drain config transformer store source w s).1 = none →
        (drain config transformer store source w s).2.1.accumulator.open_ = []) := by
  obtain ⟨ended, j, hstretch, hreach⟩ :=
    takeAll_stretch config store source.records w 0 s hd
  unfold drain
  split
  · next stop w₁ s₁ htake =>
    rw [htake] at hstretch hreach
    exact ⟨ended, j, hstretch, hreach, fun h => (by cases h)⟩
  · next w₁ s₁ htake =>
    rw [htake] at hstretch hreach
    rw [hf]
    obtain ⟨k, hstretch', hacc, hstop⟩ :=
      commit?_stretch config store (flush_seals w₁) s₁
    have hlast := Reaches.of_stop [] hstop
    rw [List.append_nil] at hlast
    refine ⟨_, _, hstretch.trans hstretch', hlast.behind hreach, fun _ => ?_⟩
    dsimp only
    rw [hacc, Worker.flush_accumulator, Accumulator.flush_open]

/-- The batches that records are put into, and why they are sealed. -/
def planned (config : Config) (transformer : Transformer) (records : List Value) :
    List (Batch × Accumulator.Cause) :=
  Accumulator.sealings { bounds := config.bounds, name := "batch" }
    (admitted config.onRecordError transformer records)

end Records

end Sequential

/-- **A whole run**: its account is that of a journal, of batches that were planned. -/
theorem Sink.write_stretch {σ : Type} {store : Store σ} {sink sink' : Sink σ} {source : Source}
    {stop? : Option Stop} {r : SinkResult} (hd : sink.transformer.Decides source.records)
    (hf : source.failure? = none) (h : sink.write store source = (stop?, r, sink')) :
    ∃ ended j w, Commits sink.config.retry store sink.session.state j sink'.session.state ∧
      j.batches = ended.map (·.1) ∧
      r.committed = j.committed ∧ r.failed = j.failed ∧ r.written = Batch.total j.applied ∧
      r.received = r.rejected.length + w.accumulator.open_.length + Batch.total j.batches ∧
      Sequential.Reaches stop? ended j w
        (Sequential.planned sink.config sink.transformer source.records) [] ∧
      (stop? = none → w.accumulator.open_ = []) := by
  have hdrain := Sequential.drain_stretch sink.config store
    (Worker.start sink.config "batch" sink.session.clock) sink.session hd hf
  unfold write at h
  dsimp only at h
  generalize Sequential.drain sink.config sink.transformer store source
    (Worker.start sink.config "batch" sink.session.clock) sink.session = out at h hdrain
  obtain ⟨stop₀?, w, s⟩ := out
  obtain ⟨ended, j, hstretch, hreach, hopen⟩ := hdrain
  dsimp only at h hstretch hreach hopen
  -- what is dropped at the end changes neither the account nor the store
  have hresult : (if stop₀?.isSome = true then w.discard sink.config s else (w, s)).1.result =
      w.result := by
    split <;> rfl
  have hstate : (if stop₀?.isSome = true then w.discard sink.config s else (w, s)).2.state =
      s.state := by
    split
    · exact Worker.discard_state _ _ _
    · rfl
  generalize (if stop₀?.isSome = true then w.discard sink.config s else (w, s)) = last
    at h hresult hstate
  cases h
  refine ⟨ended, j, w, ?_, hstretch.batches, ?_, ?_, ?_, ?_, hreach, hopen⟩
  · dsimp only
    rw [hstate]
    exact hstretch.commits
  · exact (congrArg _ hresult).trans hstretch.committed
  · exact (congrArg _ hresult).trans hstretch.failed
  · exact (congrArg _ hresult).trans (hstretch.written.trans (Nat.zero_add _))
  · dsimp only
    rw [hresult]
    exact hstretch.balance.trans (Nat.zero_add _)

end Sluice
