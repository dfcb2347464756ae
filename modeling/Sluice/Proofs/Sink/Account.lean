import Sluice.Proofs.Commit.Verdict
import Sluice.Sink
import Sluice.Store.Scripted
import Mathlib.Algebra.Order.Ring.Nat
import Mathlib.Data.List.Basic

/-!
# The account of a worker

A worker keeps account of the commits of its batches. What it has to take account of is a `Journal`:
the batches whose commits have ended, in order, with how they ended. This file says what each of a
worker's functions does to its account, once and for all:

* `accept_accepts`: a record is taken in one of three ways (`Accepts`);
* `settle_booked`: a commit that has ended is booked under its own batch (`Booked`), and
  `settle_stop` says when it stops the run;
* `batches_perm`: **a commit that was not broken off is booked as committed or as failed**, and
  as one of them only;
* `allOf_results`, `attempts_of_mem`: what a result says of its batch can be read off by its id.
-/

namespace Sluice

/-- The number of operations in batches. -/
def Batch.total (bs : List Batch) : Nat := (bs.map (·.count)).sum

@[simp] theorem Batch.total_append (bs cs : List Batch) :
    Batch.total (bs ++ cs) = Batch.total bs + Batch.total cs := by
  simp [Batch.total]

theorem Batch.total_eq (bs : List Batch) : Batch.total bs = (bs.flatMap (·.operations)).length :=
  (List.length_flatMap ..).symm

theorem Batch.total_perm {bs cs : List Batch} (h : bs.Perm cs) : Batch.total bs = Batch.total cs :=
  (h.map _).sum_nat

/-! ## 1. Journals -/

/-- Batches whose commits have ended, in order, with how they ended. -/
abbrev Journal := List (Batch × Commit.Verdict)

namespace Journal

def batches (j : Journal) : List Batch := j.map (·.1)

/-- The results of one kind. -/
def results (pick : Commit.Verdict → Option CommitResult) (j : Journal) : List CommitResult :=
  j.filterMap fun e => pick e.2

/-- The batches with results of one kind. -/
def withResult (pick : Commit.Verdict → Option CommitResult) (j : Journal) : List Batch :=
  j.filterMap fun e => (pick e.2).map fun _ => e.1

/-- The results of the commits that are done. -/
abbrev committed (j : Journal) : List CommitResult := j.results Commit.Verdict.committed?

/-- The results of the commits that failed. -/
abbrev failed (j : Journal) : List CommitResult := j.results Commit.Verdict.failed?

/-- The batches that were committed. -/
abbrev applied (j : Journal) : List Batch := j.withResult Commit.Verdict.committed?

/-- The batches that failed. -/
abbrev refused (j : Journal) : List Batch := j.withResult Commit.Verdict.failed?

/-- Every verdict is about the batch that it stands with. -/
def IsSound (j : Journal) : Prop := ∀ e ∈ j, e.2.About e.1

/-- No commit was broken off. -/
def IsClear (j : Journal) : Prop := ∀ e ∈ j, e.2.IsClear

section Append

variable (j k : Journal)

@[simp] theorem batches_append : batches (j ++ k) = batches j ++ batches k := List.map_append

@[simp] theorem committed_append : committed (j ++ k) = committed j ++ committed k :=
  List.filterMap_append

@[simp] theorem failed_append : failed (j ++ k) = failed j ++ failed k := List.filterMap_append

@[simp] theorem applied_append : applied (j ++ k) = applied j ++ applied k := List.filterMap_append

end Append

variable {j k : Journal}

theorem IsSound.append (h : j.IsSound) (h' : k.IsSound) : IsSound (j ++ k) := fun e he =>
  (List.mem_append.mp he).elim (h e) (h' e)

theorem IsClear.append (h : j.IsClear) (h' : k.IsClear) : IsClear (j ++ k) := fun e he =>
  (List.mem_append.mp he).elim (h e) (h' e)

theorem isSound_singleton {b : Batch} {v : Commit.Verdict} (h : v.About b) :
    IsSound [(b, v)] := fun e he => by
  cases List.mem_singleton.mp he
  exact h

theorem isClear_singleton {b : Batch} {v : Commit.Verdict} (h : v.IsClear) :
    IsClear [(b, v)] := fun e he => by
  cases List.mem_singleton.mp he
  exact h

theorem isSound_cons {e : Batch × Commit.Verdict} (h : IsSound (e :: j)) :
    e.2.About e.1 ∧ j.IsSound :=
  ⟨h e List.mem_cons_self, fun e' he' => h e' (List.mem_cons_of_mem _ he')⟩

theorem isClear_cons {e : Batch × Commit.Verdict} (h : IsClear (e :: j)) :
    e.2.IsClear ∧ j.IsClear :=
  ⟨h e List.mem_cons_self, fun e' he' => h e' (List.mem_cons_of_mem _ he')⟩

/-- The results of the commits that are done bear the ids and the counts of their batches. -/
theorem committed_applied (h : j.IsSound) :
    j.committed.map (fun r => (r.batch, r.succeeded)) =
      j.applied.map fun b => (b.id, b.count) := by
  induction j with
  | nil => rfl
  | cons e rest ih =>
    obtain ⟨b, v⟩ := e
    obtain ⟨hv, hrest⟩ := isSound_cons h
    cases v with
    | committed r =>
      change (r.batch, r.succeeded) :: (committed rest).map _ =
        (b.id, b.count) :: (applied rest).map _
      rw [ih hrest, hv.1, hv.2]
    | failed e r => exact ih hrest
    | broken f => exact ih hrest

/-- **Every commit that was not broken off is done or has failed**, and not both. -/
theorem batches_perm (h : j.IsClear) : j.batches.Perm (j.applied ++ j.refused) := by
  induction j with
  | nil => exact .refl _
  | cons e rest ih =>
    obtain ⟨b, v⟩ := e
    obtain ⟨hv, hrest⟩ := isClear_cons h
    cases v with
    | committed r => exact (ih hrest).cons b
    | failed e r => exact ((ih hrest).cons b).trans List.perm_middle.symm
    | broken f => cases hv

/-- Results come in the order of the journal. -/
theorem withResult_sublist (pick : Commit.Verdict → Option CommitResult) (j : Journal) :
    (j.withResult pick).Sublist j.batches := by
  induction j with
  | nil => exact .slnil
  | cons e rest ih =>
    unfold withResult
    rw [List.filterMap_cons]
    split
    · exact ih.cons e.1
    · next b hb =>
      obtain ⟨r, -, rfl⟩ := Option.map_eq_some_iff.mp hb
      exact ih.cons_cons e.1

end Journal

/-! ## 2. Results and their batches -/

/-- Where keys differ, what has a key is found under it. -/
theorem find?_of_nodup {α β : Type} [DecidableEq β] {f : α → β} : ∀ {xs : List α} {x : α},
    (xs.map f).Nodup → x ∈ xs → xs.find? (fun y => f y = f x) = some x
  | y :: rest, x, hn, hx => by
    obtain ⟨hy, hrest⟩ := List.nodup_cons.mp hn
    rcases List.mem_cons.mp hx with rfl | hx
    · simp
    · have hne : ¬ f y = f x := fun e => hy (e ▸ List.mem_map_of_mem hx)
      rw [List.find?_cons_of_neg (by simpa using hne)]
      exact find?_of_nodup hrest hx

/-- The batches among several that results are about. -/
def Batch.allOf (bs : List Batch) (rs : List CommitResult) : List Batch :=
  rs.filterMap fun r => bs.find? fun b => b.id = r.batch

/-- The submissions that were made of a batch, as its result says. -/
def SinkResult.attemptsOf (r : SinkResult) (b : Batch) : Nat :=
  ((r.committed ++ r.failed).find? fun c => c.batch = b.id).elim 0 (·.attempts)

theorem Commit.Verdict.About.committed {v : Verdict} {b : Batch} (h : v.About b)
    {r : CommitResult} (hr : v.committed? = some r) : r.batch = b.id := by
  cases v <;> cases hr
  exact h.1

theorem Commit.Verdict.About.failed {v : Verdict} {b : Batch} (h : v.About b)
    {r : CommitResult} (hr : v.failed? = some r) : r.batch = b.id := by
  cases v <;> cases hr
  exact h.1

namespace Journal

variable {j : Journal} {bs : List Batch} {pick : Commit.Verdict → Option CommitResult}

theorem ids_results (h : j.IsSound)
    (hpick : ∀ {v b}, v.About b → ∀ {r}, pick v = some r → r.batch = b.id) :
    (j.results pick).map (·.batch) = (j.withResult pick).map (·.id) := by
  induction j with
  | nil => rfl
  | cons e rest ih =>
    obtain ⟨hv, hrest⟩ := isSound_cons h
    have ih := ih hrest
    unfold results withResult at ih ⊢
    rw [List.filterMap_cons, List.filterMap_cons]
    cases hr : pick e.2 with
    | none => exact ih
    | some r =>
      change r.batch :: List.map _ _ = e.1.id :: List.map _ _
      rw [hpick hv hr, ih]

theorem ids_committed (h : j.IsSound) : j.committed.map (·.batch) = j.applied.map (·.id) :=
  ids_results h Commit.Verdict.About.committed

theorem ids_failed (h : j.IsSound) : j.failed.map (·.batch) = j.refused.map (·.id) :=
  ids_results h Commit.Verdict.About.failed

/-- **Results lead to their batches**, among any in which ids differ. -/
theorem allOf_results (h : j.IsSound)
    (hpick : ∀ {v b}, v.About b → ∀ {r}, pick v = some r → r.batch = b.id)
    (hn : (bs.map (·.id)).Nodup) (hb : ∀ b ∈ j.batches, b ∈ bs) :
    Batch.allOf bs (j.results pick) = j.withResult pick := by
  have hall : Batch.allOf bs (j.results pick) =
      ((j.results pick).map (·.batch)).filterMap fun id => bs.find? fun b => b.id = id := by
    rw [List.filterMap_map]
    rfl
  rw [hall, ids_results h hpick, List.filterMap_map]
  refine (List.filterMap_congr fun b hmem => ?_).trans List.filterMap_some
  exact find?_of_nodup hn (hb b ((withResult_sublist pick j).subset hmem))

theorem allOf_committed (h : j.IsSound) (hn : (bs.map (·.id)).Nodup)
    (hb : ∀ b ∈ j.batches, b ∈ bs) : Batch.allOf bs j.committed = j.applied :=
  allOf_results h Commit.Verdict.About.committed hn hb

theorem allOf_failed (h : j.IsSound) (hn : (bs.map (·.id)).Nodup)
    (hb : ∀ b ∈ j.batches, b ∈ bs) : Batch.allOf bs j.failed = j.refused :=
  allOf_results h Commit.Verdict.About.failed hn hb

/-- The ids in an account are those of the batches whose commits have ended. -/
theorem ids_perm (h : j.IsSound) (hc : j.IsClear) :
    ((j.committed ++ j.failed).map (·.batch)).Perm (j.batches.map (·.id)) := by
  rw [List.map_append, ids_committed h, ids_failed h, ← List.map_append]
  exact ((batches_perm hc).map _).symm

theorem attempts_of_mem {r : SinkResult} (h : j.IsSound) (hc : j.IsClear)
    (hn : (j.batches.map (·.id)).Nodup) (hcommitted : r.committed = j.committed)
    (hfailed : r.failed = j.failed) {e : Batch × Commit.Verdict} (he : e ∈ j) :
    r.attemptsOf e.1 = e.2.attempts := by
  have hn' := (ids_perm h hc).nodup_iff.mpr hn
  obtain ⟨c, hmem, hbatch, hattempts⟩ : ∃ c ∈ j.committed ++ j.failed,
      c.batch = e.1.id ∧ c.attempts = e.2.attempts := by
    obtain ⟨b, v⟩ := e
    cases v with
    | committed c =>
      exact ⟨c, List.mem_append.mpr (.inl (List.mem_filterMap.mpr ⟨_, he, rfl⟩)), (h _ he).1, rfl⟩
    | failed _ c =>
      exact ⟨c, List.mem_append.mpr (.inr (List.mem_filterMap.mpr ⟨_, he, rfl⟩)), (h _ he).1, rfl⟩
    | broken f => exact absurd (hc _ he) id
  have hfind := find?_of_nodup hn' hmem
  rw [hbatch] at hfind
  unfold SinkResult.attemptsOf
  rw [hcommitted, hfailed, hfind]
  exact hattempts

end Journal

/-- Every batch whose commit has ended has one result. -/
theorem Journal.length_batches {j : Journal} (h : j.IsSound) (hc : j.IsClear) :
    j.batches.length = j.committed.length + j.failed.length := by
  have := (ids_perm h hc).length_eq
  rw [List.length_map, List.length_map, List.length_append] at this
  exact this.symm

/-! ## 3. Workers -/

namespace Worker

variable {σ : Type} {config : Config} {transformer : Transformer} {w w' w'' : Worker}

/-- **The ways in which a worker takes a record**: its operation is added to the open batch, or it
is counted as rejected, or it stops the run. -/
inductive Accepts (transformer : Transformer) (w : Worker) (index : Nat) (record : Value) :
    Taken → Worker → Prop where
  | sealed (o : Operation) (w' : Worker) (ho : transformer.transform record = .ok o)
      (ha : w'.accumulator = (w.accumulator.add o).2)
      (hr : w'.result = { w.result with received := w.result.received + 1 }) :
      Accepts transformer w index record (.sealed (w.accumulator.add o).1) w'
  | refused (r : Record.Rejection) (w' : Worker)
      (ho : transformer.transform record = .error (.rejected r))
      (ha : w'.accumulator = w.accumulator)
      (hr : w'.result = { w.result with
        received := w.result.received + 1, rejected := w.result.rejected ++ [(index, r)] }) :
      Accepts transformer w index record (.refused r) w'
  | halted (h : Record.Halt) (w' : Worker) (ho : transformer.transform record = .error (.halted h))
      (ha : w'.accumulator = w.accumulator)
      (hr : w'.result = { w.result with received := w.result.received + 1 }) :
      Accepts transformer w index record (.halted h) w'

/-- The batch that a record has sealed. -/
def Taken.batch? : Taken → Option Batch
  | .sealed batch? => batch?
  | _ => none

/-- What every record leaves behind. -/
theorem Accepts.result {index : Nat} {record : Value} {taken : Taken}
    (h : Accepts transformer w index record taken w') :
    w'.result = { w.result with
      received := w.result.received + 1, rejected := w'.result.rejected } := by
  cases h with
  | sealed o w' ho ha hr => rw [hr]
  | refused r w' ho ha hr => rw [hr]
  | halted h w' ho ha hr => rw [hr]

theorem accept_accepts (config : Config) (transformer : Transformer) (w : Worker) (index : Nat)
    (record : Value) (s : Session σ) :
    Accepts transformer w index record (w.accept config transformer index record s).1
      (w.accept config transformer index record s).2.1 := by
  unfold accept
  dsimp only
  split
  · next o ho => exact .sealed o _ ho rfl rfl
  · next h ho => exact .halted h _ ho rfl rfl
  · next r ho => exact .refused r _ ho rfl rfl

theorem accept_state (config : Config) (transformer : Transformer) (w : Worker) (index : Nat)
    (record : Value) (s : Session σ) :
    (w.accept config transformer index record s).2.2.state = s.state := by
  unfold accept
  dsimp only
  split <;> rfl

/-- **Commits are booked**: the account of a worker has grown by those of a journal, and is as it
was otherwise. -/
structure Booked (w : Worker) (j : Journal) (w' : Worker) : Prop where
  accumulator : w'.accumulator = w.accumulator
  received : w'.result.received = w.result.received
  rejected : w'.result.rejected = w.result.rejected
  committed : w'.result.committed = w.result.committed ++ j.committed
  failed : w'.result.failed = w.result.failed ++ j.failed
  written : w'.result.written = w.result.written + Batch.total j.applied

theorem Booked.refl (w : Worker) : Booked w [] w :=
  ⟨rfl, rfl, rfl, (List.append_nil _).symm, (List.append_nil _).symm, rfl⟩

theorem settle_booked (config : Config) (w : Worker) {batch : Batch} {v : Commit.Verdict}
    (hv : v.About batch) (seconds : Binary64) (s : Session σ) :
    Booked w [(batch, v)] (w.settle config batch v seconds s).2.1 := by
  cases v with
  | committed r =>
    refine ⟨rfl, rfl, rfl, rfl, (List.append_nil _).symm, ?_⟩
    change w.result.written + r.succeeded = w.result.written + (batch.count + 0)
    rw [hv.2]
    rfl
  | failed e r => exact ⟨rfl, rfl, rfl, (List.append_nil _).symm, rfl, rfl⟩
  | broken f =>
    exact ⟨rfl, rfl, rfl, (List.append_nil _).symm, (List.append_nil _).symm, rfl⟩

theorem settle_state (config : Config) (w : Worker) (batch : Batch) (v : Commit.Verdict)
    (seconds : Binary64) (s : Session σ) :
    (w.settle config batch v seconds s).2.2.state = s.state := by
  cases v <;> rfl

/-- A commit stops the run when it failed and failures are to stop it, or was broken off. -/
theorem settle_stop {batch : Batch} {v : Commit.Verdict} {seconds : Binary64} {s : Session σ}
    {stop : Stop} (h : (w.settle config batch v seconds s).1 = some stop) :
    (∃ e, stop = .batch batch.id e) ∨ ∃ f, v = .broken f ∧ stop = .outside f := by
  cases v with
  | committed r => cases h
  | failed e r =>
    left
    simp only [settle] at h
    split at h
    · cases h; exact ⟨e, rfl⟩
    · cases h
  | broken f => cases h; exact .inr ⟨f, rfl, rfl⟩

theorem discard_state (config : Config) (w : Worker) (s : Session σ) :
    (w.discard config s).2.state = s.state := by
  unfold discard
  dsimp only
  split <;> rfl

theorem flush_result (w : Worker) : w.flush.2.result = w.result := rfl

theorem flush_accumulator (w : Worker) : w.flush.2.accumulator = w.accumulator.flush.2 := rfl

theorem flush_batch (w : Worker) : w.flush.1 = w.accumulator.flush.1 := rfl

end Worker

/-! ## 4. A sink of numbers -/

namespace Sample

/-- A sink for records that hold a number each. -/
def config (bounds : Bounds) (onBatchFailure : BatchRule) : Config where
  name := "numbers"
  table := "numbers"
  keyColumns := ["id"]
  verb := .insertOrUpdate
  schema := ⟨[.ofScalar "id" false .int64]⟩
  bounds := bounds
  retry := ⟨1, .zero, .ofInt 1, .zero, none⟩
  store := ⟨"memory", none, none, none, true⟩
  workers := 1
  onRecordError := .skip
  onBatchFailure := onBatchFailure

def transformer : Transformer :=
  ⟨"numbers", ⟨[.ofScalar "id" false .int64]⟩, ["id"], .insertOrUpdate⟩

def record (n : Int) : Value := .ofPairs [("id", .int n)]

def sink {σ : Type} (bounds : Bounds) (onBatchFailure : BatchRule) (state : σ) : Sink σ where
  config := config bounds onBatchFailure
  transformer := transformer
  session := { state, clock := .zero }
  metrics := { sink := "numbers", start := .zero }

/-- A store whose first submissions fail for good. -/
def store (failing : Nat) : Scripted where
  memory := { tables := [("numbers", [])] }
  failures := List.replicate failing (some { kind := .storeRejected, message := "no" })

end Sample

end Sluice
