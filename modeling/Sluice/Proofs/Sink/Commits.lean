import Sluice.Proofs.Sink.Account
import Sluice.Proofs.Store.Atomic
import Sluice.Proofs.Store.Watched

/-!
# Commits one after the other

A run in sequence makes commits one after the other. `Commits` are those of a journal, from one
state of the store to another; whatever is known of one commit is known of all of them together:

* `Commits.isSound`, `Commits.isClear`: what the verdicts say of their batches;
* `Commits.applied`: **the committed batches have been applied in order, the others not at all**;
* `Commits.groups`: every batch has been submitted as often as its verdict says, and nothing else.
-/

namespace Sluice

/-- Applies batches whole, one after the other. -/
def Memory.applyBatches (tables : List (Text × Table)) (bs : List Batch) :
    Except Failure (List (Text × Table)) :=
  bs.foldlM (fun tables b => applyAll tables 0 b.operations) tables

theorem Memory.applyBatches_append (tables : List (Text × Table)) (bs cs : List Batch) :
    applyBatches tables (bs ++ cs) =
      (applyBatches tables bs).bind fun tables => applyBatches tables cs :=
  List.foldlM_append

theorem Memory.applyBatches_singleton (tables : List (Text × Table)) (b : Batch) :
    applyBatches tables [b] = applyAll tables 0 b.operations := by
  unfold applyBatches
  rw [List.foldlM_cons]
  exact bind_pure _

/-- The groups of operations that the commits of a journal submit: each batch as often as it was
attempted. -/
def Journal.groups (j : Journal) : List (List Operation) :=
  j.flatMap fun e => List.replicate e.2.attempts e.1.operations

theorem Journal.groups_append (j k : Journal) :
    groups (j ++ k) = groups j ++ groups k := List.flatMap_append

/-- How often a batch was attempted can be read off its result. -/
theorem Journal.groups_eq {j : Journal} {r : SinkResult} (h : j.IsSound) (hc : j.IsClear)
    (hn : (j.batches.map (·.id)).Nodup) (hcommitted : r.committed = j.committed)
    (hfailed : r.failed = j.failed) :
    j.groups = j.batches.flatMap fun b => List.replicate (r.attemptsOf b) b.operations := by
  unfold groups batches
  rw [List.flatMap_map]
  refine List.flatMap_congr fun e he => ?_
  rw [attempts_of_mem h hc hn hcommitted hfailed he]

/-! ## 1. One commit -/

section One

variable {σ : Type} {policy : RetryPolicy} {store : Store σ} {memory : σ → Memory}

/-- **A commit applies its batch whole and once, or leaves no trace.** -/
theorem Commit.run_guarded (hg : store.Guards memory) (batch : Batch) (s : Session σ) :
    Memory.applyBatches (memory s.state).tables
        (Journal.applied [(batch, (run policy store batch s).1)]) =
      .ok (memory (run policy store batch s).2.state).tables := by
  refine run_rule
    (I := fun c st => c.batch = batch ∧ (memory st).tables = (memory s.state).tables)
    (Q := fun v st => Memory.applyBatches (memory s.state).tables (Journal.applied [(batch, v)]) =
      .ok (memory st).tables) ?_ ?_ s ⟨rfl, rfl⟩
  · rintro c st c' delay ⟨hbatch, hsame⟩ h
    obtain ⟨⟨f, hf⟩, hbatch', -⟩ := h.again_inv
    exact ⟨hbatch'.trans hbatch, (hg.unchanged hf).trans hsame⟩
  · rintro c st v ⟨rfl, hsame⟩ h
    rw [← hsame]
    have hcommitted := h.committed_iff
    cases v with
    | committed r =>
      have happlied := hg.applied (hcommitted.mp rfl)
      change Memory.applyBatches _ [c.batch] = _
      rw [Memory.applyBatches_singleton]
      exact happlied
    | failed e r =>
      exact congrArg Except.ok (hg.untouched fun h => Bool.false_ne_true (hcommitted.mpr h)).symm
    | broken f =>
      exact congrArg Except.ok (hg.untouched fun h => Bool.false_ne_true (hcommitted.mpr h)).symm

end One

/-! ## 2. Several commits -/

/-- The commits of a journal, made one after the other from a state of the store on. -/
inductive Commits {σ : Type} (policy : RetryPolicy) (store : Store σ) (st : σ) :
    Journal → σ → Prop where
  | none : Commits policy store st [] st
  | snoc {j : Journal} {s : Session σ} (batch : Batch) (h : Commits policy store st j s.state) :
      Commits policy store st (j ++ [(batch, (Commit.run policy store batch s).1)])
        (Commit.run policy store batch s).2.state

namespace Commits

variable {σ : Type} {policy : RetryPolicy} {store : Store σ} {st st' st'' : σ} {j k : Journal}

theorem trans (h : Commits policy store st j st') (h' : Commits policy store st' k st'') :
    Commits policy store st (j ++ k) st'' := by
  induction h' with
  | none => rw [List.append_nil]; exact h
  | snoc batch _ ih => rw [← List.append_assoc]; exact .snoc batch ih

theorem isSound (h : Commits policy store st j st') : j.IsSound := by
  induction h with
  | none => exact fun e he => absurd he List.not_mem_nil
  | snoc batch _ ih => exact ih.append (Journal.isSound_singleton (Commit.run_about batch _))

theorem isClear (hp : policy.IsComputable) (h : Commits policy store st j st') : j.IsClear := by
  induction h with
  | none => exact fun e he => absurd he List.not_mem_nil
  | snoc batch _ ih => exact ih.append (Journal.isClear_singleton (Commit.run_isClear hp batch _))

theorem applied {memory : σ → Memory} (hg : store.Guards memory)
    (h : Commits policy store st j st') :
    Memory.applyBatches (memory st).tables j.applied = .ok (memory st').tables := by
  induction h with
  | none => rfl
  | snoc batch _ ih =>
    rw [Journal.applied_append, Memory.applyBatches_append, ih]
    exact Commit.run_guarded hg batch _

theorem groups {st st' : Watched σ} (h : Commits policy store.watched st j st') (hc : j.IsClear) :
    st'.groups = st.groups ++ j.groups := by
  induction h with
  | none => exact (List.append_nil _).symm
  | @snoc j s batch _ ih =>
    have hrun := Commit.run_seen batch s
      (hc (batch, _) (List.mem_append.mpr (.inr List.mem_cons_self)))
    rw [hrun, ih fun e he => hc e (List.mem_append.mpr (.inl he)), Journal.groups_append,
      List.append_assoc]
    simp [Journal.groups]

end Commits

end Sluice
