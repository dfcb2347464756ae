import Sluice.Proofs.Commit.Course
import Sluice.Proofs.Store.Repeated

/-!
# Answers that are lost

Between a commit and a store in memory a group may get lost on its way there, or its answer on the
way back. Both look the same to the commit, which submits the group again. It does no harm to apply
a group of one kind again (`Memory.applyAll_twice`), so:

* `run_acknowledged`: **the tables are as before, or as after one application**, however often the
  group was applied, **and as after one application when the commit ends committed**.
-/

namespace Sluice

variable {σ : Type}

/-! ## 1. Stores that lose answers -/

/-- **A store that loses answers**: a group reaches the memory behind it and is answered as there, or
it fails for the time being, and has then not been applied at all or in full. -/
structure Store.LosesAnswers (store : Store σ) (memory : σ → Memory) : Prop where
  submit : ∀ (st : σ) (os : List Operation) (timeout? : Option Binary64),
    ((store.submit st os timeout?).outcome = ((memory st).submit os).1 ∧
      (memory (store.submit st os timeout?).state).tables = ((memory st).submit os).2.tables) ∨
    (Commit.IsPassing (store.submit st os timeout?).outcome ∧
      ((memory (store.submit st os timeout?).state).tables = (memory st).tables ∨
        ((memory st).submit os).1 = .ok () ∧
          (memory (store.submit st os timeout?).state).tables = ((memory st).submit os).2.tables))

section LosesAnswers

variable {store : Store σ} {memory : σ → Memory} {st : σ} {os : List Operation}
  {timeout? : Option Binary64}

/-- A submission has done nothing, or has applied its group. -/
theorem Store.LosesAnswers.unchanged_or (h : store.LosesAnswers memory) (st : σ)
    (os : List Operation) (timeout? : Option Binary64) :
    (memory (store.submit st os timeout?).state).tables = (memory st).tables ∨
      Memory.applyAll (memory st).tables 0 os =
        .ok (memory (store.submit st os timeout?).state).tables := by
  rcases h.submit st os timeout? with ⟨-, htables⟩ | ⟨-, hsame | ⟨hok, htables⟩⟩
  · rw [htables]
    cases hout : ((memory st).submit os).1 with
    | error f => exact .inl (Memory.submit_error hout)
    | ok u => exact .inr (Memory.submit_ok hout)
  · exact .inl hsame
  · rw [htables]
    exact .inr (Memory.submit_ok hok)

/-- A submission that is acknowledged has applied its group. -/
theorem Store.LosesAnswers.applied (h : store.LosesAnswers memory)
    (hok : (store.submit st os timeout?).outcome = .ok ()) :
    Memory.applyAll (memory st).tables 0 os =
      .ok (memory (store.submit st os timeout?).state).tables := by
  rcases h.submit st os timeout? with ⟨hout, htables⟩ | ⟨hpassing, -⟩
  · rw [htables]
    exact Memory.submit_ok (hout.symm.trans hok)
  · rw [hok] at hpassing
    exact absurd hpassing id

end LosesAnswers

/-- What happens to a submission on its way. -/
inductive Mishap where
  | unsent
  | unheard
  deriving DecidableEq, Repr

/-- A memory at the other end of a connection, with what will happen to the submissions to come. -/
structure Remote where
  memory : Memory := {}
  mishaps : List (Option Mishap) := []

namespace Remote

/-- The failure of a submission to which no answer came. -/
def lost : Failure := { kind := .storeTransient, message := "Connection lost" }

/-- The memory at the other end as a store: a group that is not sent does not reach it, and an
answer that is not heard is one that the group has been applied. -/
def store : Store Remote where
  prepare r table schema keys :=
    let reply := Memory.store.prepare r.memory table schema keys
    { outcome := reply.outcome, state := { r with memory := reply.state } }
  submit r os _ :=
    let (outcome, memory) := r.memory.submit os
    match r.mishaps.head?.join, outcome with
    | some .unsent, _ => { outcome := .error lost, state := ⟨r.memory, r.mishaps.tail⟩ }
    | some .unheard, .ok _ => { outcome := .error lost, state := ⟨memory, r.mishaps.tail⟩ }
    | _, outcome => { outcome, state := ⟨memory, r.mishaps.tail⟩ }
  close r := r

theorem store_losesAnswers : store.LosesAnswers memory where
  submit r os timeout? := by
    unfold store
    dsimp only
    split
    · exact .inr ⟨rfl, .inl rfl⟩
    · next hout => exact .inr ⟨rfl, .inr ⟨hout, rfl⟩⟩
    · exact .inl ⟨rfl, rfl⟩

end Remote

/-! ## 2. Commits -/

namespace Commit

/-- **It is safe to submit a group of one kind again.** A commit that ends committed leaves the
tables as one application of its batch makes them, even when answers were lost; and however it ends,
the tables are as they were or as after one application. All that is asked of keys is that what
they are written under they are found under again, as all are whose numbers are defined
(`Operation.isSteady_of_defined`); a group with a key that cannot be used is never applied. -/
theorem run_acknowledged {store : Store σ} {memory : σ → Memory} (h : store.LosesAnswers memory)
    (policy : RetryPolicy) (batch : Batch) {verb : Verb}
    (hverb : ∀ o ∈ batch.operations, o.verb = verb)
    (hsteady : ∀ o ∈ batch.operations, Value.unusableKey? o.key = none → o.IsSteady)
    (s : Session σ) :
    let before := (memory s.state).tables
    let out := run policy store batch s
    let tables := (memory out.2.state).tables
    (out.1.committed?.isSome = true → Memory.applyAll before 0 batch.operations = .ok tables) ∧
    (tables = before ∨ Memory.applyAll before 0 batch.operations = .ok tables) := by
  intro before out tables
  let Once (ts : List (Text × Table)) : Prop :=
    Memory.applyAll before 0 batch.operations = .ok ts
  have hagain : ∀ {ts ts' : List (Text × Table)}, ts = before ∨ Once ts →
      Memory.applyAll ts 0 batch.operations = .ok ts' → Once ts' := by
    rintro ts ts' (rfl | honce) happly
    · exact happly
    · rw [Memory.applyAll_twice hverb hsteady honce happly]
      exact honce
  have hstep : ∀ {st : σ} {timeout? : Option Binary64},
      (memory st).tables = before ∨ Once (memory st).tables →
      (memory (store.submit st batch.operations timeout?).state).tables = before ∨
        Once (memory (store.submit st batch.operations timeout?).state).tables := by
    intro st timeout? hI
    rcases h.unchanged_or st batch.operations timeout? with hsame | happly
    · rw [hsame]
      exact hI
    · exact .inr (hagain hI happly)
  refine run_rule
    (I := fun c st => c.batch = batch ∧ ((memory st).tables = before ∨ Once (memory st).tables))
    (Q := fun v st => (v.committed?.isSome = true → Once (memory st).tables) ∧
      ((memory st).tables = before ∨ Once (memory st).tables)) ?again ?last s ⟨rfl, .inl rfl⟩
  case again =>
    rintro c st c' delay ⟨rfl, hI⟩ hsteps
    exact ⟨hsteps.again_inv.2.1, hstep hI⟩
  case last =>
    rintro c st v ⟨rfl, hI⟩ hsteps
    exact ⟨fun hv => hagain hI (h.applied (hsteps.committed_iff.mp hv)), hstep hI⟩

/-- A row that is written twice in one batch, of which one submission is not sent and one answer is
not heard: the third submission is acknowledged, and the row is there once. -/
theorem run_acknowledged_upsert :
    let write (n : Int) : Operation := ⟨"t", .insertOrUpdate, [("id", .int 1), ("n", .int n)], ["id"]⟩
    let remote : Remote := ⟨{ tables := [("t", [])] }, [some .unsent, some .unheard]⟩
    let policy : RetryPolicy := ⟨2, .ofInt 1, .ofInt 2, .ofInt 30, none⟩
    let out := run policy Remote.store ⟨"batch-1", [write 1, write 2]⟩ ⟨remote, .zero, [], []⟩
    out.1.committed?.isSome = true ∧ out.2.state.memory.submissions = 2 ∧
      out.2.state.memory.tables.map (fun e => e.2.length) = [1] ∧
      Memory.applyAll remote.memory.tables 0 [write 1, write 2] =
        .ok out.2.state.memory.tables := by
  intro write remote policy out
  have hout : run policy Remote.store ⟨"batch-1", [write 1, write 2]⟩ ⟨remote, .zero, [], []⟩ =
    out := rfl
  have hcommitted : out.1.committed?.isSome = true := by decide +kernel
  have h := run_acknowledged Remote.store_losesAnswers policy ⟨"batch-1", [write 1, write 2]⟩
    (by decide : ∀ o ∈ [write 1, write 2], o.verb = .insertOrUpdate) (by decide +kernel)
    ⟨remote, .zero, [], []⟩
  rw [hout] at h
  exact ⟨hcommitted, by decide +kernel, by decide +kernel, h.1 hcommitted⟩

end Commit

end Sluice
