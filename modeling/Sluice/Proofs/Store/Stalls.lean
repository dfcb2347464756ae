import Sluice.Proofs.Commit.Course
import Sluice.Proofs.Store.Table

/-!
# Stores that only hold up

A store may refuse a submission for a reason that passes: then it has done nothing, and the same
submission may be made again. If that is all that stands between a commit and a memory, a batch that
can be applied is committed, as long as the store does not hold it up more often than the policy
allows.

* `Store.Stalls`: a store around a memory whose own failures all pass; `Memory.store`,
  `Scripted.store` with a script of such failures, and watched stores are such stores;
* `Spared`: no more passing failures in a row than there are retries;
* `Commit.run_spared`: **what can be applied is committed**, by a commit that is spared.
-/

namespace Sluice

variable {σ : Type} {store : Store σ} {memory : σ → Memory} {I : σ → Prop}

/-! ## 1. Stores -/

/-- **A store that only holds up a memory**: as long as `I` holds of its state, a submission is
answered as the memory answers it, or with a passing failure; and `I` goes on to hold. -/
structure Store.Stalls (store : Store σ) (memory : σ → Memory) (I : σ → Prop) : Prop where
  guards : store.Guards memory
  keeps : ∀ (st : σ) (os : List Operation) (timeout? : Option Binary64), I st →
    I (store.submit st os timeout?).state
  answers : ∀ (st : σ) (os : List Operation) (timeout? : Option Binary64), I st →
    (store.submit st os timeout?).outcome = ((memory st).submit os).1 ∨
      Commit.IsPassing (store.submit st os timeout?).outcome

/-- What can be applied is applied or held up. -/
theorem Store.Stalls.outcome (h : store.Stalls memory I) {st : σ} (hI : I st)
    {os : List Operation} {timeout? : Option Binary64} {tables : List (Text × Table)}
    (happlies : Memory.applyAll (memory st).tables 0 os = .ok tables) :
    (store.submit st os timeout?).outcome = .ok () ∨
      Commit.IsPassing (store.submit st os timeout?).outcome := by
  rcases h.answers st os timeout? hI with hout | hpassing
  · rw [Memory.submit_eq, happlies] at hout
    exact .inl hout
  · exact .inr hpassing

/-- Watching changes nothing. -/
theorem Store.Stalls.watched (h : store.Stalls memory I) :
    store.watched.Stalls (fun w => memory w.state) (fun w => I w.state) where
  guards := ⟨fun w os timeout? => h.guards.submit w.state os timeout?⟩
  keeps w os timeout? := h.keeps w.state os timeout?
  answers w os timeout? := h.answers w.state os timeout?

theorem Memory.store_stalls : Memory.store.Stalls id fun _ => True where
  guards := Memory.store_guards
  keeps _ _ _ _ := trivial
  answers m os timeout? _ := by
    left
    simp only [Memory.store, id]
    split <;> rfl

namespace Scripted

/-- Every failure of a script passes. -/
structure IsPassing (s : Scripted) : Prop where
  failures : ∀ f, some f ∈ s.failures → f.kind.isTransient = true
  byKey : ∀ e ∈ s.byKey, ∀ f, some f ∈ e.2 → f.kind.isTransient = true
  always : ∀ e ∈ s.always, e.2.kind.isTransient = true

/-- Failures for keys that are used up leave passing ones. -/
theorem takeByKey_passing (os : List Operation) :
    ∀ {byKey : List (Value × List (Option Failure))},
    (∀ e ∈ byKey, ∀ f, some f ∈ e.2 → f.kind.isTransient = true) →
    (∀ f, (takeByKey os byKey).1 = some f → f.kind.isTransient = true) ∧
      ∀ e ∈ (takeByKey os byKey).2, ∀ f, some f ∈ e.2 → f.kind.isTransient = true
  | [], _ => ⟨fun _ h => (by cases h), fun _ he => absurd he List.not_mem_nil⟩
  | (key, failures) :: rest, h => by
    have hfirst := h (key, failures) List.mem_cons_self
    have ih := takeByKey_passing os fun e he => h e (List.mem_cons_of_mem _ he)
    -- what is left of the first key's failures was there before
    have hcons : ∀ more : List (Option Failure), more ⊆ failures →
        ∀ e ∈ (key, more) :: (takeByKey os rest).2, ∀ f, some f ∈ e.2 →
          f.kind.isTransient = true := by
      intro more hsub e he f hf
      rcases List.mem_cons.mp he with rfl | he
      · exact hfirst f (hsub hf)
      · exact ih.2 e he f hf
    unfold takeByKey
    split
    · next f more =>
      split
      · refine ⟨fun g hg => ?_, fun e he g hg => ?_⟩
        · cases hg
          exact hfirst _ List.mem_cons_self
        · rcases List.mem_cons.mp he with rfl | he
          · exact hfirst g (List.mem_cons_of_mem _ hg)
          · exact h e (List.mem_cons_of_mem _ he) g hg
      · exact ⟨ih.1, hcons _ (List.Subset.refl _)⟩
    · next more =>
      refine ⟨ih.1, hcons _ ?_⟩
      split
      · exact List.subset_cons_self _ _
      · exact List.Subset.refl _
    · exact ⟨ih.1, hcons _ (List.Subset.refl _)⟩

theorem nextFailure_passing {s : Scripted} (h : s.IsPassing) (os : List Operation) :
    (∀ f, (s.nextFailure os).1 = some f → f.kind.isTransient = true) ∧
      (s.nextFailure os).2.IsPassing := by
  unfold nextFailure
  split
  · next f hfind =>
    obtain ⟨e, he, rfl⟩ := Option.map_eq_some_iff.mp hfind
    refine ⟨fun g hg => ?_, h⟩
    cases hg
    exact h.always e (List.mem_of_find?_eq_some he)
  · split
    · next f rest hfailures =>
      have hall := h.failures
      rw [hfailures] at hall
      refine ⟨fun g hg => ?_, fun g hg => hall g (List.mem_cons_of_mem _ hg), h.byKey, h.always⟩
      cases hg
      exact hall _ List.mem_cons_self
    · next failures hfailures =>
      obtain ⟨hnext, hbyKey⟩ := takeByKey_passing os h.byKey
      exact ⟨hnext, fun g hg => h.failures g (List.mem_of_mem_tail hg), hbyKey, h.always⟩

theorem store_stalls : Scripted.store.Stalls Scripted.memory IsPassing where
  guards := store_guards
  keeps s os timeout? h := by
    have hnext := nextFailure_passing
      (s := { s with submits := s.submits ++ [(os.length, timeout?)] }) ⟨h.1, h.2, h.3⟩ os
    simp only [Scripted.store, Scripted.submit]
    split
    · next f s' hf =>
      rw [hf] at hnext
      exact hnext.2
    · next s' hf =>
      rw [hf] at hnext
      exact ⟨hnext.2.failures, hnext.2.byKey, hnext.2.always⟩
  answers s os timeout? h := by
    have hnext := nextFailure_passing
      (s := { s with submits := s.submits ++ [(os.length, timeout?)] }) ⟨h.1, h.2, h.3⟩ os
    have hmemory := nextFailure_memory { s with submits := s.submits ++ [(os.length, timeout?)] } os
    simp only [Scripted.store, Scripted.submit]
    split
    · next f s' hf =>
      rw [hf] at hnext
      exact .inr (hnext.1 f rfl)
    · next s' hf =>
      left
      rw [hf] at hmemory
      dsimp only at hmemory ⊢
      rw [hmemory]
      simp only [Memory.store]
      split <;> rfl

end Scripted

/-! ## 2. Commits that are spared -/

/-- **Passing failures come at most so many in a row.** -/
def Spared (n : Nat) (outcomes : List (Except Failure Unit)) : Prop :=
  ∀ run, run <:+: outcomes → (∀ outcome ∈ run, Commit.IsPassing outcome) → run.length ≤ n

section Spared

variable {n : Nat} {xs ys : List (Except Failure Unit)}

theorem Spared.of_isInfix (h : Spared n ys) (hi : xs <:+: ys) : Spared n xs :=
  fun run hrun hpassing => h run (hrun.trans hi) hpassing

theorem Spared.of_append (h : Spared n (xs ++ ys)) : Spared n xs :=
  h.of_isInfix (List.prefix_append xs ys).isInfix

/-- With at most so many passing failures there cannot be more in a row. -/
theorem Spared.of_countP (h : xs.countP (fun outcome => Commit.IsPassing outcome) ≤ n) :
    Spared n xs := by
  intro run hrun hpassing
  have hall : run.countP (fun outcome => Commit.IsPassing outcome) = run.length :=
    List.countP_eq_length.mpr fun outcome ho => by simpa using hpassing outcome ho
  rw [← hall]
  exact (hrun.sublist.countP_le).trans h

end Spared

namespace Commit

variable {policy : RetryPolicy} {batch : Batch}

/-- As long as a store holds up a submission, it changes nothing. -/
theorem stateAfter_stalls (h : store.Stalls memory I) {st : σ} (hI : I st) (os : List Operation)
    (timeout? : Option Binary64) : ∀ {n : Nat},
    (∀ i < n, IsPassing (store.answer os timeout? st i)) →
    I (store.stateAfter os timeout? st n) ∧
      (memory (store.stateAfter os timeout? st n)).tables = (memory st).tables
  | 0, _ => ⟨hI, rfl⟩
  | n + 1, hpassing => by
    obtain ⟨hI', hsame⟩ :=
      stateAfter_stalls h hI os timeout? fun i hi => hpassing i (Nat.lt_succ_of_lt hi)
    have hlast := hpassing n (Nat.lt_succ_self n)
    refine ⟨h.keeps _ os timeout? hI', ?_⟩
    unfold Store.answer at hlast
    have hno : (store.submit (store.stateAfter os timeout? st n) os timeout?).outcome ≠ .ok () := by
      intro hok
      rw [hok] at hlast
      exact hlast
    exact (h.guards.untouched hno).trans hsame

/-- What a store keeps to is kept to by commits. -/
theorem run_keeps (h : store.Stalls memory I) (batch : Batch) (s : Session σ) (hI : I s.state) :
    I (run policy store batch s).2.state :=
  run_rule (I := fun _ st => I st) (Q := fun _ st => I st)
    (fun _ st _ _ hI _ => h.keeps st _ _ hI) (fun _ st _ hI _ => h.keeps st _ _ hI) s hI

/-- **A batch that can be applied is committed**, unless it is held up too often. -/
theorem run_spared (h : store.Stalls memory I) (hp : policy.IsComputable)
    {s : Session (Watched σ)} (hI : I s.state.state) {tables : List (Text × Table)}
    (happlies : Memory.applyAll (memory s.state.state).tables 0 batch.operations = .ok tables)
    {subs : List Submission}
    (hsubs : (run policy store.watched batch s).2.state.seen = s.state.seen ++ subs)
    (hspared : Spared policy.maxRetries (subs.map (·.outcome))) :
    (run policy store.watched batch s).1.committed?.isSome = true := by
  obtain ⟨n, hn, hsubmits, hpassing, hsteps⟩ := run_course_of policy store batch s
  have hall := List.append_cancel_left (hsubs.symm.trans hsubmits.seen)
  rw [hall, List.map_map] at hspared
  obtain ⟨hI', hsame⟩ := stateAfter_stalls h hI batch.operations policy.timeout? hpassing
  rw [← hsame] at happlies
  have hlast : store.answer batch.operations policy.timeout? s.state.state n = .ok () ∨
      IsPassing (store.answer batch.operations policy.timeout? s.state.state n) :=
    h.outcome hI' happlies
  rw [hsteps.committed_iff]
  rcases hlast with hok | hheld
  · exact hok
  · -- the last submission of all was held up as well, which is once too often
    have hmax : n = policy.maxRetries := by
      rcases hsteps.last_of_computable hp hn with hno | hmax
      · exact absurd hheld hno
      · exact hmax
    have hevery : ∀ outcome ∈ (List.range (n + 1)).map
        (store.answer batch.operations policy.timeout? s.state.state), IsPassing outcome := by
      intro outcome ho
      obtain ⟨i, hi, rfl⟩ := List.mem_map.mp ho
      rcases Nat.lt_succ_iff_lt_or_eq.mp (List.mem_range.mp hi) with hlt | rfl
      · exact hpassing i hlt
      · exact hheld
    have hle := hspared _ (List.infix_refl _) hevery
    rw [List.length_map, List.length_range] at hle
    omega

end Commit

end Sluice
