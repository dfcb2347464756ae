import Sluice.Commit

/-!
# How a commit ends

`Commit.run` makes one submission after the other until the commit ends. What is true of the store
and of the delays before the first submission, and kept by every one that is to be repeated, is true
before the last one (`run_course`, and `run_rule` where delays do not matter); every fact about
whole commits is an instance of that rule.

* `RetryPolicy.IsComputable`: every delay that a policy can ask for is there;
* `Verdict.About`: what a verdict says of its batch; `run_about`: it says that of the batch that
  was submitted;
* `run_isClear`: with computable delays every commit ends committed or failed.
-/

namespace Sluice

/-- Every delay that may be asked for can be computed. That it can be waited as well is assumed of
the surroundings (`Session.sleep`). -/
def RetryPolicy.IsComputable (p : RetryPolicy) : Prop :=
  ∀ retry < p.maxRetries, (p.delayBefore? (retry : Nat)).isSome = true

instance (p : RetryPolicy) : Decidable p.IsComputable :=
  inferInstanceAs (Decidable (∀ retry < p.maxRetries, _))

theorem RetryPolicy.IsComputable.ne_none {p : RetryPolicy} (h : p.IsComputable) {retry : Nat}
    (hr : retry < p.maxRetries) : p.delayBefore? (retry : Nat) ≠ none := by
  intro hnone
  have hsome := h retry hr
  rw [hnone] at hsome
  cases hsome

namespace Commit

/-! ## 1. Verdicts -/

namespace Verdict

/-- The result of a commit that is done. -/
def committed? : Verdict → Option CommitResult
  | .committed r => some r
  | _ => none

/-- The result of a failed commit. -/
def failed? : Verdict → Option CommitResult
  | .failed _ r => some r
  | _ => none

/-- The number of submissions that a verdict tells of. -/
def attempts : Verdict → Nat
  | .committed r => r.attempts
  | .failed _ r => r.attempts
  | .broken _ => 0

/-- The commit was not broken off. -/
def IsClear : Verdict → Prop
  | .broken _ => False
  | _ => True

/-- What a verdict says of its batch: all of its operations succeeded, or none did. -/
def About (v : Verdict) (b : Batch) : Prop :=
  match v with
  | .committed r => r.batch = b.id ∧ r.succeeded = b.count
  | .failed _ r => r.batch = b.id ∧ r.succeeded = 0
  | .broken _ => True

end Verdict

/-! ## 2. One submission -/

section Step

variable {policy : RetryPolicy} {c : Commit} {outcome : Except Failure Unit}

theorem Steps.about {v : Verdict} (h : Steps policy c outcome (.inr v)) : v.About c.batch := by
  cases h with
  | done u => exact ⟨rfl, rfl⟩
  | exhausted f ht hr => exact ⟨rfl, rfl⟩
  | broken f ht hr hd => trivial
  | rejected f ht => exact ⟨rfl, rfl⟩

theorem Steps.isClear (hp : policy.IsComputable) {v : Verdict}
    (h : Steps policy c outcome (.inr v)) : v.IsClear := by
  cases h with
  | done u => trivial
  | exhausted f ht hr => trivial
  | broken f ht hr hd => exact absurd hd (hp.ne_none hr)
  | rejected f ht => trivial

/-- **A verdict says what the last submission did**: committed when it succeeded. -/
theorem Steps.committed_iff {v : Verdict} (h : Steps policy c outcome (.inr v)) :
    v.committed?.isSome = true ↔ outcome = .ok () := by
  cases h with
  | done u => exact ⟨fun _ => rfl, fun _ => rfl⟩
  | exhausted f ht hr => exact ⟨fun h => (by cases h), fun h => (by cases h)⟩
  | broken f ht hr hd => exact ⟨fun h => (by cases h), fun h => (by cases h)⟩
  | rejected f ht => exact ⟨fun h => (by cases h), fun h => (by cases h)⟩

/-- Only a failed submission is repeated, for the same batch. -/
theorem Steps.again_inv {c' : Commit} {delay : Binary64}
    (h : Steps policy c outcome (.inl (c', delay))) :
    (∃ f, outcome = .error f) ∧ c'.batch = c.batch ∧ c'.attempts = c.attempts + 1 := by
  cases h with
  | again f _ ht hr hd => exact ⟨⟨f, rfl⟩, rfl, rfl⟩

end Step

/-! ## 3. Whole commits -/

section Run

variable {σ : Type} {policy : RetryPolicy} {store : Store σ}
  {I : Commit → σ → Prop} {Q : Verdict → σ → Prop}

/-- What the store makes of one more submission of a commit. -/
def reply (policy : RetryPolicy) (store : Store σ) (c : Commit) (st : σ) : Reply σ :=
  store.submit st c.batch.operations policy.timeout?

theorem runFor_course {I : Commit → List Binary64 → σ → Prop}
    {Q : Verdict → List Binary64 → σ → Prop}
    (hagain : ∀ c delays st c' delay, I c delays st →
      Steps policy c (reply policy store c st).outcome (.inl (c', delay)) →
      I c' (delays ++ [delay]) (reply policy store c st).state)
    (hend : ∀ c delays st v, I c delays st →
      Steps policy c (reply policy store c st).outcome (.inr v) →
      Q v delays (reply policy store c st).state) :
    ∀ (n : Nat) (c : Commit) (s s' : Session σ) (v : Verdict), I c s.sleeps s.state →
      runFor policy store n c s = (some v, s') → Q v s'.sleeps s'.state
  | 0, _, _, _, _, _, h => by simp [runFor] at h
  | n + 1, c, s, s', v, hI, h => by
    have hsteps := step_steps policy store c s
    have hstate := step_state policy store c s
    have hsleeps := step_sleeps policy store c s
    unfold runFor at h
    split at h
    · next v' s'' hstep =>
      rw [hstep] at hsteps hstate hsleeps
      cases h
      rw [hstate, hsleeps]
      exact hend c s.sleeps s.state v hI hsteps
    · next c' delay s'' hstep =>
      rw [hstep] at hsteps hstate hsleeps
      have hI' := hagain c s.sleeps s.state c' delay hI hsteps
      refine runFor_course hagain hend n c' (s''.sleep delay) s' v ?_ h
      change I c' (s''.sleeps ++ [delay]) s''.state
      rw [hstate, hsleeps]
      exact hI'

/-- The submissions that a policy allows are enough to end a commit. -/
theorem runFor_isSome (store : Store σ) : ∀ (n : Nat) (c : Commit) (s : Session σ),
    policy.maxRetries ≤ c.attempts + n → ∃ v s', runFor policy store (n + 1) c s = (some v, s')
  | n, c, s, h => by
    have hsteps := step_steps policy store c s
    unfold runFor
    split
    · next v s' hstep => exact ⟨v, s', rfl⟩
    · next c' delay s' hstep =>
      rw [hstep] at hsteps
      obtain ⟨-, -, hattempts⟩ := hsteps.again_inv
      cases n with
      | zero =>
        obtain ⟨v, hv⟩ := hsteps.isEnded h
        cases hv
      | succ n => exact runFor_isSome store n c' (s'.sleep delay) (by omega)

/-- **The rule of commits.** What holds before the first submission, and again before every further
one, holds before the last: so the end of a commit follows from the end of its last submission. The
delays that have been waited take part, as what there is of them before each submission. -/
theorem run_course {I : Commit → List Binary64 → σ → Prop}
    {Q : Verdict → List Binary64 → σ → Prop} {batch : Batch}
    (hagain : ∀ c delays st c' delay, I c delays st →
      Steps policy c (reply policy store c st).outcome (.inl (c', delay)) →
      I c' (delays ++ [delay]) (reply policy store c st).state)
    (hend : ∀ c delays st v, I c delays st →
      Steps policy c (reply policy store c st).outcome (.inr v) →
      Q v delays (reply policy store c st).state)
    (s : Session σ) (h : I { batch } s.sleeps s.state) :
    Q (run policy store batch s).1 (run policy store batch s).2.sleeps
      (run policy store batch s).2.state := by
  obtain ⟨v, s', hrun⟩ := runFor_isSome store policy.maxRetries { batch } s
    (Nat.le_add_left _ _)
  have hQ := runFor_course hagain hend _ _ _ _ _ h hrun
  unfold run
  rw [hrun]
  exact hQ

/-- The rule of commits for what does not depend on the delays. -/
theorem run_rule {batch : Batch}
    (hagain : ∀ c st c' delay, I c st →
      Steps policy c (reply policy store c st).outcome (.inl (c', delay)) →
      I c' (reply policy store c st).state)
    (hend : ∀ c st v, I c st → Steps policy c (reply policy store c st).outcome (.inr v) →
      Q v (reply policy store c st).state)
    (s : Session σ) (h : I { batch } s.state) :
    Q (run policy store batch s).1 (run policy store batch s).2.state :=
  run_course (I := fun c _ st => I c st) (Q := fun v _ st => Q v st)
    (fun c _ st c' delay => hagain c st c' delay) (fun c _ st v => hend c st v) s h

theorem run_about (batch : Batch) (s : Session σ) : (run policy store batch s).1.About batch := by
  refine run_rule (I := fun c _ => c.batch = batch) (Q := fun v _ => v.About batch) ?_ ?_ s rfl
  · intro c st c' delay hI h
    rw [h.again_inv.2.1]
    exact hI
  · intro c st v hI h
    rw [← hI]
    exact h.about

theorem run_isClear (hp : policy.IsComputable) (batch : Batch) (s : Session σ) :
    (run policy store batch s).1.IsClear :=
  run_rule (I := fun _ _ => True) (Q := fun v _ => v.IsClear) (fun _ _ _ _ _ _ => trivial)
    (fun _ _ _ _ h => h.isClear hp) s trivial

end Run

end Commit

end Sluice
