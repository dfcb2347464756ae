import Sluice.Proofs.Commit.Course
import Sluice.Proofs.Sink.Account

/-!
# Commits that are accounted for

A commit is accounted for when it ends as done, as rejected or as given up: its result then stands
in the account of the worker, and the batch is not lost from it. What stands in the way is the delay
before a retry. It is capped only after the growth has been computed, and the growth of a finite
rate may lie beyond the largest number.

* `delayBefore?_le`: **a delay that is there is at most the upper limit** of a sensible policy;
* `Worker.commit_accounted`: a commit is accounted for **unless the growth before one of the retries
  that it comes to is out of range**, and then neither its result nor its batch is in the account.
-/

namespace Sluice

namespace Binary64

/-! ## 1. Numbers that stay numbers -/

theorem isNaN_of_isFinite {x : Binary64} (h : x.isFinite = true) : x.isNaN = false := by
  unfold isFinite at h
  unfold isNaN
  rw [decide_eq_true_eq] at h
  rw [decide_eq_false_iff_not]
  omega

theorem isNaN_ofRank (negative : Bool) (rank : Nat) : (ofRank negative rank).isNaN = false := by
  unfold ofRank isNaN
  rw [decide_eq_false_iff_not]
  split
  · next h =>
    dsimp only
    omega
  · exact Nat.lt_irrefl _

/-- The product of finite numbers may be infinite, but it is a number. -/
theorem isNaN_mul {x y : Binary64} (hx : x.isFinite = true) (hy : y.isFinite = true) :
    (x * y).isNaN = false := by
  have hfinite : ∀ {z : Binary64}, z.isFinite = true → z.isInfinite = false := by
    intro z hz
    unfold isFinite at hz
    unfold isInfinite
    rw [decide_eq_true_eq] at hz
    rw [beq_eq_false_iff_ne]
    omega
  change (mul x y).isNaN = false
  unfold mul
  simp only [isNaN_of_isFinite hx, isNaN_of_isFinite hy, hfinite hx, hfinite hy, Bool.or_self,
    Bool.false_eq_true, if_false]
  exact isNaN_ofRank _ _

/-- A power of a finite number is finite if it is there at all. -/
theorem isFinite_power {x y : Binary64} {n : Nat} (hx : x.isFinite = true)
    (h : x.power? (n : Nat) = some y) : y.isFinite = true := by
  have hinfinite : x.isInfinite = false := by
    unfold isFinite at hx
    unfold isInfinite
    rw [decide_eq_true_eq] at hx
    rw [beq_eq_false_iff_ne]
    omega
  unfold power? at h
  simp only [isNaN_of_isFinite hx, hinfinite, Bool.false_eq_true, if_false] at h
  split at h
  · cases h
  · split at h
    · next hy =>
      cases h
      exact hy
    · cases h

/-- The smaller of two numbers is at most the second. -/
theorem least_le {x y : Binary64} (hx : x.isNaN = false) (hy : y.isNaN = false) :
    (least x y).le y = true := by
  unfold least
  by_cases h : y.lt x = true
  · rw [if_pos h]
    simp [le, hy]
  · rw [if_neg h]
    have hle : x.place ≤ y.place := by
      simp only [lt, hx, hy, Bool.not_false, Bool.true_and, decide_eq_true_eq] at h
      omega
    simp [le, hx, hy, hle]

end Binary64

namespace RetryPolicy

/-! ## 2. Sensible policies -/

/-- A policy of finite numbers: delays are not negative, and do not shrink from one to the next. -/
structure IsSensible (p : RetryPolicy) : Prop where
  delay : p.delay.isFinite = true ∧ p.delay.lt .zero = false
  rate : p.rate.isFinite = true ∧ p.rate.lt (.ofInt 1) = false
  maxDelay : p.maxDelay.isFinite = true ∧ p.maxDelay.lt .zero = false

/-- Sensible policies can be made. -/
theorem IsSensible.make {p : RetryPolicy} (h : p.IsSensible) :
    RetryPolicy.make p.maxRetries p.delay p.rate p.maxDelay p.timeout? = .ok p := by
  have hretries : ¬ (p.maxRetries : Int) < 0 := by omega
  unfold RetryPolicy.make
  rw [if_neg hretries, h.delay.2, h.rate.2]
  rfl

theorem delayBefore?_le {p : RetryPolicy} (h : p.IsSensible) {retry : Nat} {d : Binary64}
    (hd : p.delayBefore? retry = some d) : d.le p.maxDelay = true := by
  unfold delayBefore? at hd
  obtain ⟨growth, hgrowth, rfl⟩ := Option.map_eq_some_iff.mp hd
  have hfinite := Binary64.isFinite_power h.rate.1 hgrowth
  exact Binary64.least_le (Binary64.isNaN_mul h.delay.1 hfinite)
    (Binary64.isNaN_of_isFinite h.maxDelay.1)

theorem delayBefore?_eq_none {p : RetryPolicy} {retry : Nat} :
    p.delayBefore? retry = none ↔ p.rate.power? retry = none := Option.map_eq_none_iff

end RetryPolicy

namespace Commit

/-! ## 3. Verdicts -/

section Course

variable {σ : Type} {policy : RetryPolicy} {store : Store σ} {batch : Batch}
  {s : Session (Watched σ)}

/-- Before each submission but the first, the delay that belongs there has been computed. -/
theorem Submits.delay_isSome {answers : Nat → Except Failure Unit} {n : Nat}
    {s' : Session (Watched σ)} (h : Submits policy batch answers (n + 1) s s') {i : Nat}
    (hi : i < n) : (policy.delayBefore? i).isSome = true := by
  have hmem : policy.delayBefore? i ∈ s'.sleeps.map some := by
    rw [h.sleeps]
    exact List.mem_append.mpr (.inr (List.mem_map.mpr ⟨i, List.mem_range.mpr hi, rfl⟩))
  obtain ⟨d, -, hd⟩ := List.mem_map.mp hmem
  rw [← hd]
  rfl

/-- A commit that comes to a retry without a delay is broken off. -/
theorem run_broken {i : Nat} (hi : i < policy.maxRetries)
    (hpassing : ∀ j ≤ i,
      IsPassing (store.answer batch.operations policy.timeout? s.state.state j))
    (hnone : policy.delayBefore? i = none) :
    (run policy store.watched batch s).1 = .broken RetryPolicy.overflow := by
  obtain ⟨n, -, hsubmits, -, hsteps⟩ := run_course_of policy store batch s
  have hn : n ≤ i := by
    refine Nat.le_of_not_lt fun hlt => ?_
    have hsome := hsubmits.delay_isSome hlt
    rw [hnone] at hsome
    cases hsome
  rcases hsteps.isPassing_of_ended (hpassing n hn) with hmax | ⟨-, -, hbroken⟩
  · have hmax' : policy.maxRetries ≤ n := hmax
    omega
  · exact hbroken

/-- A commit that only comes to retries with a delay is not broken off. -/
theorem run_clear (h : ∀ i < policy.maxRetries, (∀ j ≤ i,
      IsPassing (store.answer batch.operations policy.timeout? s.state.state j)) →
    (policy.delayBefore? i).isSome = true) : (run policy store.watched batch s).1.IsClear := by
  obtain ⟨n, -, -, hpassing, hsteps⟩ := run_course_of policy store batch s
  generalize hanswer : store.answer batch.operations policy.timeout? s.state.state n = answer
    at hsteps
  generalize (run policy store.watched batch s).1 = v at hsteps ⊢
  cases hsteps with
  | done u => trivial
  | exhausted f ht hr => trivial
  | rejected f ht => trivial
  | broken f ht hr hd =>
    have hsome := h n hr fun j hj => by
      rcases Nat.lt_or_eq_of_le hj with hlt | rfl
      · exact hpassing j hlt
      · rw [hanswer]
        exact ht
    have hd' : policy.delayBefore? n = none := hd
    rw [hd'] at hsome
    cases hsome

/-- The state in a result is the one that the verdict stands for. -/
def Verdict.IsMarked : Verdict → Prop
  | .committed r => r.state = .committed
  | .failed _ r => r.state = .failed
  | .broken _ => True

theorem Steps.isMarked {c : Commit} {outcome : Except Failure Unit} {v : Verdict}
    (h : Steps policy c outcome (.inr v)) : v.IsMarked := by
  cases h with
  | done u => exact rfl
  | exhausted f ht hr => exact rfl
  | broken f ht hr hd => trivial
  | rejected f ht => exact rfl

end Course

end Commit

/-! ## 4. The account -/

/-- The result of a commit stands in the account of a worker, at the end of the results of its
kind, and says what became of the batch. -/
def Worker.Accounts (w w' : Worker) (batch : Batch) : Prop :=
  ∃ r, r.batch = batch.id ∧
    ((r.state = .committed ∧ r.succeeded = batch.count ∧
        w'.result.committed = w.result.committed ++ [r] ∧ w'.result.failed = w.result.failed) ∨
      (r.state = .failed ∧ r.succeeded = 0 ∧
        w'.result.committed = w.result.committed ∧ w'.result.failed = w.result.failed ++ [r]))

/-- **Every commit is accounted for, unless it comes to a retry before which the growth of the delay
is out of range.** Then it is broken off by a failure of another kind, and the account stays as it
was. No delay is beyond the upper limit. -/
theorem Worker.commit_accounted {σ : Type} (config : Config) (hp : config.retry.IsSensible)
    (store : Store σ) (w : Worker) (batch : Batch) (s : Session (Watched σ)) :
    let policy := config.retry
    let answer := store.answer batch.operations policy.timeout? s.state.state
    let v := (Commit.run policy store.watched batch s).1
    let out := w.commit config store.watched batch s
    ((∀ i < policy.maxRetries, (∀ j ≤ i, Commit.IsPassing (answer j)) →
        (policy.rate.power? i).isSome = true) → v.IsClear ∧ w.Accounts out.2.1 batch) ∧
      (∀ i < policy.maxRetries, (∀ j ≤ i, Commit.IsPassing (answer j)) →
        policy.rate.power? i = none → v = .broken RetryPolicy.overflow ∧
          out.1 = some (.outside RetryPolicy.overflow) ∧ out.2.1.result = w.result) ∧
      ∀ (i : Nat) d, policy.delayBefore? i = some d → d.le policy.maxDelay = true := by
  intro policy answer v out
  have hbooked : w.Booked [(batch, v)] out.2.1 :=
    settle_booked config w (Commit.run_about batch s) _ _
  have habout : v.About batch := Commit.run_about batch s
  obtain ⟨n, -, -, -, hsteps⟩ := Commit.run_course_of policy store batch s
  have hmarked : v.IsMarked := hsteps.isMarked
  refine ⟨fun hgrowth => ?_, fun i hi hpassing hnone => ?_, fun i d hd => ?_⟩
  · have hclear : v.IsClear := Commit.run_clear fun i hi hpassing => by
      rw [RetryPolicy.delayBefore?, Option.isSome_map]
      exact hgrowth i hi hpassing
    refine ⟨hclear, ?_⟩
    have hcommitted := hbooked.committed
    have hfailed := hbooked.failed
    generalize v = v at hclear habout hmarked hcommitted hfailed
    cases v with
    | committed r =>
      refine ⟨r, habout.1, .inl ⟨hmarked, habout.2, hcommitted, ?_⟩⟩
      exact hfailed.trans (List.append_nil _)
    | failed e r =>
      refine ⟨r, habout.1, .inr ⟨hmarked, habout.2, ?_, hfailed⟩⟩
      exact hcommitted.trans (List.append_nil _)
    | broken f => exact absurd hclear id
  · have hbroken : v = .broken RetryPolicy.overflow :=
      Commit.run_broken hi hpassing (RetryPolicy.delayBefore?_eq_none.mpr hnone)
    have hout : out = w.settle config batch v ((Commit.run policy store.watched batch s).2.clock -
      s.clock) (Commit.run policy store.watched batch s).2 := rfl
    rw [hbroken] at hout
    rw [hout]
    exact ⟨hbroken, rfl, rfl⟩
  · exact RetryPolicy.delayBefore?_le hp hd

/-- A rate at which the growth is out of range before the third retry. -/
def Sample.steep : RetryPolicy := ⟨3, .ofInt 1, .ofInt (10 ^ 200), .ofInt 30, none⟩

/-- A store that is always busy breaks a commit off with a retry left to wait for. -/
theorem Worker.commit_accounted_steep :
    let config := { Sample.config ⟨5, 100⟩ .fail with retry := Sample.steep }
    let batch : Batch := ⟨"batch-1", [⟨"t", .insert, [("id", .int 1)], ["id"]⟩]⟩
    let store := Store.telling fun _ => .error { kind := .storeTransient, message := "busy" }
    let out := (start config "batch" .zero).commit config store.watched batch
      ⟨⟨0, []⟩, .zero, [], []⟩
    Sample.steep.IsSensible ∧ out.1 = some (.outside RetryPolicy.overflow) ∧
      out.2.1.result.committed = [] ∧ out.2.1.result.failed = [] := by
  intro config batch store out
  have hsensible : Sample.steep.IsSensible :=
    ⟨by decide +kernel, by decide +kernel, by decide +kernel⟩
  have hout : (start config "batch" .zero).commit config store.watched batch
    ⟨⟨0, []⟩, .zero, [], []⟩ = out := rfl
  obtain ⟨-, hbroken, -⟩ := commit_accounted config hsensible store (start config "batch" .zero)
    batch ⟨⟨0, []⟩, .zero, [], []⟩
  obtain ⟨-, hstop, hresult⟩ := hbroken 2 (by decide) (fun j _ => by
    rw [Store.answer_telling]
    rfl) (by decide +kernel)
  rw [hout] at hstop hresult
  rw [hresult]
  exact ⟨hsensible, hstop, rfl, rfl⟩

end Sluice
