import Sluice.Proofs.Store.Watched

/-!
# The course of a commit

What becomes of a commit depends on how the store answers the submissions of its batch, one after
the other (`Store.answer`). An answer is passing, or it is the last one. So the whole course of a
commit can be said in advance: how often the batch is submitted, what is waited in between, the
states that are gone through, and the verdict.

* `midway`: what a commit has gone through before each submission;
* `run_course_of`: **every commit is midway at its last submission**, and ends as this one says,
  whether or not the delays can be computed;
* `Steps.isPassing_of_ended`: a passing answer ends a commit only if no retry is left.
-/

namespace Sluice

variable {σ : Type}

/-! ## 1. Answers -/

section Answers

variable (store : Store σ) (os : List Operation) (timeout? : Option Binary64) (st : σ)

/-- The state of a store after so many submissions of the same operations. -/
def Store.stateAfter : Nat → σ
  | 0 => st
  | n + 1 => (store.submit (stateAfter n) os timeout?).state

/-- How a store answers the submissions of the same operations, counted from 0. -/
def Store.answer (n : Nat) : Except Failure Unit :=
  (store.submit (store.stateAfter os timeout? st n) os timeout?).outcome

end Answers

/-- A store that gives the answers that it is told to, whatever is submitted to it. -/
def Store.telling (answers : Nat → Except Failure Unit) : Store Nat where
  prepare n _ _ _ := { outcome := .ok (), state := n }
  submit n _ _ := { outcome := answers n, state := n + 1 }
  close n := n

/-- **Any answers at all are those of some store**: nothing is lost when they are had from one. -/
theorem Store.answer_telling (answers : Nat → Except Failure Unit) (os : List Operation)
    (timeout? : Option Binary64) : (Store.telling answers).answer os timeout? 0 = answers := by
  have hstate : ∀ n, (Store.telling answers).stateAfter os timeout? 0 n = n := by
    intro n
    induction n with
    | zero => rfl
    | succ n ih =>
      unfold Store.stateAfter
      rw [ih]
      rfl
  funext n
  unfold Store.answer
  rw [hstate n]
  rfl

namespace Commit

/-- A passing answer: the same submission may be answered otherwise when it is made again. -/
def IsPassing : Except Failure Unit → Prop
  | .ok _ => False
  | .error f => f.kind.isTransient = true

instance : DecidablePred IsPassing
  | .ok _ => inferInstanceAs (Decidable False)
  | .error f => inferInstanceAs (Decidable (f.kind.isTransient = true))

/-! ## 2. Midway -/

/-- The states that a batch has gone through after so many submissions that are to be repeated. -/
def passed (n : Nat) : List BatchState :=
  .sealed :: (List.replicate n [BatchState.submitting, .retrying]).flatten

/-- A commit after so many submissions that are to be repeated. -/
def midway (batch : Batch) (n : Nat) : Commit := { batch, attempts := n, history := passed n }

theorem midway_succ (batch : Batch) (n : Nat) :
    (midway batch n).after [.submitting, .retrying] = midway batch (n + 1) := by
  have h : passed n ++ [.submitting, .retrying] = passed (n + 1) := by
    unfold passed
    rw [List.replicate_succ', List.flatten_append, List.cons_append]
    rfl
  unfold midway after
  rw [h]

section Steps

variable {policy : RetryPolicy} {c : Commit} {outcome : Except Failure Unit}

/-- A submission is repeated after a passing answer, if a retry is left and its delay is there. -/
theorem Steps.again_eq {c' : Commit} {delay : Binary64}
    (h : Steps policy c outcome (.inl (c', delay))) :
    IsPassing outcome ∧ c.attempts < policy.maxRetries ∧
      policy.delayBefore? c.attempts = some delay ∧ c' = c.after [.submitting, .retrying] := by
  cases h with
  | again f _ ht hr hd => exact ⟨ht, hr, hd, rfl⟩

/-- **A passing answer ends a commit only when no retry is left**, or its delay is not there. -/
theorem Steps.isPassing_of_ended {v : Verdict} (h : Steps policy c outcome (.inr v))
    (hp : IsPassing outcome) :
    policy.maxRetries ≤ c.attempts ∨
      (c.attempts < policy.maxRetries ∧ policy.delayBefore? c.attempts = none ∧
        v = .broken RetryPolicy.overflow) := by
  cases h with
  | done u => exact absurd hp id
  | exhausted f ht hr => exact .inl hr
  | broken f ht hr hd => exact .inr ⟨hr, hd, rfl⟩
  | rejected f ht =>
    have ht' : f.kind.isTransient = true := hp
    rw [ht] at ht'
    cases ht'

end Steps

/-! ## 3. Whole commits -/

section Run

variable {policy : RetryPolicy} {store : Store σ} {batch : Batch}

/-- **A commit has made so many submissions**: each of the whole batch with the time that one
attempt may take, and before each but the first it has waited the delay that belongs there. -/
structure Submits (policy : RetryPolicy) (batch : Batch) (answers : Nat → Except Failure Unit)
    (n : Nat) (s s' : Session (Watched σ)) : Prop where
  seen : s'.state.seen = s.state.seen ++
    (List.range n).map fun i => ⟨batch.operations, policy.timeout?, answers i⟩
  sleeps : s'.sleeps.map some = s.sleeps.map some ++
    (List.range (n - 1)).map fun i => policy.delayBefore? (i : Nat)

/-- What is true before the submission with the given number, counted from 0, of a commit that
began in a session. -/
private structure Before (policy : RetryPolicy) (store : Store σ) (batch : Batch)
    (s : Session (Watched σ)) (n : Nat) (sleeps : List Binary64) (w : Watched σ) : Prop where
  left : n ≤ policy.maxRetries
  state : w.state = store.stateAfter batch.operations policy.timeout? s.state.state n
  seen : w.seen = s.state.seen ++ (List.range n).map fun i =>
    ⟨batch.operations, policy.timeout?,
      store.answer batch.operations policy.timeout? s.state.state i⟩
  sleeps : sleeps.map some = s.sleeps.map some ++
    (List.range n).map fun i => policy.delayBefore? (i : Nat)
  passing : ∀ i < n, IsPassing (store.answer batch.operations policy.timeout? s.state.state i)

private theorem Before.outcome {s : Session (Watched σ)} {n : Nat} {sleeps : List Binary64}
    {w : Watched σ} (h : Before policy store batch s n sleeps w) :
    (reply policy store.watched (midway batch n) w).outcome =
      store.answer batch.operations policy.timeout? s.state.state n := by
  change (store.submit w.state batch.operations policy.timeout?).outcome = _
  rw [h.state]
  rfl

/-- What the store has seen after one more submission. -/
private theorem Before.seen_reply {s : Session (Watched σ)} {n : Nat} {sleeps : List Binary64}
    {w : Watched σ} (h : Before policy store batch s n sleeps w) :
    (reply policy store.watched (midway batch n) w).state.seen = s.state.seen ++
      (List.range (n + 1)).map fun i => ⟨batch.operations, policy.timeout?,
        store.answer batch.operations policy.timeout? s.state.state i⟩ := by
  have hout := h.outcome
  unfold reply at hout ⊢
  rw [Store.watched_seen, hout, h.seen, List.range_succ, List.map_append, List.append_assoc]
  rfl

private theorem Before.again {s : Session (Watched σ)} {n : Nat} {sleeps : List Binary64}
    {w : Watched σ} (h : Before policy store batch s n sleeps w) {delay : Binary64}
    (hpassing : IsPassing (store.answer batch.operations policy.timeout? s.state.state n))
    (hleft : n < policy.maxRetries) (hdelay : policy.delayBefore? n = some delay) :
    Before policy store batch s (n + 1) (sleeps ++ [delay])
      (reply policy store.watched (midway batch n) w).state where
  left := hleft
  state := by
    change (store.submit w.state batch.operations policy.timeout?).state = _
    rw [h.state]
    rfl
  seen := h.seen_reply
  sleeps := by
    rw [List.map_append, h.sleeps, List.range_succ, List.map_append, List.append_assoc]
    simp only [List.map_cons, List.map_nil, hdelay]
  passing i hi := by
    rcases Nat.lt_succ_iff_lt_or_eq.mp hi with hlt | rfl
    · exact h.passing i hlt
    · exact hpassing

/-- **Every commit ends with the submission that it is midway at**: all answers before are passing,
and the last one decides. -/
theorem run_course_of (policy : RetryPolicy) (store : Store σ) (batch : Batch)
    (s : Session (Watched σ)) :
    ∃ n ≤ policy.maxRetries,
      Submits policy batch (store.answer batch.operations policy.timeout? s.state.state) (n + 1) s
        (run policy store.watched batch s).2 ∧
      (∀ i < n, IsPassing (store.answer batch.operations policy.timeout? s.state.state i)) ∧
      Steps policy (midway batch n)
        (store.answer batch.operations policy.timeout? s.state.state n)
        (.inr (run policy store.watched batch s).1) := by
  have hend := @run_course (Watched σ) policy store.watched
    (fun c sleeps w => ∃ n, c = midway batch n ∧ Before policy store batch s n sleeps w)
    (fun v sleeps w => ∃ n ≤ policy.maxRetries,
      (w.seen = s.state.seen ++ (List.range (n + 1)).map fun i => ⟨batch.operations,
          policy.timeout?, store.answer batch.operations policy.timeout? s.state.state i⟩) ∧
      (sleeps.map some = s.sleeps.map some ++
        (List.range n).map fun i => policy.delayBefore? (i : Nat)) ∧
      (∀ i < n, IsPassing (store.answer batch.operations policy.timeout? s.state.state i)) ∧
      Steps policy (midway batch n)
        (store.answer batch.operations policy.timeout? s.state.state n) (.inr v))
    batch ?again ?last s ⟨0, rfl, Nat.zero_le _, rfl, by simp, by simp, by simp⟩
  case again =>
    rintro c sleeps w c' delay ⟨n, rfl, hbefore⟩ hsteps
    rw [hbefore.outcome] at hsteps
    obtain ⟨hpassing, hleft, hdelay, rfl⟩ := hsteps.again_eq
    exact ⟨n + 1, midway_succ batch n, hbefore.again hpassing hleft hdelay⟩
  case last =>
    rintro c sleeps w v ⟨n, rfl, hbefore⟩ hsteps
    rw [hbefore.outcome] at hsteps
    exact ⟨n, hbefore.left, hbefore.seen_reply, hbefore.sleeps, hbefore.passing, hsteps⟩
  obtain ⟨n, hn, hseen, hsleeps, hpassing, hsteps⟩ := hend
  exact ⟨n, hn, ⟨hseen, hsleeps⟩, hpassing, hsteps⟩

/-- The last submission is the first that is not answered by a passing failure, or the last one
that the policy allows. -/
theorem Steps.last_of_computable (hp : policy.IsComputable) {n : Nat} {outcome : Except Failure Unit}
    {v : Verdict} (h : Steps policy (midway batch n) outcome (.inr v)) (hn : n ≤ policy.maxRetries) :
    ¬ IsPassing outcome ∨ n = policy.maxRetries := by
  by_cases hpassing : IsPassing outcome
  · rcases h.isPassing_of_ended hpassing with hle | ⟨hlt, hnone, -⟩
    · have hle' : policy.maxRetries ≤ n := hle
      exact .inr (by omega)
    · exact absurd hnone (hp.ne_none hlt)
  · exact .inl hpassing

/-- **The course of a commit**, from the answers to the submissions of its batch. The first answer
that is not passing ends it, as done or as rejected, if a submission is left to get it; otherwise
every submission that the policy allows is made, and the commit is given up. -/
theorem run_ends (hp : policy.IsComputable) (store : Store σ) (batch : Batch)
    (s : Session (Watched σ)) :
    let answer := store.answer batch.operations policy.timeout? s.state.state
    let out := run policy store.watched batch s
    (∀ k ≤ policy.maxRetries, (∀ i < k, IsPassing (answer i)) → ¬ IsPassing (answer k) →
      Submits policy batch answer (k + 1) s out.2 ∧
      (answer k = .ok () → out.1 = .committed ⟨batch.id, batch.count, k + 1, .committed, none,
        passed k ++ [.submitting, .committed]⟩) ∧
      (∀ f, answer k = .error f → ∃ e, out.1 = .failed e ⟨batch.id, 0, k + 1, .failed,
          some ⟨f.text, if f.kind = .storeRejected then f.operation? else none⟩,
          passed k ++ [.submitting, .failed]⟩ ∧
        (e.failure batch.id).kind = .commitRejected ∧
        (e.failure batch.id).operation? =
          if f.kind = .storeRejected then f.operation? else none)) ∧
    ((∀ i ≤ policy.maxRetries, IsPassing (answer i)) →
      Submits policy batch answer (policy.maxRetries + 1) s out.2 ∧
      ∃ f e, answer policy.maxRetries = .error f ∧
        out.1 = .failed e ⟨batch.id, 0, policy.maxRetries + 1, .failed, some ⟨f.textOrLabel, none⟩,
          passed policy.maxRetries ++ [.submitting, .failed]⟩ ∧
        (e.failure batch.id).kind = .commitExhausted ∧
        (e.failure batch.id).attempts? = some (policy.maxRetries + 1)) := by
  intro answer out
  obtain ⟨n, hn, hsubmits, hpassing, hsteps⟩ := run_course_of policy store batch s
  have hlast := hsteps.last_of_computable hp hn
  change Submits policy batch answer (n + 1) s out.2 at hsubmits
  change ∀ i < n, IsPassing (answer i) at hpassing
  change Steps policy (midway batch n) (answer n) (.inr out.1) at hsteps
  change ¬ IsPassing (answer n) ∨ n = policy.maxRetries at hlast
  generalize out.1 = v at hsteps ⊢
  refine ⟨fun k hk hbefore hends => ?_, fun hall => ?_⟩
  · have hkn : k = n := by
      rcases Nat.lt_trichotomy k n with hlt | heq | hgt
      · exact absurd (hpassing k hlt) hends
      · exact heq
      · rcases hlast with hno | hmax
        · exact absurd (hbefore n hgt) hno
        · omega
    subst hkn
    refine ⟨hsubmits, fun hok => ?_, fun f hf => ?_⟩
    · rw [hok] at hsteps
      cases hsteps
      rfl
    · rw [hf] at hsteps hends
      cases hsteps with
      | exhausted f ht hr => exact absurd ht hends
      | broken f ht hr hd => exact absurd ht hends
      | rejected f ht => exact ⟨_, rfl, rfl, rfl⟩
  · have hmax : n = policy.maxRetries := by
      rcases hlast with hno | hmax
      · exact absurd (hall n hn) hno
      · exact hmax
    subst hmax
    refine ⟨hsubmits, ?_⟩
    have hend := hall _ (Nat.le_refl _)
    generalize answer policy.maxRetries = outcome at hsteps hend ⊢
    cases hsteps with
    | done u => exact absurd hend id
    | exhausted f ht hr => exact ⟨f, _, rfl, rfl, rfl, rfl⟩
    | broken f ht hr hd => exact absurd hr (Nat.lt_irrefl _)
    | rejected f ht =>
      have ht' : f.kind.isTransient = true := hend
      rw [ht] at ht'
      cases ht'

/-- One passing failure, then a refusal of the only operation. -/
private def refusedAtLast : Nat → Except Failure Unit
  | 0 => .error { kind := .storeTransient, message := "busy" }
  | _ => .error { kind := .storeRejected, message := "no", operation? := some 0 }

/-- A refusal that comes with the last submission still counts as a refusal, and names the
operation. -/
theorem run_ends_lastRetry :
    let policy : RetryPolicy := ⟨1, .ofInt 1, .ofInt 2, .ofInt 30, none⟩
    let batch : Batch := ⟨"batch-1", [⟨"t", .insert, [("id", .int 1)], ["id"]⟩]⟩
    let out := run policy (Store.telling refusedAtLast).watched batch ⟨⟨0, []⟩, .zero, [], []⟩
    out.1.attempts = 2 ∧ out.2.sleeps.length = 1 ∧
      ∃ r, out.1.failed? = some r ∧ r.failure? = some ⟨"no", some 0⟩ ∧
        r.history = [.sealed, .submitting, .retrying, .submitting, .failed] := by
  intro policy batch out
  have hout : run policy (Store.telling refusedAtLast).watched batch ⟨⟨0, []⟩, .zero, [], []⟩ =
    out := rfl
  have hp : policy.IsComputable := by decide +kernel
  have h := run_ends hp (Store.telling refusedAtLast) batch ⟨⟨0, []⟩, .zero, [], []⟩
  rw [Store.answer_telling] at h
  obtain ⟨hsubmits, -, hrejected⟩ := h.1 1 (Nat.le_refl 1) (by decide) (by decide)
  obtain ⟨e, hend, -, -⟩ := hrejected _ rfl
  rw [hout] at hend hsubmits
  rw [hend]
  have hsleeps := congrArg List.length hsubmits.sleeps
  rw [List.length_map, List.length_append, List.length_map, List.length_map,
    List.length_range] at hsleeps
  exact ⟨rfl, hsleeps, _, rfl, rfl, rfl⟩

end Run

end Commit

end Sluice
