import Sluice.Proofs.Sink.Carried
import Sluice.Proofs.Sink.Tally

/-!
# Series of runs

The metrics of a sink are those of all its runs, while each run has an account of its own. Along a
series of runs, in sequence or with several workers, the metrics are at any time what the accounts
so far say together, and the store has seen as many submissions as they tell of.

* `Parallel.Tallied`: the ledgers of a worker, whatever it is doing, with the submissions that it
  has made; `Moves.tallied`, `Run.tallied`: **no step of a parallel run brings them out of line**;
* `Sink.Writes.tally`, `Sink.Writes.attempts`: one run;
* `Sink.Series`: runs one after the other on one sink; `Sink.series_agrees`: **metrics and accounts
  agree after each of them**.
-/

namespace Sluice

namespace Parallel

variable {σ : Type}

/-! ## 1. One worker -/

/-- The submissions of a commit that is not booked yet. -/
def Phase.spent : Phase → Nat
  | .committing c _ _ => c.attempts
  | .ended _ v _ _ => v.attempts
  | _ => 0

/-- **The ledgers of a worker of a parallel run** agree, and the submissions that it has made are
those that are booked and those of the commit that is not. -/
structure Tallied (submissions : Nat) (lane : Lane) : Prop where
  ledgers : lane.worker.IsTallied
  due : ∀ e ∈ lane.phase.due, e.2.About e.1
  submissions : submissions = lane.worker.result.attempts + lane.phase.spent

section Lane

variable {plan : Plan σ} {lane : Lane} {n : Nat} {s : Session σ}

/-- A worker that has nothing under way. -/
theorem tallied_of_idle (h : lane.worker.IsTallied) (hn : n = lane.worker.result.attempts)
    (hdue : lane.phase.due = []) (hspent : lane.phase.spent = 0) : Tallied n lane where
  ledgers := h
  due e he := by rw [hdue] at he; cases he
  submissions := by rw [hspent]; exact hn

theorem proceed_tallied (next : Then) (s : Session σ) (h : lane.worker.IsTallied)
    (hn : n = lane.worker.result.attempts) : Tallied n (proceed plan lane next s).1 := by
  cases next <;> exact tallied_of_idle h hn rfl rfl

theorem begin_tallied (batch? : Option Batch) (next : Then) (s : Session σ)
    (h : lane.worker.IsTallied) (hn : n = lane.worker.result.attempts) :
    Tallied n (begin_ plan lane batch? next s).1 := by
  cases batch? with
  | none => exact proceed_tallied next s h hn
  | some batch => exact ⟨h, fun e he => absurd he List.not_mem_nil, hn⟩

/-- **A worker takes an item.** -/
theorem takeItem_tallied (item : Item) (s : Session σ) (hphase : lane.phase = .ready)
    (h : Tallied n lane) : Tallied n (takeItem plan lane item s).1 := by
  have hn : n = lane.worker.result.attempts := by
    rw [h.submissions, hphase]
    rfl
  cases item with
  | last => exact begin_tallied _ .finish s (Worker.flush_isTallied h.ledgers) hn
  | record index v =>
    have hadds := Worker.accept_adds plan.config plan.transformer lane.worker index v s
    have hledgers := hadds.isTallied h.ledgers
    have hresult :=
      (Worker.accept_accepts plan.config plan.transformer lane.worker index v s).result
    unfold takeItem
    dsimp only
    generalize lane.worker.accept plan.config plan.transformer index v s = out
      at hledgers hresult ⊢
    obtain ⟨out, w, s'⟩ := out
    dsimp only at hledgers hresult ⊢
    have hattempts : n = w.result.attempts := by
      rw [hn, hresult]
      rfl
    cases out with
    | sealed batch? => exact begin_tallied batch? .goOn s' hledgers hattempts
    | halted e => exact tallied_of_idle hledgers hattempts rfl rfl
    | refused r =>
      dsimp only
      split
      · exact tallied_of_idle hledgers hattempts (by rw [hphase]; rfl) (by rw [hphase]; rfl)
      · exact begin_tallied _ (.stop index r) s' (Worker.flush_isTallied hledgers) hattempts

/-- **A commit under way makes one submission**, which is one more that is not booked. -/
theorem submit?_tallied {lane' : Lane} {s' : Session σ} (hp : plan.config.retry.IsComputable)
    (hstep : submit? plan lane s = some (lane', s')) (h : Tallied n lane) :
    Tallied (n + 1) lane' := by
  obtain ⟨c, begun, next, hphase, -⟩ := submit?_inv hstep
  obtain ⟨stepped, hsteps, rfl⟩ := submit?_steps hphase hstep
  have hn : n = lane.worker.result.attempts + c.attempts := by
    rw [h.submissions, hphase]
    rfl
  cases stepped with
  | inl again =>
    obtain ⟨-, -, hattempts⟩ := hsteps.again_inv
    refine ⟨h.ledgers, fun e he => absurd he List.not_mem_nil, ?_⟩
    change n + 1 = lane.worker.result.attempts + again.1.attempts
    rw [hattempts, hn, Nat.add_assoc]
  | inr v =>
    refine ⟨h.ledgers, fun e he => ?_, ?_⟩
    · rw [List.mem_singleton.mp he]
      exact hsteps.about
    · change n + 1 = lane.worker.result.attempts + v.attempts
      rw [hsteps.attempts_eq (hsteps.isClear hp), hn, Nat.add_assoc]

/-- A commit is booked with its submissions. -/
theorem settle_attempts (config : Config) {w : Worker} {b : Batch} {v : Commit.Verdict}
    (hv : v.About b) (seconds : Binary64) (s : Session σ) :
    (w.settle config b v seconds s).2.1.result.attempts = w.result.attempts + v.attempts := by
  have hadds := (Worker.settle_adds config w hv seconds s).result
  have hsum : ((w.settle config b v seconds s).2.1.result.attempts : Int) =
      w.result.attempts + (Worker.added b v).attempts := congrArg Tally.attempts hadds
  have hadded : (Worker.added b v).attempts = (v.attempts : Int) := by
    cases v <;> rfl
  omega

/-- **A worker whose commit has ended** books it. -/
theorem resume?_tallied {lane' : Lane} {s' : Session σ}
    (hstep : resume? plan lane s = some (lane', s')) (h : Tallied n lane) : Tallied n lane' := by
  unfold resume? at hstep
  split at hstep
  · next b v begun next hphase =>
    have hv : v.About b := h.due (b, v) (by rw [hphase]; exact List.mem_cons_self)
    have hledgers := (Worker.settle_adds plan.config lane.worker hv (s.clock - begun) s).isTallied
      h.ledgers
    have hattempts := settle_attempts plan.config (w := lane.worker) hv (s.clock - begun) s
    have hn : n = lane.worker.result.attempts + v.attempts := by
      rw [h.submissions, hphase]
      rfl
    rw [← hattempts] at hn
    have hsettled := Option.some.inj hstep
    unfold settled at hsettled
    generalize lane.worker.settle plan.config b v (s.clock - begun) s = out
      at hledgers hn hsettled
    obtain ⟨stop?, w, s₁⟩ := out
    dsimp only at hledgers hn hsettled
    split at hsettled
    · cases hsettled
      exact tallied_of_idle hledgers hn rfl rfl
    · cases hsettled
      exact tallied_of_idle hledgers hn rfl rfl
    · rw [show lane' = _ from (congrArg Prod.fst hsettled).symm]
      exact proceed_tallied _ _ hledgers hn
  · cases hstep

/-- **A worker is cancelled**, whatever it is doing. -/
theorem cancelLane_tallied (s : Session σ) (h : Tallied n lane) :
    Tallied n (cancelLane plan lane s).1 := by
  have hsame := h.submissions
  have hdue := h.due
  unfold cancelLane
  split
  · next hphase =>
    rw [hphase] at hsame
    exact tallied_of_idle h.ledgers hsame rfl rfl
  · next c begun next hphase =>
    rw [hphase] at hsame
    exact ⟨h.ledgers, fun e he => absurd he List.not_mem_nil, hsame⟩
  · next b v begun next hphase =>
    rw [hphase] at hsame hdue
    exact ⟨h.ledgers, hdue, hsame⟩
  · exact h

end Lane

/-! ## 2. All workers -/

section Run

variable {plan : Plan σ} {st st' : State σ} {log more : List Event}

/-- The ledgers of every worker are in line with what it has submitted. -/
def AllTallied (log : List Event) (st : State σ) : Prop :=
  ∀ n lane, st.lanes[n]? = some lane → Tallied (submittedBy n log).length lane

/-- **No step brings the ledgers out of line.** -/
theorem Moves.tallied (hp : plan.config.retry.IsComputable) (h : Moves plan st more st')
    (ht : AllTallied log st) : AllTallied (log ++ more) st' := by
  cases h with
  | put n item old producer hproduces hold hroom =>
    rw [List.append_nil]
    have htallied := ht n old hold
    exact forall_set ⟨htallied.ledgers, htallied.due, htallied.submissions⟩
      fun m lane _ hlane => ht m lane hlane
  | turn producer hproduces =>
    rw [List.append_nil]
    exact ht
  | take n item old queue hold hphase hqueue =>
    have hsame : ∀ m, submittedBy m (log ++ item.events n) = submittedBy m log := by
      intro m
      rw [submittedBy_append, submittedBy_events, List.append_nil]
    refine forall_set ?_ fun m lane _ hlane => ?_
    · rw [hsame]
      have htallied := ht n old hold
      exact takeItem_tallied item st.session hphase
        ⟨htallied.ledgers, htallied.due, htallied.submissions⟩
    · rw [hsame]
      exact ht m lane hlane
  | submit n old lane' s c begun next hold hphase hsubmit =>
    refine forall_set ?_ fun m lane hne hlane => ?_
    · rw [submittedBy_append, submittedBy_submitted, if_pos rfl, List.length_append,
        List.length_singleton]
      exact submit?_tallied hp hsubmit (ht n old hold)
    · rw [submittedBy_append, submittedBy_submitted, if_neg hne.symm, List.append_nil]
      exact ht m lane hlane
  | resume n old lane' s hold hresume =>
    rw [List.append_nil]
    exact forall_set (resume?_tallied hresume (ht n old hold)) fun m lane _ hlane => ht m lane hlane
  | cancel course hrunning hcourse =>
    rw [List.append_nil]
    intro m lane hlane
    obtain ⟨old, s, hold, rfl⟩ := cancelAll_inv hlane
    exact cancelLane_tallied s (ht m old hold)

/-- **Along every run the ledgers of every worker stay in line.** -/
theorem Run.tallied {count : Nat} {source : Source} {s : Session σ}
    (hp : plan.config.retry.IsComputable)
    (h : Run plan (Parallel.start plan.config count source s) log st) : AllTallied log st := by
  refine h.rule (fun n lane hlane => ?_) fun _ _ _ _ ht hm => hm.tallied hp ht
  obtain ⟨-, rfl⟩ := start_inv hlane
  exact tallied_of_idle (Worker.start_isTallied _ _ _) rfl rfl rfl

end Run

/-! ## 3. Ledgers of several workers -/

section Merged

theorem mergedMetrics_tally : ∀ (lanes : List Lane) (m : Metrics),
    (∀ lane ∈ lanes, lane.worker.IsTallied) →
      (mergedMetrics m lanes).tally =
        m.tally + ((lanes.map (·.worker.result)).map SinkResult.tally).sum
  | [], m, _ => (add_zero _).symm
  | lane :: rest, m, h => by
    have hrest := mergedMetrics_tally rest (m.merge lane.worker.metrics) fun other hother =>
      h other (List.mem_cons_of_mem lane hother)
    change (mergedMetrics (m.merge lane.worker.metrics) rest).tally = _
    rw [hrest, Metrics.merge_tally, h lane List.mem_cons_self, List.map_cons, List.map_cons,
      List.sum_cons, add_assoc]

theorem mergedResult_tally (lanes : List Lane) :
    (mergedResult lanes).tally = ((lanes.map (·.worker.result)).map SinkResult.tally).sum := by
  have hfold : ∀ (lanes : List Lane) (r : SinkResult),
      (lanes.foldl (fun r lane => r.merge lane.worker.result) r).tally =
        r.tally + ((lanes.map (·.worker.result)).map SinkResult.tally).sum := by
    intro lanes
    induction lanes with
    | nil => exact fun r => (add_zero _).symm
    | cons lane rest ih =>
      intro r
      rw [List.foldl_cons, ih, SinkResult.merge_tally, List.map_cons, List.map_cons, List.sum_cons,
        add_assoc]
  exact (hfold lanes {}).trans (zero_add _)

theorem mergedResult_attempts (lanes : List Lane) :
    (mergedResult lanes).attempts = (lanes.map fun lane => lane.worker.result.attempts).sum := by
  have hsum := congrArg Tally.attempts (mergedResult_tally lanes)
  rw [SinkResult.sum_tally] at hsum
  have hattempts := Int.ofNat.inj hsum
  rwa [List.map_map] at hattempts

variable {σ : Type} {plan : Plan σ} {st st₀ : State σ} {log : List Event}

/-- **Where no step is possible everything is booked**: the account of all workers tells of all
submissions. -/
theorem AllTallied.length_submitted (ht : AllTallied log st) (hstuck : Stuck plan st)
    (hnumbers : ∀ e ∈ submitted log, e.1 < st.lanes.length) :
    (submitted log).length = (mergedResult st.lanes).attempts := by
  have hbooked : ∀ n lane, st.lanes[n]? = some lane →
      lane.worker.result.attempts = (submittedBy n log).length := by
    intro n lane hlane
    have hn := (ht n lane hlane).submissions
    have hspent : lane.phase.spent = 0 := by
      rcases hstuck.lane hlane with ⟨hready, -⟩ | hover
      · rw [hready]
        rfl
      · cases hphase : lane.phase with
        | committing c begun next => rw [hphase] at hover; cases hover
        | ended b v begun next => rw [hphase] at hover; cases hover
        | _ => rfl
    rw [hn, hspent, Nat.add_zero]
  have hperm := (flatMap_entriesOf_perm hnumbers).length_eq
  rw [List.length_map, List.length_flatMap] at hperm
  rw [mergedResult_attempts, map_lanes hbooked]
  exact hperm.symm

end Merged

end Parallel

/-! ## 4. One run -/

namespace Sink

open Parallel

variable {σ : Type} {store : Store σ} {source : Source} {way : Way} {stop? : Option Stop}
  {r : SinkResult}

/-- **A run adds to the metrics of its sink what its account says**, whichever way it goes. -/
theorem Writes.tally {sink sink' : Sink σ} (hp : sink.config.retry.IsComputable)
    (h : sink.Writes store source way stop? r sink') :
    sink'.metrics.tally = sink.metrics.tally + r.tally := by
  cases h with
  | sequential h => exact write_tally h
  | @parallel room count log st hrun hcourse hstuck =>
    have htallied := hrun.tallied hp
    have hledgers : ∀ lane ∈ st.lanes, lane.worker.IsTallied := by
      intro lane hlane
      obtain ⟨n, hn⟩ := List.getElem?_of_mem hlane
      exact (htallied n lane hn).ledgers
    change ((mergedMetrics sink.metrics st.lanes).finish _).tally =
      sink.metrics.tally + (mergedResult st.lanes).tally
    rw [Metrics.finish_tally, mergedMetrics_tally _ _ hledgers, mergedResult_tally]

/-- **The store sees as many submissions in a run as its account tells of.** -/
theorem Writes.attempts {sink sink' : Sink (Watched σ)} (hp : sink.config.retry.IsComputable)
    (h : sink.Writes store.watched source way stop? r sink') :
    sink'.session.state.seen.length = sink.session.state.seen.length + r.attempts := by
  cases h with
  | sequential h => exact write_attempts hp h
  | @parallel room count log st hrun hcourse hstuck =>
    have hlength : st.lanes.length = count := hrun.length_lanes.trans (length_start ..)
    have hnumbers : ∀ e ∈ submitted log, e.1 < st.lanes.length := by
      rw [hlength, ← length_start sink.config count source sink.session]
      exact hrun.numbers.2
    have hsubmitted := (hrun.tallied hp).length_submitted hstuck hnumbers
    change st.session.state.seen.length = _ + (mergedResult st.lanes).attempts
    rw [hrun.seen rfl, List.length_append, List.length_map, hsubmitted]
    rfl

theorem Writes.config {sink sink' : Sink σ} (h : sink.Writes store source way stop? r sink') :
    sink'.config = sink.config := by
  cases h with
  | sequential h =>
    unfold write at h
    dsimp only at h
    cases h
    rfl
  | parallel => rfl

/-! ## 5. Series -/

/-- A sink that is used again: time may have passed and the log may have grown, but the store and
the metrics are as they were left. -/
structure Resumes (sink again : Sink σ) : Prop where
  config : again.config = sink.config
  transformer : again.transformer = sink.transformer
  metrics : again.metrics = sink.metrics
  state : again.session.state = sink.session.state

/-- **Runs of one sink**, one after the other, in either way, with their accounts. -/
inductive Series (store : Store σ) (sink : Sink σ) : List SinkResult → Sink σ → Prop where
  | none : Series store sink [] sink
  | run {results : List SinkResult} {last again sink' : Sink σ} {source : Source} {way : Way}
      {stop? : Option Stop} {r : SinkResult} (h : Series store sink results last)
      (hagain : last.Resumes again) (hwrites : again.Writes store source way stop? r sink') :
      Series store sink (results ++ [r]) sink'

/-- Along a series the metrics grow by what the accounts say, and the store sees as many submissions
as they tell of. -/
theorem Series.tally {sink sink' : Sink (Watched σ)} {results : List SinkResult}
    (hp : sink.config.retry.IsComputable) (h : sink.Series store.watched results sink') :
    sink'.config = sink.config ∧
      sink'.metrics.tally = sink.metrics.tally + (results.map SinkResult.tally).sum ∧
      sink'.session.state.seen.length =
        sink.session.state.seen.length + (results.map SinkResult.attempts).sum := by
  induction h with
  | none => exact ⟨rfl, (add_zero _).symm, rfl⟩
  | run _ hagain hwrites ih =>
    obtain ⟨hconfig, htally, hseen⟩ := ih
    have hsame := hagain.config.trans hconfig
    rw [← hsame] at hp
    refine ⟨hwrites.config.trans hsame, ?_, ?_⟩
    · rw [hwrites.tally hp, hagain.metrics, htally, List.map_append, List.sum_append, add_assoc]
      simp
    · rw [hwrites.attempts hp, hagain.state, hseen, List.map_append, List.sum_append, Nat.add_assoc]
      simp

/-- A sink that has been set up has no counts yet, and its store has seen no submission since. -/
theorem setup_fresh {config : Config} {owned : Bool} {s s₀ : Session (Watched σ)}
    {sink : Sink (Watched σ)} (h : setup config store.watched owned s = (.ok sink, s₀)) :
    sink.config = config ∧ sink.metrics.tally = 0 ∧ sink.session.state.seen = s.state.seen := by
  unfold setup at h
  split at h
  · cases h
  · dsimp only at h
    split at h
    · cases h
    · cases h
      exact ⟨rfl, rfl, rfl⟩

/-- **Metrics and accounts agree along every series of runs.** A sink has been set up, and its
delays can be computed. Then after any number of runs, in sequence or with several workers whose
steps come in any order, whatever the sources and the store do and whatever stops a run: each
counter of the metrics is the sum of what the accounts so far say, and the store has seen as many
submissions as they tell of. -/
theorem series_agrees {config : Config} {owned : Bool} {s s₀ : Session (Watched σ)}
    {sink sink' : Sink (Watched σ)} {results : List SinkResult}
    (hsetup : setup config store.watched owned s = (.ok sink, s₀))
    (hp : config.retry.IsComputable) (h : sink.Series store.watched results sink') :
    sink'.metrics.Agrees results ∧
      sink'.session.state.seen.length =
        s.state.seen.length + (results.map SinkResult.attempts).sum := by
  obtain ⟨hconfig, hfresh, hseen⟩ := setup_fresh hsetup
  rw [← hconfig] at hp
  obtain ⟨-, htally, hsubmissions⟩ := h.tally hp
  refine ⟨Metrics.agrees_of_tally ?_, ?_⟩
  · rw [htally, hfresh, zero_add]
  · rw [hsubmissions, hseen]

/-- Two runs with two records each, the first of which fails to commit its first batch, and the
second of which has two workers: one failed batch is counted, three committed ones, and four
submissions. -/
theorem series_agrees_two :
    let config := Sample.config ⟨1, 1000⟩ .proceed
    let s : Session (Watched Scripted) := { state := ⟨Sample.store 1, []⟩, clock := .zero }
    ∃ sink s₀ results sink', setup config Scripted.store.watched false s = (.ok sink, s₀) ∧
      config.retry.IsComputable ∧ sink.Series Scripted.store.watched results sink' ∧
      results.map (·.received) = [2, 2] ∧ sink'.metrics.Agrees results ∧
      sink'.metrics.failed = 1 ∧ sink'.metrics.committed = 3 ∧
      sink'.session.state.seen.length = 4 := by
  intro config s
  let records : Source := ⟨[Sample.record 1, Sample.record 2], none⟩
  let sink : Sink (Watched Scripted) :=
    { config, transformer := Sample.transformer
      session := (setup config Scripted.store.watched false s).2
      metrics := { sink := config.name
                   start := (setup config Scripted.store.watched false s).2.clock } }
  have hsetup : setup config Scripted.store.watched false s =
      (.ok sink, (setup config Scripted.store.watched false s).2) := rfl
  have hp : config.retry.IsComputable := by decide +kernel
  let first := sink.write Scripted.store.watched records
  have hwritten : sink.write Scripted.store.watched records =
      (first.1, first.2.1, first.2.2) := rfl
  have hfirst : sink.Series Scripted.store.watched [first.2.1] first.2.2 :=
    .run .none ⟨rfl, rfl, rfl, rfl⟩ (.sequential hwritten)
  let second := first.2.2.writeParallel Scripted.store.watched 2 records
  obtain ⟨log, st, hrun, hstuck, hcourse, hwrite⟩ :=
    first.2.2.writeParallel_run Scripted.store.watched 2 records
  have hresult : (first.2.2.conclude st).1 = second.2.1 := by
    unfold second
    rw [hwrite]
  have hsink : (first.2.2.conclude st).2 = second.2.2 := by
    unfold second
    rw [hwrite]
  have hsecond : sink.Series Scripted.store.watched [first.2.1, second.2.1] second.2.2 := by
    rw [← hresult, ← hsink]
    exact .run hfirst ⟨rfl, rfl, rfl, rfl⟩ (.parallel hrun hcourse hstuck)
  obtain ⟨hagrees, -⟩ := series_agrees hsetup hp hsecond
  refine ⟨sink, _, _, _, hsetup, hp, hsecond, ?_, hagrees, ?_, ?_, ?_⟩ <;> decide +kernel

end Sink

end Sluice
