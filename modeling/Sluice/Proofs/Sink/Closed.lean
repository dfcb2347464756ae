import Sluice.Proofs.Config.Read
import Sluice.Proofs.Parallel.Progress
import Sluice.Proofs.Sink.Planned
import Sluice.Proofs.Store.Called

/-!
# Stores are closed once, and last

A store is released in two places: where its table could not be made ready, and where a run is left
after writing, however that has ended. A run passes exactly one of them, and it passes it last: in
sequence every commit is over before the next step, and a parallel run is left only when no commit
is under way any more.

* `Sink.Goes`, `Sink.Executes`: **all ways in which a run may go**, with parallel workers in any
  order of steps;
* `Sink.execute_executes`: the run of a valid configuration is one of them;
* `Executes.calls`: **what the store is asked to do in each of them**.
-/

namespace Sluice

open Parallel

variable {σ : Type}

namespace Sink

/-! ## 1. Ways to go -/

/-- A sink that has logged with how many workers it writes. -/
def announced (sink : Sink σ) : Sink σ :=
  { sink with
    session := reportTable sink.config
      ("Writing with " ++ Text.ofInt sink.config.workers ++ " workers") sink.session }

/-- How the parallel runs of a sink are planned when its own configuration says how. -/
def ownPlan (store : Store σ) (sink : Sink σ) (source : Source) : Parallel.Plan σ :=
  sink.announced.plan store sink.config.bounds.maxOperations source

/-- **How writing may go**: in sequence; or in parallel, in any order of steps up to one after which
the run is left; or not at all, where no parallel run can be started. Of a parallel run its plan and
its last state are kept. -/
inductive Goes (store : Store σ) (sink : Sink σ) (source : Source) :
    Option (Parallel.Plan σ × State σ) → Ending → Sink σ → Prop where
  | sequence {stop? : Option Stop} {r : SinkResult} {sink' : Sink σ}
      (hone : ¬ 1 < sink.config.workers) (h : sink.write store source = (stop?, r, sink')) :
      Goes store sink source none (sequentialEnding sink'.config r stop?) sink'
  | parallel {log : List Event} {st : State σ} (hseveral : 1 < sink.config.workers)
      (hrun : Parallel.Run (sink.ownPlan store source)
        (start sink.config sink.config.workers source sink.announced.session) log st)
      (hcourse : st.course ≠ .interrupted) (hreturns : st.Returns) :
      Goes store sink source (some (sink.ownPlan store source, st))
        (parallelEnding sink.config sink.config.workers (sink.announced.conclude st).1
          (Parallel.stop? st))
        (sink.announced.conclude st).2
  | nested (hseveral : 1 < sink.config.workers) :
      Goes store sink source none (.failed Parallel.nested none) sink

/-- A sink's session when its run begins. -/
def begin_ (config : Config) (state : σ) (clock : Binary64) : Session σ :=
  reportTable config ("Starting sink with parallelism=" ++ Text.ofNat config.workers)
    { state, clock }

/-- What is left to do when writing has ended: it is concluded, and the store is left. -/
def leave (config : Config) (store : Store σ) (owned : Bool) (sink : Sink σ) (ending : Ending) :
    Ending × Session σ :=
  let (ending, s) := sink.conclusion ending
  let s := teardown config store owned s
  match ending with
  | .done r =>
    let metrics := sink.metrics.ended s.clock
    (.done r, report config .info ("Completed sink: " ++ metrics.summary) s)
  | ending => (ending, s)

/-- **How a run may go**: there is no store; or its table cannot be made ready; or records are
written, in one of the ways in which that may go. -/
inductive Executes (config : Config) (store : Store σ) (owned : Bool) (source : Source)
    (clock : Binary64) : Except Failure σ → Option (Parallel.Plan σ × State σ) → Ending →
      Option (Session σ) → Prop where
  | unopened (f : Failure) :
      Executes config store owned source clock (.error f) none
        (.failed (storeFailure config f) none) none
  | unprepared {state : σ} {f : Failure} {s : Session σ}
      (hsetup : setup config store owned (begin_ config state clock) = (.error f, s)) :
      Executes config store owned source clock (.ok state) none (.failed f none) (some s)
  | written {state : σ} {sink sink' : Sink σ} {s : Session σ}
      {last? : Option (Parallel.Plan σ × State σ)} {ending : Ending}
      (hsetup : setup config store owned (begin_ config state clock) = (.ok sink, s))
      (hgoes : Goes store sink source last? ending sink') :
      Executes config store owned source clock (.ok state) last?
        (leave config store owned sink' ending).1
        (some (leave config store owned sink' ending).2)

/-! ## 2. The run in the usual order -/

/-- Writing in the way that the configuration says is one of the ways in which writing may go. -/
theorem writeBy_goes {sink : Sink σ} (hvalid : sink.config.IsValid) (store : Store σ)
    (source : Source) :
    ∃ last?, Goes store sink source last?
      (sink.writeBy store (if 1 < sink.config.workers then .parallel sink.config.workers
        else .sequential) source).1
      (sink.writeBy store (if 1 < sink.config.workers then .parallel sink.config.workers
        else .sequential) source).2 := by
  by_cases hseveral : 1 < sink.config.workers
  · obtain ⟨log, st, hrun, hstuck, hcourse, hwrite⟩ :=
      sink.announced.writeParallel_run store sink.config.workers source
    have hreturns : st.Returns :=
      hrun.returns_of_stuck hvalid.workers hvalid.bounds.operations hstuck
    have hworkers : Parallel.workers sink.config.workers = .ok sink.config.workers := by
      unfold Parallel.workers
      rw [if_neg (by omega), Int.toNat_natCast]
    rw [if_pos hseveral]
    unfold writeBy
    dsimp only
    rw [hworkers]
    dsimp only
    change ∃ last?, Goes store sink source last?
      (parallelEnding _ _ (sink.announced.writeParallel store sink.config.workers source).2.1
        (sink.announced.writeParallel store sink.config.workers source).1)
      (sink.announced.writeParallel store sink.config.workers source).2.2
    rw [hwrite]
    exact ⟨_, .parallel hseveral hrun hcourse hreturns⟩
  · rw [if_neg hseveral]
    exact ⟨none, .sequence hseveral rfl⟩

/-- **The run of a valid configuration is one of the ways in which a run may go.** -/
theorem execute_executes {config : Config} (hvalid : config.IsValid) (store : Store σ)
    (opened : Except Failure σ) (owned : Bool) (source : Source) (clock : Binary64) :
    ∃ last?, Executes config store owned source clock opened last?
      (execute config store opened owned source clock).ending
      (execute config store opened owned source clock).session? := by
  cases opened with
  | error f => exact ⟨none, .unopened f⟩
  | ok state =>
    cases hsetup : setup config store owned (begin_ config state clock) with
    | mk out s =>
      have hexecute : execute config store (.ok state) owned source clock =
          ⟨(executeWith config store owned source (begin_ config state clock)).1,
            some (executeWith config store owned source (begin_ config state clock)).2,
            (executeWith config store owned source (begin_ config state clock)).2.log⟩ := rfl
      rw [hexecute]
      unfold executeWith
      rw [hsetup]
      cases out with
      | error f => exact ⟨none, .unprepared hsetup⟩
      | ok sink =>
        obtain ⟨hconfig, -, -⟩ := setup_ok hsetup
        obtain ⟨last?, hgoes⟩ := writeBy_goes (hconfig.symm ▸ hvalid) store source
        rw [hconfig] at hgoes
        exact ⟨last?, .written hsetup hgoes⟩

/-! ## 3. What the store is asked to do -/

section Calls

variable {store : Store σ} {config : Config} {owned : Bool} {source : Source} {clock : Binary64}

/-- The calls that release a store. -/
def closing (owned : Bool) : List StoreCall := if owned then [.close] else []

/-- Releasing a store closes it if it was made for the run. -/
theorem release_calls (s : Session (Called σ)) :
    (release store.called owned s).state.calls = s.state.calls ++ closing owned := by
  cases owned with
  | true => rfl
  | false => exact (List.append_nil _).symm

theorem conclusion_state (sink : Sink σ) (ending : Ending) :
    (sink.conclusion ending).2.state = sink.session.state := by
  unfold conclusion
  split
  · rfl
  · split <;> rfl

/-- Leaving a sink releases its store, whatever there is to log. -/
theorem leave_state (sink : Sink σ) (ending : Ending) :
    (leave config store owned sink ending).2.state =
      (release store owned sink.session).state := by
  have hstate := conclusion_state sink ending
  unfold leave
  generalize sink.conclusion ending = out at hstate ⊢
  obtain ⟨ending, s⟩ := out
  have hrelease : (release store owned s).state = (release store owned sink.session).state := by
    cases owned with
    | true => exact congrArg store.close hstate
    | false => exact hstate
  cases ending with
  | done r => exact hrelease
  | failed f partial? => exact hrelease

/-- **Setting a sink up** makes the table ready, which is the only call to the store; if that fails,
the store is released. -/
theorem setup_calls (hvalid : config.IsValid) (s : Session (Called σ)) :
    (∃ f s', setup config store.called owned s = (.error f, s') ∧ s'.state.calls =
      s.state.calls ++ .prepare config.table config.schema config.keyColumns :: closing owned) ∨
    ∃ sink s', setup config store.called owned s = (.ok sink, s') ∧ s'.state.calls =
      s.state.calls ++ [.prepare config.table config.schema config.keyColumns] := by
  unfold setup
  rw [hvalid.make]
  dsimp only
  split
  · refine .inl ⟨_, _, rfl, ?_⟩
    rw [release_calls]
    change (s.state.calls ++ [_]) ++ _ = _
    rw [List.append_assoc]
    rfl
  · exact .inr ⟨_, _, rfl, rfl⟩

/-- **Writing only submits**, however it goes. -/
theorem Goes.submits {sink sink' : Sink σ} {last? : Option (Parallel.Plan σ × State σ)}
    {ending : Ending} (h : Goes store sink source last? ending sink') :
    store.SubmitsTo sink.config.retry.timeout? sink.session.state sink'.session.state := by
  cases h with
  | sequence hone h => exact write_submits h
  | parallel hseveral hrun hcourse hreturns => exact hrun.submits
  | nested hseveral => exact .none

/-- Where a parallel run is left, every worker is over and nothing can go on. -/
theorem Goes.last {sink sink' : Sink σ} {last? : Option (Parallel.Plan σ × State σ)}
    {ending : Ending} (h : Goes store sink source last? ending sink') :
    ∀ last ∈ last?, AllOver last.2 ∧ Stuck last.1 last.2 := by
  cases h with
  | sequence hone h => exact fun last hlast => absurd hlast (Option.not_mem_none last)
  | parallel hseveral hrun hcourse hreturns =>
    rintro last hlast
    cases hlast
    exact ⟨hreturns.lanes, hreturns.stuck⟩
  | nested hseveral => exact fun last hlast => absurd hlast (Option.not_mem_none last)

/-- **What the store is asked to do in a run**: to make the table ready, then for submissions only;
and if it was made for the run, to close, which is the last thing. -/
theorem Executes.calls (hvalid : config.IsValid) {w : Called σ}
    {last? : Option (Parallel.Plan (Called σ) × State (Called σ))} {ending : Ending}
    {s? : Option (Session (Called σ))}
    (h : Executes config store.called owned source clock (.ok w) last? ending s?) :
    ∃ (s : Session (Called σ)) (groups : List (List Operation)), s? = some s ∧ s.state.calls =
      w.calls ++ .prepare config.table config.schema config.keyColumns ::
        (groups.map (StoreCall.submit · config.retry.timeout?) ++ closing owned) := by
  cases h with
  | unprepared hsetup =>
    rcases setup_calls hvalid (begin_ config w clock) with ⟨f', s', hfails, hcalls⟩ |
      ⟨sink, s', hready, -⟩
    · rw [hsetup] at hfails
      cases hfails
      exact ⟨_, [], rfl, hcalls⟩
    · rw [hsetup] at hready
      cases hready
  | @written _ sink sink' s' _ ending hsetup hgoes =>
    obtain ⟨hconfig, hsession, -⟩ := setup_ok hsetup
    rcases setup_calls hvalid (begin_ config w clock) with ⟨f', s'', hfails, -⟩ |
      ⟨sink'', s'', hready, hprepared⟩
    · rw [hsetup] at hfails
      cases hfails
    · rw [hsetup] at hready
      cases hready
      obtain ⟨groups, hgroups⟩ := hgoes.submits.calls
      rw [hsession, hconfig] at hgroups
      refine ⟨_, groups, rfl, ?_⟩
      rw [leave_state, release_calls, hgroups, hprepared, List.append_assoc, List.append_assoc]
      rfl

/-- Of a parallel run, what is left behind can do nothing any more. -/
theorem Executes.last {store : Store σ} {opened : Except Failure σ}
    {last? : Option (Parallel.Plan σ × State σ)} {ending : Ending} {s? : Option (Session σ)}
    (h : Executes config store owned source clock opened last? ending s?) :
    ∀ last ∈ last?, AllOver last.2 ∧ Stuck last.1 last.2 := by
  cases h with
  | unopened f => exact fun last hlast => absurd hlast (Option.not_mem_none last)
  | unprepared hsetup => exact fun last hlast => absurd hlast (Option.not_mem_none last)
  | written hsetup hgoes => exact hgoes.last

end Calls

/-- **A store is closed exactly once, last, and only if it was made for the run.** Whatever a
configuration that has been read says, whatever the records are and however the store answers, in
every way in which the run may go: if a store is there, it is asked to make the table ready, then
for submissions, each with the time that one attempt may take, and if it was made for the run, then
to close, once and behind everything else; one that was passed in is never closed. When a parallel
run is left no commit is under way, and no part of it can make another step, so nothing is submitted
after that either. The run in the usual order is one of all these. -/
theorem execute_closes {es : List (Value × Value)} {config : Config}
    (hread : Config.read es = .ok config) (store : Store σ) (opened : Except Failure (Called σ))
    (owned : Bool) (source : Source) (clock : Binary64) :
    (∀ last? ending s?, Executes config store.called owned source clock opened last? ending s? →
      (∀ w, opened = .ok w → ∃ (s : Session (Called σ)) (groups : List (List Operation)),
        s? = some s ∧ s.state.calls =
          w.calls ++ .prepare config.table config.schema config.keyColumns ::
          (groups.map (StoreCall.submit · config.retry.timeout?) ++
            if owned then [.close] else [])) ∧
      ((∃ f, opened = .error f) → s? = none) ∧
      ∀ last ∈ last?, AllOver last.2 ∧
        ∀ choice, choice ≠ .interrupt → step last.1 last.2 choice = none) ∧
    ∃ last?, Executes config store.called owned source clock opened last?
      (execute config store.called opened owned source clock).ending
      (execute config store.called opened owned source clock).session? := by
  have hvalid := Config.read_isValid hread
  refine ⟨fun last? ending s? h => ⟨?_, ?_, h.last⟩, execute_executes hvalid ..⟩
  · rintro w rfl
    exact h.calls hvalid
  · rintro ⟨f, rfl⟩
    cases h
    rfl

/-- Two workers write four numbers, and the store refuses the first submission. The other worker's
commit is seen through before the run is left, and then the store is closed if it was made for it. -/
theorem execute_closes_refused :
    let es : List (Value × Value) :=
      [(.text "name", .text "numbers"), (.text "table", .text "numbers"),
        (.text "key_columns", .list [.text "id"]),
        (.text "schema", .list [.ofPairs [("name", .text "id"), ("type", .text "INT64")]]),
        (.text "batching", .ofPairs [("max_operations", .int 1)]), (.text "parallelism", .int 2)]
    let source : Source := ⟨(List.range 4).map fun n => Sample.record n, none⟩
    ∃ config, Config.read es = .ok config ∧ config.workers = 2 ∧
      ∀ owned, ∃ (s : Session (Called Scripted)) (groups : List (List Operation)),
        (execute config Scripted.store.called (.ok ⟨Sample.store 1, []⟩) owned source
          .zero).session? = some s ∧
        groups.length = 2 ∧ s.state.calls =
          .prepare config.table config.schema config.keyColumns ::
            (groups.map (StoreCall.submit · config.retry.timeout?) ++
              if owned then [.close] else []) := by
  intro es source
  cases hread : Config.read es with
  | error refusal =>
    have hok : (Config.read es).isOk = true := by decide +kernel
    rw [hread] at hok
    cases hok
  | ok config =>
    have hcount : ∀ owned : Bool, (match Config.read es with
        | .ok c => (c.workers, (execute c Scripted.store.called (.ok ⟨Sample.store 1, []⟩) owned
            source .zero).session?.map (·.state.calls.length))
        | .error _ => (0, none)) = (2, some (if owned then 4 else 3)) := by decide +kernel
    rw [hread] at hcount
    refine ⟨config, rfl, congrArg Prod.fst (hcount true), fun owned => ?_⟩
    obtain ⟨hall, last?, hexecutes⟩ :=
      execute_closes hread Scripted.store (.ok ⟨Sample.store 1, []⟩) owned source .zero
    obtain ⟨hcalls, -, -⟩ := hall _ _ _ hexecutes
    obtain ⟨s, groups, hs, hcalls⟩ := hcalls _ rfl
    have hlength := congrArg Prod.snd (hcount owned)
    dsimp only at hlength
    rw [hs, Option.map_some, hcalls] at hlength
    refine ⟨s, groups, hs, ?_, hcalls⟩
    have hsum := Option.some.inj hlength
    cases owned <;> simpa using hsum

end Sink

end Sluice
