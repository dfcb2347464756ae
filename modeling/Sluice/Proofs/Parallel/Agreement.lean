import Sluice.Proofs.Parallel.Undisturbed

/-!
# Parallel runs and runs in sequence

The two ways of writing put the same operations into different batches and submit them in different
orders. Where the records do not get in each other's way this cannot be seen in the table: operations
on different keys commute, whatever their kinds.

* `Undisturbed.isMap_of_perm`, `Undisturbed.afterAll_perm`: the operations of the records, applied in
  any order, make **one map**;
* `Sink.parallel_sequential`: **both ways leave the same map from keys to rows**.
-/

namespace Sluice

open Parallel

section Orders

variable {σ : Type} {config : Config} {transformer : Transformer} {store : Store σ}
  {memory : σ → Memory} {I : σ → Prop} {source : Source} {state : σ} {t : Table}
  {os : List Operation}

theorem Undisturbed.isMap_of_perm
    (h : Undisturbed config transformer store memory I source state t)
    (hperm : os.Perm (transformer.operationsOf source.records)) : (t.afterAll os).IsMap :=
  h.apart.isMap.afterAll fun o ho => h.apart.independent.keys o (hperm.mem_iff.mp ho)

theorem Undisturbed.afterAll_perm
    (h : Undisturbed config transformer store memory I source state t)
    (hperm : os.Perm (transformer.operationsOf source.records)) :
    (t.afterAll os).Perm (t.afterAll (transformer.operationsOf source.records)) :=
  Table.afterAll_perm hperm (h.apart.independent.subperm hperm.subperm)

end Orders

/-- **Parallel and sequential runs agree.** Records whose operations have different keys, in a table
that lacks the keys to be inserted and has the ones to be updated, are written once with several
workers and once in sequence, each time by a store that does nothing worse than to hold up commits,
none of them too often. Then neither run is stopped, and whatever the order of the steps of the
parallel one, when nothing can go on both have left the same map from keys to rows. -/
theorem Sink.parallel_sequential {σ τ : Type} {store : Store σ} {memory : σ → Memory}
    {I : σ → Prop} {other : Store τ} {memory' : τ → Memory} {I' : τ → Prop} {sink : Sink σ}
    {sink' sink'' : Sink (Watched τ)} {source : Source} {t : Table}
    (hu : Undisturbed sink.config sink.transformer store memory I source sink.session.state t)
    (hu' : Undisturbed sink'.config sink'.transformer other memory' I' source
      sink'.session.state.state t)
    (htransformer : sink'.transformer = sink.transformer)
    {room count : Nat} {log : List Event} {st : State σ} (hcount : 0 < count) (hroom : 0 < room)
    (hrun : Parallel.Run (sink.plan store room source)
      (start sink.config count source sink.session) log st)
    (hspared : ∀ n, Spared sink.config.retry.maxRetries (outcomesOf n log))
    (hcourse : st.course ≠ .interrupted) (hstuck : Stuck (sink.plan store room source) st)
    {stop? : Option Stop} {r : SinkResult} {subs : List Submission}
    (hwrite : sink'.write other.watched source = (stop?, r, sink''))
    (hsubs : sink''.session.state.seen = sink'.session.state.seen ++ subs)
    (hspared' : Spared sink'.config.retry.maxRetries (subs.map (·.outcome))) :
    st.course = .running ∧ stop? = none ∧
    ∃ left right,
      Memory.table? (memory st.session.state).tables sink.transformer.table = some left ∧
      Memory.table? (memory' sink''.session.state.state).tables sink.transformer.table =
        some right ∧
      left.Perm right ∧ left.IsMap ∧ right.IsMap ∧
      ∀ key, Value.IsKey key → left.get? key = right.get? key := by
  obtain ⟨hrunning, hleft, hperm⟩ :=
    parallel_undisturbed hu hcount hroom hrun hspared hcourse hstuck
  obtain ⟨hnone, hright⟩ := write_undisturbed hu' hwrite hsubs hspared'
  rw [htransformer] at hright
  have hmap := hu.isMap_of_perm hperm
  have hsame := hu.afterAll_perm hperm
  refine ⟨hrunning, hnone, _, _, hleft, hright, hsame, hmap, hmap.perm hsame, fun key hk => ?_⟩
  exact Table.get?_perm hmap hsame hk

namespace Sample

/-- A store that holds up submissions, where it is told to. -/
def holding (plan : List Bool) : Scripted where
  memory := Memory.prepare {} "numbers"
  failures := plan.map fun held =>
    if held then some { kind := .storeTransient, message := "busy" } else none

def records : Source := ⟨[record 1, record 2, record 3, .ofPairs []], none⟩

theorem holding_isPassing (plan : List Bool) : (holding plan).IsPassing where
  failures f hf := by
    obtain ⟨held, -, heq⟩ := List.mem_map.mp hf
    cases held <;> cases heq
    rfl
  byKey _ he := absurd he List.not_mem_nil
  always _ he := absurd he List.not_mem_nil

theorem undisturbed (bounds : Bounds) (plan : List Bool) :
    Undisturbed (config bounds .fail) transformer Scripted.store Scripted.memory Scripted.IsPassing
      records (holding plan) [] where
  stalls := Scripted.store_stalls
  inside := holding_isPassing plan
  there := Memory.table?_prepare {} "numbers"
  skips := rfl
  computable := by
    have h : RetryPolicy.IsComputable ⟨1, .zero, .ofInt 1, .zero, none⟩ := by decide +kernel
    exact h
  ends := rfl
  apart := by
    refine ⟨by decide +kernel, ⟨fun e he => absurd he List.not_mem_nil, .nil⟩, ?_, ?_, ?_⟩ <;>
      decide +kernel

end Sample

/-- Three numbers and a record without one, for two workers: the first submission of one run is held
up, and the second one of the other; the rows come in different orders. -/
theorem Sink.parallel_sequential_heldUp :
    let sink := Sample.sink ⟨2, 1000⟩ .fail (Watched.mk (Sample.holding [true]) [])
    let sink' := Sample.sink ⟨2, 1000⟩ .fail (Watched.mk (Sample.holding [false, true]) [])
    let st := drive (sink.plan Scripted.store.watched 1 Sample.records) usualOrder 100
      (start sink.config 2 Sample.records sink.session)
    let out := sink'.write Scripted.store.watched Sample.records
    ∃ left right, Memory.table? st.session.state.state.memory.tables "numbers" = some left ∧
      Memory.table? out.2.2.session.state.state.memory.tables "numbers" = some right ∧
      left.Perm right ∧ left.get? [.int 2] = right.get? [.int 2] ∧
      left[1]?.any (fun e => Value.sameKey e.1 [.int 3]) = true ∧
      right[1]?.any (fun e => Value.sameKey e.1 [.int 2]) = true := by
  intro sink sink' st out
  have hdone : st.isDone = true := by decide +kernel
  have hrunning := (State.isDone_inv hdone).1
  have hstuck : Stuck (sink.plan Scripted.store.watched 1 Sample.records) st :=
    State.isDone_stuck hdone
  obtain ⟨log, hrun⟩ : ∃ log, Parallel.Run (sink.plan Scripted.store.watched 1 Sample.records)
      (start sink.config 2 Sample.records sink.session) log st := Run.drive_start ..
  have hspared := hrun.spared_of_seen rfl (m := 1) (by decide +kernel)
  have hfew : (out.2.2.session.state.seen.map (·.outcome)).countP
      (fun outcome => Commit.IsPassing outcome) ≤ 1 := by decide +kernel
  have hthird : (Memory.table? st.session.state.state.memory.tables "numbers").any
      (fun t => t[1]?.any fun e => Value.sameKey e.1 [.int 3]) = true := by decide +kernel
  have hsecond : (Memory.table? out.2.2.session.state.state.memory.tables "numbers").any
      (fun t => t[1]?.any fun e => Value.sameKey e.1 [.int 2]) = true := by decide +kernel
  clear_value st
  rcases hwrite : sink'.write Scripted.store.watched Sample.records with ⟨stop?, r, sink''⟩
  have hout : out = (stop?, r, sink'') := hwrite
  rw [hout] at hfew hsecond ⊢
  have hu : Undisturbed sink.config sink.transformer Scripted.store.watched
      (fun w => w.state.memory) (fun w => w.state.IsPassing) Sample.records sink.session.state [] :=
    (Sample.undisturbed ⟨2, 1000⟩ [true]).watched
  have hu' : Undisturbed sink'.config sink'.transformer Scripted.store Scripted.memory
      Scripted.IsPassing Sample.records sink'.session.state.state [] :=
    Sample.undisturbed ⟨2, 1000⟩ [false, true]
  have h := parallel_sequential hu hu' rfl (by decide) (by decide) hrun hspared
    (fun hi => by rw [hi] at hrunning; cases hrunning) hstuck hwrite (List.nil_append _).symm
    (.of_countP hfew)
  obtain ⟨-, -, left, right, hleft, hright, hperm, -, -, hget⟩ := h
  refine ⟨left, right, hleft, hright, hperm, hget _ ⟨rfl, trivial, trivial⟩, ?_, ?_⟩
  · exact Option.any_some.symm.trans ((congrArg (Option.any _) hleft).symm.trans hthird)
  · exact Option.any_some.symm.trans ((congrArg (Option.any _) hright).symm.trans hsecond)

end Sluice
