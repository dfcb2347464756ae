import Sluice.Proofs.Batch.Numbering
import Sluice.Sink.Plan

/-!
# What an accumulator seals

An accumulator that is given operations one after the other seals batches of them. `Adds` says what
one operation does, with the reason for which a batch is sealed (`Cause`); `feed` gives several
operations, `sealings` gives all and closes the accumulator behind them.

* `add_adds`: every operation is added in one of the three ways of `Adds`;
* `map_fst_sealings`: the batches of `sealings` are those of a plan (`Plan.batchesOf`);
* `flatMap_batchesOf`: **nothing is lost and nothing repeated** -- the operations of the batches in
  order are the open ones and those that were given;
* `Numbers`, `ids_batchesOf`: the batches are numbered without gaps, behind those sealed before;
* `feed_append`, `feed_isPrefix`: what has been sealed is sealed for good.
-/

namespace Sluice

namespace Accumulator

/-! ## 1. One operation -/

/-- Whether an operation would take the open batch beyond its bytes. -/
def overflows (a : Accumulator) (o : Operation) : Bool :=
  !a.open_.isEmpty && a.bounds.maxBytes < a.bytes + o.size

/-- Why a batch is sealed: the next operation would take it beyond its bytes, it has reached a
bound, or no operation follows. -/
inductive Cause where
  | overflow
  | full
  | rest
  deriving DecidableEq, Repr

/-- The ways in which an operation is added. -/
inductive Adds (a : Accumulator) (o : Operation) : Option Batch → Accumulator → Prop where
  | overflow (h : a.overflows o = true) :
      Adds a o (some a.batch) { a with open_ := [o], sealed := a.sealed + 1 }
  | full (h : a.overflows o = false) (hfull : (a.append o).isFull = true) :
      Adds a o (some (a.append o).batch) { a with open_ := [], sealed := a.sealed + 1 }
  | room (h : a.overflows o = false) (hroom : (a.append o).isFull = false) :
      Adds a o none (a.append o)

theorem add_adds (a : Accumulator) (o : Operation) : Adds a o (a.add o).1 (a.add o).2 := by
  unfold add
  split
  · next h => exact .overflow h
  · next h =>
    have hno : a.overflows o = false := Bool.eq_false_iff.mpr h
    dsimp only
    split
    · next hfull => exact .full hno hfull
    · next hroom => exact .room hno (Bool.eq_false_iff.mpr hroom)

/-- Why the batch that an operation seals is sealed. -/
def causeOf (a : Accumulator) (o : Operation) : Cause := if a.overflows o then .overflow else .full

section One

variable {a a' : Accumulator} {o : Operation} {batch? : Option Batch}

theorem Adds.name (h : Adds a o batch? a') : a'.name = a.name := by
  cases h <;> rfl

theorem Adds.sealed (h : Adds a o batch? a') : a'.sealed = a.sealed + batch?.toList.length := by
  cases h <;> rfl

/-- No operation is lost or repeated by one that is added. -/
theorem Adds.operations (h : Adds a o batch? a') :
    batch?.toList.flatMap (·.operations) ++ a'.open_ = a.open_ ++ [o] := by
  cases h <;> simp [batch, append]

/-- Behind a batch that an operation seals, only that operation can be open. -/
theorem Adds.left (h : Adds a o batch? a') (hb : batch?.isSome) :
    a'.open_.length = if a.causeOf o = .overflow then 1 else 0 := by
  cases h with
  | overflow h => simp [causeOf, h]
  | full h hfull => simp [causeOf, h]
  | room h hroom => cases hb

theorem Adds.ids (h : Adds a o batch? a') :
    batch?.toList.map (·.id) =
      (List.range' (a.sealed + 1) batch?.toList.length).map (Batch.idOf a.name) := by
  cases h <;> rfl

end One

theorem flush_some {a : Accumulator} (h : a.open_ ≠ []) :
    a.flush = (some a.batch, { a with open_ := [], sealed := a.sealed + 1 }) := by
  unfold flush
  rw [if_neg (by simpa using h)]
  rfl

theorem flush_none {a : Accumulator} (h : a.open_ = []) : a.flush = (none, a) := by
  unfold flush
  rw [if_pos (by simpa using h)]

theorem flush_open (a : Accumulator) : a.flush.2.open_ = [] := by
  by_cases h : a.open_ = []
  · rw [flush_none h]; exact h
  · rw [flush_some h]

theorem flush_operations (a : Accumulator) :
    a.flush.1.toList.flatMap (·.operations) = a.open_ := by
  by_cases h : a.open_ = []
  · rw [flush_none h, h]; rfl
  · rw [flush_some h]; simp [batch]

theorem flush_ids (a : Accumulator) :
    a.flush.1.toList.map (·.id) =
      (List.range' (a.sealed + 1) a.flush.1.toList.length).map (Batch.idOf a.name) := by
  by_cases h : a.open_ = []
  · rw [flush_none h]; rfl
  · rw [flush_some h]; rfl

/-- **Batches that are numbered on**: they bear the numbers behind those that an accumulator has
given, which it has given then. -/
structure Numbers (a : Accumulator) (bs : List Batch) (a' : Accumulator) : Prop where
  name : a'.name = a.name
  sealed : a'.sealed = a.sealed + bs.length
  ids : bs.map (·.id) = (List.range' (a.sealed + 1) bs.length).map (Batch.idOf a.name)

section Numbers

variable {a a' a'' : Accumulator} {bs cs : List Batch}

theorem Numbers.refl (a : Accumulator) : Numbers a [] a := ⟨rfl, rfl, rfl⟩

theorem Numbers.trans (h : Numbers a bs a') (h' : Numbers a' cs a'') :
    Numbers a (bs ++ cs) a'' where
  name := h'.name.trans h.name
  sealed := by rw [h'.sealed, h.sealed, List.length_append, Nat.add_assoc]
  ids := by
    rw [List.map_append, List.length_append, h.ids, h'.ids, h.name, h.sealed, ← List.map_append,
      Nat.add_right_comm, List.range'_append_1]

/-- Batches that are numbered on have different ids. -/
theorem Numbers.nodup (h : Numbers a bs a') : (bs.map (·.id)).Nodup := by
  rw [h.ids]
  refine List.pairwise_map.mpr (List.Pairwise.imp (fun hne hid => hne ?_) List.nodup_range')
  exact Batch.idOf_number hid

theorem Adds.numbers {o : Operation} {batch? : Option Batch} (h : Adds a o batch? a') :
    Numbers a batch?.toList a' := ⟨h.name, h.sealed, h.ids⟩

theorem flush_numbers (a : Accumulator) : Numbers a a.flush.1.toList a.flush.2 := by
  refine ⟨?_, ?_, flush_ids a⟩
  · by_cases h : a.open_ = []
    · rw [flush_none h]
    · rw [flush_some h]
  · by_cases h : a.open_ = []
    · rw [flush_none h]; rfl
    · rw [flush_some h]; rfl

end Numbers

/-! ## 2. Several operations -/

/-- Adds operations one after the other; the batches that this seals, and the accumulator then. -/
def feed : Accumulator → List Operation → List Batch × Accumulator
  | a, [] => ([], a)
  | a, o :: rest => ((a.add o).1.toList ++ (feed (a.add o).2 rest).1, (feed (a.add o).2 rest).2)

/-- The batches that operations are put into, each with the reason for which it is sealed. -/
def sealings : Accumulator → List Operation → List (Batch × Cause)
  | a, [] => a.flush.1.toList.map fun b => (b, .rest)
  | a, o :: rest =>
    ((a.add o).1.toList.map fun b => (b, a.causeOf o)) ++ sealings (a.add o).2 rest

theorem map_fst_causes (bs : List Batch) (c : Cause) :
    (bs.map fun b => (b, c)).map (·.1) = bs := by
  rw [List.map_map]
  exact List.map_id bs

theorem map_fst_sealings (a : Accumulator) (os : List Operation) :
    (a.sealings os).map (·.1) = Plan.batchesOf a os := by
  induction os generalizing a with
  | nil => exact map_fst_causes _ _
  | cons o rest ih =>
    simp only [sealings, Plan.batchesOf, List.map_append, map_fst_causes, ih]

theorem feed_append (a : Accumulator) (os more : List Operation) :
    a.feed (os ++ more) =
      ((a.feed os).1 ++ ((a.feed os).2.feed more).1, ((a.feed os).2.feed more).2) := by
  induction os generalizing a with
  | nil => rfl
  | cons o rest ih =>
    simp only [List.cons_append, feed, ih, List.append_assoc]

theorem batchesOf_eq (a : Accumulator) (os : List Operation) :
    Plan.batchesOf a os = (a.feed os).1 ++ (a.feed os).2.flush.1.toList := by
  induction os generalizing a with
  | nil => rfl
  | cons o rest ih =>
    simp only [Plan.batchesOf, feed, ih, List.append_assoc]

/-- What has been sealed stays as it is, whatever follows. -/
theorem feed_isPrefix (a : Accumulator) (os more : List Operation) :
    (a.feed os).1 <+: Plan.batchesOf a (os ++ more) := by
  rw [batchesOf_eq, feed_append, List.append_assoc]
  exact List.prefix_append _ _

theorem flatMap_batchesOf (a : Accumulator) (os : List Operation) :
    (Plan.batchesOf a os).flatMap (·.operations) = a.open_ ++ os := by
  induction os generalizing a with
  | nil => simpa [Plan.batchesOf] using flush_operations a
  | cons o rest ih =>
    have hone := (add_adds a o).operations
    simp only [Plan.batchesOf, List.flatMap_append, ih]
    rw [← List.append_assoc, hone, List.append_assoc]
    rfl

theorem batchesOf_numbers (a : Accumulator) (os : List Operation) :
    ∃ a', Numbers a (Plan.batchesOf a os) a' := by
  induction os generalizing a with
  | nil => exact ⟨_, flush_numbers a⟩
  | cons o rest ih =>
    obtain ⟨a', h⟩ := ih (a.add o).2
    exact ⟨a', (add_adds a o).numbers.trans h⟩

theorem ids_batchesOf (a : Accumulator) (os : List Operation) :
    (Plan.batchesOf a os).map (·.id) =
      (List.range' (a.sealed + 1) (Plan.batchesOf a os).length).map (Batch.idOf a.name) :=
  (batchesOf_numbers a os).elim fun _ h => h.ids

theorem nodup_ids_batchesOf (a : Accumulator) (os : List Operation) :
    ((Plan.batchesOf a os).map (·.id)).Nodup :=
  (batchesOf_numbers a os).elim fun _ h => h.nodup

end Accumulator

end Sluice
