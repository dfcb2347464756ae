import Sluice.Proofs.Batch.Sealing
import Mathlib.Algebra.Order.Ring.Nat

/-!
# Accumulators in use

An accumulator is called in any order: an operation is added, the open batch is flushed, or it is
discarded. What leaves the accumulator is a batch that is sealed or a group that is dropped; the
rest is open.

* `IsBelow`: **what holds between any two calls** -- the open batch is below both bounds, or it
  holds a single operation that is too large by itself. So the operation that starts a batch behind
  an overflow need not be checked again;
* `Yields`, `call_yields`, `run_yields`: what one call does, and from it what all do;
* `Metered.run_eq`: the bytes may as well be counted along;
* `run_partition`: **the batches, the dropped groups and the open batch are what was added**, in
  order, and every batch keeps its bounds.
-/

namespace Sluice

/-- A batch that bounds admit: it holds something, and it exceeds the bytes only with a single
operation. -/
structure Bounds.Admits (bounds : Bounds) (b : Batch) : Prop where
  nonempty : b.operations ≠ []
  count : b.count ≤ bounds.maxOperations
  bytes : bounds.maxBytes < b.size → b.count = 1

namespace Accumulator

/-! ## 1. Calls -/

/-- A call to an accumulator. -/
inductive Call where
  | add (o : Operation)
  | flush
  | discard

/-- The operation that a call brings. -/
def Call.operation? : Call → Option Operation
  | .add o => some o
  | _ => none

/-- What leaves an accumulator. -/
inductive Group where
  | sealed (b : Batch)
  | dropped (os : List Operation)

namespace Group

def operations : Group → List Operation
  | .sealed b => b.operations
  | .dropped os => os

def batch? : Group → Option Batch
  | .sealed b => some b
  | .dropped _ => none

end Group

/-- The batches among groups. -/
def batches (gs : List Group) : List Batch := gs.filterMap Group.batch?

/-- What leaves an accumulator in a call, and the accumulator then. -/
def call (a : Accumulator) : Call → List Group × Accumulator
  | .add o => ((a.add o).1.toList.map .sealed, (a.add o).2)
  | .flush => (a.flush.1.toList.map .sealed, a.flush.2)
  | .discard => ([.dropped a.open_], a.discard.2)

/-- What leaves an accumulator in several calls, and the accumulator then. -/
def run : Accumulator → List Call → List Group × Accumulator
  | a, [] => ([], a)
  | a, c :: rest => ((a.call c).1 ++ ((a.call c).2.run rest).1, ((a.call c).2.run rest).2)

section Groups

variable {gs hs : List Group} (bs : List Batch)

theorem batches_append : batches (gs ++ hs) = batches gs ++ batches hs := List.filterMap_append

theorem batches_sealed : batches (bs.map .sealed) = bs := by
  unfold batches
  rw [List.filterMap_map]
  exact List.filterMap_some

theorem operations_sealed :
    (bs.map Group.sealed).flatMap (·.operations) = bs.flatMap (·.operations) :=
  List.flatMap_map ..

end Groups

/-! ## 2. Bounds -/

theorem totalSize_append (os more : List Operation) :
    totalSize (os ++ more) = totalSize os + totalSize more := by
  induction os with
  | nil => exact (Nat.zero_add _).symm
  | cons o rest ih => simp only [List.cons_append, totalSize, ih, Nat.add_assoc]

theorem totalSize_eq_sum (os : List Operation) : totalSize os = (os.map (·.size)).sum := by
  induction os with
  | nil => rfl
  | cons o rest ih => simp only [totalSize, ih, List.map_cons, List.sum_cons]

theorem bytes_append (a : Accumulator) (o : Operation) : (a.append o).bytes = a.bytes + o.size :=
  totalSize_append a.open_ [o]

/-- Only an open batch that holds something can be taken beyond its bytes. -/
theorem open_ne_nil {a : Accumulator} {o : Operation} (h : a.overflows o = true) :
    a.open_ ≠ [] := by
  intro hnil
  unfold overflows at h
  rw [hnil] at h
  cases h

/-- **The open batch is below the bounds**, unless it holds a single operation that is too large by
itself. -/
structure IsBelow (a : Accumulator) : Prop where
  count : a.open_.length < a.bounds.maxOperations
  bytes : a.bytes < a.bounds.maxBytes ∨ a.open_.length = 1

section Below

variable {a : Accumulator} {o : Operation}

/-- With nothing open an accumulator is below its bounds. -/
theorem isBelow_of_empty (hcount : 1 ≤ a.bounds.maxOperations) (hbytes : 1 ≤ a.bounds.maxBytes)
    (h : a.open_ = []) : a.IsBelow := by
  refine ⟨?_, .inl ?_⟩
  · rw [h]
    exact hcount
  · unfold bytes
    rw [h]
    exact hbytes

/-- A batch that is not full is below its bounds. -/
theorem isBelow_of_isFull (h : a.isFull = false) : a.IsBelow := by
  unfold isFull at h
  obtain ⟨hcount, hbytes⟩ := Bool.or_eq_false_iff.mp h
  exact ⟨Nat.lt_of_not_le (of_decide_eq_false hcount),
    .inl (Nat.lt_of_not_le (of_decide_eq_false hbytes))⟩

/-- An operation that starts a batch behind an overflow is alone in it. There was room for it even
if it is counted with an operation that was open before. -/
theorem IsBelow.behind (h : a.IsBelow) (ho : a.overflows o = true) :
    IsBelow { a with open_ := [o], sealed := a.sealed + 1 } := by
  have hpos := List.length_pos_iff.mpr (open_ne_nil ho)
  have hcount := h.count
  refine ⟨?_, .inr rfl⟩
  change 1 < a.bounds.maxOperations
  omega

/-- The open batch may be sealed as it is. -/
theorem IsBelow.admits (h : a.IsBelow) (hne : a.open_ ≠ []) : a.bounds.Admits a.batch where
  nonempty := hne
  count := Nat.le_of_lt h.count
  bytes hover := h.bytes.resolve_left (Nat.lt_asymm hover)

/-- So may the batch with an operation that does not take it beyond its bytes. -/
theorem IsBelow.admits_append (h : a.IsBelow) (hno : a.overflows o = false) :
    a.bounds.Admits (a.append o).batch where
  nonempty := List.append_ne_nil_of_right_ne_nil _ (List.cons_ne_nil o [])
  count := by
    change (a.open_ ++ [o]).length ≤ _
    rw [List.length_append]
    exact h.count
  bytes hover := by
    have hsum : a.bounds.maxBytes < a.bytes + o.size := by
      rw [← bytes_append]
      exact hover
    unfold overflows at hno
    rw [decide_eq_true hsum, Bool.and_true, Bool.not_eq_false'] at hno
    change (a.open_ ++ [o]).length = 1
    rw [List.isEmpty_iff.mp hno]
    rfl

end Below

/-! ## 3. What calls do -/

/-- **What calls do**: nothing that they bring is lost or repeated, the batches are numbered on, and
the bounds are kept. -/
structure Yields (a : Accumulator) (os : List Operation) (gs : List Group) (a' : Accumulator) :
    Prop where
  bounds : a'.bounds = a.bounds
  operations : gs.flatMap (·.operations) ++ a'.open_ = a.open_ ++ os
  numbers : Numbers a (batches gs) a'
  below : 1 ≤ a.bounds.maxBytes → a.IsBelow → a'.IsBelow ∧ ∀ b ∈ batches gs, a.bounds.Admits b

section Yields

variable {a a' a'' : Accumulator} {os more : List Operation} {gs hs : List Group}

theorem Yields.refl (a : Accumulator) : Yields a [] [] a where
  bounds := rfl
  operations := (List.append_nil _).symm
  numbers := .refl a
  below _ h := ⟨h, fun _ hb => absurd hb List.not_mem_nil⟩

theorem Yields.trans (h : Yields a os gs a') (h' : Yields a' more hs a'') :
    Yields a (os ++ more) (gs ++ hs) a'' where
  bounds := h'.bounds.trans h.bounds
  operations := by
    rw [List.flatMap_append, List.append_assoc, h'.operations, ← List.append_assoc, h.operations,
      List.append_assoc]
  numbers := by
    rw [batches_append]
    exact h.numbers.trans h'.numbers
  below hbytes hbelow := by
    obtain ⟨hbelow', hadmits⟩ := h.below hbytes hbelow
    obtain ⟨hbelow'', hadmits'⟩ := h'.below (h.bounds ▸ hbytes) hbelow'
    refine ⟨hbelow'', fun b hb => ?_⟩
    rw [batches_append] at hb
    rcases List.mem_append.mp hb with hb | hb
    · exact hadmits b hb
    · rw [← h.bounds]
      exact hadmits' b hb

theorem add_yields (a : Accumulator) (o : Operation) :
    Yields a [o] ((a.add o).1.toList.map .sealed) (a.add o).2 := by
  have hadds := add_adds a o
  generalize (a.add o).1 = batch? at hadds ⊢
  generalize (a.add o).2 = a' at hadds ⊢
  have hbatches := batches_sealed batch?.toList
  refine ⟨by cases hadds <;> rfl, ?_, ?_, fun hbytes h => ?_⟩
  · rw [operations_sealed]
    exact hadds.operations
  · rw [hbatches]
    exact hadds.numbers
  · rw [hbatches]
    cases hadds with
    | overflow ho =>
      refine ⟨h.behind ho, fun b hb => ?_⟩
      rw [List.mem_singleton.mp hb]
      exact h.admits (open_ne_nil ho)
    | full hno hfull =>
      refine ⟨isBelow_of_empty (Nat.one_le_of_lt h.count) hbytes rfl, fun b hb => ?_⟩
      rw [List.mem_singleton.mp hb]
      exact h.admits_append hno
    | room hno hroom => exact ⟨isBelow_of_isFull hroom, fun b hb => absurd hb List.not_mem_nil⟩

theorem flush_yields (a : Accumulator) :
    Yields a [] (a.flush.1.toList.map .sealed) a.flush.2 := by
  have hbatches := batches_sealed a.flush.1.toList
  refine ⟨?_, ?_, ?_, fun hbytes h => ?_⟩
  · by_cases hopen : a.open_ = []
    · rw [flush_none hopen]
    · rw [flush_some hopen]
  · rw [operations_sealed, flush_operations, flush_open]
  · rw [hbatches]
    exact flush_numbers a
  · rw [hbatches]
    by_cases hopen : a.open_ = []
    · rw [flush_none hopen]
      exact ⟨h, fun b hb => absurd hb List.not_mem_nil⟩
    · rw [flush_some hopen]
      refine ⟨isBelow_of_empty (Nat.one_le_of_lt h.count) hbytes rfl, fun b hb => ?_⟩
      rw [List.mem_singleton.mp hb]
      exact h.admits hopen

theorem discard_yields (a : Accumulator) : Yields a [] [.dropped a.open_] a.discard.2 where
  bounds := rfl
  operations := by simp [Group.operations, discard]
  numbers := ⟨rfl, rfl, rfl⟩
  below hbytes h :=
    ⟨isBelow_of_empty (Nat.one_le_of_lt h.count) hbytes rfl, fun b hb => absurd hb List.not_mem_nil⟩

/-- **What one call does.** -/
theorem call_yields (a : Accumulator) (c : Call) :
    Yields a c.operation?.toList (a.call c).1 (a.call c).2 := by
  cases c with
  | add o => exact add_yields a o
  | flush => exact flush_yields a
  | discard => exact discard_yields a

/-- **What several calls do**, by induction on them. -/
theorem run_yields (a : Accumulator) (calls : List Call) :
    Yields a (calls.filterMap (·.operation?)) (a.run calls).1 (a.run calls).2 := by
  induction calls generalizing a with
  | nil => exact .refl a
  | cons c rest ih =>
    have hsplit : (c :: rest).filterMap (·.operation?) =
        c.operation?.toList ++ rest.filterMap (·.operation?) := by
      cases c <;> rfl
    rw [hsplit]
    exact (call_yields a c).trans (ih _)

end Yields

/-! ## 4. Counting along -/

/-- An accumulator beside which the bytes of the open operations are counted along, instead of being
added up whenever they are asked for. -/
structure Metered where
  base : Accumulator
  count : Nat := 0

namespace Metered

/-- Seals the open batch, whose size is the count. -/
def close (m : Metered) : (Batch × Nat) × Metered :=
  ((m.base.batch, m.count), ⟨m.base.close.2, 0⟩)

def append (m : Metered) (o : Operation) : Metered := ⟨m.base.append o, m.count + o.size⟩

/-- Whether the open batch has reached a bound, by the count. -/
def isFull (m : Metered) : Bool :=
  m.base.bounds.maxOperations ≤ m.base.open_.length || m.base.bounds.maxBytes ≤ m.count

/-- Takes an operation; the batch that this seals, with its size. -/
def add (m : Metered) (o : Operation) : Option (Batch × Nat) × Metered :=
  if !m.base.open_.isEmpty && m.base.bounds.maxBytes < m.count + o.size then
    (some m.close.1, m.close.2.append o)
  else if (m.append o).isFull then (some (m.append o).close.1, (m.append o).close.2)
  else (none, m.append o)

/-- A call; the batch that it seals, with its size. -/
def call (m : Metered) : Call → Option (Batch × Nat) × Metered
  | .add o => m.add o
  | .flush => if m.base.open_.isEmpty then (none, m) else (some m.close.1, m.close.2)
  | .discard => (none, ⟨m.base.discard.2, 0⟩)

/-- Several calls; the batches that they seal, with their sizes. -/
def run : Metered → List Call → List (Batch × Nat) × Metered
  | m, [] => ([], m)
  | m, c :: rest => ((m.call c).1.toList ++ ((m.call c).2.run rest).1, ((m.call c).2.run rest).2)

/-- An accumulator whose count is right. -/
def of (a : Accumulator) : Metered := ⟨a, a.bytes⟩

theorem append_of (a : Accumulator) (o : Operation) : (of a).append o = of (a.append o) := by
  unfold of append
  rw [bytes_append]

theorem add_of (a : Accumulator) (o : Operation) :
    (of a).add o = ((a.add o).1.map fun b => (b, b.size), of (a.add o).2) := by
  by_cases hover : a.overflows o = true
  · have hplain : a.add o = (some a.batch, a.close.2.append o) := if_pos hover
    have hmetered : (of a).add o = (some (a.batch, a.bytes), (of a.close.2).append o) :=
      if_pos hover
    rw [hplain, hmetered, append_of]
    rfl
  · have hplain : a.add o = _ := if_neg hover
    have hmetered : (of a).add o = _ := if_neg hover
    rw [hplain, hmetered, append_of]
    by_cases hfull : (a.append o).isFull = true
    · rw [if_pos hfull, if_pos (c := (of (a.append o)).isFull = true) hfull]
      rfl
    · rw [if_neg hfull, if_neg (c := (of (a.append o)).isFull = true) hfull]
      rfl

theorem call_of (a : Accumulator) (c : Call) :
    ((of a).call c).1.toList = (batches (a.call c).1).map (fun b => (b, b.size)) ∧
      ((of a).call c).2 = of (a.call c).2 := by
  cases c with
  | add o =>
    have hadd := add_of a o
    unfold call Accumulator.call
    dsimp only
    rw [batches_sealed, hadd]
    exact ⟨Option.toList_map .., rfl⟩
  | flush =>
    unfold Accumulator.call
    dsimp only
    rw [batches_sealed]
    by_cases hopen : a.open_ = []
    · have hmetered : (of a).call .flush = (none, of a) := if_pos (List.isEmpty_iff.mpr hopen)
      rw [flush_none hopen, hmetered]
      exact ⟨rfl, rfl⟩
    · have hmetered : (of a).call .flush = (some (of a).close.1, (of a).close.2) :=
        if_neg fun h => hopen (List.isEmpty_iff.mp h)
      rw [flush_some hopen, hmetered]
      exact ⟨rfl, rfl⟩
  | discard => exact ⟨rfl, rfl⟩

/-- **Counting along comes to the same**: the same batches are sealed, and each has the size that
was counted. -/
theorem run_of (a : Accumulator) (calls : List Call) :
    (of a).run calls =
      ((batches (a.run calls).1).map fun b => (b, b.size), of (a.run calls).2) := by
  induction calls generalizing a with
  | nil => rfl
  | cons c rest ih =>
    obtain ⟨hbatches, hcall⟩ := call_of a c
    unfold run Accumulator.run
    rw [hbatches, hcall, ih, batches_append, List.map_append]

end Metered

/-! ## 5. Any calls -/

/-- **An accumulator parts what it is given**, whatever the order of its calls. The batches that are
sealed, the groups that are dropped and the open batch are, in the order of the calls, exactly the
operations that were added. Every batch is admitted by the bounds, and its size, if bytes are
counted along, is that of its operations. Between two calls the open batch is below the bounds;
behind a flush or a discard nothing is left to flush; and the batches are numbered without gaps. -/
theorem run_partition (bounds : Bounds) (hcount : 1 ≤ bounds.maxOperations)
    (hbytes : 1 ≤ bounds.maxBytes) (name : Text) (calls : List Call) :
    let fresh : Accumulator := { bounds, name }
    let groups := (fresh.run calls).1
    let a := (fresh.run calls).2
    groups.flatMap (·.operations) ++ a.open_ = calls.filterMap (·.operation?) ∧
    (∀ b ∈ batches groups, bounds.Admits b) ∧
    Metered.run ⟨fresh, 0⟩ calls =
      ((batches groups).map fun b => (b, (b.operations.map (·.size)).sum), ⟨a, a.bytes⟩) ∧
    (a.open_.length < bounds.maxOperations ∧
      (a.bytes < bounds.maxBytes ∨ a.open_.length = 1)) ∧
    a.flush.2.flush.1 = none ∧ a.discard.2.flush.1 = none ∧
    (batches groups).map (·.id) =
      (List.range' 1 (batches groups).length).map (Batch.idOf name) := by
  intro fresh groups a
  have hyields := run_yields fresh calls
  obtain ⟨hbelow, hadmits⟩ :=
    hyields.below hbytes (isBelow_of_empty (a := fresh) hcount hbytes rfl)
  have hbounds : a.bounds = bounds := hyields.bounds
  refine ⟨hyields.operations, hadmits, ?_, ?_, ?_, ?_, hyields.numbers.ids⟩
  · have hsizes : (batches groups).map (fun b => (b, b.size)) =
        (batches groups).map fun b => (b, (b.operations.map (·.size)).sum) :=
      List.map_congr_left fun b _ => congrArg (Prod.mk b) (totalSize_eq_sum b.operations)
    rw [← hsizes]
    exact Metered.run_of fresh calls
  · rw [← hbounds]
    exact ⟨hbelow.count, hbelow.bytes⟩
  · rw [flush_none (flush_open a)]
  · rw [flush_none rfl]

/-- Operations of eleven bytes, and one that is too large by itself. -/
theorem run_partition_oversized :
    let small (n : Int) : Operation := ⟨"t", .insert, [("id", .int n)], ["id"]⟩
    let large : Operation :=
      ⟨"t", .insert, [("id", .int 4), ("note", .text "larger than all")], ["id"]⟩
    let calls : List Call :=
      [.add (small 1), .add (small 2), .discard, .add (small 3), .add large, .flush]
    let out := run { bounds := ⟨2, 20⟩, name := "batch" } calls
    1 ≤ 2 ∧ 1 ≤ 20 ∧ (∀ b ∈ batches out.1, Bounds.Admits ⟨2, 20⟩ b) ∧
      (batches out.1).map (fun b => (b.id, b.count, b.size)) =
        [(("batch-1" : Text), 1, 11), ("batch-2", 1, 11), ("batch-3", 1, 30)] := by
  intro small large calls out
  obtain ⟨-, hadmits, -⟩ := run_partition ⟨2, 20⟩ (by decide) (by decide) "batch" calls
  exact ⟨by decide, by decide, hadmits, by decide +kernel⟩

end Accumulator

end Sluice
