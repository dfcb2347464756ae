import Sluice.Proofs.Batch.Partition
import Mathlib.Algebra.Order.BigOperators.Group.List
import Mathlib.Algebra.Order.Floor.Div
import Mathlib.Order.Bounds.Defs

/-!
# As few batches as can be

Operations may be cut into groups in many ways, each group being one that the bounds admit. An
accumulator goes on with a batch as long as it may: no batch would be admitted with the operation
behind it (`Bounds.IsTight`). So behind as many groups as it has sealed batches no other cut has got
any further, and none has fewer groups.

* `Bounds.Allows`, `Bounds.Cuts`: the groups that bounds admit, and the ways to cut operations into
  them;
* `Bounds.IsTight.length_le`: **a tight cut has no more groups than any other**, even if the other
  one starts before it;
* `Accumulator.batchesOf_tight`: **the batches of an accumulator are tight**, if no operation is
  without size;
* `Accumulator.run_fewest`: so their number is the least one, and where the bytes never count it is
  the number of operations divided by the bound, rounded up.
-/

namespace Sluice

/-! ## 1. Cuts -/

namespace Bounds

variable {bounds : Bounds} {g os : List Operation} {gs cs : List (List Operation)}

/-- **A group that bounds admit**: it holds something, not too many operations, and not too many
bytes unless it holds a single one. -/
structure Allows (bounds : Bounds) (os : List Operation) : Prop where
  nonempty : os ≠ []
  count : os.length ≤ bounds.maxOperations
  bytes : os.length = 1 ∨ totalSize os ≤ bounds.maxBytes

/-- **A way to cut operations** into consecutive groups that bounds admit. -/
structure Cuts (bounds : Bounds) (gs : List (List Operation)) (os : List Operation) : Prop where
  operations : gs.flatten = os
  allows : ∀ g ∈ gs, bounds.Allows g

/-- A batch is admitted as the group of its operations. -/
theorem Admits.allows {b : Batch} (h : bounds.Admits b) : bounds.Allows b.operations where
  nonempty := h.nonempty
  count := h.count
  bytes := by
    by_cases hover : bounds.maxBytes < b.size
    · exact .inl (h.bytes hover)
    · exact .inr (Nat.le_of_not_lt hover)

theorem totalSize_le_of_isInfix (h : g <:+: os) : totalSize g ≤ totalSize os := by
  obtain ⟨before, after, rfl⟩ := h
  rw [Accumulator.totalSize_append, Accumulator.totalSize_append]
  omega

/-- Of a group that is admitted, every part is. -/
theorem Allows.isInfix (h : bounds.Allows os) (hg : g ≠ []) (hpart : g <:+: os) :
    bounds.Allows g where
  nonempty := hg
  count := hpart.length_le.trans h.count
  bytes := by
    have hlength := hpart.length_le
    have hpos := List.length_pos_iff.mpr hg
    refine h.bytes.imp (fun hone => ?_) (totalSize_le_of_isInfix hpart).trans
    omega

/-- **Groups that go as far as they may**: none of them would be admitted with the operation that
follows it. -/
def IsTight (bounds : Bounds) : List (List Operation) → Prop
  | [] => True
  | g :: gs => (∀ o, gs.flatten.head? = some o → ¬ bounds.Allows (g ++ [o])) ∧ IsTight bounds gs

theorem IsTight.cons (h : bounds.IsTight gs) (hflat : gs.flatten = os)
    (hnext : ∀ o, os.head? = some o → ¬ bounds.Allows (g ++ [o])) : bounds.IsTight (g :: gs) :=
  ⟨hflat ▸ hnext, h⟩

/-- **No cut has fewer groups than a tight one**, not even a cut that has operations before it to
begin with. By induction on the tight groups: the first group of the other cut does not get past the
first one of these, since it would hold that one and the operation behind it. -/
theorem IsTight.length_le (h : bounds.IsTight gs) (hgs : ∀ g ∈ gs, g ≠ []) {before : List Operation}
    (hcs : ∀ c ∈ cs, bounds.Allows c) (hflat : cs.flatten = before ++ gs.flatten) :
    gs.length ≤ cs.length := by
  induction gs generalizing before cs with
  | nil => exact Nat.zero_le _
  | cons g gs ih =>
    obtain ⟨hnext, hrest⟩ := h
    obtain ⟨hg, hgs⟩ := List.forall_mem_cons.mp hgs
    cases cs with
    | nil =>
      have hempty : g = [] := by
        rw [List.flatten_nil, List.flatten_cons, eq_comm] at hflat
        simp only [List.append_eq_nil_iff] at hflat
        exact hflat.2.1
      exact absurd hempty hg
    | cons c cs =>
      obtain ⟨hc, hcs⟩ := List.forall_mem_cons.mp hcs
      rw [List.flatten_cons, List.flatten_cons, ← List.append_assoc] at hflat
      refine Nat.succ_le_succ ?_
      rcases List.append_eq_append_iff.mp hflat with ⟨behind, -, htail⟩ | ⟨more, hmore, htail⟩
      · exact ih hrest hgs hcs htail
      · cases more with
        | nil =>
          have hnone : cs.flatten = [] ++ gs.flatten := htail.symm
          exact ih hrest hgs hcs hnone
        | cons o more =>
          have hhead : gs.flatten.head? = some o := by
            rw [htail]
            rfl
          have hpart : g ++ [o] <:+: c := ⟨before, more, by simp [hmore]⟩
          exact absurd (hc.isInfix (by simp) hpart) (hnext o hhead)

end Bounds

/-! ## 2. The batches of an accumulator -/

namespace Accumulator

/-- Adding operations one by one and flushing once seals the batches that they are put into. -/
theorem batches_run_flush (a : Accumulator) (os : List Operation) :
    batches (a.run (os.map .add ++ [.flush])).1 = Plan.batchesOf a os := by
  induction os generalizing a with
  | nil =>
    simp only [List.map_nil, List.nil_append, run, call, List.append_nil, batches_sealed,
      Plan.batchesOf]
  | cons o rest ih =>
    simp only [List.map_cons, List.cons_append, run, call, batches_append, batches_sealed, ih,
      Plan.batchesOf]

section Tight

variable {a : Accumulator} {o p : Operation}

/-- A batch that the next operation would take beyond its bytes is not admitted with it. -/
theorem overflows_not_allows (h : a.overflows o = true) : ¬ a.bounds.Allows (a.open_ ++ [o]) := by
  intro hallows
  have hopen := List.length_pos_iff.mpr (open_ne_nil h)
  unfold overflows at h
  rw [Bool.and_eq_true, decide_eq_true_eq] at h
  have hover : a.bounds.maxBytes < totalSize (a.open_ ++ [o]) := by
    rw [totalSize_append]
    exact h.2
  have hlength : (a.open_ ++ [o]).length = a.open_.length + [o].length := List.length_append
  rcases hallows.bytes with hone | hbytes
  · rw [hlength, List.length_singleton] at hone
    omega
  · omega

/-- A batch that has reached a bound is not admitted with any further operation that has a size. -/
theorem isFull_not_allows (hne : a.open_ ≠ []) (h : a.isFull = true) (hp : 0 < p.size) :
    ¬ a.bounds.Allows (a.open_ ++ [p]) := by
  intro hallows
  have hopen := List.length_pos_iff.mpr hne
  have hlength : (a.open_ ++ [p]).length = a.open_.length + [p].length := List.length_append
  have hsize : totalSize (a.open_ ++ [p]) = a.bytes + p.size := totalSize_append a.open_ [p]
  have hcount := hallows.count
  rw [hlength, List.length_singleton] at hcount
  unfold isFull at h
  rw [Bool.or_eq_true, decide_eq_true_eq, decide_eq_true_eq] at h
  rcases hallows.bytes with hone | hbytes
  · rw [hlength, List.length_singleton] at hone
    omega
  · omega

/-- **An accumulator goes on with every batch as long as it may**, by induction on the operations. -/
theorem batchesOf_tight {os : List Operation} (hpos : ∀ o ∈ os, 0 < o.size) (a : Accumulator) :
    a.bounds.IsTight ((Plan.batchesOf a os).map (·.operations)) := by
  have hflat : ∀ (a : Accumulator) (os : List Operation),
      ((Plan.batchesOf a os).map (·.operations)).flatten = a.open_ ++ os := fun a os =>
    (List.flatMap_def ..).symm.trans (flatMap_batchesOf a os)
  induction os generalizing a with
  | nil =>
    by_cases hopen : a.open_ = []
    · rw [Plan.batchesOf, flush_none hopen]
      trivial
    · rw [Plan.batchesOf, flush_some hopen]
      exact ⟨fun o ho => (by cases ho), trivial⟩
  | cons o rest ih =>
    obtain ⟨-, hrest⟩ := List.forall_mem_cons.mp hpos
    have hadds := add_adds a o
    change a.bounds.IsTight
      (((a.add o).1.toList ++ Plan.batchesOf (a.add o).2 rest).map (·.operations))
    generalize (a.add o).1 = batch? at hadds ⊢
    generalize (a.add o).2 = a' at hadds ⊢
    cases hadds with
    | overflow hover =>
      let left : Accumulator := { a with open_ := [o], sealed := a.sealed + 1 }
      refine (ih hrest left).cons (hflat left rest) fun p hp => ?_
      cases hp
      exact overflows_not_allows hover
    | full hno hfull =>
      let left : Accumulator := { a with open_ := [], sealed := a.sealed + 1 }
      refine (ih hrest left).cons (hflat left rest) fun p hp => ?_
      have hmem : p ∈ rest := List.mem_of_mem_head? hp
      exact isFull_not_allows (a := a.append o) (by simp [append]) hfull (hrest p hmem)
    | room hno hroom => exact ih hrest (a.append o)

end Tight

end Accumulator

/-! ## 3. Cuts by number alone -/

namespace Bounds

variable {bounds : Bounds} {os : List Operation} {gs : List (List Operation)}

/-- A part of a list is part of a longer one, up to the length of the list. -/
theorem exists_isInfix_of_length {α : Type} {xs ys : List α} (h : xs <:+: ys) {n : ℕ}
    (hlow : xs.length ≤ n) (hhigh : n ≤ ys.length) :
    ∃ zs, xs <:+: zs ∧ zs <:+: ys ∧ zs.length = n := by
  obtain ⟨before, after, rfl⟩ := h
  simp only [List.length_append] at hhigh
  by_cases hafter : n ≤ xs.length + after.length
  · refine ⟨xs ++ after.take (n - xs.length), List.infix_append' [] xs _, ?_, ?_⟩
    · exact ⟨before, after.drop (n - xs.length), by simp⟩
    · rw [List.length_append, List.length_take]
      omega
  · -- all that stands behind, and as much of what stands before as is missing
    have hmissing : n - xs.length - after.length ≤ before.length := by omega
    generalize hcut : before.length - (n - xs.length - after.length) = cut
    refine ⟨before.drop cut ++ (xs ++ after), ⟨_, after, by rw [List.append_assoc]⟩, ?_, ?_⟩
    · exact ⟨before.take cut, [], by simp [← List.append_assoc]⟩
    · simp only [List.length_append, List.length_drop]
      omega

/-- A cut into groups of at most so many operations has at least as many groups as these make. -/
theorem Cuts.ceilDiv_le (hcount : 1 ≤ bounds.maxOperations) (h : bounds.Cuts gs os) :
    os.length ⌈/⌉ bounds.maxOperations ≤ gs.length := by
  rw [ceilDiv_le_iff_le_mul hcount, ← h.operations, List.length_flatten, Nat.mul_comm]
  have hsum := List.sum_le_card_nsmul (gs.map List.length) bounds.maxOperations (by
    intro n hn
    obtain ⟨g, hg, rfl⟩ := List.mem_map.mp hn
    exact (h.allows g hg).count)
  rw [List.length_map, smul_eq_mul] at hsum
  exact hsum

/-- **Where the bytes never count, operations can be cut by their number alone**, by induction on
the number of groups that they fit in. -/
theorem exists_cut_by_count (hcount : 1 ≤ bounds.maxOperations) (n : ℕ) :
    ∀ {os : List Operation}, os.length ≤ bounds.maxOperations * n →
      (∀ run, run <:+: os → run.length ≤ bounds.maxOperations → totalSize run ≤ bounds.maxBytes) →
      ∃ gs, bounds.Cuts gs os ∧ gs.length ≤ n := by
  have hnothing : bounds.Cuts [] [] := ⟨rfl, fun g hg => absurd hg List.not_mem_nil⟩
  induction n with
  | zero =>
    intro os hlength _
    rw [Nat.mul_zero, Nat.le_zero, List.length_eq_zero_iff] at hlength
    subst hlength
    exact ⟨[], hnothing, le_rfl⟩
  | succ n ih =>
    intro os hlength hruns
    by_cases hos : os = []
    · subst hos
      exact ⟨[], hnothing, Nat.zero_le _⟩
    · have hfirst : bounds.Allows (os.take bounds.maxOperations) := by
        have hpart := (List.take_prefix bounds.maxOperations os).isInfix
        have hmost := List.length_take_le bounds.maxOperations os
        refine ⟨?_, hmost, .inr (hruns _ hpart hmost)⟩
        rw [Ne, List.take_eq_nil_iff]
        exact fun h => h.elim (by omega) hos
      have hrest : (os.drop bounds.maxOperations).length ≤ bounds.maxOperations * n := by
        rw [Nat.mul_succ] at hlength
        rw [List.length_drop]
        omega
      obtain ⟨gs, hcuts, hgs⟩ := ih hrest fun run hrun =>
        hruns run (hrun.trans (List.drop_suffix _ os).isInfix)
      refine ⟨os.take bounds.maxOperations :: gs, ⟨?_, ?_⟩, Nat.succ_le_succ hgs⟩
      · rw [List.flatten_cons, hcuts.operations, List.take_append_drop]
      · exact List.forall_mem_cons.mpr ⟨hfirst, hcuts.allows⟩

end Bounds

/-! ## 4. The number of batches -/

theorem Symbol.utf8Size_pos (s : Symbol) : 0 < s.utf8Size := by
  cases s with
  | char c => exact Char.utf8Size_pos c
  | half i => exact Nat.succ_pos 2

/-- An operation on a table with a name has a size. -/
theorem Operation.size_pos {o : Operation} (h : o.table ≠ []) : 0 < o.size := by
  obtain ⟨s, rest, hname⟩ := List.exists_cons_of_ne_nil h
  have hpos := s.utf8Size_pos
  unfold size
  rw [hname, Text.utf8Size]
  omega

namespace Accumulator

/-- **Batching is optimal.** The batches that come of adding operations one by one and flushing once
are a cut of the operations, and no cut has fewer groups. Where every run of as many operations as a
batch may hold (or all operations, if they are fewer) has less than the bytes that a batch may hold,
their number is that of the operations divided by the bound, rounded up. All that is needed is that
no operation is without size; and every operation on a table with a name has one. -/
theorem run_fewest (bounds : Bounds) (hcount : 1 ≤ bounds.maxOperations)
    (hbytes : 1 ≤ bounds.maxBytes) (name : Text) {os : List Operation}
    (hpos : ∀ o ∈ os, 0 < o.size) :
    let made := batches (run { bounds, name } (os.map .add ++ [.flush])).1
    bounds.Cuts (made.map (·.operations)) os ∧
    IsLeast {n | ∃ gs, bounds.Cuts gs os ∧ gs.length = n} made.length ∧
    ((∀ run, run <:+: os → run.length = min bounds.maxOperations os.length →
      totalSize run < bounds.maxBytes) → made.length = os.length ⌈/⌉ bounds.maxOperations) ∧
    ∀ o : Operation, o.table ≠ [] → 0 < o.size := by
  intro made
  let fresh : Accumulator := { bounds, name }
  have hmade : made = Plan.batchesOf fresh os := batches_run_flush fresh os
  have hcuts : bounds.Cuts (made.map (·.operations)) os := by
    have hyields := run_yields fresh (os.map .add ++ [.flush])
    obtain ⟨-, hadmits⟩ :=
      hyields.below hbytes (isBelow_of_empty (a := fresh) hcount hbytes rfl)
    refine ⟨?_, fun g hg => ?_⟩
    · rw [hmade]
      exact (List.flatMap_def ..).symm.trans (flatMap_batchesOf fresh os)
    · obtain ⟨b, hb, rfl⟩ := List.mem_map.mp hg
      exact (hadmits b hb).allows
  have hleast : ∀ gs, bounds.Cuts gs os → made.length ≤ gs.length := by
    intro gs hgs
    have htight := batchesOf_tight hpos fresh
    rw [← hmade] at htight
    rw [← List.length_map (f := Batch.operations)]
    have hflat : gs.flatten = [] ++ (made.map (·.operations)).flatten := by
      rw [hgs.operations, hcuts.operations, List.nil_append]
    exact htight.length_le (fun g hg => (hcuts.allows g hg).nonempty) hgs.allows hflat
  refine ⟨hcuts, ⟨⟨_, hcuts, List.length_map ..⟩, ?_⟩, fun hruns => ?_, fun o => Operation.size_pos⟩
  · rintro n ⟨gs, hgs, rfl⟩
    exact hleast gs hgs
  · have hshort : ∀ run, run <:+: os → run.length ≤ bounds.maxOperations →
        totalSize run ≤ bounds.maxBytes := by
      intro run hrun hlength
      obtain ⟨longer, hpart, hlonger, hmost⟩ := Bounds.exists_isInfix_of_length hrun
        (le_min hlength hrun.length_le) (min_le_right _ _)
      exact (Bounds.totalSize_le_of_isInfix hpart).trans (hruns longer hlonger hmost).le
    obtain ⟨gs, hgs, hfew⟩ := Bounds.exists_cut_by_count hcount
      _ ((ceilDiv_le_iff_le_mul hcount).mp le_rfl) hshort
    refine le_antisymm ((hleast gs hgs).trans hfew) ?_
    have hmany := hcuts.ceilDiv_le hcount
    rwa [List.length_map] at hmany

/-- Five operations of eleven bytes, of which two fill a batch but for one byte: three batches, and
no cut makes do with fewer. -/
theorem run_fewest_five :
    let small (n : Int) : Operation := ⟨"t", .insert, [("id", .int n)], ["id"]⟩
    let os := [small 1, small 2, small 3, small 4, small 5]
    let bounds : Bounds := ⟨2, 23⟩
    let made := batches (run { bounds, name := "batch" } (os.map .add ++ [.flush])).1
    1 ≤ bounds.maxOperations ∧ 1 ≤ bounds.maxBytes ∧ (∀ o ∈ os, 0 < o.size) ∧
      (∀ run, run <:+: os → run.length = min bounds.maxOperations os.length →
        totalSize run < bounds.maxBytes) ∧
      made.length = 3 ∧ IsLeast {n | ∃ gs, bounds.Cuts gs os ∧ gs.length = n} 3 := by
  intro small os bounds made
  have hsize : ∀ o ∈ os, o.size = 11 := by decide
  have hpos : ∀ o ∈ os, 0 < o.size := fun o ho => by rw [hsize o ho]; decide
  have hruns : ∀ run, run <:+: os → run.length = min bounds.maxOperations os.length →
      totalSize run < bounds.maxBytes := by
    intro run hrun hlength
    have hsum := List.sum_le_card_nsmul (run.map (·.size)) 11 (by
      intro n hn
      obtain ⟨o, ho, rfl⟩ := List.mem_map.mp hn
      exact (hsize o (hrun.subset ho)).le)
    rw [← totalSize_eq_sum, List.length_map, hlength] at hsum
    exact Nat.lt_of_le_of_lt hsum (by decide)
  obtain ⟨-, hleast, hcount, -⟩ :=
    run_fewest bounds (by decide) (by decide) "batch" hpos
  have hthree : made.length = 3 := (hcount hruns).trans (by decide)
  rw [hthree] at hleast
  exact ⟨by decide, by decide, hpos, hruns, hthree, hleast⟩

/-- Where there are fewer operations than a batch may hold, no run is as long as a batch, and so
nothing follows from what such runs have in bytes: two operations, each of them larger than a batch
may be, make two batches, though by their number they would make one. -/
theorem run_fewest_pair :
    let large (n : Int) : Operation := ⟨"t", .insert, [("id", .int n)], ["id"]⟩
    let os := [large 1, large 2]
    let bounds : Bounds := ⟨10, 10⟩
    let made := batches (run { bounds, name := "batch" } (os.map .add ++ [.flush])).1
    1 ≤ bounds.maxOperations ∧ 1 ≤ bounds.maxBytes ∧ (∀ o ∈ os, 0 < o.size) ∧
      (∀ run, run <:+: os → run.length = bounds.maxOperations →
        totalSize run < bounds.maxBytes) ∧
      made.length = 2 ∧ os.length ⌈/⌉ bounds.maxOperations = 1 := by
  intro large os bounds made
  refine ⟨by decide, by decide, by decide, fun run hrun hlength => ?_, by decide, by decide⟩
  have hshort : run.length ≤ 2 := hrun.length_le
  rw [hlength] at hshort
  exact absurd hshort (by decide)

end Accumulator

end Sluice
