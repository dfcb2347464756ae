import Sluice.Value.Sorted
import Mathlib

/-!
# Sorting by rank

A comparison may fail, so sorting may. It does not where items have ranks that the comparisons
follow: one item is before another when its rank is less. Then the items come out again, each once,
in the order of their ranks.

* `Follows`: comparisons that follow ranks;
* `start_ok`: the start that is taken over as it is, ascending or descending;
* `position_ok`: **halving finds a place**: no item before it has a greater rank, and every item
  behind it has one;
* `insertAll_ok`: one insertion after the other keeps the order;
* `sort_ok`: **the same items, in ascending order**.
-/

namespace Sluice.Sorted

variable {α ε β : Type} [LinearOrder β]

/-- **Comparisons that follow ranks** on some of the items: none of them fails, and an item is before
another when its rank is less. -/
def Follows (before : α → α → Except ε Bool) (rank : α → β) (among : α → Prop) : Prop :=
  ∀ x y, among x → among y → before x y = .ok (decide (rank x < rank y))

/-- Items in ascending order of their ranks. -/
def Ascending (rank : α → β) (items : List α) : Prop :=
  items.Pairwise fun x y => rank x ≤ rank y

/-- **Where an item belongs among others**: somewhere between two positions. -/
structure Belongs (rank : α → β) (x : α) (sorted : List α) (low high : Nat) : Prop where
  before : ∀ y ∈ sorted.take low, rank y ≤ rank x
  behind : ∀ y ∈ sorted.drop high, rank x < rank y

section Sorting

variable {before : α → α → Except ε Bool} {rank : α → β} {among : α → Prop}

/-! ## 1. The start -/

/-- **The longest start is a start**, and its neighbours are all compared alike. -/
theorem start_ok (h : Follows before rank among) (keeps : Bool) :
    ∀ {last : α} {rest : List α}, among last → (∀ x ∈ rest, among x) →
      ∃ more others, start before keeps last rest = .ok (more, others) ∧ more ++ others = rest ∧
        (last :: more).IsChain fun x y => decide (rank y < rank x) = keeps
  | _, [], _, _ => ⟨[], [], rfl, rfl, .singleton _⟩
  | last, x :: rest, hlast, hrest => by
    have hx := hrest x List.mem_cons_self
    unfold start
    rw [h x last hx hlast]
    by_cases hkeeps : decide (rank x < rank last) = keeps
    · obtain ⟨more, others, hstart, hsplit, hchain⟩ :=
        start_ok h keeps hx fun y hy => hrest y (List.mem_cons_of_mem x hy)
      refine ⟨x :: more, others, ?_, congrArg (x :: ·) hsplit, .cons_cons hkeeps hchain⟩
      simp only [bind, Except.bind, hkeeps, if_true, hstart]
      rfl
    · refine ⟨[], x :: rest, ?_, rfl, .singleton _⟩
      simp only [bind, Except.bind, hkeeps, if_false]
      rfl

/-- A start that does not descend ascends. -/
theorem ascending_of_isChain {run : List α}
    (h : run.IsChain fun x y => decide (rank y < rank x) = false) : Ascending rank run := by
  have htrans : Trans (fun x y : α => rank x ≤ rank y) (fun x y => rank x ≤ rank y)
      (fun x y => rank x ≤ rank y) := ⟨fun hxy hyz => le_trans hxy hyz⟩
  refine List.IsChain.pairwise (h.imp fun x y hxy => ?_)
  exact not_lt.mp (decide_eq_false_iff_not.mp hxy)

/-- A start that descends ascends when it is turned round. -/
theorem ascending_reverse {run : List α}
    (h : run.IsChain fun x y => decide (rank y < rank x) = true) :
    Ascending rank run.reverse := by
  have htrans : Trans (fun x y : α => rank y < rank x) (fun x y => rank y < rank x)
      (fun x y => rank y < rank x) := ⟨fun hxy hyz => lt_trans hyz hxy⟩
  have hdescends : run.Pairwise fun x y => rank y < rank x :=
    List.IsChain.pairwise (h.imp fun x y hxy => of_decide_eq_true hxy)
  exact List.pairwise_reverse.mpr (hdescends.imp le_of_lt)

/-! ## 2. One insertion -/

/-- An item in the middle has those before it and those behind it on its sides. -/
theorem Ascending.sides {sorted : List α} (h : Ascending rank sorted) {middle : Nat}
    (hm : middle < sorted.length) :
    (∀ z ∈ sorted.take (middle + 1), rank z ≤ rank sorted[middle]) ∧
      ∀ z ∈ sorted.drop middle, rank sorted[middle] ≤ rank z := by
  constructor
  · have htake := List.Pairwise.sublist (List.take_sublist (middle + 1) sorted) h
    rw [List.take_succ_eq_append_getElem hm, List.pairwise_append] at htake
    rw [List.take_succ_eq_append_getElem hm]
    intro z hz
    rcases List.mem_append.mp hz with hz | hz
    · exact htake.2.2 z hz _ List.mem_cons_self
    · rw [List.mem_singleton.mp hz]
  · have hdrop := List.Pairwise.sublist (List.drop_sublist middle sorted) h
    rw [List.drop_eq_getElem_cons hm, List.pairwise_cons] at hdrop
    rw [List.drop_eq_getElem_cons hm]
    intro z hz
    rcases List.mem_cons.mp hz with rfl | hz
    · exact le_rfl
    · exact hdrop.1 z hz

/-- **Halving finds a place for an item**, by induction on what is left to halve: the item belongs
between the two positions all the time. -/
theorem position_ok (h : Follows before rank among) {x : α} (hx : among x) {sorted : List α}
    (hs : ∀ y ∈ sorted, among y) (hasc : Ascending rank sorted) :
    ∀ {fuel low high : Nat}, high - low ≤ fuel → low ≤ high → high ≤ sorted.length →
      Belongs rank x sorted low high →
      ∃ n, position before x sorted.toArray fuel low high = .ok n ∧ Belongs rank x sorted n n
  | 0, low, high, hfuel, hle, _, hb => by
    have hend : low = high := by omega
    subst hend
    exact ⟨low, rfl, hb⟩
  | fuel + 1, low, high, hfuel, hle, hlen, hb => by
    unfold position
    by_cases hlow : low < high
    · have hm : low + (high - low) / 2 < sorted.length := by omega
      generalize hmiddle : low + (high - low) / 2 = middle at hm
      obtain ⟨hbefore, hbehind⟩ := hasc.sides hm
      have hcompare := h x sorted[middle] hx (hs _ (List.getElem_mem hm))
      rw [if_pos hlow]
      simp only [List.getElem?_toArray, List.getElem?_eq_getElem hm, hcompare, bind, Except.bind]
      by_cases hlt : rank x < rank sorted[middle]
      · rw [if_pos (decide_eq_true hlt)]
        have hnarrower : Belongs rank x sorted low middle :=
          ⟨hb.before, fun z hz => hlt.trans_le (hbehind z hz)⟩
        exact position_ok h hx hs hasc (by omega) (by omega) (Nat.le_of_lt hm) hnarrower
      · rw [if_neg (by simpa using hlt)]
        have hnarrower : Belongs rank x sorted (middle + 1) high :=
          ⟨fun z hz => (hbefore z hz).trans (not_lt.mp hlt), hb.behind⟩
        exact position_ok h hx hs hasc (by omega) (by omega) hlen hnarrower
    · have hend : low = high := by omega
      subst hend
      rw [if_neg hlow]
      exact ⟨low, rfl, hb⟩

/-- An item put where it belongs keeps the order. -/
theorem Ascending.insert {sorted : List α} (h : Ascending rank sorted) {x : α} {n : Nat}
    (hb : Belongs rank x sorted n n) :
    Ascending rank (sorted.take n ++ x :: sorted.drop n) := by
  have hparts := h
  rw [← List.take_append_drop n sorted] at hparts
  obtain ⟨htake, hdrop, -⟩ := List.pairwise_append.mp hparts
  refine List.pairwise_append.mpr
    ⟨htake, List.pairwise_cons.mpr ⟨fun z hz => (hb.behind z hz).le, hdrop⟩, fun y hy z hz => ?_⟩
  rcases List.mem_cons.mp hz with rfl | hz
  · exact hb.before y hy
  · exact (hb.before y hy).trans (hb.behind z hz).le

/-! ## 3. All items -/

/-- **Items are inserted one after the other**, by induction on them: what is sorted stays sorted. -/
theorem insertAll_ok (h : Follows before rank among) :
    ∀ {rest sorted : List α}, (∀ x ∈ sorted ++ rest, among x) → Ascending rank sorted →
      ∃ all, insertAll before sorted rest = .ok all ∧ all.Perm (sorted ++ rest) ∧
        Ascending rank all
  | [], sorted, _, hasc => ⟨sorted, rfl, by rw [List.append_nil], hasc⟩
  | x :: rest, sorted, hall, hasc => by
    have hx := hall x (List.mem_append_right _ List.mem_cons_self)
    have hs := fun y hy => hall y (List.mem_append_left (x :: rest) hy)
    have hnone : Belongs rank x sorted 0 sorted.length := by
      constructor
      · intro y hy
        rw [List.take_zero] at hy
        cases hy
      · intro y hy
        rw [List.drop_length] at hy
        cases hy
    obtain ⟨n, hposition, hb⟩ :=
      position_ok h hx hs hasc (Nat.sub_le ..) (Nat.zero_le _) (Nat.le_refl _) hnone
    have hperm : (sorted.take n ++ x :: sorted.drop n ++ rest).Perm (sorted ++ x :: rest) := by
      calc (sorted.take n ++ x :: sorted.drop n ++ rest)
          |>.Perm (x :: (sorted.take n ++ sorted.drop n) ++ rest) :=
            List.perm_middle.append_right rest
        _ = x :: sorted ++ rest := by rw [List.take_append_drop]
        _ |>.Perm (sorted ++ x :: rest) := List.perm_middle.symm
    obtain ⟨all, hrest, hsame, hall'⟩ :=
      insertAll_ok h (fun y hy => hall y (hperm.mem_iff.mp hy)) (hasc.insert hb)
    refine ⟨all, ?_, hsame.trans hperm, hall'⟩
    unfold insertAll
    rw [hposition]
    exact hrest

/-- **Sorting gives the same items, in ascending order**, when the comparisons follow ranks. -/
theorem sort_ok (h : Follows before rank among) {items : List α} (hall : ∀ x ∈ items, among x) :
    ∃ sorted, sort before items = .ok sorted ∧ sorted.Perm items ∧ Ascending rank sorted := by
  match items with
  | [] => exact ⟨[], rfl, .refl _, .nil⟩
  | [x] => exact ⟨[x], rfl, .refl _, List.pairwise_singleton _ _⟩
  | x :: y :: rest =>
    have hx := hall x List.mem_cons_self
    have hy := hall y (List.mem_cons_of_mem x List.mem_cons_self)
    have hrest := fun z hz => hall z (List.mem_cons_of_mem x (List.mem_cons_of_mem y hz))
    obtain ⟨more, others, hstart, hsplit, hchain⟩ :=
      start_ok h (decide (rank y < rank x)) hy hrest
    have hrun : (x :: y :: more).IsChain
        fun u v => decide (rank v < rank u) = decide (rank y < rank x) := .cons_cons rfl hchain
    subst hsplit
    unfold sort
    simp only [h y x hy hx, bind, Except.bind, hstart]
    cases hdescending : decide (rank y < rank x) with
    | true =>
      rw [hdescending] at hrun
      have hperm : ((x :: y :: more).reverse ++ others).Perm (x :: y :: (more ++ others)) :=
        (List.reverse_perm _).append_right others
      obtain ⟨all, hinsert, hsame, hasc⟩ := insertAll_ok h
        (fun z hz => hall z (hperm.mem_iff.mp hz)) (ascending_reverse hrun)
      exact ⟨all, hinsert, hsame.trans hperm, hasc⟩
    | false =>
      rw [hdescending] at hrun
      exact insertAll_ok h hall (ascending_of_isChain hrun)

end Sorting

end Sluice.Sorted
