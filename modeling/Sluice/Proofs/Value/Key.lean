import Sluice.Value.Key
import Mathlib.Algebra.Ring.Int.Defs
import Mathlib.Algebra.Order.Ring.Int
import Mathlib.Tactic.Ring

/-!
# Equality of keys

Rows are looked up by the equality of key tuples (`Value.sameKey`). It is no equality in the strict
sense: numbers of different kinds may be the same key, and what is not a number is the same as
nothing, itself included. But among values that can be keys it is symmetric, and two keys that are
the same as a third one are the same as each other. That is what a look-up needs.

* `SameAtom`: the ways in which two values without parts can be the same;
* `sameKey_comm`: **the order of the two keys does not matter**;
* `sameKey_trans`: **keys that are the same as a third one are the same as each other**, if the
  third one has no ratio with the denominator 0 in it;
* `sameKey_self`: **a key is the same as itself**, if everything in it is defined.
-/

namespace Sluice

namespace Binary64

/-! ## 1. Numbers in two orders -/

theorem unitsOfRank_injective {m n : Nat} (h : unitsOfRank m = unitsOfRank n) : m = n := by
  rw [← roundRank_units m, h, roundRank_units]

theorem unitsOfRank_zero : unitsOfRank 0 = 0 := by
  simp [unitsOfRank]

theorem units_eq_zero {x : Binary64} : x.units = 0 ↔ x.rank.val = 0 := by
  constructor
  · intro h
    exact unitsOfRank_injective (h.trans unitsOfRank_zero.symm)
  · intro h
    unfold units
    rw [h]
    exact unitsOfRank_zero

/-- Numbers are in the same place when they have the same value. -/
theorem place_eq_iff {x y : Binary64} : x.place = y.place ↔ x.scaled = y.scaled := by
  have hinj : x.units = y.units ↔ x.rank.val = y.rank.val :=
    ⟨unitsOfRank_injective, fun h => congrArg unitsOfRank h⟩
  have hx := units_eq_zero (x := x)
  have hy := units_eq_zero (x := y)
  unfold place scaled
  split <;> split <;> omega

end Binary64

namespace Value

namespace Exact

/-- The denominator is a denominator. -/
def IsProper : Exact → Prop
  | .ratio _ den => den ≠ 0
  | _ => True

/-- A number that is one is the same as itself. -/
theorem same_self {x : Exact} (hx : x ≠ .undefined) : x.same x = true := by
  cases x with
  | ratio a d => exact beq_self_eq_true (a * d)
  | infinite negative => exact beq_self_eq_true negative
  | undefined => exact absurd rfl hx

theorem same_comm (x y : Exact) : x.same y = y.same x := by
  cases x <;> cases y <;> simp [same, Bool.beq_comm]

/-- Cross-multiplication is transitive over a number with a denominator. -/
theorem same_trans {x y z : Exact} (hx : x.IsProper) (hy : x.same y = true)
    (hz : x.same z = true) : y.same z = true := by
  cases x with
  | ratio a b =>
    cases y with
    | ratio c d =>
      cases z with
      | ratio e f =>
        simp only [same, beq_iff_eq] at hy hz ⊢
        have hb : (b : Int) ≠ 0 := Int.natCast_ne_zero.mpr hx
        refine mul_right_cancel₀ hb ?_
        calc c * f * b = c * b * f := by ring
          _ = a * d * f := by rw [hy]
          _ = a * f * d := by ring
          _ = e * b * d := by rw [hz]
          _ = e * d * b := by ring
      | infinite n => cases hz
      | undefined => cases hz
    | infinite n => cases hy
    | undefined => cases hy
  | infinite m =>
    cases y with
    | infinite n =>
      cases z with
      | infinite k =>
        simp only [same, beq_iff_eq] at hy hz ⊢
        rw [← hy, hz]
      | ratio e f => cases hz
      | undefined => cases hz
    | ratio c d => cases hy
    | undefined => cases hy
  | undefined => cases hy

/-- Over the same denominator the numerators decide. -/
theorem same_ratio {a b : Int} {den : Nat} (hd : den ≠ 0) :
    (ratio a den).same (ratio b den) = (a == b) := by
  have hd' : (den : Int) ≠ 0 := Int.natCast_ne_zero.mpr hd
  rw [Bool.eq_iff_iff, same, beq_iff_eq, beq_iff_eq]
  exact ⟨mul_right_cancel₀ hd', fun h => by rw [h]⟩

/-- Doubles are equal as numbers when their exact values are. -/
theorem same_ofFloat (x y : Binary64) : (ofFloat x).same (ofFloat y) = x.numEq y := by
  have hpow : ∀ n, Nat.pow 2 n ≠ 0 := fun n => Nat.ne_of_gt (Nat.two_pow_pos n)
  have hpow := hpow 1074
  generalize hden : Nat.pow 2 1074 = den at hpow
  unfold ofFloat Binary64.numEq
  rw [hden]
  cases hx : x.isNaN with
  | true => simp [same]
  | false =>
    cases hy : y.isNaN with
    | true => cases hi : x.isInfinite <;> simp [same]
    | false =>
      simp only [Bool.false_eq_true, if_false, Bool.not_false, Bool.true_and]
      unfold Binary64.isNaN at hx hy
      rw [decide_eq_false_iff_not] at hx hy
      cases hix : x.isInfinite <;> cases hiy : y.isInfinite <;>
        simp only [Binary64.isInfinite, beq_eq_false_iff_ne, beq_iff_eq] at hix hiy <;>
        simp only [Bool.false_eq_true, if_true, if_false]
      · rw [same_ratio hpow, Bool.eq_iff_iff, beq_iff_eq, beq_iff_eq]
        exact Binary64.place_eq_iff.symm
      · have hne : x.place ≠ y.place := by
          unfold Binary64.place
          split <;> split <;> omega
        exact (beq_eq_false_iff_ne.mpr hne).symm
      · have hne : x.place ≠ y.place := by
          unfold Binary64.place
          split <;> split <;> omega
        exact (beq_eq_false_iff_ne.mpr hne).symm
      · have hpos : 0 < Binary64.infinityRank := by decide
        rw [same, Bool.eq_iff_iff, beq_iff_eq, beq_iff_eq]
        unfold Binary64.place
        cases x.negative <;> cases y.negative <;> simp <;> omega

end Exact

/-! ## 2. Values without parts -/

/-- Denominators are denominators, in tuples as well. -/
def IsProper : Value → Prop
  | .ratio _ den => den ≠ 0
  | .tuple items => allProper items
  | _ => True
where
  /-- Every value of a list is proper. -/
  allProper : List Value → Prop
    | [] => True
    | v :: rest => v.IsProper ∧ allProper rest

/-- The values of a key are proper. -/
abbrev IsProperKey (key : List Value) : Prop := IsProper.allProper key

theorem number?_isProper {v : Value} {x : Exact} (hv : v.IsProper) (h : v.number? = some x) :
    x.IsProper := by
  have hfloat : ∀ y, (Exact.ofFloat y).IsProper := by
    intro y
    have hpow : ∀ n, Nat.pow 2 n ≠ 0 := fun n => Nat.ne_of_gt (Nat.two_pow_pos n)
    unfold Exact.ofFloat
    split
    · trivial
    · split
      · trivial
      · exact hpow 1074
  cases v with
  | bool b => cases h; exact Nat.one_ne_zero
  | int n => cases h; exact Nat.one_ne_zero
  | float y => cases h; exact hfloat y
  | decimal d =>
    cases h
    cases d with
    | finite negative coefficient exponent =>
      cases exponent with
      | ofNat k => exact Nat.one_ne_zero
      | negSucc k => exact Nat.ne_of_gt (Nat.pow_pos (by decide))
    | infinite negative => trivial
    | nan signaling negative payload => trivial
  | ratio n d => cases h; exact hv
  | complex re im =>
    simp only [number?] at h
    split at h
    · cases h; exact hfloat re
    · cases h
  | _ => cases h

/-- **The ways in which values without parts are the same**; a complex number is one by itself only
if it is no real number. -/
inductive SameAtom : Value → Value → Prop where
  | null : SameAtom .null .null
  | text (t : Text) : SameAtom (.text t) (.text t)
  | instant (s t : DateTime) (hs : s.offset.isSome = true) (ht : t.offset.isSome = true)
      (h : s.instant = t.instant) : SameAtom (.dateTime s) (.dateTime t)
  | wall (t : DateTime) (ht : t.offset = none) : SameAtom (.dateTime t) (.dateTime t)
  | date (d : Date) : SameAtom (.date d) (.date d)
  | complex (a b c d : Binary64) (hb : b.isZero = false) (hac : a.numEq c = true)
      (hbd : b.numEq d = true) : SameAtom (.complex a b) (.complex c d)
  | number {v w : Value} {x y : Exact} (hx : v.number? = some x) (hy : w.number? = some y)
      (h : x.same y = true) : SameAtom v w
  | octets {v w : Value} {bs : List UInt8} (hv : v.octets? = some bs) (hw : w.octets? = some bs) :
      SameAtom v w

section Atoms

variable {a b k : Value}

/-- Zeros are equal to zeros only. -/
theorem isZero_of_numEq {x y : Binary64} (h : x.numEq y = true) : x.isZero = y.isZero := by
  unfold Binary64.numEq Binary64.place at h
  unfold Binary64.isZero
  simp only [Bool.and_eq_true, beq_iff_eq] at h
  rw [Bool.eq_iff_iff, beq_iff_eq, beq_iff_eq]
  have hplace := h.2
  split at hplace <;> split at hplace <;> omega

theorem numEq_of_isZero {x y : Binary64} (hx : x.isZero = true) (hy : y.isZero = true) :
    x.numEq y = true := by
  have hrank : 0 < Binary64.infinityRank := by decide
  unfold Binary64.isZero at hx hy
  rw [beq_iff_eq] at hx hy
  have hnan : ∀ z : Binary64, z.rank.val = 0 → z.isNaN = false := by
    intro z hz
    unfold Binary64.isNaN
    rw [hz, decide_eq_false_iff_not]
    omega
  unfold Binary64.numEq Binary64.place
  rw [hnan x hx, hnan y hy, hx, hy]
  simp

theorem numEq_comm (x y : Binary64) : x.numEq y = y.numEq x := by
  rw [← Exact.same_ofFloat, ← Exact.same_ofFloat, Exact.same_comm]

theorem numEq_trans {x y z : Binary64} (hy : x.numEq y = true) (hz : x.numEq z = true) :
    y.numEq z = true := by
  unfold Binary64.numEq at hy hz ⊢
  simp only [Bool.and_eq_true, Bool.not_eq_true', beq_iff_eq] at hy hz ⊢
  exact ⟨⟨hy.1.2, hz.1.2⟩, hy.2.symm.trans hz.2⟩

theorem sameAtom_inv (h : sameAtom a b = true) : SameAtom a b := by
  unfold sameAtom at h
  split at h
  · exact .null
  · rw [beq_iff_eq] at h
    subst h
    exact .text _
  · next s t =>
    split at h
    · next hoffset =>
      rw [Bool.and_eq_true] at hoffset
      exact .instant s t hoffset.1 hoffset.2 (beq_iff_eq.mp h)
    · simp only [Bool.and_eq_true, beq_iff_eq, Option.isNone_iff_eq_none] at h
      obtain ⟨⟨hs, -⟩, rfl⟩ := h
      exact .wall s hs
  · rw [beq_iff_eq] at h
    subst h
    exact .date _
  · next x y z w =>
    rw [Bool.and_eq_true] at h
    cases hy : y.isZero with
    | false => exact .complex x y z w hy h.1 h.2
    | true =>
      -- a complex number without an imaginary part is a real number
      have hw : w.isZero = true := (isZero_of_numEq h.2).symm.trans hy
      refine .number (x := .ofFloat x) (y := .ofFloat z) ?_ ?_ ?_
      · simp [number?, hy]
      · simp [number?, hw]
      · rw [Exact.same_ofFloat]
        exact h.1
  · split at h
    · next x y hx hy => exact .number hx hy h
    · split at h
      · next x y hx hy =>
        rw [beq_iff_eq] at h
        subst h
        exact .octets hx hy
      · cases h

theorem sameAtom_number {x y : Exact} (hx : a.number? = some x) (hy : b.number? = some y) :
    sameAtom a b = x.same y := by
  unfold sameAtom
  split
  · cases hx
  · cases hx
  · cases hx
  · cases hx
  · next c d e f =>
    simp only [number?, Option.ite_none_right_eq_some, Option.some.injEq] at hx hy
    obtain ⟨hd, rfl⟩ := hx
    obtain ⟨hf, rfl⟩ := hy
    rw [Exact.same_ofFloat, numEq_of_isZero hd hf, Bool.and_true]
  · rw [hx, hy]

theorem sameAtom_octets {xs : List UInt8} (hx : a.octets? = some xs) (hy : b.octets? = some xs) :
    sameAtom a b = true := by
  have hna : a.number? = none := by cases a <;> cases hx <;> rfl
  unfold sameAtom
  split
  · cases hx
  · cases hx
  · cases hx
  · cases hx
  · cases hx
  · rw [hna, hx, hy]
    exact beq_self_eq_true xs

theorem SameAtom.sameAtom (h : SameAtom a b) : a.sameAtom b = true := by
  cases h with
  | null => rfl
  | text t => exact beq_self_eq_true t
  | instant s t hs ht h =>
    change (if s.offset.isSome && t.offset.isSome then s.instant == t.instant else _) = true
    rw [hs, ht, h]
    exact beq_self_eq_true _
  | wall t ht => simp [Value.sameAtom, ht]
  | date d => exact beq_self_eq_true d
  | complex a b c d hb hac hbd =>
    change (a.numEq c && b.numEq d) = true
    rw [hac, hbd]
    rfl
  | number hx hy h => rw [sameAtom_number hx hy, h]
  | octets hx hy => exact sameAtom_octets hx hy

theorem SameAtom.symm (h : SameAtom a b) : SameAtom b a := by
  cases h with
  | null => exact .null
  | text t => exact .text t
  | instant s t hs ht h => exact .instant t s ht hs h.symm
  | wall t ht => exact .wall t ht
  | date d => exact .date d
  | complex a b c d hb hac hbd =>
    refine .complex c d a b ((isZero_of_numEq hbd).symm.trans hb) ?_ ?_
    · rw [numEq_comm, hac]
    · rw [numEq_comm, hbd]
  | number hx hy h =>
    refine .number hy hx ?_
    rw [Exact.same_comm, h]
  | octets hx hy => exact .octets hy hx

/-- **Two values that are the same as a third one are the same in the same way.** -/
theorem SameAtom.trans (hk : k.IsProper) (ha : SameAtom k a) (hb : SameAtom k b) :
    SameAtom a b := by
  cases ha with
  | null =>
    cases hb with
    | null => exact .null
    | number hx => cases hx
    | octets hx => cases hx
  | text t =>
    cases hb with
    | text => exact .text t
    | number hx => cases hx
    | octets hx => cases hx
  | instant s t hs ht h =>
    cases hb with
    | instant _ u _ hu h' => exact .instant t u ht hu (h.symm.trans h')
    | wall _ hw => rw [hw] at hs; cases hs
    | number hx => cases hx
    | octets hx => cases hx
  | wall t ht =>
    cases hb with
    | instant _ u hs => rw [ht] at hs; cases hs
    | wall => exact .wall t ht
    | number hx => cases hx
    | octets hx => cases hx
  | date d =>
    cases hb with
    | date => exact .date d
    | number hx => cases hx
    | octets hx => cases hx
  | complex c d e f hd hce hdf =>
    cases hb with
    | complex _ _ g h _ hcg hdh =>
      exact .complex e f g h ((isZero_of_numEq hdf).symm.trans hd) (numEq_trans hce hcg)
        (numEq_trans hdf hdh)
    | number hx => simp [number?, hd] at hx
    | octets hx => cases hx
  | number hx hy h =>
    cases hb with
    | number hx' hz h' =>
      rw [hx] at hx'
      cases hx'
      exact .number hy hz (Exact.same_trans (number?_isProper hk hx) h h')
    | complex c d e f hd => simp [number?, hd] at hx
    | octets hbs =>
      cases k <;> cases hbs <;> cases hx
    | _ => cases hx
  | octets hv hw =>
    cases hb with
    | octets hv' hu =>
      rw [hv] at hv'
      cases hv'
      exact .octets hw hu
    | number hx => cases k <;> cases hv <;> cases hx
    | _ => cases hv

end Atoms

/-! ## 3. Keys -/

section Keys

variable {a b k : Value}

/-- A value without parts. -/
def isAtom : Value → Bool
  | .list _ => false
  | .tuple _ => false
  | .mapping _ => false
  | .frozen _ => false
  | .set _ => false
  | _ => true

theorem same_atom (ha : a.isAtom = true) (b : Value) : a.same b = a.sameAtom b := by
  cases a with
  | list xs => cases ha
  | tuple xs => cases ha
  | mapping es => cases ha
  | frozen es => cases ha
  | set xs => cases ha
  | _ => rw [same] <;> intros <;> contradiction

theorem SameAtom.isAtom (h : SameAtom a b) : a.isAtom = true := by
  cases h with
  | number hx => cases a <;> first | rfl | cases hx
  | octets hv => cases a <;> first | rfl | cases hv
  | _ => rfl

theorem SameAtom.same (h : SameAtom a b) : a.same b = true := by
  rw [same_atom h.isAtom]
  exact h.sameAtom

theorem same_tuple (xs ys : List Value) :
    (Value.tuple xs).same (.tuple ys) = same.sameItems xs ys := by
  rw [Value.same]

theorem same_tuple_inv {xs : List Value} (h : (Value.tuple xs).same b = true) :
    ∃ ys, b = .tuple ys ∧ same.sameItems xs ys = true := by
  unfold Value.same at h
  split at h
  · next ys => exact ⟨ys, rfl, h⟩
  · cases h

/-- A value that can be a key has no parts, or it is a tuple. -/
theorem isAtom_of_usable (ha : a.unusable? = none) : a.isAtom = true ∨ ∃ xs, a = .tuple xs := by
  cases a with
  | list xs => cases ha
  | tuple xs => exact .inr ⟨xs, rfl⟩
  | mapping es => cases ha
  | frozen es => cases ha
  | set xs => cases ha
  | _ => exact .inl rfl

theorem firstUnusable?_cons {v : Value} {rest : List Value}
    (h : unusable?.firstUnusable? (v :: rest) = none) :
    v.unusable? = none ∧ unusable?.firstUnusable? rest = none := by
  unfold unusable?.firstUnusable? at h
  exact Option.or_eq_none_iff.mp h

theorem sameItems_cons (x y : Value) (xs ys : List Value) :
    same.sameItems (x :: xs) (y :: ys) = (x.same y && same.sameItems xs ys) := by
  rw [same.sameItems]

theorem sameItems_cons_inv {x : Value} {xs ys : List Value}
    (h : same.sameItems (x :: xs) ys = true) :
    ∃ y rest, ys = y :: rest ∧ x.same y = true ∧ same.sameItems xs rest = true := by
  cases ys with
  | nil =>
    unfold same.sameItems at h
    cases h
  | cons y rest =>
    rw [sameItems_cons, Bool.and_eq_true] at h
    exact ⟨y, rest, rfl, h⟩

theorem sameItems_nil_inv {ys : List Value} (h : same.sameItems [] ys = true) : ys = [] := by
  cases ys with
  | nil => rfl
  | cons y rest =>
    unfold same.sameItems at h
    cases h

theorem sameItems_nil : same.sameItems [] [] = true := by rw [same.sameItems]

/-- **Items that are the same one by one**, by induction on the nesting. -/
theorem sameItems_symm {xs ys : List Value} (hx : unusable?.firstUnusable? xs = none)
    (h : same.sameItems xs ys = true) : same.sameItems ys xs = true := by
  match xs with
  | [] =>
    rw [sameItems_nil_inv h]
    exact sameItems_nil
  | x :: xs =>
    obtain ⟨hx, hxs⟩ := firstUnusable?_cons hx
    obtain ⟨y, rest, rfl, hxy, hrest⟩ := sameItems_cons_inv h
    have hyx : y.same x = true := by
      rcases isAtom_of_usable hx with hatom | ⟨zs, rfl⟩
      · rw [same_atom hatom] at hxy
        exact (sameAtom_inv hxy).symm.same
      · obtain ⟨ws, rfl, hw⟩ := same_tuple_inv hxy
        rw [same_tuple]
        exact sameItems_symm hx hw
    rw [sameItems_cons, hyx, sameItems_symm hxs hrest]
    rfl
termination_by sizeOf xs

theorem sameItems_trans {ks xs ys : List Value} (hk : unusable?.firstUnusable? ks = none)
    (hp : IsProperKey ks) (hx : same.sameItems ks xs = true)
    (hy : same.sameItems ks ys = true) : same.sameItems xs ys = true := by
  match ks with
  | [] =>
    rw [sameItems_nil_inv hx, sameItems_nil_inv hy]
    exact sameItems_nil
  | k :: ks =>
    obtain ⟨hk, hks⟩ := firstUnusable?_cons hk
    obtain ⟨x, xs, rfl, hkx, hxs⟩ := sameItems_cons_inv hx
    obtain ⟨y, ys, rfl, hky, hys⟩ := sameItems_cons_inv hy
    have hxy : x.same y = true := by
      rcases isAtom_of_usable hk with hatom | ⟨zs, rfl⟩
      · rw [same_atom hatom] at hkx hky
        exact ((sameAtom_inv hkx).trans hp.1 (sameAtom_inv hky)).same
      · obtain ⟨us, rfl, hu⟩ := same_tuple_inv hkx
        obtain ⟨vs, rfl, hv⟩ := same_tuple_inv hky
        rw [same_tuple]
        exact sameItems_trans hk hp.1 hu hv
    rw [sameItems_cons, hxy, sameItems_trans hks hp.2 hxs hys]
    rfl
termination_by sizeOf ks

/-- Values that are the same as themselves: no number that is none, nothing foreign, and nothing of
the kind in a tuple. -/
def IsDefined : Value → Prop
  | .complex re im => re.isNaN = false ∧ im.isNaN = false
  | .tuple items => allDefined items
  | .foreign _ => False
  | v => v.number? ≠ some .undefined
where
  /-- Every value of a list is defined. -/
  allDefined : List Value → Prop
    | [] => True
    | v :: rest => v.IsDefined ∧ allDefined rest

theorem number?_defined {x : Exact} (hd : a.IsDefined) (hx : a.number? = some x) :
    x ≠ .undefined := by
  rintro rfl
  unfold IsDefined at hd
  split at hd
  · next re im =>
    simp only [number?, Option.ite_none_right_eq_some, Option.some.injEq] at hx
    have hre := hx.2
    unfold Exact.ofFloat at hre
    rw [hd.1, if_neg Bool.false_ne_true] at hre
    split at hre <;> cases hre
  · cases hx
  · exact hd
  · exact hd hx

theorem sameAtom_self (hu : a.unusable? = none) (hatom : a.isAtom = true) (hd : a.IsDefined) :
    a.sameAtom a = true := by
  cases hx : a.number? with
  | some x =>
    rw [sameAtom_number hx hx]
    exact Exact.same_self (number?_defined hd hx)
  | none =>
    cases a with
    | null => rfl
    | text t => exact beq_self_eq_true t
    | date d => exact beq_self_eq_true d
    | dateTime t => cases ho : t.offset <;> simp [Value.sameAtom, ho]
    | complex re im =>
      unfold IsDefined at hd
      simp [Value.sameAtom, Binary64.numEq, hd.1, hd.2]
    | bytes bs => exact sameAtom_octets rfl rfl
    | view bs => exact sameAtom_octets rfl rfl
    | foreign kind => exact absurd hd (by simp [IsDefined])
    | buffer bs => cases hu
    | bool b => cases hx
    | int n => cases hx
    | float x => cases hx
    | decimal d => cases hx
    | ratio n d => cases hx
    | _ => cases hatom

/-- Defined items are the same one by one as themselves, by induction on the nesting. -/
theorem sameItems_self {ks : List Value} (hk : unusable?.firstUnusable? ks = none)
    (hd : IsDefined.allDefined ks) : same.sameItems ks ks = true := by
  match ks with
  | [] => exact sameItems_nil
  | k :: ks =>
    obtain ⟨hk, hks⟩ := firstUnusable?_cons hk
    have hself : k.same k = true := by
      rcases isAtom_of_usable hk with hatom | ⟨zs, rfl⟩
      · rw [same_atom hatom]
        exact sameAtom_self hk hatom hd.1
      · rw [same_tuple]
        exact sameItems_self hk hd.1
    rw [sameItems_cons, hself, sameItems_self hks hd.2]
    rfl
termination_by sizeOf ks

end Keys

/-- **It does not matter which of two keys is looked up under the other.** -/
theorem sameKey_comm {a b : List Value} (ha : unusableKey? a = none) (hb : unusableKey? b = none) :
    sameKey a b = sameKey b a := by
  rw [Bool.eq_iff_iff]
  exact ⟨sameItems_symm ha, sameItems_symm hb⟩

/-- **Keys that are the same as a third one are the same as each other.** -/
theorem sameKey_trans {k a b : List Value} (hk : unusableKey? k = none) (hp : IsProperKey k)
    (ha : sameKey k a = true) (hb : sameKey k b = true) : sameKey a b = true :=
  sameItems_trans hk hp ha hb

/-- **A key is found under itself**, if everything in it is defined. -/
theorem sameKey_self {key : List Value} (hk : unusableKey? key = none)
    (hd : IsDefined.allDefined key) : sameKey key key = true := sameItems_self hk hd

end Value

end Sluice
