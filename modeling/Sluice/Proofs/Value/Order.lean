import Sluice.Proofs.Calendar
import Sluice.Proofs.Value.Key
import Mathlib

/-!
# Order of keys

Not all values are ordered, but those of one family are: numbers, texts, bytes, dates, times. There
every value has a rank in a linear order; values are the same when their ranks are equal, and the
one of lesser rank comes first. Keys whose columns are each of one family are ordered as well, by
their first difference.

* `IsRanked`: values of one totally ordered type; `IsRankedKey`: keys of one;
* `Exact.same_rank`, `Exact.lt_rank`: **numbers of all kinds are ranked by their exact values**;
* `Family.isRanked`: **the values of each family are of one totally ordered type**;
* `isRankedKey_columns`: **so are keys, when the values of each column are**.
-/

namespace Sluice

namespace Value

/-! ## 1. Ranks -/

/-- **A comparison tells** whether something is so: it does not fail, and its answer is right. -/
def Tells (answer : Except Unordered Bool) (p : Prop) : Prop :=
  ∃ yes, answer = .ok yes ∧ (yes = true ↔ p)

/-- **Values of one totally ordered type**: every value has a rank, values are the same when their
ranks are equal, and of two that are not the one of lesser rank comes first. (Values that are the
same need not be comparable: null is not, and need not be.) -/
def IsRanked (among : Value → Prop) : Prop :=
  ∃ (β : Type) (_ : LinearOrder β) (rank : Value → β), ∀ v w, among v → among w →
    (v.same w = true ↔ rank v = rank w) ∧
      (rank v ≠ rank w → Tells (v.before w) (rank v < rank w))

/-- **Keys of one totally ordered type**: any two can be compared, and the ranks tell both which are
the same and which comes first. -/
def IsRankedKey (among : List Value → Prop) : Prop :=
  ∃ (β : Type) (_ : LinearOrder β) (rank : List Value → β), ∀ a b, among a → among b →
    (sameKey a b = true ↔ rank a = rank b) ∧ Tells (beforeKey a b) (rank a < rank b)

/-- Values that are made of something with a rank, each in one way, are of one totally ordered type
when its ranks tell them apart and in order. -/
theorem isRanked_of_image {γ β : Type} [LinearOrder β] [Inhabited β] {make : γ → Value}
    (hmake : Function.Injective make) (rank : γ → β) {among : Value → Prop} {p : γ → Prop}
    (hamong : ∀ v, among v → ∃ c, v = make c ∧ p c)
    (h : ∀ c d, p c → p d → ((make c).same (make d) = true ↔ rank c = rank d) ∧
      Tells ((make c).before (make d)) (rank c < rank d)) : IsRanked among := by
  refine ⟨β, inferInstance, Function.extend make rank fun _ => default, fun v w hv hw => ?_⟩
  obtain ⟨c, rfl, hc⟩ := hamong v hv
  obtain ⟨d, rfl, hd⟩ := hamong w hw
  rw [hmake.extend_apply, hmake.extend_apply]
  exact ⟨(h c d hc hd).1, fun _ => (h c d hc hd).2⟩

theorem IsRankedKey.mono {among fewer : List Value → Prop} (h : IsRankedKey among)
    (hfewer : ∀ key, fewer key → among key) : IsRankedKey fewer := by
  obtain ⟨β, order, rank, hrank⟩ := h
  exact ⟨β, order, rank, fun a b ha hb => hrank a b (hfewer a ha) (hfewer b hb)⟩

theorem beforeKey_cons (v w : Value) (vs ws : List Value) :
    beforeKey (v :: vs) (w :: ws) = if v.same w then beforeKey vs ws else v.before w := by
  unfold beforeKey
  rw [before.beforeItems]

/-- **Keys are ranked column by column**, by induction on the columns: the rank of a key is that of
its first value, and then that of the others. -/
theorem isRankedKey_columns : ∀ {columns : List (Value → Prop)}, (∀ among ∈ columns, IsRanked among) →
    IsRankedKey fun key => List.Forall₂ (fun among v => among v) columns key
  | [], _ => by
    refine ⟨Unit, inferInstance, fun _ => (), fun a b ha hb => ?_⟩
    cases ha
    cases hb
    exact ⟨iff_of_true sameItems_nil rfl, false, by rw [beforeKey, before.beforeItems], by simp⟩
  | among :: columns, h => by
    obtain ⟨β, _, first, hfirst⟩ := h among List.mem_cons_self
    obtain ⟨γ, _, others, hothers⟩ :=
      isRankedKey_columns fun among' hc => h among' (List.mem_cons_of_mem among hc)
    refine ⟨β ×ₗ γ, inferInstance, fun key => toLex (first (key.headD .null), others key.tail),
      fun a b ha hb => ?_⟩
    obtain ⟨v, vs, hv, hvs, rfl⟩ := List.forall₂_cons_left_iff.mp ha
    obtain ⟨w, ws, hw, hws, rfl⟩ := List.forall₂_cons_left_iff.mp hb
    obtain ⟨hsame, hbefore⟩ := hfirst v w hv hw
    obtain ⟨hsames, hbefores⟩ := hothers vs ws hvs hws
    have hkey : sameKey (v :: vs) (w :: ws) = (v.same w && sameKey vs ws) := sameItems_cons ..
    refine ⟨by simp [hkey, hsame, hsames], ?_⟩
    rw [beforeKey_cons]
    by_cases heq : first v = first w
    · obtain ⟨yes, hanswer, hyes⟩ := hbefores
      refine ⟨yes, by rw [if_pos (hsame.mpr heq), hanswer], ?_⟩
      simp [hyes, Prod.Lex.toLex_lt_toLex, heq]
    · obtain ⟨yes, hanswer, hyes⟩ := hbefore heq
      refine ⟨yes, by rw [if_neg (mt hsame.mp heq), hanswer], ?_⟩
      simp [hyes, Prod.Lex.toLex_lt_toLex, heq]

/-! ## 2. Numbers -/

namespace Exact

/-- **The place of a number among all**: the infinite ones are at the ends. -/
def rank : Exact → WithBot (WithTop Rat)
  | .ratio num den => ((num / den : Rat) : WithTop Rat)
  | .infinite false => (⊤ : WithTop Rat)
  | .infinite true => ⊥
  | .undefined => ⊥

section Ranks

variable {x y : Exact}

/-- **Numbers are the same when their exact values are.** -/
theorem same_rank (hx : x.IsProper) (hy : y.IsProper) (hx' : x ≠ .undefined)
    (hy' : y ≠ .undefined) : x.same y = true ↔ x.rank = y.rank := by
  cases x with
  | ratio a b =>
    cases y with
    | ratio c d =>
      have hb : (b : Rat) ≠ 0 := Nat.cast_ne_zero.mpr hx
      have hd : (d : Rat) ≠ 0 := Nat.cast_ne_zero.mpr hy
      rw [same, rank, rank, beq_iff_eq, WithBot.coe_inj, WithTop.coe_inj, div_eq_div_iff hb hd]
      exact_mod_cast Iff.rfl
    | infinite n => cases n <;> simp [same, rank]
    | undefined => exact absurd rfl hy'
  | infinite m =>
    cases y with
    | ratio c d => cases m <;> simp [same, rank]
    | infinite n => cases m <;> cases n <;> simp [same, rank]
    | undefined => exact absurd rfl hy'
  | undefined => exact absurd rfl hx'

/-- **The lesser number comes first.** -/
theorem lt_rank (hx : x.IsProper) (hy : y.IsProper) (hx' : x ≠ .undefined)
    (hy' : y ≠ .undefined) : x.lt y = true ↔ x.rank < y.rank := by
  cases x with
  | ratio a b =>
    cases y with
    | ratio c d =>
      have hb : (0 : Rat) < b := Nat.cast_pos.mpr (Nat.pos_of_ne_zero hx)
      have hd : (0 : Rat) < d := Nat.cast_pos.mpr (Nat.pos_of_ne_zero hy)
      rw [lt, rank, rank, decide_eq_true_eq, WithBot.coe_lt_coe, WithTop.coe_lt_coe,
        div_lt_div_iff₀ hb hd]
      exact_mod_cast Iff.rfl
    | infinite n =>
      have htop : ((a / b : Rat) : WithTop Rat) < ⊤ := WithTop.coe_lt_top _
      cases n with
      | false => exact iff_of_true rfl (WithBot.coe_lt_coe.mpr htop)
      | true => simp [lt, rank]
    | undefined => exact absurd rfl hy'
  | infinite m =>
    cases y with
    | ratio c d => cases m <;> simp [lt, rank]
    | infinite n => cases m <;> cases n <;> simp [lt, rank]
    | undefined => exact absurd rfl hy'
  | undefined => exact absurd rfl hx'

end Ranks

end Exact

/-! ## 3. Texts -/

end Value

/-- A code point is known by its number: no character has that of a half. -/
theorem Symbol.code_inj {s t : Symbol} (h : s.code = t.code) : s = t := by
  have hchar : ∀ (c : Char) (i : Fin 2048), c.toNat ≠ 0xD800 + i.val := by
    intro c i heq
    have hvalid : c.toNat < 0xD800 ∨ 0xDFFF < c.toNat ∧ c.toNat < 0x110000 := c.valid
    have hi := i.isLt
    omega
  cases s with
  | char c =>
    cases t with
    | char d => exact congrArg Symbol.char (Char.toNat_inj.mp h)
    | half j => exact absurd h (hchar c j)
  | half i =>
    cases t with
    | char d => exact absurd h.symm (hchar d i)
    | half j => exact congrArg Symbol.half (Fin.ext (Nat.add_left_cancel h))

/-- A text comes before another when its numbers do. -/
theorem Text.lt_iff {s t : Text} :
    Text.lt s t = true ↔ s.map Symbol.code < t.map Symbol.code := by
  induction s generalizing t with
  | nil => cases t <;> simp [Text.lt]
  | cons a s ih =>
    cases t with
    | nil => simp [Text.lt]
    | cons b t => simp [Text.lt, ih, List.cons_lt_cons_iff]

namespace Value

/-! ## 4. Families -/

/-- The families of ordered values; null is one by itself, in which there is nothing to compare. -/
inductive Family where
  | null
  | number
  | text
  | octets
  | date
  | instant
  | wall
  deriving DecidableEq, Repr

/-- **The values of a family**: nothing that is not a number among the numbers, and no days, hours
and minutes that there are not among the dates and times. -/
def Family.Has : Family → Value → Prop
  | .null, v => v = .null
  | .number, v => (∀ re im, v ≠ .complex re im) ∧ v.IsProper ∧
      ∃ x, v.number? = some x ∧ x ≠ .undefined
  | .text, v => ∃ t, v = .text t
  | .octets, v => ∃ bs, v = .bytes bs
  | .date, v => ∃ d, v = .date d ∧ d.isValid = true
  | .instant, v => ∃ t, v = .dateTime t ∧ t.offset.isSome = true
  | .wall, v => ∃ t, v = .dateTime t ∧ t.offset = none ∧ t.IsValid

section Atoms

variable {v w : Value}

theorem before_atom (hv : v.isAtom = true) (w : Value) : v.before w = v.beforeAtom w := by
  cases v with
  | list xs => cases hv
  | tuple xs => cases hv
  | mapping es => cases hv
  | frozen es => cases hv
  | set xs => cases hv
  | _ => rw [before] <;> intros <;> contradiction

theorem beforeAtom_number {x y : Exact} (hx : v.number? = some x) (hy : w.number? = some y)
    (hv : ∀ re im, v ≠ .complex re im) (hw : ∀ re im, w ≠ .complex re im) :
    v.beforeAtom w = .ok (x.lt y) := by
  unfold beforeAtom
  split
  · cases hx
  · cases hx
  · cases hx
  · cases hx
  · cases hx
  · exact absurd rfl (hv _ _)
  · exact absurd rfl (hw _ _)
  · cases hx
  · cases hy
  · rw [hx, hy]

end Atoms

/-- **The values of each family are of one totally ordered type.** -/
theorem Family.isRanked (f : Family) : IsRanked f.Has := by
  cases f with
  | null =>
    refine ⟨Unit, inferInstance, fun _ => (), fun v w hv hw => ?_⟩
    cases hv
    cases hw
    exact ⟨iff_of_true SameAtom.null.same rfl, fun h => absurd rfl h⟩
  | number =>
    refine ⟨WithBot (WithTop Rat), inferInstance, fun v => (v.number?.map Exact.rank).getD ⊥,
      fun v w hv hw => ?_⟩
    obtain ⟨hv, hproper, x, hx, hdefined⟩ := hv
    obtain ⟨hw, hproper', y, hy, hdefined'⟩ := hw
    have hatom : v.isAtom = true := by cases v <;> first | rfl | cases hx
    have hpx := number?_isProper hproper hx
    have hpy := number?_isProper hproper' hy
    rw [same_atom hatom, before_atom hatom, sameAtom_number hx hy, beforeAtom_number hx hy hv hw]
    dsimp only
    rw [hx, hy]
    exact ⟨Exact.same_rank hpx hpy hdefined hdefined',
      fun _ => ⟨_, rfl, Exact.lt_rank hpx hpy hdefined hdefined'⟩⟩
  | text =>
    refine isRanked_of_image (p := fun _ => True) (fun _ _ => Value.text.inj) (List.map Symbol.code)
      (fun v hv => hv.imp fun _ h => ⟨h, trivial⟩) fun s t _ _ => ?_
    have hinj : s.map Symbol.code = t.map Symbol.code ↔ s = t :=
      (List.map_injective_iff.mpr fun _ _ h => Symbol.code_inj h).eq_iff
    rw [same_atom rfl, before_atom rfl]
    exact ⟨beq_iff_eq.trans hinj.symm, _, rfl, Text.lt_iff⟩
  | octets =>
    refine isRanked_of_image (p := fun _ => True) (fun _ _ => Value.bytes.inj) (List.map UInt8.toNat)
      (fun v hv => hv.imp fun _ h => ⟨h, trivial⟩) fun bs cs _ _ => ?_
    have hinj : bs.map UInt8.toNat = cs.map UInt8.toNat ↔ bs = cs :=
      (List.map_injective_iff.mpr fun _ _ h => UInt8.toNat_inj.mp h).eq_iff
    rw [same_atom rfl, before_atom rfl]
    exact ⟨beq_iff_eq.trans hinj.symm, _, rfl, decide_eq_true_iff⟩
  | date =>
    refine isRanked_of_image (fun _ _ => Value.date.inj) Date.ordinal (fun _ => id)
      fun d e hd he => ?_
    rw [same_atom rfl, before_atom rfl]
    exact ⟨beq_iff_eq.trans ⟨congrArg Date.ordinal, Date.ordinal_inj hd he⟩,
      _, rfl, decide_eq_true_iff⟩
  | instant =>
    refine isRanked_of_image (fun _ _ => Value.dateTime.inj) DateTime.instant (fun _ => id)
      fun s t hs ht => ?_
    rw [same_atom rfl, before_atom rfl, sameAtom, beforeAtom, hs, ht]
    exact ⟨beq_iff_eq, _, rfl, decide_eq_true_iff⟩
  | wall =>
    refine isRanked_of_image (fun _ _ => Value.dateTime.inj) DateTime.wall (fun _ => id)
      fun s t hs ht => ?_
    obtain ⟨hs, hvalid⟩ := hs
    obtain ⟨ht, hvalid'⟩ := ht
    have hwall : ∀ u : DateTime, u.offset = none → u.instant = u.wall := by
      intro u hu
      unfold DateTime.instant
      rw [hu]
      exact sub_zero _
    have hinj : s.wall = t.wall ↔ s = t :=
      ⟨DateTime.wall_inj hvalid hvalid' (hs.trans ht.symm), congrArg DateTime.wall⟩
    rw [same_atom rfl, before_atom rfl, sameAtom, beforeAtom, hs, ht, hwall s hs, hwall t ht]
    exact ⟨beq_iff_eq.trans hinj.symm, _, rfl, decide_eq_true_iff⟩

/-- **Keys whose columns are each of one family are of one totally ordered type.** -/
theorem isRankedKey_families (families : List Family) :
    IsRankedKey fun key => List.Forall₂ Family.Has families key := by
  have hcolumns : ∀ among ∈ families.map Family.Has, IsRanked among := by
    intro among h
    obtain ⟨f, -, rfl⟩ := List.mem_map.mp h
    exact f.isRanked
  exact (isRankedKey_columns hcolumns).mono fun key h => List.forall₂_map_left_iff.mpr h

end Value

end Sluice
