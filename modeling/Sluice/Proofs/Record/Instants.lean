import Sluice.Proofs.Calendar.Shift
import Sluice.Proofs.Record.FirstFault
import Sluice.Proofs.Record.Native
import Sluice.Proofs.Record.Operation
import Sluice.Proofs.Value.Position

/-!
# Times of converted values

A converted value has a part for each place that its field declares: the item of the same number,
the entry of the same number as the member. So its times stand where times were given, and each of
them is the given one on UTC.

* `Place.outcome_child`, `Place.outcome_at`: **what stands at a position of a converted value is
  what the place there is converted to**;
* `Place.outcome_dateTime`: where a place is converted to a time, a time has been given there, and
  it denotes the same instant.
-/

namespace Sluice

open Record

/-! ## 1. Positions -/

namespace Record.Place

section Parts

variable {name path : Text} {nullable : Bool} {v : Value} {i : Nat} {c : Place}

theorem part_item {element : Field} {members? : Option (List Field)} {xs : List Value}
    (hv : items? v = some xs) :
    Part ⟨.array name nullable element members?, path, some v⟩ i c ↔
      ∃ x, xs[i]? = some x ∧ c = ⟨element, itemPath path i, some x⟩ := by
  constructor
  · intro hc
    cases hc with
    | item hv' hx =>
      cases hv.symm.trans hv'
      exact ⟨_, hx, rfl⟩
  · rintro ⟨x, hx, rfl⟩
    exact .item hv hx

theorem part_member {members : List Field} {element? : Option Field} {es : List (Value × Value)}
    (hv : v.entries? = some es) :
    Part ⟨.record name nullable members element?, path, some v⟩ i c ↔
      ∃ m, members[i]? = some m ∧ c = ⟨m, memberPath path m.name, Value.lookup m.name es⟩ := by
  constructor
  · intro hc
    cases hc with
    | member hv' hm =>
      cases hv.symm.trans hv'
      exact ⟨_, hm, rfl⟩
  · rintro ⟨m, hm, rfl⟩
    exact .member hv hm

end Parts

variable {p : Place} {w : Value}

/-- **Below a converted value stand its converted parts**, each under its number. -/
theorem outcome_child (h : p.outcome = .ok w) {i : Nat} {x : Value} :
    w.child? i = some x ↔ ∃ c, p.Part i c ∧ c.outcome = .ok x := by
  obtain ⟨f, path, v?⟩ := p
  cases v? with
  | none =>
    obtain ⟨-, rfl⟩ := Field.convertAbsent_eq_ok.mp h
    exact iff_of_false (by rintro ⟨⟩) (by rintro ⟨c, ⟨⟩, -⟩)
  | some v =>
    cases Field.converts_iff.mp h with
    | null =>
      refine iff_of_false (by rintro ⟨⟩) ?_
      rintro ⟨c, hv | hv, -⟩ <;> cases hv
    | scalar _ hw =>
      refine iff_of_false ?_ (by rintro ⟨c, ⟨⟩, -⟩)
      cases scalar_native hw <;> rintro ⟨⟩
    | @items _ _ _ element _ _ xs ys hv hys =>
      have hrel := rel_getElem? hys i
      rw [List.getElem?_zipIdx, Nat.zero_add] at hrel
      have hitem : ys[i]? = some x ↔ ∃ a, xs[i]?.map (·, i) = some a ∧
          element.itemStep path a = .ok x :=
        rel_eq_some hrel fun hb hb' => Except.ok.inj (hb.symm.trans hb')
      simp only [part_item hv]
      rw [Value.child?, hitem]
      constructor
      · rintro ⟨a, ha, hx⟩
        obtain ⟨raw, hraw, rfl⟩ := Option.map_eq_some_iff.mp ha
        exact ⟨_, ⟨raw, hraw, rfl⟩, hx⟩
      · rintro ⟨c, ⟨raw, hraw, rfl⟩, hx⟩
        exact ⟨(raw, i), by rw [hraw]; rfl, hx⟩
    | @members _ _ _ members _ _ es row hv hrow =>
      have hvalue : List.Forall₂ (fun m x => m.convertAt (memberPath path m.name) es = .ok x)
          members (row.map (·.2)) :=
        List.forall₂_map_right_iff.mpr (hrow.imp fun m e h => h.2)
      have hmember : (row.map (·.2))[i]? = some x ↔ ∃ m, members[i]? = some m ∧
          m.convertAt (memberPath path m.name) es = .ok x :=
        rel_eq_some (rel_getElem? hvalue i) fun hb hb' => Except.ok.inj (hb.symm.trans hb')
      have hchild : (Value.ofPairs row).child? i = (row.map (·.2))[i]? := by
        rw [Value.ofPairs, Value.child?, List.getElem?_map, List.getElem?_map, Option.map_map]
        rfl
      simp only [part_member hv]
      rw [hchild, hmember]
      constructor
      · rintro ⟨m, hm, hx⟩
        exact ⟨_, ⟨m, hm, rfl⟩, outcome_member.trans hx⟩
      · rintro ⟨c, ⟨m, hm, rfl⟩, hx⟩
        exact ⟨m, hm, outcome_member.symm.trans hx⟩

/-- **What stands at a position of a converted value is what the place there is converted to.** -/
theorem outcome_at {position : List Nat} (h : p.outcome = .ok w) {x : Value} :
    w.at? position = some x ↔ ∃ q, p.Leads position q ∧ q.outcome = .ok x := by
  induction position generalizing p w with
  | nil =>
    constructor
    · intro hx
      cases hx
      exact ⟨p, .here p, h⟩
    · rintro ⟨q, hq, hx⟩
      cases hq
      cases h.symm.trans hx
      rfl
  | cons i rest ih =>
    rw [Value.at?_cons, Option.bind_eq_some_iff]
    constructor
    · rintro ⟨y, hy, hx⟩
      obtain ⟨c, hc, hcy⟩ := (outcome_child h).mp hy
      obtain ⟨q, hq, hqx⟩ := (ih hcy).mp hx
      exact ⟨q, .part hc hq, hqx⟩
    · rintro ⟨q, hq, hx⟩
      cases hq with
      | part hc hq =>
        obtain ⟨y, hy⟩ := hc.outcome_ok h
        exact ⟨y, (outcome_child h).mpr ⟨_, hc, hy⟩, (ih hy).mpr ⟨q, hq, hx⟩⟩

end Record.Place

/-! ## 2. Times -/

namespace Record

/-- Of the scalars, times and nothing else are converted to times, each to itself on UTC. -/
theorem scalar_dateTime {type : Scalar} {path : Text} {v w : Value}
    (h : Record.scalar type path v = .ok w) :
    (∃ raw t, v = .dateTime raw ∧ w = .dateTime t ∧ t.IsUtcOf raw) ∨
      (∀ raw, v ≠ .dateTime raw) ∧ ∀ t, w ≠ .dateTime t := by
  unfold Record.scalar at h
  split at h
  · next raw =>
    split at h
    · next t ht =>
      cases h
      exact .inl ⟨raw, t, rfl, rfl, DateTime.toUtc?_isUtcOf ht⟩
    · cases h
  · split at h
    · next w' hw =>
      cases h
      refine .inr ⟨?_, ?_⟩
      · rintro raw rfl
        cases type <;> cases hw
      · rintro t rfl
        exact scalar?_isPlain hw
    · cases h
    · cases h

variable {p : Place} {w : Value}

/-- **A place is converted to a time where a time is given**, and to the one on UTC that denotes the
same instant. -/
theorem Place.outcome_dateTime (h : p.outcome = .ok w) :
    (∃ raw t, p.value? = some (.dateTime raw) ∧ w = .dateTime t ∧ t.IsUtcOf raw) ∨
      (∀ raw, p.value? ≠ some (.dateTime raw)) ∧ ∀ t, w ≠ .dateTime t := by
  obtain ⟨f, path, v?⟩ := p
  cases v? with
  | none =>
    obtain ⟨-, rfl⟩ := Field.convertAbsent_eq_ok.mp h
    exact .inr ⟨by rintro raw ⟨⟩, by rintro t ⟨⟩⟩
  | some v =>
    cases Field.converts_iff.mp h with
    | null => exact .inr ⟨by rintro raw ⟨⟩, by rintro t ⟨⟩⟩
    | scalar _ hw =>
      rcases scalar_dateTime hw with ⟨raw, t, rfl, rfl, ht⟩ | ⟨hraw, ht⟩
      · exact .inl ⟨raw, t, rfl, rfl, ht⟩
      · exact .inr ⟨fun raw hv => hraw raw (Option.some.inj hv), ht⟩
    | items hv =>
      refine .inr ⟨?_, by rintro t ⟨⟩⟩
      rintro raw ⟨⟩
      cases hv
    | members hv =>
      refine .inr ⟨?_, by rintro t ⟨⟩⟩
      rintro raw ⟨⟩
      cases hv

/-- **The times of a converted value stand where times were given**, and each denotes the instant of
the one that was given there. -/
theorem Place.dateTime_at (h : p.outcome = .ok w) (position : List Nat) :
    (∀ q raw, p.Leads position q → q.value? = some (.dateTime raw) →
        ∃ t, w.at? position = some (.dateTime t) ∧ t.IsUtcOf raw) ∧
      ∀ t, w.at? position = some (.dateTime t) →
        ∃ q raw, p.Leads position q ∧ q.value? = some (.dateTime raw) ∧ t.IsUtcOf raw := by
  constructor
  · intro q raw hq hraw
    obtain ⟨x, hx⟩ := outcome_leads hq h
    rcases outcome_dateTime hx with ⟨raw', t, hraw', rfl, ht⟩ | ⟨hnone, -⟩
    · cases hraw.symm.trans hraw'
      exact ⟨t, (outcome_at h).mpr ⟨q, hq, hx⟩, ht⟩
    · exact absurd hraw (hnone raw)
  · intro t ht
    obtain ⟨q, hq, hx⟩ := (outcome_at h).mp ht
    rcases outcome_dateTime hx with ⟨raw, t', hraw, ht', hutc⟩ | ⟨-, hnone⟩
    · cases ht'
      exact ⟨q, raw, hq, hraw, hutc⟩
    · exact absurd rfl (hnone t)

end Record

end Sluice
