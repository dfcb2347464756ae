import Sluice.Proofs.Record.Instants
import Sluice.Proofs.Sql.Bound

/-!
# Times on their way to a database

A time goes through two walks before it is bound: the conversion puts it on UTC, and binding takes
the offset off again, so that the wall clock of UTC is what the database is told. Both walks go
through the same containers, since a converted value is made of lists and mappings only.

* `Sql.BoundAs`: **what a converted value is bound as**, apart from what is below it;
* `Sql.Binding.at`: a bound value has the positions of the converted one, and differs from it in its
  times only;
* `Field.convertFrom_instants`: **every time denotes its instant down to the database**.
-/

namespace Sluice

/-! ## 1. What native values are made of -/

/-- **A native value of some field**: null, a value without parts, a time on UTC, or a list or a row
of such values. -/
inductive Value.IsNative : Value → Prop where
  | null : IsNative .null
  | plain {v : Value} (h : v.IsPlain) : IsNative v
  | time {t : DateTime} (h : t.offset = some 0) : IsNative (.dateTime t)
  | list {xs : List Value} (h : ∀ x ∈ xs, IsNative x) : IsNative (.list xs)
  | row {row : List (Text × Value)} (h : ∀ e ∈ row, IsNative e.2) : IsNative (.ofPairs row)

/-- What conforms to a field is native, by induction on the field. -/
theorem Field.Conforms.isNative {f : Field} : ∀ {v : Value}, f.Conforms v → v.IsNative := by
  induction f using Field.induct with
  | scalar name nullable type element? members? =>
    rintro v (⟨rfl, -⟩ | hnative)
    · exact .null
    · cases hnative with
      | timestamp h => exact .time h
      | _ => exact .plain trivial
  | array name nullable element members? ih =>
    rintro v (⟨rfl, -⟩ | ⟨xs, rfl, hxs⟩)
    · exact .null
    · exact .list fun x hx => ih (hxs x hx)
  | record name nullable members element? ih =>
    rintro v (⟨rfl, -⟩ | ⟨row, rfl, hrow⟩)
    · exact .null
    · refine .row fun e he => ?_
      obtain ⟨m, hm, -, hconforms⟩ := exists_of_mem_right (conformsRow_iff.mp hrow) he
      exact ih m hm hconforms

namespace Sql

/-! ## 2. Bound values -/

/-- **What a converted value is bound as**, apart from what is below it: a time on UTC as the
wall-clock time, a list as one of the same length, a row as one of the same names in the same order,
and everything else as it is. -/
inductive BoundAs : Value → Value → Prop where
  | time {t : DateTime} (h : t.offset = some 0) :
      BoundAs (.dateTime t) (.dateTime t.withoutOffset)
  | list {xs ys : List Value} (h : ys.length = xs.length) : BoundAs (.list xs) (.list ys)
  | row {row bound : List (Text × Value)} (h : bound.map (·.1) = row.map (·.1)) :
      BoundAs (.ofPairs row) (.ofPairs bound)
  | null : BoundAs .null .null
  | plain {v : Value} (h : v.IsPlain) : BoundAs v v

theorem boundItems?_forall₂ : ∀ {xs ys : List Value}, bound?.boundItems? xs = some ys →
    List.Forall₂ (fun x y => bound? x = some y) xs ys
  | [], ys, h => by
    cases h
    exact .nil
  | x :: rest, ys, h => by
    unfold bound?.boundItems? at h
    split at h
    · next y others hy hothers =>
      cases h
      exact .cons hy (boundItems?_forall₂ hothers)
    · cases h

/-- The values of a row are bound one by one, each under the name it has. -/
theorem boundEntries?_ofPairs : ∀ {row : List (Text × Value)} {es : List (Value × Value)},
    bound?.boundEntries? (row.map fun (name, v) => (.text name, v)) = some es →
      ∃ bound : List (Text × Value), es = bound.map (fun (name, v) => (.text name, v)) ∧
        List.Forall₂ (fun e b => b.1 = e.1 ∧ bound? e.2 = some b.2) row bound
  | [], es, h => by
    cases h
    exact ⟨[], rfl, .nil⟩
  | (name, v) :: rest, es, h => by
    rw [List.map_cons] at h
    unfold bound?.boundEntries? at h
    split at h
    · next w others hw hothers =>
      cases h
      obtain ⟨bound, rfl, hbound⟩ := boundEntries?_ofPairs hothers
      exact ⟨(name, w) :: bound, rfl, .cons ⟨rfl, hw⟩ hbound⟩
    · cases h

/-- A native value and what it is bound as. -/
def Binding (w b : Value) : Prop := w.IsNative ∧ bound? w = some b

/-- **All ways in which a native value is bound.** -/
theorem Binding.cases {w b : Value} (h : Binding w b) :
    w = .null ∧ b = .null ∨ w.IsPlain ∧ b = w ∨
    (∃ t, t.offset = some 0 ∧ w = .dateTime t ∧ b = .dateTime t.withoutOffset) ∨
    (∃ xs ys, w = .list xs ∧ b = .list ys ∧ List.Forall₂ Binding xs ys) ∨
    ∃ row bound, w = .ofPairs row ∧ b = .ofPairs bound ∧
      List.Forall₂ (fun e b => b.1 = e.1 ∧ Binding e.2 b.2) row bound := by
  obtain ⟨hnative, hb⟩ := h
  cases hnative with
  | null =>
    cases hb
    exact .inl ⟨rfl, rfl⟩
  | plain hplain =>
    refine .inr (.inl ⟨hplain, ?_⟩)
    cases w <;> first | exact hplain.elim | exact (Option.some.inj hb).symm
  | @time t ht =>
    refine .inr (.inr (.inl ⟨t, ht, rfl, ?_⟩))
    unfold bound? DateTime.toUtc? at hb
    rw [ht] at hb
    exact (Option.some.inj hb).symm
  | @list xs hxs =>
    obtain ⟨ys, hys, rfl⟩ := Option.map_eq_some_iff.mp hb
    refine .inr (.inr (.inr (.inl ⟨xs, ys, rfl, rfl, ?_⟩)))
    refine (forall₂_mem (boundItems?_forall₂ hys)).imp ?_
    rintro x y ⟨hx, -, hy⟩
    exact ⟨hxs x hx, hy⟩
  | @row row hrow =>
    obtain ⟨es, hes, rfl⟩ := Option.map_eq_some_iff.mp hb
    obtain ⟨bound, rfl, hbound⟩ := boundEntries?_ofPairs hes
    refine .inr (.inr (.inr (.inr ⟨row, bound, rfl, rfl, ?_⟩)))
    refine (forall₂_mem hbound).imp ?_
    rintro e b ⟨he, -, hname, hvalue⟩
    exact ⟨hname, hrow e he, hvalue⟩

theorem Binding.boundAs {w b : Value} (h : Binding w b) : BoundAs w b := by
  rcases h.cases with ⟨rfl, rfl⟩ | ⟨hplain, rfl⟩ | ⟨t, ht, rfl, rfl⟩ | ⟨xs, ys, rfl, rfl, hys⟩ |
    ⟨row, bound, rfl, rfl, hbound⟩
  · exact .null
  · exact .plain hplain
  · exact .time ht
  · exact .list hys.length_eq.symm
  · refine .row ?_
    rw [← List.forall₂_eq_eq_eq, List.forall₂_map_left_iff, List.forall₂_map_right_iff]
    exact hbound.flip.imp fun b e h => h.1

/-- Below a bound value there is what is below the value itself, bound. -/
theorem Binding.child {w b : Value} (h : Binding w b) (i : Nat) :
    Option.Rel Binding (w.child? i) (b.child? i) := by
  rcases h.cases with ⟨rfl, rfl⟩ | ⟨hplain, rfl⟩ | ⟨t, -, rfl, rfl⟩ | ⟨xs, ys, rfl, rfl, hys⟩ |
    ⟨row, bound, rfl, rfl, hbound⟩
  · exact .none
  · cases b <;> first | exact hplain.elim | exact .none
  · exact .none
  · exact rel_getElem? hys i
  · refine rel_entry ?_ i
    rw [List.forall₂_map_left_iff, List.forall₂_map_right_iff]
    exact hbound.imp fun e b h => h.2

/-- **A bound value has the positions of the native value**, and at each of them what stands there
is bound. -/
theorem Binding.at {w b : Value} (h : Binding w b) (position : List Nat) :
    Option.Rel BoundAs (w.at? position) (b.at? position) :=
  Value.rel_at (fun _ _ => Binding.boundAs) (fun _ _ => Binding.child) h position

end Sql

/-! ## 3. From a record to a database -/

namespace Field

open Record

/-- **Every time denotes its instant down to the database.** Let a value be converted. Its times
stand where times were given, at every depth, and each is on UTC and denotes the instant that was
given there. The converted value can be bound; what is bound has the same positions and differs in
its times only: each has lost its offset, and its wall clock shows the instant that was given. The
offsets of times count whole seconds here (`DateTime`). -/
theorem convertFrom_instants {f : Field} {path? : Option Text} {v w : Value}
    (h : f.convertFrom path? v = .ok w) :
    (∀ position,
      (∀ q raw, (Place.start f path? v).Leads position q → q.value? = some (.dateTime raw) →
        ∃ t, w.at? position = some (.dateTime t) ∧ t.IsUtcOf raw) ∧
      ∀ t, w.at? position = some (.dateTime t) →
        ∃ q raw, (Place.start f path? v).Leads position q ∧ q.value? = some (.dateTime raw) ∧
          t.IsUtcOf raw) ∧
    ∃ b, Sql.bound? w = some b ∧
      (∀ position, Option.Rel Sql.BoundAs (w.at? position) (b.at? position)) ∧
      ∀ position t, b.at? position = some (.dateTime t) → t.offset = none ∧
        ∃ q raw, (Place.start f path? v).Leads position q ∧ q.value? = some (.dateTime raw) ∧
          t.wall = raw.instant := by
  have htimes := Place.dateTime_at (p := Place.start f path? v) h
  obtain ⟨b, hb⟩ := convert_bound f h
  have hbinding : Sql.Binding w b := ⟨(convert_conforms f h).isNative, hb⟩
  refine ⟨htimes, b, hb, hbinding.at, fun position t ht => ?_⟩
  have hrel := hbinding.at position
  rw [ht] at hrel
  cases hw : w.at? position with
  | none =>
    rw [hw] at hrel
    cases hrel
  | some x =>
    rw [hw] at hrel
    cases hrel with
    | some hbound =>
      cases hbound with
      | @time utc hutc =>
        obtain ⟨q, raw, hq, hraw, hisUtc⟩ := (htimes position).2 utc hw
        refine ⟨rfl, q, raw, hq, hraw, ?_⟩
        rw [DateTime.wall_withoutOffset hutc, hisUtc.instant]
      | plain hplain => exact hplain.elim

/-- Times in a tuple of a mapping: one that is shifted over the end of a year, one that is shifted
back into a leap day, and one without an offset, beside a date. -/
theorem convertFrom_instants_carries :
    let f : Field := .record "r" true
      [.array "ts" true (.ofScalar "element" true .timestamp) none, .ofScalar "d" true .date] none
    let newYear : DateTime := ⟨⟨1999, 12, 31⟩, 23, 30, 0, 0, some (-3600)⟩
    let leapDay : DateTime := ⟨⟨2024, 3, 1⟩, 0, 15, 0, 999999, some 3600⟩
    let naive : DateTime := ⟨⟨2024, 5, 1⟩, 12, 0, 0, 0, none⟩
    let v : Value := .ofPairs
      [("d", .date ⟨2024, 2, 29⟩), ("ts", .tuple [.dateTime newYear, .dateTime leapDay,
        .dateTime naive])]
    let w : Value := .ofPairs
      [("ts", .list [.dateTime ⟨⟨2000, 1, 1⟩, 0, 30, 0, 0, some 0⟩,
        .dateTime ⟨⟨2024, 2, 29⟩, 23, 15, 0, 999999, some 0⟩,
        .dateTime { naive with offset := some 0 }]), ("d", .date ⟨2024, 2, 29⟩)]
    let b : Value := .ofPairs
      [("ts", .list [.dateTime ⟨⟨2000, 1, 1⟩, 0, 30, 0, 0, none⟩,
        .dateTime ⟨⟨2024, 2, 29⟩, 23, 15, 0, 999999, none⟩, .dateTime naive]),
        ("d", .date ⟨2024, 2, 29⟩)]
    f.convertFrom none v = .ok w ∧ Sql.bound? w = some b ∧
      (∃ q raw, (Place.start f none v).Leads [0, 1] q ∧ q.value? = some (.dateTime raw) ∧
        DateTime.wall ⟨⟨2024, 2, 29⟩, 23, 15, 0, 999999, none⟩ = raw.instant) ∧
      Option.Rel Sql.BoundAs (w.at? [1]) (b.at? [1]) := by
  intro f newYear leapDay naive v w b
  have hv : f.convertFrom none v = .ok w := by cbv
  have hb : Sql.bound? w = some b := rfl
  obtain ⟨-, b', hb', hbound, htimes⟩ := convertFrom_instants hv
  cases hb.symm.trans hb'
  exact ⟨hv, hb, (htimes [0, 1] _ rfl).2, hbound [1]⟩

end Field

end Sluice
