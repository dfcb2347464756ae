import Sluice.Proofs.Record.Conforming
import Sluice.Sql.Statement

/-!
# Operations with a statement

An operation has a statement when the values of its columns can be bound and its key columns are
among them. Binding fails for times only that leave the calendar on their way to UTC, and converted
times are on UTC already.

* `Field.convert_bound`: **a converted value can be bound**, at every depth;
* `Operation.IsWritable`: operations with their key columns and converted values;
* `statement_of_canBind`, `statement_isOk`: **such an operation has a statement**.
-/

namespace Sluice

/-! ## 1. Values -/

namespace Sql

/-- A value can be bound. -/
def CanBind (v : Value) : Prop := ∃ w, bound? v = some w

theorem boundItems?_eq_some : ∀ {xs : List Value}, (∀ x ∈ xs, CanBind x) →
    ∃ ws, bound?.boundItems? xs = some ws
  | [], _ => ⟨[], rfl⟩
  | x :: rest, h => by
    obtain ⟨w, hw⟩ := h x List.mem_cons_self
    obtain ⟨ws, hws⟩ := boundItems?_eq_some fun y hy => h y (List.mem_cons_of_mem x hy)
    exact ⟨w :: ws, by rw [bound?.boundItems?, hw, hws]⟩

theorem boundEntries?_eq_some : ∀ {es : List (Value × Value)}, (∀ e ∈ es, CanBind e.2) →
    ∃ ws, bound?.boundEntries? es = some ws
  | [], _ => ⟨[], rfl⟩
  | (k, v) :: rest, h => by
    obtain ⟨w, hw⟩ : CanBind v := h (k, v) List.mem_cons_self
    obtain ⟨ws, hws⟩ := boundEntries?_eq_some fun e he => h e (List.mem_cons_of_mem (k, v) he)
    exact ⟨(k, w) :: ws, by rw [bound?.boundEntries?, hw, hws]⟩

/-- A list can be bound when its items can. -/
theorem canBind_list {xs : List Value} (h : ∀ x ∈ xs, CanBind x) : CanBind (.list xs) := by
  obtain ⟨ws, hws⟩ := boundItems?_eq_some h
  refine ⟨.list ws, ?_⟩
  rw [bound?, hws]
  rfl

/-- A mapping can be bound when the values of its entries can. -/
theorem canBind_mapping {es : List (Value × Value)} (h : ∀ e ∈ es, CanBind e.2) :
    CanBind (.mapping es) := by
  obtain ⟨ws, hws⟩ := boundEntries?_eq_some h
  refine ⟨.mapping ws, ?_⟩
  rw [bound?, hws]
  rfl

/-- A plain value is bound as it is. -/
theorem canBind_plain {v : Value} (h : v.IsPlain) : CanBind v := by
  refine ⟨v, ?_⟩
  cases v <;> first | rfl | exact h.elim

/-- A time on UTC is bound as the wall-clock time of UTC. -/
theorem canBind_dateTime {t : DateTime} (h : t.offset = some 0) : CanBind (.dateTime t) := by
  refine ⟨.dateTime t.withoutOffset, ?_⟩
  unfold bound? DateTime.toUtc?
  rw [h]
  rfl

end Sql

namespace Record

open Sql

theorem scalar_bound {type : Scalar} {path : Text} {v w : Value}
    (h : Record.scalar type path v = .ok w) : CanBind w := by
  unfold Record.scalar at h
  split at h
  · split at h
    · next utc hutc =>
      cases h
      exact canBind_dateTime (DateTime.toUtc?_offset hutc)
    · cases h
  · split at h
    · next w' hw =>
      cases h
      exact canBind_plain (scalar?_isPlain hw)
    · cases h
    · cases h

end Record

namespace Field

open Record Sql

/-- **A converted value can be bound**, by induction on the field. -/
theorem convert_bound (f : Field) : ∀ {path : Text} {v w : Value},
    f.convert path v = .ok w → CanBind w := by
  have hnull : CanBind .null := ⟨.null, rfl⟩
  induction f using Field.induct with
  | scalar name nullable type element? members? =>
    intro path v w h
    cases converts_iff.mp h with
    | null => exact hnull
    | scalar _ hw => exact scalar_bound hw
  | array name nullable element members? ih =>
    intro path v w h
    cases converts_iff.mp h with
    | null => exact hnull
    | items _ hys =>
      refine canBind_list fun y hy => ?_
      obtain ⟨item, -, hitem⟩ := exists_of_mem_right hys hy
      exact ih hitem
  | record name nullable members element? ih =>
    intro path v w h
    cases converts_iff.mp h with
    | null => exact hnull
    | members _ hrow =>
      refine canBind_mapping fun e he => ?_
      obtain ⟨e', he', rfl⟩ := List.mem_map.mp he
      obtain ⟨m, hm, -, hat⟩ := exists_of_mem_right hrow he'
      rcases convertAt_eq_ok.mp hat with ⟨v', -, hv'⟩ | ⟨-, -, habsent⟩
      · exact ih m hm hv'
      · exact habsent ▸ hnull

end Field

/-! ## 2. Operations -/

/-- The key columns that an operation is written by: its own, or those of its table if it names
none. -/
def Operation.keysOr (o : Operation) (tableKeys : List Text) : List Text :=
  if o.keyColumns.isEmpty then tableKeys else o.keyColumns

/-- **An operation as it comes from a record**: it carries the key columns that it is written by,
and the value of every column has been converted to the type of some field. -/
structure Operation.IsWritable (o : Operation) (tableKeys : List Text) : Prop where
  keys : ∀ name ∈ o.keysOr tableKeys, name ∈ o.columns.map (·.1)
  values : ∀ e ∈ o.columns, ∃ (f : Field) (path : Text) (v : Value), f.convert path v = .ok e.2

namespace Sql

/-- The values of columns that are there can be bound. -/
theorem boundColumns_isOk {row : Row} (hrow : ∀ e ∈ row, CanBind e.2) : ∀ (names : List Text),
    (∀ name ∈ names, name ∈ row.map (·.1)) → ∃ vs, boundColumns row names = .ok vs
  | [], _ => ⟨[], rfl⟩
  | name :: rest, hnames => by
    obtain ⟨vs, hvs⟩ := boundColumns_isOk hrow rest fun n hn =>
      hnames n (List.mem_cons_of_mem name hn)
    obtain ⟨e, he, hget⟩ := Row.get?_of_mem (hnames name List.mem_cons_self)
    obtain ⟨w, hw⟩ := hrow e he
    refine ⟨w :: vs, ?_⟩
    unfold boundColumns at hvs ⊢
    rw [List.mapM_cons, hvs, hget]
    dsimp only
    rw [hw]
    rfl

/-- **An operation has a statement** when it carries the key columns that it is written by and its
values can be bound. -/
theorem statement_of_canBind {o : Operation} {tableKeys : List Text}
    (hkeys : ∀ name ∈ o.keysOr tableKeys, name ∈ o.columns.map (·.1))
    (hrow : ∀ e ∈ o.columns, CanBind e.2) : ∃ s, statement o tableKeys = .ok s := by
  have hothers : ∀ name ∈ (o.columns.map (·.1)).filter fun n => !(o.keysOr tableKeys).contains n,
      name ∈ o.columns.map (·.1) := fun name hn => List.mem_of_mem_filter hn
  obtain ⟨values, hvalues⟩ := boundColumns_isOk hrow _ fun name hn => hn
  obtain ⟨keyValues, hkeyValues⟩ := boundColumns_isOk hrow _ hkeys
  obtain ⟨otherValues, hotherValues⟩ := boundColumns_isOk hrow _ hothers
  unfold Operation.keysOr at hkeyValues hotherValues
  unfold statement parts
  dsimp only
  rw [hvalues, hkeyValues, hotherValues]
  exact ⟨_, rfl⟩

/-- **An operation that comes from a record has a statement.** -/
theorem statement_isOk {o : Operation} {tableKeys : List Text} (h : o.IsWritable tableKeys) :
    ∃ s, statement o tableKeys = .ok s := by
  refine statement_of_canBind h.keys fun e he => ?_
  obtain ⟨f, path, v, hv⟩ := h.values e he
  exact Field.convert_bound f hv

end Sql

end Sluice
