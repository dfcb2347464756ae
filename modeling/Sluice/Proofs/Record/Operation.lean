import Sluice.Proofs.Record.Walk
import Sluice.Proofs.Value.Key

/-!
# The operation of a record

Every operation that a transformer makes is on its table, and of its kind. What an operation holds
has been converted, and among converted values there are no ratios: so its key is one that look-ups
can rely on, whatever the record held.

* `Field.convert_isProper`: a converted value is proper;
* `transform_inv`: **what the operation of a record looks like**;
* `transform_isProperKey`: its key is proper.
* `operationsOf`: the operations of several records.
-/

namespace Sluice

/-! ## 1. Converted values -/

/-- A value without parts that is neither a ratio nor a time. -/
def Value.IsPlain : Value → Prop
  | .bool _ | .int _ | .float _ | .decimal _ | .text _ | .bytes _ | .date _ => True
  | _ => False

theorem Value.IsPlain.isProper {v : Value} (h : v.IsPlain) : v.IsProper := by
  cases v <;> trivial

namespace Record

/-- What a conversion to a scalar type other than that of times yields. -/
theorem scalar?_isPlain {type : Scalar} {v w : Value} (h : scalar? type v = some (.ok w)) :
    w.IsPlain := by
  unfold scalar? at h
  split at h
  · cases h; trivial
  · split at h <;> cases h; trivial
  · split at h <;> cases h; trivial
  · obtain ⟨x?, -, hx⟩ := Option.map_eq_some_iff.mp h
    cases x? with
    | error obstacle => cases hx
    | ok x => cases hx; trivial
  · obtain ⟨x?, -, hx⟩ := Option.map_eq_some_iff.mp h
    cases x? with
    | error obstacle => cases hx
    | ok x =>
      change (if x.fitsBinary32 = true then _ else _) = _ at hx
      split at hx <;> cases hx; trivial
  · split at h <;> cases h; trivial
  · cases h; trivial
  · split at h <;> cases h; trivial
  · cases h; trivial
  · cases h; trivial
  · cases h; trivial
  · cases h; trivial
  · cases h

theorem scalar_isProper {type : Scalar} {path : Text} {v w : Value}
    (h : Record.scalar type path v = .ok w) : w.IsProper := by
  unfold Record.scalar at h
  split at h
  · split at h
    · cases h; trivial
    · cases h
  · split at h
    · next w' hw => cases h; exact (scalar?_isPlain hw).isProper
    · cases h
    · cases h

end Record

namespace Field

open Record

/-- **A converted value is proper**: no ratio is left, and no tuple. -/
theorem convert_isProper {f : Field} {path : Text} {v w : Value} (h : f.convert path v = .ok w) :
    w.IsProper := by
  cases converts_iff.mp h with
  | null => trivial
  | scalar _ hw => exact scalar_isProper hw
  | items => trivial
  | members => trivial

end Field

/-! ## 2. Keys -/

namespace Value

theorem allProper_of_forall : ∀ {vs : List Value}, (∀ v ∈ vs, v.IsProper) → IsProperKey vs
  | [], _ => trivial
  | v :: _, h =>
    ⟨h v List.mem_cons_self, allProper_of_forall fun w hw => h w (List.mem_cons_of_mem v hw)⟩

end Value

/-- What a row holds under a name is one of its values, or null. -/
theorem Row.value_of_forall {P : Value → Prop} (hnull : P .null) {row : Row}
    (h : ∀ e ∈ row, P e.2) (name : Text) : P (row.value name) := by
  unfold Row.value
  cases hget : row.get? name with
  | none => exact hnull
  | some v =>
    obtain ⟨e, he, rfl⟩ := Option.map_eq_some_iff.mp hget
    exact h e (List.mem_of_find?_eq_some he)

namespace Transformer

open Record

/-- **Every column of a row comes of its field**: its value has been converted, or was absent. -/
theorem convertColumns_mem {member : Text → Except Refusal (Option Value)} :
    ∀ {fs : List Field} {row : Row}, convertColumns member fs = .ok row →
      ∀ e ∈ row, ∃ f ∈ fs, e.1 = f.name ∧
        ((∃ v, f.convert f.name v = .ok e.2) ∨ f.convertAbsent f.name = .ok e.2)
  | [], row, h, e, he => by
    cases h
    cases he
  | f :: rest, row, h, e, he => by
    unfold convertColumns at h
    obtain ⟨v?, -, h⟩ := bind_ok h
    have hcolumn : ∃ w, ((∃ v, f.convert f.name v = .ok w) ∨ f.convertAbsent f.name = .ok w) ∧
        ∃ row', convertColumns member rest = .ok row' ∧ row = (f.name, w) :: row' := by
      cases v? with
      | none =>
        obtain ⟨w, hw, h⟩ := bind_ok h
        obtain ⟨row', hrest, h⟩ := bind_ok h
        cases h
        exact ⟨w, .inr hw, row', hrest, rfl⟩
      | some v =>
        obtain ⟨w, hw, h⟩ := bind_ok h
        obtain ⟨row', hrest, h⟩ := bind_ok h
        cases h
        exact ⟨w, .inl ⟨v, hw⟩, row', hrest, rfl⟩
    obtain ⟨w, hw, row', hrest, rfl⟩ := hcolumn
    rcases List.mem_cons.mp he with rfl | he
    · exact ⟨f, List.mem_cons_self, rfl, hw⟩
    · obtain ⟨g, hg, found⟩ := convertColumns_mem hrest e he
      exact ⟨g, List.mem_cons_of_mem f hg, found⟩

theorem convertColumns_isProper {member : Text → Except Refusal (Option Value)} {fs : List Field}
    {row : Row} (h : convertColumns member fs = .ok row) : ∀ e ∈ row, e.2.IsProper := by
  intro e he
  obtain ⟨f, -, -, ⟨v, hv⟩ | habsent⟩ := convertColumns_mem h e he
  · exact Field.convert_isProper hv
  · rw [(Field.convertAbsent_eq_ok.mp habsent).2]
    trivial

variable {t : Transformer} {record : Value} {o : Operation}

/-- **What the operation of a record looks like**: it is on the table of the transformer, under its
key columns, and its columns have been converted. -/
theorem transform_inv (h : t.transform record = .ok o) :
    o.table = t.table ∧ o.verb = t.verb ∧ o.keyColumns = t.keyColumns ∧
      ∃ member, convertColumns member t.fields = .ok o.columns := by
  have hmap : ∀ {x : Except Refusal Row},
      x.map (fun row => (⟨t.table, t.verb, row, t.keyColumns⟩ : Operation)) = .ok o →
        x = .ok o.columns ∧ o = ⟨t.table, t.verb, o.columns, t.keyColumns⟩ := by
    intro x hx
    cases x with
    | error r => cases hx
    | ok row => cases hx; exact ⟨rfl, rfl⟩
  unfold transform at h
  dsimp only at h
  split at h
  · split at h
    · cases h
    · obtain ⟨hcolumns, ho⟩ := hmap h
      rw [ho]
      exact ⟨rfl, rfl, rfl, _, hcolumns⟩
  · split at h
    · obtain ⟨hcolumns, ho⟩ := hmap h
      rw [ho]
      exact ⟨rfl, rfl, rfl, _, hcolumns⟩
    · cases h

/-- **The key of an operation is proper**, whatever its record held. -/
theorem transform_isProperKey (h : t.transform record = .ok o) : Value.IsProperKey o.key := by
  obtain ⟨-, -, -, member, hcolumns⟩ := transform_inv h
  refine Value.allProper_of_forall fun v hv => ?_
  obtain ⟨name, -, rfl⟩ := List.mem_map.mp hv
  exact Row.value_of_forall trivial (convertColumns_isProper hcolumns) name

/-- The operations that records become, in order. -/
def operationsOf (t : Transformer) (records : List Value) : List Operation :=
  records.filterMap fun record => (t.transform record).toOption

theorem mem_operationsOf {records : List Value} (h : o ∈ t.operationsOf records) :
    ∃ record ∈ records, t.transform record = .ok o := by
  obtain ⟨record, hrecord, ho⟩ := List.mem_filterMap.mp h
  refine ⟨record, hrecord, ?_⟩
  cases ht : t.transform record with
  | error r => rw [ht] at ho; cases ho
  | ok o' => rw [ht] at ho; cases ho; rfl

end Transformer

end Sluice
