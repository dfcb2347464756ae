import Sluice.Proofs.Record.Native
import Sluice.Proofs.Record.Operation

/-!
# Keys that can be named

A refusal names the key of its operation, and a whole number with very many digits cannot be
written. No native value holds such a number, since the whole numbers among them fit in 64 bits. So
every key that comes from a record can be named.

* `Field.Conforms.holdsOverlong`: **no native value holds a number that cannot be written**, by
  induction on the field;
* `Operation.IsNative`, `Operation.IsNameable`: operations that hold native values, and operations
  whose key can be named;
* `Operation.IsNative.isNameable`, `Transformer.transform_isNative`: the former are among the
  latter, and a transformer makes no others.
-/

namespace Sluice

/-! ## 1. Values -/

namespace Value

/-- A number of no more digits than the limit can be written. -/
theorem isOverlong_of_lt {n : Int} {digits : Nat} (h : n.natAbs < Nat.pow 10 digits)
    (hdigits : digits ≤ mostDigits) : isOverlong n = false := by
  have hmore : ∀ limit ≥ digits, n.natAbs < Nat.pow 10 limit := fun limit hlimit =>
    Nat.lt_of_lt_of_le h (Nat.pow_le_pow_right (by decide) hlimit)
  exact decide_eq_false (Nat.not_le.mpr (hmore mostDigits hdigits))

/-- Where every part can be written, so can a container of them. -/
theorem itemOverlong_of_forall : ∀ {xs : List Value}, (∀ x ∈ xs, x.holdsOverlong = false) →
    holdsOverlong.itemOverlong xs = false
  | [], _ => rfl
  | x :: rest, h => by
    obtain ⟨hx, hrest⟩ := List.forall_mem_cons.mp h
    rw [holdsOverlong.itemOverlong, hx, itemOverlong_of_forall hrest]
    rfl

theorem entryOverlong_ofPairs : ∀ {row : List (Text × Value)},
    (∀ e ∈ row, e.2.holdsOverlong = false) → (ofPairs row).holdsOverlong = false
  | [], _ => rfl
  | e :: rest, h => by
    obtain ⟨he, hrest⟩ := List.forall_mem_cons.mp h
    have hothers := entryOverlong_ofPairs hrest
    unfold ofPairs at hothers ⊢
    rw [holdsOverlong] at hothers ⊢
    rw [List.map_cons, holdsOverlong.entryOverlong, hothers, he]
    rfl

end Value

theorem Scalar.Native.holdsOverlong {type : Scalar} {v : Value} (h : type.Native v) :
    v.holdsOverlong = false := by
  cases h with
  | @int32 n hlow hhigh =>
    have hshort : n.natAbs < 10 ^ 10 := by omega
    exact Value.isOverlong_of_lt hshort (by decide)
  | @int64 n hlow hhigh =>
    have hshort : n.natAbs < 10 ^ 19 := by omega
    exact Value.isOverlong_of_lt hshort (by decide)
  | _ => rfl

/-- **No native value holds a number that cannot be written**, by induction on the field. -/
theorem Field.Conforms.holdsOverlong {f : Field} : ∀ {v : Value}, f.Conforms v →
    v.holdsOverlong = false := by
  induction f using Field.induct with
  | scalar name nullable type element? members? =>
    rintro v (⟨rfl, -⟩ | hnative)
    · rfl
    · exact hnative.holdsOverlong
  | array name nullable element members? ih =>
    rintro v (⟨rfl, -⟩ | ⟨xs, rfl, hxs⟩)
    · rfl
    · exact Value.itemOverlong_of_forall fun x hx => ih (hxs x hx)
  | record name nullable members element? ih =>
    rintro v (⟨rfl, -⟩ | ⟨row, rfl, hrow⟩)
    · rfl
    · refine Value.entryOverlong_ofPairs fun e he => ?_
      obtain ⟨m, hm, -, hconforms⟩ := exists_of_mem_right (conformsRow_iff.mp hrow) he
      exact ih m hm hconforms

/-! ## 2. Operations -/

namespace Operation

/-- **An operation that holds native values only**, each of some field. -/
def IsNative (o : Operation) : Prop := ∀ e ∈ o.columns, ∃ f : Field, f.Conforms e.2

/-- **A key that can be named**: no number in it has too many digits to be written. -/
def IsNameable (o : Operation) : Prop := (Value.tuple o.key).holdsOverlong = false

/-- The key of an operation with native values can be named. -/
theorem IsNative.isNameable {o : Operation} (h : o.IsNative) : o.IsNameable := by
  refine Value.itemOverlong_of_forall fun v hv => ?_
  obtain ⟨name, -, rfl⟩ := List.mem_map.mp hv
  refine Row.value_of_forall (P := fun v => v.holdsOverlong = false) rfl (fun e he => ?_) name
  obtain ⟨f, hf⟩ := h e he
  exact hf.holdsOverlong

end Operation

/-- **A transformer makes operations with native values only.** -/
theorem Transformer.transform_isNative {t : Transformer} {record : Value} {o : Operation}
    (h : t.transform record = .ok o) : o.IsNative := by
  obtain ⟨-, -, -, member, hcolumns⟩ := transform_inv h
  intro e he
  obtain ⟨f, -, -, ⟨v, hv⟩ | habsent⟩ := convertColumns_mem hcolumns e he
  · exact ⟨f, Field.convert_conforms f hv⟩
  · obtain ⟨hnullable, hnull⟩ := Field.convertAbsent_eq_ok.mp habsent
    exact ⟨f, hnull ▸ Field.conforms_null hnullable⟩

end Sluice
