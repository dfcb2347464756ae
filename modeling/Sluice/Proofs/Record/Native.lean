import Sluice.Proofs.Number.Exact
import Sluice.Proofs.Record.Walk
import Sluice.Proofs.Schema.Read

/-!
# Native values

What a conversion yields is a value that its field can store as it stands: a native value of the
field. Native values are told from the field alone, and converting one changes nothing. So
conversion is a retraction of all values that it accepts onto the native ones.

* `Scalar.Native`, `Field.Conforms`: **the native values of a field**, by recursion on the field;
* `Field.convert_conforms`: what is converted is native;
* `Field.Conforms.convert`: what is native is converted to itself;
* `Field.convert_image`: **the native values are what conversion yields, and what it leaves alone**.
-/

namespace Sluice

open Record

/-! ## 1. Scalars -/

/-- **The native values of the types without parts.** -/
inductive Scalar.Native : Scalar → Value → Prop where
  | bool (b : Bool) : Native .bool (.bool b)
  | int32 {n : Int} (hlow : -2 ^ 31 ≤ n) (hhigh : n < 2 ^ 31) : Native .int32 (.int n)
  | int64 {n : Int} (hlow : -2 ^ 63 ≤ n) (hhigh : n < 2 ^ 63) : Native .int64 (.int n)
  | float {x : Binary64} (h : x.isNaN = true ∨ x.isInfinite = true ∨ IsSingle x.value) :
      Native .float (.float x)
  | double (x : Binary64) : Native .double (.float x)
  | numeric (negative : Bool) (coefficient : Nat) (exponent : Int) :
      Native .numeric (.decimal (.finite negative coefficient exponent))
  | string {t : Text} (h : ∀ s ∈ t, ∃ c, s = .char c) : Native .string (.text t)
  | bytes (content : List UInt8) : Native .bytes (.bytes content)
  | timestamp {t : DateTime} (h : t.offset = some 0) : Native .timestamp (.dateTime t)
  | date (d : Date) : Native .date (.date d)

namespace Record

theorem fitsInt32_iff {n : Int} : fitsInt32 n = true ↔ -2 ^ 31 ≤ n ∧ n < 2 ^ 31 := by
  unfold fitsInt32
  rw [Bool.and_eq_true, decide_eq_true_eq, decide_eq_true_eq]
  omega

theorem fitsInt64_iff {n : Int} : fitsInt64 n = true ↔ -2 ^ 63 ≤ n ∧ n < 2 ^ 63 := by
  unfold fitsInt64
  rw [Bool.and_eq_true, decide_eq_true_eq, decide_eq_true_eq]
  omega

theorem isWellFormed_iff {t : Text} : t.isWellFormed = true ↔ ∀ s ∈ t, ∃ c, s = .char c := by
  unfold Text.isWellFormed
  rw [List.all_eq_true]
  refine forall₂_congr fun s _ => ?_
  cases s with
  | char c => simp
  | half i => simp

/-- Every conversion to a scalar type yields a native value, times apart. -/
theorem scalar?_native {type : Scalar} {v w : Value} (h : scalar? type v = some (.ok w)) :
    type.Native w := by
  unfold scalar? at h
  split at h
  · cases h
    exact .bool _
  · split at h <;> cases h
    next hfits => exact .int32 (fitsInt32_iff.mp hfits).1 (fitsInt32_iff.mp hfits).2
  · split at h <;> cases h
    next hfits => exact .int64 (fitsInt64_iff.mp hfits).1 (fitsInt64_iff.mp hfits).2
  · obtain ⟨r, -, hr⟩ := Option.map_eq_some_iff.mp h
    obtain ⟨x, -, rfl⟩ := map_ok hr
    exact .double x
  · obtain ⟨r, -, hr⟩ := Option.map_eq_some_iff.mp h
    obtain ⟨x, -, hx⟩ := bind_ok hr
    split at hx <;> cases hx
    next hfits => exact .float (Binary64.fitsBinary32_iff.mp hfits)
  · next d =>
    cases d <;> cases h
    exact .numeric _ _ _
  · cases h
    exact .numeric _ _ _
  · split at h <;> cases h
    next hfits => exact .string (isWellFormed_iff.mp hfits)
  · cases h
    exact .bytes _
  · cases h
    exact .bytes _
  · cases h
    exact .bytes _
  · cases h
    exact .date _
  · cases h

/-- **What is converted to a scalar type is native.** -/
theorem scalar_native {type : Scalar} {path : Text} {v w : Value}
    (h : Record.scalar type path v = .ok w) : type.Native w := by
  unfold Record.scalar at h
  split at h
  · split at h <;> cases h
    next hutc => exact .timestamp (DateTime.toUtc?_offset hutc)
  · split at h <;> cases h
    next hw => exact scalar?_native hw

end Record

namespace Scalar.Native

theorem notNull {type : Scalar} {v : Value} (h : type.Native v) : v.isNull = false := by
  cases h <;> rfl

/-- **What is native to a scalar type is converted to itself.** -/
theorem scalar {type : Scalar} {path : Text} {v : Value} (h : type.Native v) :
    Record.scalar type path v = .ok v := by
  cases h with
  | int32 hlow hhigh => simp [Record.scalar, scalar?, fitsInt32_iff.mpr ⟨hlow, hhigh⟩]
  | int64 hlow hhigh => simp [Record.scalar, scalar?, fitsInt64_iff.mpr ⟨hlow, hhigh⟩]
  | float h =>
    simp [Record.scalar, scalar?, exactDouble?, Except.bind, Binary64.fitsBinary32_iff.mpr h]
  | string h => simp [Record.scalar, scalar?, isWellFormed_iff.mpr h]
  | timestamp h => simp [Record.scalar, DateTime.toUtc?, h]
  | _ => rfl

end Scalar.Native

/-! ## 2. Fields -/

namespace Field

/-- **The native values of a field**: null where it is allowed, else a native value of the scalar
type, a list of native values of the element, or a mapping with exactly the members in their order,
each native. -/
def Conforms (f : Field) (v : Value) : Prop :=
  match f with
  | .scalar _ nullable type .. => (v = .null ∧ nullable = true) ∨ type.Native v
  | .array _ nullable element _ =>
    (v = .null ∧ nullable = true) ∨ ∃ xs, v = .list xs ∧ ∀ x ∈ xs, element.Conforms x
  | .record _ nullable members _ =>
    (v = .null ∧ nullable = true) ∨ ∃ row, v = .ofPairs row ∧ conformsRow members row
where
  /-- The row holds a native value for each member, under its name. -/
  conformsRow : List Field → List (Text × Value) → Prop
    | [], [] => True
    | m :: rest, e :: row => e.1 = m.name ∧ m.Conforms e.2 ∧ conformsRow rest row
    | _, _ => False

theorem conformsRow_iff : ∀ {members : List Field} {row : List (Text × Value)},
    Conforms.conformsRow members row ↔
      List.Forall₂ (fun m e => e.1 = m.name ∧ m.Conforms e.2) members row
  | [], [] => by simp [Conforms.conformsRow]
  | [], _ :: _ => by simp [Conforms.conformsRow]
  | _ :: _, [] => by simp [Conforms.conformsRow]
  | m :: rest, e :: row => by
    rw [List.forall₂_cons, Conforms.conformsRow, conformsRow_iff, and_assoc]

/-- Null conforms where it is allowed. -/
theorem conforms_null {f : Field} (h : f.nullable = true) : f.Conforms .null := by
  cases f <;> exact .inl ⟨rfl, h⟩

/-! ## 3. What is converted is native -/

/-- **What is converted is native**, by induction on the field. -/
theorem convert_conforms (f : Field) : ∀ {path : Text} {v w : Value},
    f.convert path v = .ok w → f.Conforms w := by
  induction f using Field.induct with
  | scalar name nullable type element? members? =>
    intro path v w h
    cases converts_iff.mp h with
    | null hnullable => exact conforms_null hnullable
    | scalar hv hw => exact .inr (scalar_native hw)
  | array name nullable element members? ih =>
    intro path v w h
    cases converts_iff.mp h with
    | null hnullable => exact conforms_null hnullable
    | @items _ _ _ _ _ _ xs ys hv hys =>
      refine .inr ⟨ys, rfl, fun y hy => ?_⟩
      obtain ⟨item, -, hitem⟩ := exists_of_mem_right hys hy
      exact ih hitem
  | record name nullable members element? ih =>
    intro path v w h
    cases converts_iff.mp h with
    | null hnullable => exact conforms_null hnullable
    | @members _ _ _ _ _ _ es row hv hrow =>
      refine .inr ⟨row, rfl, conformsRow_iff.mpr ?_⟩
      refine (forall₂_mem hrow).imp fun m e ⟨hm, _, hname, he⟩ => ⟨hname, ?_⟩
      rcases convertAt_eq_ok.mp he with ⟨v, -, hv⟩ | ⟨-, hnullable, hnull⟩
      · exact ih m hm hv
      · rw [hnull]
        exact conforms_null hnullable

end Field

/-! ## 4. What is native is left alone -/

/-- Under distinct names, a mapping made of pairs holds each of its values under its name. -/
theorem Value.lookup_ofPairs {row : List (Text × Value)} (h : (row.map (·.1)).Nodup)
    {e : Text × Value} (he : e ∈ row) :
    Value.lookup e.1 (row.map fun (name, v) => (.text name, v)) = some e.2 := by
  rw [Value.lookup_eq_some (Value.nodup_keys h)]
  exact List.mem_map.mpr ⟨e, he, rfl⟩

namespace Field

theorem forall₂_zipIdx {R : Value × Nat → Value → Prop} : ∀ {xs : List Value} (i : Nat),
    (∀ x ∈ xs, ∀ j, R (x, j) x) → List.Forall₂ R (xs.zipIdx i) xs
  | [], _, _ => .nil
  | x :: _, i, h => .cons (h x List.mem_cons_self i)
      (forall₂_zipIdx (i + 1) fun y hy => h y (List.mem_cons_of_mem x hy))

/-- **What is native is converted to itself**, by induction on the field. Distinct names are needed:
of two members of one name both would be given the value of the first. -/
theorem Conforms.convert {f : Field} : ∀ {v : Value}, f.isWellFormed = true → f.Conforms v →
    ∀ path, f.convert path v = .ok v := by
  induction f using Field.induct with
  | scalar name nullable type element? members? =>
    rintro v - (⟨rfl, hnullable⟩ | hnative) path
    · exact converts_iff.mpr (.null hnullable)
    · exact converts_iff.mpr (.scalar hnative.notNull hnative.scalar)
  | array name nullable element members? ih =>
    rintro v hf (⟨rfl, hnullable⟩ | ⟨xs, rfl, hxs⟩) path
    · exact converts_iff.mpr (.null hnullable)
    · have helement : element.isWellFormed = true := by simpa [isWellFormed] using hf
      exact converts_iff.mpr (.items rfl (forall₂_zipIdx 0 fun x hx j =>
        ih helement (hxs x hx) (itemPath path j)))
  | record name nullable members element? ih =>
    rintro v hf (⟨rfl, hnullable⟩ | ⟨row, rfl, hrow⟩) path
    · exact converts_iff.mpr (.null hnullable)
    · obtain ⟨-, hdistinct, hwell⟩ := isWellFormed_record.mp hf
      rw [conformsRow_iff] at hrow
      have hnames : members.map Field.name = row.map (·.1) := by
        rw [← List.forall₂_eq_eq_eq, List.forall₂_map_left_iff, List.forall₂_map_right_iff]
        exact hrow.imp fun m e h => h.1.symm
      rw [hnames] at hdistinct
      refine converts_iff.mpr (.members rfl ?_)
      refine (forall₂_mem hrow).imp ?_
      rintro m e ⟨hm, he, hname, hconforms⟩
      refine ⟨hname, ?_⟩
      have hfound : Value.lookup m.name (row.map fun (name, v) => (.text name, v)) = some e.2 := by
        rw [← hname]
        exact Value.lookup_ofPairs hdistinct he
      unfold convertAt
      rw [hfound]
      exact ih m hm (hwell m hm) hconforms (memberPath path m.name)

/-- **The native values of a field are what its conversion yields, and what it leaves alone.** For
every field that can be accepted, under every path: the values that conversion yields are the native
ones, whatever it is given; those that it yields unchanged are the native ones too; so converting
what has been converted changes nothing. -/
theorem convert_image {f : Field} (hf : f.isWellFormed = true) (path : Text) :
    (∀ w, (∃ v, f.convert path v = .ok w) ↔ f.Conforms w) ∧
      (∀ w, f.convert path w = .ok w ↔ f.Conforms w) ∧
      ∀ v w again, f.convert path v = .ok w → f.convert again w = .ok w := by
  refine ⟨fun w => ⟨?_, fun hw => ⟨w, hw.convert hf path⟩⟩,
    fun w => ⟨convert_conforms f, fun hw => hw.convert hf path⟩,
    fun v w again h => (convert_conforms f h).convert hf again⟩
  rintro ⟨v, hv⟩
  exact convert_conforms f hv

/-- A mapping with a whole number for a decimal, a tuple of times without an offset, a member that is
not declared and one that is missing: it is converted once and for all. -/
theorem convert_image_nested :
    let f : Field := .record "r" true [.ofScalar "n" false .numeric,
      .array "ts" true (.ofScalar "element" true .timestamp) none, .ofScalar "b" true .bytes] none
    let noon : DateTime := ⟨⟨2024, 2, 29⟩, 12, 0, 0, 0, none⟩
    let v : Value := .ofPairs
      [("spare", .bool true), ("ts", .tuple [.dateTime noon, .null]), ("n", .int 7)]
    let w : Value := .ofPairs
      [("n", .decimal (.finite false 7 0)),
        ("ts", .list [.dateTime { noon with offset := some 0 }, .null]), ("b", .null)]
    f.convert "r" v = .ok w ∧ f.Conforms w ∧ f.convert "again" w = .ok w := by
  intro f noon v w
  have hf : f.isWellFormed = true := by decide +kernel
  have hv : f.convert "r" v = .ok w := rfl
  obtain ⟨hyields, -, hagain⟩ := convert_image hf "r"
  exact ⟨hv, (hyields w).mp ⟨v, hv⟩, hagain v w "again" hv⟩

end Field

end Sluice
