import Sluice.Proofs.Record.Steady
import Mathlib.Data.List.Forall2
import Mathlib.Data.List.Nodup

/-!
# One level of a conversion

A conversion goes through a value as the field says: to the items of an array, to the members of a
record, and no further at a scalar. On each level it is a walk over a list that stops at the first
part that is refused. What such walks do is told here once.

* `Field.induct`: what holds of a field if it holds of its parts holds of every field;
* `mapM_eq_ok`, `mapM_eq_error`: **a walk succeeds in all of its steps or fails in the first that
  does not**;
* `Value.lookup_eq_some`: where no key occurs twice, what is found under a name is what is there;
* `Field.convert_array`, `Field.convert_record`: items and members are converted by such walks;
* `Field.converts_iff`: **all ways in which a conversion succeeds**, one rule for each.
-/

namespace Sluice

open Record

/-! ## 1. Induction on fields -/

/-- **What holds of a field if it holds of its parts holds of every field.** -/
@[elab_as_elim]
theorem Field.induct {P : Field → Prop}
    (scalar : ∀ name nullable type element? members?,
      P (.scalar name nullable type element? members?))
    (array : ∀ name nullable element members?, P element →
      P (.array name nullable element members?))
    (record : ∀ name nullable members element?, (∀ m ∈ members, P m) →
      P (.record name nullable members element?)) : ∀ f, P f
  | .scalar name nullable type element? members? => scalar name nullable type element? members?
  | .array name nullable element members? =>
    array name nullable element members? (induct scalar array record element)
  | .record name nullable members element? =>
    record name nullable members element? fun m hm =>
      have := List.sizeOf_lt_of_mem hm
      induct scalar array record m
termination_by f => sizeOf f

/-! ## 2. Walks -/

section Walks

variable {ε α β : Type} {step : α → Except ε β} {R : α → β → Prop}

/-- Lists that are related item by item are related by their members. -/
theorem forall₂_mem {xs : List α} {ys : List β} (h : List.Forall₂ R xs ys) :
    List.Forall₂ (fun x y => x ∈ xs ∧ y ∈ ys ∧ R x y) xs ys := by
  induction h with
  | nil => exact .nil
  | @cons x y xs ys hxy _ ih =>
    refine .cons ⟨List.mem_cons_self, List.mem_cons_self, hxy⟩ (ih.imp fun x' y' h' => ?_)
    exact ⟨List.mem_cons_of_mem x h'.1, List.mem_cons_of_mem y h'.2.1, h'.2.2⟩

theorem exists_of_mem_left {xs : List α} {ys : List β} (h : List.Forall₂ R xs ys) {x : α}
    (hx : x ∈ xs) : ∃ y ∈ ys, R x y := by
  obtain ⟨i, hi, rfl⟩ := List.getElem_of_mem hx
  have hlt : i < ys.length := h.length_eq ▸ hi
  exact ⟨ys[i], List.getElem_mem hlt, h.get hi hlt⟩

theorem exists_of_mem_right {xs : List α} {ys : List β} (h : List.Forall₂ R xs ys) {y : β}
    (hy : y ∈ ys) : ∃ x ∈ xs, R x y := by
  obtain ⟨i, hi, rfl⟩ := List.getElem_of_mem hy
  have hlt : i < xs.length := h.length_eq ▸ hi
  exact ⟨xs[i], List.getElem_mem hlt, h.get hlt hi⟩

/-- **A walk succeeds when each of its steps does.** -/
theorem mapM_eq_ok : ∀ {xs : List α} {ys : List β},
    xs.mapM step = .ok ys ↔ List.Forall₂ (fun x y => step x = .ok y) xs ys
  | [], ys => by
    rw [List.mapM_nil, List.forall₂_nil_left_iff]
    exact ⟨fun h => (Except.ok.inj h).symm, fun h => h ▸ rfl⟩
  | x :: rest, ys => by
    rw [List.mapM_cons, List.forall₂_cons_left_iff]
    constructor
    · intro h
      obtain ⟨y, hy, h⟩ := bind_ok h
      obtain ⟨zs, hrest, h⟩ := bind_ok h
      exact ⟨y, zs, hy, mapM_eq_ok.mp hrest, (Except.ok.inj h).symm⟩
    · rintro ⟨y, zs, hy, hrest, rfl⟩
      rw [hy, mapM_eq_ok.mpr hrest]
      rfl

/-- A walk fails in the first step that does. -/
theorem mapM_eq_error {e : ε} : ∀ {xs : List α}, xs.mapM step = .error e →
    ∃ (i : Nat) (x : α), xs[i]? = some x ∧ step x = .error e ∧
      ∀ (j : Nat) (y : α), j < i → xs[j]? = some y → ∃ z, step y = .ok z
  | [], h => by cases h
  | x :: rest, h => by
    rw [List.mapM_cons] at h
    rcases bind_error h with hx | ⟨z, hz, h⟩
    · exact ⟨0, x, rfl, hx, fun j _ hj => absurd hj (Nat.not_lt_zero j)⟩
    · rcases bind_error h with hrest | ⟨zs, -, h⟩
      · obtain ⟨i, y, hy, hfails, hbefore⟩ := mapM_eq_error hrest
        refine ⟨i + 1, y, hy, hfails, fun j y' hj hy' => ?_⟩
        cases j with
        | zero =>
          cases hy'
          exact ⟨z, hz⟩
        | succ j => exact hbefore j y' (Nat.lt_of_succ_lt_succ hj) hy'
      · cases h

/-- Walks that come to the same in each of their steps come to the same. -/
theorem mapM_congr {step' : α → Except ε β} {xs ys : List α}
    (h : List.Forall₂ (fun x y => step x = step' y) xs ys) : xs.mapM step = ys.mapM step' := by
  induction h with
  | nil => rfl
  | cons hstep _ ih => rw [List.mapM_cons, List.mapM_cons, hstep, ih]

theorem forall₂_zipIdx_both {xs : List α} {ys : List β} (h : List.Forall₂ R xs ys) : ∀ i : Nat,
    List.Forall₂ (fun a b => R a.1 b.1 ∧ a.2 = b.2) (xs.zipIdx i) (ys.zipIdx i) := by
  induction h with
  | nil => exact fun _ => .nil
  | cons hxy _ ih => exact fun i => .cons ⟨hxy, rfl⟩ (ih (i + 1))

end Walks

/-! ## 3. Look-ups -/

namespace Value

variable {name : Text}

theorem lookup_cons_self (name : Text) (v : Value) (rest : List (Value × Value)) :
    lookup name ((.text name, v) :: rest) = some v :=
  if_pos rfl

theorem lookup_cons_of_ne {key v : Value} {rest : List (Value × Value)} (h : key ≠ .text name) :
    lookup name ((key, v) :: rest) = lookup name rest := by
  cases key with
  | text k =>
    have hk : k ≠ name := fun hk => h (congrArg Value.text hk)
    exact if_neg hk
  | _ => rfl

/-- Where no key occurs twice, what is found under a name is what is there under it. -/
theorem lookup_eq_some {v : Value} : ∀ {es : List (Value × Value)}, (es.map (·.1)).Nodup →
    (lookup name es = some v ↔ (.text name, v) ∈ es)
  | [], _ => by simp [lookup]
  | (key, w) :: rest, hnodup => by
    rw [List.map_cons, List.nodup_cons] at hnodup
    obtain ⟨hkey, hrest⟩ := hnodup
    rw [List.mem_cons]
    by_cases hname : key = .text name
    · subst hname
      rw [lookup_cons_self]
      constructor
      · intro h
        cases h
        exact .inl rfl
      · rintro (h | h)
        · cases h
          rfl
        · exact absurd (List.mem_map_of_mem h) hkey
    · rw [lookup_cons_of_ne hname, lookup_eq_some hrest]
      refine ⟨.inr, fun h => h.resolve_left ?_⟩
      intro h
      cases h
      exact hname rfl

/-- A mapping that is made from distinct names has distinct keys. -/
theorem nodup_keys {row : List (Text × Value)} (h : (row.map (·.1)).Nodup) :
    ((row.map fun (name, v) => (Value.text name, v)).map (·.1)).Nodup := by
  have hkeys : (row.map fun (name, v) => (Value.text name, v)).map (·.1) =
      (row.map (·.1)).map Value.text := by simp
  rw [hkeys]
  exact List.Nodup.map (fun a b hab => Value.text.inj hab) h

end Value

namespace Field

variable {name path : Text} {nullable : Bool} {v : Value} {xs : List Value}
  {es : List (Value × Value)}

/-- The conversion of an item under its number. -/
def itemStep (element : Field) (path : Text) (item : Value × Nat) : Converted :=
  element.convert (itemPath path item.2) item.1

/-- The conversion of what a mapping holds for a member, under its name. -/
def memberStep (path : Text) (es : List (Value × Value)) (m : Field) :
    Except Refusal (Text × Value) :=
  (m.convertAt (memberPath path m.name) es).map (m.name, ·)

theorem convertItems_eq (element : Field) (path : Text) : ∀ (i : Nat) (xs : List Value),
    convertItems (fun p x => element.convert p x) path i xs =
      (xs.zipIdx i).mapM (element.itemStep path)
  | _, [] => rfl
  | i, x :: rest => by
    rw [convertItems, List.zipIdx_cons, List.mapM_cons, convertItems_eq element path (i + 1) rest]
    rfl

theorem convertMembers_eq (path : Text) (es : List (Value × Value)) : ∀ members : List Field,
    convert.convertMembers members path es = members.mapM (memberStep path es)
  | [] => rfl
  | m :: rest => by
    rw [convertMembers_cons, List.mapM_cons, convertMembers_eq path es rest]
    unfold memberStep
    cases m.convertAt (memberPath path m.name) es <;> rfl

/-! ## 4. The ways of a conversion -/

theorem convert_null (f : Field) (path : Text) :
    f.convert path .null = convert.convertNull f.nullable path := by
  cases f <;> simp [convert, Value.isNull, Field.nullable]

theorem convert_scalar {type : Scalar} {element? : Option Field} {members? : Option (List Field)}
    (hv : v.isNull = false) :
    (Field.scalar name nullable type element? members?).convert path v =
      Record.scalar type path v := by
  simp [convert, hv]

/-- Apart from times, a scalar is converted as its type says. -/
theorem scalar_eq {type : Scalar} (h : type = .timestamp → ∀ t, v ≠ .dateTime t) :
    Record.scalar type path v = match scalar? type v with
      | some (.ok w) => .ok w
      | some (.error obstacle) =>
        .error (.rejected (.mismatch path type.name v.kindName (some obstacle)))
      | none => .error (.rejected (.mismatch path type.name v.kindName none)) := by
  unfold Record.scalar
  split
  · next t => exact absurd rfl (h rfl t)
  · rfl

theorem isNull_of_items? (hv : items? v = some xs) : v.isNull = false := by
  cases v <;> first | rfl | cases hv

theorem isNull_of_entries? (hv : v.entries? = some es) : v.isNull = false := by
  cases v <;> first | rfl | cases hv

theorem convert_array {element : Field} {members? : Option (List Field)}
    (hv : items? v = some xs) :
    (Field.array name nullable element members?).convert path v =
      (xs.zipIdx.mapM (element.itemStep path)).map .list := by
  rw [← convertItems_eq]
  simp [convert, isNull_of_items? hv, hv]

theorem convert_noItems {element : Field} {members? : Option (List Field)}
    (hnull : v.isNull = false) (hv : items? v = none) :
    (Field.array name nullable element members?).convert path v =
      .error (.rejected (.mismatch path (Field.array name nullable element members?).typeName
        v.kindName none)) := by
  simp [convert, hnull, hv]

theorem convert_record {members : List Field} {element? : Option Field}
    (hv : v.entries? = some es) :
    (Field.record name nullable members element?).convert path v =
      (members.mapM (memberStep path es)).map Value.ofPairs := by
  rw [← convertMembers_eq]
  simp [convert, isNull_of_entries? hv, hv]

theorem convert_noEntries {members : List Field} {element? : Option Field}
    (hnull : v.isNull = false) (hv : v.entries? = none) :
    (Field.record name nullable members element?).convert path v =
      .error (.rejected (.mismatch path (Field.record name nullable members element?).typeName
        v.kindName none)) := by
  simp [convert, hnull, hv]

/-! ## 5. The ways to succeed -/

theorem memberStep_eq_ok {m : Field} {e : Text × Value} :
    memberStep path es m = .ok e ↔
      e.1 = m.name ∧ m.convertAt (memberPath path m.name) es = .ok e.2 := by
  unfold memberStep
  cases m.convertAt (memberPath path m.name) es with
  | error r => simp [Except.map]
  | ok w =>
    obtain ⟨name, w'⟩ := e
    simp [Except.map, eq_comm]

/-- **The ways in which a conversion succeeds**: null stays null, a scalar is converted as a whole,
lists and mappings part by part. -/
inductive Converts : Field → Text → Value → Value → Prop where
  | null {f : Field} {path : Text} (hnullable : f.nullable = true) : Converts f path .null .null
  | scalar {name path : Text} {nullable : Bool} {type : Scalar} {element? : Option Field}
      {members? : Option (List Field)} {v w : Value} (hv : v.isNull = false)
      (hw : Record.scalar type path v = .ok w) :
      Converts (.scalar name nullable type element? members?) path v w
  | items {name path : Text} {nullable : Bool} {element : Field} {members? : Option (List Field)}
      {v : Value} {xs ys : List Value} (hv : items? v = some xs)
      (hys : List.Forall₂ (fun item y => element.itemStep path item = .ok y) xs.zipIdx ys) :
      Converts (.array name nullable element members?) path v (.list ys)
  | members {name path : Text} {nullable : Bool} {members : List Field} {element? : Option Field}
      {v : Value} {es : List (Value × Value)} {row : List (Text × Value)}
      (hv : v.entries? = some es)
      (hrow : List.Forall₂ (fun m e => e.1 = m.name ∧
        m.convertAt (memberPath path m.name) es = .ok e.2) members row) :
      Converts (.record name nullable members element?) path v (.ofPairs row)

theorem convertNull_eq_ok {w : Value} :
    convert.convertNull nullable path = .ok w ↔ nullable = true ∧ w = .null := by
  unfold convert.convertNull
  cases nullable <;> simp [eq_comm]

theorem convertAbsent_eq_ok {f : Field} {w : Value} :
    f.convertAbsent path = .ok w ↔ f.nullable = true ∧ w = .null := by
  unfold convertAbsent
  cases f.nullable <;> simp [eq_comm]

/-- What a mapping holds for a field is converted; if it holds nothing, that is null. -/
theorem convertAt_eq_ok {f : Field} {w : Value} : f.convertAt path es = .ok w ↔
    (∃ v, Value.lookup f.name es = some v ∧ f.convert path v = .ok w) ∨
      Value.lookup f.name es = none ∧ f.nullable = true ∧ w = .null := by
  unfold convertAt
  cases Value.lookup f.name es with
  | none => simp [convertAbsent_eq_ok]
  | some v => simp

/-- **A conversion succeeds in one of these ways and in no other.** -/
theorem converts_iff {f : Field} {w : Value} : f.convert path v = .ok w ↔ f.Converts path v w := by
  constructor
  · intro h
    cases hnull : v.isNull with
    | true =>
      cases v <;> cases hnull
      rw [convert_null, convertNull_eq_ok] at h
      obtain ⟨hnullable, rfl⟩ := h
      exact .null hnullable
    | false =>
      cases f with
      | scalar name nullable type element? members? =>
        rw [convert_scalar hnull] at h
        exact .scalar hnull h
      | array name nullable element members? =>
        cases hv : items? v with
        | none =>
          rw [convert_noItems hnull hv] at h
          cases h
        | some xs =>
          rw [convert_array hv] at h
          obtain ⟨ys, hys, rfl⟩ := map_ok h
          exact .items hv (mapM_eq_ok.mp hys)
      | record name nullable members element? =>
        cases hv : v.entries? with
        | none =>
          rw [convert_noEntries hnull hv] at h
          cases h
        | some es =>
          rw [convert_record hv] at h
          obtain ⟨row, hrow, rfl⟩ := map_ok h
          simp only [mapM_eq_ok, memberStep_eq_ok] at hrow
          exact .members hv hrow
  · intro h
    cases h with
    | null hnullable =>
      rw [convert_null, convertNull_eq_ok]
      exact ⟨hnullable, rfl⟩
    | scalar hnull hw =>
      rw [convert_scalar hnull]
      exact hw
    | items hv hys =>
      rw [convert_array hv, mapM_eq_ok.mpr hys]
      rfl
    | @members name _ nullable members element? _ es row hv hrow =>
      have hwalk : members.mapM (memberStep path es) = .ok row := by
        rw [mapM_eq_ok]
        simp only [memberStep_eq_ok]
        exact hrow
      rw [convert_record hv, hwalk]
      rfl

end Field

end Sluice
