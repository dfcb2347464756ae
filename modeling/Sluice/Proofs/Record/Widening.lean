import Sluice.Proofs.Record.Conforming
import Sluice.Proofs.Record.Native
import Sluice.Proofs.Record.Numeric

/-!
# Wider fields

A field may be widened: a type gives way to one that holds all of its numbers, null is let in where
it was not, and both may happen at any depth. Whatever was converted before is still converted then,
to a value that is the same but for the kinds of its numbers.

* `Scalar.Widens`, `Field.Widens`: **the order of types and of fields**, with `refl` and `trans`;
* `Value.Equal`: the same value, position by position, numbers being compared by their exact value;
* `Scalar.Widens.scalar`: one leaf, for each pair of types by what its numbers look like;
* `Field.convertFrom_widens`: **what a field accepts, a wider one accepts, with an equal result**;
* `Transformer.transform_widens`: so does a transformer with wider columns.
-/

namespace Sluice

open Record

/-! ## 1. Walks side by side -/

section Walks

variable {α β γ δ : Type} {R : α → β → Prop}

theorem forall₂_through {S : β → γ → Prop} {T : α → γ → Prop}
    (hstep : ∀ x y z, R x y → S y z → T x z) :
    ∀ {xs : List α} {ys : List β} {zs : List γ}, List.Forall₂ R xs ys → List.Forall₂ S ys zs →
      List.Forall₂ T xs zs
  | [], _, _, .nil, .nil => .nil
  | _ :: _, _ :: _, _ :: _, .cons hxy hrest, .cons hyz hrest' =>
    .cons (hstep _ _ _ hxy hyz) (forall₂_through hstep hrest hrest')

/-- Where each step of a walk has a counterpart in another one, so has the walk. -/
theorem forall₂_follow {S : α → γ → Prop} {T : γ → δ → Prop} {U : β → δ → Prop}
    (hstep : ∀ x y z, R x y → S x z → ∃ u, T z u ∧ U y u) :
    ∀ {xs : List α} {ys : List β} {zs : List γ}, List.Forall₂ R xs ys → List.Forall₂ S xs zs →
      ∃ us, List.Forall₂ T zs us ∧ List.Forall₂ U ys us
  | [], _, _, .nil, .nil => ⟨[], .nil, .nil⟩
  | _ :: _, _ :: _, _ :: _, .cons hxy hrest, .cons hxz hrest' => by
    obtain ⟨u, hzu, hyu⟩ := hstep _ _ _ hxy hxz
    obtain ⟨us, hzs, hys⟩ := forall₂_follow hstep hrest hrest'
    exact ⟨u :: us, .cons hzu hzs, .cons hyu hys⟩

end Walks

/-! ## 2. The order of fields -/

/-- **The types that hold all numbers of a type.** -/
inductive Scalar.Widens : Scalar → Scalar → Prop where
  | refl (type : Scalar) : Widens type type
  | int32_int64 : Widens .int32 .int64
  | int32_numeric : Widens .int32 .numeric
  | int64_numeric : Widens .int64 .numeric
  | int32_double : Widens .int32 .double
  | float_double : Widens .float .double

theorem Scalar.Widens.trans {a b c : Scalar} (h : a.Widens b) (h' : b.Widens c) : a.Widens c := by
  cases h with
  | refl => exact h'
  | int32_int64 =>
    cases h' with
    | refl => exact .int32_int64
    | int64_numeric => exact .int32_numeric
  | int32_numeric =>
    cases h' with
    | refl => exact .int32_numeric
  | int64_numeric =>
    cases h' with
    | refl => exact .int64_numeric
  | int32_double =>
    cases h' with
    | refl => exact .int32_double
  | float_double =>
    cases h' with
    | refl => exact .float_double

namespace Field

/-- **The fields that are at least as wide as a field**: null is admitted where it was, types hold
all numbers that they held, and members keep their names and their order. -/
def Widens (f g : Field) : Prop :=
  match f, g with
  | .scalar _ nullable type .., .scalar _ nullable' type' .. =>
    nullable ≤ nullable' ∧ type.Widens type'
  | .array _ nullable element _, .array _ nullable' element' _ =>
    nullable ≤ nullable' ∧ element.Widens element'
  | .record _ nullable members _, .record _ nullable' members' _ =>
    nullable ≤ nullable' ∧ widensMembers members members'
  | _, _ => False
where
  /-- Members under the same names, each at least as wide. -/
  widensMembers : List Field → List Field → Prop
    | [], [] => True
    | m :: rest, m' :: rest' => (m.name = m'.name ∧ m.Widens m') ∧ widensMembers rest rest'
    | _, _ => False

theorem widensMembers_iff : ∀ {members members' : List Field},
    Widens.widensMembers members members' ↔
      List.Forall₂ (fun m m' => m.name = m'.name ∧ m.Widens m') members members'
  | [], [] => by simp [Widens.widensMembers]
  | [], _ :: _ => by simp [Widens.widensMembers]
  | _ :: _, [] => by simp [Widens.widensMembers]
  | m :: rest, m' :: rest' => by
    rw [List.forall₂_cons, Widens.widensMembers, widensMembers_iff]

theorem Widens.nullable {f g : Field} (h : f.Widens g) (hf : f.nullable = true) :
    g.nullable = true := by
  cases f <;> cases g <;> first | exact h.1 hf | exact h.elim

/-- Every field is as wide as itself. -/
theorem Widens.refl (f : Field) : f.Widens f := by
  induction f using Field.induct with
  | scalar name nullable type element? members? => exact ⟨le_rfl, .refl type⟩
  | array name nullable element members? ih => exact ⟨le_rfl, ih⟩
  | record name nullable members element? ih =>
    refine ⟨le_rfl, widensMembers_iff.mpr ?_⟩
    rw [List.forall₂_same]
    exact fun m hm => ⟨rfl, ih m hm⟩

/-- Widening twice is widening once. -/
theorem Widens.trans {f : Field} : ∀ {g h : Field}, f.Widens g → g.Widens h → f.Widens h := by
  induction f using Field.induct with
  | scalar name nullable type element? members? =>
    intro g h hfg hgh
    cases g <;> cases h <;> first | exact hfg.elim | exact hgh.elim | skip
    exact ⟨hfg.1.trans hgh.1, hfg.2.trans hgh.2⟩
  | array name nullable element members? ih =>
    intro g h hfg hgh
    cases g <;> cases h <;> first | exact hfg.elim | exact hgh.elim | skip
    exact ⟨hfg.1.trans hgh.1, ih hfg.2 hgh.2⟩
  | record name nullable members element? ih =>
    intro g h hfg hgh
    cases g <;> cases h <;> first | exact hfg.elim | exact hgh.elim | skip
    have hfirst := forall₂_mem (widensMembers_iff.mp hfg.2)
    have hsecond := widensMembers_iff.mp hgh.2
    refine ⟨hfg.1.trans hgh.1, widensMembers_iff.mpr (forall₂_through ?_ hfirst hsecond)⟩
    rintro m m' m'' ⟨hm, -, hname, hwider⟩ ⟨hname', hwider'⟩
    exact ⟨hname.trans hname', ih m hm hwider hwider'⟩

end Field

/-! ## 3. Equal values -/

namespace Value

/-- The exact value of a number that a field can hold. -/
inductive IsNumber : Value → ℚ → Prop where
  | int (n : Int) : IsNumber (.int n) n
  | float {x : Binary64} (hx : x.isFinite = true) : IsNumber (.float x) x.value
  | decimal (negative : Bool) (coefficient : Nat) (exponent : Int) :
      IsNumber (.decimal (.finite negative coefficient exponent))
        ((if negative then -1 else 1) * coefficient * 10 ^ exponent)

/-- **Values that are equal position by position**: numbers by their exact value, whatever their
kinds, lists and mappings part by part, under the same keys, and everything else as it is. -/
inductive Equal : Value → Value → Prop where
  | same (v : Value) : Equal v v
  | number {v w : Value} {q : ℚ} (hv : v.IsNumber q) (hw : w.IsNumber q) : Equal v w
  | list {xs ys : List Value} (h : List.Forall₂ Equal xs ys) : Equal (.list xs) (.list ys)
  | mapping {es es' : List (Value × Value)} (hkeys : es.map (·.1) = es'.map (·.1))
      (h : List.Forall₂ Equal (es.map (·.2)) (es'.map (·.2))) : Equal (.mapping es) (.mapping es')

/-- A whole number without places has its own value. -/
theorem isNumber_ofInt (n : Int) : IsNumber (.decimal (.ofInt n)) n := by
  have h := IsNumber.decimal (decide (n < 0)) n.natAbs 0
  rw [zpow_zero, mul_one, Nat.cast_natAbs] at h
  by_cases hneg : n < 0
  · rw [if_pos (by simpa using hneg), abs_of_neg hneg, Int.cast_neg, neg_one_mul, neg_neg] at h
    exact h
  · rw [if_neg (by simpa using hneg), abs_of_nonneg (by omega), one_mul] at h
    exact h

/-- Rows with equal values under the same names are equal mappings. -/
theorem Equal.ofPairs {row row' : List (Text × Value)}
    (h : List.Forall₂ (fun e e' => e.1 = e'.1 ∧ e.2.Equal e'.2) row row') :
    Equal (.ofPairs row) (.ofPairs row') := by
  refine .mapping ?_ ?_
  · induction h with
    | nil => rfl
    | cons he _ ih => simp only [List.map_cons, he.1, ih]
  · rw [List.forall₂_map_left_iff, List.forall₂_map_right_iff, List.forall₂_map_left_iff,
      List.forall₂_map_right_iff]
    exact h.imp fun e e' he => he.2

end Value

/-! ## 4. Leaves -/

section Scalars

variable {v w : Value} {path path' : Text}

namespace Record

theorem scalar_eq_ok {type : Scalar} (h : type ≠ .timestamp) :
    Record.scalar type path v = .ok w ↔ scalar? type v = some (.ok w) := by
  rw [scalar_of_ne h]
  split
  · next hw => simp [hw]
  · next hw => simp [hw]
  · next hw => simp [hw]

/-- Where a value stands has no influence on what it is converted to. -/
theorem scalar_elsewhere {type : Scalar} (h : Record.scalar type path v = .ok w) :
    Record.scalar type path' v = .ok w := by
  by_cases htype : type = .timestamp
  · subst htype
    cases v <;> first | exact h | cases h
  · rw [scalar_eq_ok htype] at h ⊢
    exact h

/-- The types of whole numbers take them as they are. -/
theorem scalar_integer {type : Scalar} (htype : type = .int32 ∨ type = .int64)
    (h : Record.scalar type path v = .ok w) : ∃ n, v = .int n ∧ w = .int n := by
  have hne : type ≠ .timestamp := by rcases htype with rfl | rfl <;> decide
  rw [scalar_eq_ok hne] at h
  rcases htype with rfl | rfl
  all_goals
    cases v <;> simp only [scalar?, Option.some.injEq, reduceCtorEq] at h
    split at h <;> cases h
    exact ⟨_, rfl, rfl⟩

end Record

/-- **What a scalar type accepts, a wider one accepts, as an equal value.** A whole number passes
from one integer type to the next as it is; it becomes a decimal without places, and a double since
it has few enough bits. A number of single precision is one of double precision already. -/
theorem Scalar.Widens.scalar {type type' : Scalar} (h : type.Widens type')
    (hw : Record.scalar type path v = .ok w) :
    ∃ w', Record.scalar type' path' v = .ok w' ∧ w.Equal w' := by
  have hnative := scalar_native hw
  cases h with
  | refl => exact ⟨w, scalar_elsewhere hw, .same w⟩
  | int32_int64 =>
    obtain ⟨n, rfl, rfl⟩ := scalar_integer (.inl rfl) hw
    cases hnative with
    | int32 hlow hhigh =>
      exact ⟨.int n, (Scalar.Native.int64 (by omega) (by omega)).scalar, .same _⟩
  | int32_numeric =>
    obtain ⟨n, rfl, rfl⟩ := scalar_integer (.inl rfl) hw
    exact ⟨.decimal (.ofInt n), rfl, .number (.int n) (Value.isNumber_ofInt n)⟩
  | int64_numeric =>
    obtain ⟨n, rfl, rfl⟩ := scalar_integer (.inr rfl) hw
    exact ⟨.decimal (.ofInt n), rfl, .number (.int n) (Value.isNumber_ofInt n)⟩
  | int32_double =>
    obtain ⟨n, rfl, rfl⟩ := scalar_integer (.inl rfl) hw
    cases hnative with
    | int32 hlow hhigh =>
      have hbits : |n| < 2 ^ 53 := abs_lt.mpr ⟨by omega, by omega⟩
      obtain ⟨r, hr, haccepts, hvalue⟩ := exactDouble?_denotes (.int n)
      obtain ⟨x, rfl⟩ := haccepts.mpr (isDouble_of_le hbits.le)
      obtain ⟨hfinite, hx⟩ := hvalue x rfl
      refine ⟨.float x, scalar_double_eq_ok.mpr ⟨x, hr, rfl⟩, .number (.int n) ?_⟩
      rw [← hx]
      exact .float hfinite
  | float_double => exact ⟨w, scalar_elsewhere (scalar_float_eq_ok.mp hw).1, .same w⟩

end Scalars

/-! ## 5. Fields -/

namespace Field

/-- Where null was admitted, it still is. -/
theorem Widens.convert_null {f g : Field} {path : Text} (h : f.Widens g) (hf : f.nullable = true) :
    ∃ w', g.convert path .null = .ok w' ∧ Value.null.Equal w' :=
  ⟨.null, converts_iff.mpr (.null (h.nullable hf)), .same .null⟩

/-- Members that are widened are still found, or still absent. -/
theorem convertAt_widens {m m' : Field} {path path' : Text} {es : List (Value × Value)} {w : Value}
    (hname : m.name = m'.name) (hwider : m.Widens m')
    (hconvert : ∀ {v w}, m.convert path v = .ok w → ∃ w', m'.convert path' v = .ok w' ∧ w.Equal w')
    (h : m.convertAt path es = .ok w) : ∃ w', m'.convertAt path' es = .ok w' ∧ w.Equal w' := by
  rcases convertAt_eq_ok.mp h with ⟨v, hv, hw⟩ | ⟨hv, hnullable, rfl⟩
  · obtain ⟨w', hw', hequal⟩ := hconvert hw
    exact ⟨w', convertAt_eq_ok.mpr (.inl ⟨v, hname ▸ hv, hw'⟩), hequal⟩
  · exact ⟨.null, convertAt_eq_ok.mpr (.inr ⟨hname ▸ hv, hwider.nullable hnullable, rfl⟩), .same _⟩

/-- **What a field accepts, a wider one accepts, as an equal value**, by induction on the field. -/
theorem convert_widens {f : Field} : ∀ {g : Field} {path path' : Text} {v w : Value}, f.Widens g →
    f.convert path v = .ok w → ∃ w', g.convert path' v = .ok w' ∧ w.Equal w' := by
  induction f using Field.induct with
  | scalar name nullable type element? members? =>
    intro g path path' v w hwider h
    cases converts_iff.mp h with
    | null hnullable => exact hwider.convert_null hnullable
    | scalar hv hw =>
      cases g <;> first | exact hwider.elim | skip
      obtain ⟨w', hw', hequal⟩ := hwider.2.scalar hw
      exact ⟨w', converts_iff.mpr (.scalar hv hw'), hequal⟩
  | array name nullable element members? ih =>
    intro g path path' v w hwider h
    cases converts_iff.mp h with
    | null hnullable => exact hwider.convert_null hnullable
    | @items _ _ _ _ _ _ xs ys hv hys =>
      cases g <;> first | exact hwider.elim | skip
      next element' _ =>
      obtain ⟨ys', hys', hequal⟩ := forall₂_follow (S := (· = ·))
        (T := fun item y => element'.itemStep path' item = .ok y) (U := Value.Equal)
        (fun item y item' hy hsame => hsame ▸ ih hwider.2 hy) hys (List.forall₂_refl _)
      exact ⟨.list ys', converts_iff.mpr (.items hv hys'), .list hequal⟩
  | record name nullable members element? ih =>
    intro g path path' v w hwider h
    cases converts_iff.mp h with
    | null hnullable => exact hwider.convert_null hnullable
    | @members _ _ _ _ _ _ es row hv hrow =>
      cases g <;> first | exact hwider.elim | skip
      obtain ⟨row', hrow', hequal⟩ := forall₂_follow
        (T := fun (m : Field) (e : Text × Value) =>
          e.1 = m.name ∧ m.convertAt (memberPath path' m.name) es = .ok e.2)
        (U := fun (e e' : Text × Value) => e.1 = e'.1 ∧ e.2.Equal e'.2)
        (by
          rintro m e m' ⟨hm, -, hname, he⟩ ⟨hsame, hwider'⟩
          obtain ⟨w', hw', hequal⟩ : ∃ w', m'.convertAt (memberPath path' m'.name) es = .ok w' ∧
              e.2.Equal w' := convertAt_widens hsame hwider' (ih m hm hwider') he
          exact ⟨(m'.name, w'), ⟨rfl, hw'⟩, hname.trans hsame, hequal⟩)
        (forall₂_mem hrow) (widensMembers_iff.mp hwider.2)
      exact ⟨.ofPairs row', converts_iff.mpr (.members hv hrow'), .ofPairs hequal⟩

/-- **Widening a field never refuses what was accepted.** Whatever a field accepts, every field that
is at least as wide accepts as well, wherever it stands; and the two results are equal position by
position, numbers by their exact value and everything else as it is. -/
theorem convertFrom_widens {f g : Field} (h : f.Widens g) {path? : Option Text} {v w : Value}
    (hw : f.convertFrom path? v = .ok w) (path?' : Option Text) :
    ∃ w', g.convertFrom path?' v = .ok w' ∧ w.Equal w' :=
  convert_widens h hw

/-- A record whose number becomes a double, whose list holds an infinity and a null, and in which a
member is absent. -/
theorem convertFrom_widens_nested :
    let f : Field := .record "r" false [.ofScalar "n" false .int32,
      .array "xs" false (.ofScalar "element" true .float) none, .ofScalar "d" true .int64] none
    let g : Field := .record "wide" true [.ofScalar "n" true .double,
      .array "xs" false (.ofScalar "item" true .double) none, .ofScalar "d" true .numeric] none
    let v : Value := .ofPairs
      [("xs", .tuple [.float (.infinity true), .null]), ("spare", .bool true), ("n", .int (-7))]
    let w : Value := .ofPairs
      [("n", .int (-7)), ("xs", .list [.float (.infinity true), .null]), ("d", .null)]
    f.Widens g ∧ f.convertFrom none v = .ok w ∧
      ∃ w', g.convertFrom none v = .ok w' ∧ w.Equal w' := by
  intro f g v w
  have hwider : f.Widens g :=
    ⟨by decide, ⟨rfl, by decide, .int32_double⟩, ⟨rfl, by decide, by decide, .float_double⟩,
      ⟨rfl, by decide, .int64_numeric⟩, trivial⟩
  have hw : f.convertFrom none v = .ok w := rfl
  exact ⟨hwider, hw, convertFrom_widens hwider hw none⟩

end Field

/-! ## 6. Schemas -/

/-- **A schema whose columns are at least as wide**, under the same names and in the same order. -/
def Schema.Widens (schema wider : Schema) : Prop :=
  List.Forall₂ (fun f g => f.name = g.name ∧ f.Widens g) schema.fields wider.fields

/-- A column is found in both of two schemas, or in neither. -/
theorem Schema.Widens.field? {schema wider : Schema} (h : schema.Widens wider) (name : Text) :
    Option.Rel (fun f g => f.name = g.name ∧ f.Widens g) (schema.field? name)
      (wider.field? name) := by
  unfold Schema.Widens at h
  unfold Schema.field?
  generalize schema.fields = fs at h ⊢
  generalize wider.fields = gs at h ⊢
  induction h with
  | nil => exact .none
  | @cons f g fs gs hfg _ ih =>
    rw [List.find?_cons, List.find?_cons, ← hfg.1]
    cases f.name == name with
    | true => exact .some hfg
    | false => exact ih

namespace Transformer

/-- Columns that are wider carry equal values. -/
theorem convertColumns_widens {es : List (Value × Value)} : ∀ {fs gs : List Field} {row : Row},
    List.Forall₂ (fun f g => f.name = g.name ∧ f.Widens g) fs gs →
      convertColumns (fun name => .ok (Value.lookup name es)) fs = .ok row →
        ∃ row', convertColumns (fun name => .ok (Value.lookup name es)) gs = .ok row' ∧
          List.Forall₂ (fun c c' => c.1 = c'.1 ∧ c.2.Equal c'.2) row row'
  | [], [], row, .nil, h => by
    cases h
    exact ⟨[], rfl, .nil⟩
  | f :: fs, g :: gs, row, .cons ⟨hname, hwider⟩ hrest, h => by
    rw [convertColumns_cons] at h
    obtain ⟨v, hv, h⟩ := bind_ok h
    obtain ⟨rest, hrow, h⟩ := bind_ok h
    cases h
    obtain ⟨v', hv', hequal⟩ : ∃ v', g.convertAt g.name es = .ok v' ∧ v.Equal v' :=
      Field.convertAt_widens hname hwider (Field.convert_widens hwider) hv
    obtain ⟨rest', hrow', hequals⟩ := convertColumns_widens hrest hrow
    refine ⟨(g.name, v') :: rest', ?_, .cons ⟨hname, hequal⟩ hequals⟩
    rw [convertColumns_cons, hv', hrow']
    rfl

/-- **Widening a schema never rejects a record that was accepted**: the record still becomes an
operation of the same kind on the same table and key columns, with equal values in all columns. -/
theorem transform_widens {table : Text} {schema wider : Schema} {keys : List Text} {verb : Verb}
    {record : Value} {o : Operation} (h : schema.Widens wider)
    (hrecord : record.entries?.isSome = true)
    (ho : transform ⟨table, schema, keys, verb⟩ record = .ok o) :
    ∃ o', transform ⟨table, wider, keys, verb⟩ record = .ok o' ∧
      o'.table = o.table ∧ o'.verb = o.verb ∧ o'.keyColumns = o.keyColumns ∧
      List.Forall₂ (fun c c' => c.1 = c'.1 ∧ c.2.Equal c'.2) o.columns o'.columns := by
  obtain ⟨es, hes⟩ := Option.isSome_iff_exists.mp hrecord
  obtain ⟨hkeys, row, hrow, rfl⟩ := (transform_eq_ok hes).mp ho
  have hfields : List.Forall₂ (fun f g => f.name = g.name ∧ f.Widens g)
      (fields ⟨table, schema, keys, verb⟩) (fields ⟨table, wider, keys, verb⟩) := by
    unfold fields
    cases verb with
    | delete =>
      refine List.rel_filterMap ?_ (List.forall₂_eq_eq_eq ▸ rfl)
      rintro name _ rfl
      exact h.field? name
    | _ => exact h
  obtain ⟨row', hrow', hequals⟩ := convertColumns_widens hfields hrow
  exact ⟨_, (transform_eq_ok hes).mpr ⟨hkeys, row', hrow', rfl⟩, rfl, rfl, rfl, hequals⟩

end Transformer

end Sluice
