import Sluice.Proofs.Record.Conforming
import Mathlib.Data.List.Find

/-!
# Members that are not declared

A conversion asks for the members of a mapping that its field declares, in the order of the field. So
what else there is in the mapping, and how it is ordered, has no influence: not on what the mapping
is converted to, not on whether it is refused, and not on the words of the refusal.

* `Field.Alike`: values that differ in undeclared members and in the order of members only, at every
  depth; a member that is null and one that is absent are not alike;
* `Field.alike_of_perm`: mappings with **the same declared members, in any order**, are alike;
* `Field.convert_alike`: **alike values are converted alike**;
* `Transformer.transform_alike`: records that are alike in the columns of a transformer come to the
  same operation or to the same refusal, and so does the stream (`Transformer.transformAll_alike`).
-/

namespace Sluice

open Record

/-! ## 1. Alike values -/

namespace Field

/-- **Values that are the same but for what a field does not declare**: the same scalars, lists of
alike items, and mappings in which each declared member is there in both, alike, or in neither. -/
def Alike (f : Field) (v w : Value) : Prop :=
  match f with
  | .scalar .. => v = w
  | .array _ _ element _ =>
    v = w ∨ ∃ xs ys, items? v = some xs ∧ items? w = some ys ∧
      List.Forall₂ (fun x y => element.Alike x y) xs ys
  | .record _ _ members _ =>
    v = w ∨ ∃ es es', v.entries? = some es ∧ w.entries? = some es' ∧ alikeMembers members es es'
where
  /-- Each member is there in both mappings, alike, or in neither. -/
  alikeMembers : List Field → List (Value × Value) → List (Value × Value) → Prop
    | [], _, _ => True
    | m :: rest, es, es' =>
      Option.Rel (fun x y => m.Alike x y) (Value.lookup m.name es) (Value.lookup m.name es') ∧
        alikeMembers rest es es'

/-- What two mappings hold for a field: alike values, or nothing. -/
def AlikeAt (f : Field) (es es' : List (Value × Value)) : Prop :=
  Option.Rel f.Alike (Value.lookup f.name es) (Value.lookup f.name es')

variable {f : Field} {v w : Value} {es es' : List (Value × Value)}

theorem alikeMembers_iff : ∀ {members : List Field},
    Alike.alikeMembers members es es' ↔ ∀ m ∈ members, m.AlikeAt es es'
  | [] => by simp [Alike.alikeMembers]
  | m :: rest => by
    rw [Alike.alikeMembers, alikeMembers_iff, List.forall_mem_cons]
    rfl

/-- Each value is like itself. -/
theorem Alike.refl (f : Field) (v : Value) : f.Alike v v := by
  cases f with
  | scalar name nullable type element? members? => exact rfl
  | array name nullable element members? => exact .inl rfl
  | record name nullable members element? => exact .inl rfl

/-- Mappings are alike in a field that they hold the same for. -/
theorem alikeAt_of_eq (h : Value.lookup f.name es = Value.lookup f.name es') :
    f.AlikeAt es es' := by
  unfold AlikeAt
  rw [h]
  cases Value.lookup f.name es' with
  | none => exact .none
  | some v => exact .some (Alike.refl f v)

/-- Of alike mappings, both hold something for the field or neither does. -/
theorem AlikeAt.elim (h : f.AlikeAt es es') :
    (Value.lookup f.name es = none ∧ Value.lookup f.name es' = none) ∨
      ∃ v w, Value.lookup f.name es = some v ∧ Value.lookup f.name es' = some w ∧ f.Alike v w := by
  unfold AlikeAt at h
  cases hv : Value.lookup f.name es <;> cases hw : Value.lookup f.name es' <;> rw [hv, hw] at h
  case none.none => exact .inl ⟨rfl, rfl⟩
  case none.some => cases h
  case some.none => cases h
  case some.some v w =>
    cases h with
    | some h => exact .inr ⟨v, w, rfl, rfl, h⟩

/-- Null is like null only. -/
theorem Alike.isNull_eq (h : f.Alike v w) : v.isNull = w.isNull := by
  cases f with
  | scalar name nullable type element? members? => exact congrArg _ h
  | array name nullable element members? =>
    rcases h with rfl | ⟨xs, ys, hv, hw, -⟩
    · rfl
    · rw [isNull_of_items? hv, isNull_of_items? hw]
  | record name nullable members element? =>
    rcases h with rfl | ⟨es, es', hv, hw, -⟩
    · rfl
    · rw [isNull_of_entries? hv, isNull_of_entries? hw]

end Field

/-! ## 2. The same members in any order -/

namespace Value

variable {es es' : List (Value × Value)} {p : Value → Bool} {name : Text}

/-- A key that is kept is looked up among those that are kept. -/
theorem lookup_filter (hp : p (.text name) = true) (es : List (Value × Value)) :
    lookup name (es.filter fun e => p e.1) = lookup name es := by
  induction es with
  | nil => rfl
  | cons e rest ih =>
    obtain ⟨key, v⟩ := e
    rw [List.filter_cons]
    by_cases hkey : key = .text name
    · subst hkey
      rw [if_pos hp, lookup_cons_self, lookup_cons_self]
    · rw [lookup_cons_of_ne hkey]
      split
      · rw [lookup_cons_of_ne hkey, ih]
      · exact ih

/-- Where no key occurs twice, the order does not matter. -/
theorem lookup_perm (h : es.Perm es') (hnodup : (es.map (·.1)).Nodup) :
    lookup name es = lookup name es' := by
  have hnodup' : (es'.map (·.1)).Nodup := (h.map (·.1)).nodup_iff.mp hnodup
  refine Option.ext fun v => ?_
  rw [lookup_eq_some hnodup, lookup_eq_some hnodup', h.mem_iff]

end Value

namespace Field

/-- Whether a key is the name of one of the fields. -/
def declares (fs : List Field) : Value → Bool
  | .text name => fs.any fun f => f.name == name
  | _ => false

/-- **Entries under the names of fields are what counts for these fields**, not their order and not
the entries between them. -/
theorem alikeAt_of_perm {fs : List Field} {es es' : List (Value × Value)}
    (hnodup : (es.map (·.1)).Nodup)
    (h : (es.filter fun e => declares fs e.1).Perm (es'.filter fun e => declares fs e.1)) :
    ∀ f ∈ fs, f.AlikeAt es es' := by
  intro f hf
  have hdeclared : declares fs (.text f.name) = true :=
    List.any_eq_true.mpr ⟨f, hf, beq_self_eq_true f.name⟩
  have hkept : ((es.filter fun e => declares fs e.1).map (·.1)).Nodup :=
    (List.filter_sublist.map _).nodup hnodup
  refine alikeAt_of_eq ?_
  rw [← Value.lookup_filter hdeclared es, ← Value.lookup_filter hdeclared es',
    Value.lookup_perm h hkept]

/-- **Mappings with the same declared members are alike**, in whatever order these come and whatever
comes between them. -/
theorem alike_of_perm {name : Text} {nullable : Bool} {members : List Field}
    {element? : Option Field} {es es' : List (Value × Value)} (hnodup : (es.map (·.1)).Nodup)
    (h : (es.filter fun e => declares members e.1).Perm
      (es'.filter fun e => declares members e.1)) :
    (Field.record name nullable members element?).Alike (.mapping es) (.mapping es') :=
  .inr ⟨es, es', rfl, rfl, alikeMembers_iff.mpr (alikeAt_of_perm hnodup h)⟩

/-! ## 3. Conversions -/

variable {f : Field} {v w : Value} {es es' : List (Value × Value)}

theorem convertAt_alike (h : f.AlikeAt es es')
    (hf : ∀ {v w}, f.Alike v w → ∀ path, f.convert path v = f.convert path w) (path : Text) :
    f.convertAt path es = f.convertAt path es' := by
  unfold convertAt
  rcases h.elim with ⟨hnone, hnone'⟩ | ⟨v, w, hv, hw, halike⟩
  · rw [hnone, hnone']
  · rw [hv, hw]
    exact hf halike path

/-- **Alike values are converted alike**, by induction on the field: they come to the same value, or
are refused with the same words. -/
theorem convert_alike {f : Field} : ∀ {v w : Value}, f.Alike v w →
    ∀ path, f.convert path v = f.convert path w := by
  induction f using Field.induct with
  | scalar name nullable type element? members? =>
    intro v w h path
    exact congrArg _ h
  | array name nullable element members? ih =>
    rintro v w (rfl | ⟨xs, ys, hv, hw, hitems⟩) path
    · rfl
    · rw [convert_array hv, convert_array hw]
      have hsteps : List.Forall₂ (fun a b => element.itemStep path a = element.itemStep path b)
          xs.zipIdx ys.zipIdx := by
        refine (forall₂_zipIdx_both hitems 0).imp ?_
        rintro ⟨x, i⟩ ⟨y, _⟩ ⟨hxy, rfl⟩
        exact ih hxy (itemPath path i)
      rw [mapM_congr hsteps]
  | record name nullable members element? ih =>
    rintro v w (rfl | ⟨es, es', hv, hw, hmembers⟩) path
    · rfl
    · rw [convert_record hv, convert_record hw]
      have hsteps : List.Forall₂ (fun m m' => memberStep path es m = memberStep path es' m')
          members members := by
        rw [List.forall₂_same]
        intro m hm
        unfold memberStep
        rw [convertAt_alike (alikeMembers_iff.mp hmembers m hm) (ih m hm)]
      rw [mapM_congr hsteps]

end Field

/-! ## 4. Records -/

namespace Transformer

/-- **Records that are alike in the columns of a transformer**, the key columns for a deletion. -/
def Alike (t : Transformer) (record record' : Value) : Prop :=
  record = record' ∨ ∃ es es', record.entries? = some es ∧ record'.entries? = some es' ∧
    ∀ f ∈ t.fields, f.AlikeAt es es'

section Columns

variable {es es' : List (Value × Value)}

theorem convertColumns_alike : ∀ {fs : List Field}, (∀ f ∈ fs, f.AlikeAt es es') →
    convertColumns (fun name => .ok (Value.lookup name es)) fs =
      convertColumns (fun name => .ok (Value.lookup name es')) fs
  | [], _ => rfl
  | f :: rest, h => by
    rw [List.forall_mem_cons] at h
    rw [convertColumns_cons, convertColumns_cons, convertColumns_alike h.2,
      Field.convertAt_alike h.1 Field.convert_alike]

/-- The same key columns hold nothing. -/
theorem missingKey?_alike {keys : List Text} {fs : List Field}
    (hkeyed : ∀ name ∈ keys, ∃ f ∈ fs, f.name = name) (h : ∀ f ∈ fs, f.AlikeAt es es') :
    missingKey? es keys = missingKey? es' keys := by
  refine List.find?_congr fun name hname => ?_
  obtain ⟨f, hf, rfl⟩ := hkeyed name hname
  rcases (h f hf).elim with ⟨hnone, hnone'⟩ | ⟨v, w, hv, hw, halike⟩
  · rw [hnone, hnone']
  · rw [hv, hw]
    exact halike.isNull_eq

end Columns

section Transform

variable {table : Text} {schema : Schema} {keys : List Text} {verb : Verb} {t : Transformer}
  {record record' : Value}

/-- **What is not declared has no influence on the outcome of a record**, and neither has the order
of what is: alike records become the same operation, or are refused with the same words. -/
theorem transform_alike (hmake : make table schema keys verb = .ok t)
    (h : t.Alike record record') : t.transform record = t.transform record' := by
  rcases h with rfl | ⟨es, es', hes, hes', hfields⟩
  · rfl
  · have hcarries := make_carries hmake
    obtain ⟨rfl, -⟩ := make_inv hmake
    unfold transform
    rw [hes, hes']
    dsimp only
    rw [missingKey?_alike hcarries.keyed hfields, convertColumns_alike hfields]

/-- A record with another order of columns, another spare column, and a list of mappings in which a
spare member comes and goes. -/
theorem transform_alike_spare :
    let schema : Schema := ⟨[.ofScalar "id" false .int64, .array "rows" true
      (.record "element" false [.ofScalar "n" false .int64, .ofScalar "s" true .string] none) none]⟩
    let t : Transformer := ⟨"t", schema, ["id"], .insert⟩
    let record : Value := .ofPairs [("id", .int 1), ("rows", .list [
      .ofPairs [("n", .int 7), ("spare", .bool true), ("s", .text "a")]]), ("x", .int 5)]
    let record' : Value := .ofPairs [("y", .null), ("rows", .list [
      .ofPairs [("s", .text "a"), ("n", .int 7)]]), ("id", .int 1)]
    make "t" schema ["id"] .insert = .ok t ∧ t.Alike record record' ∧
      t.transform record = t.transform record' := by
  intro schema t record record'
  have hmake : make "t" schema ["id"] .insert = .ok t := rfl
  have halike : t.Alike record record' := by
    refine .inr ⟨_, _, rfl, rfl, ?_⟩
    rintro f hf
    rcases List.mem_pair.mp hf with rfl | rfl
    · exact .some rfl
    · refine .some (.inr ⟨_, _, rfl, rfl, .cons ?_ .nil⟩)
      exact Field.alike_of_perm (Value.nodup_keys (by decide)) (.swap _ _ [])
  exact ⟨hmake, halike, transform_alike hmake halike⟩

/-- Nor has it on a stream of records. -/
theorem transformAll_alike (hmake : make table schema keys verb = .ok t)
    {records records' : List Value} (h : List.Forall₂ t.Alike records records') :
    ∀ i, t.transformAll i records = t.transformAll i records' := by
  induction h with
  | nil => exact fun _ => rfl
  | cons hrecord _ ih =>
    intro i
    rw [transformAll, transformAll, transform_alike hmake hrecord, ih]

end Transform

end Transformer

end Sluice
