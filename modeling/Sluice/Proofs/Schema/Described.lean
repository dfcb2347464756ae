import Mathlib.Data.List.Forall2
import Sluice.Proofs.Schema.Draft

/-!
# What a description says

The description of a field is a mapping, and what it says is a draft. It says the type by a word or
by the text of a type, the element by a description of its own or as part of that text, and the
members by descriptions in a row. Whether what it says makes a field is not asked here.

* `SaysType`, `Spells`: what is said of the type, and **what the text of a type says**;
* `Describes`: **descriptions and what they say**, down to the last element and member;
* `saysType_text`, `describesElement_given` and so on: what is said where an entry is absent, and
  where it is given.
-/

namespace Sluice

/-! ## 1. What is said -/

/-- Nothing is given: there is no such entry, or it holds null. -/
def IsAbsent (v? : Option Value) : Prop := v? = none ∨ v? = some .null

/-- **What a description says of the type**, and the text of an element's type that is part of it.
Only where a type may be written freely can it be so in other ways than by its own word. -/
inductive SaysType (free : Bool) (es : List (Value × Value)) : TypeName → Option Text → Prop where
  | name {t : Text} {type : TypeName} (hfree : free = true)
      (ht : Value.lookup "type" es = some (.text t)) (h : Field.typeText? t = some (.named type)) :
      SaysType free es type none
  | array {t inner : Text} (hfree : free = true) (ht : Value.lookup "type" es = some (.text t))
      (h : Field.typeText? t = some (.arrayOf inner)) : SaysType free es .array (some inner)
  | word {v : Value} {type : TypeName} (hv : Value.lookup "type" es = some v)
      (hword : free = true → ∀ t, v ≠ .text t) (h : Check.choice Field.typeWords v = .ok type) :
      SaysType free es type none

/-- **What the text of a type says of a field.** -/
inductive Spells : Text → Draft → Prop where
  | name {t : Text} {type : TypeName} (name : Text) (nullable : Bool)
      (hbody : TypeName.arrayBody? t = none) (h : TypeName.ofText? t = some type) :
      Spells t ⟨name, nullable, type, none, none⟩
  | array {t inner : Text} {element : Draft} (name : Text) (nullable : Bool)
      (hbody : TypeName.arrayBody? t = some inner) (hname : element.name = "element")
      (hnullable : element.nullable = true) (h : Spells inner element) :
      Spells t ⟨name, nullable, .array, some element, none⟩

mutual

/-- **A description and what it says of a field**, apart from any rule about parts. -/
inductive Describes : Value → Draft → Prop where
  | mapping {es : List (Value × Value)} {d : Draft} (h : DescribesEntries true es d) :
      Describes (.mapping es) d
  | frozen {es : List (Value × Value)} {d : Draft} (h : DescribesEntries false es d) :
      Describes (.frozen es) d

/-- The entries of a description and what they say. -/
inductive DescribesEntries : Bool → List (Value × Value) → Draft → Prop where
  | entries {free : Bool} {es : List (Value × Value)} {d : Draft} {inner? : Option Text}
      (hname : Check.required "name" Check.text es = .ok d.name)
      (hnullable : Check.optional "nullable" true Check.switch es = .ok d.nullable)
      (htype : SaysType free es d.type inner?)
      (helement : DescribesElement (Value.lookup "element" es) inner? d.element?)
      (hmembers : DescribesMembers (Value.lookup "fields" es) d.members?) :
      DescribesEntries free es d

/-- What is given as the element, or else is part of the text of the type, and what it says. -/
inductive DescribesElement : Option Value → Option Text → Option Draft → Prop where
  | absent {v? : Option Value} (hv : IsAbsent v?) : DescribesElement v? none none
  | spelt {v? : Option Value} {inner : Text} {e : Draft} (hv : IsAbsent v?)
      (hname : e.name = "element") (hnullable : e.nullable = true) (h : Spells inner e) :
      DescribesElement v? (some inner) (some e)
  | given {v : Value} {inner? : Option Text} {e : Draft} (hv : v ≠ .null) (h : Describes v e) :
      DescribesElement (some v) inner? (some e)

/-- What is given as the members, and what it says. -/
inductive DescribesMembers : Option Value → Option (List Draft) → Prop where
  | absent {v? : Option Value} (hv : IsAbsent v?) : DescribesMembers v? none
  | given {v : Value} {xs : List Value} {ms : List Draft} (hv : Check.items? v = some xs)
      (h : List.Forall₂ Describes xs ms) : DescribesMembers (some v) (some ms)

end

/-! ## 2. What is said where -/

section Ways

variable {free : Bool} {es : List (Value × Value)} {v : Value} {v? : Option Value} {t inner : Text}
  {type : TypeName} {inner? : Option Text} {e? : Option Draft} {ds? : Option (List Draft)}

theorem saysType_text (ht : Value.lookup "type" es = some (.text t)) :
    SaysType true es type inner? ↔
      Field.typeText? t = some (.named type) ∧ inner? = none ∨
        ∃ inner, Field.typeText? t = some (.arrayOf inner) ∧ type = .array ∧
          inner? = some inner := by
  constructor
  · intro h
    cases h with
    | name _ ht' h =>
      cases ht.symm.trans ht'
      exact .inl ⟨h, rfl⟩
    | array _ ht' h =>
      cases ht.symm.trans ht'
      exact .inr ⟨_, h, rfl, rfl⟩
    | word hv hword =>
      cases ht.symm.trans hv
      exact absurd rfl (hword rfl t)
  · rintro (⟨h, rfl⟩ | ⟨inner, h, rfl, rfl⟩)
    · exact .name rfl ht h
    · exact .array rfl ht h

theorem saysType_word (hv : Value.lookup "type" es = some v)
    (hword : free = true → ∀ t, v ≠ .text t) :
    SaysType free es type inner? ↔ Check.choice Field.typeWords v = .ok type ∧ inner? = none := by
  constructor
  · intro h
    cases h with
    | name hfree ht =>
      cases hv.symm.trans ht
      exact absurd rfl (hword hfree _)
    | array hfree ht =>
      cases hv.symm.trans ht
      exact absurd rfl (hword hfree _)
    | word hv' _ h =>
      cases hv.symm.trans hv'
      exact ⟨h, rfl⟩
  · rintro ⟨h, rfl⟩
    exact .word hv hword h

theorem not_saysType (hv : Value.lookup "type" es = none) : ¬ SaysType free es type inner? := by
  intro h
  cases h with
  | name _ ht => cases hv.symm.trans ht
  | array _ ht => cases hv.symm.trans ht
  | word hv' => cases hv.symm.trans hv'

theorem IsAbsent.ne (h : IsAbsent v?) (hv : v ≠ .null) : v? ≠ some v := by
  rcases h with rfl | rfl
  · exact nofun
  · rintro ⟨⟩
    exact hv rfl

theorem describesElement_absent (hv : IsAbsent v?) : DescribesElement v? none e? ↔ e? = none := by
  constructor
  · intro h
    cases h with
    | absent => rfl
    | given hne => exact absurd rfl (hv.ne hne)
  · rintro rfl
    exact .absent hv

theorem describesElement_spelt (hv : IsAbsent v?) : DescribesElement v? (some inner) e? ↔
    ∃ e, e? = some e ∧ Spells inner e ∧ e.name = "element" ∧ e.nullable = true := by
  constructor
  · intro h
    cases h with
    | spelt _ hname hnullable h => exact ⟨_, rfl, h, hname, hnullable⟩
    | given hne => exact absurd rfl (hv.ne hne)
  · rintro ⟨e, rfl, h, hname, hnullable⟩
    exact .spelt hv hname hnullable h

theorem describesElement_given (hv : v ≠ .null) :
    DescribesElement (some v) inner? e? ↔ ∃ e, e? = some e ∧ Describes v e := by
  constructor
  · intro h
    cases h with
    | absent habsent => exact absurd rfl (habsent.ne hv)
    | spelt habsent => exact absurd rfl (habsent.ne hv)
    | given _ h => exact ⟨_, rfl, h⟩
  · rintro ⟨e, rfl, h⟩
    exact .given hv h

theorem describesMembers_absent (hv : IsAbsent v?) : DescribesMembers v? ds? ↔ ds? = none := by
  constructor
  · intro h
    cases h with
    | absent => rfl
    | @given v _ _ hitems =>
      have hne : v ≠ .null := by
        rintro rfl
        cases hitems
      exact absurd rfl (hv.ne hne)
  · rintro rfl
    exact .absent hv

theorem describesMembers_given (hv : v ≠ .null) : DescribesMembers (some v) ds? ↔
    ∃ ds, ds? = some ds ∧ ∃ xs, Check.items? v = some xs ∧ List.Forall₂ Describes xs ds := by
  constructor
  · intro h
    cases h with
    | absent habsent => exact absurd rfl (habsent.ne hv)
    | given hitems h => exact ⟨_, rfl, _, hitems, h⟩
  · rintro ⟨ds, rfl, xs, hitems, h⟩
    exact .given hitems h

end Ways

end Sluice
