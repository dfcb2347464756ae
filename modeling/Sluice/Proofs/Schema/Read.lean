import Sluice.Proofs.Schema.Described

/-!
# Schemas that have been read

Reading refuses every description of a column that no value could be converted to: a list without
an element, a record without members or with two members of one name. Since the parts of a
description are read in the same way, they are complete at every depth; and a description is refused
for no other reason than that it says nothing, or that something it says is not complete.

* `Field.ofTypeText_spells`: the text of a type is read as what it spells;
* `Field.read_iff`, `Schema.readColumns_iff`: **what is read is what is described, if that is
  complete**;
* `Schema.readColumns_isWellFormed`, `Schema.read_isWellFormed`: what has been read is well-formed.
-/

namespace Sluice

/-! ## 1. Parts -/

namespace Checked

variable {α β : Type} {g : α → β} {b? : Option β} {c : Checked α} {step : Step}

/-- Where nothing has been given, nothing has been read. -/
theorem none_iff : (∃ a?, (.ok none : Checked (Option α)) = .ok a? ∧ a?.map g = b?) ↔
    b? = none := by
  constructor
  · rintro ⟨_, ⟨⟩, rfl⟩
    rfl
  · rintro rfl
    exact ⟨none, rfl, rfl⟩

/-- Where something has been given, it has been read. -/
theorem under_some_iff : (∃ a?, under step (c.map some) = .ok a? ∧ a?.map g = b?) ↔
    ∃ b, b? = some b ∧ ∃ a, c = .ok a ∧ g a = b := by
  constructor
  · rintro ⟨a?, ha, rfl⟩
    obtain ⟨a, hc, rfl⟩ := map_ok (under_ok.mp ha)
    exact ⟨g a, rfl, a, hc, rfl⟩
  · rintro ⟨_, rfl, a, rfl, rfl⟩
    exact ⟨some a, rfl, rfl⟩

end Checked

/-- What is said of something that is there is said of it wherever it is. -/
theorem exists_some_and_iff {α : Type} {a? : Option α} {P Q : α → Prop} :
    (∃ a, a? = some a ∧ P a ∧ Q a) ↔ (∃ a, a? = some a ∧ P a) ∧ ∀ a, a? = some a → Q a := by
  constructor
  · rintro ⟨a, rfl, hP, hQ⟩
    exact ⟨⟨a, rfl, hP⟩, fun _ h => Option.some.inj h ▸ hQ⟩
  · rintro ⟨⟨a, rfl, hP⟩, hQ⟩
    exact ⟨a, rfl, hP, hQ a rfl⟩

/-! ## 2. Fields -/

namespace Field

variable {d : Draft} {free : Bool} {es : List (Value × Value)}

theorem ofTypeText_spells {name : Text} {nullable : Bool} {t : Text} :
    (∃ f, ofTypeText name nullable t = .ok f ∧ f.draft = d) ↔
      Spells t d ∧ d.name = name ∧ d.nullable = nullable ∧ d.IsComplete := by
  induction name, nullable, t using ofTypeText.induct generalizing d with
  | case1 name nullable t inner hbody hlt ih =>
    rw [ofTypeText]
    split
    · next inner' hbody' =>
      cases hbody.symm.trans hbody'
      constructor
      · rintro ⟨f, hf, hd⟩
        obtain ⟨element, helement, hassemble⟩ := bind_ok hf
        obtain ⟨hspells, hname, hnullable, hcomplete⟩ :=
          ih.mp ⟨element, Checked.under_ok.mp helement, rfl⟩
        obtain ⟨rfl, hparts⟩ := assemble_iff.mp ⟨f, hassemble, hd⟩
        refine ⟨.array name nullable hbody hname hnullable hspells, rfl, rfl,
          Draft.isComplete_iff.mpr ⟨hparts, ?_, nofun⟩⟩
        rintro _ ⟨⟩
        exact hcomplete
      · rintro ⟨hspells, rfl, rfl, hcomplete⟩
        cases hspells with
        | name _ _ hnone => cases hbody.symm.trans hnone
        | array name nullable hbody' hname hnullable hspells =>
          cases hbody.symm.trans hbody'
          obtain ⟨hparts, helement, -⟩ := Draft.isComplete_iff.mp hcomplete
          obtain ⟨element, hread, rfl⟩ := ih.mpr ⟨hspells, hname, hnullable, helement _ rfl⟩
          rw [hread]
          have hassemble : ∃ f, assemble name nullable .array (some element) none = .ok f ∧
              f.draft = ⟨name, nullable, .array, some element.draft, none⟩ :=
            assemble_iff.mpr ⟨rfl, hparts⟩
          exact hassemble
    · next hnone => cases hbody.symm.trans hnone
  | case2 name nullable t hbody type htype =>
    rw [ofTypeText]
    split
    · next inner hsome => cases hbody.symm.trans hsome
    · rw [htype]
      dsimp only
      rw [assemble_iff]
      constructor
      · rintro ⟨rfl, hparts⟩
        exact ⟨.name name nullable hbody htype, rfl, rfl,
          Draft.isComplete_iff.mpr ⟨hparts, nofun, nofun⟩⟩
      · rintro ⟨hspells, rfl, rfl, hcomplete⟩
        cases hspells with
        | name _ _ _ htype' =>
          cases htype.symm.trans htype'
          exact ⟨rfl, (Draft.isComplete_iff.mp hcomplete).1⟩
        | array _ _ hsome => cases hbody.symm.trans hsome
  | case3 name nullable t hbody htype =>
    rw [ofTypeText]
    split
    · next inner hsome => cases hbody.symm.trans hsome
    · rw [htype]
      refine iff_of_false (by rintro ⟨f, ⟨⟩, -⟩) ?_
      rintro ⟨hspells, -⟩
      cases hspells with
      | name _ _ _ htype' => cases htype.symm.trans htype'
      | array _ _ hsome => cases hbody.symm.trans hsome

/-- What has been read as members, and what the description says of them. -/
def ReadsMembers (es : List (Value × Value)) (members : Checked (Option (List Field))) : Prop :=
  ∀ ds?, (∃ fs?, members = .ok fs? ∧ fs?.map (·.map draft) = ds?) ↔
    DescribesMembers (Value.lookup "fields" es) ds? ∧ ∀ ds, ds? = some ds → ∀ m ∈ ds, m.IsComplete

/-- What has been read as the element, and what the description says of it. -/
def ReadsElement (es : List (Value × Value)) (inner? : Option Text)
    (element : Checked (Option Field)) : Prop :=
  ∀ e?, (∃ f?, element = .ok f? ∧ f?.map draft = e?) ↔
    DescribesElement (Value.lookup "element" es) inner? e? ∧ ∀ e, e? = some e → e.IsComplete

theorem readsElement_absent (hv : IsAbsent (Value.lookup "element" es)) :
    ReadsElement es none (.ok none) := by
  intro e?
  rw [Checked.none_iff, describesElement_absent hv]
  exact ⟨fun h => ⟨h, by rw [h]; exact nofun⟩, fun h => h.1⟩

theorem readsElement_implied {inner : Text} (hv : IsAbsent (Value.lookup "element" es)) :
    ReadsElement es (some inner) (implied inner) := by
  intro e?
  unfold implied
  rw [Checked.under_some_iff, describesElement_spelt hv, ← exists_some_and_iff]
  simp only [ofTypeText_spells, and_assoc]

/-- What is given as the element counts, whatever the text of the type says. -/
theorem ReadsElement.given {inner? : Option Text} {element : Checked (Option Field)} {v : Value}
    (h : ReadsElement es none element) (hv : Value.lookup "element" es = some v)
    (hne : v ≠ .null) : ReadsElement es inner? element := by
  intro e?
  rw [h e?, hv, describesElement_given hne, describesElement_given hne]

theorem readsMembers_absent (hv : IsAbsent (Value.lookup "fields" es)) :
    ReadsMembers es (.ok none) := by
  intro ds?
  rw [Checked.none_iff, describesMembers_absent hv]
  exact ⟨fun h => ⟨h, by rw [h]; exact nofun⟩, fun h => h.1⟩

/-- A description is read where its parts are. -/
theorem combine_describes {type : Checked TypeName} (inner? : Option Text)
    {element : Checked (Option Field)} {members : Checked (Option (List Field))}
    (htype : ∀ t i?, SaysType free es t i? ↔ type = .ok t ∧ i? = inner?)
    (helement : ReadsElement es inner? element) (hmembers : ReadsMembers es members) :
    (∃ f, combine (Check.required "name" Check.text es) type
        (Check.optional "nullable" true Check.switch es) element members = .ok f ∧ f.draft = d) ↔
      DescribesEntries free es d ∧ d.IsComplete := by
  rw [combine_iff, helement, hmembers, Draft.isComplete_iff]
  constructor
  · rintro ⟨hname, htype', hnullable, ⟨he, hcomplete⟩, ⟨hms, hcomplete'⟩, hparts⟩
    exact ⟨.entries hname hnullable ((htype _ _).mpr ⟨htype', rfl⟩) he hms, hparts, hcomplete,
      hcomplete'⟩
  · rintro ⟨hentries, hparts, hcomplete, hcomplete'⟩
    cases hentries with
    | entries hname hnullable hsays he hms =>
      obtain ⟨htype', rfl⟩ := (htype _ _).mp hsays
      exact ⟨hname, htype', hnullable, ⟨he, hcomplete⟩, ⟨hms, hcomplete'⟩, hparts⟩

mutual

/-- **A description is read as a field if what it says is complete**, and then the field says what
the description says. -/
theorem read_iff {v : Value} {d : Draft} :
    (∃ f, read v = .ok f ∧ f.draft = d) ↔ Describes v d ∧ d.IsComplete := by
  unfold read
  split
  · next es =>
    rw [readEntries_iff]
    exact and_congr_left fun _ => ⟨.mapping, by rintro (h | h); exact h⟩
  · next es =>
    rw [readEntries_iff]
    exact and_congr_left fun _ => ⟨.frozen, by rintro (h | h); exact h⟩
  · next hmapping hfrozen =>
    refine iff_of_false (by rintro ⟨f, ⟨⟩, -⟩) ?_
    rintro ⟨h | h, -⟩
    · exact hmapping _ rfl
    · exact hfrozen _ rfl
termination_by sizeOf v

theorem readEntries_iff {free : Bool} {es : List (Value × Value)} {d : Draft} :
    (∃ f, readEntries free es = .ok f ∧ f.draft = d) ↔
      DescribesEntries free es d ∧ d.IsComplete := by
  unfold readEntries
  extract_lets name nullable members element
  have hgiven : ∀ v xs, Value.lookup "fields" es = some v → Check.items? v = some xs →
      sizeOf xs < sizeOf es →
        ReadsMembers es (Checked.under (.member "fields") ((readItems 0 xs).map some)) := by
    intro v xs hv hxs hlt ds?
    have hread := fun ds => @readItems_iff 0 xs ds
    have hne : v ≠ .null := by
      rintro rfl
      cases hxs
    rw [Checked.under_some_iff, hv, describesMembers_given hne, ← exists_some_and_iff]
    simp only [hread, hxs, Option.some.injEq, exists_eq_left']
  have hmembers : ReadsMembers es members := by
    unfold members
    split
    · next hv => exact readsMembers_absent (.inl hv)
    · next hv => exact readsMembers_absent (.inr hv)
    · next xs hv => exact hgiven _ xs hv rfl (Value.sizeOf_lookup_list_lt hv)
    · next xs hv => exact hgiven _ xs hv rfl (Value.sizeOf_lookup_tuple_lt hv)
    · next xs hv => exact hgiven _ xs hv rfl (Value.sizeOf_lookup_set_lt hv)
    · next v hnull hlist htuple hset hv =>
      intro ds?
      refine iff_of_false (by rintro ⟨_, ⟨⟩, -⟩) ?_
      rw [hv, describesMembers_given hnull]
      rintro ⟨⟨ds, -, xs, hxs, -⟩, -⟩
      unfold Check.items? at hxs
      split at hxs
      · exact hlist _ rfl
      · exact htuple _ rfl
      · exact hset _ rfl
      · cases hxs
  have helement : ReadsElement es none element := by
    unfold element
    split
    · next hv => exact readsElement_absent (.inl hv)
    · next hv => exact readsElement_absent (.inr hv)
    · next v hne hv =>
      intro e?
      have hlt := Value.sizeOf_lookup_lt hv
      have hread := fun d => read_iff (v := v) (d := d)
      rw [Checked.under_some_iff, hv, describesElement_given hne, ← exists_some_and_iff]
      simp only [hread]
  split
  · next t htype =>
    split
    · next hnone =>
      refine iff_of_false (by rintro ⟨_, ⟨⟩, -⟩) ?_
      rintro ⟨⟨-, -, hsays, -, -⟩, -⟩
      rcases (saysType_text htype).mp hsays with ⟨h, -⟩ | ⟨_, h, -⟩ <;> cases hnone.symm.trans h
    · next type hnamed =>
      refine combine_describes none (fun t i? => ?_) helement hmembers
      rw [saysType_text htype, hnamed]
      simp
    · next inner harray =>
      refine combine_describes (some inner) (fun t i? => ?_) ?_ hmembers
      · rw [saysType_text htype, harray]
        simp [eq_comm]
      · -- the text of the type describes the element, unless the mapping does
        split
        · next hv => exact readsElement_implied (.inl hv)
        · next hv => exact readsElement_implied (.inr hv)
        · next v hne hv => exact helement.given hv hne
  · next v _ hv hword =>
    refine combine_describes none (fun t i? => ?_) helement hmembers
    rw [saysType_word hv, Checked.under_ok]
    rintro rfl t rfl
    exact hword t rfl rfl
  · next hv =>
    refine combine_describes none (fun t i? => ?_) helement hmembers
    exact iff_of_false (not_saysType hv) (by rintro ⟨⟨⟩, -⟩)
termination_by sizeOf es

theorem readItems_iff {i : Nat} {vs : List Value} {ds : List Draft} :
    (∃ fs, readItems i vs = .ok fs ∧ fs.map draft = ds) ↔
      List.Forall₂ Describes vs ds ∧ ∀ d ∈ ds, d.IsComplete := by
  match vs with
  | [] =>
    rw [readItems]
    constructor
    · rintro ⟨_, ⟨⟩, rfl⟩
      exact ⟨.nil, nofun⟩
    · rintro ⟨⟨⟩, -⟩
      exact ⟨[], rfl, rfl⟩
  | v :: rest =>
    rw [readItems]
    constructor
    · rintro ⟨fs, hfs, rfl⟩
      obtain ⟨⟨first, others⟩, hboth, rfl⟩ := map_ok hfs
      obtain ⟨hfirst, hothers⟩ := Checked.both_ok.mp hboth
      obtain ⟨hd, hcomplete⟩ := read_iff.mp ⟨first, Checked.under_ok.mp hfirst, rfl⟩
      obtain ⟨hds, hcompletes⟩ := readItems_iff.mp ⟨others, hothers, rfl⟩
      exact ⟨.cons hd hds, List.forall_mem_cons.mpr ⟨hcomplete, hcompletes⟩⟩
    · rintro ⟨hdescribes, hcomplete⟩
      cases hdescribes with
      | cons hd hds =>
        obtain ⟨hfirst, hothers⟩ := List.forall_mem_cons.mp hcomplete
        obtain ⟨first, hread, rfl⟩ := read_iff.mpr ⟨hd, hfirst⟩
        obtain ⟨others, hreads, rfl⟩ := (readItems_iff (i := i + 1)).mpr ⟨hds, hothers⟩
        refine ⟨first :: others, ?_, rfl⟩
        rw [hread, hreads]
        rfl
termination_by sizeOf vs

end

/-! ## 3. Well-formed fields -/

theorem allWellFormed_iff {fields : List Field} :
    isWellFormed.allWellFormed fields = true ↔ ∀ f ∈ fields, f.isWellFormed = true := by
  induction fields with
  | nil => simp [isWellFormed.allWellFormed]
  | cons f rest ih => simp [isWellFormed.allWellFormed, ih]

theorem isWellFormed_record {name : Text} {nullable : Bool} {members : List Field}
    {element? : Option Field} : (record name nullable members element?).isWellFormed = true ↔
      members ≠ [] ∧ (members.map Field.name).Nodup ∧ ∀ m ∈ members, m.isWellFormed = true := by
  rw [isWellFormed, Bool.and_eq_true, Bool.and_eq_true, allWellFormed_iff, and_assoc]
  simp

/-- **A field that says nothing incomplete is well-formed.** -/
theorem isWellFormed_of_isComplete : ∀ {f : Field}, f.draft.IsComplete → f.isWellFormed = true
  | .scalar .., _ => rfl
  | .array name nullable element members?, h => by
    obtain ⟨-, helement, -⟩ := Draft.isComplete_iff.mp h
    rw [draft_array] at helement
    exact isWellFormed_of_isComplete (f := element) (helement _ rfl)
  | .record name nullable members element?, h => by
    obtain ⟨hparts, -, hmembers⟩ := Draft.isComplete_iff.mp h
    rw [draft_record] at hparts hmembers
    obtain ⟨_, ⟨⟩, hne, hnodup⟩ := hparts.members rfl
    rw [map_draft_name] at hnodup
    have hwell : ∀ m ∈ members, m.isWellFormed = true := fun m hm =>
      have := List.sizeOf_lt_of_mem hm
      isWellFormed_of_isComplete (hmembers _ rfl _ (List.mem_map_of_mem hm))
    exact isWellFormed_record.mpr ⟨by simpa using hne, hnodup, hwell⟩
termination_by f => sizeOf f

end Field

/-! ## 4. Schemas -/

namespace Schema

/-- What the columns of a schema say of themselves. -/
def drafts (s : Schema) : List Draft := s.fields.map Field.draft

theorem ofFields_eq_ok {fields : List Field} {s : Schema} :
    ofFields fields = .ok s ↔ s = ⟨fields⟩ ∧ fields ≠ [] ∧ (fields.map Field.name).Nodup := by
  unfold ofFields
  split
  · next hempty =>
    refine iff_of_false nofun ?_
    rintro ⟨-, hne, -⟩
    exact hne (List.isEmpty_iff.mp hempty)
  · next hne =>
    split
    · next name hrepeated =>
      refine iff_of_false nofun ?_
      rintro ⟨-, -, hnodup⟩
      cases hrepeated.symm.trans (firstRepeated?_eq_none.mpr hnodup)
    · next hrepeated =>
      have hnodup := firstRepeated?_eq_none.mp hrepeated
      rw [Except.ok.injEq, eq_comm]
      exact ⟨fun h => ⟨h, by simpa using hne, hnodup⟩, fun h => h.1⟩

/-- **Columns are read if what is said of them is complete**, they have different names and there is
at least one; and then the columns say what has been said of them. -/
theorem readColumns_iff {v : Value} {ds : List Draft} :
    (∃ s, readColumns v = .ok s ∧ s.drafts = ds) ↔
      (∃ xs, Check.items? v = some xs ∧ List.Forall₂ Describes xs ds) ∧ ds ≠ [] ∧
        (ds.map Draft.name).Nodup ∧ ∀ d ∈ ds, d.IsComplete := by
  unfold readColumns
  cases hitems : Check.items? v with
  | none =>
    refine iff_of_false (by rintro ⟨_, ⟨⟩, -⟩) ?_
    rintro ⟨⟨_, ⟨⟩, -⟩, -⟩
  | some xs =>
    constructor
    · rintro ⟨s, hs, rfl⟩
      obtain ⟨fields, hfields, hs⟩ := bind_ok hs
      obtain ⟨rfl, hne, hnodup⟩ := ofFields_eq_ok.mp hs
      obtain ⟨hdescribes, hcomplete⟩ :=
        Field.readItems_iff.mp ⟨fields, Checked.under_ok.mp hfields, rfl⟩
      rw [← Field.map_draft_name] at hnodup
      exact ⟨⟨xs, rfl, hdescribes⟩, by simpa [drafts] using hne, hnodup, hcomplete⟩
    · rintro ⟨⟨_, ⟨⟩, hdescribes⟩, hne, hnodup, hcomplete⟩
      obtain ⟨fields, hread, rfl⟩ := (Field.readItems_iff (i := 0)).mpr ⟨hdescribes, hcomplete⟩
      rw [Field.map_draft_name] at hnodup
      refine ⟨⟨fields⟩, ?_, rfl⟩
      dsimp only
      rw [hread]
      exact ofFields_eq_ok.mpr ⟨rfl, by simpa using hne, hnodup⟩

theorem isWellFormed_iff {s : Schema} : s.isWellFormed = true ↔
    s.fields ≠ [] ∧ s.names.Nodup ∧ ∀ f ∈ s.fields, f.isWellFormed = true := by
  rw [isWellFormed, Bool.and_eq_true, Bool.and_eq_true, Field.allWellFormed_iff, and_assoc]
  simp

theorem readColumns_isWellFormed {v : Value} {s : Schema} (h : readColumns v = .ok s) :
    s.isWellFormed = true := by
  obtain ⟨-, hne, hnodup, hcomplete⟩ := readColumns_iff.mp ⟨s, h, rfl⟩
  have hwell : ∀ f ∈ s.fields, f.isWellFormed = true := fun f hf =>
    Field.isWellFormed_of_isComplete (hcomplete _ (List.mem_map_of_mem hf))
  unfold drafts at hne hnodup
  rw [Field.map_draft_name] at hnodup
  exact isWellFormed_iff.mpr ⟨by simpa using hne, hnodup, hwell⟩

/-- **A schema that has been read is well-formed.** -/
theorem read_isWellFormed {v : Value} {s : Schema} (h : read v = .ok s) :
    s.isWellFormed = true := by
  obtain ⟨es, -, hmembers⟩ := bind_ok h
  unfold readMembers at hmembers
  split at hmembers
  · exact readColumns_isWellFormed hmembers
  · cases hmembers

end Schema

end Sluice
