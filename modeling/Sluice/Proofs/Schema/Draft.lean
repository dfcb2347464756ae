import Sluice.Proofs.Check.Success
import Sluice.Schema.Reader

/-!
# Drafts of fields

A description says of a field what it is called, whether it takes null and what type it has, and it
may give an element and members. That is a draft: whether the parts are there which the type needs
is another question. A field is put together from a draft if and only if they are.

* `Draft`: **what a description says of a field**; `Field.draft`: what a field says of itself;
* `Draft.HasParts`, `Draft.Reaches`, `Draft.IsComplete`: the parts that a type needs, and **drafts
  that have them at every depth**, also below an element or members that the type has no use for;
* `Field.assemble_iff`, `Field.combine_iff`: **a field is put together exactly when its draft has
  its parts**.
-/

namespace Sluice

/-! ## 1. Names -/

theorem firstRepeated?.go_eq_none {seen names : List Text} :
    go seen names = none ↔ names.Nodup ∧ ∀ name ∈ names, name ∉ seen := by
  induction names generalizing seen with
  | nil => simp [go]
  | cons name rest ih =>
    unfold go
    by_cases hseen : name ∈ seen
    · simp [hseen]
    · rw [if_neg (by simpa using hseen), ih, List.nodup_cons]
      constructor
      · rintro ⟨hrest, hfresh⟩
        refine ⟨⟨fun hmem => hfresh name hmem List.mem_cons_self, hrest⟩, fun other hother => ?_⟩
        rcases List.mem_cons.mp hother with rfl | hother
        · exact hseen
        · exact fun hmem => hfresh other hother (List.mem_cons_of_mem name hmem)
      · rintro ⟨⟨hname, hrest⟩, hfresh⟩
        refine ⟨hrest, fun other hother hmem => ?_⟩
        rcases List.mem_cons.mp hmem with rfl | hmem
        · exact hname hother
        · exact hfresh other (List.mem_cons_of_mem name hother) hmem

/-- No name occurs a second time if and only if the names are distinct. -/
theorem firstRepeated?_eq_none {names : List Text} : firstRepeated? names = none ↔ names.Nodup := by
  unfold firstRepeated?
  rw [firstRepeated?.go_eq_none]
  exact and_iff_left fun name _ => List.not_mem_nil

/-! ## 2. Drafts -/

/-- **What a description says of a field.** Nothing promises that the parts are there which the type
needs. -/
structure Draft where
  name : Text
  nullable : Bool
  type : TypeName
  element? : Option Draft
  members? : Option (List Draft)

/-- What a field says of itself. -/
def Field.draft : Field → Draft
  | .scalar name nullable type element? members? =>
    ⟨name, nullable, .scalar type, draft? element?, drafts? members?⟩
  | .array name nullable element members? =>
    ⟨name, nullable, .array, some element.draft, drafts? members?⟩
  | .record name nullable members element? =>
    ⟨name, nullable, .record, draft? element?, some (drafts members)⟩
where
  /-- What a field that may be missing says of itself. -/
  draft? : Option Field → Option Draft
    | none => none
    | some f => some f.draft
  /-- What fields say of themselves. -/
  drafts : List Field → List Draft
    | [] => []
    | f :: rest => f.draft :: drafts rest
  /-- What fields that may be missing say of themselves. -/
  drafts? : Option (List Field) → Option (List Draft)
    | none => none
    | some fs => some (drafts fs)

namespace Field

theorem draft?_eq (f? : Option Field) : draft.draft? f? = f?.map draft := by
  cases f? <;> rfl

theorem drafts_eq : ∀ fs : List Field, draft.drafts fs = fs.map draft
  | [] => rfl
  | f :: rest => by rw [draft.drafts, drafts_eq rest, List.map_cons]

theorem drafts?_eq (fs? : Option (List Field)) : draft.drafts? fs? = fs?.map (·.map draft) := by
  cases fs? with
  | none => rfl
  | some fs => exact congrArg some (drafts_eq fs)

@[simp] theorem draft_name (f : Field) : f.draft.name = f.name := by cases f <;> rfl

@[simp] theorem draft_nullable (f : Field) : f.draft.nullable = f.nullable := by cases f <;> rfl

theorem map_draft_name (fs : List Field) : (fs.map draft).map Draft.name = fs.map name := by
  simp [Function.comp_def]

end Field

namespace Draft

/-- **The parts that its type needs are there**: an element for an array, and for a record members,
at least one and no two of one name. -/
structure HasParts (d : Draft) : Prop where
  element : d.type = .array → ∃ e, d.element? = some e
  members : d.type = .record → ∃ ms, d.members? = some ms ∧ ms ≠ [] ∧ (ms.map name).Nodup

/-- **A draft reaches another one** by elements and members, whether they are needed or not. -/
inductive Reaches : Draft → Draft → Prop where
  | here (d : Draft) : Reaches d d
  | element {d e p : Draft} (he : d.element? = some e) (h : Reaches e p) : Reaches d p
  | member {d m p : Draft} {ms : List Draft} (hms : d.members? = some ms) (hm : m ∈ ms)
      (h : Reaches m p) : Reaches d p

theorem Reaches.trans {d p q : Draft} (h : d.Reaches p) (h' : p.Reaches q) : d.Reaches q := by
  induction h with
  | here => exact h'
  | element he _ ih => exact .element he (ih h')
  | member hms hm _ ih => exact .member hms hm (ih h')

/-- **All parts are there**, at every depth. -/
def IsComplete (d : Draft) : Prop := ∀ p, d.Reaches p → p.HasParts

/-- A draft is complete if it has its parts and whatever is given as element and members is
complete, needed or not. -/
theorem isComplete_iff {d : Draft} : d.IsComplete ↔ d.HasParts ∧
    (∀ e, d.element? = some e → e.IsComplete) ∧
    ∀ ms, d.members? = some ms → ∀ m ∈ ms, m.IsComplete := by
  constructor
  · intro h
    exact ⟨h d (.here d), fun e he p hp => h p (.element he hp),
      fun ms hms m hm p hp => h p (.member hms hm hp)⟩
  · rintro ⟨hparts, helement, hmembers⟩ p hp
    cases hp with
    | here => exact hparts
    | element he hp => exact helement _ he p hp
    | member hms hm hp => exact hmembers _ hms _ hm p hp

end Draft

/-! ## 3. Fields from drafts -/

namespace Field

variable {d : Draft} {element? : Option Field} {members? : Option (List Field)}

theorem draft_scalar (name : Text) (nullable : Bool) (type : Scalar) (element? : Option Field)
    (members? : Option (List Field)) : (Field.scalar name nullable type element? members?).draft =
      ⟨name, nullable, .scalar type, element?.map draft, members?.map (·.map draft)⟩ := by
  rw [draft, draft?_eq, drafts?_eq]

theorem draft_array (name : Text) (nullable : Bool) (element : Field)
    (members? : Option (List Field)) : (Field.array name nullable element members?).draft =
      ⟨name, nullable, .array, some element.draft, members?.map (·.map draft)⟩ := by
  rw [draft, drafts?_eq]

theorem draft_record (name : Text) (nullable : Bool) (members : List Field)
    (element? : Option Field) : (Field.record name nullable members element?).draft =
      ⟨name, nullable, .record, element?.map draft, some (members.map draft)⟩ := by
  rw [draft, draft?_eq, drafts_eq]

theorem assemble_array_eq_ok {name : Text} {nullable : Bool} {f : Field} :
    assemble name nullable .array element? members? = .ok f ↔
      ∃ element, element? = some element ∧ f = .array name nullable element members? := by
  cases element? with
  | none => exact iff_of_false nofun (by rintro ⟨_, ⟨⟩, -⟩)
  | some element =>
    constructor
    · intro h
      cases h
      exact ⟨element, rfl, rfl⟩
    · rintro ⟨_, ⟨⟩, rfl⟩
      rfl

theorem assemble_record_eq_ok {name : Text} {nullable : Bool} {f : Field} :
    assemble name nullable .record element? members? = .ok f ↔
      ∃ members, members? = some members ∧ members ≠ [] ∧ (members.map Field.name).Nodup ∧
        f = .record name nullable members element? := by
  rcases members? with _ | _ | ⟨m, rest⟩
  · exact iff_of_false nofun (by rintro ⟨_, ⟨⟩, -⟩)
  · exact iff_of_false nofun (by rintro ⟨_, ⟨⟩, hne, -⟩; exact hne rfl)
  · unfold assemble
    dsimp only
    cases hrepeated : firstRepeated? ((m :: rest).map Field.name) with
    | some name =>
      refine iff_of_false nofun ?_
      rintro ⟨_, ⟨⟩, -, hnodup, -⟩
      cases hrepeated.symm.trans (firstRepeated?_eq_none.mpr hnodup)
    | none =>
      constructor
      · intro h
        cases h
        exact ⟨_, rfl, List.cons_ne_nil m rest, firstRepeated?_eq_none.mp hrepeated, rfl⟩
      · rintro ⟨_, ⟨⟩, -, -, rfl⟩
        rfl

/-- **A field is put together exactly when its draft has its parts**, and says what the draft
says. -/
theorem assemble_iff {name : Text} {nullable : Bool} {type : TypeName} :
    (∃ f, assemble name nullable type element? members? = .ok f ∧ f.draft = d) ↔
      d = ⟨name, nullable, type, element?.map draft, members?.map (·.map draft)⟩ ∧
        d.HasParts := by
  cases type with
  | scalar s =>
    have hdraft := draft_scalar name nullable s element? members?
    constructor
    · rintro ⟨f, hf, rfl⟩
      cases hf
      rw [hdraft]
      exact ⟨rfl, nofun, nofun⟩
    · rintro ⟨rfl, -⟩
      exact ⟨_, rfl, hdraft⟩
  | array =>
    simp only [assemble_array_eq_ok]
    constructor
    · rintro ⟨f, ⟨element, rfl, rfl⟩, rfl⟩
      rw [draft_array]
      exact ⟨rfl, fun _ => ⟨_, rfl⟩, nofun⟩
    · rintro ⟨rfl, hparts⟩
      obtain ⟨e, he⟩ := hparts.element rfl
      obtain ⟨element, rfl, -⟩ := Option.map_eq_some_iff.mp he
      exact ⟨_, ⟨element, rfl, rfl⟩, draft_array ..⟩
  | record =>
    simp only [assemble_record_eq_ok]
    constructor
    · rintro ⟨f, ⟨members, rfl, hne, hnodup, rfl⟩, rfl⟩
      rw [draft_record]
      refine ⟨rfl, nofun, fun _ => ⟨_, rfl, by simpa using hne, ?_⟩⟩
      rwa [map_draft_name]
    · rintro ⟨rfl, hparts⟩
      obtain ⟨ms, hms, hne, hnodup⟩ := hparts.members rfl
      obtain ⟨members, rfl, rfl⟩ := Option.map_eq_some_iff.mp hms
      rw [map_draft_name] at hnodup
      exact ⟨_, ⟨members, rfl, by simpa using hne, hnodup, rfl⟩, draft_record ..⟩

/-- A field is combined exactly when each of its members has been read and its draft has its
parts. -/
theorem combine_iff {name : Checked Text} {type : Checked TypeName} {nullable : Checked Bool}
    {element : Checked (Option Field)} {members : Checked (Option (List Field))} :
    (∃ f, combine name type nullable element members = .ok f ∧ f.draft = d) ↔
      name = .ok d.name ∧ type = .ok d.type ∧ nullable = .ok d.nullable ∧
      (∃ e?, element = .ok e? ∧ e?.map draft = d.element?) ∧
      (∃ ms?, members = .ok ms? ∧ ms?.map (·.map draft) = d.members?) ∧ d.HasParts := by
  constructor
  · rintro ⟨f, hf, hd⟩
    obtain ⟨⟨n, t, nl, e?, ms?⟩, hboth, hassemble⟩ := bind_ok hf
    obtain ⟨hname, hboth⟩ := Checked.both_ok.mp hboth
    obtain ⟨htype, hboth⟩ := Checked.both_ok.mp hboth
    obtain ⟨hnullable, hboth⟩ := Checked.both_ok.mp hboth
    obtain ⟨helement, hmembers⟩ := Checked.both_ok.mp hboth
    obtain ⟨rfl, hparts⟩ := assemble_iff.mp ⟨f, hassemble, hd⟩
    exact ⟨hname, htype, hnullable, ⟨e?, helement, rfl⟩, ⟨ms?, hmembers, rfl⟩, hparts⟩
  · rintro ⟨rfl, rfl, rfl, ⟨e?, rfl, he⟩, ⟨ms?, rfl, hms⟩, hparts⟩
    refine assemble_iff.mpr ⟨?_, hparts⟩
    cases d
    rw [he, hms]

end Field

end Sluice
