import Sluice.Arrow.Type
import Sluice.Proofs.Record.Walk
import Sluice.Proofs.Schema.Columns
import Sluice.Proofs.Sql.Definition

/-!
# What consumers of a schema ask for

The types of columns, the definition of a table and the conversion of values are made from a field
by going through its parts. None of them looks first whether the parts are there: it asks for the
element of an array, for the members of a record and for the entry of any other type in its table.
So each is told here as a walk over drafts, which breaks off where something is missing, and what an
accepted schema says never makes it break off.

* `Consumer`, `Consumer.walk`: **what is made of a draft**, or what was missing;
* `Consumer.walk_isOk`: **nothing is missing from a complete draft**, whoever asks;
* `walk_arrowTypes`, `walk_columnTypes`, `walk_conversions`: the walks come to what the library
  makes of a field;
* `Schema.readColumns_complete`: **accepted schemas are complete at every depth**, and every
  consumer goes through them to the end.
-/

namespace Sluice

/-! ## 1. Consumers -/

/-- What may be missing when it is asked for. -/
inductive Lack where
  | element
  | members
  | type
  deriving DecidableEq, Repr

/-- **A consumer of drafts**: what it has in its table for a type without parts, and what it makes
of an array and of a record once it has made something of their parts. -/
structure Consumer (β : Type) where
  entry? : Draft → Option β
  ofElement : Draft → Draft → β → β
  ofMembers : Draft → List (Draft × β) → β

namespace Consumer

variable {β : Type}

/-- **What a consumer makes of a draft**, or the first thing that it asks for in vain. -/
def walk (c : Consumer β) : Draft → Except Lack β
  | ⟨_, _, .array, none, _⟩ => .error .element
  | ⟨name, nullable, .array, some element, members?⟩ =>
    (walk c element).map (c.ofElement ⟨name, nullable, .array, some element, members?⟩ element)
  | ⟨_, _, .record, _, none⟩ => .error .members
  | ⟨name, nullable, .record, element?, some members⟩ =>
    (walkAll members).map (c.ofMembers ⟨name, nullable, .record, element?, some members⟩)
  | ⟨name, nullable, .scalar type, element?, members?⟩ =>
    match c.entry? ⟨name, nullable, .scalar type, element?, members?⟩ with
    | none => .error .type
    | some b => .ok b
where
  /-- What a consumer makes of drafts in a row. -/
  walkAll : List Draft → Except Lack (List (Draft × β))
    | [] => .ok []
    | d :: rest => do
      let b ← walk c d
      let bs ← walkAll rest
      return (d, b) :: bs

theorem walkAll_eq (c : Consumer β) : ∀ ds : List Draft,
    walk.walkAll c ds = ds.mapM fun d => (c.walk d).map (d, ·)
  | [] => rfl
  | d :: rest => by
    rw [walk.walkAll, List.mapM_cons, walkAll_eq c rest]
    cases c.walk d <;> rfl

/-- A consumer makes something of drafts in a row if it does so of each of them. -/
theorem walkAll_isOk {c : Consumer β} : ∀ {ds : List Draft},
    (∀ d ∈ ds, ∃ b, c.walk d = .ok b) → ∃ bs, walk.walkAll c ds = .ok bs
  | [], _ => ⟨[], rfl⟩
  | d :: rest, h => by
    obtain ⟨⟨b, hb⟩, hrest⟩ := List.forall_mem_cons.mp h
    obtain ⟨bs, hbs⟩ := walkAll_isOk hrest
    exact ⟨(d, b) :: bs, by rw [walk.walkAll, hb, hbs]; rfl⟩

/-- **The table of a consumer has an entry for every type without parts.** -/
def IsFull (c : Consumer β) : Prop := ∀ d s, d.type = .scalar s → ∃ b, c.entry? d = some b

/-- **Nothing is missing from a complete draft**, whoever asks. -/
theorem walk_isOk {c : Consumer β} (hc : c.IsFull) :
    ∀ {d : Draft}, d.IsComplete → ∃ b, c.walk d = .ok b
  | ⟨name, nullable, .scalar s, element?, members?⟩, _ => by
    obtain ⟨b, hb⟩ := hc ⟨name, nullable, .scalar s, element?, members?⟩ s rfl
    exact ⟨b, by rw [walk, hb]⟩
  | ⟨_, _, .array, none, _⟩, h => by
    obtain ⟨hparts, -, -⟩ := Draft.isComplete_iff.mp h
    obtain ⟨e, he⟩ := hparts.element rfl
    cases he
  | ⟨_, _, .array, some element, _⟩, h => by
    obtain ⟨-, helement, -⟩ := Draft.isComplete_iff.mp h
    obtain ⟨b, hb⟩ := walk_isOk hc (helement element rfl)
    exact ⟨_, by rw [walk, hb]; rfl⟩
  | ⟨_, _, .record, _, none⟩, h => by
    obtain ⟨hparts, -, -⟩ := Draft.isComplete_iff.mp h
    obtain ⟨ms, hms, -⟩ := hparts.members rfl
    cases hms
  | ⟨_, _, .record, _, some members⟩, h => by
    obtain ⟨-, -, hmembers⟩ := Draft.isComplete_iff.mp h
    obtain ⟨bs, hbs⟩ := walkAll_isOk fun m hm =>
      have := List.sizeOf_lt_of_mem hm
      walk_isOk hc (hmembers members rfl m hm)
    exact ⟨_, by rw [walk, hbs]; rfl⟩
termination_by d => sizeOf d

/-- **What a consumer makes of a field**, if it makes a field of each kind from what it makes of the
parts. -/
theorem walk_draft {c : Consumer β} {make : Field → β}
    (hscalar : ∀ name nullable type element? members?,
      c.entry? (Field.scalar name nullable type element? members?).draft =
        some (make (.scalar name nullable type element? members?)))
    (harray : ∀ name nullable element members?,
      c.ofElement (Field.array name nullable element members?).draft element.draft (make element) =
        make (.array name nullable element members?))
    (hrecord : ∀ name nullable members element?,
      c.ofMembers (Field.record name nullable members element?).draft
          (members.map fun m => (m.draft, make m)) =
        make (.record name nullable members element?)) (f : Field) :
    c.walk f.draft = .ok (make f) := by
  induction f using Field.induct with
  | scalar name nullable type element? members? =>
    have hentry := hscalar name nullable type element? members?
    rw [Field.draft_scalar] at hentry ⊢
    rw [walk, hentry]
  | array name nullable element members? ih =>
    rw [← harray, Field.draft_array, walk, ih]
    rfl
  | record name nullable members element? ih =>
    have hall : walk.walkAll c (members.map Field.draft) =
        .ok (members.map fun m => (m.draft, make m)) := by
      rw [walkAll_eq, mapM_eq_ok, List.forall₂_map_left_iff, List.forall₂_map_right_iff,
        List.forall₂_same]
      intro m hm
      rw [ih m hm]
      rfl
    rw [← hrecord, Field.draft_record, walk, hall]
    rfl

end Consumer

/-! ## 2. Types of columns -/

/-- A table with an entry for each type without parts. -/
def Scalar.table {β : Type} (entry : Scalar → β) : List (TypeName × β) :=
  [.bool, .int32, .int64, .float, .double, .numeric, .string, .bytes, .timestamp, .date].map
    fun s => (.scalar s, entry s)

theorem Scalar.lookup_table {β : Type} (entry : Scalar → β) (s : Scalar) :
    (table entry).lookup (.scalar s) = some (entry s) := by
  cases s <;> rfl

namespace Consumer

/-- The consumer that tells the types of columns in an input table. -/
def arrowTypes : Consumer Arrow.DataType where
  entry? d := (Scalar.table Scalar.toArrow).lookup d.type
  ofElement _ element type := .list false "element" type element.nullable
  ofMembers _ parts := .struct (parts.map fun (m, type) => (m.name, type, m.nullable))

/-- The consumer that tells the types of columns in the definition of a table. -/
def columnTypes : Consumer Text where
  entry? d := (Scalar.table Sql.scalarType).lookup d.type
  ofElement _ _ type := type ++ "[]"
  ofMembers _ parts :=
    "STRUCT(" ++ Text.join ", " (parts.map fun (m, type) => .char '"' :: m.name ++ "\" " ++ type) ++
      ")"

theorem walk_arrowTypes (f : Field) : arrowTypes.walk f.draft = .ok f.toArrow := by
  refine walk_draft (fun name nullable type element? members? => ?_)
    (fun name nullable element members? => ?_) (fun name nullable members element? => ?_) f
  · rw [Field.toArrow]
    exact Scalar.lookup_table Scalar.toArrow type
  · dsimp only [arrowTypes]
    rw [Field.toArrow, Field.draft_nullable]
  · dsimp only [arrowTypes]
    rw [Field.toArrow, Field.membersToArrow_eq, List.map_map]
    simp [Function.comp_def]

theorem walk_columnTypes (f : Field) : columnTypes.walk f.draft = .ok (Sql.columnType f) := by
  refine walk_draft (fun name nullable type element? members? => ?_)
    (fun name nullable element members? => ?_) (fun name nullable members element? => ?_) f
  · rw [Sql.columnType]
    exact Scalar.lookup_table Sql.scalarType type
  · rw [Sql.columnType]
    rfl
  · dsimp only [columnTypes]
    rw [Sql.columnType, Sql.memberTypes_eq, List.map_map]
    have hmember : Sql.columnType.memberType =
        fun m => .char '"' :: m.name ++ "\" " ++ Sql.columnType m := by
      funext m
      rw [Sql.columnType.memberType]
    simp [Function.comp_def, hmember]

end Consumer

/-! ## 3. Conversions -/

namespace Draft

/-- The type as it is written in a configuration; an array that lacks its element is only called
one. -/
def typeName : Draft → Text
  | ⟨_, _, .array, some element, _⟩ => "ARRAY<" ++ element.typeName ++ ">"
  | ⟨_, _, type, _, _⟩ => type.word

end Draft

theorem Field.typeName_draft (f : Field) : f.draft.typeName = f.typeName := by
  induction f using Field.induct with
  | scalar name nullable type element? members? =>
    rw [draft_scalar]
    rfl
  | array name nullable element members? ih =>
    rw [draft_array, Draft.typeName, ih, typeName]
  | record name nullable members element? =>
    rw [draft_record]
    rfl

namespace Consumer

open Record

/-- A null is kept where the draft allows it; everything else is converted. -/
def orNull (d : Draft) (convert : Text → Value → Converted) (path : Text) (v : Value) :
    Converted :=
  if v.isNull then Field.convert.convertNull d.nullable path else convert path v

/-- A value that is not of the type of a draft. -/
def mismatch (d : Draft) (path : Text) (v : Value) : Refusal :=
  .rejected (.mismatch path d.typeName v.kindName none)

/-- What a mapping holds for a member, under its name. -/
def convertPart (path : Text) (es : List (Value × Value))
    (part : Draft × (Text → Value → Converted)) : Except Refusal (Text × Value) :=
  let inner := memberPath path part.1.name
  Except.map (part.1.name, ·) <|
    match Value.lookup part.1.name es with
    | some v => part.2 inner v
    | none => if part.1.nullable then .ok .null else .error (.rejected (.missingMember inner))

/-- The consumer that converts values. -/
def conversions : Consumer (Text → Value → Converted) where
  entry? d := (Scalar.table fun s => orNull d (Record.scalar s)).lookup d.type
  ofElement d _ convert := orNull d fun path v =>
    match items? v with
    | some xs => (convertItems convert path 0 xs).map .list
    | none => .error (mismatch d path v)
  ofMembers d parts := orNull d fun path v =>
    match v.entries? with
    | some es => (parts.mapM (convertPart path es)).map Value.ofPairs
    | none => .error (mismatch d path v)

/-- What a mapping holds for a member is converted as the member says. -/
theorem convertPart_draft (path : Text) (es : List (Value × Value)) (m : Field) :
    convertPart path es (m.draft, m.convert) = m.memberStep path es := by
  unfold convertPart Field.memberStep Field.convertAt
  rw [Field.draft_name, Field.draft_nullable]
  cases Value.lookup m.name es <;> rfl

theorem walk_conversions (f : Field) : conversions.walk f.draft = .ok f.convert := by
  refine walk_draft (fun name nullable type element? members? => ?_)
    (fun name nullable element members? => ?_) (fun name nullable members element? => ?_) f
  · have hconvert : orNull (Field.scalar name nullable type element? members?).draft
        (Record.scalar type) = (Field.scalar name nullable type element? members?).convert := by
      funext path v
      rw [orNull, Field.draft_nullable, Field.convert]
      rfl
    rw [← hconvert]
    exact Scalar.lookup_table (fun s => orNull _ (Record.scalar s)) type
  · funext path v
    dsimp only [conversions]
    rw [orNull, Field.draft_nullable, mismatch, Field.typeName_draft, Field.convert]
    rfl
  · funext path v
    dsimp only [conversions]
    rw [orNull, Field.draft_nullable, mismatch, Field.typeName_draft, Field.convert]
    have hparts : ∀ es, (members.map fun m => (m.draft, m.convert)).mapM (convertPart path es) =
        Field.convert.convertMembers members path es := by
      intro es
      rw [Field.convertMembers_eq, List.mapM_map]
      congr 1
      funext m
      exact convertPart_draft path es m
    simp only [hparts]
    rfl

end Consumer

/-! ## 4. Accepted schemas -/

namespace Field

/-- What a field gives as its element, and as its members, is what its draft gives. -/
theorem draft_element? (f : Field) : f.draft.element? = f.element?.map draft := by
  cases f with
  | scalar => rw [draft_scalar]; rfl
  | array => rw [draft_array]; rfl
  | record => rw [draft_record]; rfl

theorem draft_members? (f : Field) : f.draft.members? = f.members?.map (·.map draft) := by
  cases f with
  | scalar => rw [draft_scalar]; rfl
  | array => rw [draft_array]; rfl
  | record => rw [draft_record]; rfl

/-- Whatever a field reaches is what some field says of itself. -/
theorem exists_of_reaches {f : Field} {p : Draft} (h : f.draft.Reaches p) :
    ∃ g : Field, g.draft = p := by
  generalize hd : f.draft = d at h
  induction h generalizing f with
  | here => exact ⟨f, hd⟩
  | element he _ ih =>
    rw [← hd, draft_element?] at he
    obtain ⟨element, -, helement⟩ := Option.map_eq_some_iff.mp he
    exact ih helement
  | member hms hm _ ih =>
    rw [← hd, draft_members?] at hms
    obtain ⟨members, -, rfl⟩ := Option.map_eq_some_iff.mp hms
    obtain ⟨m, -, hdraft⟩ := List.mem_map.mp hm
    exact ih hdraft

end Field

namespace Schema

/-- **Accepted schemas are complete at every depth.** Let columns be read from a value. They say
what the value describes; there is at least one, and no two have one name. Whatever they reach, by
elements and members and also below those that no type needs: an array has an element, a record has
members with different names, and no consumer whose table has the types without parts finds anything
missing. In particular the walks of the three consumers come to what the library makes of that
field: the type of its column in an input table and in the definition of a table, and the conversion
of values. -/
theorem readColumns_complete {v : Value} {s : Schema} (h : readColumns v = .ok s) :
    (∃ xs, Check.items? v = some xs ∧ List.Forall₂ Describes xs s.drafts) ∧
    s.drafts ≠ [] ∧ (s.drafts.map Draft.name).Nodup ∧
    ∀ d ∈ s.drafts, ∀ p, d.Reaches p →
      p.HasParts ∧
      (∀ (β : Type) (c : Consumer β), c.IsFull → ∃ b, c.walk p = .ok b) ∧
      ∃ f : Field, f.draft = p ∧ Consumer.arrowTypes.walk p = .ok f.toArrow ∧
        Consumer.columnTypes.walk p = .ok (Sql.columnType f) ∧
        Consumer.conversions.walk p = .ok f.convert := by
  obtain ⟨hdescribed, hne, hnodup, hcomplete⟩ := readColumns_iff.mp ⟨s, h, rfl⟩
  refine ⟨hdescribed, hne, hnodup, fun d hd p hp => ?_⟩
  have hp' : p.IsComplete := fun q hq => hcomplete d hd q (hp.trans hq)
  obtain ⟨f, -, rfl⟩ := List.mem_map.mp hd
  obtain ⟨g, rfl⟩ := Field.exists_of_reaches hp
  exact ⟨hp' _ (.here _), fun β c hc => Consumer.walk_isOk hc hp', g, rfl,
    Consumer.walk_arrowTypes g, Consumer.walk_columnTypes g, Consumer.walk_conversions g⟩

/-- An array by the text of its type, and a whole number that has been given a record as its
element: no type needs that record, and still it has a member. -/
theorem readColumns_complete_spare :
    let date : Value := .mapping [(.text "name", .text "d"), (.text "type", .text "DATE")]
    let row : Value := .mapping [(.text "name", .text "row"), (.text "type", .text "struct"),
      (.text "fields", .list [date])]
    let id : Value := .mapping [(.text "name", .text "id"), (.text "type", .text "bigint"),
      (.text "element", row)]
    let tags : Value := .mapping [(.text "name", .text "tags"), (.text "type", .text "array< str >")]
    let row' : Field := .record "row" true [.ofScalar "d" true .date] none
    let id' : Field := .scalar "id" true .int64 (some row') none
    let s : Schema := ⟨[.array "tags" true (.ofScalar "element" true .string) none, id']⟩
    readColumns (.list [tags, id]) = .ok s ∧ id'.draft.Reaches row'.draft ∧
      row'.draft.HasParts := by
  intro date row id tags row' id' s
  have hdate : Field.read date = .ok (.ofScalar "d" true .date) := by
    unfold date Field.read Field.readEntries
    rfl
  have hrow : Field.read row = .ok row' := by
    have hmembers : Field.readItems 0 [date] = .ok [.ofScalar "d" true .date] := by
      rw [Field.readItems, hdate, Field.readItems]
      rfl
    unfold row Field.read Field.readEntries
    change Field.combine (.ok "row") (.ok .record) (.ok true) (.ok none)
      (Checked.under (.member "fields") ((Field.readItems 0 [date]).map some)) = _
    rw [hmembers]
    rfl
  have hid : Field.read id = .ok id' := by
    unfold id Field.read Field.readEntries
    change Field.combine (.ok "id") (.ok (.scalar .int64)) (.ok true)
      (Checked.under (.member "element") ((Field.read row).map some)) (.ok none) = _
    rw [hrow]
    rfl
  have htags : Field.read tags =
      .ok (.array "tags" true (.ofScalar "element" true .string) none) := by
    have hinner : Field.ofTypeText "element" true "str" =
        .ok (.ofScalar "element" true .string) := by
      unfold Field.ofTypeText
      rfl
    unfold tags Field.read Field.readEntries
    change Field.combine (.ok "tags") (.ok .array) (.ok true) (Field.implied "str") (.ok none) = _
    rw [Field.implied, hinner]
    rfl
  have hs : readColumns (.list [tags, id]) = .ok s := by
    change (Checked.under (.member "fields") (Field.readItems 0 [tags, id])).bind ofFields = _
    rw [Field.readItems, htags, Field.readItems, hid, Field.readItems]
    rfl
  have hreaches : id'.draft.Reaches row'.draft := .element rfl (.here row'.draft)
  obtain ⟨-, -, -, hcomplete⟩ := readColumns_complete hs
  have hmem : id'.draft ∈ s.drafts := List.mem_cons_of_mem _ List.mem_cons_self
  exact ⟨hs, hreaches, (hcomplete _ hmem _ hreaches).1⟩

end Schema

end Sluice
