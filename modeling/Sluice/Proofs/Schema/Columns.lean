import Sluice.Arrow.Type
import Sluice.Proofs.Record.Walk
import Sluice.Proofs.Schema.Read

/-!
# Schemas and the columns of a table

A schema says which columns a table of Arrow has, and the columns can be read back as a schema. What
is lost on the way is what no column has: the name of an array's element, and what a description
says about an element or members for which its type has no use. Names, order, types, nullability and
nesting stay as they are.

* `Field.normal`, `Schema.normal`: a field and a schema without what no column has;
* `IsNormal`: **nothing of that kind is in a field**, at no depth; `normal_isNormal`,
  `normal_eq_self`: that is what is left, and nothing else is taken away;
* `Field.ofArrow_named`: a field is read back from its type, by induction on the field;
* `Schema.ofArrow_toArrow`: **every schema is read back from its columns**, up to what none has.
-/

namespace Sluice

namespace Field

/-! ## 1. Normal fields -/

/-- The field under another name. -/
def rename (name : Text) : Field → Field
  | .scalar _ nullable type element? members? => .scalar name nullable type element? members?
  | .array _ nullable element members? => .array name nullable element members?
  | .record _ nullable members element? => .record name nullable members element?

/-- The name that every element of an array is given. -/
def elementName : Text := "element"

/-- **The field without what no column has**: elements of arrays are all called the same, and an
element or members for which the type has no use are dropped. -/
def normal : Field → Field
  | .scalar name nullable type _ _ => ofScalar name nullable type
  | .array name nullable element _ => .array name nullable (element.normal.rename elementName) none
  | .record name nullable members _ => .record name nullable (normalMembers members) none
where
  /-- Every member without what no column has. -/
  normalMembers : List Field → List Field
    | [] => []
    | f :: rest => f.normal :: normalMembers rest

/-- **A field holds nothing that no column has**: at every depth elements have the one name, and
there is no element and there are no members but those that the type asks for. -/
inductive IsNormal : Field → Prop where
  | scalar (name : Text) (nullable : Bool) (type : Scalar) : IsNormal (ofScalar name nullable type)
  | array (name : Text) (nullable : Bool) {element : Field} (hname : element.name = elementName)
      (h : IsNormal element) : IsNormal (.array name nullable element none)
  | record (name : Text) (nullable : Bool) {members : List Field} (h : ∀ m ∈ members, IsNormal m) :
      IsNormal (.record name nullable members none)

section Normal

variable {f : Field}

theorem normalMembers_eq : ∀ members : List Field,
    normal.normalMembers members = members.map normal
  | [] => rfl
  | m :: rest => by rw [normal.normalMembers, normalMembers_eq rest, List.map_cons]

@[simp] theorem name_rename (name : Text) (f : Field) : (f.rename name).name = name := by
  cases f <;> rfl

@[simp] theorem nullable_rename (name : Text) (f : Field) :
    (f.rename name).nullable = f.nullable := by
  cases f <;> rfl

@[simp] theorem rename_name (f : Field) : f.rename f.name = f := by cases f <;> rfl

@[simp] theorem name_normal (f : Field) : f.normal.name = f.name := by cases f <;> rfl

@[simp] theorem nullable_normal (f : Field) : f.normal.nullable = f.nullable := by
  cases f <;> rfl

theorem IsNormal.rename (h : f.IsNormal) (name : Text) : (f.rename name).IsNormal := by
  cases h with
  | scalar _ nullable type => exact .scalar name nullable type
  | array _ nullable hname helement => exact .array name nullable hname helement
  | record _ nullable hmembers => exact .record name nullable hmembers

/-- What is left holds nothing that no column has. -/
theorem normal_isNormal (f : Field) : f.normal.IsNormal := by
  induction f using Field.induct with
  | scalar name nullable type => exact .scalar name nullable type
  | array name nullable element _ ih =>
    rw [normal]
    exact .array name nullable (name_rename ..) (ih.rename elementName)
  | record name nullable members _ ih =>
    rw [normal, normalMembers_eq]
    refine .record name nullable fun m hm => ?_
    obtain ⟨member, hmember, rfl⟩ := List.mem_map.mp hm
    exact ih member hmember

theorem map_normal_eq_self {fields : List Field} (h : ∀ m ∈ fields, m.normal = m) :
    fields.map normal = fields := by
  rw [List.map_congr_left h, List.map_id']

/-- **Nothing else is taken away.** -/
theorem normal_eq_self (h : f.IsNormal) : f.normal = f := by
  induction h with
  | scalar name nullable type => rfl
  | array name nullable hname _ ih => rw [normal, ih, ← hname, rename_name]
  | record name nullable _ ih => rw [normal, normalMembers_eq, map_normal_eq_self ih]

/-! ## 2. Types of columns -/

theorem membersToArrow_eq : ∀ members : List Field, toArrow.membersToArrow members =
    members.map fun m => (m.name, m.toArrow, m.nullable)
  | [] => rfl
  | m :: rest => by rw [toArrow.membersToArrow, membersToArrow_eq rest, List.map_cons]

@[simp] theorem toArrow_rename (name : Text) (f : Field) : (f.rename name).toArrow = f.toArrow := by
  cases f <;> rfl

/-- No type has what is dropped. -/
theorem toArrow_normal (f : Field) : f.normal.toArrow = f.toArrow := by
  induction f using Field.induct with
  | scalar name nullable type => rfl
  | array name nullable element _ ih =>
    rw [normal, toArrow, toArrow, toArrow_rename, ih, nullable_rename, nullable_normal]
  | record name nullable members _ ih =>
    rw [normal, toArrow, toArrow, normalMembers_eq, membersToArrow_eq, membersToArrow_eq,
      List.map_map]
    congr 1
    refine List.map_congr_left fun m hm => ?_
    rw [Function.comp_apply, name_normal, nullable_normal, ih m hm]

end Normal

/-! ## 3. Reading types -/

/-- Members are read back one by one. -/
theorem membersOfArrow_toArrow : ∀ {members : List Field},
    (∀ m ∈ members, ofArrow m.name m.nullable m.toArrow = .ok m.normal) →
      ofArrow.membersOfArrow (toArrow.membersToArrow members) = .ok (members.map normal)
  | [], _ => by
    rw [toArrow.membersToArrow, ofArrow.membersOfArrow, List.map_nil]
  | m :: rest, h => by
    have hfirst := h m List.mem_cons_self
    have hrest := membersOfArrow_toArrow fun m' hm' => h m' (List.mem_cons_of_mem m hm')
    rw [toArrow.membersToArrow, ofArrow.membersOfArrow, hfirst, hrest]
    rfl

/-- **A field is read back from its type**, under any name. -/
theorem ofArrow_named {f : Field} (h : f.isWellFormed = true) (name : Text) :
    ofArrow name f.nullable f.toArrow = .ok (f.normal.rename name) := by
  induction f using Field.induct generalizing name with
  | scalar _ nullable type =>
    rw [toArrow, normal]
    cases type <;> rfl
  | array _ nullable element _ ih =>
    rw [isWellFormed] at h
    rw [toArrow, ofArrow, ih h "element"]
    rfl
  | record _ nullable members _ ih =>
    obtain ⟨hne, hnodup, hmembers⟩ := isWellFormed_record.mp h
    have hread : ofArrow.membersOfArrow (toArrow.membersToArrow members) =
        .ok (members.map normal) := by
      refine membersOfArrow_toArrow fun m hm => ?_
      have hm' := ih m hm (hmembers m hm) m.name
      rwa [← name_normal m, rename_name, name_normal] at hm'
    have hnames : (members.map normal).map Field.name = members.map Field.name := by
      simp [Function.comp_def]
    have hrecord : assemble name nullable .record none (some (members.map normal)) =
        .ok (.record name nullable (members.map normal) none) :=
      assemble_record_eq_ok.mpr ⟨_, rfl, by simpa using hne, hnames ▸ hnodup, rfl⟩
    rw [toArrow, ofArrow, hread, normal, normalMembers_eq]
    dsimp only [bind, Except.bind]
    rw [Field.nullable, hrecord]
    rfl

end Field

/-! ## 4. Schemas -/

namespace Schema

/-- **The schema without what no column has.** -/
def normal (s : Schema) : Schema := ⟨s.fields.map Field.normal⟩

/-- **A schema holds nothing that no column has.** -/
def IsNormal (s : Schema) : Prop := ∀ f ∈ s.fields, f.IsNormal

theorem names_normal (s : Schema) : s.normal.fields.map Field.name = s.names := by
  simp [normal, names, Function.comp_def]

theorem toArrow_normal (s : Schema) : s.normal.toArrow = s.toArrow := by
  unfold toArrow normal
  rw [Field.membersToArrow_eq, Field.membersToArrow_eq, List.map_map]
  refine List.map_congr_left fun f _ => ?_
  rw [Function.comp_apply, Field.name_normal, Field.nullable_normal, Field.toArrow_normal]

theorem normal_eq_self {s : Schema} (h : s.IsNormal) : s.normal = s := by
  unfold normal
  rw [Field.map_normal_eq_self fun f hf => Field.normal_eq_self (h f hf)]

theorem ofFields_ok {fields : List Field} (hne : fields ≠ [])
    (hnodup : (fields.map Field.name).Nodup) : ofFields fields = .ok ⟨fields⟩ :=
  ofFields_eq_ok.mpr ⟨rfl, hne, hnodup⟩

/-- **Every schema is read back from its columns**, up to what no column has; what is read back
holds nothing of that kind, and is read back as it is. So a schema that holds nothing of that kind is read
back as it is. -/
theorem ofArrow_toArrow {s : Schema} (h : s.isWellFormed = true) :
    ofArrow s.toArrow = .ok s.normal ∧ s.normal.IsNormal ∧
      ofArrow s.normal.toArrow = .ok s.normal ∧ (s.IsNormal → ofArrow s.toArrow = .ok s) := by
  obtain ⟨hne, hnodup, hfields⟩ := isWellFormed_iff.mp h
  have hread : ofArrow s.toArrow = .ok s.normal := by
    have hmembers : Field.ofArrow.membersOfArrow s.toArrow = .ok s.normal.fields := by
      refine Field.membersOfArrow_toArrow fun f hf => ?_
      have hf' := Field.ofArrow_named (hfields f hf) f.name
      rwa [← Field.name_normal f, Field.rename_name, Field.name_normal] at hf'
    have hschema : ofFields s.normal.fields = .ok s.normal :=
      ofFields_ok (by simpa [normal] using hne) ((names_normal s).symm ▸ hnodup)
    unfold ofArrow
    rw [hmembers]
    dsimp only [bind, Except.bind]
    rw [hschema]
  refine ⟨hread, fun f hf => ?_, (toArrow_normal s).symm ▸ hread, fun hnormal => ?_⟩
  · obtain ⟨g, -, rfl⟩ := List.mem_map.mp hf
    exact Field.normal_isNormal g
  · rw [hread, normal_eq_self hnormal]

/-- An array of records that hold an array, whose elements have names of their own, beside a scalar
that has been given an element. -/
theorem ofArrow_toArrow_nested :
    let keys : Field := .array "xs" false (.ofScalar "x" false .int64) none
    let tags : Field :=
      .array "tags" true (.record "item" false [.ofScalar "k" true .bytes, keys] none) none
    let s : Schema := ⟨[tags, .scalar "id" false .int64 (some (.ofScalar "e" true .bool)) none]⟩
    let keys' : Field := .array "xs" false (.ofScalar "element" false .int64) none
    let tags' : Field :=
      .array "tags" true (.record "element" false [.ofScalar "k" true .bytes, keys'] none) none
    let t : Schema := ⟨[tags', .ofScalar "id" false .int64]⟩
    s.isWellFormed = true ∧ ofArrow s.toArrow = .ok t ∧ ofArrow t.toArrow = .ok t := by
  intro keys tags s keys' tags' t
  have hs : s.isWellFormed = true := by decide
  have hnormal : s.normal = t := rfl
  obtain ⟨hread, -, hagain, -⟩ := ofArrow_toArrow hs
  rw [hnormal] at hread hagain
  exact ⟨hs, hread, hagain⟩

end Schema

end Sluice
