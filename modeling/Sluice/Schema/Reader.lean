import Sluice.Check.Scalar
import Sluice.Schema.TypeName

/-!
# Reading schemas

A field is described by a mapping with a `name`, a `type`, and optionally `nullable`, `element` and
`fields`. A type `ARRAY<…>` describes the element as well, unless the mapping does. All members are
read before anything is refused; only when they are in order does the type ask for its parts
(`Field.assemble`), and that is where a field without an element or without members is refused.
-/

namespace Sluice

namespace Field

/-- The field of a type and the parts that its description gives. -/
def assemble (name : Text) (nullable : Bool) (type : TypeName) (element? : Option Field)
    (members? : Option (List Field)) : Checked Field :=
  match type with
  | .scalar s => .ok (.scalar name nullable s element? members?)
  | .array =>
    match element? with
    | some element => .ok (.array name nullable element members?)
    | none => Checked.refuse (.noElement name)
  | .record =>
    match members? with
    | none => Checked.refuse (.noMembers name)
    | some [] => Checked.refuse (.noMembers name)
    | some members =>
      match firstRepeated? (members.map Field.name) with
      | some repeated => Checked.refuse (.repeatedMember repeated name)
      | none => .ok (.record name nullable members element?)

/-- The field that a name and the text of a type describe. -/
def ofTypeText (name : Text) (nullable : Bool) (type : Text) : Checked Field :=
  match h : TypeName.arrayBody? type with
  | some inner =>
    have := TypeName.length_arrayBody?_lt h
    (Checked.under (.member "element") (ofTypeText "element" true inner)).bind fun element =>
      assemble name nullable .array (some element) none
  | none =>
    match TypeName.ofText? type with
    | some t => assemble name nullable t none none
    | none => Checked.refuse (.unsupportedType (Text.strip type) TypeName.supported)
termination_by type.length

/-- The words that stand for types when a type is not given as a text. -/
def typeWords : List (Text × TypeName) :=
  [ TypeName.scalar .bool, .scalar .int32, .scalar .int64, .scalar .float, .scalar .double,
    .scalar .numeric, .scalar .string, .scalar .bytes, .scalar .timestamp, .scalar .date, .array,
    .record ].map fun t => (t.word, t)

/-- What the `type` of a description says. -/
inductive TypeText where
  | named (type : TypeName)
  | arrayOf (inner : Text)

/-- Reads the `type` of a description when it is a text. -/
def typeText? (t : Text) : Option TypeText :=
  match TypeName.arrayBody? t with
  | some inner => some (.arrayOf inner)
  | none => (TypeName.ofText? t).map .named

end Field

namespace Value

/-- A value found under a name is smaller than the mapping. -/
theorem sizeOf_lookup_lt {name : Text} {es : List (Value × Value)} {v : Value}
    (h : lookup name es = some v) : sizeOf v < sizeOf es := by
  induction es with
  | nil => simp [lookup] at h
  | cons e rest ih =>
    obtain ⟨k, w⟩ := e
    have hrest : lookup name rest = some v → sizeOf v < sizeOf ((k, w) :: rest) := by
      intro hr
      have := ih hr
      simp only [List.cons.sizeOf_spec]
      omega
    cases k <;> simp only [lookup] at h <;> try exact hrest h
    split at h
    · simp only [Option.some.injEq] at h
      subst h
      simp only [List.cons.sizeOf_spec, Prod.mk.sizeOf_spec]
      omega
    · exact hrest h

/-- The items of a list found under a name are smaller than the mapping. -/
theorem sizeOf_lookup_list_lt {name : Text} {es : List (Value × Value)} {xs : List Value}
    (h : lookup name es = some (.list xs)) : sizeOf xs < sizeOf es := by
  have := sizeOf_lookup_lt h
  simp only [list.sizeOf_spec] at this
  omega

/-- The items of a tuple found under a name are smaller than the mapping. -/
theorem sizeOf_lookup_tuple_lt {name : Text} {es : List (Value × Value)} {xs : List Value}
    (h : lookup name es = some (.tuple xs)) : sizeOf xs < sizeOf es := by
  have := sizeOf_lookup_lt h
  simp only [tuple.sizeOf_spec] at this
  omega

/-- The items of a set found under a name are smaller than the mapping. -/
theorem sizeOf_lookup_set_lt {name : Text} {es : List (Value × Value)} {xs : List Value}
    (h : lookup name es = some (.set xs)) : sizeOf xs < sizeOf es := by
  have := sizeOf_lookup_lt h
  simp only [set.sizeOf_spec] at this
  omega

end Value

namespace Field

/-- Puts together what has been read of a description. -/
def combine (name : Checked Text) (type : Checked TypeName) (nullable : Checked Bool)
    (element : Checked (Option Field)) (members : Checked (Option (List Field))) : Checked Field :=
  (Checked.both name <| Checked.both type <| Checked.both nullable <| Checked.both element
    members).bind fun (name, type, nullable, element?, members?) =>
      assemble name nullable type element? members?

/-- The element that the text of an array type describes. -/
def implied (inner : Text) : Checked (Option Field) :=
  Checked.under (.member "element") ((ofTypeText "element" true inner).map some)

mutual

/-- Reads the description of a field. Only in a mapping that is not read-only a type may be written
in other ways than by its own word. -/
def read : Value → Checked Field
  | .mapping es => readEntries true es
  | .frozen es => readEntries false es
  | _ => Checked.refuse (.notRecord "SchemaField")
termination_by v => sizeOf v

/-- Reads the entries of a description; `free` says whether a type may be written freely. -/
def readEntries (free : Bool) (es : List (Value × Value)) : Checked Field :=
  let name := Check.required "name" Check.text es
  let nullable := Check.optional "nullable" true Check.switch es
  let members : Checked (Option (List Field)) :=
    match hm : Value.lookup "fields" es with
    | none => .ok none
    | some .null => .ok none
    | some (.list xs) =>
      have := Value.sizeOf_lookup_list_lt hm
      Checked.under (.member "fields") ((readItems 0 xs).map some)
    | some (.tuple xs) =>
      have := Value.sizeOf_lookup_tuple_lt hm
      Checked.under (.member "fields") ((readItems 0 xs).map some)
    | some (.set xs) =>
      have := Value.sizeOf_lookup_set_lt hm
      Checked.under (.member "fields") ((readItems 0 xs).map some)
    | some _ => Checked.under (.member "fields") (Checked.refuse .notTuple)
  let element : Checked (Option Field) :=
    match he : Value.lookup "element" es with
    | none => .ok none
    | some .null => .ok none
    | some v =>
      have := Value.sizeOf_lookup_lt he
      Checked.under (.member "element") ((read v).map some)
  match Value.lookup "type" es, free with
  | some (.text t), true =>
    match typeText? t with
    | none => Checked.refuse (.unsupportedType (Text.strip t) TypeName.supported)
    | some (.named type) => combine name (.ok type) nullable element members
    | some (.arrayOf inner) =>
      let element := match Value.lookup "element" es with
        | none => implied inner
        | some .null => implied inner
        | some _ => element
      combine name (.ok .array) nullable element members
  | some v, _ =>
    combine name (Checked.under (.member "type") (Check.choice typeWords v)) nullable element
      members
  | none, _ =>
    combine name (Checked.under (.member "type") (Checked.refuse .missing)) nullable element
      members
termination_by sizeOf es

/-- Reads descriptions one by one, the first having the given index. -/
def readItems : Nat → List Value → Checked (List Field)
  | _, [] => .ok []
  | i, v :: rest =>
    (Checked.both (Checked.under (.item i) (read v)) (readItems (i + 1) rest)).map
      fun (f, fs) => f :: fs
termination_by _ vs => sizeOf vs

end

end Field

namespace Schema

/-- The schema of the given columns. -/
def ofFields (fields : List Field) : Checked Schema :=
  if fields.isEmpty then Checked.refuse .noColumns
  else match firstRepeated? (fields.map Field.name) with
    | some repeated => Checked.refuse (.repeatedColumn repeated)
    | none => .ok ⟨fields⟩

/-- Reads a schema from the descriptions of its columns. -/
def readColumns (v : Value) : Checked Schema :=
  (Checked.under (.member "fields") <|
    match Check.items? v with
    | some xs => Field.readItems 0 xs
    | none => Checked.refuse .notTuple).bind ofFields

/-- Reads a schema from a mapping with the member `fields`. -/
def readMembers (es : List (Value × Value)) : Checked Schema :=
  match Value.lookup "fields" es with
  | some v => readColumns v
  | none => Checked.under (.member "fields") (Checked.refuse .missing)

/-- Reads a schema from a mapping with the member `fields`. -/
def read (v : Value) : Checked Schema := (Check.members "Schema" v).bind readMembers

end Schema

end Sluice
