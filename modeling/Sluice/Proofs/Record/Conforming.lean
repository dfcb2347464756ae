import Sluice.Proofs.Record.Operation
import Mathlib.Data.List.Forall2

/-!
# Which records are accepted

A transformer makes an operation of exactly the records that conform: every key column holds
something, and every field of the operation is either absent and nullable, or converted. What the
operation carries, and what a record that does not conform is refused for, is fixed by the record
alone.

* `Field.Yields`: what becomes of one field of a record;
* `Transformer.Emits`, `Transformer.Refuses`: **the operation of a record, and what it is refused
  for**, told without the walk over its fields;
* `make_carries`: which fields the operations of a kind carry, and in which order;
* `transform_conforms`: **conforming records, and no others, become the operations that they fix**.
-/

namespace Sluice

open Record

/-! ## 1. What becomes of a field -/

theorem Value.IsPlain.notNull {v : Value} (h : v.IsPlain) : v.isNull = false := by
  cases v <;> first | rfl | exact h.elim

theorem Record.scalar_notNull {type : Scalar} {path : Text} {v w : Value}
    (h : Record.scalar type path v = .ok w) : w.isNull = false := by
  unfold Record.scalar at h
  split at h
  · split at h <;> cases h
    rfl
  · split at h
    · next w' hw =>
      cases h
      exact (scalar?_isPlain hw).notNull
    · cases h
    · cases h

/-- A record holds something under a name, and it is not null. -/
def Value.Has (record : Value) (name : Text) : Prop :=
  ∃ w, record.member? name = some w ∧ w.isNull = false

namespace Field

/-- **What becomes of a field of a record**: null or a refusal if it is not there, else whatever its
conversion comes to. -/
inductive Yields (f : Field) (record : Value) : Converted → Prop where
  | absent (hw : record.member? f.name = none) (hnullable : f.nullable = true) :
      Yields f record (.ok .null)
  | missing (hw : record.member? f.name = none) (hnullable : f.nullable = false) :
      Yields f record (.error (.rejected (.missingMember f.name)))
  | converted {w : Value} {c : Converted} (hw : record.member? f.name = some w)
      (hc : f.convert f.name w = c) : Yields f record c

/-- A field of a record is accepted: absent and nullable, or converted. -/
def Accepts (f : Field) (record : Value) : Prop := ∃ v, f.Yields record (.ok v)

variable {f : Field} {record : Value} {es : List (Value × Value)}

/-- **What becomes of a field is what the walk comes to there.** -/
theorem yields_iff (hes : record.entries? = some es) {c : Converted} :
    f.Yields record c ↔ f.convertAt f.name es = c := by
  have hmember : record.member? f.name = Value.lookup f.name es := by
    unfold Value.member?
    rw [hes]
    rfl
  unfold convertAt
  constructor
  · intro hyields
    cases hyields with
    | absent hw hnullable =>
      rw [← hmember, hw]
      exact if_pos hnullable
    | missing hw hnullable =>
      rw [← hmember, hw]
      exact if_neg (Bool.eq_false_iff.mp hnullable)
    | converted hw hc =>
      rw [← hmember, hw]
      exact hc
  · intro hc
    cases hw : Value.lookup f.name es with
    | some w =>
      rw [hw] at hc
      exact .converted (hmember.trans hw) hc
    | none =>
      rw [hw] at hc
      subst hc
      change f.Yields record (if f.nullable = true then _ else _)
      cases hnullable : f.nullable with
      | true => exact .absent (hmember.trans hw) hnullable
      | false => exact .missing (hmember.trans hw) hnullable

/-- **Null is converted from null only.** -/
theorem convert_notNull {path : Text} {v w : Value} (hv : v.isNull = false)
    (h : f.convert path v = .ok w) : w.isNull = false := by
  cases converts_iff.mp h with
  | null => cases hv
  | scalar _ hw => exact scalar_notNull hw
  | items => rfl
  | members => rfl

end Field

/-! ## 2. Look-ups -/

namespace Row

theorem get?_cons (name : Text) (e : Text × Value) (row : Row) :
    get? (e :: row) name = if e.1 = name then some e.2 else get? row name := by
  unfold get?
  by_cases h : e.1 = name
  · rw [List.find?_cons_of_pos (by simpa using h), if_pos h]
    rfl
  · rw [List.find?_cons_of_neg (by simpa using h), if_neg h]

/-- A column that is there is found, with one of the values of the row. -/
theorem get?_of_mem {row : Row} {name : Text} (h : name ∈ row.map (·.1)) :
    ∃ e ∈ row, row.get? name = some e.2 := by
  obtain ⟨e, he, rfl⟩ := List.mem_map.mp h
  have hfound : (row.find? fun e' => e'.1 == e.1).isSome :=
    List.find?_isSome.mpr ⟨e, he, beq_self_eq_true e.1⟩
  obtain ⟨e', he'⟩ := Option.isSome_iff_exists.mp hfound
  exact ⟨e', List.mem_of_find?_eq_some he', congrArg (Option.map Prod.snd) he'⟩

/-- Under distinct names, a row holds each of its values under its name. -/
theorem value_of_mem : ∀ {row : Row}, (row.map (·.1)).Nodup → ∀ {e : Text × Value}, e ∈ row →
    row.value e.1 = e.2
  | [], _, _, he => absurd he List.not_mem_nil
  | first :: rest, hdistinct, e, he => by
    obtain ⟨hfirst, hrest⟩ := List.nodup_cons.mp hdistinct
    unfold value
    rw [get?_cons]
    rcases List.mem_cons.mp he with rfl | he
    · rw [if_pos rfl]
      rfl
    · have hname : first.1 ≠ e.1 := by
        intro hname
        dsimp only at hfirst
        rw [hname] at hfirst
        exact hfirst (List.mem_map_of_mem he)
      rw [if_neg hname]
      exact value_of_mem hrest he

end Row

theorem Schema.field?_eq_some {schema : Schema} {name : Text} {f : Field}
    (h : schema.field? name = some f) : f ∈ schema.fields ∧ f.name = name :=
  ⟨List.mem_of_find?_eq_some h, by simpa using List.find?_some h⟩

/-- Names at the level of the columns are distinct. -/
theorem Schema.nodup_names {schema : Schema} (h : schema.isWellFormed = true) :
    schema.names.Nodup := by
  unfold isWellFormed at h
  simp only [Bool.and_eq_true, decide_eq_true_eq] at h
  exact h.1.2

/-! ## 3. The walk over the fields -/

namespace Transformer

section Walk

variable {record : Value} {es : List (Value × Value)}

/-- **A row is what its fields yield**, one by one. -/
theorem convertColumns_yields (hes : record.entries? = some es) :
    ∀ {fs : List Field} {row : Row},
      convertColumns (fun name => .ok (Value.lookup name es)) fs = .ok row →
        List.Forall₂ (fun f c => c.1 = f.name ∧ f.Yields record (.ok c.2)) fs row
  | [], row, h => by
    cases h
    exact .nil
  | f :: rest, row, h => by
    rw [convertColumns_cons] at h
    obtain ⟨v, hv, h⟩ := bind_ok h
    obtain ⟨row', hrest, h⟩ := bind_ok h
    cases h
    exact .cons ⟨rfl, (Field.yields_iff hes).mpr hv⟩ (convertColumns_yields hes hrest)

/-- Behind fields that are accepted, the walk goes on. -/
theorem convertColumns_accepted (hes : record.entries? = some es) :
    ∀ {before : List Field} (after : List Field), (∀ f ∈ before, f.Accepts record) →
      ∃ row, convertColumns (fun name => .ok (Value.lookup name es)) (before ++ after) =
        (convertColumns (fun name => .ok (Value.lookup name es)) after).map (row ++ ·)
  | [], after, _ => by
    refine ⟨[], ?_⟩
    cases h : convertColumns (fun name => .ok (Value.lookup name es)) after <;>
      simp [h, Except.map]
  | f :: rest, after, h => by
    obtain ⟨v, hv⟩ := h f List.mem_cons_self
    obtain ⟨row, hrow⟩ := convertColumns_accepted hes after fun g hg =>
      h g (List.mem_cons_of_mem f hg)
    refine ⟨(f.name, v) :: row, ?_⟩
    rw [List.cons_append, convertColumns_cons, (Field.yields_iff hes).mp hv, hrow]
    cases convertColumns (fun name => .ok (Value.lookup name es)) after <;> rfl

/-- **The walk over fields ends with what the first offending one is refused for.** -/
theorem convertColumns_error_iff (hes : record.entries? = some es) {r : Refusal} :
    ∀ {fs : List Field},
      convertColumns (fun name => .ok (Value.lookup name es)) fs = .error r ↔
        ∃ before f after, fs = before ++ f :: after ∧ (∀ g ∈ before, g.Accepts record) ∧
          f.Yields record (.error r) := by
  intro fs
  constructor
  · intro h
    induction fs with
    | nil => cases h
    | cons f rest ih =>
      rw [convertColumns_cons] at h
      rcases bind_error h with hf | ⟨v, hv, h⟩
      · exact ⟨[], f, rest, rfl, fun g hg => absurd hg List.not_mem_nil,
          (Field.yields_iff hes).mpr hf⟩
      · rcases bind_error h with hrest | ⟨row, -, h⟩
        · obtain ⟨before, g, after, rfl, hbefore, hg⟩ := ih hrest
          refine ⟨f :: before, g, after, rfl, fun g' hg' => ?_, hg⟩
          rcases List.mem_cons.mp hg' with rfl | hg'
          · exact ⟨v, (Field.yields_iff hes).mpr hv⟩
          · exact hbefore g' hg'
        · cases h
  · rintro ⟨before, f, after, rfl, hbefore, hf⟩
    obtain ⟨row, hrow⟩ := convertColumns_accepted hes (f :: after) hbefore
    rw [hrow, convertColumns_cons, (Field.yields_iff hes).mp hf]
    rfl

end Walk

/-! ## 4. Key columns -/

section Keys

variable {record : Value} {es : List (Value × Value)} {keys : List Text}

theorem has_iff (hes : record.entries? = some es) {name : Text} :
    record.Has name ↔ ((Value.lookup name es).getD .null).isNull = false := by
  have hmember : record.member? name = Value.lookup name es := by
    unfold Value.member?
    rw [hes]
    rfl
  unfold Value.Has
  rw [hmember]
  cases Value.lookup name es with
  | none =>
    constructor
    · rintro ⟨w, hw, -⟩
      cases hw
    · intro h
      cases h
  | some w =>
    constructor
    · rintro ⟨w', hw', hnull⟩
      cases hw'
      exact hnull
    · intro h
      exact ⟨w, rfl, h⟩

theorem missingKey?_eq_none (hes : record.entries? = some es) :
    missingKey? es keys = none ↔ ∀ name ∈ keys, record.Has name := by
  unfold missingKey?
  rw [List.find?_eq_none]
  simp only [has_iff hes, Bool.not_eq_true]

/-- **The key column that is reported is the first that holds nothing.** -/
theorem missingKey?_eq_some (hes : record.entries? = some es) {name : Text} :
    missingKey? es keys = some name ↔ ∃ before after, keys = before ++ name :: after ∧
      (∀ n ∈ before, record.Has n) ∧ ¬ record.Has name := by
  unfold missingKey?
  rw [List.find?_eq_some_iff_append]
  simp only [has_iff hes, Bool.not_eq_false, Bool.not_eq_true']
  constructor
  · rintro ⟨hname, before, after, hkeys, hbefore⟩
    exact ⟨before, after, hkeys, hbefore, hname⟩
  · rintro ⟨before, after, hkeys, hbefore, hname⟩
    exact ⟨hname, before, after, hkeys, hbefore⟩

end Keys

/-! ## 5. The fields of an operation -/

/-- Names of which each is kept once are distinct. -/
theorem nodup_eraseDups : ∀ names : List Text, names.eraseDups.Nodup
  | [] => by simp
  | name :: rest => by
    have hshorter : (rest.filter fun n => !(n == name)).length < (name :: rest).length :=
      Nat.lt_succ_of_le (List.length_filter_le _ _)
    rw [List.eraseDups_cons, List.nodup_cons]
    refine ⟨fun hname => ?_, nodup_eraseDups _⟩
    have hother := (List.mem_filter.mp (List.mem_eraseDups.mp hname)).2
    simp at hother
termination_by names => names.length
decreasing_by exact hshorter

/-- **Which fields the operations of a transformer carry**: those of the schema in their order, for
deletions those of the key columns in theirs, each once. -/
structure Carries (t : Transformer) (schema : Schema) (keys : List Text) : Prop where
  writes : t.verb ≠ .delete → t.fields = schema.fields
  deletes : t.verb = .delete → t.fields.map Field.name = keys.eraseDups
  declared : ∀ f ∈ t.fields, f ∈ schema.fields
  keyed : ∀ name ∈ keys, ∃ f ∈ t.fields, f.name = name

theorem map_filterMap_field? {schema : Schema} : ∀ {names : List Text},
    (∀ name ∈ names, ∃ f, schema.field? name = some f) →
      (names.filterMap schema.field?).map Field.name = names
  | [], _ => rfl
  | name :: rest, h => by
    obtain ⟨f, hf⟩ := h name List.mem_cons_self
    rw [List.filterMap_cons_some hf, List.map_cons, (Schema.field?_eq_some hf).2,
      map_filterMap_field? fun n hn => h n (List.mem_cons_of_mem name hn)]

section Make

variable {table : Text} {schema : Schema} {keys : List Text} {verb : Verb} {t : Transformer}

/-- A transformer is what it was made from, and the schema has its key columns. -/
theorem make_inv (h : make table schema keys verb = .ok t) :
    t = ⟨table, schema, keys, verb⟩ ∧ ∀ name ∈ keys, ∃ f, schema.field? name = some f := by
  unfold make at h
  split at h
  · next hunknown =>
    cases h
    refine ⟨rfl, fun name hname => ?_⟩
    have hknown := List.filter_eq_nil_iff.mp hunknown name hname
    exact Option.ne_none_iff_exists'.mp (by simpa using hknown)
  · cases h

theorem make_carries (h : make table schema keys verb = .ok t) : t.Carries schema keys := by
  obtain ⟨rfl, hknown⟩ := make_inv h
  have hnames : ∀ name ∈ keys.eraseDups, ∃ f, schema.field? name = some f := fun name hname =>
    hknown name (List.mem_eraseDups.mp hname)
  constructor
  · intro hverb
    unfold fields
    split
    · next hdelete => exact absurd hdelete hverb
    · rfl
  · intro hverb
    unfold fields
    rw [hverb]
    exact map_filterMap_field? hnames
  · intro f hf
    unfold fields at hf
    split at hf
    · obtain ⟨name, -, hname⟩ := List.mem_filterMap.mp hf
      exact (Schema.field?_eq_some hname).1
    · exact hf
  · intro name hname
    obtain ⟨f, hf⟩ := hknown name hname
    obtain ⟨hmem, hfname⟩ := Schema.field?_eq_some hf
    refine ⟨f, ?_, hfname⟩
    unfold fields
    split
    · exact List.mem_filterMap.mpr ⟨name, List.mem_eraseDups.mpr hname, hf⟩
    · exact hmem

end Make

/-! ## 6. Conforming records -/

/-- **The operation of a record**: its columns are what the fields yield, and its key holds the
converted values of the key columns, none of them null. -/
structure Emits (t : Transformer) (record : Value) (o : Operation) : Prop where
  table : o.table = t.table
  verb : o.verb = t.verb
  keyColumns : o.keyColumns = t.keyColumns
  columns : List.Forall₂ (fun f c => c.1 = f.name ∧ f.Yields record (.ok c.2)) t.fields o.columns
  key : List.Forall₂ (fun name v => ∃ f ∈ t.fields, ∃ w, f.name = name ∧
    record.member? name = some w ∧ f.convert name w = .ok v ∧ v.isNull = false) t.keyColumns o.key

/-- **What a record is refused for**: the first key column that holds nothing, and if all of them
hold something, whatever the first field that is not accepted comes to. -/
inductive Refuses (t : Transformer) (record : Value) : Refusal → Prop where
  | key {before after : List Text} {name : Text} (hkeys : t.keyColumns = before ++ name :: after)
      (hbefore : ∀ n ∈ before, record.Has n) (hname : ¬ record.Has name) :
      Refuses t record (.rejected (.missingKey name))
  | field {before after : List Field} {f : Field} {r : Refusal}
      (hkeys : ∀ name ∈ t.keyColumns, record.Has name) (hfields : t.fields = before ++ f :: after)
      (hbefore : ∀ g ∈ before, g.Accepts record) (hf : f.Yields record (.error r)) :
      Refuses t record r

section Transform

variable {t : Transformer} {record : Value} {es : List (Value × Value)} {o : Operation}
  {r : Refusal}

/-- A transformation succeeds when the keys are there and the walk over the fields does. -/
theorem transform_eq_ok (hes : record.entries? = some es) :
    t.transform record = .ok o ↔ (∀ name ∈ t.keyColumns, record.Has name) ∧
      ∃ row, convertColumns (fun name => .ok (Value.lookup name es)) t.fields = .ok row ∧
        o = ⟨t.table, t.verb, row, t.keyColumns⟩ := by
  rw [← missingKey?_eq_none hes]
  unfold transform
  rw [hes]
  dsimp only
  cases missingKey? es t.keyColumns with
  | some name =>
    constructor
    · intro h
      cases h
    · rintro ⟨hnone, -⟩
      cases hnone
  | none =>
    cases convertColumns (fun name => .ok (Value.lookup name es)) t.fields with
    | error r =>
      constructor
      · intro h
        cases h
      · rintro ⟨-, row, hrow, -⟩
        cases hrow
    | ok row =>
      constructor
      · intro h
        cases h
        exact ⟨rfl, row, rfl, rfl⟩
      · rintro ⟨-, row', hrow, rfl⟩
        cases hrow
        rfl

/-- A transformation fails at a key column, or in the walk over the fields. -/
theorem transform_eq_error (hes : record.entries? = some es) :
    t.transform record = .error r ↔
      (∃ name, missingKey? es t.keyColumns = some name ∧ r = .rejected (.missingKey name)) ∨
      (missingKey? es t.keyColumns = none ∧
        convertColumns (fun name => .ok (Value.lookup name es)) t.fields = .error r) := by
  unfold transform
  rw [hes]
  dsimp only
  cases missingKey? es t.keyColumns with
  | some name =>
    constructor
    · intro h
      cases h
      exact .inl ⟨name, rfl, rfl⟩
    · rintro (⟨name', hname, rfl⟩ | ⟨hnone, -⟩)
      · cases hname
        rfl
      · cases hnone
  | none =>
    cases convertColumns (fun name => .ok (Value.lookup name es)) t.fields with
    | error r' =>
      constructor
      · intro h
        cases h
        exact .inr ⟨rfl, rfl⟩
      · rintro (⟨name, hname, -⟩ | ⟨-, hr⟩)
        · cases hname
        · cases hr
          rfl
    | ok row =>
      constructor
      · intro h
        cases h
      · rintro (⟨name, hname, -⟩ | ⟨-, hr⟩)
        · cases hname
        · cases hr

/-- **A record is refused for what its faults say it is refused for, and for nothing else.** -/
theorem transform_refuses (hes : record.entries? = some es) :
    t.transform record = .error r ↔ t.Refuses record r := by
  rw [transform_eq_error hes]
  constructor
  · rintro (⟨name, hname, rfl⟩ | ⟨hnone, hr⟩)
    · obtain ⟨before, after, hkeys, hbefore, habsent⟩ := (missingKey?_eq_some hes).mp hname
      exact .key hkeys hbefore habsent
    · obtain ⟨before, f, after, hfields, hbefore, hf⟩ := (convertColumns_error_iff hes).mp hr
      exact .field ((missingKey?_eq_none hes).mp hnone) hfields hbefore hf
  · intro h
    cases h with
    | key hkeys hbefore hname =>
      exact .inl ⟨_, (missingKey?_eq_some hes).mpr ⟨_, _, hkeys, hbefore, hname⟩, rfl⟩
    | field hkeys hfields hbefore hf =>
      exact .inr ⟨(missingKey?_eq_none hes).mpr hkeys,
        (convertColumns_error_iff hes).mpr ⟨_, _, _, hfields, hbefore, hf⟩⟩

/-- **A record becomes an operation if and only if it conforms.** -/
theorem transform_isOk (hes : record.entries? = some es) :
    (∃ o, t.transform record = .ok o) ↔
      (∀ name ∈ t.keyColumns, record.Has name) ∧ ∀ f ∈ t.fields, f.Accepts record := by
  constructor
  · rintro ⟨o, ho⟩
    obtain ⟨hkeys, row, hrow, -⟩ := (transform_eq_ok hes).mp ho
    refine ⟨hkeys, fun f hf => ?_⟩
    obtain ⟨v, hv⟩ := convertColumns_ok hrow f hf
    exact ⟨v, (Field.yields_iff hes).mpr hv⟩
  · rintro ⟨hkeys, hfields⟩
    obtain ⟨row, hrow⟩ := convertColumns_accepted hes [] hfields
    rw [List.append_nil] at hrow
    exact ⟨_, (transform_eq_ok hes).mpr ⟨hkeys, _, hrow, rfl⟩⟩

/-- The columns of an operation are named after its fields. -/
theorem names_of_yields : ∀ {fs : List Field} {row : Row},
    List.Forall₂ (fun f c => c.1 = f.name ∧ f.Yields record (.ok c.2)) fs row →
      row.map (·.1) = fs.map Field.name
  | _, _, .nil => rfl
  | _, _, .cons ⟨hname, _⟩ hrest => by
    rw [List.map_cons, List.map_cons, hname, names_of_yields hrest]

/-- Each field has its column. -/
theorem column_of_yields : ∀ {fs : List Field} {row : Row},
    List.Forall₂ (fun f c => c.1 = f.name ∧ f.Yields record (.ok c.2)) fs row →
      ∀ f ∈ fs, ∃ c ∈ row, c.1 = f.name ∧ f.Yields record (.ok c.2)
  | _, _, .nil, f, hf => absurd hf List.not_mem_nil
  | _, c :: _, .cons hc hrest, f, hf => by
    rcases List.mem_cons.mp hf with rfl | hf
    · exact ⟨c, List.mem_cons_self, hc⟩
    · obtain ⟨c', hc', found⟩ := column_of_yields hrest f hf
      exact ⟨c', List.mem_cons_of_mem c hc', found⟩

theorem Carries.nodup {schema : Schema} {keys : List Text} (h : t.Carries schema keys)
    (hnames : schema.names.Nodup) : (t.fields.map Field.name).Nodup := by
  by_cases hverb : t.verb = .delete
  · rw [h.deletes hverb]
    exact nodup_eraseDups keys
  · rw [h.writes hverb]
    exact hnames

/-- **What a transformation makes is the operation of its record.** -/
theorem transform_emits {schema : Schema} {keys : List Text} (h : t.Carries schema keys)
    (hkeys : t.keyColumns = keys) (hnames : schema.names.Nodup)
    (hes : record.entries? = some es) (ho : t.transform record = .ok o) : t.Emits record o := by
  obtain ⟨hpresent, row, hrow, rfl⟩ := (transform_eq_ok hes).mp ho
  have hyields := convertColumns_yields hes hrow
  refine ⟨rfl, rfl, rfl, hyields, ?_⟩
  have hdistinct : (row.map (·.1)).Nodup := by
    rw [names_of_yields hyields]
    exact h.nodup hnames
  unfold Operation.key
  rw [List.forall₂_map_right_iff, List.forall₂_same]
  intro name hname
  obtain ⟨f, hf, hfname⟩ := h.keyed name (hkeys ▸ hname)
  obtain ⟨⟨column, v⟩, hc, hcname, hyield⟩ := column_of_yields hyields f hf
  obtain ⟨w, hw, hnull⟩ := hpresent name hname
  have hvalue : Row.value row name = v := by
    rw [← hfname, ← hcname]
    exact Row.value_of_mem hdistinct hc
  subst hfname
  rw [hvalue]
  cases hyield with
  | absent habsent => rw [hw] at habsent; cases habsent
  | converted hw' hconvert =>
    rw [hw] at hw'
    cases hw'
    exact ⟨f, hf, w, rfl, hw, hconvert, Field.convert_notNull hnull hconvert⟩

end Transform

section Made

variable {table : Text} {schema : Schema} {keys : List Text} {verb : Verb} {t : Transformer}
  {record : Value}

/-- **Exactly the conforming records are accepted, and what they become is fixed by them.** For
every transformer that can be made for a schema, and every mapping: the transformation succeeds if
and only if every key column holds something and every field is accepted; what it makes is the
operation of the record; and a record that does not conform is refused for its first fault in that
order, which is a rejection unless a conversion stops the run. -/
theorem transform_conforms (hschema : schema.isWellFormed = true)
    (hmake : make table schema keys verb = .ok t) (hrecord : record.entries?.isSome = true) :
    t = ⟨table, schema, keys, verb⟩ ∧ t.Carries schema keys ∧
      ((∃ o, t.transform record = .ok o) ↔
        (∀ name ∈ keys, record.Has name) ∧ ∀ f ∈ t.fields, f.Accepts record) ∧
      (∀ o, t.transform record = .ok o → t.Emits record o) ∧
      (∀ r, t.transform record = .error r ↔ t.Refuses record r) ∧
      ((∀ f ∈ t.fields, ∀ w h, record.member? f.name = some w →
          f.convert f.name w ≠ .error (.halted h)) →
        ∀ r, t.transform record = .error r → ∃ rejection, r = .rejected rejection) := by
  obtain ⟨es, hes⟩ := Option.isSome_iff_exists.mp hrecord
  have hcarries := make_carries hmake
  obtain ⟨hmade, -⟩ := make_inv hmake
  have hkeys : t.keyColumns = keys := by rw [hmade]
  have hnames := Schema.nodup_names hschema
  refine ⟨hmade, hcarries, hkeys ▸ transform_isOk hes,
    fun o ho => transform_emits hcarries hkeys hnames hes ho, fun r => transform_refuses hes,
    fun hsteady r hr => ?_⟩
  cases (transform_refuses hes).mp hr with
  | key => exact ⟨_, rfl⟩
  | field _ hfields _ hf =>
    have hmem := hfields ▸ List.mem_append.mpr (.inr List.mem_cons_self)
    cases hf with
    | missing => exact ⟨_, rfl⟩
    | converted hw hconvert =>
      cases r with
      | rejected rejection => exact ⟨rejection, rfl⟩
      | halted h => exact absurd hconvert (hsteady _ hmem _ h hw)

/-- A deletion under two key columns: its columns come in the order of the key, and a second record
is refused for the first key column that holds nothing. -/
theorem transform_conforms_deletion :
    let schema : Schema :=
      ⟨[.ofScalar "a" false .int64, .ofScalar "b" false .string, .ofScalar "c" true .double]⟩
    let t : Transformer := ⟨"t", schema, ["b", "a"], .delete⟩
    let full : Value := .ofPairs [("a", .int 1), ("b", .text "x")]
    (∃ o, t.transform full = .ok o ∧ o.columns.map (·.1) = ["b", "a"] ∧ t.Emits full o) ∧
      t.Refuses (.ofPairs [("a", .null)]) (.rejected (.missingKey "b")) := by
  intro schema t full
  have hmake : make "t" schema ["b", "a"] .delete = .ok t := rfl
  have hfull : full.entries?.isSome = true := rfl
  have hlacking : (Value.ofPairs [("a", .null)]).entries?.isSome = true := rfl
  obtain ⟨-, -, -, hemits, -⟩ := transform_conforms (by decide +kernel) hmake hfull
  obtain ⟨-, -, -, -, hrefuses, -⟩ := transform_conforms (by decide +kernel) hmake hlacking
  refine ⟨?_, (hrefuses _).mp rfl⟩
  exact ⟨_, rfl, rfl, hemits _ rfl⟩

end Made

end Transformer

end Sluice
