import Sluice.Cloud.Store
import Sluice.Proofs.Record.Conforming
import Sluice.Proofs.Text.Base64
import Mathlib.Data.List.Nodup

/-!
# Keys that are written and keys that are deleted

A row is written with the values of its columns, and deleted by its key. Values of byte columns are
written in base64, but a key is sent as it is: so a deletion addresses the row that was written
under the same key if and only if the key holds no bytes.

* `encoded_eq_self`: base64 changes **every value that holds bytes** (`Blank`), as it changes every
  byte string that is not empty;
* `Prepared.bytesOf`: once a table has been made ready, its byte columns are known for good;
* `Database.delete_addresses`: **what a deletion sends for a key, and what the other writes send for
  it**, position by position;
* `Transformer.transform_packed`: the operations of a transformer can all be sent.
-/

namespace Sluice

namespace Cloud

/-! ## 1. Values -/

/-- Values that can be sent in a byte column. -/
inductive Sendable : Value → Prop where
  | null : Sendable .null
  | bytes (bs : List UInt8) : Sendable (.bytes bs)
  | buffer (bs : List UInt8) : Sendable (.buffer bs)
  | view (bs : List UInt8) : Sendable (.view bs)
  | list {xs : List Value} (h : ∀ x ∈ xs, Sendable x) : Sendable (.list xs)

/-- Values that hold no bytes: null, the empty byte string, and lists of such values. -/
inductive Blank : Value → Prop where
  | null : Blank .null
  | empty : Blank (.bytes [])
  | list {xs : List Value} (h : ∀ x ∈ xs, Blank x) : Blank (.list xs)

theorem encodedItems_ok : ∀ {xs : List Value}, (∀ x ∈ xs, ∃ y, encoded x = .ok y) →
    ∃ ys, encoded.encodedItems xs = .ok ys
  | [], _ => ⟨[], rfl⟩
  | x :: rest, h => by
    obtain ⟨y, hy⟩ := h x List.mem_cons_self
    obtain ⟨ys, hys⟩ := encodedItems_ok fun x' hx' => h x' (List.mem_cons_of_mem x hx')
    refine ⟨y :: ys, ?_⟩
    unfold encoded.encodedItems
    rw [hy, hys]
    rfl

/-- What can be sent is sent in some form. -/
theorem Sendable.encoded_ok {v : Value} (h : Sendable v) : ∃ w, encoded v = .ok w := by
  induction h with
  | null => exact ⟨_, rfl⟩
  | bytes bs => exact ⟨_, rfl⟩
  | buffer bs => exact ⟨_, rfl⟩
  | view bs => exact ⟨_, rfl⟩
  | list _ ih =>
    obtain ⟨ys, hys⟩ := encodedItems_ok ih
    refine ⟨.list ys, ?_⟩
    unfold encoded
    rw [hys]
    rfl

theorem encodedItems_self : ∀ {xs : List Value}, (∀ x ∈ xs, encoded x = .ok x) →
    encoded.encodedItems xs = .ok xs
  | [], _ => rfl
  | x :: rest, h => by
    unfold encoded.encodedItems
    rw [h x List.mem_cons_self, encodedItems_self fun y hy => h y (List.mem_cons_of_mem x hy)]
    rfl

theorem Blank.encoded_self {v : Value} (h : Blank v) : encoded v = .ok v := by
  induction h with
  | null => rfl
  | empty => rfl
  | list _ ih =>
    unfold encoded
    rw [encodedItems_self ih]
    rfl

mutual

theorem blank_of_encoded : ∀ {v : Value}, encoded v = .ok v → Blank v
  | .null, _ => .null
  | .bytes bs, h => by
    have hsame : Base64.encode bs = bs := Value.bytes.inj (Except.ok.inj h)
    rw [Base64.encode_eq_self.mp hsame]
    exact .empty
  | .list xs, h => by
    unfold encoded at h
    obtain ⟨ys, hitems, hsame⟩ := map_ok h
    cases hsame
    exact .list (blank_of_encodedItems hitems)

theorem blank_of_encodedItems : ∀ {xs : List Value}, encoded.encodedItems xs = .ok xs →
    ∀ x ∈ xs, Blank x
  | [], _, x, hx => absurd hx List.not_mem_nil
  | x :: rest, h, x', hx' => by
    unfold encoded.encodedItems at h
    obtain ⟨y, hx, h⟩ := bind_ok h
    obtain ⟨ys, hrest, h⟩ := bind_ok h
    cases h
    have hfirst := blank_of_encoded hx
    have hothers := blank_of_encodedItems hrest
    rcases List.mem_cons.mp hx' with rfl | hx'
    · exact hfirst
    · exact hothers x' hx'

end

/-- **Only values without bytes are sent as they are.** -/
theorem encoded_eq_self {v : Value} : encoded v = .ok v ↔ Blank v :=
  ⟨blank_of_encoded, Blank.encoded_self⟩

/-! ## 2. Rows -/

/-- **What is sent for a value** of a column: the value itself, or what encodes it in a column of
bytes. -/
inductive SentAs (byteColumns : List Text) (name : Text) (v : Value) : Value → Prop where
  | plain (h : name ∉ byteColumns) : SentAs byteColumns name v v
  | encoded {w : Value} (h : name ∈ byteColumns) (hw : encoded v = .ok w) :
      SentAs byteColumns name v w

theorem SentAs.eq_iff {byteColumns : List Text} {name : Text} {v w : Value}
    (h : SentAs byteColumns name v w) : v = w ↔ (name ∈ byteColumns → Blank v) := by
  cases h with
  | plain hname => exact ⟨fun _ hmem => absurd hmem hname, fun _ => rfl⟩
  | encoded hname hw =>
    constructor
    · rintro rfl _
      exact encoded_eq_self.mp hw
    · intro hblank
      exact Except.ok.inj ((hblank hname).encoded_self.symm.trans hw)

section Rows

variable {byteColumns : List Text}

theorem encodedColumns_cons (name : Text) (v : Value) (rest : Row) :
    encodedColumns byteColumns ((name, v) :: rest) =
      (if byteColumns.contains name = true then encoded v else .ok v) >>= fun w =>
        encodedColumns byteColumns rest >>= fun ws => pure (w :: ws) := by
  rw [encodedColumns]
  by_cases hname : byteColumns.contains name = true
  · rw [if_pos hname, if_pos hname]
  · rw [if_neg hname, if_neg hname]

/-- **A row whose bytes can be sent is sent**, value by value. -/
theorem encodedColumns_ok : ∀ {row : Row}, (∀ e ∈ row, e.1 ∈ byteColumns → Sendable e.2) →
    ∃ values, encodedColumns byteColumns row = .ok values ∧
      List.Forall₂ (fun e w => SentAs byteColumns e.1 e.2 w) row values
  | [], _ => ⟨[], rfl, .nil⟩
  | (name, v) :: rest, h => by
    obtain ⟨values, hvalues, hall⟩ := encodedColumns_ok fun e he =>
      h e (List.mem_cons_of_mem (name, v) he)
    obtain ⟨w, hw, hsent⟩ : ∃ w, (if byteColumns.contains name then encoded v else .ok v) = .ok w ∧
        SentAs byteColumns name v w := by
      by_cases hname : name ∈ byteColumns
      · obtain ⟨w, hw⟩ := (h (name, v) List.mem_cons_self hname).encoded_ok
        exact ⟨w, by rw [if_pos (List.contains_iff_mem.mpr hname), hw], .encoded hname hw⟩
      · exact ⟨v, by rw [if_neg (by simpa using hname)], .plain hname⟩
    refine ⟨w :: values, ?_, .cons hsent hall⟩
    rw [encodedColumns_cons, hw, hvalues]
    rfl

/-- What is sent for a column of a row. -/
theorem value_zip {name : Text} : ∀ {row : Row} {values : List Value},
    List.Forall₂ (fun e w => SentAs byteColumns e.1 e.2 w) row values → name ∈ row.map (·.1) →
      SentAs byteColumns name (row.value name) (Row.value ((row.map (·.1)).zip values) name)
  | _, _, .nil, hname => absurd hname List.not_mem_nil
  | (first, v) :: rest, w :: values, .cons hsent hall, hname => by
    unfold Row.value
    rw [List.map_cons, List.zip_cons_cons, Row.get?_cons, Row.get?_cons]
    by_cases hfirst : first = name
    · subst hfirst
      rw [if_pos rfl, if_pos rfl]
      exact hsent
    · rw [if_neg hfirst, if_neg hfirst]
      exact value_zip hall ((List.mem_cons.mp hname).resolve_left fun h => hfirst h.symm)

end Rows

/-- The keys that a mutation addresses, under the given key columns. -/
def Mutation.keys (keyColumns : List Text) : Mutation → List (List Value)
  | .write _ _ columns values => [keyColumns.map (Row.value (columns.zip values))]
  | .delete _ keys => keys

/-! ## 3. Prepared tables -/

namespace Database

variable {δ : Type} {c : Client δ}

/-- **A table that has been made ready**, and whatever the store was used for afterwards: other
tables have been made ready, operations submitted, and the store closed. -/
inductive Prepared (c : Client δ) (table : Text) (schema : Schema) : Database δ → Prop where
  | ready (d : Database δ) (keys : List Text) :
      Prepared c table schema ((store c).prepare d table schema keys).state
  | other {d : Database δ} (h : Prepared c table schema d) {other : Text} (hne : other ≠ table)
      (schema' : Schema) (keys : List Text) :
      Prepared c table schema ((store c).prepare d other schema' keys).state
  | submitted {d : Database δ} (h : Prepared c table schema d) (operations : List Operation)
      (timeout? : Option Binary64) :
      Prepared c table schema ((store c).submit d operations timeout?).state
  | closed {d : Database δ} (h : Prepared c table schema d) :
      Prepared c table schema ((store c).close d)

theorem openUp_byteColumns (c : Client δ) (d : Database δ) :
    (d.openUp c).2.byteColumns = d.byteColumns := by
  unfold openUp
  split
  · rfl
  · dsimp only
    split <;> rfl

theorem create_byteColumns (c : Client δ) (d : Database δ) (table statement : Text) :
    (d.create c table statement).state.byteColumns = d.byteColumns := by
  unfold create
  dsimp only
  split <;> rfl

theorem prepare_byteColumns (c : Client δ) (d : Database δ) (table : Text) (schema : Schema)
    (keys : List Text) : (d.prepare c table schema keys).state.byteColumns =
      (d.noteBytes table (Cloud.byteColumns schema)).byteColumns := by
  unfold prepare
  dsimp only
  split
  · rfl
  · split
    · rfl
    · have hopen := openUp_byteColumns c (d.noteBytes table (Cloud.byteColumns schema))
      split
      · next f d' h =>
        rw [h] at hopen
        exact hopen
      · next u d' h =>
        rw [h] at hopen
        exact (create_byteColumns ..).trans hopen

theorem submit_byteColumns (c : Client δ) (d : Database δ) (operations : List Operation)
    (timeout? : Option Binary64) :
    (d.submit c operations timeout?).2.byteColumns = d.byteColumns := by
  have hopen := openUp_byteColumns c d
  unfold submit
  split
  · next f d' h =>
    rw [h] at hopen
    exact hopen
  · next u d' h =>
    rw [h] at hopen
    dsimp only
    split <;> exact hopen

theorem bytesOf_noteBytes_self (d : Database δ) (table : Text) (columns : List Text) :
    (d.noteBytes table columns).bytesOf table = columns := by
  unfold bytesOf noteBytes
  simp

theorem bytesOf_noteBytes_ne (d : Database δ) {table other : Text} (hne : other ≠ table)
    (columns : List Text) : (d.noteBytes other columns).bytesOf table = d.bytesOf table := by
  have hsame : (d.byteColumns.filter fun e => e.1 != other).find? (fun e => e.1 == table) =
      d.byteColumns.find? fun e => e.1 == table := by
    rw [List.find?_filter]
    congr 1
    funext e
    by_cases he : e.1 = table
    · simp [he, hne.symm]
    · simp [he]
  unfold bytesOf noteBytes
  dsimp only
  rw [List.find?_cons_of_neg (by simpa using hne)]
  exact congrArg (fun found => (found.map (·.2)).getD []) hsame

theorem bytesOf_congr {d d' : Database δ} (h : d.byteColumns = d'.byteColumns) (table : Text) :
    d.bytesOf table = d'.bytesOf table := by
  unfold bytesOf
  rw [h]

/-- **Once a table has been made ready, its byte columns are known for good.** -/
theorem Prepared.bytesOf {table : Text} {schema : Schema} {d : Database δ}
    (h : Prepared c table schema d) : d.bytesOf table = Cloud.byteColumns schema := by
  induction h with
  | ready d keys =>
    exact (bytesOf_congr (prepare_byteColumns ..) table).trans (bytesOf_noteBytes_self ..)
  | @other d _ other hne schema' keys ih =>
    have hkept := bytesOf_noteBytes_ne d hne (Cloud.byteColumns schema')
    exact (bytesOf_congr (prepare_byteColumns ..) table).trans (hkept.trans ih)
  | submitted _ operations timeout? ih =>
    exact (bytesOf_congr (submit_byteColumns ..) table).trans ih
  | closed _ ih =>
    refine (bytesOf_congr ?_ table).trans ih
    change (close c _).byteColumns = _
    unfold close
    split <;> rfl

/-! ## 4. What is sent -/

/-- An operation sends a mutation: this is what a transaction that comes to it hands to the
client. -/
def Sends (c : Client δ) (d : Database δ) (o : Operation) (m : Mutation) : Prop :=
  ∀ rest, bufferAll c (o :: rest) d = bufferAll c rest { d with client := c.buffer d.client m }

theorem sends_of_mutation {d : Database δ} {o : Operation} {m : Mutation}
    (h : mutation (d.bytesOf o.table) o = .ok m) : d.Sends c o m := by
  intro rest
  rw [bufferAll, h]

theorem mutation_delete (byteColumns : List Text) {o : Operation} (h : o.verb = .delete) :
    mutation byteColumns o = .ok (.delete o.table [o.key]) := by
  unfold mutation
  rw [h]

theorem mutation_write {byteColumns : List Text} {o : Operation} {values : List Value}
    (h : o.verb ≠ .delete) (hvalues : encodedColumns byteColumns o.columns = .ok values) :
    mutation byteColumns o = .ok (.write o.verb o.table (o.columns.map (·.1)) values) := by
  unfold mutation
  rw [hvalues]
  split
  · next hdelete => exact absurd hdelete h
  · rfl

/-- **What a deletion and another write of the same row address.** On a table that has been made
ready, a deletion sends the key as it is. Any other write with the same key sends for each key
column the value of the key, but encoded in columns of bytes. So both address the same row if and
only if the key holds no bytes at these positions. -/
theorem delete_addresses {table : Text} {schema : Schema} {d : Database δ}
    (h : Prepared c table schema d) {o w : Operation} (ho : o.table = table) (hw : w.table = table)
    (hdelete : o.verb = .delete) (hwrite : w.verb ≠ .delete)
    (hkey : o.key = w.key) (hkeyed : ∀ name ∈ w.keyColumns, name ∈ w.columns.map (·.1))
    (hsendable : ∀ e ∈ w.columns, e.1 ∈ Cloud.byteColumns schema → Sendable e.2) :
    ∃ values, d.Sends c o (.delete table [w.key]) ∧
      d.Sends c w (.write w.verb table (w.columns.map (·.1)) values) ∧
      (∀ name ∈ w.keyColumns, SentAs (Cloud.byteColumns schema) name (w.columns.value name)
        (Row.value ((w.columns.map (·.1)).zip values) name)) ∧
      (Mutation.keys w.keyColumns (.delete table [w.key]) =
          Mutation.keys w.keyColumns (.write w.verb table (w.columns.map (·.1)) values) ↔
        ∀ name ∈ w.keyColumns, name ∈ Cloud.byteColumns schema →
          Blank (w.columns.value name)) := by
  have hbytes := h.bytesOf
  obtain ⟨values, hvalues, hall⟩ := encodedColumns_ok hsendable
  have hsent : ∀ name ∈ w.keyColumns, SentAs (Cloud.byteColumns schema) name
      (w.columns.value name) (Row.value ((w.columns.map (·.1)).zip values) name) :=
    fun name hname => value_zip hall (hkeyed name hname)
  refine ⟨values, ?_, ?_, hsent, ?_⟩
  · have hm := mutation_delete (d.bytesOf o.table) hdelete
    rw [ho, hkey] at hm
    exact sends_of_mutation (by rw [ho]; exact hm)
  · have hm := mutation_write hwrite hvalues
    rw [hw] at hm
    exact sends_of_mutation (by rw [hw, hbytes]; exact hm)
  · unfold Mutation.keys Operation.key
    rw [List.cons.injEq, and_iff_left rfl, List.map_inj_left]
    constructor
    · intro hsame name hname
      exact (hsent name hname).eq_iff.mp (hsame name hname)
    · intro hblank name hname
      exact (hsent name hname).eq_iff.mpr (hblank name hname)

/-- Two bytes as a key: the deletion does not address the row that was inserted under them. -/
theorem delete_addresses_bytes :
    let schema : Schema := ⟨[.ofScalar "id" false .bytes]⟩
    let w : Operation := ⟨"t", .insert, [("id", .bytes [0, 255])], ["id"]⟩
    let o : Operation := { w with verb := .delete }
    let c := Script.client
    let d := ((store c).prepare
      { address := ⟨none, none, none⟩, createTables := false, client := { known := [] } }
      "t" schema ["id"]).state
    o.key = w.key ∧ ∃ values, d.Sends c o (.delete "t" [w.key]) ∧
      d.Sends c w (.write .insert "t" ["id"] values) ∧
      Mutation.keys ["id"] (.delete "t" [w.key]) ≠
        Mutation.keys ["id"] (.write .insert "t" ["id"] values) := by
  intro schema w o c d
  have hsendable : ∀ e ∈ w.columns, e.1 ∈ Cloud.byteColumns schema → Sendable e.2 := by
    intro e he _
    rw [List.mem_singleton.mp he]
    exact .bytes [0, 255]
  obtain ⟨values, hdelete, hinsert, -, hsame⟩ :=
    delete_addresses (o := o) (w := w) (.ready (c := c) _ ["id"]) rfl rfl rfl (by decide) rfl
      (by decide +kernel) hsendable
  refine ⟨rfl, values, hdelete, hinsert, fun hkeys => ?_⟩
  have hblank := hsame.mp hkeys "id" (by decide +kernel) (by decide +kernel)
  have hempty : Blank (.bytes [0, 255]) := hblank
  cases hempty

end Database

end Cloud

/-! ## 5. Operations of a transformer -/

open Cloud Record

/-- The type of byte strings, and that of lists of them. -/
def Field.holdsBytes (f : Field) : Bool :=
  match f with
  | .array _ _ element _ => isBytes element
  | f => isBytes f

theorem Cloud.mem_byteColumns {schema : Schema} {name : Text} :
    name ∈ byteColumns schema ↔ ∃ f ∈ schema.fields, f.holdsBytes = true ∧ f.name = name := by
  unfold byteColumns
  simp only [List.mem_map, List.mem_filter, and_assoc]
  rfl

/-- What a byte column holds: null, bytes, and lists of that. -/
inductive Cloud.Packed : Value → Prop where
  | null : Packed .null
  | bytes (bs : List UInt8) : Packed (.bytes bs)
  | list {xs : List Value} (h : ∀ x ∈ xs, Packed x) : Packed (.list xs)

theorem Cloud.Packed.sendable {v : Value} (h : Packed v) : Sendable v := by
  induction h with
  | null => exact .null
  | bytes bs => exact .bytes bs
  | list _ ih => exact .list ih

theorem Record.scalar_bytes_packed {path : Text} {v w : Value}
    (h : Record.scalar .bytes path v = .ok w) : Packed w := by
  cases v <;> cases h <;> constructor

namespace Field

theorem convert_isBytes {f : Field} (hf : isBytes f = true) {path : Text} {v w : Value}
    (h : f.convert path v = .ok w) : Packed w := by
  cases converts_iff.mp h with
  | null => exact .null
  | @scalar _ _ _ type _ _ _ _ _ hw =>
    cases type with
    | bytes => exact scalar_bytes_packed hw
    | _ => cases hf
  | items => cases hf
  | members => cases hf

/-- **What is converted to bytes, or to a list of them, is bytes**, but for nulls. -/
theorem convert_packed {f : Field} (hf : f.holdsBytes = true) {path : Text} {v w : Value}
    (h : f.convert path v = .ok w) : Packed w := by
  cases f with
  | scalar => exact convert_isBytes hf h
  | record => cases hf
  | array name nullable element spareMembers? =>
    cases converts_iff.mp h with
    | null => exact .null
    | items _ hys =>
      refine .list fun y hy => ?_
      obtain ⟨item, -, hitem⟩ := exists_of_mem_right hys hy
      exact convert_isBytes hf hitem

end Field

/-- **The byte columns of every operation of a transformer hold bytes**, so that it can be sent to a
table with the columns of its schema. -/
theorem Transformer.transform_packed {table : Text} {schema : Schema} {keys : List Text}
    {verb : Verb} {t : Transformer} {record : Value} {o : Operation}
    (hschema : schema.isWellFormed = true) (hmake : make table schema keys verb = .ok t)
    (ho : t.transform record = .ok o) :
    ∀ e ∈ o.columns, e.1 ∈ byteColumns schema → Packed e.2 := by
  intro e he hbytes
  obtain ⟨-, -, -, member, hcolumns⟩ := transform_inv ho
  obtain ⟨f, hf, hname, hconverted⟩ := convertColumns_mem hcolumns e he
  obtain ⟨g, hg, hholds, hgname⟩ := mem_byteColumns.mp hbytes
  have hdeclared := (make_carries hmake).declared f hf
  have hsame : g = f :=
    List.inj_on_of_nodup_map (Schema.nodup_names hschema) hg hdeclared (hgname.trans hname)
  subst hsame
  rcases hconverted with ⟨v, hv⟩ | habsent
  · exact Field.convert_packed hholds hv
  · rw [(Field.convertAbsent_eq_ok.mp habsent).2]
    exact .null

end Sluice
