import Sluice.Proofs.Chain
import Sluice.Record.Transformer
import Mathlib.Data.List.Basic

/-!
# What stops a stream of records

A record that cannot be converted is rejected, and the records behind it are not affected: so the
stream goes on, whatever a record holds. There is one exception. A time is shifted to UTC before it
is stored, and near the ends of the calendar there is nothing to shift it to; such a time is not a
fault of its record but stops the whole stream.

* `DateTime.toUtc?_eq_none`: which times these are (`DateTime.IsOutside`);
* `Field.ComesTo`: the times that a conversion comes to, at every depth;
* `Field.convert_halted`, `Field.convert_ok`: **only such a time stops a conversion**, and none is
  ever converted;
* `Transformer.transformAll_steady`: a stream of mappings yields one outcome for every record, in
  order, **up to the first record that holds such a time**.
-/

namespace Sluice

/-! ## 1. Times outside the calendar -/

/-- A time whose instant, in UTC, is not in the calendar. -/
def DateTime.IsOutside (t : DateTime) : Prop :=
  ∃ offset, t.offset = some offset ∧ offset ≠ 0 ∧
    (t.instant < 0 ∨ Calendar.lastOrdinal * 86400000000 ≤ t.instant)

theorem Date.ofOrdinal?_eq_none {n : Int} :
    Date.ofOrdinal? n = none ↔ n < 1 ∨ Calendar.lastOrdinal < n := by
  unfold Date.ofOrdinal?
  split
  · next h =>
    have hn : ¬ (n < 1 ∨ (Calendar.lastOrdinal : Int) < n) := by omega
    simp [hn]
  · next h =>
    have hn : n < 1 ∨ (Calendar.lastOrdinal : Int) < n := by omega
    simp [hn]

theorem DateTime.ofWall?_eq_none {offset : Option Int} {n : Int} :
    DateTime.ofWall? offset n = none ↔
      n < 0 ∨ Calendar.lastOrdinal * 86400000000 ≤ n := by
  have hdiv : n.fdiv 86400000000 = n / 86400000000 :=
    Int.fdiv_eq_ediv_of_nonneg n (by decide)
  have hday := Date.ofOrdinal?_eq_none (n := n.fdiv 86400000000 + 1)
  have hiff : n.fdiv 86400000000 + 1 < 1 ∨ (Calendar.lastOrdinal : Int) < n.fdiv 86400000000 + 1 ↔
      n < 0 ∨ Calendar.lastOrdinal * 86400000000 ≤ n := by
    rw [hdiv]
    unfold Calendar.lastOrdinal
    omega
  unfold DateTime.ofWall?
  cases h : Date.ofOrdinal? (n.fdiv 86400000000 + 1) with
  | none => exact ⟨fun _ => hiff.mp (hday.mp h), fun _ => rfl⟩
  | some date =>
    refine ⟨fun hnone => (by cases hnone), fun hn => ?_⟩
    have hnone := hday.mpr (hiff.mpr hn)
    rw [h] at hnone
    cases hnone

/-- **A time is shifted to UTC unless it is outside the calendar.** -/
theorem DateTime.toUtc?_eq_none {t : DateTime} : t.toUtc? = none ↔ t.IsOutside := by
  unfold DateTime.toUtc? DateTime.IsOutside
  cases t.offset with
  | none => simp
  | some offset =>
    dsimp only
    by_cases h : offset = 0
    · simp [h]
    · rw [if_neg h, DateTime.ofWall?_eq_none]
      constructor
      · intro hn
        exact ⟨offset, rfl, h, hn⟩
      · rintro ⟨offset', -, -, hn⟩
        exact hn

/-- A time that has been shifted to UTC is on UTC. -/
theorem DateTime.toUtc?_offset {t utc : DateTime} (h : t.toUtc? = some utc) :
    utc.offset = some 0 := by
  unfold toUtc? at h
  split at h
  · cases h
    rfl
  · next offset hoffset =>
    split at h
    · next hzero =>
      cases h
      rw [hoffset, hzero]
    · unfold ofWall? at h
      split at h
      · cases h
      · cases h
        rfl

/-! ## 2. What a conversion comes to -/

namespace Field

open Record

/-- **The conversion of a value to the type of a field comes to a time**: the value is that time, or
has a part in which the conversion of this part comes to it. -/
inductive ComesTo : Field → Value → DateTime → Prop where
  | time (name : Text) (nullable : Bool) (spareElement? : Option Field)
      (spareMembers? : Option (List Field)) (t : DateTime) :
      ComesTo (.scalar name nullable .timestamp spareElement? spareMembers?) (.dateTime t) t
  | item {name : Text} {nullable : Bool} {element : Field} {spareMembers? : Option (List Field)}
      {v x : Value} {xs : List Value} {t : DateTime} (hv : items? v = some xs) (hx : x ∈ xs)
      (h : ComesTo element x t) : ComesTo (.array name nullable element spareMembers?) v t
  | member {name : Text} {nullable : Bool} {members : List Field} {spareElement? : Option Field}
      {m : Field} {v w : Value} {es : List (Value × Value)} {t : DateTime}
      (hv : v.entries? = some es) (hm : m ∈ members) (hw : Value.lookup m.name es = some w)
      (h : ComesTo m w t) : ComesTo (.record name nullable members spareElement?) v t

/-! ## 3. Scalars -/

theorem scalar_halted {type : Scalar} {path : Text} {v : Value} {h : Halt}
    (hc : Record.scalar type path v = .error (.halted h)) :
    h = .outsideCalendar ∧ ∃ t, type = .timestamp ∧ v = .dateTime t ∧ t.IsOutside := by
  unfold Record.scalar at hc
  split at hc
  · next t =>
    split at hc
    · cases hc
    · next hnone =>
      cases hc
      exact ⟨rfl, t, rfl, rfl, DateTime.toUtc?_eq_none.mp hnone⟩
  · split at hc <;> cases hc

/-! ## 4. Parts -/

section Items

variable {convert : Text → Value → Converted} {path : Text}

/-- A walk over items breaks off at an item that cannot be converted. -/
theorem convertItems_error {r : Refusal} : ∀ {i : Nat} {xs : List Value},
    convertItems convert path i xs = .error r → ∃ x ∈ xs, ∃ p, convert p x = .error r
  | _, [], hc => by cases hc
  | i, x :: rest, hc => by
    unfold convertItems at hc
    rcases bind_error hc with hx | ⟨y, -, hc⟩
    · exact ⟨x, List.mem_cons_self, _, hx⟩
    · rcases bind_error hc with hrest | ⟨ys, -, hc⟩
      · obtain ⟨x', hx', p, hp⟩ := convertItems_error hrest
        exact ⟨x', List.mem_cons_of_mem _ hx', p, hp⟩
      · cases hc

theorem convertItems_ok : ∀ {i : Nat} {xs ys : List Value},
    convertItems convert path i xs = .ok ys → ∀ x ∈ xs, ∃ p y, convert p x = .ok y
  | _, [], _, _, x, hx => absurd hx List.not_mem_nil
  | i, x :: rest, ys, hc, x', hx' => by
    unfold convertItems at hc
    obtain ⟨y, hx, hc⟩ := bind_ok hc
    obtain ⟨zs, hrest, -⟩ := bind_ok hc
    rcases List.mem_cons.mp hx' with rfl | hx'
    · exact ⟨_, y, hx⟩
    · exact convertItems_ok hrest x' hx'

end Items

theorem convertAbsent_halted {f : Field} {path : Text} {h : Halt} :
    f.convertAbsent path ≠ .error (.halted h) := by
  unfold convertAbsent
  split <;> exact fun hc => by cases hc

theorem convertNull_halted {nullable : Bool} {path : Text} {h : Halt} :
    convert.convertNull nullable path ≠ .error (.halted h) := by
  unfold convert.convertNull
  split <;> exact fun hc => by cases hc

/-- The conversion of what a mapping has under the name of a field. -/
def convertAt (f : Field) (path : Text) (es : List (Value × Value)) : Converted :=
  match Value.lookup f.name es with
  | some w => f.convert path w
  | none => f.convertAbsent path

section At

variable {f : Field} {path : Text} {es : List (Value × Value)}

/-- Nothing is stopped by what is not there. -/
theorem convertAt_halted {h : Halt} (hc : f.convertAt path es = .error (.halted h)) :
    ∃ w, Value.lookup f.name es = some w ∧ f.convert path w = .error (.halted h) := by
  unfold convertAt at hc
  split at hc
  · next w hw => exact ⟨w, hw, hc⟩
  · exact absurd hc convertAbsent_halted

theorem convertAt_ok {w y : Value} (hc : f.convertAt path es = .ok y)
    (hw : Value.lookup f.name es = some w) : f.convert path w = .ok y := by
  unfold convertAt at hc
  rw [hw] at hc
  exact hc

end At

theorem convertMembers_cons (m : Field) (rest : List Field) (path : Text)
    (es : List (Value × Value)) :
    convert.convertMembers (m :: rest) path es =
      m.convertAt (memberPath path m.name) es >>= fun w =>
        convert.convertMembers rest path es >>= fun ws => pure ((m.name, w) :: ws) := by
  rw [convert.convertMembers]
  unfold convertAt
  cases Value.lookup m.name es <;> rfl

theorem convertMembers_ok : ∀ {members : List Field} {path : Text} {es : List (Value × Value)}
    {ws : List (Text × Value)}, convert.convertMembers members path es = .ok ws →
    ∀ m ∈ members, ∃ p y, m.convertAt p es = .ok y
  | [], _, _, _, _, m, hm => absurd hm List.not_mem_nil
  | member :: rest, path, es, ws, hc, m, hm => by
    rw [convertMembers_cons] at hc
    obtain ⟨y, hy, hc⟩ := bind_ok hc
    obtain ⟨ys, hrest, -⟩ := bind_ok hc
    rcases List.mem_cons.mp hm with rfl | hm
    · exact ⟨_, y, hy⟩
    · exact convertMembers_ok hrest m hm

/-! ## 5. Values -/

mutual

/-- **A conversion is stopped by a time outside the calendar only**, by induction on the field. -/
theorem convert_halted : ∀ (f : Field) {path : Text} {v : Value} {h : Halt},
    f.convert path v = .error (.halted h) →
      h = .outsideCalendar ∧ ∃ t, f.ComesTo v t ∧ t.IsOutside
  | .scalar name nullable type spareElement? spareMembers?, path, v, h, hc => by
    unfold convert at hc
    split at hc
    · exact absurd hc convertNull_halted
    · obtain ⟨hh, t, rfl, rfl, ht⟩ := scalar_halted hc
      exact ⟨hh, t, .time name nullable spareElement? spareMembers? t, ht⟩
  | .array name nullable element spareMembers?, path, v, h, hc => by
    unfold convert at hc
    split at hc
    · exact absurd hc convertNull_halted
    · split at hc
      · next xs hv =>
        cases hitems : convertItems (fun p x => element.convert p x) path 0 xs with
        | ok ys =>
          rw [hitems] at hc
          cases hc
        | error r =>
          rw [hitems] at hc
          cases hc
          obtain ⟨x, hx, p, hp⟩ := convertItems_error hitems
          obtain ⟨hh, t, hcomes, ht⟩ := convert_halted element hp
          exact ⟨hh, t, .item hv hx hcomes, ht⟩
      · cases hc
  | .record name nullable members spareElement?, path, v, h, hc => by
    unfold convert at hc
    split at hc
    · exact absurd hc convertNull_halted
    · split at hc
      · next es hv =>
        cases hmembers : convert.convertMembers members path es with
        | ok ws =>
          rw [hmembers] at hc
          cases hc
        | error r =>
          rw [hmembers] at hc
          cases hc
          obtain ⟨hh, m, hm, w, t, hw, hcomes, ht⟩ := convertMembers_halted members hmembers
          exact ⟨hh, t, .member hv hm hw hcomes, ht⟩
      · cases hc

theorem convertMembers_halted : ∀ (members : List Field) {path : Text}
    {es : List (Value × Value)} {h : Halt},
    convert.convertMembers members path es = .error (.halted h) →
      h = .outsideCalendar ∧ ∃ m ∈ members, ∃ w t, Value.lookup m.name es = some w ∧
        m.ComesTo w t ∧ t.IsOutside
  | [], _, _, _, hc => by cases hc
  | member :: rest, path, es, h, hc => by
    rw [convertMembers_cons] at hc
    rcases bind_error hc with hmember | ⟨y, -, hc⟩
    · obtain ⟨w, hw, hconvert⟩ := convertAt_halted hmember
      obtain ⟨hh, t, hcomes, ht⟩ := convert_halted member hconvert
      exact ⟨hh, member, List.mem_cons_self, w, t, hw, hcomes, ht⟩
    · rcases bind_error hc with hrest | ⟨ys, -, hc⟩
      · obtain ⟨hh, m, hm, found⟩ := convertMembers_halted rest hrest
        exact ⟨hh, m, List.mem_cons_of_mem _ hm, found⟩
      · cases hc

end

/-- **No time outside the calendar is converted**, by induction on the way to it. -/
theorem convert_ok {f : Field} {v : Value} {t : DateTime} (hcomes : f.ComesTo v t) :
    ∀ {path : Text} {w : Value}, f.convert path v = .ok w → ¬ t.IsOutside := by
  induction hcomes with
  | time name nullable spareElement? spareMembers? t =>
    intro path w hc ht
    have hnone := DateTime.toUtc?_eq_none.mpr ht
    unfold convert Record.scalar at hc
    simp only [Value.isNull, Bool.false_eq_true, if_false, hnone] at hc
    cases hc
  | item hv hx h ih =>
    intro path w hc
    rename_i element _ v x xs t
    have hnull : v.isNull = false := by cases v <;> cases hv <;> rfl
    unfold convert at hc
    rw [hnull, hv] at hc
    cases hitems : convertItems (fun p x => element.convert p x) path 0 xs with
    | error r =>
      simp only [Bool.false_eq_true, if_false, hitems] at hc
      cases hc
    | ok ys =>
      obtain ⟨p, y, hp⟩ := convertItems_ok hitems x hx
      exact ih hp
  | member hv hm hw h ih =>
    intro path w hc
    rename_i members _ m v w' es t
    have hnull : v.isNull = false := by cases v <;> cases hv <;> rfl
    unfold convert at hc
    rw [hnull, hv] at hc
    cases hmembers : convert.convertMembers members path es with
    | error r =>
      simp only [Bool.false_eq_true, if_false, hmembers] at hc
      cases hc
    | ok ys =>
      obtain ⟨p, y, hp⟩ := convertMembers_ok hmembers m hm
      exact ih (convertAt_ok hp hw)

end Field

/-! ## 6. Records -/

namespace Transformer

open Record

/-- The transformation of a record comes to a time: the conversion of one of its columns does. -/
def ComesTo (t : Transformer) (record : Value) (time : DateTime) : Prop :=
  ∃ f ∈ t.fields, ∃ w, record.member? f.name = some w ∧ f.ComesTo w time

section Columns

variable {es : List (Value × Value)}

theorem convertColumns_cons (f : Field) (rest : List Field) :
    convertColumns (fun name => .ok (Value.lookup name es)) (f :: rest) =
      f.convertAt f.name es >>= fun v =>
        convertColumns (fun name => .ok (Value.lookup name es)) rest >>= fun row =>
          pure ((f.name, v) :: row) := by
  rw [convertColumns]
  change (match Value.lookup f.name es with | some v => _ | none => _) = _
  unfold Field.convertAt
  cases Value.lookup f.name es <;> rfl

theorem convertColumns_halted {h : Halt} : ∀ {fs : List Field},
    convertColumns (fun name => .ok (Value.lookup name es)) fs = .error (.halted h) →
      h = .outsideCalendar ∧ ∃ f ∈ fs, ∃ w t, Value.lookup f.name es = some w ∧
        f.ComesTo w t ∧ t.IsOutside
  | [], hc => by cases hc
  | f :: rest, hc => by
    rw [convertColumns_cons] at hc
    rcases bind_error hc with hf | ⟨v, -, hc⟩
    · obtain ⟨w, hw, hconvert⟩ := Field.convertAt_halted hf
      obtain ⟨hh, t, hcomes, ht⟩ := Field.convert_halted f hconvert
      exact ⟨hh, f, List.mem_cons_self, w, t, hw, hcomes, ht⟩
    · rcases bind_error hc with hrest | ⟨row, -, hc⟩
      · obtain ⟨hh, f', hf', found⟩ := convertColumns_halted hrest
        exact ⟨hh, f', List.mem_cons_of_mem _ hf', found⟩
      · cases hc

theorem convertColumns_ok : ∀ {fs : List Field} {row : Row},
    convertColumns (fun name => .ok (Value.lookup name es)) fs = .ok row →
      ∀ f ∈ fs, ∃ v, f.convertAt f.name es = .ok v
  | [], _, _, f, hf => absurd hf List.not_mem_nil
  | f :: rest, row, hc, f', hf' => by
    rw [convertColumns_cons] at hc
    obtain ⟨v, hv, hc⟩ := bind_ok hc
    obtain ⟨row', hrest, -⟩ := bind_ok hc
    rcases List.mem_cons.mp hf' with rfl | hf'
    · exact ⟨v, hv⟩
    · exact convertColumns_ok hrest f' hf'

end Columns

section Transform

variable {t : Transformer} {record : Value}

/-- **A mapping stops the stream only by a time outside the calendar.** -/
theorem transform_halted {h : Halt} (hm : record.entries?.isSome = true)
    (ht : t.transform record = .error (.halted h)) :
    h = .outsideCalendar ∧ ∃ time, t.ComesTo record time ∧ time.IsOutside := by
  obtain ⟨es, hes⟩ := Option.isSome_iff_exists.mp hm
  unfold transform at ht
  rw [hes] at ht
  dsimp only at ht
  split at ht
  · cases ht
  · cases hcolumns : convertColumns (fun name => .ok (Value.lookup name es)) t.fields with
    | ok row =>
      rw [hcolumns] at ht
      cases ht
    | error r =>
      rw [hcolumns] at ht
      cases ht
      obtain ⟨hh, f, hf, w, time, hw, hcomes, houtside⟩ := convertColumns_halted hcolumns
      refine ⟨hh, time, ⟨f, hf, w, ?_, hcomes⟩, houtside⟩
      unfold Value.member?
      rw [hes]
      exact hw

/-- A mapping with a time outside the calendar does not become an operation. -/
theorem transform_ok {o : Operation} {time : DateTime} (ht : t.transform record = .ok o)
    (hcomes : t.ComesTo record time) : ¬ time.IsOutside := by
  obtain ⟨f, hf, w, hw, hcomes⟩ := hcomes
  unfold Value.member? at hw
  cases hes : record.entries? with
  | none =>
    rw [hes] at hw
    cases hw
  | some es =>
    rw [hes] at hw
    unfold transform at ht
    rw [hes] at ht
    dsimp only at ht
    split at ht
    · cases ht
    · cases hcolumns : convertColumns (fun name => .ok (Value.lookup name es)) t.fields with
      | error r =>
        rw [hcolumns] at ht
        cases ht
      | ok row =>
        obtain ⟨v, hv⟩ := convertColumns_ok hcolumns f hf
        exact Field.convert_ok hcomes (Field.convertAt_ok hv hw)

end Transform

/-! ## 7. Streams -/

/-- An outcome with the number of its record, as the transformation of that record gives it. -/
def Outcome.report (o : Outcome) : Nat × Except Refusal Operation :=
  (o.index, o.result.mapError .rejected)

/-- What the transformation of records gives, with their numbers, the first one being `i`. -/
def reports (t : Transformer) (i : Nat) (records : List Value) :
    List (Nat × Except Refusal Operation) :=
  (records.zipIdx i).map fun (record, n) => (n, t.transform record)

/-- **A stream yields the outcomes of its records in order**, of all of them or of those before the
one that stops it. -/
theorem transformAll_reports (t : Transformer) : ∀ (records : List Value) (i : Nat),
    ∃ done left, records = done ++ left ∧
      (t.transformAll i records).1.map Outcome.report = t.reports i done ∧
      match (t.transformAll i records).2 with
      | none => left = []
      | some h => ∃ record rest, left = record :: rest ∧ t.transform record = .error (.halted h)
  | [], i => ⟨[], [], rfl, rfl, rfl⟩
  | record :: rest, i => by
    obtain ⟨done, left, hrest, hreports, hhalt⟩ := transformAll_reports t rest (i + 1)
    have hcons : t.reports i (record :: done) =
        (i, t.transform record) :: t.reports (i + 1) done := rfl
    unfold transformAll
    cases ht : t.transform record with
    | ok o =>
      refine ⟨record :: done, left, by rw [hrest]; rfl, ?_, hhalt⟩
      rw [hcons, ht, ← hreports]
      rfl
    | error refusal =>
      cases refusal with
      | rejected r =>
        refine ⟨record :: done, left, by rw [hrest]; rfl, ?_, hhalt⟩
        rw [hcons, ht, ← hreports]
        rfl
      | halted h => exact ⟨[], record :: rest, rfl, rfl, record, rest, rfl, ht⟩

/-- **A bad record does not stop the stream, unless it holds a time outside the calendar.** Mappings
become operations or are rejected, and the stream yields one outcome for each of them, in order; it
stops only at a mapping in which the transformation comes to such a time, and such a mapping never
becomes an operation. -/
theorem transformAll_steady (t : Transformer) {records : List Value}
    (hm : ∀ record ∈ records, record.entries?.isSome = true) :
    ((∀ record ∈ records, ∀ time, t.ComesTo record time → ¬ time.IsOutside) →
      (∀ record ∈ records, (∃ o, t.transform record = .ok o) ∨
        ∃ r, t.transform record = .error (.rejected r)) ∧
      (t.transformAll 0 records).1.map Outcome.report = t.reports 0 records ∧
      (t.transformAll 0 records).2 = none) ∧
    (∀ h, (t.transformAll 0 records).2 = some h → h = .outsideCalendar ∧
      ∃ done record rest time, records = done ++ record :: rest ∧
        (t.transformAll 0 records).1.map Outcome.report = t.reports 0 done ∧
        t.ComesTo record time ∧ time.IsOutside) ∧
    ∀ record ∈ records, ∀ time o, t.ComesTo record time → time.IsOutside →
      t.transform record ≠ .ok o := by
  obtain ⟨done, left, hall, hreports, hhalt⟩ := transformAll_reports t records 0
  refine ⟨fun hinside => ?_, fun h hh => ?_, fun record _ time o hcomes hout ht =>
    transform_ok ht hcomes hout⟩
  · have hnever : ∀ record ∈ records, ∀ h, t.transform record ≠ .error (.halted h) := by
      intro record hrecord h ht
      obtain ⟨-, time, hcomes, hout⟩ := transform_halted (hm record hrecord) ht
      exact hinside record hrecord time hcomes hout
    refine ⟨fun record hrecord => ?_, ?_⟩
    · cases ht : t.transform record with
      | ok o => exact .inl ⟨o, rfl⟩
      | error refusal =>
        cases refusal with
        | rejected r => exact .inr ⟨r, rfl⟩
        | halted h => exact absurd ht (hnever record hrecord h)
    · cases hh : (t.transformAll 0 records).2 with
      | none =>
        rw [hh] at hhalt
        have hleft : left = [] := hhalt
        rw [hleft, List.append_nil] at hall
        rw [hall] at hreports ⊢
        exact ⟨hreports, rfl⟩
      | some h =>
        rw [hh] at hhalt
        obtain ⟨record, rest, rfl, ht⟩ := hhalt
        have hrecord : record ∈ records := by
          rw [hall]
          exact List.mem_append.mpr (.inr List.mem_cons_self)
        exact absurd ht (hnever record hrecord h)
  · rw [hh] at hhalt
    obtain ⟨record, rest, rfl, ht⟩ := hhalt
    have hrecord : record ∈ records := by
      rw [hall]
      exact List.mem_append.mpr (.inr List.mem_cons_self)
    obtain ⟨hcalendar, time, hcomes, hout⟩ := transform_halted (hm record hrecord) ht
    exact ⟨hcalendar, done, record, rest, time, hall, hreports, hcomes, hout⟩

/-- The first hour of the calendar, an hour ahead of UTC, stops the stream at the first of two
mappings. -/
theorem transformAll_steady_firstHour :
    let t : Transformer :=
      ⟨"t", ⟨[.ofScalar "id" false .int64, .ofScalar "ts" true .timestamp]⟩, ["id"], .insert⟩
    let early : DateTime := ⟨⟨1, 1, 1⟩, 0, 0, 0, 0, some 3600⟩
    let records : List Value :=
      [.ofPairs [("id", .int 1), ("ts", .dateTime early)], .ofPairs [("id", .int 2)]]
    (t.transformAll 0 records).2 = some .outsideCalendar ∧ (t.transformAll 0 records).1.length = 0 ∧
      ∃ record time, record ∈ records ∧ t.ComesTo record time ∧ time.IsOutside := by
  intro t early records
  have hmappings : ∀ record ∈ records, record.entries?.isSome = true := by decide +kernel
  have hstop : (t.transformAll 0 records).2 = some .outsideCalendar := by decide +kernel
  obtain ⟨-, hhalt, -⟩ := transformAll_steady t hmappings
  obtain ⟨-, done, record, rest, time, hall, -, hcomes, hout⟩ := hhalt _ hstop
  have hrecord : record ∈ records := by
    rw [hall]
    exact List.mem_append.mpr (.inr List.mem_cons_self)
  exact ⟨hstop, by decide +kernel, record, time, hrecord, hcomes, hout⟩

end Transformer

end Sluice
