import Sluice.Proofs.Record.Walk

/-!
# The first fault of a value

A value has places: itself, the items of its lists and the declared members of its mappings, at every
depth. Each place has a field that is declared there and a path that messages name it by. A place is
at fault when it holds null or nothing although its field demands a value, or when it holds something
that its field refuses as a whole.

Places are reached by numbers, those of items in a list and of members in the schema, and the order
of these ways (`<` on lists of numbers) is the order of the walk: a place comes before its parts, and
the parts of one before the parts of the next.

* `Place.Part`, `Place.Leads`: the parts of a place, and the ways to places further down;
* `Place.Fault`: **what can be wrong with a place**, and how it is reported;
* `Place.outcome_leads`, `Place.outcome_stops`: a conversion succeeds if no place on any way stops
  it, and otherwise fails as **the first place that does**;
* `Field.convertFrom_firstFault`: **a conversion is rejected for the first fault of its value**.
-/

namespace Sluice

open Record

/-! ## 1. Places -/

namespace Record

/-- A place in a value: the field that is declared there, its path, and what is there, if anything. -/
structure Place where
  field : Field
  path : Text
  value? : Option Value

namespace Place

/-- The place that a conversion starts from. -/
def start (f : Field) (path? : Option Text) (v : Value) : Place := ⟨f, f.startPath path?, some v⟩

/-- The conversion of what is at a place. -/
def outcome (p : Place) : Converted :=
  match p.value? with
  | some v => p.field.convert p.path v
  | none => p.field.convertAbsent p.path

/-- **The parts of a place**: the items of an array from left to right, the members of a record in
the order of its field, each under its number. -/
inductive Part : Place → Nat → Place → Prop where
  | item {name path : Text} {nullable : Bool} {element : Field} {members? : Option (List Field)}
      {v x : Value} {xs : List Value} {i : Nat} (hv : items? v = some xs) (hx : xs[i]? = some x) :
      Part ⟨.array name nullable element members?, path, some v⟩ i
        ⟨element, itemPath path i, some x⟩
  | member {name path : Text} {nullable : Bool} {members : List Field} {element? : Option Field}
      {v : Value} {m : Field} {es : List (Value × Value)} {i : Nat} (hv : v.entries? = some es)
      (hm : members[i]? = some m) :
      Part ⟨.record name nullable members element?, path, some v⟩ i
        ⟨m, memberPath path m.name, Value.lookup m.name es⟩

/-- **A place leads to another one** by the numbers of the parts on the way. -/
inductive Leads : Place → List Nat → Place → Prop where
  | here (p : Place) : Leads p [] p
  | part {p c q : Place} {i : Nat} {way : List Nat} (hc : p.Part i c) (h : Leads c way q) :
      Leads p (i :: way) q

/-- A part has a smaller field. -/
theorem Part.sizeOf_lt {p c : Place} {i : Nat} (h : p.Part i c) :
    sizeOf c.field < sizeOf p.field := by
  cases h with
  | item hv hx =>
    simp only [Field.array.sizeOf_spec]
    omega
  | member hv hm =>
    have hmember := List.sizeOf_lt_of_mem (List.mem_of_getElem? hm)
    simp only [Field.record.sizeOf_spec]
    omega

/-- A place has one part under each number. -/
theorem Part.unique {p c c' : Place} {i : Nat} (h : p.Part i c) (h' : p.Part i c') : c = c' := by
  cases h with
  | item hv hx =>
    cases h' with
    | item hv' hx' =>
      cases hv.symm.trans hv'
      cases hx.symm.trans hx'
      rfl
  | member hv hm =>
    cases h' with
    | member hv' hm' =>
      cases hv.symm.trans hv'
      cases hm.symm.trans hm'
      rfl

/-- Each way leads to one place. -/
theorem Leads.unique {p q q' : Place} {way : List Nat} (h : p.Leads way q) (h' : p.Leads way q') :
    q = q' := by
  induction h with
  | here p =>
    cases h'
    rfl
  | part hc _ ih =>
    cases h' with
    | part hc' h' => exact ih (hc.unique hc' ▸ h')

end Place

end Record

/-! ## 2. Faults -/

/-- **What a field refuses as a whole**: a value that its type has no conversion from, or one with
something in the way of it; for an array what is no list, for a record what is no mapping. -/
inductive Field.Refuses : Field → Value → Option Obstacle → Prop where
  | obstacle {name : Text} {nullable : Bool} {type : Scalar} {element? : Option Field}
      {members? : Option (List Field)} {v : Value} {obstacle : Obstacle}
      (h : scalar? type v = some (.error obstacle)) :
      Refuses (.scalar name nullable type element? members?) v (some obstacle)
  | kind {name : Text} {nullable : Bool} {type : Scalar} {element? : Option Field}
      {members? : Option (List Field)} {v : Value} (h : scalar? type v = none)
      (htime : type = .timestamp → ∀ t, v ≠ .dateTime t) :
      Refuses (.scalar name nullable type element? members?) v none
  | noItems {name : Text} {nullable : Bool} {element : Field} {members? : Option (List Field)}
      {v : Value} (h : items? v = none) : Refuses (.array name nullable element members?) v none
  | noEntries {name : Text} {nullable : Bool} {members : List Field} {element? : Option Field}
      {v : Value} (h : v.entries? = none) : Refuses (.record name nullable members element?) v none

namespace Record.Place

/-- **What can be wrong with a place**, and how it is reported: null or nothing where a value is
demanded, or a value that the field refuses. -/
inductive Fault : Place → Rejection → Prop where
  | null {f : Field} {path : Text} (h : f.nullable = false) :
      Fault ⟨f, path, some .null⟩ (.null path)
  | absent {f : Field} {path : Text} (h : f.nullable = false) :
      Fault ⟨f, path, none⟩ (.missingMember path)
  | refused {f : Field} {path : Text} {v : Value} {obstacle? : Option Obstacle}
      (hv : v.isNull = false) (h : f.Refuses v obstacle?) :
      Fault ⟨f, path, some v⟩ (.mismatch path f.typeName v.kindName obstacle?)

/-- What stops a conversion at a place: a fault, or a time outside the calendar. -/
inductive Stops : Place → Refusal → Prop where
  | fault {p : Place} {r : Rejection} (h : p.Fault r) : Stops p (.rejected r)
  | time {name path : Text} {nullable : Bool} {element? : Option Field}
      {members? : Option (List Field)} {t : DateTime} (h : t.IsOutside) :
      Stops ⟨.scalar name nullable .timestamp element? members?, path, some (.dateTime t)⟩
        (.halted .outsideCalendar)

variable {p c q : Place} {r : Refusal}

/-- What stops a conversion at a place is what the conversion ends with. -/
theorem Stops.outcome (h : p.Stops r) : p.outcome = .error r := by
  cases h with
  | time h =>
    have hnone := DateTime.toUtc?_eq_none.mpr h
    show Field.convert _ _ _ = _
    rw [Field.convert_scalar rfl]
    simp [Record.scalar, hnone]
  | fault h =>
    cases h with
    | null h =>
      show Field.convert _ _ _ = _
      rw [Field.convert_null, h]
      rfl
    | absent h =>
      show Field.convertAbsent _ _ = _
      unfold Field.convertAbsent
      rw [h]
      rfl
    | @refused f path v _ hv h =>
      show Field.convert _ _ _ = _
      cases h with
      | @obstacle _ _ type _ _ _ _ h =>
        have htime : type = .timestamp → ∀ t, v ≠ .dateTime t := by
          rintro rfl t rfl
          cases h
        rw [Field.convert_scalar hv, Field.scalar_eq htime, h]
        rfl
      | kind h htime =>
        rw [Field.convert_scalar hv, Field.scalar_eq htime, h]
        rfl
      | noItems h => exact Field.convert_noItems hv h
      | noEntries h => exact Field.convert_noEntries hv h

/-- A place with parts does not stop a conversion itself. -/
theorem Part.not_stops {i : Nat} (h : p.Part i c) : ¬ p.Stops r := by
  intro hstops
  cases h with
  | item hv hx =>
    cases hstops with
    | fault hfault =>
      cases hfault with
      | null => cases hv
      | refused _ hrefuses =>
        cases hrefuses with
        | noItems h => cases hv.symm.trans h
  | member hv hm =>
    cases hstops with
    | fault hfault =>
      cases hfault with
      | null => cases hv
      | refused _ hrefuses =>
        cases hrefuses with
        | noEntries h => cases hv.symm.trans h

/-! ## 3. From a place to its parts -/

theorem outcome_member {m : Field} {path : Text} {es : List (Value × Value)} :
    Place.outcome ⟨m, path, Value.lookup m.name es⟩ = m.convertAt path es := by
  unfold outcome Field.convertAt
  cases Value.lookup m.name es <;> rfl

/-- Where a conversion succeeds, that of each part does. -/
theorem Part.outcome_ok {i : Nat} {w : Value} (hc : p.Part i c) (h : p.outcome = .ok w) :
    ∃ w', c.outcome = .ok w' := by
  cases hc with
  | @item _ path _ _ _ v x xs i hv hx =>
    have hwalk : Field.convert _ path v = .ok w := h
    rw [Field.convert_array hv] at hwalk
    obtain ⟨ys, hys, -⟩ := map_ok hwalk
    have hmem : (x, i) ∈ xs.zipIdx := List.mem_zipIdx_iff_getElem?.mpr hx
    obtain ⟨y, -, hy⟩ := exists_of_mem_left (mapM_eq_ok.mp hys) hmem
    exact ⟨y, hy⟩
  | @member _ path _ _ _ v m es i hv hm =>
    have hwalk : Field.convert _ path v = .ok w := h
    rw [Field.convert_record hv] at hwalk
    obtain ⟨row, hrow, -⟩ := map_ok hwalk
    obtain ⟨e, -, he⟩ := exists_of_mem_left (mapM_eq_ok.mp hrow) (List.mem_of_getElem? hm)
    rw [Field.memberStep_eq_ok] at he
    exact ⟨e.2, outcome_member.trans he.2⟩

/-- The first part of a place whose conversion fails, and how it fails. -/
def FirstFailure (p : Place) (i : Nat) (c : Place) (r : Refusal) : Prop :=
  p.Part i c ∧ c.outcome = .error r ∧ ∀ j c', j < i → p.Part j c' → ∃ w, c'.outcome = .ok w

/-- A list whose conversion fails has a first item that does. -/
theorem outcome_items {name path : Text} {nullable : Bool} {element : Field}
    {members? : Option (List Field)} {v : Value} {xs : List Value} (hv : items? v = some xs)
    (h : (Field.array name nullable element members?).convert path v = .error r) :
    ∃ i c, FirstFailure ⟨.array name nullable element members?, path, some v⟩ i c r := by
  rw [Field.convert_array hv] at h
  obtain ⟨i, item, hitem, hfails, hbefore⟩ := mapM_eq_error (map_error h)
  rw [List.getElem?_zipIdx, Nat.zero_add] at hitem
  obtain ⟨x, hx, rfl⟩ := Option.map_eq_some_iff.mp hitem
  refine ⟨i, ⟨element, itemPath path i, some x⟩, .item hv hx, hfails, fun j c' hj hc' => ?_⟩
  cases hc' with
  | @item _ _ _ _ _ _ y ys _ hv' hy =>
    cases hv.symm.trans hv'
    refine hbefore j (y, j) hj ?_
    rw [List.getElem?_zipIdx, hy, Nat.zero_add]
    rfl

/-- A mapping whose conversion fails has a first declared member that does. -/
theorem outcome_members {name path : Text} {nullable : Bool} {members : List Field}
    {element? : Option Field} {v : Value} {es : List (Value × Value)} (hv : v.entries? = some es)
    (h : (Field.record name nullable members element?).convert path v = .error r) :
    ∃ i c, FirstFailure ⟨.record name nullable members element?, path, some v⟩ i c r := by
  rw [Field.convert_record hv] at h
  obtain ⟨i, m, hm, hfails, hbefore⟩ := mapM_eq_error (map_error h)
  refine ⟨i, ⟨m, memberPath path m.name, Value.lookup m.name es⟩, .member hv hm,
    outcome_member.trans (map_error hfails), fun j c' hj hc' => ?_⟩
  cases hc' with
  | @member _ _ _ _ _ _ m' es' _ hv' hm' =>
    cases hv.symm.trans hv'
    obtain ⟨e, he⟩ := hbefore j m' hj hm'
    rw [Field.memberStep_eq_ok] at he
    exact ⟨e.2, outcome_member.trans he.2⟩

/-- A scalar is converted as a whole or stops the conversion. -/
theorem Stops.scalar {name path : Text} {nullable : Bool} {type : Scalar} {element? : Option Field}
    {members? : Option (List Field)} {v : Value} (hnull : v.isNull = false)
    (h : (Field.scalar name nullable type element? members?).convert path v = .error r) :
    Stops ⟨.scalar name nullable type element? members?, path, some v⟩ r := by
  rw [Field.convert_scalar hnull] at h
  by_cases htime : type = .timestamp ∧ ∃ t, v = .dateTime t
  · obtain ⟨rfl, t, rfl⟩ := htime
    simp only [Record.scalar] at h
    split at h
    · cases h
    · next hnone =>
      cases h
      exact .time (DateTime.toUtc?_eq_none.mp hnone)
  · have hother : type = .timestamp → ∀ t, v ≠ .dateTime t :=
      fun htype t ht => htime ⟨htype, t, ht⟩
    rw [Field.scalar_eq hother] at h
    split at h
    · cases h
    · next obstacle hobstacle =>
      cases h
      exact .fault (.refused hnull (.obstacle hobstacle))
    · next hnone =>
      cases h
      exact .fault (.refused hnull (.kind hnone hother))

/-- **A conversion that fails is stopped at its place or in the first part that fails.** -/
theorem outcome_error (h : p.outcome = .error r) : p.Stops r ∨ ∃ i c, p.FirstFailure i c r := by
  obtain ⟨f, path, _ | v⟩ := p
  · have habsent : f.convertAbsent path = .error r := h
    unfold Field.convertAbsent at habsent
    split at habsent
    · cases habsent
    · next hnullable =>
      cases habsent
      exact .inl (.fault (.absent (Bool.eq_false_iff.mpr hnullable)))
  · have hfails : f.convert path v = .error r := h
    cases hnull : v.isNull with
    | true =>
      cases v <;> cases hnull
      rw [Field.convert_null] at hfails
      unfold Field.convert.convertNull at hfails
      split at hfails
      · cases hfails
      · next hnullable =>
        cases hfails
        exact .inl (.fault (.null (Bool.eq_false_iff.mpr hnullable)))
    | false =>
      cases f with
      | scalar name nullable type element? members? => exact .inl (.scalar hnull hfails)
      | array name nullable element members? =>
        cases hv : items? v with
        | none =>
          rw [Field.convert_noItems hnull hv] at hfails
          cases hfails
          exact .inl (.fault (.refused hnull (.noItems hv)))
        | some xs => exact .inr (outcome_items hv hfails)
      | record name nullable members element? =>
        cases hv : v.entries? with
        | none =>
          rw [Field.convert_noEntries hnull hv] at hfails
          cases hfails
          exact .inl (.fault (.refused hnull (.noEntries hv)))
        | some es => exact .inr (outcome_members hv hfails)

/-! ## 4. From a place to all places -/

/-- Where a conversion succeeds, that of each place further down does. -/
theorem outcome_leads {way : List Nat} (hleads : p.Leads way q) :
    ∀ {w : Value}, p.outcome = .ok w → ∃ w', q.outcome = .ok w' := by
  induction hleads with
  | here p => exact fun {w} h => ⟨w, h⟩
  | part hc _ ih =>
    intro w h
    obtain ⟨w', hw'⟩ := hc.outcome_ok h
    exact ih hw'

/-- **A conversion that fails is stopped at the first place that stops it.** The walk goes down from
each place to its first part that fails; the parts in front of that one succeed, so nothing is in the
way of them. -/
theorem outcome_stops {p : Place} {r : Refusal} (h : p.outcome = .error r) :
    ∃ way q, p.Leads way q ∧ q.Stops r ∧
      ∀ way' < way, ∀ q' r', p.Leads way' q' → ¬ q'.Stops r' := by
  rcases outcome_error h with hstops | ⟨i, c, hc, hfails, hbefore⟩
  · exact ⟨[], p, .here p, hstops, fun way' hway' => absurd hway' (List.not_lt_nil way')⟩
  · have hsmaller := hc.sizeOf_lt
    obtain ⟨way, q, hleads, hstops, hfirst⟩ := outcome_stops hfails
    refine ⟨i :: way, q, .part hc hleads, hstops, fun way' hway' q' r' hleads' hstops' => ?_⟩
    cases hleads' with
    | here => exact hc.not_stops hstops'
    | @part _ c' _ j way' hc' hleads' =>
      rw [List.cons_lt_cons_iff] at hway'
      rcases hway' with hj | ⟨rfl, hlt⟩
      · obtain ⟨w, hw⟩ := hbefore j c' hj hc'
        obtain ⟨w', hw'⟩ := outcome_leads hleads' hw
        cases hw'.symm.trans hstops'.outcome
      · cases hc.unique hc'
        exact hfirst way' hlt q' r' hleads' hstops'
termination_by sizeOf p.field

/-- A fault is reported under the path of its place. -/
theorem Fault.path_eq {r : Rejection} (h : p.Fault r) : r.path = p.path := by
  cases h <;> rfl

end Record.Place

/-! ## 5. The first fault -/

namespace Field

/-- **A conversion is rejected for the first fault of its value.** For every field and value, and
every path to start from, unless a time outside the calendar ends the conversion: it fails exactly if
some place of the value is at fault; and it is rejected for what is wrong with a place in front of
which no place is at fault, and reported under the path of that place. -/
theorem convertFrom_firstFault (f : Field) (path? : Option Text) (v : Value)
    (hsteady : ∀ h, f.convertFrom path? v ≠ .error (.halted h)) :
    ((∃ r, f.convertFrom path? v = .error r) ↔
      ∃ way q r, (Place.start f path? v).Leads way q ∧ q.Fault r) ∧
      ∀ r, f.convertFrom path? v = .error (.rejected r) ↔
        ∃ way q, (Place.start f path? v).Leads way q ∧ q.Fault r ∧ r.failure.place? = some q.path ∧
          ∀ way' < way, ∀ q' r', (Place.start f path? v).Leads way' q' → ¬ q'.Fault r' := by
  have hstart : (Place.start f path? v).outcome = f.convertFrom path? v := rfl
  rw [← hstart] at hsteady ⊢
  generalize Place.start f path? v = p at hsteady ⊢
  -- what stops the conversion is a fault
  have hfirst : ∀ r, p.outcome = .error r → ∃ r' way q, r = .rejected r' ∧ p.Leads way q ∧
      q.Fault r' ∧ ∀ way' < way, ∀ q' r', p.Leads way' q' → ¬ q'.Fault r' := by
    intro r hr
    obtain ⟨way, q, hleads, hstops, hfirst⟩ := Place.outcome_stops hr
    cases hstops with
    | time => exact absurd hr (hsteady _)
    | fault hfault =>
      exact ⟨_, way, q, rfl, hleads, hfault, fun way' hway' q' r' hleads' hfault' =>
        hfirst way' hway' q' (.rejected r') hleads' (.fault hfault')⟩
  have hfails : ∀ way q r, p.Leads way q → q.Fault r → ∃ r', p.outcome = .error r' := by
    intro way q r hleads hfault
    cases hr : p.outcome with
    | error r' => exact ⟨r', rfl⟩
    | ok w =>
      obtain ⟨w', hw'⟩ := Place.outcome_leads hleads hr
      cases hw'.symm.trans (Place.Stops.fault hfault).outcome
  refine ⟨⟨?_, fun ⟨way, q, r, hleads, hfault⟩ => hfails way q r hleads hfault⟩, fun r => ⟨?_, ?_⟩⟩
  · rintro ⟨r, hr⟩
    obtain ⟨r', way, q, -, hleads, hfault, -⟩ := hfirst r hr
    exact ⟨way, q, r', hleads, hfault⟩
  · intro hr
    obtain ⟨r', way, q, heq, hleads, hfault, hle⟩ := hfirst _ hr
    cases heq
    exact ⟨way, q, hleads, hfault, congrArg some hfault.path_eq, hle⟩
  · rintro ⟨way, q, hleads, hfault, -, hbefore⟩
    obtain ⟨r', hr'⟩ := hfails way q r hleads hfault
    obtain ⟨r'', way', q', rfl, hleads', hfault', hbefore'⟩ := hfirst r' hr'
    -- neither of the two places comes before the other one
    have hle : ¬ way' < way := fun hlt => hbefore way' hlt q' r'' hleads' hfault'
    have hge : ¬ way < way' := fun hlt => hbefore' way hlt q r hleads hfault
    have hway : way = way' := List.le_antisymm (List.not_lt.mp hle) (List.not_lt.mp hge)
    subst hway
    cases hleads.unique hleads'
    have hsame := (Place.Stops.fault hfault).outcome.symm.trans (Place.Stops.fault hfault').outcome
    cases hsame
    exact hr'

/-- A list of mappings with three faults, of which the one of the second item's first member is
reported. -/
theorem convertFrom_firstFault_rows :
    let f : Field := .array "rows" true
      (.record "element" false [.ofScalar "n" false .int64, .ofScalar "s" true .string] none) none
    let v : Value := .list [.ofPairs [("n", .int 1)], .ofPairs [("s", .int 5)], .null]
    f.convertFrom none v = .error (.rejected (.missingMember "rows[1].n")) ∧
      ∃ way q, (Place.start f none v).Leads way q ∧ q.Fault (.missingMember "rows[1].n") ∧
        q.path = "rows[1].n" := by
  intro f v
  have hv : f.convertFrom none v = .error (.rejected (.missingMember "rows[1].n")) := rfl
  have hsteady : ∀ h, f.convertFrom none v ≠ .error (.halted h) := by
    rw [hv]
    exact fun h hhalted => by cases hhalted
  obtain ⟨-, hreported⟩ := convertFrom_firstFault f none v hsteady
  obtain ⟨way, q, hleads, hfault, -, -⟩ := (hreported _).mp hv
  exact ⟨hv, way, q, hleads, hfault, hfault.path_eq.symm⟩

end Field

end Sluice
