import Sluice.Arrow.Table
import Sluice.Proofs.Arrow.Numbers
import Sluice.Proofs.Record.Walk

/-!
# Columns and what they are aligned to

A schema is gone through field by field. Each field touches one column at most, the first one with
its name, and casts it as a whole or not at all. Since no two fields have the same name, no column
is touched twice.

* `replace_getElem?`, `alignField_getElem?`, `alignFields_getElem?`: **what becomes of the column at
  a position**, for one field and for all of them;
* `Converted`: what becomes of a number;
* `align_numbers`: **a column of numbers is left as it was read, or every number of it is kept**,
  except where doubles become decimals and where decimals become doubles.
-/

namespace Sluice.Arrow

/-! ## 1. Columns -/

/-- A column as a field wants it, if it can be cast to that. -/
def Column.under (f : Field) (c : Column) : Column :=
  match Column.wanted? f with
  | none => c
  | some target =>
    match c.castTo target with
    | .ok new => new
    | .error _ => c

/-- A column as the first field with its name wants it. -/
def Column.aligned (fields : List Field) (c : Column) : Column :=
  match fields.find? fun f => f.name == c.name with
  | some f => c.under f
  | none => c

namespace Column

variable {c new : Column} {target : Scalar}

theorem castTo_eq_ok (h : c.castTo target = .ok new) :
    new = c ∨ ∃ f cells, conversion? target c.type = some f ∧
      c.cells.mapM (convertCell f) = .ok cells ∧
      new = { c with type := target.toArrow, cells } := by
  unfold castTo at h
  split at h
  · exact .inl (Except.ok.inj h).symm
  · obtain ⟨cells, hcells, rfl⟩ := map_ok h
    unfold convert at hcells
    split at hcells
    · cases hcells
    · next f hf => exact .inr ⟨f, cells, hf, hcells, rfl⟩

theorem castTo_name (h : c.castTo target = .ok new) : new.name = c.name := by
  rcases castTo_eq_ok h with rfl | ⟨f, cells, -, -, rfl⟩ <;> rfl

theorem under_name (f : Field) (c : Column) : (c.under f).name = c.name := by
  unfold under
  split
  · rfl
  · split
    · next hnew => exact castTo_name hnew
    · rfl

/-- A column is left as it is, or cast to what the first field with its name wants. -/
theorem aligned_cases (s : Schema) (c : Column) : c.aligned s.fields = c ∨
    ∃ f target, s.field? c.name = some f ∧ wanted? f = some target ∧
      c.castTo target = .ok (c.aligned s.fields) := by
  unfold aligned Schema.field?
  cases hf : s.fields.find? fun f => f.name == c.name with
  | none => exact .inl rfl
  | some f =>
    dsimp only
    unfold under
    cases hwanted : wanted? f with
    | none => exact .inl rfl
    | some target =>
      dsimp only
      cases hnew : c.castTo target with
      | error fault => exact .inl rfl
      | ok new => exact .inr ⟨f, target, rfl, hwanted, hnew⟩

/-- A cast that can be made is made. -/
theorem aligned_of_castTo {s : Schema} {f : Field} (hf : s.field? c.name = some f)
    (hwanted : wanted? f = some target) (hnew : c.castTo target = .ok new) :
    c.aligned s.fields = new := by
  unfold Schema.field? at hf
  unfold aligned under
  simp only [hf, hwanted, hnew]

/-- The first field with the name of a column decides. -/
theorem aligned_cons (f : Field) (rest : List Field) (c : Column) :
    c.aligned (f :: rest) = if f.name = c.name then c.under f else c.aligned rest := by
  unfold aligned
  by_cases hname : f.name = c.name
  · rw [if_pos hname, List.find?_cons_of_pos (by simpa using hname)]
  · rw [if_neg hname, List.find?_cons_of_neg (by simpa using hname)]

theorem aligned_of_notMem {fields : List Field} (h : c.name ∉ fields.map Field.name) :
    c.aligned fields = c := by
  induction fields with
  | nil => rfl
  | cons f rest ih =>
    obtain ⟨hf, hrest⟩ := not_or.mp (mt List.mem_cons.mpr h)
    rw [aligned_cons, if_neg (Ne.symm hf), ih hrest]

end Column

/-! ## 2. Positions -/

namespace Table

/-- The names of the columns. -/
def columnNames (columns : List Column) : List Text := columns.map Column.name

/-- Replacing a column touches the first one with its name. -/
theorem replace_getElem? (new : Column) (columns : List Column) (i : ℕ) :
    (replace new columns)[i]? = columns[i]?.map fun c =>
      if c.name = new.name ∧ c.name ∉ columnNames (columns.take i) then new else c := by
  induction columns generalizing i with
  | nil => rfl
  | cons c rest ih =>
    unfold replace
    by_cases hname : c.name = new.name
    · rw [if_pos hname]
      cases i with
      | zero => simp [hname, columnNames]
      | succ i =>
        -- no column behind the replaced one is the first with its name
        have hlater : ∀ x : Column,
            ¬ (x.name = new.name ∧ x.name ∉ columnNames ((c :: rest).take (i + 1))) := by
          rintro x ⟨hx, hfirst⟩
          exact hfirst (List.mem_cons.mpr (.inl (hx.trans hname.symm)))
        rw [List.getElem?_cons_succ, List.getElem?_cons_succ]
        cases rest[i]? with
        | none => rfl
        | some x => exact congrArg some (if_neg (hlater x)).symm
    · rw [if_neg hname]
      cases i with
      | zero => simp [hname]
      | succ i =>
        rw [List.getElem?_cons_succ, List.getElem?_cons_succ, ih]
        refine Option.map_congr fun x _ => ?_
        refine if_congr ?_ rfl rfl
        refine and_congr_right fun hx => not_congr ?_
        have hne : x.name ≠ c.name := fun heq => hname (heq.symm.trans hx)
        simp [columnNames, hne]

/-- The first column with a name is the one that is found by it. -/
theorem find?_first {columns : List Column} {i : ℕ} {c : Column} (hc : columns[i]? = some c)
    (hfirst : c.name ∉ columnNames (columns.take i)) :
    columns.find? (fun x => x.name == c.name) = some c := by
  induction columns generalizing i with
  | nil => cases hc
  | cons x rest ih =>
    cases i with
    | zero =>
      cases hc
      exact List.find?_cons_of_pos (beq_self_eq_true _)
    | succ i =>
      obtain ⟨hx, hrest⟩ := not_or.mp (mt List.mem_cons.mpr hfirst)
      rw [List.find?_cons_of_neg (by simpa using Ne.symm hx)]
      exact ih hc hrest

/-- Replacing a column by itself changes nothing. -/
theorem replace_self {columns : List Column} {name : Text} {c : Column}
    (hc : columns.find? (fun x => x.name == name) = some c) : replace c columns = columns := by
  have hname : c.name = name := by simpa using List.find?_some hc
  subst hname
  refine List.ext_getElem? fun i => ?_
  rw [replace_getElem?]
  cases hx : columns[i]? with
  | none => rfl
  | some x =>
    refine congrArg some ?_
    dsimp only
    split
    · next hfirst =>
      have hfound := find?_first hx hfirst.2
      rw [hfirst.1, hc] at hfound
      exact Option.some.inj hfound
    · rfl

/-- A field replaces the first column with its name by what the field wants. -/
theorem alignField_columns (t : Table) (f : Field) :
    (t.alignField f).1.columns = match t.column? f.name with
      | some c => replace (c.under f) t.columns
      | none => t.columns := by
  unfold alignField Column.under
  cases hc : t.column? f.name with
  | none => cases Column.wanted? f <;> rfl
  | some c =>
    cases Column.wanted? f with
    | none => exact (replace_self hc).symm
    | some target =>
      dsimp only
      cases c.castTo target with
      | ok new => rfl
      | error fault => exact (replace_self hc).symm

/-- **A field touches the first column with its name**, and no other. -/
theorem alignField_getElem? (t : Table) (f : Field) (i : ℕ) :
    (t.alignField f).1.columns[i]? = t.columns[i]?.map fun c =>
      if c.name = f.name ∧ c.name ∉ columnNames (t.columns.take i) then c.under f else c := by
  rw [alignField_columns]
  cases hc : t.columns[i]? with
  | none =>
    split
    · rw [replace_getElem?, hc]
      rfl
    · exact hc
  | some c =>
    rw [Option.map_some]
    by_cases hfirst : c.name = f.name ∧ c.name ∉ columnNames (t.columns.take i)
    · have hfind : t.column? f.name = some c := by
        rw [← hfirst.1]
        exact find?_first hc hfirst.2
      rw [hfind, if_pos hfirst]
      dsimp only
      rw [replace_getElem?, hc, Option.map_some, Column.under_name, if_pos ⟨rfl, hfirst.2⟩]
    · rw [if_neg hfirst]
      split
      · next found hfind =>
        have hname : found.name = f.name := by simpa using List.find?_some hfind
        rw [replace_getElem?, hc, Option.map_some, Column.under_name, hname, if_neg hfirst]
      · exact hc

theorem alignField_names (t : Table) (f : Field) :
    columnNames (t.alignField f).1.columns = columnNames t.columns := by
  refine List.ext_getElem? fun i => ?_
  unfold columnNames
  rw [List.getElem?_map, List.getElem?_map, alignField_getElem?, Option.map_map]
  refine congrFun (congrArg Option.map (funext fun c => ?_)) _
  rw [Function.comp_apply]
  split
  · exact Column.under_name f c
  · rfl

/-- **What becomes of the column at a position** when all fields are gone through: it is what the
field with its name wants, if it is the first one with that name. -/
theorem alignFields_getElem? {fields : List Field} (hfields : (fields.map Field.name).Nodup)
    (t : Table) (i : ℕ) :
    (alignFields fields t).1.columns[i]? = t.columns[i]?.map fun c =>
      if c.name ∉ columnNames (t.columns.take i) then c.aligned fields else c := by
  induction fields generalizing t with
  | nil =>
    cases ht : t.columns[i]? with
    | none => exact ht
    | some c =>
      rw [Option.map_some]
      exact ht.trans (congrArg some (ite_self c).symm)
  | cons f rest ih =>
    obtain ⟨hf, hrest⟩ := List.nodup_cons.mp hfields
    have hnames : columnNames ((t.alignField f).1.columns.take i) =
        columnNames (t.columns.take i) := by
      unfold columnNames
      rw [List.map_take, List.map_take]
      exact congrArg (List.take i) (alignField_names t f)
    have hstep : (alignFields (f :: rest) t).1.columns =
        (alignFields rest (t.alignField f).1).1.columns := rfl
    rw [hstep, ih hrest, alignField_getElem?, Option.map_map, hnames]
    refine congrFun (congrArg Option.map (funext fun c => ?_)) _
    rw [Function.comp_apply]
    generalize columnNames (t.columns.take i) = seen
    by_cases hfirst : c.name ∈ seen
    · have hnone : ¬ (c.name = f.name ∧ c.name ∉ seen) := fun h => h.2 hfirst
      rw [if_neg hnone, if_neg (not_not.mpr hfirst), if_neg (not_not.mpr hfirst)]
    · rw [if_pos hfirst, Column.aligned_cons]
      by_cases hname : c.name = f.name
      · -- no later field has the name
        have hlater : (c.under f).name ∉ rest.map Field.name := by
          rwa [Column.under_name, hname]
        have hboth : c.name = f.name ∧ c.name ∉ seen := ⟨hname, hfirst⟩
        rw [if_pos hboth, Column.under_name, if_pos hfirst, if_pos hname.symm,
          Column.aligned_of_notMem hlater]
      · have hnone : ¬ (c.name = f.name ∧ c.name ∉ seen) := fun h => hname h.1
        rw [if_neg hnone, if_pos hfirst, if_neg (Ne.symm hname)]

end Table

/-! ## 3. Numbers -/

/-- **What becomes of a cell** in a column of numbers: it stays null, or the number that it is. Of
the two casts that round it is known which numbers stay the same; a double is moved by half a unit
of the last place at most. -/
structure Converted (source : DataType) (target : Scalar) (v w : Value) : Prop where
  isNull_eq : w.isNull = v.isNull
  same : rounds source target = false → v.SameNumber w
  float : ∀ bits x, source = .float bits → target = .numeric → v = .float x →
    x.isFinite = true ∧ (∃ r, w.Holds r ∧ |r - x.value| ≤ 1 / (2 * 10 ^ numericScale)) ∧
      (v.SameNumber w ↔ ∃ n : ℤ, x.value * 10 ^ numericScale = n)
  decimal : ∀ bits precision scale negative c e, source = .decimal bits precision scale →
    target = .double → v = .decimal (.finite negative c e) →
      (v.SameNumber w ↔ IsDouble (signed negative c * 10 ^ e))

/-- The two casts that round. -/
theorem rounds_eq_true {source : DataType} {target : Scalar} (h : rounds source target = true) :
    (∃ bits, source = .float bits ∧ target = .numeric) ∨
      ∃ bits precision scale, source = .decimal bits precision scale ∧ target = .double := by
  unfold rounds at h
  split at h
  · exact .inl ⟨_, rfl, rfl⟩
  · exact .inr ⟨_, _, _, rfl, rfl⟩
  · cases h

section Cells

variable {source : DataType} {target : Scalar} {f : Conversion} {v w : Value}

/-- A cast that rounds makes no number null. -/
theorem isNull_of_rounds (hf : conversion? target source = some f)
    (hrounds : rounds source target = true) (hv : v.isNull = false) (h : f v = .ok w) :
    w.isNull = false := by
  rcases rounds_eq_true hrounds with ⟨bits, rfl, rfl⟩ | ⟨bits, precision, scale, rfl, rfl⟩
  · cases v with
    | float x =>
      obtain ⟨-, ⟨r, hr, -⟩, -⟩ := conversion?_float hf h
      exact hr.isNull_eq_false
    | _ =>
      rw [conversion?_float_apply hf] at h
      cases h
      exact hv
  · cases hf
    cases v with
    | decimal d =>
      cases h
      split <;> rfl
    | _ =>
      cases h
      exact hv

/-- **What becomes of a cell** when its column is cast from numbers to numbers. -/
theorem convertCell_converted (hf : conversion? target source = some f)
    (hsource : source.isNumeric = true) (htarget : target.isNumeric = true)
    (h : convertCell f v = .ok w) : Converted source target v w := by
  unfold convertCell at h
  cases hnull : v.isNull with
  | true =>
    cases v with
    | null =>
      cases h
      exact ⟨rfl, fun _ => .inl rfl, fun _ _ _ _ hx => (by cases hx),
        fun _ _ _ _ _ _ _ _ hd => (by cases hd)⟩
    | _ => cases hnull
  | false =>
    rw [hnull, if_neg Bool.false_ne_true] at h
    have hsame : rounds source target = false → v.SameNumber w := fun hrounds =>
      conversion?_keeps hf hsource htarget hrounds h
    refine ⟨?_, hsame, ?_, ?_⟩
    · rw [hnull]
      cases hrounds : rounds source target with
      | true => exact isNull_of_rounds hf hrounds hnull h
      | false => rw [(hsame hrounds).isNull_eq, hnull]
    · rintro bits x rfl rfl rfl
      exact conversion?_float hf h
    · rintro bits precision scale negative c e rfl rfl rfl
      exact conversion?_decimal hf h

end Cells

/-! ## 4. Tables -/

/-- A column of numbers is left as it is, or all of its cells are converted. -/
theorem Column.castTo_converted {c new : Column} {target : Scalar}
    (hsource : c.type.isNumeric = true) (h : c.castTo target = .ok new) :
    new = c ∨ new.type = target.toArrow ∧ (target.isNumeric = true →
      List.Forall₂ (Converted c.type target) c.cells new.cells) := by
  rcases castTo_eq_ok h with rfl | ⟨f, cells, hf, hcells, rfl⟩
  · exact .inl rfl
  · refine .inr ⟨rfl, fun htarget => ?_⟩
    exact (mapM_eq_ok.mp hcells).imp fun v w hvw => convertCell_converted hf hsource htarget hvw

/-- **Aligning a table leaves a column of numbers as it was read, or keeps each number of it.** The
first column with the name of a field is cast if it can be, and then as a whole. Whole numbers of
any width stay the same numbers, and so do doubles and decimals that become whole numbers or stay
what they are. Doubles that become decimals are rounded, and so are decimals that become doubles:
such a cell is the same number as before if and only if its value has no more than nine places, or
is a number of double precision. -/
theorem Table.align_numbers (t : Table) {s : Schema} (hs : s.names.Nodup) {i : ℕ} {c : Column}
    (hc : t.columns[i]? = some c) (hnumeric : c.type.isNumeric = true) :
    ∃ c', (t.align s).1.columns[i]? = some c' ∧ c'.name = c.name ∧
      (∀ f target new, s.field? c.name = some f → Column.wanted? f = some target →
        c.castTo target = .ok new → c.name ∉ columnNames (t.columns.take i) → c' = new) ∧
      (c' = c ∨ ∃ f target, s.field? c.name = some f ∧ Column.wanted? f = some target ∧
        c'.type = target.toArrow ∧ (target.isNumeric = true →
          List.Forall₂ (Converted c.type target) c.cells c'.cells)) := by
  have hposition := alignFields_getElem? hs t i
  rw [hc, Option.map_some] at hposition
  refine ⟨_, hposition, ?_⟩
  split
  · rcases Column.aligned_cases s c with hsame | ⟨f, target, hf, hwanted, hnew⟩
    · exact ⟨congrArg Column.name hsame,
        fun f target new hf hwanted hnew _ => Column.aligned_of_castTo hf hwanted hnew, .inl hsame⟩
    · refine ⟨Column.castTo_name hnew,
        fun f target new hf hwanted hnew _ => Column.aligned_of_castTo hf hwanted hnew, ?_⟩
      rcases Column.castTo_converted hnumeric hnew with hsame | ⟨htype, hcells⟩
      · exact .inl hsame
      · exact .inr ⟨f, target, hf, hwanted, htype, hcells⟩
  · next hlater => exact ⟨rfl, fun _ _ _ _ _ _ hfirst => absurd hfirst hlater, .inl rfl⟩

/-- One in 1024 has ten places, and loses the last of them. -/
theorem align_numbers_ten_places :
    let x : Binary64 := ⟨false, ⟨1013 * 2 ^ 52, by decide⟩⟩
    let w : Value := .decimal (.finite false 976562 (-9))
    let t : Table := ⟨[⟨"n", .float 64, [.float x, .null]⟩], 2⟩
    let s : Schema := ⟨[.ofScalar "n" true .numeric]⟩
    s.names.Nodup ∧ (t.align s).1.columns = [⟨"n", Scalar.numeric.toArrow, [w, .null]⟩] ∧
      x.value = 1 / 2 ^ 10 ∧ ¬ (Value.float x).SameNumber w := by
  intro x w t s
  have hs : s.names.Nodup := by decide
  have hround : roundToPlaces x = .ok w := by
    have hunits : Number.roundHalfEven (x.units * Nat.pow 10 numericScale) (Nat.pow 2 1074) =
        976562 := by decide +kernel
    have hfinite : x.isFinite = true := by decide +kernel
    have hfew : 976562 < Nat.pow 10 numericPrecision := by decide +kernel
    unfold roundToPlaces
    rw [hfinite, if_neg (by decide)]
    dsimp only
    rw [hunits, if_pos hfew]
    rfl
  have hvalue : x.value = 1 / 2 ^ 10 := by
    have hscaled : x.scaled = 2 ^ 1064 := by decide +kernel
    have hpow : (2 : ℚ) ^ 1074 = 2 ^ 1064 * 2 ^ 10 := by rw [← pow_add]
    unfold Binary64.value
    rw [hscaled, hpow, Int.cast_pow, Int.cast_ofNat, div_mul_eq_div_div, div_self (by positivity)]
  clear_value x
  have hcells : convert .numeric (.float 64) [.float x, .null] = .ok [w, .null] := by
    change List.mapM (convertCell _) [.float x, .null] = _
    rw [List.mapM_cons]
    change (do
      let y ← roundToPlaces x
      return y :: (← List.mapM (convertCell _) [Value.null])) = _
    rw [hround]
    rfl
  have hcast : (Column.mk "n" (.float 64) [.float x, .null]).castTo .numeric =
      .ok ⟨"n", Scalar.numeric.toArrow, [w, .null]⟩ := by
    unfold Column.castTo
    dsimp only
    rw [hcells]
    rfl
  have hcolumns : (t.align s).1.columns = [⟨"n", Scalar.numeric.toArrow, [w, .null]⟩] := by
    have hstep : (t.align s).1.columns = (t.alignField (.ofScalar "n" true .numeric)).1.columns :=
      rfl
    have hfind : t.column? (Field.ofScalar "n" true .numeric).name =
      some ⟨"n", .float 64, [.float x, .null]⟩ := rfl
    rw [hstep, Table.alignField_columns, hfind]
    dsimp only
    unfold Column.under
    simp only [Column.wanted?, Field.ofScalar, hcast]
    rfl
  refine ⟨hs, hcolumns, hvalue, ?_⟩
  obtain ⟨c', hc', -, -, hcase⟩ := Table.align_numbers t (i := 0) hs rfl rfl
  rw [hcolumns] at hc'
  cases hc'
  rcases hcase with hsame | ⟨f, target, hf, hwanted, -, hcells⟩
  · cases hsame
  · cases hf
    cases hwanted
    cases hcells rfl with
    | cons hcell _ =>
      obtain ⟨-, -, hsame⟩ := hcell.float 64 x rfl rfl rfl
      rw [hsame, hvalue]
      rintro ⟨n, hn⟩
      have htwice : (1953125 : ℚ) = 2 * n := by
        rw [← hn, numericScale]
        norm_num
      have hodd : (1953125 : ℤ) = 2 * n := by exact_mod_cast htwice
      omega

end Sluice.Arrow
