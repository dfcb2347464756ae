import Sluice.Store.Scripted

/-!
# Submissions to the store in memory

A group of operations is applied to copies of the tables that it names, which then replace them.
This is the same as applying the operations to the tables themselves from left to right, and
forgetting about it when one of them cannot be applied:

* `applyAll_of_ne`: **frame** -- tables that no operation names stay as they are;
* `applyAll_staged`: the copies and the tables themselves go the same way;
* `submit_eq`: **a submission is the plain application of its operations, or nothing**; so what
  succeeds has been applied (`submit_ok`), and what fails has done nothing (`submit_error`);
* `Store.Guards`: a store whose submissions reach a memory or fail before; `Memory.store` and
  `Scripted.store` are such stores.
-/

namespace Sluice

namespace Memory

/-! ## 1. Tables by name -/

theorem table?_nil (name : Text) : table? [] name = none := rfl

theorem table?_cons (n name : Text) (t : Table) (rest : List (Text × Table)) :
    table? ((n, t) :: rest) name = if n = name then some t else table? rest name := by
  unfold table?
  by_cases h : n = name
  · rw [if_pos h]; simp [h]
  · rw [if_neg h]; simp [List.find?_cons_of_neg, h]

theorem table?_setTable (tables : List (Text × Table)) (name n : Text) (t : Table) :
    table? (setTable tables name t) n =
      if n = name then (table? tables n).map fun _ => t else table? tables n := by
  induction tables with
  | nil => simp [setTable, table?_nil]
  | cons entry rest ih =>
    obtain ⟨m, old⟩ := entry
    have hset : setTable ((m, old) :: rest) name t =
        (if m = name then (m, t) else (m, old)) :: setTable rest name t := rfl
    rw [hset]
    by_cases hm : m = name
    · rw [if_pos hm, table?_cons, table?_cons, ih]
      by_cases hn : m = n
      · subst hm; simp [hn]
      · rw [if_neg hn, if_neg hn]
    · rw [if_neg hm, table?_cons, table?_cons, ih]
      by_cases hn : m = n
      · have hne : ¬ n = name := fun e => hm (hn.trans e)
        simp [hn, hne]
      · rw [if_neg hn, if_neg hn]

theorem table?_filter {p : Text → Bool} {name : Text} (h : p name = true)
    (tables : List (Text × Table)) :
    table? (tables.filter fun (n, _) => p n) name = table? tables name := by
  induction tables with
  | nil => rfl
  | cons entry rest ih =>
    obtain ⟨m, old⟩ := entry
    rw [table?_cons]
    by_cases hm : m = name
    · subst hm
      rw [List.filter_cons_of_pos (by simpa using h), table?_cons, if_pos rfl, if_pos rfl]
    · rw [if_neg hm]
      by_cases hp : p m = true
      · rw [List.filter_cons_of_pos (by simpa using hp), table?_cons, if_neg hm]
        exact ih
      · rw [List.filter_cons_of_neg (by simpa using hp)]
        exact ih

/-- A name that is kept back is not found. -/
theorem table?_filter_none {p : Text → Bool} {name : Text} (h : p name = false)
    (tables : List (Text × Table)) : table? (tables.filter fun (n, _) => p n) name = none := by
  unfold table?
  rw [Option.map_eq_none_iff, List.find?_eq_none]
  rintro ⟨n, t⟩ hx hname
  obtain ⟨-, hp⟩ := List.mem_filter.mp hx
  have hn : n = name := by simpa using hname
  subst hn
  exact Bool.false_ne_true (h.symm.trans hp)

/-! ## 2. Operations from left to right -/

/-- Operations are applied to the tables that they find, one after the other. -/
theorem applyAll_cons_ok {tables tables' : List (Text × Table)} {i : Nat} {o : Operation}
    {rest : List Operation} (h : applyAll tables i (o :: rest) = .ok tables') :
    ∃ t t', table? tables o.table = some t ∧ t.apply o = .ok t' ∧
      applyAll (setTable tables o.table t') (i + 1) rest = .ok tables' := by
  unfold applyAll at h
  split at h
  · cases h
  · next t ht =>
    split at h
    · cases h
    · next t' ht' => exact ⟨t, t', ht, ht', h⟩

theorem applyAll_of_ne {name : Text} : ∀ {os : List Operation}
    {tables tables' : List (Text × Table)} {i : Nat}, (∀ o ∈ os, o.table ≠ name) →
    applyAll tables i os = .ok tables' →
    table? tables' name = table? tables name
  | [], _, _, _, _, h => by
    cases h
    rfl
  | o :: rest, tables, tables', i, hne, h => by
    obtain ⟨t, t', -, -, hrest⟩ := applyAll_cons_ok h
    have ho : ¬ name = o.table := fun e => hne o List.mem_cons_self e.symm
    rw [applyAll_of_ne (fun o' ho' => hne o' (List.mem_cons_of_mem _ ho')) hrest,
      table?_setTable, if_neg ho]

/-- No table appears or goes away. -/
theorem applyAll_isSome {name : Text} : ∀ {os : List Operation}
    {tables tables' : List (Text × Table)} {i : Nat}, applyAll tables i os = .ok tables' →
    (table? tables' name).isSome = (table? tables name).isSome
  | [], _, _, _, h => by
    cases h
    rfl
  | o :: rest, tables, tables', i, h => by
    obtain ⟨t, t', -, -, hrest⟩ := applyAll_cons_ok h
    rw [applyAll_isSome hrest, table?_setTable]
    split
    · rw [Option.isSome_map]
    · rfl

/-- Whether one of several operations names a table. -/
def names (os : List Operation) (name : Text) : Bool := os.any fun o => o.table == name

/-- Tables in which those that operations name are taken from a second list. -/
def replace (os : List Operation) (tables staged : List (Text × Table)) : List (Text × Table) :=
  tables.map fun (n, t) => (n, if names os n then (table? staged n).getD t else t)

theorem replace_setTable {o : Operation} {rest : List Operation} {t' : Table}
    {tables staged staged' : List (Text × Table)} {i : Nat}
    (hthere : (table? staged o.table).isSome = true)
    (h : applyAll (setTable staged o.table t') i rest = .ok staged') :
    replace rest (setTable tables o.table t') staged' = replace (o :: rest) tables staged' := by
  unfold replace setTable
  rw [List.map_map]
  refine List.map_congr_left fun entry _ => ?_
  obtain ⟨n, t⟩ := entry
  have hset := table?_setTable staged o.table n t'
  by_cases hn : n = o.table
  · subst hn
    rw [if_pos rfl] at hset
    obtain ⟨old, hold⟩ := Option.isSome_iff_exists.mp hthere
    rw [hold] at hset
    have hsome : (table? staged' o.table).isSome = true := by
      rw [applyAll_isSome h, hset]; rfl
    obtain ⟨last, hlast⟩ := Option.isSome_iff_exists.mp hsome
    have hall : names (o :: rest) o.table = true := by simp [names]
    by_cases hrest : names rest o.table = true
    · simp [hall, hrest, hlast]
    · -- no later operation names the table, so it is as this one left it
      have hne : ∀ o' ∈ rest, o'.table ≠ o.table := fun o' ho' e =>
        hrest (List.any_eq_true.mpr ⟨o', ho', by simp [e]⟩)
      simp [hall, hrest, applyAll_of_ne hne h, hset]
  · have hne : ¬ o.table = n := fun e => hn e.symm
    have hnames : names (o :: rest) n = names rest n := by simp [names, hne]
    simp [hn, hnames]

/-- **Copies go the way of the tables**: operations fail on both alike, and the tables that they
make of both are the same where they name any. -/
theorem applyAll_staged : ∀ (os : List Operation) (tables staged : List (Text × Table)) (i : Nat),
    (∀ o ∈ os, table? staged o.table = table? tables o.table) →
    applyAll tables i os = (applyAll staged i os).map (replace os tables)
  | [], tables, staged, _, _ => by
    simp [applyAll, Except.map, replace, names]
  | o :: rest, tables, staged, i, hsame => by
    have ho := hsame o List.mem_cons_self
    unfold applyAll
    rw [ho]
    cases ht : table? tables o.table with
    | none => rfl
    | some t =>
      dsimp only
      cases ha : t.apply o with
      | error fault => rfl
      | ok t' =>
        dsimp only
        have hthere : (table? staged o.table).isSome = true := by rw [ho, ht]; rfl
        rw [applyAll_staged rest (setTable tables o.table t') (setTable staged o.table t') (i + 1)
          (fun o' ho' => by
            rw [table?_setTable, table?_setTable, hsame o' (List.mem_cons_of_mem _ ho')])]
        cases h : applyAll (setTable staged o.table t') (i + 1) rest with
        | error f => rfl
        | ok staged' => exact congrArg Except.ok (replace_setTable hthere h)

/-! ## 3. Whole submissions -/

theorem merge_eq_replace {tables staged : List (Text × Table)} {os : List Operation} {i : Nat}
    (h : applyAll (named tables os) i os = .ok staged) :
    merge tables staged = replace os tables staged := by
  unfold merge replace
  refine List.map_congr_left fun entry _ => ?_
  obtain ⟨n, t⟩ := entry
  by_cases hn : names os n = true
  · simp [hn]
  · have hne : ∀ o ∈ os, o.table ≠ n := fun o ho e =>
      hn (List.any_eq_true.mpr ⟨o, ho, by simp [e]⟩)
    have hnone : table? staged n = none := by
      rw [applyAll_of_ne hne h]
      exact table?_filter_none (p := names os) (Bool.eq_false_iff.mpr hn) tables
    simp [hn, hnone]

/-- **A submission is the plain application of its operations, from left to right, or nothing.** -/
theorem submit_eq (m : Memory) (os : List Operation) :
    m.submit os =
      match applyAll m.tables 0 os with
      | .error f => (.error f, { m with submissions := m.submissions + 1 })
      | .ok tables => (.ok (), { tables, submissions := m.submissions + 1 }) := by
  have hstaged := applyAll_staged os m.tables (named m.tables os) 0 fun o ho =>
    table?_filter (p := names os) (List.any_eq_true.mpr ⟨o, ho, by simp⟩) m.tables
  unfold submit
  cases h : applyAll (named m.tables os) 0 os with
  | error f =>
    rw [h] at hstaged
    rw [hstaged]
    rfl
  | ok staged =>
    rw [h] at hstaged
    rw [hstaged]
    dsimp only [Except.map]
    rw [merge_eq_replace h]

section Submit

variable {m : Memory} {os : List Operation}

/-- A submission that succeeds has applied its operations. -/
theorem submit_ok (h : (m.submit os).1 = .ok ()) :
    applyAll m.tables 0 os = .ok (m.submit os).2.tables := by
  rw [submit_eq] at h ⊢
  cases happly : applyAll m.tables 0 os with
  | error f =>
    rw [happly] at h
    cases h
  | ok tables => rfl

/-- A submission that fails has done nothing. -/
theorem submit_error {f : Failure} (h : (m.submit os).1 = .error f) :
    (m.submit os).2.tables = m.tables := by
  rw [submit_eq] at h ⊢
  cases happly : applyAll m.tables 0 os with
  | error f => rfl
  | ok tables =>
    rw [happly] at h
    cases h

end Submit

end Memory

/-! ## 4. Stores around a memory -/

/-- **A store that guards a memory**: each submission either reaches it, or fails without having
done anything to its tables. -/
structure Store.Guards {σ : Type} (store : Store σ) (memory : σ → Memory) : Prop where
  submit : ∀ (st : σ) (os : List Operation) (timeout? : Option Binary64),
    ((store.submit st os timeout?).outcome = ((memory st).submit os).1 ∧
      (memory (store.submit st os timeout?).state).tables = ((memory st).submit os).2.tables) ∨
    ((∃ f, (store.submit st os timeout?).outcome = .error f) ∧
      (memory (store.submit st os timeout?).state).tables = (memory st).tables)

section Guards

variable {σ : Type} {store : Store σ} {memory : σ → Memory}

/-- What succeeds has been applied. -/
theorem Store.Guards.applied (h : store.Guards memory) {st : σ} {os : List Operation}
    {timeout? : Option Binary64} (hok : (store.submit st os timeout?).outcome = .ok ()) :
    Memory.applyAll (memory st).tables 0 os =
      .ok (memory (store.submit st os timeout?).state).tables := by
  rcases h.submit st os timeout? with ⟨hout, htables⟩ | ⟨⟨f, hf⟩, -⟩
  · rw [htables]
    exact Memory.submit_ok (hout.symm.trans hok)
  · rw [hok] at hf
    cases hf

/-- What fails leaves no trace. -/
theorem Store.Guards.unchanged (h : store.Guards memory) {st : σ} {os : List Operation}
    {timeout? : Option Binary64} {f : Failure}
    (herr : (store.submit st os timeout?).outcome = .error f) :
    (memory (store.submit st os timeout?).state).tables = (memory st).tables := by
  rcases h.submit st os timeout? with ⟨hout, htables⟩ | ⟨-, htables⟩
  · exact htables.trans (Memory.submit_error (hout.symm.trans herr))
  · exact htables

/-- What does not succeed has failed. -/
theorem Store.Guards.untouched (h : store.Guards memory) {st : σ} {os : List Operation}
    {timeout? : Option Binary64} (hno : (store.submit st os timeout?).outcome ≠ .ok ()) :
    (memory (store.submit st os timeout?).state).tables = (memory st).tables := by
  cases ho : (store.submit st os timeout?).outcome with
  | ok u => exact absurd ho hno
  | error f => exact h.unchanged ho

end Guards

theorem Memory.store_guards : Memory.store.Guards id where
  submit m os timeout? := by
    left
    simp only [Memory.store, id]
    split <;> exact ⟨rfl, rfl⟩

theorem Scripted.nextFailure_memory (s : Scripted) (os : List Operation) :
    (s.nextFailure os).2.memory = s.memory := by
  unfold nextFailure
  split
  · rfl
  · split <;> rfl

theorem Scripted.store_guards : Scripted.store.Guards Scripted.memory where
  submit s os timeout? := by
    have hmemory := nextFailure_memory { s with submits := s.submits ++ [(os.length, timeout?)] } os
    simp only [Scripted.store, Scripted.submit]
    split
    · next f s' h =>
      right
      rw [h] at hmemory
      exact ⟨⟨f, rfl⟩, congrArg Memory.tables hmemory⟩
    · next s' h =>
      left
      rw [h] at hmemory
      dsimp only at hmemory ⊢
      rw [hmemory]
      simp only [Memory.store]
      split <;> exact ⟨rfl, rfl⟩

end Sluice
