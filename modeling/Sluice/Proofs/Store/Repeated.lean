import Sluice.Proofs.Store.Table

/-!
# Groups applied twice

A row and a table are lists of entries, and what is written to them changes the first entry that has
the key, or adds one. So each entry goes its own way: the changes that have its key are made to it,
in order, and no others (`changeAll_cons`). Making the same changes again does to each entry what
has been done to it, and adds none.

* `changeAll_twice`: **changes made twice are changes made once**, if that is true of the changes to
  one entry;
* `Row.update_update`, `Table.afterAll_twice`: rows and tables are such lists;
* `Memory.applyAll_twice`: **a group of one kind that can be applied twice leaves the tables as they
  were the second time**.
-/

namespace Sluice

/-! ## 1. Changes to entries -/

namespace Entries

variable {κ β : Type}

/-- A change to what stands under a key. -/
structure Change (κ β : Type) where
  key : κ
  write : β → β

/-- Makes a change to the first entry that has its key. If there is none, one is added, unless
there is nothing to begin with. -/
def change (same : κ → κ → Bool) (first? : Option β) : List (κ × β) → Change κ β → List (κ × β)
  | [], c => (first?.map fun b => (c.key, c.write b)).toList
  | (k, b) :: rest, c =>
    if same k c.key then (k, c.write b) :: rest else (k, b) :: change same first? rest c

/-- Makes changes in order. -/
def changeAll (same : κ → κ → Bool) (first? : Option β) (es : List (κ × β))
    (cs : List (Change κ β)) : List (κ × β) :=
  cs.foldl (change same first?) es

/-- What changes in order make of one content. -/
def written (b : β) (cs : List (Change κ β)) : β := cs.foldl (fun b c => c.write b) b

/-- **Changes that settle**: whichever of them are made to a content, it is the same to make them
once more. -/
def Settle (cs : List (Change κ β)) : Prop :=
  ∀ hits : List (Change κ β), hits.Sublist cs → ∀ b, written (written b hits) hits = written b hits

section Changes

variable {same : κ → κ → Bool} {first? : Option β} {cs : List (Change κ β)}

theorem Settle.sublist {hits : List (Change κ β)} (h : Settle cs) (hs : hits.Sublist cs) :
    Settle hits := fun _ ho => h _ (ho.trans hs)

/-- **Each entry goes its own way**: the changes with its key are made to it, the others to the
entries behind it. -/
theorem changeAll_cons (k : κ) (b : β) (rest : List (κ × β)) (cs : List (Change κ β)) :
    changeAll same first? ((k, b) :: rest) cs =
      (k, written b (cs.filter fun c => same k c.key)) ::
        changeAll same first? rest (cs.filter fun c => !same k c.key) := by
  induction cs generalizing b rest with
  | nil => rfl
  | cons c cs ih =>
    unfold changeAll at ih ⊢
    rw [List.foldl_cons]
    by_cases hc : same k c.key = true
    · have hchange : change same first? ((k, b) :: rest) c = (k, c.write b) :: rest := by
        rw [change, if_pos hc]
      rw [hchange, ih, List.filter_cons_of_pos (by simpa using hc),
        List.filter_cons_of_neg (by simpa using hc)]
      rfl
    · have hchange : change same first? ((k, b) :: rest) c =
          (k, b) :: change same first? rest c := by
        rw [change, if_neg hc]
      rw [hchange, ih, List.filter_cons_of_neg (by simpa using hc),
        List.filter_cons_of_pos (by simpa using hc), List.foldl_cons]

/-- Where nothing is to begin with, nothing is added. -/
theorem changeAll_nil (cs : List (Change κ β)) : changeAll same none [] cs = [] := by
  induction cs with
  | nil => rfl
  | cons c cs ih => exact ih

/-- **Changes made twice are changes made once.** An entry that is there goes its own way, and one
that is added is found again under its own key; either way fewer entries and changes are left. -/
theorem changeAll_twice (es : List (κ × β)) (cs : List (Change κ β))
    (hfound : first? = none ∨ ∀ c ∈ cs, same c.key c.key = true) (hs : Settle cs) :
    changeAll same first? (changeAll same first? es cs) cs = changeAll same first? es cs := by
  match es, cs with
  | (k, b) :: rest, cs =>
    have hmisses := cs.filter_sublist (p := fun c => !same k c.key)
    rw [changeAll_cons, changeAll_cons, hs _ List.filter_sublist,
      changeAll_twice rest _ (hfound.imp_right fun h c hc => h c (hmisses.subset hc))
        (hs.sublist hmisses)]
  | [], [] => rfl
  | [], c :: cs =>
    by_cases hnone : first? = none
    · rw [hnone, changeAll_nil, changeAll_nil]
    · obtain ⟨b, hb⟩ := Option.ne_none_iff_exists'.mp hnone
      have hself := hfound.resolve_left hnone
      have hadd : changeAll same first? [] (c :: cs) =
          changeAll same first? [(c.key, c.write b)] cs := by
        unfold changeAll
        rw [List.foldl_cons, change, hb]
        rfl
      have hmisses := cs.filter_sublist (p := fun c' => !same c.key c'.key)
      have hhits : (c :: cs).filter (fun c' => same c.key c'.key) =
          c :: cs.filter fun c' => same c.key c'.key :=
        List.filter_cons_of_pos (hself c List.mem_cons_self)
      have hothers : (c :: cs).filter (fun c' => !same c.key c'.key) =
          cs.filter fun c' => !same c.key c'.key :=
        List.filter_cons_of_neg (by simpa using hself c List.mem_cons_self)
      have hagain := hs _ ((List.filter_sublist (p := fun c' => same c.key c'.key)).cons_cons c) b
      rw [hadd, changeAll_cons, changeAll_cons, hhits, hothers,
        changeAll_twice [] _ (.inr fun c' hc' => hself c' (.tail c (hmisses.subset hc')))
          (hs.sublist (hmisses.trans (List.sublist_cons_self c cs)))]
      exact congrArg (fun b' => (c.key, b') :: _) hagain
termination_by es.length + cs.length
decreasing_by
  · have := hmisses.length_le
    simp only [List.length_cons]
    omega
  · have := hmisses.length_le
    simp only [List.length_cons]
    omega

/-- Changes that do not ask for what was there settle: the last one counts. -/
theorem settle_of_constant (h : ∀ c ∈ cs, ∀ b b', c.write b = c.write b') : Settle cs := by
  intro hits hsub b
  rcases List.eq_nil_or_concat hits with rfl | ⟨before, last, rfl⟩
  · rfl
  · have hlast : last ∈ cs := hsub.subset (by simp)
    unfold written
    rw [List.concat_eq_append, List.foldl_append, List.foldl_append]
    exact h last hlast _ _

end Changes

end Entries

open Entries

/-! ## 2. Rows -/

namespace Row

/-- The columns of a row as changes to another one. -/
def changes (row : Row) : List (Change Text Value) := row.map fun (n, v) => ⟨n, fun _ => v⟩

theorem put_eq (row : Row) (name : Text) (v : Value) :
    row.put name v = change (fun n m => decide (n = m)) (some .null) row ⟨name, fun _ => v⟩ := by
  induction row with
  | nil => rfl
  | cons e rest ih =>
    obtain ⟨n, w⟩ := e
    unfold put change
    rw [ih]
    by_cases h : n = name
    · simp [h]
    · simp [h]

theorem update_eq (row cols : Row) :
    row.update cols = changeAll (fun n m => decide (n = m)) (some .null) row cols.changes := by
  unfold update changes changeAll
  rw [List.foldl_map]
  simp only [put_eq]

/-- **A row that has been updated stays as it is under the same update.** -/
theorem update_update (row cols : Row) : (row.update cols).update cols = row.update cols := by
  rw [update_eq, update_eq]
  refine changeAll_twice row _ (.inr fun c _ => by simp) (settle_of_constant fun c hc _ _ => ?_)
  obtain ⟨e, -, rfl⟩ := List.mem_map.mp hc
  rfl

theorem update_append (row cols cols' : Row) :
    (row.update cols).update cols' = row.update (cols ++ cols') := by
  unfold update
  rw [List.foldl_append]

end Row

/-! ## 3. Tables -/

namespace Operation

/-- What an operation writes over a row. -/
def overwrite (o : Operation) (row : Row) : Row :=
  match o.verb with
  | .insert | .replace => o.columns
  | .update | .insertOrUpdate => row.update o.columns
  | .delete => row

/-- An operation as a change to the row under its key. -/
def change (o : Operation) : Change (List Value) Row := ⟨o.key, o.overwrite⟩

/-- **Operations make a row independent of what it was, or update it**: the last one that writes a
whole row counts, and those behind it. -/
theorem written_change (os : List Operation) :
    (∃ row, ∀ r, written r (os.map change) = row) ∨
      ∃ cols, ∀ r, written r (os.map change) = Row.update r cols := by
  induction os with
  | nil => exact .inr ⟨[], fun r => rfl⟩
  | cons o os ih =>
    have hcons : ∀ r, written r ((o :: os).map change) =
        written (o.overwrite r) (os.map change) := fun r => rfl
    simp only [hcons]
    rcases ih with ⟨row, hrow⟩ | ⟨cols, hcols⟩
    · exact .inl ⟨row, fun r => hrow _⟩
    · simp only [hcols]
      unfold overwrite
      cases o.verb with
      | insert => exact .inl ⟨Row.update o.columns cols, fun r => rfl⟩
      | replace => exact .inl ⟨Row.update o.columns cols, fun r => rfl⟩
      | update => exact .inr ⟨_, fun r => Row.update_append r o.columns cols⟩
      | insertOrUpdate => exact .inr ⟨_, fun r => Row.update_append r o.columns cols⟩
      | delete => exact .inr ⟨cols, fun r => rfl⟩

theorem settle_change (os : List Operation) : Settle (os.map change) := by
  intro hits hsub r
  obtain ⟨ps, -, rfl⟩ := List.sublist_map_iff.mp hsub
  rcases written_change ps with ⟨row, hrow⟩ | ⟨cols, hcols⟩
  · rw [hrow, hrow]
  · rw [hcols, hcols, Row.update_update]

/-- **An operation finds again what it wrote**: its key is found under itself, or it writes only
where something stands. Values have no identity here, so a number that is none is not found under
itself even when it is the very one that was stored. -/
def IsSteady (o : Operation) : Prop :=
  match o.verb with
  | .update | .delete => True
  | .insert | .insertOrUpdate | .replace => Value.sameKey o.key o.key = true

instance (o : Operation) : Decidable o.IsSteady :=
  decidable_of_iff ((o.verb = .update ∨ o.verb = .delete) ∨ Value.sameKey o.key o.key = true) <| by
    unfold IsSteady
    cases o.verb <;> simp

/-- Operations on defined keys are steady. -/
theorem isSteady_of_defined {o : Operation} (hk : Value.unusableKey? o.key = none)
    (hd : Value.IsDefined.allDefined o.key) : o.IsSteady := by
  unfold IsSteady
  cases o.verb with
  | update => trivial
  | delete => trivial
  | _ => exact Value.sameKey_self hk hd

end Operation

namespace Table

/-- The row that an operation begins with where none stands under its key. -/
def first? : Verb → Option Row
  | .insert | .insertOrUpdate | .replace => some []
  | .update | .delete => none

/-- What an operation that takes nothing away makes of a table: a change to one entry. -/
theorem after_eq_change {o : Operation} (ho : o.verb ≠ .delete) (t : Table) :
    t.after o = Entries.change Value.sameKey (first? o.verb) t o.change := by
  induction t with
  | nil =>
    unfold after Operation.effect Operation.change Operation.overwrite first?
    cases hverb : o.verb with
    | delete => exact absurd hverb ho
    | _ => rfl
  | cons e rest ih =>
    obtain ⟨k, r⟩ := e
    have hkey : o.change.key = o.key := rfl
    unfold Entries.change
    rw [hkey]
    by_cases hk : Value.sameKey k o.key = true
    · have hget : get? ((k, r) :: rest) o.key = some r := by
        unfold get?
        rw [List.find?_cons_of_pos (by simpa using hk)]
        rfl
      have hput : ∀ row, put ((k, r) :: rest) o.key row = (k, row) :: rest := by
        intro row
        rw [put, if_pos hk]
      rw [if_pos hk]
      unfold after Operation.effect Operation.change Operation.overwrite
      rw [hget]
      cases hverb : o.verb with
      | delete => exact absurd hverb ho
      | insert => exact hput _
      | update => exact hput _
      | insertOrUpdate => exact hput _
      | replace => exact hput _
    · have hget : get? ((k, r) :: rest) o.key = get? rest o.key := by
        unfold get?
        rw [List.find?_cons_of_neg (by simpa using hk)]
      have hput : ∀ row, put ((k, r) :: rest) o.key row = (k, r) :: put rest o.key row := by
        intro row
        rw [put, if_neg hk]
      have herase : erase ((k, r) :: rest) o.key = (k, r) :: erase rest o.key := by
        unfold erase
        rw [List.filter_cons_of_pos (by simpa using hk)]
      rw [if_neg hk, ← ih]
      unfold after
      rw [hget]
      cases o.effect (get? rest o.key) with
      | some row => exact hput row
      | none => exact herase

theorem afterAll_eq_changeAll {verb : Verb} (hverb : verb ≠ .delete) :
    ∀ {os : List Operation}, (∀ o ∈ os, o.verb = verb) → ∀ t : Table,
      t.afterAll os = changeAll Value.sameKey (first? verb) t (os.map Operation.change)
  | [], _, _ => rfl
  | o :: os, hall, t => by
    have ho := hall o List.mem_cons_self
    have hafter := after_eq_change (ho ▸ hverb) t
    rw [ho] at hafter
    have hrest := afterAll_eq_changeAll hverb (fun p hp => hall p (.tail o hp)) (t.after o)
    change (t.after o).afterAll os = _
    rw [hrest, hafter]
    rfl

/-- Deleting keys one by one leaves the entries that have none of them. -/
theorem afterAll_delete : ∀ {os : List Operation}, (∀ o ∈ os, o.verb = .delete) → ∀ t : Table,
    t.afterAll os = t.filter fun e => os.all fun o => !Value.sameKey e.1 o.key
  | [], _, t => (List.filter_eq_self.mpr fun _ _ => rfl).symm
  | o :: os, hall, t => by
    have hafter : t.after o = t.erase o.key := by
      unfold after Operation.effect
      rw [hall o List.mem_cons_self]
    have hrest := afterAll_delete (fun p hp => hall p (.tail o hp)) (t.after o)
    change (t.after o).afterAll os = _
    rw [hrest, hafter]
    unfold erase
    rw [List.filter_filter]
    refine List.filter_congr fun e _ => ?_
    rw [List.all_cons, Bool.and_comm]

/-- **Operations of one kind do to a table the second time what they did the first time.** -/
theorem afterAll_twice {verb : Verb} {os : List Operation} (hall : ∀ o ∈ os, o.verb = verb)
    (hsteady : ∀ o ∈ os, o.IsSteady) (t : Table) :
    (t.afterAll os).afterAll os = t.afterAll os := by
  by_cases hverb : verb = .delete
  · subst hverb
    rw [afterAll_delete hall, afterAll_delete hall, List.filter_filter]
    simp only [Bool.and_self]
  · rw [afterAll_eq_changeAll hverb hall, afterAll_eq_changeAll hverb hall]
    refine changeAll_twice t _ ?_ (Operation.settle_change os)
    have hself : ∀ o ∈ os, (first? verb).isSome = true → Value.sameKey o.key o.key = true := by
      intro o ho hsome
      have h := hsteady o ho
      unfold Operation.IsSteady at h
      rw [hall o ho] at h
      cases verb with
      | update => cases hsome
      | delete => cases hsome
      | insert => exact h
      | insertOrUpdate => exact h
      | replace => exact h
    cases hfirst : first? verb with
    | none => exact .inl rfl
    | some row =>
      refine .inr fun c hc => ?_
      obtain ⟨o, ho, rfl⟩ := List.mem_map.mp hc
      exact hself o ho (by rw [hfirst]; rfl)

end Table

/-! ## 4. Groups -/

/-- What has been applied to a table has a key that can be used, unless it takes something away. -/
theorem Table.apply_usable {t t' : Table} {o : Operation} (h : t.apply o = .ok t') :
    o.verb = .delete ∨ Value.unusableKey? o.key = none := by
  unfold apply at h
  split at h
  · next hdelete => exact .inl hdelete.1
  · split at h
    · cases h
    · next hk => exact .inr hk

namespace Memory

theorem applyAll_usable : ∀ {os : List Operation} {tables tables' : List (Text × Table)} {i : Nat},
    applyAll tables i os = .ok tables' →
    ∀ o ∈ os, o.verb = .delete ∨ Value.unusableKey? o.key = none
  | [], _, _, _, _, _, ho => absurd ho List.not_mem_nil
  | _ :: _, _, _, _, h, p, hp => by
    obtain ⟨t, t', -, happly, hrest⟩ := applyAll_cons_ok h
    rcases List.mem_cons.mp hp with rfl | hp
    · exact Table.apply_usable happly
    · exact applyAll_usable hrest p hp

/-- **A group of one kind that is applied twice leaves the tables as they were the second time.** -/
theorem applyAll_twice {verb : Verb} {os : List Operation} {tables once twice : List (Text × Table)}
    {i j : Nat} (hall : ∀ o ∈ os, o.verb = verb)
    (hsteady : ∀ o ∈ os, Value.unusableKey? o.key = none → o.IsSteady)
    (hfirst : applyAll tables i os = .ok once) (hagain : applyAll once j os = .ok twice) :
    twice = once := by
  have hfound : ∀ o ∈ os, o.IsSteady := by
    intro o ho
    rcases applyAll_usable hfirst o ho with hdelete | hk
    · unfold Operation.IsSteady
      rw [hdelete]
      trivial
    · exact hsteady o ho hk
  have hreplace : ∀ {ts ts' : List (Text × Table)} {n : Nat}, applyAll ts n os = .ok ts' →
      ts' = replace os ts ts' := by
    intro ts ts' n h
    have hstaged := applyAll_staged os ts ts n fun _ _ => rfl
    rw [h] at hstaged
    exact Except.ok.inj hstaged
  rw [hreplace hagain]
  refine (List.map_congr_left fun e he => ?_).trans (List.map_id once)
  obtain ⟨n, t⟩ := e
  by_cases hn : names os n = true
  · -- the table has been looked up by its name, before and after
    rw [hreplace hfirst] at he
    obtain ⟨⟨n', old⟩, hold, he⟩ := List.mem_map.mp he
    obtain ⟨rfl, ht⟩ := Prod.mk.injEq .. ▸ he
    obtain ⟨t₀, ht₀⟩ : ∃ t₀, table? tables n' = some t₀ := by
      refine Option.isSome_iff_exists.mp ?_
      unfold table?
      rw [Option.isSome_map, List.find?_isSome]
      exact ⟨(n', old), hold, by simp⟩
    have honce := applyAll_table ht₀ hfirst
    have htwice := applyAll_table honce hagain
    rw [Table.afterAll_twice (fun o ho => hall o (List.mem_filter.mp ho).1)
      fun o ho => hfound o (List.mem_filter.mp ho).1] at htwice
    rw [if_pos hn, honce] at ht
    simp only [hn, if_true, htwice, Option.getD_some, id]
    rw [← ht, Option.getD_some]
  · simp [hn]

end Memory

end Sluice
