import Sluice.Proofs.Store.Atomic
import Sluice.Proofs.Value.Key
import Mathlib.Data.List.Basic
import Mathlib.Data.List.Pairwise
import Mathlib.Data.List.Perm.Basic

/-!
# Operations on different keys

A table is a map from keys to rows, kept as a list (`Table.IsMap`). Every operation does one thing to
it: it replaces what stands under its key (`Operation.effect`). So operations on different keys do
not get in each other's way, whatever their kind: each finds what it would have found without the
others, and the order in which they are applied shows in the order of the list alone.

* `after_perm`: what an operation makes of a table, up to the order of its rows;
* `held?_after`: **frame** -- nothing changes under other keys;
* `after_comm`: **two operations on different keys commute**;
* `Independent`: operations each of which can be applied first; `Independent.applyAll`: **they can be
  applied in any order**, and `afterAll_perm`: **with the same map in the end**.
-/

namespace Sluice

/-! ## 1. Maps -/

/-- Values that a row can be stored under. -/
structure Value.IsKey (key : List Value) : Prop where
  usable : Value.unusableKey? key = none
  proper : Value.IsProperKey key

/-- Neither of two keys is found under the other. -/
def Value.Apart (a b : List Value) : Prop :=
  Value.sameKey a b = false ∧ Value.sameKey b a = false

theorem Value.Apart.symm {a b : List Value} (h : Value.Apart a b) : Value.Apart b a := ⟨h.2, h.1⟩

theorem Value.IsKey.apart {a b : List Value} (ha : Value.IsKey a) (hb : Value.IsKey b)
    (h : Value.sameKey a b = false) : Value.Apart a b :=
  ⟨h, (Value.sameKey_comm hb.usable ha.usable).trans h⟩

namespace Table

/-- **A table is a map**: its keys are keys, and no two of them are the same. -/
structure IsMap (t : Table) : Prop where
  keys : ∀ e ∈ t, Value.IsKey e.1
  apart : t.Pairwise fun d e => Value.Apart d.1 e.1

/-- The entry under a key. -/
def held? (t : Table) (key : List Value) : Option (List Value × Row) :=
  t.find? fun e => Value.sameKey e.1 key

theorem held?_inv {t : Table} {key : List Value} {e : List Value × Row}
    (h : t.held? key = some e) : e ∈ t ∧ Value.sameKey e.1 key = true :=
  ⟨List.mem_of_find?_eq_some h,
    List.find?_some (p := fun e : List Value × Row => Value.sameKey e.1 key) h⟩

theorem get?_eq (t : Table) (key : List Value) : t.get? key = (t.held? key).map (·.2) := rfl

section Entries

variable {t t' : Table} {key k : List Value} {e : List Value × Row}

theorem IsMap.perm (h : t.IsMap) (hp : t.Perm t') : t'.IsMap where
  keys e he := h.keys e (hp.mem_iff.mpr he)
  apart := (hp.pairwise_iff fun hab => Value.Apart.symm hab).mp h.apart

/-- Two entries of a map that are found under one key are one entry. -/
theorem IsMap.unique (h : t.IsMap) (hk : Value.IsKey key) {d : List Value × Row} (hd : d ∈ t)
    (he : e ∈ t) (hdk : Value.sameKey d.1 key = true) (hek : Value.sameKey e.1 key = true) :
    d = e := by
  by_contra hne
  have hsymm : Std.Symm fun d e : List Value × Row => Value.Apart d.1 e.1 :=
    ⟨fun _ _ hab => Value.Apart.symm hab⟩
  have hapart := h.apart.forall hd he hne
  rw [Value.sameKey_comm (h.keys d hd).usable hk.usable] at hdk
  rw [Value.sameKey_comm (h.keys e he).usable hk.usable] at hek
  have hsame := Value.sameKey_trans hk.usable hk.proper hdk hek
  rw [hapart.1] at hsame
  cases hsame

/-- **What is found under a key of a map is the one entry there.** -/
theorem held?_eq_some (h : t.IsMap) (hk : Value.IsKey key) :
    t.held? key = some e ↔ e ∈ t ∧ Value.sameKey e.1 key = true := by
  constructor
  · exact held?_inv
  · rintro ⟨he, hek⟩
    cases hfind : t.held? key with
    | none =>
      have hno := List.find?_eq_none.mp hfind e he
      exact absurd hek hno
    | some d =>
      obtain ⟨hd, hdk⟩ := held?_inv hfind
      rw [h.unique hk hd he hdk hek]

theorem held?_perm (h : t.IsMap) (hp : t.Perm t') (hk : Value.IsKey key) :
    t.held? key = t'.held? key := by
  refine Option.ext fun e => ?_
  rw [held?_eq_some h hk, held?_eq_some (h.perm hp) hk, hp.mem_iff]

/-- Maps with the same entries have the same rows under all keys. -/
theorem get?_perm (h : t.IsMap) (hp : t.Perm t') (hk : Value.IsKey key) :
    t.get? key = t'.get? key := by
  rw [get?_eq, get?_eq, held?_perm h hp hk]

theorem mem_erase : e ∈ t.erase key ↔ e ∈ t ∧ Value.sameKey e.1 key = false := by
  unfold erase
  rw [List.mem_filter, Bool.not_eq_true']

theorem IsMap.erase (h : t.IsMap) (key : List Value) : (t.erase key).IsMap where
  keys e he := h.keys e (mem_erase.mp he).1
  apart := h.apart.sublist List.filter_sublist

/-! ## 2. One operation -/

/-- The key that a row is kept under: the one that is there already, if any. -/
def kept (t : Table) (key : List Value) : List Value := (t.held? key).elim key (·.1)

theorem kept_isKey (h : t.IsMap) (hk : Value.IsKey key) : Value.IsKey (t.kept key) := by
  unfold kept
  cases hfind : t.held? key with
  | none => exact hk
  | some e => exact h.keys e (held?_inv hfind).1

/-- The key that a row is kept under is apart from other keys as well. -/
theorem kept_apart (h : t.IsMap) (hk : Value.IsKey key) (hk' : Value.IsKey k)
    (hapart : Value.sameKey k key = false) : Value.Apart (t.kept key) k := by
  have hkept := kept_isKey h hk
  refine hkept.apart hk' ?_
  unfold kept at hkept ⊢
  cases hfind : t.held? key with
  | none =>
    change Value.sameKey key k = false
    rw [Value.sameKey_comm hk.usable hk'.usable]
    exact hapart
  | some e =>
    rw [hfind] at hkept
    change Value.sameKey e.1 k = false
    cases hsame : Value.sameKey e.1 k with
    | false => rfl
    | true =>
      have hek := (held?_inv hfind).2
      have hboth := Value.sameKey_trans hkept.usable hkept.proper hsame hek
      rw [hapart] at hboth
      cases hboth

/-- Setting a row replaces what is under its key. -/
theorem put_perm (h : t.IsMap) (hk : Value.IsKey key) (row : Row) :
    (t.put key row).Perm ((t.kept key, row) :: t.erase key) := by
  induction t with
  | nil => exact .refl _
  | cons e rest ih =>
    obtain ⟨k, r⟩ := e
    obtain ⟨hfirst, hrest⟩ := List.pairwise_cons.mp h.apart
    have hmap : IsMap rest := ⟨fun e he => h.keys e (List.mem_cons_of_mem _ he), hrest⟩
    have hk' := h.keys (k, r) List.mem_cons_self
    unfold put
    by_cases hsame : Value.sameKey k key = true
    · rw [if_pos hsame]
      have hkept : kept ((k, r) :: rest) key = k := by
        unfold kept held?
        rw [List.find?_cons_of_pos (by simpa using hsame)]
        rfl
      have herase : erase ((k, r) :: rest) key = rest := by
        unfold erase
        rw [List.filter_cons_of_neg (by simpa using hsame), List.filter_eq_self]
        intro e he
        have hno : Value.sameKey e.1 key = false := by
          cases hek : Value.sameKey e.1 key with
          | false => rfl
          | true =>
            have hone := h.unique hk List.mem_cons_self (List.mem_cons_of_mem _ he) hsame hek
            subst hone
            have hself := (hfirst _ he).1
            rw [Value.sameKey_comm hk'.usable hk.usable] at hsame
            rw [Value.sameKey_trans hk.usable hk.proper hsame hsame] at hself
            cases hself
        simp [hno]
      rw [hkept, herase]
    · rw [if_neg hsame]
      have hkept : kept ((k, r) :: rest) key = kept rest key := by
        unfold kept held?
        rw [List.find?_cons_of_neg (by simpa using hsame)]
      have herase : erase ((k, r) :: rest) key = (k, r) :: erase rest key := by
        unfold erase
        rw [List.filter_cons_of_pos (by simpa using hsame)]
      rw [hkept, herase]
      exact ((ih hmap).cons (k, r)).trans (.swap ..)

end Entries

end Table

/-- What an operation makes of the row under its key. -/
def Operation.effect (o : Operation) (row? : Option Row) : Option Row :=
  match o.verb with
  | .insert => some o.columns
  | .update => row?.map (·.update o.columns)
  | .insertOrUpdate => some ((row?.getD []).update o.columns)
  | .replace => some o.columns
  | .delete => none

namespace Table

/-- A table after an operation that can be applied to it. -/
def after (t : Table) (o : Operation) : Table :=
  match o.effect (t.get? o.key) with
  | some row => t.put o.key row
  | none => t.erase o.key

/-- **An operation can be applied**: it inserts a key that is not there, or updates one that is, or
asks for nothing. -/
def Admits (t : Table) (o : Operation) : Prop :=
  match o.verb with
  | .insert => t.get? o.key = none
  | .update => (t.get? o.key).isSome = true
  | _ => True

instance (t : Table) (o : Operation) : Decidable (t.Admits o) :=
  decidable_of_iff ((o.verb ≠ .insert ∨ (t.get? o.key).isNone = true) ∧
      (o.verb ≠ .update ∨ (t.get? o.key).isSome = true)) <| by
    unfold Admits
    cases o.verb <;> simp

/-- The entry that an operation leaves under its key. -/
def fresh (t : Table) (o : Operation) : Table :=
  ((o.effect (t.get? o.key)).map fun row => (t.kept o.key, row)).toList

section Operations

variable {t t' : Table} {o p : Operation} {key : List Value}

/-- What has been applied has done the one thing that the operation does. -/
theorem apply_ok (h : t.apply o = .ok t') : t' = t.after o := by
  unfold apply at h
  unfold after Operation.effect
  split at h
  · next hdelete =>
    have hnil := List.isEmpty_iff.mp hdelete.2
    rw [hdelete.1]
    cases h
    rw [hnil]
    rfl
  · split at h
    · cases h
    · cases hverb : o.verb <;> cases hget : t.get? o.key <;> rw [hverb, hget] at h <;> cases h <;> rfl

theorem apply_admits (hk : Value.unusableKey? o.key = none) (ha : t.Admits o) :
    t.apply o = .ok (t.after o) := by
  have hok : ∃ t', t.apply o = .ok t' := by
    unfold apply
    unfold Admits at ha
    split
    · exact ⟨t, rfl⟩
    · rw [hk]
      cases hverb : o.verb <;> cases hget : t.get? o.key <;> rw [hverb] at ha <;>
        first | exact ⟨_, rfl⟩ | (rw [hget] at ha; cases ha)
  obtain ⟨t', ht'⟩ := hok
  rw [ht', apply_ok ht']

/-- **What an operation makes of a map**, up to the order of the rows: it replaces what is under its
key. -/
theorem after_perm (h : t.IsMap) (hk : Value.IsKey o.key) :
    (t.after o).Perm (t.fresh o ++ t.erase o.key) := by
  unfold after fresh
  cases o.effect (t.get? o.key) with
  | some row => exact put_perm h hk row
  | none => exact .refl _

theorem mem_fresh {e : List Value × Row} (he : e ∈ t.fresh o) : e.1 = t.kept o.key := by
  unfold fresh at he
  cases heffect : o.effect (t.get? o.key) with
  | none =>
    rw [heffect] at he
    cases he
  | some row =>
    rw [heffect] at he
    rw [List.mem_singleton.mp he]

/-- A map stays a map. -/
theorem IsMap.after (h : t.IsMap) (hk : Value.IsKey o.key) : (t.after o).IsMap := by
  refine IsMap.perm (t := t.fresh o ++ t.erase o.key) ⟨fun e he => ?_, ?_⟩ (after_perm h hk).symm
  · rcases List.mem_append.mp he with he | he
    · rw [mem_fresh he]
      exact kept_isKey h hk
    · exact h.keys e (mem_erase.mp he).1
  · rw [List.pairwise_append]
    refine ⟨?_, (h.erase o.key).apart, fun d hd e he => ?_⟩
    · unfold fresh
      cases o.effect (t.get? o.key) with
      | none => exact .nil
      | some row => exact List.pairwise_singleton _ _
    · obtain ⟨he, hapart⟩ := mem_erase.mp he
      rw [mem_fresh hd]
      exact kept_apart h hk (h.keys e he) hapart

/-- **Nothing changes under other keys.** -/
theorem held?_after (h : t.IsMap) (ho : Value.IsKey o.key) (hk : Value.IsKey key)
    (hapart : Value.Apart o.key key) : (t.after o).held? key = t.held? key := by
  refine Option.ext fun e => ?_
  rw [held?_eq_some (h.after ho) hk, held?_eq_some h hk, (after_perm h ho).mem_iff,
    List.mem_append, mem_erase]
  constructor
  · rintro ⟨he | he, hek⟩
    · have hkept := (kept_apart h ho hk hapart.2).1
      rw [← mem_fresh he, hek] at hkept
      cases hkept
    · exact ⟨he.1, hek⟩
  · rintro ⟨he, hek⟩
    refine ⟨.inr ⟨he, ?_⟩, hek⟩
    cases heo : Value.sameKey e.1 o.key with
    | false => rfl
    | true =>
      have he' := h.keys e he
      have hboth := Value.sameKey_trans he'.usable he'.proper heo hek
      rw [hapart.1] at hboth
      cases hboth

theorem get?_after (h : t.IsMap) (ho : Value.IsKey o.key) (hk : Value.IsKey key)
    (hapart : Value.Apart o.key key) : (t.after o).get? key = t.get? key := by
  rw [get?_eq, get?_eq, held?_after h ho hk hapart]

theorem fresh_after (h : t.IsMap) (ho : Value.IsKey o.key) (hp : Value.IsKey p.key)
    (hapart : Value.Apart o.key p.key) : (t.after o).fresh p = t.fresh p := by
  unfold fresh kept
  rw [get?_after h ho hp hapart, held?_after h ho hp hapart]

theorem Admits.after (h : t.IsMap) (ho : Value.IsKey o.key) (hp : Value.IsKey p.key)
    (hapart : Value.Apart o.key p.key) (ha : t.Admits p) : (t.after o).Admits p := by
  unfold Admits at ha ⊢
  rw [get?_after h ho hp hapart]
  exact ha

/-- The order of the rows does not matter to an operation. -/
theorem after_congr (h : t.IsMap) (hperm : t.Perm t') (hk : Value.IsKey o.key) :
    (t.after o).Perm (t'.after o) := by
  have hfresh : t.fresh o = t'.fresh o := by
    unfold fresh kept
    rw [get?_perm h hperm hk, held?_perm h hperm hk]
  refine (after_perm h hk).trans (.trans ?_ (after_perm (h.perm hperm) hk).symm)
  rw [hfresh]
  exact (hperm.filter _).append_left _

/-- Both of two operations, up to the order of the rows. -/
theorem after_after_perm (h : t.IsMap) (ho : Value.IsKey o.key) (hp : Value.IsKey p.key)
    (hapart : Value.Apart o.key p.key) :
    ((t.after o).after p).Perm (t.fresh p ++ (t.fresh o ++ (t.erase o.key).erase p.key)) := by
  have hfresh : (t.fresh o).erase p.key = t.fresh o := by
    unfold erase
    rw [List.filter_eq_self]
    intro e he
    have hkept := (kept_apart h ho hp hapart.2).1
    rw [← mem_fresh he] at hkept
    simp [hkept]
  have herase : ((t.after o).erase p.key).Perm (t.fresh o ++ (t.erase o.key).erase p.key) := by
    have hfilter := (after_perm h ho).filter fun e => !Value.sameKey e.1 p.key
    rw [List.filter_append] at hfilter
    change ((t.after o).erase p.key).Perm ((t.fresh o).erase p.key ++ _) at hfilter
    rw [hfresh] at hfilter
    exact hfilter
  refine (after_perm (h.after ho) hp).trans ?_
  rw [fresh_after h ho hp hapart]
  exact herase.append_left _

/-- **Two operations on different keys commute**, whatever their kinds. -/
theorem after_comm (h : t.IsMap) (ho : Value.IsKey o.key) (hp : Value.IsKey p.key)
    (hapart : Value.Apart o.key p.key) :
    ((t.after o).after p).Perm ((t.after p).after o) := by
  have herase : (t.erase o.key).erase p.key = (t.erase p.key).erase o.key := by
    unfold erase
    rw [List.filter_filter, List.filter_filter]
    exact List.filter_congr fun e _ => Bool.and_comm ..
  refine (after_after_perm h ho hp hapart).trans
    (.trans ?_ (after_after_perm h hp ho hapart.symm).symm)
  rw [herase, ← List.append_assoc, ← List.append_assoc]
  exact List.perm_append_comm.append_right _

end Operations

/-! ## 3. Several operations -/

/-- A table after operations that can be applied to it. -/
def afterAll (t : Table) (os : List Operation) : Table := os.foldl after t

/-- **Operations that do not get in each other's way**: each can be applied to the table as it is,
and no two are on one key. -/
structure Independent (t : Table) (os : List Operation) : Prop where
  isMap : t.IsMap
  keys : ∀ o ∈ os, Value.IsKey o.key
  apart : os.Pairwise fun o p => Value.Apart o.key p.key
  admits : ∀ o ∈ os, t.Admits o

section Several

variable {t t' : Table} {o : Operation} {os ps : List Operation}

theorem Independent.subperm (h : t.Independent os) (hs : List.Subperm ps os) :
    t.Independent ps := by
  obtain ⟨qs, hperm, hsub⟩ := hs
  refine ⟨h.isMap, fun o ho => h.keys o (hsub.subset (hperm.mem_iff.mpr ho)), ?_,
    fun o ho => h.admits o (hsub.subset (hperm.mem_iff.mpr ho))⟩
  exact (hperm.pairwise_iff fun hab => Value.Apart.symm hab).mp (h.apart.sublist hsub)

/-- After the first of several operations the others can still be applied. -/
theorem Independent.tail (h : t.Independent (o :: os)) : (t.after o).Independent os := by
  obtain ⟨hfirst, hrest⟩ := List.pairwise_cons.mp h.apart
  have ho := h.keys o List.mem_cons_self
  refine ⟨h.isMap.after ho, fun p hp => h.keys p (List.mem_cons_of_mem _ hp), hrest,
    fun p hp => ?_⟩
  exact (h.admits p (List.mem_cons_of_mem _ hp)).after h.isMap ho
    (h.keys p (List.mem_cons_of_mem _ hp)) (hfirst p hp)

/-- After some of several operations the others can still be applied. -/
theorem Independent.drop (h : t.Independent (os ++ ps)) : (t.afterAll os).Independent ps := by
  induction os generalizing t with
  | nil => exact h
  | cons o os ih => exact ih h.tail

theorem IsMap.afterAll (h : t.IsMap) (hk : ∀ o ∈ os, Value.IsKey o.key) :
    (t.afterAll os).IsMap := by
  induction os generalizing t with
  | nil => exact h
  | cons o os ih =>
    refine ih (h.after (hk o List.mem_cons_self)) fun p hp => ?_
    exact hk p (List.mem_cons_of_mem _ hp)

theorem afterAll_congr (h : t.IsMap) (hperm : t.Perm t') (hk : ∀ o ∈ os, Value.IsKey o.key) :
    (t.afterAll os).Perm (t'.afterAll os) := by
  induction os generalizing t t' with
  | nil => exact hperm
  | cons o os ih =>
    have ho := hk o List.mem_cons_self
    exact ih (h.after ho) (after_congr h hperm ho) fun p hp => hk p (List.mem_cons_of_mem _ hp)

/-- **Independent operations make the same map of a table in every order.** -/
theorem afterAll_perm (hperm : os.Perm ps) (h : t.Independent os) :
    (t.afterAll os).Perm (t.afterAll ps) := by
  induction hperm generalizing t with
  | nil => exact .refl _
  | cons o _ ih => exact ih h.tail
  | swap o p rest =>
    obtain ⟨hfirst, -⟩ := List.pairwise_cons.mp h.apart
    have ho := h.keys o (List.mem_cons_of_mem _ List.mem_cons_self)
    have hp := h.keys p List.mem_cons_self
    have hcomm := after_comm h.isMap hp ho (hfirst o List.mem_cons_self)
    exact afterAll_congr ((h.isMap.after hp).after ho) hcomm fun q hq =>
      h.keys q (List.mem_cons_of_mem _ (List.mem_cons_of_mem _ hq))
  | trans h₁ _ ih₁ ih₂ => exact (ih₁ h).trans (ih₂ (h.subperm h₁.symm.subperm))

end Several

end Table

/-! ## 4. Groups of operations -/

namespace Memory

variable {name : Text}

/-- A table that was made ready is there, as it was or empty. -/
theorem table?_prepare (m : Memory) (name : Text) :
    table? (m.prepare name).tables name = some ((table? m.tables name).getD []) := by
  unfold prepare
  cases h : table? m.tables name with
  | some t => exact h
  | none =>
    unfold table? at h ⊢
    rw [Option.map_eq_none_iff] at h
    dsimp only
    rw [List.find?_append, h]
    simp

/-- **Each table goes its own way**: what has been applied has been applied to a table one by one, as
far as it names that table. -/
theorem applyAll_table : ∀ {os : List Operation} {tables tables' : List (Text × Table)} {i : Nat}
    {t : Table}, table? tables name = some t → applyAll tables i os = .ok tables' →
    table? tables' name = some (t.afterAll (os.filter fun o => o.table = name))
  | [], _, _, _, _, ht, h => by
    cases h
    exact ht
  | o :: os, tables, tables', i, t, ht, h => by
    obtain ⟨old, new, hold, happly, hrest⟩ := applyAll_cons_ok h
    have hset := table?_setTable tables o.table name new
    by_cases ho : o.table = name
    · rw [if_pos ho.symm, ht, Table.apply_ok happly] at hset
      rw [ho] at hold
      cases ht.symm.trans hold
      rw [List.filter_cons_of_pos (by simpa using ho)]
      rw [Table.apply_ok happly] at hrest
      exact applyAll_table hset hrest
    · rw [if_neg fun e => ho e.symm, ht] at hset
      rw [List.filter_cons_of_neg (by simpa using ho)]
      exact applyAll_table hset hrest

/-- What has been applied to one table has been applied to it one by one. -/
theorem applyAll_afterAll {os : List Operation} {tables tables' : List (Text × Table)} {i : Nat}
    {t : Table} (hname : ∀ o ∈ os, o.table = name) (ht : table? tables name = some t)
    (h : applyAll tables i os = .ok tables') : table? tables' name = some (t.afterAll os) := by
  have htable := applyAll_table ht h
  rwa [List.filter_eq_self.mpr fun o ho => by simpa using hname o ho] at htable

/-- **Independent operations can be applied as one group.** -/
theorem applyAll_independent : ∀ {os : List Operation} {tables : List (Text × Table)} {i : Nat}
    {t : Table}, (∀ o ∈ os, o.table = name) → table? tables name = some t → t.Independent os →
    ∃ tables', applyAll tables i os = .ok tables'
  | [], tables, _, _, _, _, _ => ⟨tables, rfl⟩
  | o :: os, tables, i, t, hname, ht, h => by
    have ho := hname o List.mem_cons_self
    have happly := Table.apply_admits (h.keys o List.mem_cons_self).usable
      (h.admits o List.mem_cons_self)
    have hset : table? (setTable tables name (t.after o)) name = some (t.after o) := by
      rw [table?_setTable, if_pos rfl, ht]
      rfl
    obtain ⟨tables', hrest⟩ := applyAll_independent (i := i + 1)
      (fun p hp => hname p (List.mem_cons_of_mem _ hp)) hset h.tail
    refine ⟨tables', ?_⟩
    unfold applyAll
    rw [ho, ht]
    dsimp only
    rw [happly]
    exact hrest

end Memory

end Sluice
