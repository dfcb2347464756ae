import Sluice.Proofs.Record.Conforming
import Sluice.Proofs.Store.Repeated
import Sluice.Proofs.Value.Order
import Sluice.Proofs.Value.Sorted

/-!
# Rows under their own keys

A table keeps keys and rows side by side, and some operations change a row without touching its key.
The two agree all the same, as long as every operation is on the key columns of its table and sets
them: what is written over a row then has the key that the row was found under.

* `Row.get?_update`: what a row holds after an update;
* `Table.IsKeyed`: **a map whose rows stand under their own keys**; `IsKeyed.after`: every operation
  leaves it one;
* `Memory.Step`, `Memory.Reached`: the calls to a store, and the states that they lead to;
  `IsKeyed.step`: a call keeps its tables keyed, whether it succeeds or not;
* `Table.IsKeyed.rows_ok`: the rows of such a table can be listed in the order of their keys;
* `Memory.reached_keyed`: **in every state a row stands under its own key, no two rows have the same
  one, and the rows are listed in the order of their keys, each once**.
-/

namespace Sluice

/-! ## 1. Rows -/

namespace Row

/-- The key of a row: what it holds under some columns. -/
def key (row : Row) (names : List Text) : List Value := names.map row.value

theorem get?_put (row : Row) (n : Text) (v : Value) (name : Text) :
    (row.put n v).get? name = if n = name then some v else row.get? name := by
  induction row with
  | nil => exact get?_cons name (n, v) []
  | cons e rest ih =>
    obtain ⟨m, w⟩ := e
    rw [put, get?_cons]
    by_cases hm : m = n
    · subst hm
      rw [if_pos rfl, get?_cons]
      by_cases hname : m = name <;> simp [hname]
    · rw [if_neg hm, get?_cons, ih]
      by_cases hname : m = name
      · subst hname
        simp [Ne.symm hm]
      · simp [hname]

/-- **After an update a row holds what the update has, and under all other columns what it had.** -/
theorem get?_update {cols : Row} (h : (cols.map (·.1)).Nodup) (row : Row) (name : Text) :
    (row.update cols).get? name = (cols.get? name).or (row.get? name) := by
  induction cols generalizing row with
  | nil => rfl
  | cons e rest ih =>
    obtain ⟨hfirst, hrest⟩ := List.nodup_cons.mp h
    change ((row.put e.1 e.2).update rest).get? name = _
    rw [ih hrest, get?_put, get?_cons]
    by_cases hname : e.1 = name
    · -- the names are distinct, so nothing further on changes this column again
      have hnone : get? rest name = none := by
        unfold get?
        rw [Option.map_eq_none_iff, List.find?_eq_none]
        intro e' he' heq
        rw [beq_iff_eq] at heq
        exact hfirst (List.mem_map.mpr ⟨e', he', heq.trans hname.symm⟩)
      rw [if_pos hname, if_pos hname, hnone]
      rfl
    · rw [if_neg hname, if_neg hname]

theorem key_update {cols : Row} (h : (cols.map (·.1)).Nodup) {names : List Text}
    (hnames : ∀ name ∈ names, name ∈ cols.map (·.1)) (row : Row) :
    (row.update cols).key names = key cols names := by
  refine List.map_congr_left fun name hname => ?_
  obtain ⟨e, -, hget⟩ := get?_of_mem (hnames name hname)
  unfold value
  rw [get?_update h, hget]
  rfl

end Row

namespace Value

/-- **A key stands for another**: it is the very same, or one that is found under it. The two differ
in a number that is none, which is found under nothing, and in equal values of different kinds. -/
def StandsFor (a b : List Value) : Prop := a = b ∨ sameKey a b = true

variable {a b a' b' k : List Value}

/-- What is found under a key is found under the one that stands for it. -/
theorem StandsFor.same (h : StandsFor a a') (ha : IsKey a) (ha' : IsKey a')
    (hk : sameKey a' k = true) : sameKey a k = true := by
  rcases h with rfl | hsame
  · exact hk
  · rw [sameKey_comm ha.usable ha'.usable] at hsame
    exact sameKey_trans ha'.usable ha'.proper hsame hk

/-- **Keys are apart when the keys that stand for them are.** -/
theorem StandsFor.apart (hab : StandsFor a a') (hbb : StandsFor b b') (ha : IsKey a) (hb : IsKey b)
    (ha' : IsKey a') (hb' : IsKey b') (h : Apart a b) : Apart a' b' := by
  refine ha'.apart hb' ?_
  cases hsame : sameKey a' b' with
  | false => rfl
  | true =>
    have hone := hab.same ha ha' hsame
    rw [sameKey_comm ha.usable hb'.usable] at hone
    have hboth := hbb.same hb hb' hone
    rw [h.2] at hboth
    cases hboth

end Value

open Value (StandsFor Apart IsKey)

/-! ## 2. Operations -/

/-- **An operation keyed as its table**: on the key columns of the table, all of which it sets. Its
columns have different names, and the ratios in its key have denominators. -/
structure Operation.IsKeyed (names : List Text) (o : Operation) : Prop where
  keys : o.keyColumns = names
  among : ∀ name ∈ names, name ∈ o.columns.map (·.1)
  distinct : (o.columns.map (·.1)).Nodup
  proper : Value.IsProperKey o.key

/-- **A table whose rows stand under their own keys.** -/
structure Table.IsKeyed (names : List Text) (t : Table) : Prop where
  isMap : t.IsMap
  own : ∀ e ∈ t, IsKey (Row.key e.2 names)
  stands : ∀ e ∈ t, StandsFor e.1 (Row.key e.2 names)

section Operations

variable {names : List Text} {o : Operation} {t : Table}

/-- Whatever an operation writes has the key that it is written under. -/
theorem Operation.IsKeyed.key_effect (h : o.IsKeyed names) {row? : Option Row} {row : Row}
    (heffect : o.effect row? = some row) : row.key names = o.key := by
  have hkey : Row.key o.columns names = o.key := by
    rw [← h.keys]
    rfl
  have hupdate : ∀ r : Row, (r.update o.columns).key names = o.key := fun r =>
    (Row.key_update h.distinct h.among r).trans hkey
  unfold effect at heffect
  cases hverb : o.verb with
  | insert =>
    rw [hverb] at heffect
    cases heffect
    exact hkey
  | update =>
    rw [hverb] at heffect
    obtain ⟨r, -, rfl⟩ := Option.map_eq_some_iff.mp heffect
    exact hupdate r
  | insertOrUpdate =>
    rw [hverb] at heffect
    cases heffect
    exact hupdate _
  | replace =>
    rw [hverb] at heffect
    cases heffect
    exact hkey
  | delete =>
    rw [hverb] at heffect
    cases heffect

namespace Table

theorem isKeyed_nil (names : List Text) : IsKeyed names [] where
  isMap := ⟨fun _ he => absurd he List.not_mem_nil, .nil⟩
  own _ he := absurd he List.not_mem_nil
  stands _ he := absurd he List.not_mem_nil

theorem IsKeyed.erase (h : t.IsKeyed names) (key : List Value) : (t.erase key).IsKeyed names where
  isMap := h.isMap.erase key
  own e he := h.own e (mem_erase.mp he).1
  stands e he := h.stands e (mem_erase.mp he).1

theorem kept_stands (t : Table) (key : List Value) : StandsFor (t.kept key) key := by
  unfold kept
  cases hfind : t.held? key with
  | none => exact .inl rfl
  | some e => exact .inr (held?_inv hfind).2

/-- **Every operation leaves a row under its own key**: the one that it writes, and those that it
leaves alone. -/
theorem IsKeyed.after (h : t.IsKeyed names) (ho : o.IsKeyed names)
    (hk : o.verb = .delete ∨ Value.unusableKey? o.key = none) : (t.after o).IsKeyed names := by
  by_cases hdelete : o.verb = .delete
  · have hafter : t.after o = t.erase o.key := by
      unfold Table.after Operation.effect
      rw [hdelete]
    rw [hafter]
    exact h.erase o.key
  · have hkey : IsKey o.key := ⟨hk.resolve_left hdelete, ho.proper⟩
    have hentry : ∀ e ∈ t.after o,
        Row.key e.2 names = o.key ∧ e.1 = t.kept o.key ∨ e ∈ t.erase o.key := by
      intro e he
      refine (List.mem_append.mp ((after_perm h.isMap hkey).mem_iff.mp he)).imp_left fun hfresh => ?_
      refine ⟨?_, mem_fresh hfresh⟩
      unfold fresh at hfresh
      obtain ⟨row, heffect, rfl⟩ := Option.map_eq_some_iff.mp (Option.mem_toList.mp hfresh)
      exact ho.key_effect heffect
    refine ⟨h.isMap.after hkey, fun e he => ?_, fun e he => ?_⟩
    · rcases hentry e he with ⟨hown, -⟩ | hold
      · exact hown ▸ hkey
      · exact (h.erase o.key).own e hold
    · rcases hentry e he with ⟨hown, hstored⟩ | hold
      · rw [hown, hstored]
        exact kept_stands t o.key
      · exact (h.erase o.key).stands e hold

theorem IsKeyed.afterAll (h : t.IsKeyed names) {os : List Operation}
    (hos : ∀ o ∈ os, o.IsKeyed names ∧ (o.verb = .delete ∨ Value.unusableKey? o.key = none)) :
    (t.afterAll os).IsKeyed names := by
  induction os generalizing t with
  | nil => exact h
  | cons o os ih =>
    obtain ⟨ho, hk⟩ := hos o List.mem_cons_self
    exact ih (h.after ho hk) fun p hp => hos p (List.mem_cons_of_mem o hp)

/-- **No two rows have the same key.** -/
theorem IsKeyed.apart (h : t.IsKeyed names) :
    t.Pairwise fun d e => Apart (Row.key d.2 names) (Row.key e.2 names) := by
  refine h.isMap.apart.imp_of_mem fun hd he hapart => ?_
  exact (h.stands _ hd).apart (h.stands _ he) (h.isMap.keys _ hd) (h.isMap.keys _ he)
    (h.own _ hd) (h.own _ he) hapart

/-- **The rows are listed in the order of their keys**, each once, when their keys are of one totally
ordered type. -/
theorem IsKeyed.rows_ok (h : t.IsKeyed names) {among : List Value → Prop}
    (hamong : Value.IsRankedKey among)
    (ht : ∀ e ∈ t, among e.1 ∧ among (Row.key e.2 names)) :
    ∃ rs, t.rows = .ok rs ∧ rs.Perm (t.map (·.2)) ∧
      rs.Pairwise fun r s => Value.beforeKey (r.key names) (s.key names) = .ok true := by
  obtain ⟨β, _, rank, hrank⟩ := hamong
  have hfollows : Sorted.Follows (fun d e : List Value × Row => Value.beforeKey d.1 e.1)
      (fun e => rank e.1) (· ∈ t) := by
    intro d e hd he
    obtain ⟨-, yes, hanswer, hyes⟩ := hrank d.1 e.1 (ht d hd).1 (ht e he).1
    have hdecide : yes = decide (rank d.1 < rank e.1) :=
      Bool.eq_iff_iff.mpr (hyes.trans decide_eq_true_iff.symm)
    exact hdecide ▸ hanswer
  obtain ⟨sorted, hsort, hperm, hasc⟩ := Sorted.sort_ok hfollows fun e he => he
  have hown : ∀ e ∈ t, rank e.1 = rank (Row.key e.2 names) := by
    intro e he
    rcases h.stands e he with heq | hsame
    · rw [← heq]
    · exact (hrank _ _ (ht e he).1 (ht e he).2).1.mp hsame
  have hapart := (hperm.pairwise_iff fun hab => Value.Apart.symm hab).mpr h.apart
  have hrows : t.rows = .ok (sorted.map (·.2)) := by
    change (Sorted.sort (fun d e : List Value × Row => Value.beforeKey d.1 e.1) t).map
      (fun s => s.map (·.2)) = _
    rw [hsort]
    rfl
  refine ⟨sorted.map (·.2), hrows, hperm.map _, ?_⟩
  refine List.pairwise_map.mpr ((hasc.and hapart).imp_of_mem fun {d e} hd he hboth => ?_)
  have hd' := hperm.mem_iff.mp hd
  have he' := hperm.mem_iff.mp he
  obtain ⟨hsame, yes, hanswer, hyes⟩ := hrank _ _ (ht d hd').2 (ht e he').2
  have hne : rank (Row.key d.2 names) ≠ rank (Row.key e.2 names) := by
    intro heq
    have hfound := hsame.mpr heq
    rw [hboth.2.1] at hfound
    cases hfound
  have hle : rank d.1 ≤ rank e.1 := hboth.1
  rw [hown d hd', hown e he'] at hle
  rw [hanswer, hyes.mpr (lt_of_le_of_ne hle hne)]

end Table

end Operations

/-! ## 3. Calls -/

namespace Memory

/-- **The calls to a store** in which every table has its key columns: a table is made ready, or
operations are submitted, each of them keyed as its table if there is one. -/
inductive Step (keys : Text → List Text) : Memory → Memory → Prop where
  | prepare (m : Memory) (table : Text) (schema : Schema) :
      Step keys m (store.prepare m table schema (keys table)).state
  | submit (m : Memory) (os : List Operation) (timeout? : Option Binary64)
      (h : ∀ o ∈ os, (table? m.tables o.table).isSome = true → o.IsKeyed (keys o.table)) :
      Step keys m (store.submit m os timeout?).state

/-- The states that such calls lead to. -/
inductive Reached (keys : Text → List Text) : Memory → Prop where
  | start : Reached keys {}
  | step {m m' : Memory} (h : Reached keys m) (hs : Step keys m m') : Reached keys m'

/-- All tables are keyed. -/
def IsKeyed (keys : Text → List Text) (m : Memory) : Prop :=
  ∀ name t, table? m.tables name = some t → t.IsKeyed (keys name)

theorem table?_prepare_of_ne (m : Memory) {name other : Text} (h : name ≠ other) :
    table? (m.prepare name).tables other = table? m.tables other := by
  unfold prepare
  split
  · rfl
  · unfold table?
    rw [List.find?_append]
    cases m.tables.find? fun e => e.1 == other with
    | some e => rfl
    | none => simp [h]

section Keyed

variable {keys : Text → List Text} {m m' : Memory}

theorem IsKeyed.prepare (h : m.IsKeyed keys) (name : Text) : (m.prepare name).IsKeyed keys := by
  intro other t ht
  by_cases hname : name = other
  · subst hname
    rw [table?_prepare] at ht
    cases hold : table? m.tables name with
    | none =>
      rw [hold] at ht
      cases ht
      exact Table.isKeyed_nil _
    | some old =>
      rw [hold] at ht
      cases ht
      exact h name _ hold
  · rw [table?_prepare_of_ne m hname] at ht
    exact h other t ht

/-- What has been applied was keyed, and leaves the tables keyed. -/
theorem IsKeyed.applied (h : m.IsKeyed keys) {os : List Operation} {i : Nat}
    (hos : ∀ o ∈ os, (table? m.tables o.table).isSome = true → o.IsKeyed (keys o.table))
    (happly : applyAll m.tables i os = .ok m'.tables) : m'.IsKeyed keys := by
  intro name t ht
  have hthere : (table? m'.tables name).isSome = (table? m.tables name).isSome :=
    applyAll_isSome happly
  rw [ht] at hthere
  obtain ⟨old, hold⟩ := Option.isSome_iff_exists.mp hthere.symm
  rw [applyAll_table hold happly] at ht
  cases ht
  refine (h name old hold).afterAll fun o ho => ?_
  obtain ⟨ho, hname⟩ := List.mem_filter.mp ho
  have htable : o.table = name := of_decide_eq_true hname
  refine ⟨htable ▸ hos o ho ?_, applyAll_usable happly o ho⟩
  rw [htable, hold]
  rfl

/-- **A call keeps the tables keyed**: what succeeds has been applied, and what fails has done
nothing. -/
theorem IsKeyed.step (h : m.IsKeyed keys) (hs : Step keys m m') : m'.IsKeyed keys := by
  cases hs with
  | prepare table schema => exact h.prepare table
  | submit os timeout? hos =>
    cases hout : (store.submit m os timeout?).outcome with
    | ok u => exact h.applied hos (store_guards.applied hout)
    | error f =>
      have hsame : (store.submit m os timeout?).state.tables = m.tables :=
        store_guards.unchanged hout
      intro name t ht
      rw [hsame] at ht
      exact h name t ht

/-- **The tables are keyed in every state**, by induction on the calls. -/
theorem Reached.isKeyed (h : Reached keys m) : m.IsKeyed keys := by
  induction h with
  | start => exact fun name t ht => nomatch ht
  | step _ hs ih => exact ih.step hs

/-- **Keys stay unique.** Whatever tables are made ready, always with the same key columns, and
whatever is submitted, with success or without, as long as all operations are keyed as their tables:
in every state each row of a table stands under its own key, no two rows of a table have the same
key, and when the keys are of one totally ordered type the rows can be listed, each of them once, in
strictly ascending order of their keys. Keys are the same when they hold the same, and so no key with
an undefined number is the same as another. -/
theorem reached_keyed (h : Reached keys m) {name : Text} {t : Table}
    (ht : table? m.tables name = some t) :
    (∀ e ∈ t, StandsFor e.1 (Row.key e.2 (keys name))) ∧
    (t.Pairwise fun d e => Apart (Row.key d.2 (keys name)) (Row.key e.2 (keys name))) ∧
    ∀ among, Value.IsRankedKey among →
      (∀ e ∈ t, among e.1 ∧ among (Row.key e.2 (keys name))) →
      ∃ rs, m.rows name = .ok rs ∧ rs.Perm (t.map (·.2)) ∧
        rs.Pairwise fun r s =>
          Value.beforeKey (r.key (keys name)) (s.key (keys name)) = .ok true := by
  have hkeyed := h.isKeyed name t ht
  refine ⟨hkeyed.stands, hkeyed.apart, fun among hamong hkeys => ?_⟩
  obtain ⟨rs, hrows, hperm, horder⟩ := hkeyed.rows_ok hamong hkeys
  refine ⟨rs, ?_, hperm, horder⟩
  unfold rows
  rw [ht]
  dsimp only
  rw [hrows]

/-- Two rows are written in descending order of their keys, one of them is written over under an equal
key of another kind, and a submission is rejected after its first operation: the rows are listed in
ascending order, each under the key that it holds now. -/
theorem reached_keyed_alike :
    let write (verb : Verb) (id : Value) (note : Text) : Operation :=
      ⟨"t", verb, [("id", id), ("note", .text note)], ["id"]⟩
    let ready := (store.prepare {} "t" ⟨[]⟩ ["id"]).state
    let two := (store.submit ready [write .insert (.int 2) "a", write .insert (.int 1) "b"] none).state
    let again := (store.submit two [write .insertOrUpdate (.bool true) "c"] none).state
    let m := (store.submit again [write .insert (.int 3) "d", write .update (.int 4) "e"] none).state
    let t : Table := [([.int 2], [("id", .int 2), ("note", .text "a")]),
      ([.int 1], [("id", .bool true), ("note", .text "c")])]
    Reached (fun _ => ["id"]) m ∧ table? m.tables "t" = some t ∧
      (∀ e ∈ t, StandsFor e.1 (Row.key e.2 ["id"])) ∧
      ∃ rs, m.rows "t" = .ok rs ∧ rs.Perm (t.map (·.2)) ∧
        rs.Pairwise fun r s => Value.beforeKey (r.key ["id"]) (s.key ["id"]) = .ok true := by
  intro write ready two again m t
  have hwrite : ∀ verb id note, id.IsProper → (write verb id note).IsKeyed ["id"] :=
    fun verb id note hid => ⟨rfl, by simp [write], by simp [write]; decide, ⟨hid, trivial⟩⟩
  have hready : Reached (fun _ => ["id"]) ready := .step .start (.prepare _ _ _)
  have htwo : Reached (fun _ => ["id"]) two := by
    refine .step hready (.submit ready _ none ?_)
    refine List.forall_mem_cons.mpr ⟨fun _ => ?_, List.forall_mem_singleton.mpr fun _ => ?_⟩
    · exact hwrite _ _ _ trivial
    · exact hwrite _ _ _ trivial
  have hagain : Reached (fun _ => ["id"]) again :=
    .step htwo (.submit two _ none (List.forall_mem_singleton.mpr fun _ => hwrite _ _ _ trivial))
  have hm : Reached (fun _ => ["id"]) m := by
    refine .step hagain (.submit again _ none ?_)
    refine List.forall_mem_cons.mpr ⟨fun _ => ?_, List.forall_mem_singleton.mpr fun _ => ?_⟩
    · exact hwrite _ _ _ trivial
    · exact hwrite _ _ _ trivial
  have ht : table? m.tables "t" = some t := by with_unfolding_all rfl
  obtain ⟨hstands, -, hrows⟩ := reached_keyed hm ht
  have hnumber : ∀ v ∈ [Value.int 2, .int 1, .bool true],
      List.Forall₂ Value.Family.Has [.number] [v] := by
    intro v hv
    simp only [List.mem_cons, List.not_mem_nil, or_false] at hv
    rcases hv with rfl | rfl | rfl
    · exact .cons ⟨nofun, trivial, _, rfl, nofun⟩ .nil
    · exact .cons ⟨nofun, trivial, _, rfl, nofun⟩ .nil
    · exact .cons ⟨nofun, trivial, _, rfl, nofun⟩ .nil
  refine ⟨hm, ht, hstands, hrows _ (Value.isRankedKey_families [.number]) ?_⟩
  refine List.forall_mem_cons.mpr ⟨⟨?_, ?_⟩, List.forall_mem_singleton.mpr ⟨?_, ?_⟩⟩
  · exact hnumber _ (.head _)
  · exact hnumber _ (.head _)
  · exact hnumber _ (.tail _ (.head _))
  · exact hnumber _ (.tail _ (.tail _ (.head _)))

end Keyed

end Memory

end Sluice
