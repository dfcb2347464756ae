import Sluice.Proofs.Sql.Bracket
import Sluice.Proofs.Sql.Command

/-!
# Values at their own places

The text of a statement and its parameters are put together separately, from the names of columns
and from their values. They belong together: the text reads as the command that the operation asks
for, and the values are those of the columns at its question marks, one by one, whatever stands in
the names.

* `Operation.command`: **what an operation asks for**, its table and its columns in their roles;
* `Parts.reads`: **the text reads as that command**;
* `statement_binds`: **the parameters are the values of the columns at the question marks**;
* `apply_binds`: so it is with the one statement that is executed for an operation.
-/

namespace Sluice

open Sql in
/-- **What an operation asks for**, when it is written by the given key columns. To insert a row it
names all columns, and, where a row may be there already, the key columns and what the others are
set to; to change a row, the others and then the key columns, or the key columns alone if there are
no others; to delete one, the key columns. -/
def Operation.command (o : Operation) (keys : List Text) : Command :=
  let names := o.columns.map (·.1)
  let others := names.filter fun n => !keys.contains n
  match o.verb with
  | .insert => .insert false o.table names none
  | .replace => .insert true o.table names none
  | .insertOrUpdate => .insert false o.table names (some ⟨keys, others.map fun n => (n, n)⟩)
  | .update => if others = [] then .count o.table keys else .update o.table others keys
  | .delete => .delete o.table keys

namespace Sql

open Token

/-! ## 1. The text -/

theorem reads_equation (n : Text) : Reads (quote n ++ " = ?") (equation n) := by
  have hplace : Reads " = ?" [equals, mark] := by decide
  exact (reads_quote n).append hplace (by decide)

theorem reads_transfer (n : Text) :
    Reads (quote n ++ " = EXCLUDED." ++ quote n) (transfer (n, n)) := by
  have hsource : Closes " = EXCLUDED." [equals, .word "EXCLUDED", .sign (.char '.')] := by decide
  exact ((reads_quote n).closes hsource (by decide)).reads (reads_quote n)

theorem closes_comma : Closes ", " [comma] := by decide

theorem reads_identifiers (names : List Text) :
    Reads (Text.join ", " (names.map quote)) (identifiers names) :=
  reads_join closes_comma (by decide) reads_quote names

theorem reads_marks (names : List Text) :
    Reads (Text.join ", " (names.map fun _ => Text.ofString "?")) (marks names) :=
  reads_join closes_comma (by decide) (fun _ => by decide) names

theorem reads_transfers (names : List Text) :
    Reads (Text.join ", " (names.map fun n => quote n ++ " = EXCLUDED." ++ quote n))
      (listed comma ((names.map fun n => (n, n)).map transfer)) := by
  rw [List.map_map]
  exact reads_join closes_comma (by decide) reads_transfer names

theorem reads_assignments (names : List Text) :
    Reads (Text.join ", " (assignments names)) (listed comma (names.map equation)) :=
  reads_join closes_comma (by decide) reads_equation names

theorem Parts.reads_where (p : Parts) {t : Text} {ts : List Token} (ht : Reads t ts) :
    Reads (t ++ " WHERE " ++ p.keyCondition) (ts ++ condition p.keys) := by
  have hwhere : Closes " WHERE " [.word "WHERE"] := by decide
  have hand : Closes " AND " [.word "AND"] := by decide
  have hlist : Reads p.keyCondition (listed (.word "AND") (p.keys.map equation)) :=
    reads_join hand (by decide) reads_equation p.keys
  exact ((ht.closes hwhere (by decide)).reads hlist).eq (List.append_assoc ..)

theorem Parts.reads_inserted (p : Parts) : Reads p.inserted
    (.word "INTO" :: .name p.table :: opening :: (identifiers p.names ++ closing ::
      .word "VALUES" :: opening :: (Sql.marks p.names ++ [closing]))) := by
  have hinto : Closes "INTO " [.word "INTO"] := by decide
  have hopen : Closes " (" [opening] := by decide
  have hvalues : Closes ") VALUES (" [closing, .word "VALUES", opening] := by decide
  have hclose : Reads ")" [closing] := by decide
  have htable := hinto.reads (reads_quote p.table)
  have hcolumns := (htable.closes hopen (by decide)).reads (reads_identifiers p.names)
  have hmarks := (hcolumns.closes hvalues (by decide)).reads (reads_marks p.names)
  refine (hmarks.append hclose (by decide)).eq ?_
  simp only [List.append_assoc, List.cons_append, List.nil_append]

theorem Parts.reads_onConflict (p : Parts) :
    Reads p.onConflict (Conflict.tokens ⟨p.keys, p.others.map fun n => (n, n)⟩) := by
  have hon : Closes "ON CONFLICT (" [.word "ON", .word "CONFLICT", opening] := by decide
  have hdo : Closes ") DO " [closing, .word "DO"] := by decide
  have hset : Closes "UPDATE SET " [.word "UPDATE", .word "SET"] := by decide
  have hkeys := (hon.reads (reads_identifiers p.keys)).closes hdo (by decide)
  have hsets : Reads (if p.others.isEmpty then Text.ofString "NOTHING" else "UPDATE SET " ++
        Text.join ", " (p.others.map fun n => quote n ++ " = EXCLUDED." ++ quote n))
      (if (p.others.map fun n => (n, n)) = [] then [.word "NOTHING"]
      else .word "UPDATE" :: .word "SET" ::
        listed comma ((p.others.map fun n => (n, n)).map transfer)) := by
    by_cases hnone : p.others = []
    · rw [hnone]
      decide
    · rw [if_neg (by simpa using hnone), if_neg (by simpa using hnone)]
      exact hset.reads (reads_transfers p.others)
  refine (hkeys.reads hsets).eq ?_
  unfold Conflict.tokens
  simp only [List.append_assoc, List.cons_append, List.nil_append]

/-- The command that the parts of an operation make up. -/
def Parts.command (p : Parts) : Verb → Command
  | .insert => .insert false p.table p.names none
  | .replace => .insert true p.table p.names none
  | .insertOrUpdate => .insert false p.table p.names (some ⟨p.keys, p.others.map fun n => (n, n)⟩)
  | .update => if p.others = [] then .count p.table p.keys else .update p.table p.others p.keys
  | .delete => .delete p.table p.keys

/-- **The text of a statement reads as its command.** -/
theorem Parts.reads (p : Parts) (verb : Verb) :
    Reads (p.statement verb).text (p.command verb).tokens := by
  have hinsert : Closes "INSERT " [.word "INSERT"] := by decide
  have hreplace : Closes "INSERT OR REPLACE " [.word "INSERT", .word "OR", .word "REPLACE"] := by
    decide
  have hblank : Closes " " [] := by decide
  cases verb with
  | insert => exact hinsert.reads p.reads_inserted
  | replace => exact hreplace.reads p.reads_inserted
  | insertOrUpdate =>
    have hconflict := hblank.reads p.reads_onConflict
    refine ((hinsert.reads p.reads_inserted).append hconflict ⟨_, rfl, by decide⟩).eq ?_
    simp [command, Command.tokens, Command.clauses, Command.verb]
  | update =>
    unfold statement command
    by_cases hnone : p.others = []
    · have hcount : Closes "SELECT COUNT(*) FROM " [.word "SELECT", .word "COUNT", opening,
          .sign (.char '*'), closing, .word "FROM"] := by decide
      rw [if_pos (by simpa using hnone), if_pos hnone]
      exact p.reads_where (hcount.reads (reads_quote p.table))
    · have hupdate : Closes "UPDATE " [.word "UPDATE"] := by decide
      have hset : Closes " SET " [.word "SET"] := by decide
      have htable := (hupdate.reads (reads_quote p.table)).closes hset (by decide)
      rw [if_neg (by simpa using hnone), if_neg hnone]
      refine (p.reads_where (htable.reads (reads_assignments p.others))).eq ?_
      simp [Command.tokens, Command.clauses, Command.verb]
  | delete =>
    have hdelete : Closes "DELETE FROM " [.word "DELETE", .word "FROM"] := by decide
    exact p.reads_where (hdelete.reads (reads_quote p.table))

/-! ## 2. The values -/

/-- **A value is bound for a column**: it is what is bound for the value that the row holds there. -/
def Binds (row : Row) (name : Text) (w : Value) : Prop :=
  ∃ v, row.get? name = some v ∧ bound? v = some w

theorem boundColumns_eq_ok {row : Row} {names : List Text} {ws : List Value} :
    boundColumns row names = .ok ws ↔ List.Forall₂ (Binds row) names ws := by
  unfold boundColumns
  rw [mapM_eq_ok]
  constructor <;> refine List.Forall₂.imp fun name w h => ?_
  · split at h
    · cases h
    · rename_i v hv
      split at h
      · rename_i hw
        cases h
        exact ⟨v, hv, hw⟩
      · cases h
  · obtain ⟨v, hv, hw⟩ := h
    simp only [hv, hw]

/-- **The parts of an operation**: its table, its columns, and the values of all of them, of the key
columns and of the others. -/
structure Parts.Of (p : Parts) (o : Operation) (tableKeys : List Text) : Prop where
  table : p.table = o.table
  names : p.names = o.columns.map (·.1)
  keys : p.keys = o.keysOr tableKeys
  values : List.Forall₂ (Binds o.columns) p.names p.values
  keyValues : List.Forall₂ (Binds o.columns) p.keys p.keyValues
  otherValues : List.Forall₂ (Binds o.columns) p.others p.otherValues

section Parameters

variable {o : Operation} {tableKeys : List Text}

theorem parts_of {p : Parts} (h : parts o tableKeys = .ok p) : p.Of o tableKeys := by
  unfold parts at h
  obtain ⟨values, hvalues, h⟩ := bind_ok h
  obtain ⟨keyValues, hkeyValues, h⟩ := bind_ok h
  obtain ⟨otherValues, hotherValues, h⟩ := bind_ok h
  cases h
  exact ⟨rfl, rfl, rfl, boundColumns_eq_ok.mp hvalues, boundColumns_eq_ok.mp hkeyValues,
    boundColumns_eq_ok.mp hotherValues⟩

theorem Parts.Of.command_eq {p : Parts} (h : p.Of o tableKeys) :
    p.command o.verb = o.command (o.keysOr tableKeys) := by
  unfold command Operation.command Parts.others
  rw [h.table, h.names, h.keys]

/-- **The parameters of a statement are the values of the columns at the places of its command.** -/
theorem Parts.Of.parameters {p : Parts} (h : p.Of o tableKeys) (verb : Verb) :
    ∃ ws, (p.statement verb).parameters? = some ws ∧
      List.Forall₂ (Binds o.columns) (p.command verb).placeholders ws := by
  cases verb with
  | insert => exact ⟨p.values, rfl, h.values⟩
  | replace => exact ⟨p.values, rfl, h.values⟩
  | insertOrUpdate => exact ⟨p.values, rfl, h.values⟩
  | update =>
    unfold statement command
    by_cases hnone : p.others = []
    · rw [if_pos (by simpa using hnone), if_pos hnone]
      exact ⟨p.keyValues, rfl, h.keyValues⟩
    · rw [if_neg (by simpa using hnone), if_neg hnone]
      exact ⟨p.otherValues ++ p.keyValues, rfl, List.rel_append h.otherValues h.keyValues⟩
  | delete => exact ⟨p.keyValues, rfl, h.keyValues⟩

/-- **A statement binds every value to its own column**: its text reads as the command that the
operation asks for, and its parameters are the values of the columns at the question marks. -/
theorem statement_binds {s : Statement} (h : statement o tableKeys = .ok s) :
    Reads s.text (o.command (o.keysOr tableKeys)).tokens ∧
      ∃ ws, s.parameters? = some ws ∧
        List.Forall₂ (Binds o.columns) (o.command (o.keysOr tableKeys)).placeholders ws := by
  obtain ⟨p, hp, rfl⟩ := map_ok h
  have hof := parts_of hp
  rw [← hof.command_eq]
  exact ⟨p.reads o.verb, hof.parameters o.verb⟩

end Parameters

/-! ## 3. What is executed -/

open Database

/-- **What is executed for an operation**, its key columns being among its columns: unless a value
cannot be bound, so that nothing is, it is one statement. Its tokens are those of the command that
the operation asks for, and of no other, whatever stands in the names of its table and its columns;
there are as many question marks among them as values are bound; and at each question mark that is
the value of the column there. -/
theorem apply_binds (d : Database Script) {o : Operation} (index : Nat)
    (hkeys : ∀ name ∈ o.keysOr (d.keysOf o.table), name ∈ o.columns.map (·.1)) :
    let c := o.command (o.keysOr (d.keysOf o.table))
    let calls := (d.apply Script.client o index).2.client.calls
    (calls = d.client.calls ∧ ∃ e ∈ o.columns, ¬ CanBind e.2) ∨
    ∃ s ts ws, calls = d.client.calls ++ [.execute s] ∧ tokens? s.text = some ts ∧
      (∀ c' : Command, c'.tokens = ts ↔ c' = c) ∧
      s.parameters? = some ws ∧ ts.count mark = ws.length ∧
      List.Forall₂ (Binds o.columns) c.placeholders ws := by
  intro c calls
  cases hs : statement o (d.keysOf o.table) with
  | error fault =>
    have hcalls : calls = d.client.calls := by
      change (d.apply Script.client o index).2.client.calls = _
      unfold apply
      rw [hs]
    refine .inl ⟨hcalls, ?_⟩
    by_contra hnone
    have hall : ∀ e ∈ o.columns, CanBind e.2 := by
      intro e he
      by_contra hno
      exact hnone ⟨e, he, hno⟩
    obtain ⟨s, hok⟩ := statement_of_canBind hkeys hall
    cases hs.symm.trans hok
  | ok s =>
    have hcalls : calls = d.client.calls ++ [.execute s] := by
      change (d.apply Script.client o index).2.client.calls = _
      rw [apply_state hs]
      rfl
    obtain ⟨hreads, ws, hws, hbinds⟩ := statement_binds hs
    refine .inr ⟨s, c.tokens, ws, hcalls, hreads, fun c' => ?_, hws, ?_, hbinds⟩
    · exact ⟨Command.tokens_inj, fun h => h ▸ rfl⟩
    · exact (Command.count_tokens c).trans hbinds.length_eq

/-- A row is changed in a table, by a column and in a column, in whose names there are quotes and
question marks: outside the names there are two question marks, one for each of the two values. -/
theorem apply_binds_quotes :
    let o : Operation := ⟨"a\"?", .update, [("id\"", .int 1), ("?", .text "x")], ["id\""]⟩
    let d : Database Script := { path := "db", createTables := false, client := .willing }
    let text : Text := "UPDATE \"a\"\"?\" SET \"?\" = ? WHERE \"id\"\"\" = ?"
    (∀ name ∈ o.keysOr (d.keysOf o.table), name ∈ o.columns.map (·.1)) ∧
      (d.apply Script.client o 0).2.client.calls = [.execute ⟨text, some [.text "x", .int 1]⟩] ∧
      ∃ ts, tokens? text = some ts ∧ ts.count mark = 2 ∧
        (∀ c : Command, c.tokens = ts ↔ c = .update "a\"?" ["?"] ["id\""]) ∧
        List.Forall₂ (Binds o.columns) ["?", "id\""] [.text "x", .int 1] := by
  intro o d text
  have hkeys : ∀ name ∈ o.keysOr (d.keysOf o.table), name ∈ o.columns.map (·.1) := by decide
  have hcalls : (d.apply Script.client o 0).2.client.calls =
      [.execute ⟨text, some [.text "x", .int 1]⟩] := by with_unfolding_all rfl
  have hcommand : o.command (o.keysOr (d.keysOf o.table)) = .update "a\"?" ["?"] ["id\""] := by
    with_unfolding_all rfl
  refine ⟨hkeys, hcalls, ?_⟩
  rcases apply_binds d 0 hkeys with ⟨hnone, -⟩ | ⟨s, ts, ws, hs, hts, hc, hws, hcount, hbinds⟩
  · rw [hcalls] at hnone
    cases hnone
  · rw [hcalls] at hs
    cases hs
    cases hws
    rw [hcommand] at hc hbinds
    exact ⟨ts, hts, hcount, hc, hbinds⟩

end Sql

end Sluice
