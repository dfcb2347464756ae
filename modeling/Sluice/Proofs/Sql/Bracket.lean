import Sluice.Proofs.Record.Nameable
import Sluice.Proofs.Sql.Bound
import Sluice.Sql.Store
import Mathlib.Data.List.Forall2

/-!
# Transactions keep their bracket

Whatever the database answers to the statements of a submission, these stand between `BEGIN
TRANSACTION` and one last statement: a `COMMIT` that has succeeded, or one `ROLLBACK`. The ways in
which that may go are listed once (`Bracket`), by the answers alone. What the caller learns depends
on the failure that has broken the transaction, never on what happens while it is taken back.

* `applyAll_runs`: statements are executed in order up to the first operation that is not carried
  out, by induction on the operations;
* `transaction_bracket`: **every transaction goes in one of these ways**;
* `report_reports`: **how a failure of the database is passed on** (`Reports`);
* `submit_bracket`: both together, for a whole submission.
-/

namespace Sluice.Sql

open Database

/-! ## 1. Answers -/

/-- What the database answers to a statement. -/
abbrev Answer := Except Failure (Option (List Value))

/-- A failure of the database: one that is not to be passed on as it is. -/
def IsTrouble (f : Failure) : Prop := trouble f ≠ .foreign

instance : DecidablePred IsTrouble := fun f => inferInstanceAs (Decidable (trouble f ≠ .foreign))

namespace Script

/-- A script after the given statements. -/
def after (s : Script) (ss : List Statement) : Script :=
  { s with executed := s.executed + ss.length, calls := s.calls ++ ss.map .execute }

end Script

namespace Database

/-- A database after the given statements. -/
def after (d : Database Script) (ss : List Statement) : Database Script :=
  { d with client := d.client.after ss }

/-- The answer to the statement with the given number, counted from 0, that is executed next. -/
def answer (d : Database Script) (n : Nat) : Answer := d.client.answer (d.client.executed + n)

section After

variable {d : Database Script} {ss ts : List Statement} {n : Nat}

theorem after_nil : d.after [] = d := by
  unfold after Script.after
  rw [List.map_nil, List.append_nil]
  rfl

theorem after_after : (d.after ss).after ts = d.after (ss ++ ts) := by
  unfold after Script.after
  dsimp only
  rw [List.length_append, List.map_append, Nat.add_assoc, List.append_assoc]

theorem answer_after : (d.after ss).answer n = d.answer (ss.length + n) := by
  unfold answer after Script.after
  rw [Nat.add_assoc]

theorem answer_after_singleton (s : Statement) : (d.after [s]).answer n = d.answer (n + 1) := by
  rw [answer_after, List.length_singleton, Nat.add_comm]

/-- A statement is answered and noted. -/
theorem execute_eq (s : Statement) :
    d.execute Script.client s = (d.answer 0, d.after [s]) := rfl

end After

end Database

/-! ## 2. Operations -/

/-- The failure of a change to a row that is not there. -/
def rowNotFound (o : Operation) (index : Nat) : Failure :=
  { kind := .storeRejected, message := "Row not found: " ++ (Value.tuple o.key).quoted
    context := [("table", .text o.table)], operation? := some index }

/-- A change to a row that is not there fails so when its key can be named. -/
theorem keyRefused_eq {o : Operation} (h : o.IsNameable) (index : Nat) :
    Failure.keyRefused "Row not found" o.table o.key index = rowNotFound o index := by
  unfold Failure.keyRefused
  rw [if_neg (Bool.eq_false_iff.mp h)]
  rfl

/-- **An operation is carried out** when its statement succeeds and, if it is to change a row, there
was one. -/
def CarriesOut (o : Operation) : Answer → Prop
  | .ok row? => o.verb = .update → showsNothing row? = false
  | .error _ => False

/-- **Why an operation is not carried out**: its statement fails, or there is no row to change. -/
inductive Refuses (o : Operation) (index : Nat) : Answer → Failure → Prop where
  | failed (f : Failure) : Refuses o index (.error f) f
  | missing (row? : Option (List Value)) (hverb : o.verb = .update)
      (hrow : showsNothing row? = true) : Refuses o index (.ok row?) (rowNotFound o index)

theorem Refuses.not_carriesOut {o : Operation} {index : Nat} {a : Answer} {f : Failure}
    (h : Refuses o index a f) : ¬ CarriesOut o a := by
  cases h with
  | failed f => exact id
  | missing row? hverb hrow =>
    intro hcarries
    cases hrow.symm.trans (hcarries hverb)

section Apply

variable {d : Database Script} {o : Operation} {s : Statement} {i : Nat}

/-- One operation is one statement, whatever comes of it. -/
theorem apply_state (hs : statement o (d.keysOf o.table) = .ok s) :
    (d.apply Script.client o i).2 = d.after [s] := by
  unfold apply
  rw [hs]
  dsimp only
  rw [execute_eq]
  cases d.answer 0 with
  | error f => rfl
  | ok row? =>
    dsimp only
    split <;> rfl

/-- **One operation**: its statement is executed, and it is carried out or not. -/
theorem apply_runs (ho : o.IsNameable) (hs : statement o (d.keysOf o.table) = .ok s) :
    (CarriesOut o (d.answer 0) ∧ d.apply Script.client o i = (.ok (), d.after [s])) ∨
      ∃ f, Refuses o i (d.answer 0) f ∧
        d.apply Script.client o i = (.error f, d.after [s]) := by
  unfold apply
  rw [hs]
  dsimp only
  rw [execute_eq]
  cases d.answer 0 with
  | error f => exact .inr ⟨f, .failed f, rfl⟩
  | ok row? =>
    dsimp only
    split
    · next hnothing =>
      refine .inr ⟨rowNotFound o i, .missing row? hnothing.1 hnothing.2, ?_⟩
      rw [keyRefused_eq ho]
    · next hrow =>
      refine .inl ⟨fun hverb => ?_, rfl⟩
      exact Bool.eq_false_iff.mpr fun hnothing => hrow ⟨hverb, hnothing⟩

/-- **Several operations**: they are carried out in order up to the first one that is not, if there
is one, and no statement is executed behind that one's. -/
theorem applyAll_runs {keysOf : Text → List Text} {os : List Operation} {ss : List Statement}
    (hos : ∀ o ∈ os, o.IsNameable)
    (hss : List.Forall₂ (fun o s => statement o (keysOf o.table) = .ok s) os ss) :
    ∀ (i : Nat) (d : Database Script), d.keysOf = keysOf →
      ((∀ k p, os[k]? = some p → CarriesOut p (d.answer k)) ∧
        applyAll Script.client i os d = (none, d.after ss)) ∨
      ∃ n o f, os[n]? = some o ∧ (∀ k p, k < n → os[k]? = some p → CarriesOut p (d.answer k)) ∧
        Refuses o (i + n) (d.answer n) f ∧
        applyAll Script.client i os d = (some (f, i + n), d.after (ss.take (n + 1))) := by
  induction hss with
  | nil =>
    intro i d _
    rw [after_nil]
    exact .inl ⟨fun k p hp => (by cases hp), rfl⟩
  | @cons o s rest ss hs hrest ih =>
    intro i d hd
    -- what is true of the first operation and, later on, of the others is true of all of them
    have hshift : ∀ {m : Nat}, CarriesOut o (d.answer 0) →
        (∀ k p, k < m → rest[k]? = some p → CarriesOut p ((d.after [s]).answer k)) →
        ∀ k p, k < m + 1 → (o :: rest)[k]? = some p → CarriesOut p (d.answer k) := by
      intro m hfirst hrest k p hk hp
      cases k with
      | zero =>
        cases hp
        exact hfirst
      | succ k =>
        rw [← answer_after_singleton s]
        exact hrest k p (Nat.lt_of_succ_lt_succ hk) hp
    unfold applyAll
    rw [← hd] at hs
    obtain ⟨ho, hothers⟩ := List.forall_mem_cons.mp hos
    rcases apply_runs (i := i) ho hs with ⟨hfirst, happly⟩ | ⟨f, hrefuses, happly⟩
    · rw [happly]
      dsimp only
      rcases ih hothers (i + 1) (d.after [s]) hd with ⟨hall, hruns⟩ |
        ⟨n, p, f, hp, hbefore, hrefuses, hruns⟩
      · rw [hruns, after_after]
        refine .inl ⟨fun k p hp => ?_, rfl⟩
        exact hshift hfirst (fun k p _ => hall k p) k p (Nat.lt_succ_self k) hp
      · rw [hruns, after_after, Nat.add_assoc, Nat.add_comm 1 n]
        rw [answer_after_singleton, Nat.add_assoc, Nat.add_comm 1 n] at hrefuses
        exact .inr ⟨n + 1, p, f, hp, hshift hfirst hbefore, hrefuses, rfl⟩
    · rw [happly]
      exact .inr ⟨0, o, f, rfl, fun k p hk => absurd hk (Nat.not_lt_zero k), hrefuses, rfl⟩

end Apply

/-! ## 3. Transactions -/

/-- The first and the last statement of a transaction. -/
def beginStatement : Statement := { text := "BEGIN TRANSACTION" }

def commitStatement : Statement := { text := "COMMIT" }

def rollbackStatement : Statement := { text := "ROLLBACK" }

/-- **The ways in which a transaction may go**, by the answers to its statements in order: what is
executed, and what breaks it if anything does, with the operation at which that arose. The
statements `ss` are those of the operations. -/
inductive Bracket (answer : Nat → Answer) (os : List Operation) (ss : List Statement) :
    List Statement → Option Broken → Prop where
  | unbegun {f : Failure} (hbegun : answer 0 = .error f) :
      Bracket answer os ss [beginStatement] (some (f, none))
  | refused {n : Nat} {o : Operation} {f : Failure} (hbegun : (answer 0).isOk = true)
      (ho : os[n]? = some o)
      (hbefore : ∀ k p, k < n → os[k]? = some p → CarriesOut p (answer (k + 1)))
      (hrefuses : Refuses o n (answer (n + 1)) f) :
      Bracket answer os ss (beginStatement :: ss.take (n + 1) ++ [rollbackStatement])
        (some (f, some n))
  | uncommitted {f : Failure} (hbegun : (answer 0).isOk = true)
      (hall : ∀ k p, os[k]? = some p → CarriesOut p (answer (k + 1)))
      (hcommit : answer (os.length + 1) = .error f) :
      Bracket answer os ss (beginStatement :: ss ++ [commitStatement, rollbackStatement])
        (some (f, none))
  | committed (hbegun : (answer 0).isOk = true)
      (hall : ∀ k p, os[k]? = some p → CarriesOut p (answer (k + 1)))
      (hcommit : (answer (os.length + 1)).isOk = true) :
      Bracket answer os ss (beginStatement :: ss ++ [commitStatement]) none

section Transaction

variable {d : Database Script} {os : List Operation} {ss : List Statement}

/-- A transaction is taken back by one statement; what had broken it is still what has. -/
theorem rollBack_runs (hanswer : ∀ f, d.answer 0 = .error f → IsTrouble f) (broken : Broken) :
    (d.rollBack Script.client broken).1 = broken ∧
      (d.rollBack Script.client broken).2.1 = d.after [rollbackStatement] := by
  unfold rollBack
  rw [execute_eq]
  cases ha : d.answer 0 with
  | ok row? => exact ⟨rfl, rfl⟩
  | error f =>
    have htrouble := hanswer f ha
    unfold IsTrouble at htrouble
    dsimp only
    split
    · next hforeign => exact absurd hforeign htrouble
    · exact ⟨rfl, rfl⟩

/-- **Every transaction goes in one of these ways.** -/
theorem transaction_bracket (hos : ∀ o ∈ os, o.IsNameable)
    (hss : List.Forall₂ (fun o s => statement o (d.keysOf o.table) = .ok s) os ss)
    (hanswers : ∀ n f, d.answer n = .error f → IsTrouble f) :
    ∃ statements, Bracket d.answer os ss statements (d.transaction Script.client os).1 ∧
      (d.transaction Script.client os).2.1 = d.after statements := by
  have hlater : ∀ (ts : List Statement) (f : Failure),
      (d.after ts).answer 0 = .error f → IsTrouble f := by
    intro ts f hf
    rw [answer_after] at hf
    exact hanswers _ f hf
  have hnext : ∀ k, (d.after [beginStatement]).answer k = d.answer (k + 1) := fun k =>
    answer_after_singleton beginStatement
  have hcommits : (d.after ([beginStatement] ++ ss)).answer 0 = d.answer (os.length + 1) := by
    rw [answer_after, List.length_append, ← hss.length_eq, List.length_singleton, Nat.add_comm 1]
  have hfirst : ({ text := "BEGIN TRANSACTION" } : Statement) = beginStatement := rfl
  have hlast : ({ text := "COMMIT" } : Statement) = commitStatement := rfl
  unfold transaction
  rw [hfirst, hlast, execute_eq]
  cases hbegin : d.answer 0 with
  | error f => exact ⟨[beginStatement], .unbegun hbegin, rfl⟩
  | ok row? =>
    have hbegun : (d.answer 0).isOk = true := by
      rw [hbegin]
      rfl
    dsimp only
    rcases applyAll_runs hos hss 0 (d.after [beginStatement]) rfl with ⟨hall, hruns⟩ |
      ⟨n, o, f, ho, hbefore, hrefuses, hruns⟩
    · have hcarries : ∀ k p, os[k]? = some p → CarriesOut p (d.answer (k + 1)) :=
        fun k p hp => hnext k ▸ hall k p hp
      rw [hruns, after_after]
      dsimp only
      rw [execute_eq, hcommits]
      cases hcommit : d.answer (os.length + 1) with
      | ok row? =>
        refine ⟨_, .committed hbegun hcarries ?_, after_after⟩
        rw [hcommit]
        rfl
      | error f =>
        obtain ⟨hbroken, hstate⟩ :=
          rollBack_runs (hlater ([beginStatement] ++ ss ++ [commitStatement])) (f, none)
        rw [after_after]
        dsimp only
        rw [hbroken, hstate, after_after, List.append_assoc]
        exact ⟨_, .uncommitted hbegun hcarries hcommit, rfl⟩
    · obtain ⟨hbroken, hstate⟩ :=
        rollBack_runs (hlater ([beginStatement] ++ ss.take (n + 1))) (f, some n)
      rw [hruns, after_after, Nat.zero_add]
      dsimp only
      rw [hbroken, hstate, after_after]
      rw [hnext, Nat.zero_add] at hrefuses
      exact ⟨_, .refused hbegun ho (fun k p hk hp => hnext k ▸ hbefore k p hk hp) hrefuses, rfl⟩

/-- **A transaction is committed** when all its statements succeed and no row is missed. -/
theorem Bracket.committed_iff {answer : Nat → Answer} {statements : List Statement}
    {broken? : Option Broken} (h : Bracket answer os ss statements broken?) :
    broken? = none ↔ (answer 0).isOk = true ∧
      (∀ k p, os[k]? = some p → CarriesOut p (answer (k + 1))) ∧
      (answer (os.length + 1)).isOk = true := by
  cases h with
  | unbegun hbegun =>
    rw [hbegun]
    exact ⟨fun h => (by cases h), fun h => (by cases h.1)⟩
  | refused hbegun ho hbefore hrefuses =>
    refine ⟨fun h => (by cases h), fun h => ?_⟩
    exact absurd (h.2.1 _ _ ho) hrefuses.not_carriesOut
  | uncommitted hbegun hall hcommit =>
    rw [hcommit]
    exact ⟨fun h => (by cases h), fun h => (by cases h.2.2)⟩
  | committed hbegun hall hcommit => exact ⟨fun _ => ⟨hbegun, hall, hcommit⟩, fun _ => rfl⟩

end Transaction

/-! ## 4. Failures -/

/-- How a limit is written. -/
def limitText (timeout? : Option Binary64) : Text :=
  match timeout? with
  | some t => Number.shownFloat.write t
  | none => "None"

/-- **What the caller learns** of a transaction and of what has broken it: an interruption means that
it has taken too long; conflicts and trouble with input or output may pass; any other failure of the
database is a refusal, of the operation at which it arose if it arose at one; and so is a change to a
row that is not there. -/
inductive Reports (path : Text) (timeout? : Option Binary64) :
    Option Broken → Except Failure Unit → Prop where
  | done : Reports path timeout? none (.ok ())
  | interrupted {f : Failure} (operation? : Option Nat)
      (h : f.kind = .outside "InterruptException") :
      Reports path timeout? (some (f, operation?))
        (.error (.outside "TimeoutError"
          ("DuckDB transaction exceeded " ++ limitText timeout? ++ "s")))
  | passing {f : Failure} {label : Text} (operation? : Option Nat)
      (hlabel : label ∈ passingLabels) (h : f.kind = .outside label) :
      Reports path timeout? (some (f, operation?))
        (.error { kind := .storeTransient, message := "DuckDB transaction failed: " ++ f.text
                  context := [("database", .text path)] })
  | refused {f : Failure} (operation? : Option Nat) (h : IsTrouble f)
      (hinterrupted : f.kind ≠ .outside "InterruptException")
      (hpassing : ∀ label ∈ passingLabels, f.kind ≠ .outside label) :
      Reports path timeout? (some (f, operation?))
        (.error { kind := .storeRejected, message := "DuckDB rejected operation: " ++ f.text
                  context := [("database", .text path)], operation? })
  | missing (o : Operation) (index : Nat) :
      Reports path timeout? (some (rowNotFound o index, some index))
        (.error (rowNotFound o index))

/-- **A failure of the database is passed on** by its name. -/
theorem report_reports {f : Failure} (h : IsTrouble f) (d : Database Script)
    (timeout? : Option Binary64) (operation? : Option Nat) :
    Reports d.path timeout? (some (f, operation?)) (.error (d.report timeout? (f, operation?))) := by
  have htrouble := h
  unfold IsTrouble trouble at htrouble
  unfold report trouble
  dsimp only
  cases hkind : f.kind with
  | outside label =>
    rw [hkind] at htrouble
    dsimp only at htrouble ⊢
    by_cases hinterrupted : label = Text.ofString "InterruptException"
    · rw [if_pos hinterrupted]
      exact .interrupted operation? (hinterrupted ▸ hkind)
    · rw [if_neg hinterrupted] at htrouble ⊢
      by_cases hpassing : passingLabels.contains label = true
      · rw [if_pos hpassing]
        exact .passing operation? (List.contains_iff_mem.mp hpassing) hkind
      · rw [if_neg hpassing] at htrouble ⊢
        have hrefused : refusedLabels.contains label = true := by
          by_contra hnot
          rw [if_neg hnot] at htrouble
          exact htrouble rfl
        rw [if_pos hrefused]
        refine .refused operation? h (fun heq => ?_) fun other hother heq => ?_
        · cases hkind.symm.trans heq
          exact hinterrupted rfl
        · cases hkind.symm.trans heq
          exact hpassing (List.contains_iff_mem.mpr hother)
  | _ =>
    rw [hkind] at htrouble
    exact absurd rfl htrouble

/-- The outcome of a submission whose transaction has been broken by this or by nothing. -/
def Database.outcomeOf (d : Database Script) (timeout? : Option Binary64) :
    Option Broken → Except Failure Unit
  | none => .ok ()
  | some broken => .error (d.report timeout? broken)

/-- What has broken a transaction is passed on, whichever way the transaction has gone. -/
theorem Bracket.reports {answer : Nat → Answer} {os : List Operation}
    {ss statements : List Statement} {broken? : Option Broken}
    (h : Bracket answer os ss statements broken?)
    (hanswers : ∀ n f, answer n = .error f → IsTrouble f) (d : Database Script)
    (timeout? : Option Binary64) :
    Reports d.path timeout? broken? (d.outcomeOf timeout? broken?) := by
  cases h with
  | unbegun hbegun => exact report_reports (hanswers _ _ hbegun) d timeout? none
  | @refused n o f hbegun ho hbefore hrefuses =>
    generalize ha : answer (n + 1) = a at hrefuses
    cases hrefuses with
    | failed f => exact report_reports (hanswers _ _ ha) d timeout? (some n)
    | missing row? hverb hrow => exact .missing o n
  | uncommitted hbegun hall hcommit =>
    exact report_reports (hanswers _ _ hcommit) d timeout? none
  | committed hbegun hall hcommit => exact .done

/-! ## 5. Submissions -/

section Submit

variable {d : Database Script}

/-- Operations that come from records have statements. -/
theorem statements_exist {os : List Operation} (hos : ∀ o ∈ os, o.IsWritable (d.keysOf o.table)) :
    ∃ ss, List.Forall₂ (fun o s => statement o (d.keysOf o.table) = .ok s) os ss := by
  induction os with
  | nil => exact ⟨[], .nil⟩
  | cons o rest ih =>
    obtain ⟨s, hs⟩ := statement_isOk (hos o List.mem_cons_self)
    obtain ⟨ss, hss⟩ := ih fun p hp => hos p (List.mem_cons_of_mem o hp)
    exact ⟨s :: ss, .cons hs hss⟩

/-- Operations that come from records have keys that can be named. -/
theorem keys_areNameable {os : List Operation} (hos : ∀ o ∈ os, o.IsWritable (d.keysOf o.table)) :
    ∀ o ∈ os, o.IsNameable := by
  intro o ho
  refine Operation.IsNative.isNameable fun e he => ?_
  obtain ⟨f, path, v, hv⟩ := (hos o ho).values e he
  exact ⟨f, Field.convert_conforms f hv⟩

/-- The calls that start and stop the timer of a submission, if it is watched. -/
def timerCalls (timeout? : Option Binary64) : List Call × List Call :=
  match watched? timeout? with
  | some t => ([.startTimer t], [.stopTimer])
  | none => ([], [])

/-- A submission over an open connection is one transaction between the calls for its timer. -/
theorem submit_transaction (os : List Operation) (timeout? : Option Binary64)
    (hopen : d.isOpen = true) :
    ∃ d₁ : Database Script, d₁.answer = d.answer ∧ d₁.keysOf = d.keysOf ∧ d₁.path = d.path ∧
      d₁.client.calls = d.client.calls ++ (timerCalls timeout?).1 ∧
      (d.submit Script.client os timeout?).outcome =
        (d₁.transaction Script.client os).2.1.outcomeOf timeout?
          (d₁.transaction Script.client os).1 ∧
      (d.submit Script.client os timeout?).state.client.calls =
        (d₁.transaction Script.client os).2.1.client.calls ++ (timerCalls timeout?).2 := by
  unfold submit openUp timerCalls
  rw [if_pos hopen]
  dsimp only
  cases watched? timeout? with
  | none =>
    refine ⟨d, rfl, rfl, rfl, (List.append_nil _).symm, ?_, (List.append_nil _).symm⟩
    cases (d.transaction Script.client os).1 <;> rfl
  | some t =>
    refine ⟨{ d with client := Script.client.startTimer d.client t }, rfl, rfl, rfl, rfl, ?_, rfl⟩
    dsimp only
    cases (transaction Script.client { d with client := Script.client.startTimer d.client t } os).1
      <;> rfl

end Submit

/-- **A submission keeps the bracket of its transaction.** For operations that come from records,
over an open connection, whatever the database answers to each statement as long as its failures are
its own, and whether or not there is a limit: the statements that are executed, between the calls
that start and stop the timer, are those of one of the ways in which a transaction may go, with one
statement for each operation; the submission succeeds exactly when all statements do, no change
misses its row, and the commit succeeds; and what the caller learns follows from what has broken the
transaction. -/
theorem submit_bracket {d : Database Script} {os : List Operation} (timeout? : Option Binary64)
    (hopen : d.isOpen = true) (hos : ∀ o ∈ os, o.IsWritable (d.keysOf o.table))
    (hanswers : ∀ n f, d.answer n = .error f → IsTrouble f) :
    ∃ ss statements broken?,
      List.Forall₂ (fun o s => statement o (d.keysOf o.table) = .ok s) os ss ∧
      Bracket d.answer os ss statements broken? ∧
      (d.submit Script.client os timeout?).state.client.calls =
        d.client.calls ++ (timerCalls timeout?).1 ++ statements.map .execute ++
          (timerCalls timeout?).2 ∧
      Reports d.path timeout? broken? (d.submit Script.client os timeout?).outcome ∧
      ((d.submit Script.client os timeout?).outcome = .ok () ↔
        (d.answer 0).isOk = true ∧ (∀ k o, os[k]? = some o → CarriesOut o (d.answer (k + 1))) ∧
          (d.answer (os.length + 1)).isOk = true) := by
  obtain ⟨d₁, hanswer, hkeys, hpath, hstarted, houtcome, hcalls⟩ :=
    submit_transaction os timeout? hopen
  obtain ⟨ss, hss⟩ := statements_exist hos
  rw [← hkeys] at hss
  rw [← hanswer] at hanswers ⊢
  obtain ⟨statements, hbracket, hafter⟩ := transaction_bracket (keys_areNameable hos) hss hanswers
  rw [hafter] at houtcome hcalls
  have hreports := hbracket.reports hanswers (d₁.after statements) timeout?
  rw [← houtcome] at hreports
  refine ⟨ss, statements, _, hkeys ▸ hss, hbracket, ?_, hpath ▸ hreports, ?_⟩
  · rw [hcalls, ← hstarted]
    rfl
  · rw [← hbracket.committed_iff, houtcome]
    cases (d₁.transaction Script.client os).1 with
    | none => exact ⟨fun _ => rfl, fun _ => rfl⟩
    | some broken => exact ⟨fun h => (by cases h), fun h => (by cases h)⟩

/-- Three operations under a limit, the second of which is to change a row that is not there, and the
transaction cannot be taken back either: it is rejected under the index of that operation, and the
third one is not executed. -/
theorem submit_bracket_missing :
    let write : Verb → Int → Operation := fun verb n => ⟨"t", verb, [("id", .int n)], ["id"]⟩
    let os := [write .insert 1, write .update 2, write .insert 3]
    let answer : Nat → Answer := fun n =>
      if n = 2 then .ok (some [.int 0])
      else if n = 3 then .error (.outside "IOException" "no space left")
      else .ok (some [.int 1])
    let d : Database Script :=
      { path := ":memory:", createTables := true, isOpen := true, client := { answer } }
    ∃ statements : List Statement,
      (d.submit Script.client os (some (.ofInt 5))).state.client.calls =
        .startTimer (.ofInt 5) :: statements.map .execute ++ [.stopTimer] ∧
      statements.length = 4 ∧
      ∃ f, (d.submit Script.client os (some (.ofInt 5))).outcome = .error f ∧
        f.kind = .storeRejected ∧ f.operation? = some 1 := by
  intro write os answer d
  have hos : ∀ o ∈ os, o.IsWritable (d.keysOf o.table) := by
    intro o ho
    obtain ⟨verb, n, hn, rfl⟩ : ∃ verb n, Record.fitsInt64 n = true ∧ o = write verb n := by
      simp only [os, List.mem_cons, List.not_mem_nil, or_false] at ho
      rcases ho with rfl | rfl | rfl <;> exact ⟨_, _, by decide, rfl⟩
    refine ⟨fun name hname => hname, fun e he => ⟨.ofScalar "id" false .int64, [], .int n, ?_⟩⟩
    rw [List.mem_singleton.mp he]
    simp [Field.convert, Field.ofScalar, Value.isNull, Record.scalar, Record.scalar?, hn]
  have hanswers : ∀ n f, d.answer n = .error f → IsTrouble f := by
    intro n f hf
    change answer (0 + n) = .error f at hf
    unfold answer at hf
    split at hf
    · cases hf
    · split at hf
      · cases hf
        decide
      · cases hf
  obtain ⟨ss, statements, broken?, -, -, hcalls, -, -⟩ :=
    submit_bracket (some (.ofInt 5)) rfl hos hanswers
  have hlength : (d.submit Script.client os (some (.ofInt 5))).state.client.calls.length = 6 := by
    decide +kernel
  have htimer : timerCalls (some (.ofInt 5)) = ([.startTimer (.ofInt 5)], [.stopTimer]) := by
    have hwatched : watched? (some (.ofInt 5)) = some (.ofInt 5) := by decide +kernel
    unfold timerCalls
    rw [hwatched]
  have hrefused : (d.submit Script.client os (some (.ofInt 5))).outcome.mapError
      (fun f => (f.kind, f.operation?)) = .error (.storeRejected, some 1) := by
    decide +kernel
  have hbefore : d.client.calls = [] := rfl
  rw [htimer, hbefore] at hcalls
  rw [hcalls] at hlength
  refine ⟨statements, hcalls, by simpa using hlength, ?_⟩
  cases hout : (d.submit Script.client os (some (.ofInt 5))).outcome with
  | ok u =>
    rw [hout] at hrefused
    cases hrefused
  | error f =>
    rw [hout] at hrefused
    obtain ⟨hkind, hoperation⟩ := Prod.mk.inj (Except.error.inj hrefused)
    exact ⟨f, rfl, hkind, hoperation⟩

end Sluice.Sql
