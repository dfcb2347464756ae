import Sluice.Proofs.Sql.Tokens

/-!
# Commands

A command names a table and columns, each of them in a role: what is inserted, what is set, by what a
row is found. Written down it is a sequence of tokens, and the sequence tells the command: no two
commands are written alike, whatever their names are.

* `Command`, `Command.tokens`: commands, and how they are written;
* `listed_inj_of`, `listed_inj`: what is in a list is known by its tokens, up to the sign that ends
  it;
* `Command.tokens_inj`: **commands are known by their tokens**;
* `Command.placeholders`, `count_marks`: the columns whose values a command takes, and **as many
  question marks**.
-/

namespace Sluice.Sql

/-! ## 1. Commands -/

/-- What an insertion does when the row is there already: the columns by which that is seen, and the
columns that are set, each with the one whose new value it takes. If there are none, nothing is
done. -/
structure Conflict where
  keys : List Text
  sets : List (Text × Text)

/-- **What a statement asks for**: to insert a row, instead of another one if need be; to set columns
of the rows that are found; to count them; to delete them. -/
inductive Command where
  | insert (orReplace : Bool) (table : Text) (columns : List Text) (conflict? : Option Conflict)
  | update (table : Text) (sets conditions : List Text)
  | count (table : Text) (conditions : List Text)
  | delete (table : Text) (conditions : List Text)

/-- The columns whose values a command takes, in the order of their places. -/
def Command.placeholders : Command → List Text
  | .insert _ _ columns _ => columns
  | .update _ sets conditions => sets ++ conditions
  | .count _ conditions => conditions
  | .delete _ conditions => conditions

namespace Token

abbrev comma : Token := .sign (.char ',')

abbrev opening : Token := .sign (.char '(')

abbrev closing : Token := .sign (.char ')')

abbrev equals : Token := .sign (.char '=')

end Token

open Token

/-- A column and the place of its value. -/
def equation (n : Text) : List Token := [.name n, equals, mark]

/-- A column and the one whose new value it takes. -/
def transfer (set : Text × Text) : List Token :=
  [.name set.1, equals, .word "EXCLUDED", .sign (.char '.'), .name set.2]

/-- The columns by whose values rows are found. -/
def condition (names : List Text) : List Token :=
  .word "WHERE" :: listed (.word "AND") (names.map equation)

def identifiers (names : List Text) : List Token := listed comma (names.map fun n => [.name n])

def marks (names : List Text) : List Token := listed comma (names.map fun _ => [mark])

/-- The clause for rows that are there already. -/
def Conflict.tokens (c : Conflict) : List Token :=
  [.word "ON", .word "CONFLICT", opening] ++ identifiers c.keys ++ closing :: .word "DO" ::
    (if c.sets = [] then [.word "NOTHING"]
    else .word "UPDATE" :: .word "SET" :: listed comma (c.sets.map transfer))

namespace Command

/-- The word that a command begins with. -/
def verb : Command → Text
  | .insert .. => "INSERT"
  | .update .. => "UPDATE"
  | .count .. => "SELECT"
  | .delete .. => "DELETE"

/-- What stands behind that word. -/
def clauses : Command → List Token
  | .insert orReplace table columns conflict? =>
    (if orReplace then [.word "OR", .word "REPLACE"] else []) ++ .word "INTO" :: .name table ::
      opening :: (identifiers columns ++ closing :: .word "VALUES" ::
        opening :: (marks columns ++ closing :: (conflict?.elim [] Conflict.tokens)))
  | .update table sets conditions =>
    .name table :: .word "SET" :: (listed comma (sets.map equation) ++ condition conditions)
  | .count table conditions =>
    .word "COUNT" :: opening :: .sign (.char '*') :: closing :: .word "FROM" :: .name table ::
      condition conditions
  | .delete table conditions => .word "FROM" :: .name table :: condition conditions

/-- **How a command is written.** -/
def tokens (c : Command) : List Token := .word c.verb :: c.clauses

end Command

/-! ## 2. Commands by their tokens -/

section Lists

variable {α : Type} {separator stop : Token} {f : α → List Token}

/-- **What is listed is known by the tokens**, up to a sign that ends the list: if each item begins
with a name and ends before what may follow it, which are the signs behind items. -/
theorem listed_inj_of {P : List Token → Prop} {as : List α} (hsep : separator ≠ stop)
    (hstop : ∀ n, stop ≠ .name n) (hmore : ∀ x, P (separator :: x)) (hend : ∀ x, P (stop :: x))
    (hname : ∀ a, ∃ n rest, f a = .name n :: rest)
    (hf : ∀ a ∈ as, ∀ b x y, P x → P y → f a ++ x = f b ++ y → a = b ∧ x = y) :
    ∀ {bs : List α} {x y : List Token},
      listed separator (as.map f) ++ stop :: x = listed separator (bs.map f) ++ stop :: y →
      as = bs ∧ x = y := by
  have hfollows : ∀ (cs : List α) (z : List Token),
      P ((cs.map f).flatMap (separator :: ·) ++ stop :: z) := by
    intro cs z
    cases cs with
    | nil => exact hend z
    | cons c cs => exact hmore _
  have hrest : ∀ {as bs : List α} {x y : List Token},
      (∀ a ∈ as, ∀ b x y, P x → P y → f a ++ x = f b ++ y → a = b ∧ x = y) →
      (as.map f).flatMap (separator :: ·) ++ stop :: x =
        (bs.map f).flatMap (separator :: ·) ++ stop :: y → as = bs ∧ x = y := by
    intro as
    induction as with
    | nil =>
      intro bs x y _ h
      cases bs with
      | nil => exact ⟨rfl, (List.cons.inj h).2⟩
      | cons b bs => exact absurd (List.cons.inj h).1.symm hsep
    | cons a as ih =>
      intro bs x y hf h
      cases bs with
      | nil => exact absurd (List.cons.inj h).1 hsep
      | cons b bs =>
        simp only [List.map_cons, List.flatMap_cons, List.cons_append, List.append_assoc,
          List.cons.injEq, true_and] at h
        obtain ⟨rfl, htail⟩ := hf a List.mem_cons_self b _ _ (hfollows as x) (hfollows bs y) h
        obtain ⟨rfl, hxy⟩ := ih (fun a' ha' => hf a' (List.mem_cons_of_mem a ha')) htail
        exact ⟨rfl, hxy⟩
  have hfirst : ∀ (b : α) (z w : List Token), stop :: z ≠ f b ++ w := by
    intro b z w h
    obtain ⟨n, rest, hb⟩ := hname b
    rw [hb] at h
    exact hstop n (List.cons.inj h).1
  intro bs x y h
  cases as with
  | nil =>
    cases bs with
    | nil => exact ⟨rfl, (List.cons.inj h).2⟩
    | cons b bs =>
      simp only [List.map_cons, listed, List.append_assoc] at h
      exact absurd h (hfirst b _ _)
  | cons a as =>
    cases bs with
    | nil =>
      simp only [List.map_cons, listed, List.append_assoc] at h
      exact absurd h.symm (hfirst a _ _)
    | cons b bs =>
      simp only [List.map_cons, listed, List.append_assoc] at h
      obtain ⟨rfl, htail⟩ := hf a List.mem_cons_self b _ _ (hfollows as x) (hfollows bs y) h
      obtain ⟨rfl, hxy⟩ := hrest (fun a' ha' => hf a' (List.mem_cons_of_mem a ha')) htail
      exact ⟨rfl, hxy⟩

/-- **What is listed is known by the tokens**, if each item begins with a name and ends by
itself. -/
theorem listed_inj (hsep : separator ≠ stop) (hstop : ∀ n, stop ≠ .name n)
    (hname : ∀ a, ∃ n rest, f a = .name n :: rest)
    (hf : ∀ a b x y, f a ++ x = f b ++ y → a = b ∧ x = y) {as bs : List α} {x y : List Token}
    (h : listed separator (as.map f) ++ stop :: x = listed separator (bs.map f) ++ stop :: y) :
    as = bs ∧ x = y :=
  listed_inj_of (P := fun _ => True) hsep hstop (fun _ => trivial) (fun _ => trivial) hname
    (fun a _ b x y _ _ => hf a b x y) h

theorem identifiers_inj {ns ms : List Text} {x y : List Token}
    (h : identifiers ns ++ closing :: x = identifiers ms ++ closing :: y) : ns = ms ∧ x = y := by
  refine listed_inj (by decide) (by simp) (fun n => ⟨n, [], rfl⟩) (fun n m x y h => ?_) h
  simpa using h

theorem equations_inj {ns ms : List Text} {x y : List Token} (hsep : separator ≠ stop)
    (hstop : ∀ n, stop ≠ .name n)
    (h : listed separator (ns.map equation) ++ stop :: x =
      listed separator (ms.map equation) ++ stop :: y) : ns = ms ∧ x = y := by
  refine listed_inj hsep hstop (fun n => ⟨n, _, rfl⟩) (fun n m x y h => ?_) h
  simpa [equation] using h

theorem condition_inj {ns ms : List Text} (h : condition ns = condition ms) : ns = ms := by
  have hlist := congrArg (· ++ [closing]) (List.cons.inj h).2
  exact (equations_inj (by decide) (by simp) hlist).1

theorem transfers_inj {ss ts : List (Text × Text)}
    (h : listed comma (ss.map transfer) = listed comma (ts.map transfer)) : ss = ts := by
  have hlist := congrArg (· ++ [closing]) h
  refine (listed_inj (by decide) (by simp) (fun s => ⟨s.1, _, rfl⟩) (fun s t x y h => ?_) hlist).1
  simp only [List.cons_append, List.cons.injEq, Token.name.injEq] at h
  obtain ⟨hfirst, -, -, -, hsecond, hrest⟩ := h
  exact ⟨Prod.ext hfirst hsecond, hrest⟩

end Lists

theorem Conflict.tokens_inj {c c' : Conflict} (h : c.tokens = c'.tokens) : c = c' := by
  obtain ⟨keys, sets⟩ := c
  obtain ⟨keys', sets'⟩ := c'
  unfold Conflict.tokens at h
  simp only [List.cons_append, List.nil_append, List.cons.injEq, true_and] at h
  obtain ⟨rfl, hrest⟩ := identifiers_inj h
  have hdo := (List.cons.inj hrest).2
  by_cases hsets : sets = []
  · by_cases hsets' : sets' = []
    · rw [hsets, hsets']
    · rw [if_pos hsets, if_neg hsets'] at hdo
      exact absurd (List.cons.inj hdo).1 (by decide)
  · by_cases hsets' : sets' = []
    · rw [if_neg hsets, if_pos hsets'] at hdo
      exact absurd (List.cons.inj hdo).1 (by decide)
    · rw [if_neg hsets, if_neg hsets'] at hdo
      simp only [List.cons.injEq, true_and] at hdo
      rw [transfers_inj hdo]

/-- **Commands are known by their tokens**: by the first word which command it is, and by the lists
that follow what it names, each in its role. -/
theorem Command.tokens_inj {c c' : Command} (h : c.tokens = c'.tokens) : c = c' := by
  obtain ⟨hverb, hclauses⟩ := List.cons.inj h
  cases c with
  | insert orReplace table columns conflict? =>
    cases c' with
    | insert orReplace' table' columns' conflict?' =>
      simp only [clauses] at hclauses
      have hreplace : orReplace = orReplace' := by
        cases orReplace <;> cases orReplace'
        · rfl
        · exact absurd (List.cons.inj hclauses).1 (by decide)
        · exact absurd (List.cons.inj hclauses).1 (by decide)
        · rfl
      subst hreplace
      simp only [List.append_cancel_left_eq, List.cons.injEq, true_and, Token.name.injEq] at hclauses
      obtain ⟨rfl, hlists⟩ := hclauses
      obtain ⟨rfl, hvalues⟩ := identifiers_inj hlists
      simp only [List.cons.injEq, true_and, List.append_cancel_left_eq] at hvalues
      cases conflict? with
      | none =>
        cases conflict?' with
        | none => rfl
        | some d => cases hvalues
      | some d =>
        cases conflict?' with
        | none => cases hvalues
        | some d' => rw [Conflict.tokens_inj hvalues]
    | update | count | delete =>
      dsimp only [verb] at hverb
      exact absurd hverb (by decide)
  | update table sets conditions =>
    cases c' with
    | update table' sets' conditions' =>
      simp only [clauses, List.cons.injEq, true_and, Token.name.injEq] at hclauses
      obtain ⟨rfl, hlists⟩ := hclauses
      obtain ⟨rfl, hrest⟩ := equations_inj (by decide) (by simp) hlists
      rw [condition_inj (congrArg (Token.word "WHERE" :: ·) hrest)]
    | insert | count | delete =>
      dsimp only [verb] at hverb
      exact absurd hverb (by decide)
  | count table conditions =>
    cases c' with
    | count table' conditions' =>
      simp only [clauses, List.cons.injEq, true_and, Token.name.injEq] at hclauses
      obtain ⟨rfl, hrest⟩ := hclauses
      rw [condition_inj hrest]
    | insert | update | delete =>
      dsimp only [verb] at hverb
      exact absurd hverb (by decide)
  | delete table conditions =>
    cases c' with
    | delete table' conditions' =>
      simp only [clauses, List.cons.injEq, true_and, Token.name.injEq] at hclauses
      obtain ⟨rfl, hrest⟩ := hclauses
      rw [condition_inj hrest]
    | insert | update | count =>
      dsimp only [verb] at hverb
      exact absurd hverb (by decide)

/-! ## 3. Places for values -/

section Marks

variable {α : Type} {separator : Token} {f : α → List Token} {k : Nat}

theorem count_listed (hsep : separator ≠ mark) (hf : ∀ a, (f a).count mark = k) (as : List α) :
    (listed separator (as.map f)).count mark = as.length * k := by
  have hmore : ∀ as : List α,
      ((as.map f).flatMap (separator :: ·)).count mark = as.length * k := by
    intro as
    induction as with
    | nil => rw [List.length_nil, Nat.zero_mul]; rfl
    | cons a as ih =>
      rw [List.map_cons, List.flatMap_cons, List.count_append, ih, List.count_cons_of_ne hsep, hf,
        List.length_cons, Nat.succ_mul, Nat.add_comm]
  cases as with
  | nil => rw [List.length_nil, Nat.zero_mul]; rfl
  | cons a as =>
    simp only [List.map_cons, listed, List.count_append, hf, hmore, List.length_cons]
    rw [Nat.succ_mul, Nat.add_comm]

theorem count_condition (names : List Text) : (condition names).count mark = names.length := by
  unfold condition
  rw [List.count_cons_of_ne (by decide), count_listed (k := 1) (by decide) fun n => ?_, Nat.mul_one]
  simp [equation]

theorem count_identifiers (names : List Text) : (identifiers names).count mark = 0 := by
  unfold identifiers
  rw [count_listed (k := 0) (by decide) fun n => ?_, Nat.mul_zero]
  simp

theorem Conflict.count_tokens (c : Conflict) : c.tokens.count mark = 0 := by
  have hsets : (listed comma (c.sets.map transfer)).count mark = 0 := by
    rw [count_listed (k := 0) (by decide) fun s => ?_, Nat.mul_zero]
    simp [transfer]
  unfold Conflict.tokens
  by_cases hnone : c.sets = []
  · simp [hnone, count_identifiers]
  · simp [hnone, count_identifiers, hsets]

/-- **A command has as many question marks as it takes values.** -/
theorem Command.count_tokens (c : Command) : c.tokens.count mark = c.placeholders.length := by
  cases c with
  | insert orReplace table columns conflict? =>
    have hmarks : (marks columns).count mark = columns.length := by
      unfold marks
      rw [count_listed (k := 1) (by decide) fun n => ?_, Nat.mul_one]
      rfl
    have hconflict : (conflict?.elim [] Conflict.tokens).count mark = 0 := by
      cases conflict? with
      | none => rfl
      | some c => exact c.count_tokens
    cases orReplace <;>
      simp [tokens, clauses, placeholders, count_identifiers, hmarks, hconflict]
  | update table sets conditions =>
    have hsets : (listed comma (sets.map equation)).count mark = sets.length := by
      rw [count_listed (k := 1) (by decide) fun n => ?_, Nat.mul_one]
      simp [equation]
    simp [tokens, clauses, placeholders, count_condition, hsets]
  | count table conditions => simp [tokens, clauses, placeholders, count_condition]
  | delete table conditions => simp [tokens, clauses, placeholders, count_condition]

end Marks

end Sluice.Sql
