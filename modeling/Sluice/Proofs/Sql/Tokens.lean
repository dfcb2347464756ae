import Sluice.Sql.Statement
import Mathlib.Data.List.Basic
import Mathlib.Data.List.Forall2

/-!
# Reading SQL

A statement is read symbol by symbol. Between double quotes stands an identifier, in which two double
quotes are one; outside them letters make words, blanks divide, and everything else stands for
itself. What a text reads as is fixed by the text alone, so it can be asked of a statement that is
put together from parts whether it reads as they do.

* `Mode`, `run`, `tokens?`: the reading;
* `Closes`, `Reads`: texts that end between tokens, and texts that are tokens;
* `Reads.append`, `Closes.reads`: **texts that are read one behind the other**;
* `reads_quote`: **an identifier between quotes is one token, whatever is in it**;
* `reads_joined`, `reads_join`: texts with a separator between neighbours.
-/

namespace Sluice.Sql

/-! ## 1. Tokens -/

/-- A token: the name between double quotes, a word, or another sign. -/
inductive Token where
  | name (n : Text)
  | word (w : Text)
  | sign (s : Symbol)
  deriving DecidableEq, Repr

/-- The question mark that stands for a parameter. -/
abbrev Token.mark : Token := .sign (.char '?')

/-- The double quote around an identifier. -/
abbrev quoteSign : Symbol := .char '"'

/-- A letter of a word. -/
def isLetter : Symbol → Bool
  | .char c => c.isAlpha
  | .half _ => false

/-- How far a reading is: between tokens, in a word, in an identifier, or behind a quote in one, which
either ends it or is the first of two. -/
inductive Mode where
  | between
  | word (w : Text)
  | inside (n : Text)
  | behind (n : Text)
  deriving DecidableEq, Repr

namespace Mode

/-- A symbol between tokens. -/
def start (s : Symbol) : Mode × List Token :=
  if s = quoteSign then (.inside [], [])
  else if isLetter s then (.word [s], [])
  else if s = .char ' ' then (.between, [])
  else (.between, [.sign s])

/-- A symbol after what has been read: how far the reading is then, and which tokens are complete. -/
def step : Mode → Symbol → Mode × List Token
  | .between, s => start s
  | .word w, s =>
    if isLetter s then (.word (w ++ [s]), []) else ((start s).1, .word w :: (start s).2)
  | .inside n, s => if s = quoteSign then (.behind n, []) else (.inside (n ++ [s]), [])
  | .behind n, s =>
    if s = quoteSign then (.inside (n ++ [s]), []) else ((start s).1, .name n :: (start s).2)

/-- The tokens that the end of the text completes; an identifier is not completed by it. -/
def finish : Mode → Option (List Token)
  | .between => some []
  | .word w => some [.word w]
  | .inside _ => none
  | .behind n => some [.name n]

end Mode

/-- A text after what has been read. -/
def run : Mode → Text → Mode × List Token
  | m, [] => (m, [])
  | m, s :: rest =>
    let after := run (m.step s).1 rest
    (after.1, (m.step s).2 ++ after.2)

/-- The tokens of a text, if it ends no identifier too early. -/
def tokens? (t : Text) : Option (List Token) :=
  (run .between t).1.finish.map ((run .between t).2 ++ ·)

/-- Tokens with a separator between neighbours. -/
def listed (separator : Token) : List (List Token) → List Token
  | [] => []
  | ts :: rest => ts ++ rest.flatMap (separator :: ·)

/-! ## 2. Texts behind one another -/

/-- **A text is some tokens.** -/
def Reads (t : Text) (ts : List Token) : Prop := tokens? t = some ts

/-- A text is some tokens, and ends between them. -/
def Closes (t : Text) (ts : List Token) : Prop := run .between t = (.between, ts)

/-- A text that begins with neither a letter nor a quote, so that it does not go on with a word or an
identifier before it. -/
def Divides (t : Text) : Prop := ∃ s ∈ t.head?, isLetter s = false ∧ s ≠ quoteSign

instance (t : Text) (ts : List Token) : Decidable (Reads t ts) :=
  inferInstanceAs (Decidable (_ = _))

instance (t : Text) (ts : List Token) : Decidable (Closes t ts) :=
  inferInstanceAs (Decidable (_ = _))

instance (t : Text) : Decidable (Divides t) :=
  inferInstanceAs (Decidable (∃ s ∈ t.head?, _))

section Append

variable {t u : Text} {ts us : List Token} {m : Mode}

theorem run_append (m : Mode) (t u : Text) :
    run m (t ++ u) = ((run (run m t).1 u).1, (run m t).2 ++ (run (run m t).1 u).2) := by
  induction t generalizing m with
  | nil => rfl
  | cons s t ih =>
    rw [List.cons_append, run, run, ih]
    dsimp only
    rw [List.append_assoc]

theorem Divides.append (h : Divides t) (u : Text) : Divides (t ++ u) := by
  obtain ⟨s, hs, hsign⟩ := h
  obtain ⟨rest, rfl⟩ := List.head?_eq_some_iff.mp hs
  exact ⟨s, rfl, hsign⟩

/-- What has been read is complete when a text does not go on with it. -/
theorem run_divides (hu : Divides u) {last : List Token} (hm : m.finish = some last) :
    run m u = ((run .between u).1, last ++ (run .between u).2) := by
  obtain ⟨s, hs, hletter, hquote⟩ := hu
  obtain ⟨rest, rfl⟩ := List.head?_eq_some_iff.mp hs
  cases m with
  | between =>
    cases hm
    rfl
  | word w =>
    cases hm
    have hstep : (Mode.word w).step s = ((Mode.start s).1, .word w :: (Mode.start s).2) := by
      rw [Mode.step, hletter]
      rfl
    rw [run, hstep]
    rfl
  | inside n => cases hm
  | behind n =>
    cases hm
    have hstep : (Mode.behind n).step s = ((Mode.start s).1, .name n :: (Mode.start s).2) := by
      rw [Mode.step, if_neg hquote]
    rw [run, hstep]
    rfl

theorem Reads.eq (ht : Reads t ts) (heq : ts = us) : Reads t us := heq ▸ ht

/-- **A text is read behind one that ends between tokens.** -/
theorem Closes.reads (ht : Closes t ts) (hu : Reads u us) : Reads (t ++ u) (ts ++ us) := by
  obtain ⟨last, hlast, rfl⟩ := Option.map_eq_some_iff.mp hu
  unfold Reads tokens?
  unfold Closes at ht
  rw [run_append, ht]
  dsimp only
  rw [hlast, Option.map_some, List.append_assoc]

/-- **A text is read behind another**, if it does not go on with its last token. -/
theorem Reads.append (ht : Reads t ts) (hu : Reads u us) (hdivides : Divides u) :
    Reads (t ++ u) (ts ++ us) := by
  obtain ⟨last, hlast, rfl⟩ := Option.map_eq_some_iff.mp ht
  obtain ⟨last', hlast', rfl⟩ := Option.map_eq_some_iff.mp hu
  unfold Reads tokens?
  rw [run_append, run_divides hdivides hlast]
  dsimp only
  rw [hlast', Option.map_some]
  simp only [List.append_assoc]

/-- A text ends between tokens when its last part does. -/
theorem Reads.closes (ht : Reads t ts) (hu : Closes u us) (hdivides : Divides u) :
    Closes (t ++ u) (ts ++ us) := by
  obtain ⟨last, hlast, rfl⟩ := Option.map_eq_some_iff.mp ht
  unfold Closes at hu ⊢
  rw [run_append, run_divides hdivides hlast, hu, List.append_assoc]

end Append

/-! ## 3. Identifiers -/

/-- Behind the first quote, a name with its quotes doubled is read as that name. -/
theorem run_inside (n name : Text) :
    run (.inside n) (name.flatMap fun s =>
      if s = .char '"' then [.char '"', .char '"'] else [s]) = (.inside (n ++ name), []) := by
  induction name generalizing n with
  | nil => rw [List.flatMap_nil, List.append_nil, run]
  | cons s name ih =>
    have hone : run (.inside n) (if s = .char '"' then [.char '"', .char '"'] else [s]) =
        (.inside (n ++ [s]), []) := by
      by_cases hs : s = quoteSign
      · subst hs
        rfl
      · rw [if_neg hs, run, Mode.step, if_neg hs]
        rfl
    rw [List.flatMap_cons, run_append, hone]
    dsimp only
    rw [ih, List.append_assoc]
    rfl

/-- **An identifier between quotes is one token, whatever is in it.** -/
theorem reads_quote (name : Text) : Reads (quote name) [.name name] := by
  have hopen : run .between [.char '"'] = (.inside [], []) := rfl
  have hquote : run .between (quote name) = (.behind name, []) := by
    unfold quote
    rw [← List.singleton_append, List.append_assoc, run_append, hopen]
    dsimp only
    rw [run_append, run_inside]
    rfl
  unfold Reads tokens?
  rw [hquote]
  rfl

/-! ## 4. Lists -/

theorem listed_cons_cons (separator : Token) (ts us : List Token) (rest : List (List Token)) :
    listed separator (ts :: us :: rest) = ts ++ separator :: listed separator (us :: rest) := by
  simp only [listed, List.flatMap_cons, List.cons_append]

/-- All but the last of the listed have a separator behind them. -/
theorem listed_concat (separator : Token) (ts : List Token) : ∀ tss : List (List Token),
    listed separator (tss ++ [ts]) = tss.flatMap (· ++ [separator]) ++ ts
  | [] => by simp [listed]
  | [us] => by simp [listed]
  | us :: vs :: rest => by
    rw [List.cons_append, List.cons_append, listed_cons_cons, ← List.cons_append,
      listed_concat separator ts (vs :: rest), List.flatMap_cons, List.append_assoc]
    simp

section Join

variable {separator : Text} {token : Token}

/-- **Texts with a separator between neighbours are their tokens with one between neighbours.** -/
theorem reads_joined (hc : Closes separator [token]) (hd : Divides separator) {texts : List Text}
    {tss : List (List Token)} (h : List.Forall₂ Reads texts tss) :
    Reads (Text.join separator texts) (listed token tss) := by
  induction h with
  | nil => rfl
  | @cons t ts texts tss ht hrest ih =>
    cases hrest with
    | nil =>
      rw [listed, List.flatMap_nil, List.append_nil]
      exact ht
    | cons hnext hmore =>
      have hall := ht.append (hc.reads ih) (hd.append _)
      rw [← List.append_assoc] at hall
      rw [listed_cons_cons]
      exact hall

theorem reads_join {α : Type} (hc : Closes separator [token]) (hd : Divides separator)
    {f : α → Text} {g : α → List Token} (h : ∀ a, Reads (f a) (g a)) (xs : List α) :
    Reads (Text.join separator (xs.map f)) (listed token (xs.map g)) := by
  refine reads_joined hc hd ?_
  rw [List.forall₂_map_left_iff, List.forall₂_map_right_iff]
  exact List.forall₂_same.mpr fun a _ => h a

end Join

end Sluice.Sql
