import Mathlib.Data.List.Forall2
import Sluice.Value

/-!
# Positions in values

Lists and mappings hold further values, and everything else is a leaf. A position is told by
numbers, one for each level: which item of a list, or which entry of a mapping.

* `Value.at?`: what stands at a position;
* `Value.rel_at`: **two values that are related at their tops, and in everything below, are related
  at every position**, and have the same positions.
-/

namespace Sluice

/-- What stands below a value: an item of a list, or the value of an entry. -/
def Value.child? : Value → Nat → Option Value
  | .list xs, i => xs[i]?
  | .mapping es, i => es[i]?.map (·.2)
  | _, _ => none

/-- What stands at a position of a value. -/
def Value.at? (v : Value) (position : List Nat) : Option Value := position.foldlM Value.child? v

theorem Value.at?_cons (v : Value) (i : Nat) (rest : List Nat) :
    v.at? (i :: rest) = (v.child? i).bind (·.at? rest) := rfl

section Related

variable {α β γ δ : Type} {R : α → β → Prop} {S : γ → δ → Prop}

/-- Lists that are related item by item are so at every number. -/
theorem rel_getElem? {xs : List α} {ys : List β} (h : List.Forall₂ R xs ys) (i : Nat) :
    Option.Rel R xs[i]? ys[i]? := by
  induction h generalizing i with
  | nil => exact .none
  | cons hhead _ ih =>
    cases i with
    | zero => exact .some hhead
    | succ i => exact ih i

theorem rel_bind {x : Option α} {y : Option β} {f : α → Option γ} {g : β → Option δ}
    (h : Option.Rel R x y) (hfg : ∀ a b, R a b → Option.Rel S (f a) (g b)) :
    Option.Rel S (x.bind f) (y.bind g) := by
  cases h with
  | none => exact .none
  | some hab => exact hfg _ _ hab

theorem rel_some {a : α} {y : Option β} (h : Option.Rel R (some a) y) :
    ∃ b, y = some b ∧ R a b := by
  cases h with
  | some hab => exact ⟨_, rfl, hab⟩

/-- What stands on the right has come from something on the left, and only from that. -/
theorem rel_eq_some {x : Option α} {y : Option β} (h : Option.Rel R x y)
    (hR : ∀ {a b b'}, R a b → R a b' → b = b') {b : β} :
    y = some b ↔ ∃ a, x = some a ∧ R a b := by
  cases h with
  | none => simp
  | @some a b' hab =>
    constructor
    · intro hb
      cases hb
      exact ⟨a, rfl, hab⟩
    · rintro ⟨a', ha, hb⟩
      cases ha
      rw [hR hab hb]

/-- The values of entries that are related entry by entry are so at every number. -/
theorem rel_entry {es fs : List (Value × Value)} {Q : Value → Value → Prop}
    (h : List.Forall₂ (fun e f => Q e.2 f.2) es fs) (i : Nat) :
    Option.Rel Q ((Value.mapping es).child? i) ((Value.mapping fs).child? i) := by
  rw [Value.child?, Value.child?, Option.map_eq_bind, Option.map_eq_bind]
  exact rel_bind (rel_getElem? h i) fun _ _ hentry => .some hentry

end Related

/-- **Values that are related at their tops, and in everything below, are related at every
position**; at a position that one of them does not have the other has nothing either. -/
theorem Value.rel_at {Q T : Value → Value → Prop} (htop : ∀ v w, Q v w → T v w)
    (hbelow : ∀ v w, Q v w → ∀ i, Option.Rel Q (v.child? i) (w.child? i)) {v w : Value}
    (h : Q v w) (position : List Nat) : Option.Rel T (v.at? position) (w.at? position) := by
  induction position generalizing v w with
  | nil => exact .some (htop v w h)
  | cons i rest ih =>
    rw [at?_cons, at?_cons]
    exact rel_bind (hbelow v w h i) fun _ _ hchild => ih hchild

end Sluice
