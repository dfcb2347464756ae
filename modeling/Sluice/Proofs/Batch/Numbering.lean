import Sluice.Batch
import Mathlib.Data.List.Basic

/-!
# The numbers of batches

A batch is known by the name that its accumulator numbers batches under and by its number. Both can
be read off the id again:

* `Text.ofNat_injective`: numbers that are written alike are the same;
* `Batch.idOf_number`: under one name different numbers give different ids;
* `Batch.idOf_inj`: so do different names, as long as no dash occurs in one of them;
* `workerName_inj`, `dash_notMem_workerName`: the names of workers are such names.
-/

namespace Sluice

/-! ## 1. Written numbers -/

theorem Text.ofNat_injective {m n : Nat} (h : Text.ofNat m = Text.ofNat n) : m = n := by
  unfold Text.ofNat at h
  have hdigits : Nat.toDigits 10 m = Nat.toDigits 10 n :=
    List.map_injective_iff.mpr (fun _ _ e => Symbol.char.inj e) h
  rw [← Nat.ofDigitChars_ten_toDigits (n := m), hdigits, Nat.ofDigitChars_ten_toDigits]

/-- A written number holds digits only. -/
theorem Text.dash_notMem_ofNat (n : Nat) : Symbol.char '-' ∉ Text.ofNat n := by
  intro h
  obtain ⟨c, hc, e⟩ := List.mem_map.mp h
  cases e
  have hdigit := Nat.isDigit_of_mem_toDigits (by decide) (by decide) hc
  exact absurd hdigit (by decide)

/-! ## 2. Ids -/

namespace Batch

/-- The id of the batch with a number among those that are sealed under a name. -/
def idOf (name : Text) (number : Nat) : Text := name ++ .char '-' :: Text.ofNat number

theorem idOf_number {name : Text} {m n : Nat} (h : idOf name m = idOf name n) : m = n := by
  unfold idOf at h
  exact Text.ofNat_injective (List.cons.inj (List.append_cancel_left h)).2

theorem idOf_inj {name name' : Text} {m n : Nat} (hn : Symbol.char '-' ∉ name)
    (h : idOf name m = idOf name' n) : name = name' ∧ m = n := by
  unfold idOf at h
  obtain ⟨hname, -, hnumber⟩ := (List.append_cons_inj_of_notMem hn (Text.dash_notMem_ofNat m)).mp h
  exact ⟨hname, Text.ofNat_injective hnumber⟩

end Batch

/-! ## 3. Workers -/

/-- The name under which a worker of a parallel run numbers its batches. -/
def workerName (n : Nat) : Text := "worker" ++ Text.ofNat n

theorem workerName_inj {m n : Nat} (h : workerName m = workerName n) : m = n :=
  Text.ofNat_injective (List.append_cancel_left h)

theorem dash_notMem_workerName (n : Nat) : Symbol.char '-' ∉ workerName n := by
  intro h
  rcases List.mem_append.mp h with h | h
  · exact absurd h (by decide)
  · exact Text.dash_notMem_ofNat n h

end Sluice
