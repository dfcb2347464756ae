import Sluice.Text.Base64

/-!
# Bytes in base64

Bytes that are written with 64 characters get longer, and are read back as they were. The reader
takes characters one by one and makes bytes of every four of them; the text of three bytes is four
characters, so that they are read back by themselves, and what is left at the end is told by the
equals signs.

* `encode_eq_self`: **no bytes but the empty string are written as they are**;
* `value?_digit`: every character is read as its number;
* `decodeFrom?_digit`, `decodeFrom?_fill`: one character is taken, or one equals sign;
* `decode?_four`, `decode?_three`, `decode?_two`: a whole group is read;
* `decode?_encode`: **bytes are read back**, three at a time.
-/

namespace Sluice.Base64

/-! ## 1. Length -/

theorem length_encode : ∀ bs : List UInt8, (encode bs).length = (bs.length + 2) / 3 * 4
  | [] => rfl
  | [_] => by simp [encode]
  | [_, _] => by simp [encode]
  | a :: b :: c :: rest => by
    unfold encode
    simp only [List.length_cons, length_encode rest]
    omega

/-- **Base64 changes every byte string that is not empty**: it gets longer. -/
theorem encode_eq_self {bs : List UInt8} : encode bs = bs ↔ bs = [] := by
  constructor
  · intro h
    have hlength := length_encode bs
    rw [h] at hlength
    exact List.eq_nil_of_length_eq_zero (by omega)
  · rintro rfl
    rfl

/-! ## 2. Reading back -/

/-- **Every character is read as its number**, and none of them is an equals sign. -/
theorem value?_digit {n : Nat} (h : n < 64) :
    (digit n).toNat ≠ 61 ∧ value? (digit n).toNat = some n := by
  have hall : ∀ n < 64, (digit n).toNat ≠ 61 ∧ value? (digit n).toNat = some n := by decide
  exact hall n h

/-- One character is taken: it completes a group of four, or is kept. -/
theorem decodeFrom?_digit (open_ : List Nat) (fill : Nat) {n : Nat} (h : n < 64) (rest : List Nat) :
    decodeFrom? open_ fill ((digit n).toNat :: rest) =
      if open_.length = 3 then (decodeFrom? [] 0 rest).map (group (open_ ++ [n]) ++ ·)
      else decodeFrom? (open_ ++ [n]) 0 rest := by
  obtain ⟨hfill, hvalue⟩ := value?_digit h
  rw [decodeFrom?, if_neg hfill, hvalue]

/-- An equals sign behind two or three characters is taken: it completes the last group. -/
theorem decodeFrom?_fill {open_ : List Nat} (hopen : 2 ≤ open_.length) (fill : Nat)
    (rest : List Nat) : decodeFrom? open_ fill (61 :: rest) =
      if 4 ≤ open_.length + fill + 1 then some (group open_)
      else decodeFrom? open_ (fill + 1) rest := by
  rw [decodeFrom?, if_pos rfl, if_neg (by omega)]

section Groups

variable {i j k l : Nat}

/-- Four characters are read by themselves. -/
theorem decode?_four (hi : i < 64) (hj : j < 64) (hk : k < 64) (hl : l < 64) (rest : List Nat) :
    decode? ((digit i).toNat :: (digit j).toNat :: (digit k).toNat :: (digit l).toNat :: rest) =
      (decode? rest).map (group [i, j, k, l] ++ ·) := by
  unfold decode?
  rw [decodeFrom?_digit _ _ hi, if_neg (by simp), decodeFrom?_digit _ _ hj, if_neg (by simp),
    decodeFrom?_digit _ _ hk, if_neg (by simp), decodeFrom?_digit _ _ hl, if_pos (by simp)]
  rfl

/-- Three characters at the end are read with one equals sign. -/
theorem decode?_three (hi : i < 64) (hj : j < 64) (hk : k < 64) :
    decode? [(digit i).toNat, (digit j).toNat, (digit k).toNat, 61] = some (group [i, j, k]) := by
  unfold decode?
  rw [decodeFrom?_digit _ _ hi, if_neg (by simp), decodeFrom?_digit _ _ hj, if_neg (by simp),
    decodeFrom?_digit _ _ hk, if_neg (by simp), decodeFrom?_fill (by simp), if_pos (by simp)]
  rfl

/-- Two characters at the end are read with two equals signs. -/
theorem decode?_two (hi : i < 64) (hj : j < 64) :
    decode? [(digit i).toNat, (digit j).toNat, 61, 61] = some (group [i, j]) := by
  unfold decode?
  rw [decodeFrom?_digit _ _ hi, if_neg (by simp), decodeFrom?_digit _ _ hj, if_neg (by simp),
    decodeFrom?_fill (by simp), if_neg (by simp), decodeFrom?_fill (by simp), if_pos (by simp)]
  rfl

end Groups

theorem toUInt8_eq {n : Nat} {b : UInt8} (h : n = b.toNat) : n.toUInt8 = b := by
  subst h
  exact UInt8.ofNat_toNat

/-- **Bytes are read back.** -/
theorem decode?_encode : ∀ bs : List UInt8, decode? ((encode bs).map UInt8.toNat) = some bs
  | [] => rfl
  | [a] => by
    have ha := a.toNat_lt
    have hgroup : group [a.toNat / 4, a.toNat % 4 * 16] = [a] := by
      rw [group, toUInt8_eq (b := a) (by omega)]
    have hread := decode?_two (i := a.toNat / 4) (j := a.toNat % 4 * 16) (by omega) (by omega)
    rw [hgroup] at hread
    exact hread
  | [a, b] => by
    have ha := a.toNat_lt
    have hb := b.toNat_lt
    have hsplit : ∀ n, n = a.toNat * 256 + b.toNat →
        decode? [(digit (n / 1024)).toNat, (digit (n / 16 % 64)).toNat,
          (digit (n % 16 * 4)).toNat, 61] = some [a, b] := by
      intro n hn
      have hgroup : group [n / 1024, n / 16 % 64, n % 16 * 4] = [a, b] := by
        rw [group, toUInt8_eq (b := a) (by omega), toUInt8_eq (b := b) (by omega)]
      rw [decode?_three (by omega) (by omega) (by omega), hgroup]
    exact hsplit _ rfl
  | a :: b :: c :: rest => by
    have ha := a.toNat_lt
    have hb := b.toNat_lt
    have hc := c.toNat_lt
    have hrest := decode?_encode rest
    have hgroup : ∀ n, n = a.toNat * 65536 + b.toNat * 256 + c.toNat →
        group [n / 262144, n / 4096 % 64, n / 64 % 64, n % 64] = [a, b, c] := by
      intro n hn
      rw [group, toUInt8_eq (b := a) (by omega), toUInt8_eq (b := b) (by omega),
        toUInt8_eq (b := c) (by omega)]
    simp only [encode, List.map_cons]
    rw [decode?_four (by omega) (by omega) (by omega) (by omega), hrest, hgroup _ rfl]
    rfl

end Sluice.Base64
