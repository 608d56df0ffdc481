import Mathlib.Data.Int.Bitwise
import Mathlib.Data.Nat.ModEq

/-!
# Clearing the bits of a mask

`x & ~m` takes from `x` the bits it has in common with `m`. With the mask of a power of two less one
it rounds down, and after an addition up. Other masks do not round.
-/

namespace Loop

open Nat

/-- **What is cleared and what is left** make up the number. -/
theorem ldiff_add_and (x m : ℕ) : x.ldiff m + (x &&& m) = x := by
  induction x using binaryRec generalizing m with
  | zero => simp [ldiff]
  | bit b x ih =>
    cases m using bitCasesOn with
    | bit c m =>
      rw [ldiff_bit, land_bit]
      have hx := ih m
      cases b <;> cases c <;> simp only [bit_val, Bool.and_true, Bool.and_false, Bool.not_true,
        Bool.not_false, Bool.toNat_true, Bool.toNat_false] <;> omega

theorem ldiff_eq (x m : ℕ) : x.ldiff m = x - (x &&& m) := by
  have hsum := ldiff_add_and x m
  omega

theorem le_ldiff_add (n m : ℕ) : n ≤ (n + m).ldiff m := by
  have hsum := ldiff_add_and (n + m) m
  have hle : (n + m) &&& m ≤ m := and_le_right
  omega

theorem ldiff_le (x m : ℕ) : x.ldiff m ≤ x := ldiff_eq x m ▸ sub_le ..

/-- **When what is left is a multiple**: the bits in common with the mask make up the remainder. -/
theorem dvd_ldiff_iff (x m d : ℕ) : d ∣ x.ldiff m ↔ (x &&& m) % d = x % d := by
  rw [ldiff_eq, ← modEq_iff_dvd' and_le_left]
  rfl

theorem toNat_and_not {w : ℕ} (x m : BitVec w) : (x &&& ~~~m).toNat = x.toNat.ldiff m.toNat := by
  refine eq_of_testBit_eq fun i => ?_
  rw [testBit_ldiff, BitVec.testBit_toNat, BitVec.testBit_toNat, BitVec.testBit_toNat,
    BitVec.getLsbD_and, BitVec.getLsbD_not]
  by_cases hi : i < w
  · simp [hi]
  · simp [BitVec.getLsbD_of_ge x i (not_lt.mp hi)]

/-- `(n + (p - 1)) & ~(p - 1)`. -/
def roundUp (n p : ℕ) : ℕ := (n + (p - 1)).ldiff (p - 1)

variable {n m p k : ℕ}

theorem le_roundUp (n p : ℕ) : n ≤ roundUp n p := le_ldiff_add n (p - 1)

theorem roundUp_le (n p : ℕ) : roundUp n p ≤ n + (p - 1) := ldiff_le ..

/-- Rounding up to a power of two gives a multiple of it. -/
theorem dvd_roundUp (n k : ℕ) : 2 ^ k ∣ roundUp n (2 ^ k) := by
  unfold roundUp
  rw [dvd_ldiff_iff, and_two_pow_sub_one_eq_mod, mod_mod]

theorem roundUp_two_pow (n k : ℕ) : roundUp n (2 ^ k) = (n + (2 ^ k - 1)) / 2 ^ k * 2 ^ k := by
  unfold roundUp
  rw [ldiff_eq, and_two_pow_sub_one_eq_mod]
  exact Nat.sub_eq_of_eq_add (div_add_mod' ..).symm

theorem roundUp_le_of_dvd (h : 2 ^ k ∣ m) (hle : n ≤ m) : roundUp n (2 ^ k) ≤ m := by
  obtain ⟨a, ha⟩ := dvd_roundUp n k
  obtain ⟨b, rfl⟩ := h
  have hlt := roundUp_le n (2 ^ k)
  have hpos : 0 < 2 ^ k := Nat.two_pow_pos k
  rw [ha] at hlt ⊢
  refine Nat.mul_le_mul_left _ (Nat.lt_succ_iff.mp ?_)
  refine Nat.lt_of_mul_lt_mul_left (a := 2 ^ k) ?_
  rw [mul_succ]
  omega

/-- What is rounded up to a power of two, halved and rounded up again: the number could have been
rounded up to the next power and halved. -/
theorem roundUp_half (hn : Even n) :
    roundUp (roundUp n (2 ^ k) / 2) (2 ^ k) = roundUp n (2 ^ (k + 1)) / 2 := by
  obtain ⟨a, ha⟩ := dvd_roundUp n (k + 1)
  have hhalf : roundUp n (2 ^ (k + 1)) / 2 = 2 ^ k * a := by
    rw [ha, Nat.pow_succ']
    exact Nat.div_eq_of_eq_mul_right Nat.two_pos (Nat.mul_assoc ..)
  refine le_antisymm (roundUp_le_of_dvd ⟨a, hhalf⟩ ?_) ?_
  · -- the next power is a multiple of this one
    refine Nat.div_le_div_right (roundUp_le_of_dvd ?_ (le_roundUp ..))
    exact (Nat.pow_dvd_pow 2 (le_succ k)).trans (dvd_roundUp ..)
  · refine Nat.div_le_of_le_mul (roundUp_le_of_dvd ?_ ?_)
    · rw [Nat.pow_succ']
      exact Nat.mul_dvd_mul_left 2 (dvd_roundUp ..)
    · obtain ⟨m, rfl⟩ := hn
      have hlow := (Nat.div_le_div_right (c := 2) (le_roundUp (m + m) (2 ^ k))).trans
        (le_roundUp (roundUp (m + m) (2 ^ k) / 2) (2 ^ k))
      omega

end Loop
