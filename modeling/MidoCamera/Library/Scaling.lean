import Mathlib.Algebra.Order.Ring.Int

/-!
# Scaling by a ratio

A coordinate of a range of size `s` is mapped to one of size `a` by a product and a division that
rounds. What the way there and back loses, and when the image is in the other range.
-/

namespace Loop

/-- `x` of a range of size `s`, in a range of size `a`. -/
def scale (x s a : ℕ) : ℕ := x * a / s

variable {x y s a : ℕ}

theorem scale_mono (h : x ≤ y) : scale x s a ≤ scale y s a :=
  Nat.div_le_div_right (Nat.mul_le_mul_right a h)

theorem scale_le (h : x ≤ s) : scale x s a ≤ a := by
  refine Nat.div_le_of_le_mul ?_
  exact Nat.mul_le_mul_right a h

theorem scale_scale_le (x s a : ℕ) : scale (scale x s a) a s ≤ x := by
  refine Nat.div_le_of_le_mul ?_
  calc x * a / s * s ≤ x * a := Nat.div_mul_le_self ..
    _ = a * x := Nat.mul_comm ..

/-- There and back loses at most one, if the other range is no smaller. -/
theorem le_scale_scale_add_one (hs : 0 < s) (h : s ≤ a) : x ≤ scale (scale x s a) a s + 1 := by
  obtain rfl | ⟨n, rfl⟩ : x = 0 ∨ ∃ n, x = n + 1 := by
    cases x with
    | zero => exact .inl rfl
    | succ n => exact .inr ⟨n, rfl⟩
  · exact Nat.zero_le _
  · -- the first rounding takes less than `s`, which is no more than a step of the other range
    have hlt : (n + 1) * a < scale (n + 1) s a * s + s := Nat.lt_div_mul_add hs
    refine Nat.add_le_add_right ?_ 1
    refine (Nat.le_div_iff_mul_le (hs.trans_le h)).mpr ?_
    rw [Nat.succ_mul] at hlt
    omega

/-- **When a signed quotient is below a bound**, that is not negative: the division rounds towards
zero. -/
theorem tdiv_le_iff {n d b : ℤ} (hd : 0 < d) (hb : 0 ≤ b) : n.tdiv d ≤ b ↔ n < (b + 1) * d := by
  rcases le_or_gt 0 n with hn | hn
  · rw [Int.tdiv_eq_ediv_of_nonneg hn, ← Int.lt_add_one_iff, Int.ediv_lt_iff_lt_mul hd]
  · -- a negative number stays so or becomes zero
    have hq : 0 ≤ (-n).tdiv d := Int.tdiv_nonneg (by omega) hd.le
    have hpos : 0 < (b + 1) * d := Int.mul_pos (by omega) hd
    rw [Int.neg_tdiv] at hq
    exact iff_of_true (by omega) (hn.trans hpos)

theorem natAbs_tdiv_le_of_le {n d : ℤ} {b : ℕ} (h : n.natAbs ≤ b) : (n.tdiv d).natAbs ≤ b :=
  (Int.natAbs_tdiv_le_natAbs n d).trans h

end Loop
