import Mathlib.Order.Nat
import Mathlib.Tactic.Common

/-!
# Parts of a whole

Parts of given lengths are laid out one after the other, and an image in a part, whose rows are
apart by a stride. The places of what is laid out do not depend on how the lengths came about.
-/

namespace Loop

section Parts

variable {len : ℕ → ℕ} {i j n : ℕ}

def startOf (len : ℕ → ℕ) : ℕ → ℕ
  | 0 => 0
  | i + 1 => startOf len i + len i

theorem startOf_mono (h : i ≤ j) : startOf len i ≤ startOf len j := by
  induction h with
  | refl => exact le_rfl
  | step _ ih => exact ih.trans (Nat.le_add_right ..)

/-- A part ends before those after it start. -/
theorem startOf_disjoint (h : i < j) : startOf len i + len i ≤ startOf len j :=
  startOf_mono (i := i + 1) h

/-- A part is in the whole. -/
theorem startOf_add_le (h : i < n) : startOf len i + len i ≤ startOf len n := startOf_disjoint h

end Parts

section Rows

variable {x y w h stride scanline r c : ℕ}

/-- **The pixels of an image are in its part**, if its columns are in a row and its rows among those
there are. -/
theorem pos_lt (hx : x + w ≤ stride) (hy : y + h ≤ scanline) (hc : c < w) (hr : r < h) :
    (y + r) * stride + (x + c) < stride * scanline := by
  calc (y + r) * stride + (x + c)
      < (y + r) * stride + stride := by omega
    _ = (y + r + 1) * stride := (Nat.succ_mul ..).symm
    _ ≤ scanline * stride := Nat.mul_le_mul_right stride (by omega)
    _ = stride * scanline := Nat.mul_comm ..

end Rows

end Loop
