import Mathlib.Algebra.Order.Group.Defs
import Mathlib.Algebra.Order.Monoid.Unbundled.Pow
import Mathlib.Data.List.Range

/-!
# Arithmetic progressions

A progression is the list of `n` values that start with one and are each a step after the one
before. It is in order when the step is not negative, and two of them are in order one after the
other when the last value of the first comes before the first of the second.
-/

namespace Loop

open List

variable {α : Type*} [AddCommMonoid α]

/-- The `n` values from `a` on that are `d` apart. -/
def progression (a d : α) (n : ℕ) : List α := (List.range n).map fun k => a + k • d

theorem mem_progression {a d x : α} {n : ℕ} :
    x ∈ progression a d n ↔ ∃ k < n, a + k • d = x := by
  simp only [progression, mem_map, mem_range]

theorem progression_one (a d : α) : progression a d 1 = [a] := by
  simp [progression, range_succ]

theorem first_mem_progression {a d : α} {n : ℕ} (hn : 0 < n) : a ∈ progression a d n :=
  mem_progression.mpr ⟨0, hn, by rw [zero_nsmul, add_zero]⟩

theorem last_mem_progression {a d : α} {n : ℕ} (hn : 0 < n) :
    a + (n - 1) • d ∈ progression a d n :=
  mem_progression.mpr ⟨n - 1, Nat.sub_lt hn Nat.one_pos, rfl⟩

theorem rel_of_pairwise_progression {a d : α} {n : ℕ} {r : α → α → Prop}
    (h : (progression a d n).Pairwise r) (hn : 1 < n) : r a (a + d) := by
  rw [progression, pairwise_map] at h
  have htwo := pairwise_iff_getElem.mp h 0 1 (by simp; omega) (by simpa using hn) (by decide)
  simpa only [getElem_range, zero_nsmul, one_nsmul, add_zero] using htwo

theorem pairwise_progression_of_le_one {a d : α} {n : ℕ} {r : α → α → Prop} (hn : n ≤ 1) :
    (progression a d n).Pairwise r := by
  obtain rfl | rfl : n = 0 ∨ n = 1 := by omega
  · exact .nil
  · exact progression_one a d ▸ pairwise_singleton r a

variable [LinearOrder α] [IsOrderedCancelAddMonoid α] {a b d e : α} {n m : ℕ}

theorem progression_mono (hd : 0 ≤ d) {j k : ℕ} (h : j ≤ k) : a + j • d ≤ a + k • d := by
  obtain ⟨i, rfl⟩ := Nat.exists_eq_add_of_le h
  rw [add_nsmul, ← add_assoc]
  exact le_add_of_nonneg_right (nsmul_nonneg hd i)

theorem pairwise_le_progression : (progression a d n).Pairwise (· ≤ ·) ↔ n ≤ 1 ∨ 0 ≤ d := by
  constructor
  · intro h
    by_contra hneg
    rw [not_or, not_le, not_le] at hneg
    have htwo : a ≤ a + d := rel_of_pairwise_progression h hneg.1
    exact absurd (le_add_iff_nonneg_right a |>.mp htwo) (not_le.mpr hneg.2)
  · rintro (hn | hd)
    · exact pairwise_progression_of_le_one hn
    · rw [progression, pairwise_map]
      exact pairwise_lt_range.imp fun h => progression_mono hd h.le

theorem pairwise_lt_progression : (progression a d n).Pairwise (· < ·) ↔ n ≤ 1 ∨ 0 < d := by
  constructor
  · intro h
    by_contra hneg
    rw [not_or, not_le, not_lt] at hneg
    have htwo : a < a + d := rel_of_pairwise_progression h hneg.1
    exact absurd (lt_add_iff_pos_right a |>.mp htwo) (not_lt.mpr hneg.2)
  · rintro (hn | hd)
    · exact pairwise_progression_of_le_one hn
    · rw [progression, pairwise_map]
      refine pairwise_lt_range.imp fun {j k} h => ?_
      calc a + j • d < a + (j + 1) • d := by
            rw [succ_nsmul, ← add_assoc]
            exact lt_add_of_pos_right _ hd
        _ ≤ a + k • d := progression_mono hd.le h

theorem bounds_progression (hd : n ≤ 1 ∨ 0 ≤ d) {x : α} (hx : x ∈ progression a d n) :
    a ≤ x ∧ x ≤ a + (n - 1) • d := by
  obtain ⟨k, hk, rfl⟩ := mem_progression.mp hx
  rcases hd with hn | hd
  · obtain ⟨rfl, rfl⟩ : k = 0 ∧ n = 1 := by omega
    simp
  · have hfirst := progression_mono hd (a := a) (Nat.zero_le k)
    rw [zero_nsmul, add_zero] at hfirst
    exact ⟨hfirst, progression_mono hd (Nat.le_sub_one_of_lt hk)⟩

/-- A progression is before another when its last value is before the first of the other. -/
theorem forall_le_progression (hn : 0 < n) (hm : 0 < m) (hd : n ≤ 1 ∨ 0 ≤ d) (he : m ≤ 1 ∨ 0 ≤ e) :
    (∀ x ∈ progression a d n, ∀ y ∈ progression b e m, x ≤ y) ↔ a + (n - 1) • d ≤ b := by
  constructor
  · intro h
    exact h _ (last_mem_progression hn) _ (first_mem_progression hm)
  · intro h x hx y hy
    exact (bounds_progression hd hx).2.trans (h.trans (bounds_progression he hy).1)

theorem forall_lt_progression (hn : 0 < n) (hm : 0 < m) (hd : n ≤ 1 ∨ 0 ≤ d) (he : m ≤ 1 ∨ 0 ≤ e) :
    (∀ x ∈ progression a d n, ∀ y ∈ progression b e m, x < y) ↔ a + (n - 1) • d < b := by
  constructor
  · intro h
    exact h _ (last_mem_progression hn) _ (first_mem_progression hm)
  · intro h x hx y hy
    exact (bounds_progression hd hx).2.trans_lt (h.trans_le (bounds_progression he hy).1)

end Loop
