import Mathlib.Data.List.Range
import Mathlib.Data.List.Perm.Basic

/-!
# Sorting by passes

A list is sorted by as many passes as there are ranks: each pass takes out the items of one rank, in
the order in which they stand. What the passes give is a stable sort of the items that have a rank
below their number.
-/

namespace Loop

open List

variable {α : Type*} {r : α → ℕ} {k c : ℕ} {l : List α} {a : α}

/-- The items of the first `k` ranks, one rank after the other. -/
def buckets (r : α → ℕ) (k : ℕ) (l : List α) : List α :=
  (List.range k).flatMap fun c => l.filter (r · = c)

@[simp] theorem buckets_zero : buckets r 0 l = [] := rfl

theorem buckets_succ : buckets r (k + 1) l = buckets r k l ++ l.filter (r · = k) := by
  unfold buckets
  rw [range_succ, flatMap_append, flatMap_singleton]

theorem mem_buckets : a ∈ buckets r k l ↔ a ∈ l ∧ r a < k := by
  simp only [buckets, mem_flatMap, mem_range, mem_filter, decide_eq_true_eq]
  constructor
  · rintro ⟨c, hc, ha, rfl⟩
    exact ⟨ha, hc⟩
  · rintro ⟨ha, hr⟩
    exact ⟨r a, hr, ha, rfl⟩

/-- **Nothing is lost and nothing is taken twice.** -/
theorem buckets_perm : (buckets r k l).Perm (l.filter (r · < k)) := by
  induction k with
  | zero => simp
  | succ k ih =>
    rw [buckets_succ]
    refine (ih.append_right _).trans ?_
    -- the items below `k + 1` are those below `k` and those of rank `k`
    have hlow : (l.filter (r · < k + 1)).filter (r · < k) = l.filter (r · < k) := by
      rw [filter_filter]
      refine filter_congr fun a _ => ?_
      simp only [← Bool.decide_and, decide_eq_decide]
      omega
    have hhigh : (l.filter (r · < k + 1)).filter (fun a => !decide (r a < k)) =
        l.filter (r · = k) := by
      rw [filter_filter]
      refine filter_congr fun a _ => ?_
      simp only [← decide_not, ← Bool.decide_and, decide_eq_decide]
      omega
    rw [← hlow, ← hhigh]
    exact filter_append_perm _ _

/-- **The ranks are in order.** -/
theorem pairwise_buckets : (buckets r k l).Pairwise fun a b => r a ≤ r b := by
  induction k with
  | zero => exact .nil
  | succ k ih =>
    rw [buckets_succ, pairwise_append]
    have hrank : ∀ b ∈ l.filter (r · = k), r b = k := fun b hb => by
      simpa using (mem_filter.mp hb).2
    refine ⟨ih, ?_, fun a ha b hb => ?_⟩
    · exact List.Pairwise.imp_of_mem (fun ha hb _ => (hrank _ ha).trans_le (hrank _ hb).ge)
        (pairwise_iff_forall_sublist.mpr fun _ => trivial)
    · rw [hrank b hb]
      exact (mem_buckets.mp ha).2.le

/-- **Within a rank the order is that of the list.** -/
theorem filter_buckets (hc : c < k) : (buckets r k l).filter (r · = c) = l.filter (r · = c) := by
  induction k with
  | zero => exact absurd hc (Nat.not_lt_zero c)
  | succ k ih =>
    rw [buckets_succ, filter_append]
    rcases Nat.lt_succ_iff_lt_or_eq.mp hc with hlt | rfl
    · have hnone : (l.filter (r · = k)).filter (r · = c) = [] := by
        rw [filter_filter]
        refine filter_eq_nil_iff.mpr fun a _ => ?_
        simp only [Bool.and_eq_true, decide_eq_true_eq, not_and]
        omega
      rw [ih hlt, hnone, append_nil]
    · have hnone : (buckets r c l).filter (r · = c) = [] := by
        refine filter_eq_nil_iff.mpr fun a ha => ?_
        have hlt := (mem_buckets.mp ha).2
        simp only [decide_eq_true_eq]
        omega
      rw [hnone, nil_append, filter_filter]
      simp

end Loop
