import Mathlib.Data.List.Nodup
import Mathlib.Order.Nat

/-!
# Slots that are taken in turn

A range of slots is taken by jobs in turn, from its first slot again after the last, and the jobs give
their slots back in the order in which they took them. As long as there are no more jobs than slots, a
slot that comes next is free, and the first slot of the queue is that of the first job.
-/

namespace RoundRobin

open Function List

variable {α : Type*} {lo n head i k : ℕ}

/-- The slot that comes `i` after `head` in the range of `n` slots from `lo`. -/
def slot (lo n head i : ℕ) : ℕ := lo + if head + i < n then head + i else head + i - n

def advance (n head : ℕ) : ℕ := if head + 1 < n then head + 1 else 0

theorem advance_lt (hhead : head < n) : advance n head < n := by
  unfold advance
  split <;> omega

theorem slot_mem (hhead : head < n) (hi : i ≤ n) :
    lo ≤ slot lo n head i ∧ slot lo n head i < lo + n := by
  unfold slot
  split <;> omega

theorem slot_inj (hi : i < n) (hk : k < n) (h : slot lo n head i = slot lo n head k) : i = k := by
  unfold slot at h
  split at h <;> split at h <;> omega

theorem slot_succ (hhead : head < n) (hi : i < n) :
    slot lo n head (i + 1) = slot lo n (advance n head) i := by
  unfold slot advance
  split <;> split <;> split <;> omega

theorem slot_zero (hhead : head < n) : slot lo n head 0 = lo + head := by
  unfold slot
  exact congrArg _ (if_pos hhead)

/-- **The slots are taken in turn**: the queue has those of the jobs, and no other slot is taken. -/
structure Turns (lo n head : ℕ) (queue : List ℕ) (owner : ℕ → Option α) (jobs : List α) : Prop where
  head_lt : head < n
  bound : jobs.length ≤ n
  queue_eq : queue = (List.range jobs.length).map (slot lo n head)
  taken : ∀ i j, jobs[i]? = some j → owner (slot lo n head i) = some j
  only : ∀ k j, owner k = some j → ∃ i, jobs[i]? = some j ∧ k = slot lo n head i

namespace Turns

variable {queue : List ℕ} {owner : ℕ → Option α} {jobs : List α} {j : α}

theorem empty (lo : ℕ) (hn : 0 < n) : Turns lo n 0 [] (fun _ => (none : Option α)) [] where
  head_lt := hn
  bound := Nat.zero_le n
  queue_eq := rfl
  taken := nofun
  only := nofun

theorem length_lt (h : Turns lo n head queue owner jobs) (hi : jobs[i]? = some j) : i < n :=
  (List.getElem?_eq_some_iff.mp hi).1.trans_le h.bound

theorem mem (h : Turns lo n head queue owner jobs) (hk : owner k ≠ none) : lo ≤ k ∧ k < lo + n := by
  obtain ⟨j, hj⟩ := Option.ne_none_iff_exists'.mp hk
  obtain ⟨i, hi, rfl⟩ := h.only k j hj
  exact slot_mem h.head_lt (h.length_lt hi).le

theorem exists_of_mem (h : Turns lo n head queue owner jobs) (hj : j ∈ jobs) :
    ∃ k, owner k = some j := by
  obtain ⟨i, hi⟩ := mem_iff_getElem?.mp hj
  exact ⟨_, h.taken i j hi⟩

/-- **The slot that comes next** is free. -/
theorem free (h : Turns lo n head queue owner jobs) (space : jobs.length < n) :
    owner (slot lo n head jobs.length) = none := by
  by_contra hne
  obtain ⟨j, hj⟩ := Option.ne_none_iff_exists'.mp hne
  obtain ⟨i, hi, heq⟩ := h.only _ j hj
  have hlt := (List.getElem?_eq_some_iff.mp hi).1
  have := slot_inj space (h.length_lt hi) heq
  omega

theorem push (h : Turns lo n head queue owner jobs) (space : jobs.length < n) (j : α) :
    Turns lo n head (queue ++ [slot lo n head jobs.length])
      (update owner (slot lo n head jobs.length) (some j)) (jobs ++ [j]) where
  head_lt := h.head_lt
  bound := by
    rw [length_append]
    exact space
  queue_eq := by
    rw [h.queue_eq, length_append, length_singleton, range_succ, map_append]
    rfl
  taken i x hi := by
    rcases Nat.lt_trichotomy i jobs.length with hlt | rfl | hgt
    · have hne : slot lo n head i ≠ slot lo n head jobs.length :=
        fun heq => hlt.ne (slot_inj (hlt.trans space) space heq)
      rw [update_of_ne hne]
      exact h.taken i x ((getElem?_append_left hlt).symm.trans hi)
    · rw [getElem?_concat_length] at hi
      rw [update_self, hi]
    · have hlen := (List.getElem?_eq_some_iff.mp hi).1
      rw [length_append, length_singleton] at hlen
      omega
  only k x hk := by
    by_cases heq : k = slot lo n head jobs.length
    · rw [heq, update_self] at hk
      exact ⟨jobs.length, by rw [getElem?_concat_length, hk], heq⟩
    · rw [update_of_ne heq] at hk
      obtain ⟨i, hi, rfl⟩ := h.only k x hk
      have hlt := (List.getElem?_eq_some_iff.mp hi).1
      exact ⟨i, (getElem?_append_left hlt).trans hi, rfl⟩

theorem pop (h : Turns lo n head queue owner (j :: jobs)) :
    Turns lo n (advance n head) queue.tail (update owner (slot lo n head 0) none) jobs where
  head_lt := advance_lt h.head_lt
  bound := (Nat.le_succ _).trans h.bound
  queue_eq := by
    have hbound : jobs.length < n := h.bound
    rw [h.queue_eq, length_cons, range_succ_eq_map, map_cons, tail_cons, map_map]
    refine map_congr_left fun i hi => ?_
    exact slot_succ h.head_lt ((mem_range.mp hi).trans hbound)
  taken i x hi := by
    have hlt : i + 1 < n := h.length_lt (j := x) (i := i + 1) hi
    rw [← slot_succ h.head_lt (by omega)]
    have hne : slot lo n head (i + 1) ≠ slot lo n head 0 := fun heq => by
      have := slot_inj hlt (by omega) heq
      omega
    rw [update_of_ne hne]
    exact h.taken (i + 1) x hi
  only k x hk := by
    by_cases heq : k = slot lo n head 0
    · rw [heq, update_self] at hk
      cases hk
    · rw [update_of_ne heq] at hk
      obtain ⟨i, hi, rfl⟩ := h.only k x hk
      cases i with
      | zero => exact absurd rfl heq
      | succ i =>
        have hlt := h.length_lt hi
        exact ⟨i, hi, slot_succ h.head_lt (by omega)⟩

theorem queue_head (h : Turns lo n head queue owner (j :: jobs)) :
    queue = slot lo n head 0 :: queue.tail := by
  rw [h.queue_eq, length_cons, range_succ_eq_map]
  rfl

/-- **What the first job gives back** is all that it has. -/
theorem pop_eq [DecidableEq α] (h : Turns lo n head queue owner (j :: jobs))
    (nodup : (j :: jobs).Nodup) (k : ℕ) :
    update owner (slot lo n head 0) none k =
      if owner k = some j then none else owner k := by
  by_cases heq : k = slot lo n head 0
  · rw [heq, update_self, if_pos (h.taken 0 j rfl)]
  · rw [update_of_ne heq, if_neg fun hk => heq ?_]
    obtain ⟨i, hi, rfl⟩ := h.only k j hk
    cases i with
    | zero => rfl
    | succ i =>
      have hmem : j ∈ jobs := mem_of_getElem? (i := i) hi
      exact absurd hmem (nodup_cons.mp nodup).1

end Turns

end RoundRobin
