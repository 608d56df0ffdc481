import MidoCamera.Library.While
import Mathlib.Algebra.Order.Ring.Int

/-!
# Spans of integers

A span is where an extent starts and its size. One span is fitted into another by moving it to the
start of the other, and by cutting it where it is longer; a span is cut to a smaller size around its
middle, and its start is then rounded down to an even number. The rounding can take it out of a span
that it was in, but only by one, and only where it starts with the other.
-/

namespace Loop

/-- An extent of integers. -/
@[ext]
structure Span where
  start : ℤ
  size : ℤ
  deriving DecidableEq, Repr

namespace Span

def stop (s : Span) : ℤ := s.start + s.size

/-- The span is in another. -/
structure Inside (s m : Span) : Prop where
  start : m.start ≤ s.start
  stop : s.stop ≤ m.stop

/-- The span fitted into `m`: it starts with `m` at the earliest, and is moved to the start of `m`
and cut if it does not end in `m`. -/
def fit (m s : Span) : Span where
  start := if max s.start m.start + s.size ≤ m.stop then max s.start m.start else m.start
  size := min s.size m.size

/-- One round of the loop that fits a span which does not end in `m`. -/
def fitRound (m s : Span) : Span :=
  if s.start = m.start then { s with size := m.size } else { s with start := m.start }

variable {m s : Span}

theorem fit_inside (m s : Span) : (m.fit s).Inside m := by
  constructor
  · unfold fit
    dsimp only
    split_ifs
    · exact le_max_right _ _
    · exact le_refl _
  · have hleft := min_le_left s.size m.size
    have hright := min_le_right s.size m.size
    unfold fit stop
    dsimp only
    split_ifs with h <;> omega

theorem fit_size_pos (hm : 0 < m.size) (hs : 0 < s.size) : 0 < (m.fit s).size := lt_min hs hm

theorem fitRound_start {n : ℤ} : m.fitRound ⟨m.start, n⟩ = m := if_pos rfl

theorem fit_loop_start (m : Span) (size : ℤ) (n : ℕ) :
    whileLoop (fun s => decide (m.stop < s.stop)) m.fitRound (n + 1) ⟨m.start, size⟩ =
      some ⟨m.start, min size m.size⟩ := by
  by_cases hlong : m.size < size
  · rw [whileLoop_succ_of (by simpa [stop] using hlong), fitRound_start,
      whileLoop_of_not (by simp), min_eq_right hlong.le]
  · rw [whileLoop_of_not (by simpa [stop] using hlong), min_eq_left (not_lt.mp hlong)]

/-- **The loop ends with the fitted span**, in two rounds: it moves the span, and then cuts it. -/
theorem fit_loop (m s : Span) (n : ℕ) :
    whileLoop (fun s => decide (m.stop < s.stop)) m.fitRound (n + 2)
      ⟨max s.start m.start, s.size⟩ = some (m.fit s) := by
  have hmax := le_max_right s.start m.start
  unfold fit
  split_ifs with hends
  · -- the span ends in `m`
    have hsize : s.size ≤ m.size := by
      unfold stop at hends
      omega
    rw [min_eq_left hsize]
    exact whileLoop_of_not (by exact decide_eq_false (not_lt.mpr hends)) _
  · by_cases hstart : max s.start m.start = m.start
    · rw [hstart]
      exact fit_loop_start m s.size (n + 1)
    · refine (whileLoop_succ_of (by exact decide_eq_true (not_le.mp hends)) _).trans ?_
      have hmove : m.fitRound ⟨max s.start m.start, s.size⟩ = ⟨m.start, s.size⟩ := if_neg hstart
      rw [hmove]
      exact fit_loop_start m s.size n

end Span

/-! ## Cutting around the middle -/

def evenDown (x : ℤ) : ℤ := if x.tmod 2 ≠ 0 then x - 1 else x

theorem evenDown_eq {x : ℤ} (hx : 0 ≤ x) : evenDown x = 2 * (x / 2) := by
  unfold evenDown
  rw [Int.tmod_eq_emod_of_nonneg hx]
  split_ifs <;> omega

namespace Span

variable {m s : Span} {n : ℤ}

def recentre (s : Span) (n : ℤ) : Span := ⟨evenDown (s.start + (s.size - n).tdiv 2), n⟩

/-- The start is rounded out of `m`: both spans start at an odd number, and the cut takes off less
than two. -/
def Undercut (m s : Span) (n : ℤ) : Prop := Odd m.start ∧ s.start = m.start ∧ s.size ≤ n + 1

/-- **What is cut around the middle stays inside**, unless its start is rounded out. -/
theorem recentre_inside_iff (hm : 0 ≤ m.start) (hs : s.Inside m) (hn : n ≤ s.size) :
    (s.recentre n).Inside m ↔ ¬m.Undercut s n := by
  obtain ⟨hstart, hstop⟩ := hs
  have hdiv : (s.size - n).tdiv 2 = (s.size - n) / 2 :=
    Int.tdiv_eq_ediv_of_nonneg (by omega)
  have heven := evenDown_eq (x := s.start + (s.size - n) / 2) (by omega)
  unfold stop at hstop
  constructor
  · rintro ⟨hinside, -⟩ ⟨hodd, heq, hless⟩
    rw [Int.odd_iff] at hodd
    simp only [recentre, hdiv, heven] at hinside
    omega
  · intro hnot
    have hin : m.start ≤ 2 * ((s.start + (s.size - n) / 2) / 2) := by
      by_contra hout
      refine hnot ⟨Int.odd_iff.mpr ?_, ?_, ?_⟩ <;> omega
    constructor
    · simpa only [recentre, hdiv, heven] using hin
    · simp only [recentre, stop, hdiv, heven]
      omega

end Span

end Loop
