import MidoCamera.Hal3.Batch
import Mathlib.Data.Rat.Floor

/-!
# The expansion of batch metadata

In batch mode one metadata buffer is handed on once for each frame of the batch that it ends, and
its urgent frame number once for each frame of another. One loop does both, for as long as the
longer range takes, and the times are inferred from the length of the loop: they are those of the
frames only if the urgent range is not the longer one.

Times are whole nanoseconds, the result of an inference is truncated to one, and the frame rate is
an exact rational number.
-/

namespace Hal3

open List Nat

/-! ## What is handed on -/

/-- The urgent frame number of a metadata buffer, if it is valid. -/
def MetadataBuffer.urgentFrame (md : MetadataBuffer) : Option ℕ :=
  match md.frameNumberValid, md.frameNumber, md.sensorTimestamp, md.urgentFrameNumberValid,
    md.urgentFrameNumber with
  | some _, some _, some _, some valid, some n => if valid = 0 then none else some n
  | _, _, _, _, _ => none

def MetadataBuffer.frameTime (md : MetadataBuffer) : Option ℤ :=
  md.finalFrame.bind fun _ => md.sensorTimestamp

/-- The metadata as `handleBatchMetadata` hands it on, buffer after buffer. -/
def handedOn (fps : ℚ) (md : MetadataBuffer) (s : HardwareInterface) :
    Option (List MetadataBuffer) :=
  (readBatch md s).map fun b => b.calls fps 0 b.loopCount md

def HardwareInterface.Ends (s : HardwareInterface) (last : ℕ) : Prop :=
  last < 2 ^ 32 ∧ ∃ first ≤ last, s.mPendingBatchMap last = some first

/-- The frames of the batch that ends with a frame, from its first to that one. -/
def HardwareInterface.batchFrames (s : HardwareInterface) (last : Option ℕ) : List ℕ :=
  last.elim [] fun l => (s.mPendingBatchMap l).elim [] fun first => List.range' first (l + 1 - first)

/-- **The expansion of a metadata buffer**: each frame of its batches is handed on once, in order;
the time of the last is that of the buffer, and the frames are a period of the frame rate apart. -/
structure Expands (fps : ℚ) (md : MetadataBuffer) (s : HardwareInterface)
    (calls : List MetadataBuffer) : Prop where
  frames : calls.filterMap MetadataBuffer.finalFrame = s.batchFrames md.finalFrame
  urgents : calls.filterMap MetadataBuffer.urgentFrame = s.batchFrames md.urgentFrame
  last : ∀ t ∈ (calls.filterMap MetadataBuffer.frameTime).getLast?, md.sensorTimestamp = some t
  apart : (calls.filterMap MetadataBuffer.frameTime).IsChain fun t t' : ℤ =>
    (t' : ℚ) - t = nsecPerSec / fps

/-- The times that are inferred are right: for several frames, if there is a time, the period is a
whole number of nanoseconds and the urgent range is not the longer one; for one frame also if there
is no time, or it is negative and the loop takes less than a nanosecond. -/
def TimesExact (fps : ℚ) (time : ℤ) (frames urgents : ℕ) : Prop :=
  frames = 0 ∨
  frames = 1 ∧ (time = 0 ∨ urgents ≤ 1 ∨ time < 0 ∧ ((urgents - 1 : ℕ) : ℚ) * nsecPerSec < fps) ∨
  2 ≤ frames ∧ time ≠ 0 ∧ urgents ≤ frames ∧ ∃ period : ℤ, (period : ℚ) = nsecPerSec / fps

/-- **The condition**: the batches have fewer than `2 ^ 32` frames, so that their lengths are not
cut, and the times that are inferred are right. -/
structure BatchExact (fps : ℚ) (md : MetadataBuffer) (s : HardwareInterface) : Prop where
  fits : (s.batchFrames md.finalFrame).length < 2 ^ 32 ∧
    (s.batchFrames md.urgentFrame).length < 2 ^ 32
  times : ∀ t ∈ md.sensorTimestamp, TimesExact fps t (s.batchFrames md.finalFrame).length
    (s.batchFrames md.urgentFrame).length

/-- The batches of the frames 1 and 2, and 3 to 6, are recorded. -/
def twoBatches : HardwareInterface :=
  { HardwareInterface.configured 4 6 with
    mPendingBatchMap := fun n => if n = 2 then some 1 else if n = 6 then some 3 else none }

def urgentAhead : MetadataBuffer :=
  ⟨some 1, some 2, some 1000000000, some 1, some 6, none⟩

/-- **A time that is too early**: the frames 1 and 2 are handed on together with four urgent frames,
and the time of the frame 2 is two periods before that of the buffer. -/
theorem batch_time_early :
    (∀ l, urgentAhead.finalFrame = some l ∨ urgentAhead.urgentFrame = some l →
      twoBatches.Ends l) ∧
    ∃ calls, handedOn 100 urgentAhead twoBatches = some calls ∧
      calls.filterMap MetadataBuffer.frameTime = [970000000, 980000000] ∧
      ¬Expands 100 urgentAhead twoBatches calls := by
  refine ⟨?_, _, rfl, by decide +kernel, fun h => ?_⟩
  · rintro l (h | h)
    · cases h
      exact ⟨by decide, 1, by decide, rfl⟩
    · cases h
      exact ⟨by decide, 3, by decide, rfl⟩
  · have hlast := h.last 980000000 (by decide +kernel)
    exact absurd hlast (by decide)

/-! ## What is handed on, position by position -/

section

variable {b : Batch} {fps : ℚ} {i k : ℕ} {md : MetadataBuffer} {s : HardwareInterface}

/-- The urgent frame that is handed on at position `i`. -/
def Batch.urgentAt (b : Batch) (i : ℕ) : Option ℕ :=
  b.urgent.bind fun r => if i < r.diff then some ((r.first + i) % 2 ^ 32) else none

/-- The time that is handed on at position `i`. -/
def Batch.timeAt (fps : ℚ) (b : Batch) (i : ℕ) : ℤ :=
  if b.lastTime = 0 then 0 else b.captureTime fps i

/-- **What the loop finds in the metadata at position `i`**: all its entries, with the urgent frame
number valid as long as there are urgent frames left. -/
structure Batch.Finds (b : Batch) (i : ℕ) (md : MetadataBuffer) : Prop where
  carries : b.Carries i md
  valid : b.invalid = false
  urgent : ∃ v n, md.urgentFrameNumberValid = some v ∧ md.urgentFrameNumber = some n ∧
    (v ≠ 0 ↔ ∃ r, b.urgent = some r ∧ i ≤ r.diff)
  time : ∃ t, md.sensorTimestamp = some t ∧ (b.lastTime = 0 → t = 0)

theorem Batch.Finds.complete (h : b.Finds i md) : ∃ v n, Complete md v n := by
  cases h.carries with
  | invalid hinv => exact absurd hinv (by simp [h.valid])
  | @valid v n _ complete _ => exact ⟨v, n, complete⟩

theorem Complete.urgentFrame {v : ℤ} {n : ℕ} (h : Complete md v n) {uv : ℤ} {un : ℕ}
    (hv : md.urgentFrameNumberValid = some uv) (hn : md.urgentFrameNumber = some un) :
    md.urgentFrame = if uv = 0 then none else some un := by
  obtain ⟨τ, hτ⟩ := Option.isSome_iff_exists.mp h.time
  unfold MetadataBuffer.urgentFrame
  rw [h.valid, h.frame, hτ, hv, hn]

theorem infer_urgent (fps : ℚ) (i : ℕ) (md : MetadataBuffer) (h : b.invalid = false) :
    (b.infer fps i md).urgentFrameNumberValid = (b.inferUrgent i md).urgentFrameNumberValid ∧
      (b.infer fps i md).urgentFrameNumber = (b.inferUrgent i md).urgentFrameNumber ∧
      (b.infer fps i md).sensorTimestamp =
        if b.lastTime = 0 then md.sensorTimestamp else some (b.captureTime fps i) := by
  have hurgent : (b.inferUrgent i md).sensorTimestamp = md.sensorTimestamp := by
    unfold Batch.inferUrgent
    split
    · rfl
    · split_ifs <;> rfl
  have hframe : ∀ md : MetadataBuffer,
      (b.inferFrame i md).urgentFrameNumberValid = md.urgentFrameNumberValid ∧
        (b.inferFrame i md).urgentFrameNumber = md.urgentFrameNumber ∧
        (b.inferFrame i md).sensorTimestamp = md.sensorTimestamp := by
    intro md
    unfold Batch.inferFrame
    split
    · exact ⟨rfl, rfl, rfl⟩
    · split_ifs <;> exact ⟨rfl, rfl, rfl⟩
  obtain ⟨hvalid, hnumber, htime⟩ := hframe (b.inferUrgent i md)
  unfold Batch.infer
  rw [if_neg (by simp [h])]
  dsimp only
  split_ifs
  · exact ⟨hvalid, hnumber, htime.trans hurgent⟩
  · exact ⟨hvalid, hnumber, rfl⟩

/-- **One step**: what is handed on at position `i`, and what the loop goes on with. -/
theorem Batch.Finds.step (h : b.Finds i md) (fps : ℚ) :
    (b.infer fps i md).finalFrame = b.frameAt i ∧
      (b.infer fps i md).urgentFrame = b.urgentAt i ∧
      (b.infer fps i md).sensorTimestamp = some (b.timeAt fps i) ∧
      b.Finds (i + 1) (b.infer fps i md) := by
  obtain ⟨hfinal, hcarries⟩ := h.carries.step fps
  obtain ⟨hvalid, hnumber, htime⟩ := infer_urgent fps i md h.valid
  obtain ⟨v, n, hv, hn, hleft⟩ := h.urgent
  obtain ⟨t, ht, hzero⟩ := h.time
  have htimeAt : (b.infer fps i md).sensorTimestamp = some (b.timeAt fps i) := by
    rw [htime]
    unfold Batch.timeAt
    split_ifs with h0
    · rw [ht, hzero h0]
    · rfl
  -- the urgent entries as they are handed on
  obtain ⟨w, m, hw, hm, hurgent, hnext⟩ : ∃ w m,
      (b.inferUrgent i md).urgentFrameNumberValid = some w ∧
      (b.inferUrgent i md).urgentFrameNumber = some m ∧
      (if w = 0 then none else some m) = b.urgentAt i ∧
      (w ≠ 0 ↔ ∃ r, b.urgent = some r ∧ i + 1 ≤ r.diff) := by
    unfold Batch.inferUrgent Batch.urgentAt
    cases hb : b.urgent with
    | none =>
      have hv0 : v = 0 := by
        by_contra hne
        obtain ⟨r, hr, -⟩ := hleft.mp hne
        exact nomatch hb.symm.trans hr
      exact ⟨v, n, hv, hn, if_pos hv0, iff_of_false (not_not.mpr hv0) fun ⟨_, hr, _⟩ => nomatch hr⟩
    | some r =>
      dsimp only
      by_cases hi : i < r.diff
      · have hv0 : v ≠ 0 := hleft.mpr ⟨r, hb, hi.le⟩
        rw [if_pos hi, Option.bind_some, if_pos hi]
        exact ⟨v, _, hv, rfl, if_neg hv0, iff_of_true hv0 ⟨r, rfl, hi⟩⟩
      · rw [if_neg hi, Option.bind_some, if_neg hi]
        refine ⟨0, n, rfl, hn, if_pos rfl, iff_of_false (not_not.mpr rfl) ?_⟩
        rintro ⟨r', hr', hle⟩
        cases hr'
        exact hi hle
  have hfinds : b.Finds (i + 1) (b.infer fps i md) := by
    refine ⟨hcarries, h.valid, ⟨w, m, hvalid.trans hw, hnumber.trans hm, hnext⟩, _, htimeAt, ?_⟩
    exact fun h0 => if_pos h0
  obtain ⟨_, _, hcomplete⟩ := hfinds.complete
  refine ⟨hfinal, ?_, htimeAt, hfinds⟩
  rw [hcomplete.urgentFrame (hvalid.trans hw) (hnumber.trans hm), hurgent]

/-- **What is handed on**, from position `i` on. -/
theorem calls_eq (fps : ℚ) (k : ℕ) (h : b.Finds i md) :
    (b.calls fps i k md).map (fun md => (md.finalFrame, md.urgentFrame, md.sensorTimestamp)) =
      (List.range' i k).map fun i => (b.frameAt i, b.urgentAt i, some (b.timeAt fps i)) := by
  induction k generalizing i md with
  | zero => rfl
  | succ k ih =>
    obtain ⟨hfinal, hurgent, htime, hnext⟩ := h.step fps
    rw [Batch.calls, range'_succ, map_cons, map_cons, hfinal, hurgent, htime, ih hnext]

theorem filterMap_range_lt {α : Type} (f : ℕ → α) {n N : ℕ} (h : n ≤ N) :
    (List.range N).filterMap (fun i => if i < n then some (f i) else none) =
      (List.range n).map f := by
  obtain ⟨m, rfl⟩ := Nat.exists_eq_add_of_le h
  have hfirst : (range n).filterMap (fun i => if i < n then some (f i) else none) =
      (range n).map f := by
    rw [← filterMap_eq_map]
    exact filterMap_congr fun i hi => if_pos (mem_range.mp hi)
  have hrest : ((range m).map (n + ·)).filterMap
      (fun i => if i < n then some (f i) else none) = [] := by
    refine filterMap_eq_nil_iff.mpr fun i hi => ?_
    obtain ⟨j, -, rfl⟩ := mem_map.mp hi
    exact if_neg (by omega)
  rw [range_add, filterMap_append, hfirst, hrest, append_nil]

theorem filterMap_range (r : Option FrameRange) {N : ℕ} (hN : r.elim 0 FrameRange.diff ≤ N)
    (fits : ∀ x ∈ r, x.first + x.diff ≤ 2 ^ 32) :
    (List.range N).filterMap (fun i => r.bind fun x =>
        if i < x.diff then some ((x.first + i) % 2 ^ 32) else none) =
      r.elim [] fun x => List.range' x.first x.diff := by
  cases r with
  | none => exact filterMap_eq_nil_iff.mpr fun _ _ => rfl
  | some x =>
    have hx : x.diff ≤ N := hN
    simp only [Option.bind_some, Option.elim_some]
    rw [filterMap_range_lt (fun i => (x.first + i) % 2 ^ 32) hx, range'_eq_map_range]
    refine map_congr_left fun i hi => mod_eq_of_lt ?_
    have := fits x rfl
    have := mem_range.mp hi
    omega

end

theorem truncate_of_nonneg {q : ℚ} (h : 0 ≤ q) : truncate q = ⌊q⌋ := by
  unfold truncate
  rw [Rat.floor_def', Int.tdiv_eq_ediv_of_nonneg (Rat.num_nonneg.mpr h)]

theorem truncate_of_nonpos {q : ℚ} (h : q ≤ 0) : truncate q = ⌈q⌉ := by
  have hneg : truncate (-q) = ⌊-q⌋ := truncate_of_nonneg (neg_nonneg.mpr h)
  unfold truncate at hneg ⊢
  rw [Rat.num_neg_eq_neg_num, Rat.den_neg_eq_den, Int.neg_tdiv] at hneg
  rw [← neg_inj, hneg, Int.floor_neg]

@[simp] theorem truncate_intCast (z : ℤ) : truncate z = z := by
  rcases le_total 0 z with h | h
  · rw [truncate_of_nonneg (Int.cast_nonneg_iff.mpr h), Int.floor_intCast]
  · rw [truncate_of_nonpos (Int.cast_nonpos.mpr h), Int.ceil_intCast]

/-- A time is not moved by what is taken off it only if that is less than one, and then only if the
time is negative, for truncation rounds towards zero. -/
theorem truncate_sub_eq_iff {z : ℤ} {x : ℚ} (hz : z ≠ 0) (hx : 0 < x) :
    truncate (z - x) = z ↔ z < 0 ∧ x < 1 := by
  rcases le_or_gt 0 ((z : ℚ) - x) with h | h
  · rw [truncate_of_nonneg h, Int.floor_eq_iff]
    have hpos : (0 : ℚ) < z := by linarith
    refine iff_of_false (fun h' => ?_) fun h' => ?_
    · linarith [h'.1]
    · exact absurd (Int.cast_pos.mp hpos) (not_lt.mpr h'.1.le)
  · rw [truncate_of_nonpos h.le, Int.ceil_eq_iff]
    constructor
    · rintro ⟨hlt, -⟩
      have hone : x < 1 := by linarith
      refine ⟨lt_of_le_of_ne ?_ hz, hone⟩
      have hz1 : (z : ℚ) < 1 := by linarith
      exact Int.lt_add_one_iff.mp (by exact_mod_cast hz1)
    · rintro ⟨-, hone⟩
      constructor <;> linarith

section

variable {b : Batch} {fps : ℚ}

theorem captureTime_eq {period : ℤ} (h : (period : ℚ) = nsecPerSec / fps) (hpos : 0 < b.loopCount)
    (i : ℕ) : b.captureTime fps i = b.lastTime - (b.loopCount - 1 : ℕ) * period + i * period := by
  have hloop : ((b.loopCount : ℚ) - 1) = ((b.loopCount - 1 : ℕ) : ℚ) := by
    rw [cast_pred hpos]
  have hfirst : (b.lastTime : ℚ) - ((b.loopCount : ℚ) - 1) * nsecPerSec / fps =
      ((b.lastTime - (b.loopCount - 1 : ℕ) * period : ℤ) : ℚ) := by
    rw [hloop, mul_div_assoc, ← h]
    push_cast
    rfl
  unfold Batch.captureTime
  rw [hfirst, truncate_intCast, mul_div_assoc, ← h]
  exact_mod_cast truncate_intCast _

theorem captureTime_zero : b.captureTime fps 0 =
    truncate (b.lastTime - (b.loopCount - 1) * nsecPerSec / fps) := by
  unfold Batch.captureTime
  dsimp only
  rw [cast_zero, zero_mul, zero_div, add_zero, truncate_intCast]

/-- **The times that are inferred**: the last of `n` is that of the buffer, and they are a period
apart, exactly under the condition on them. -/
theorem times_iff (positive : 0 < fps) {n u : ℕ} (loop : b.loopCount = max u n ∨ n = 0) :
    ((∀ t ∈ ((List.range n).map (b.timeAt fps)).getLast?, b.lastTime = t) ∧
      ((List.range n).map (b.timeAt fps)).IsChain fun t t' : ℤ =>
        (t' : ℚ) - t = nsecPerSec / fps) ↔
      TimesExact fps b.lastTime n u := by
  have hperiod : 0 < nsecPerSec / fps := div_pos (by norm_num) positive
  rcases Nat.lt_trichotomy n 1 with hn | rfl | hn
  · -- no frame
    obtain rfl : n = 0 := by omega
    exact iff_of_true ⟨by simp, by simp⟩ (.inl rfl)
  · -- one frame
    have hloop : b.loopCount = max u 1 := loop.resolve_right one_ne_zero
    have hlast : TimesExact fps b.lastTime 1 u ↔ b.lastTime = 0 ∨ u ≤ 1 ∨
        b.lastTime < 0 ∧ ((u - 1 : ℕ) : ℚ) * nsecPerSec < fps := by
      unfold TimesExact
      simp
    rw [hlast]
    simp only [range_one, map_singleton, getLast?_singleton, Option.mem_some_iff,
      forall_eq', List.IsChain.singleton, and_true]
    unfold Batch.timeAt
    by_cases hzero : b.lastTime = 0
    · rw [if_pos hzero]
      exact iff_of_true hzero (.inl hzero)
    rw [if_neg hzero, captureTime_zero, or_iff_right hzero]
    rcases le_or_gt u 1 with hu | hu
    · -- nothing is taken off the time
      rw [hloop, max_eq_right hu]
      refine iff_of_true ?_ (.inl hu)
      rw [cast_one, sub_self, zero_mul, zero_div, sub_zero, truncate_intCast]
    · have hcast : ((b.loopCount : ℚ) - 1) = ((u - 1 : ℕ) : ℚ) := by
        rw [hloop, max_eq_left hu.le, cast_pred (by omega)]
      have hoff : 0 < ((u - 1 : ℕ) : ℚ) * nsecPerSec / fps :=
        div_pos (mul_pos (cast_pos.mpr (by omega)) (by norm_num)) positive
      rw [hcast, eq_comm, truncate_sub_eq_iff hzero hoff, div_lt_one positive,
        or_iff_right (not_le.mpr hu)]
  · -- several frames
    have hloop : b.loopCount = max u n := loop.resolve_right (by omega)
    have hmany : TimesExact fps b.lastTime n u ↔
        b.lastTime ≠ 0 ∧ u ≤ n ∧ ∃ period : ℤ, (period : ℚ) = nsecPerSec / fps := by
      unfold TimesExact
      constructor
      · rintro (h | ⟨h, -⟩ | ⟨-, h⟩)
        · omega
        · omega
        · exact h
      · exact fun h => .inr (.inr ⟨hn, h⟩)
    have hgetLast : ((range n).map (b.timeAt fps)).getLast? = some (b.timeAt fps (n - 1)) := by
      rw [getLast?_map, getLast?_range, if_neg (by omega)]
      rfl
    rw [hmany, hgetLast, isChain_map, isChain_range]
    simp only [Option.mem_some_iff, forall_eq']
    constructor
    · rintro ⟨hlast, hapart⟩
      have hfirst := hapart 0 (by omega)
      have hzero : b.lastTime ≠ 0 := by
        intro h0
        unfold Batch.timeAt at hfirst
        rw [if_pos h0, if_pos h0, sub_self] at hfirst
        exact hperiod.ne hfirst
      -- the period is the difference of two times
      have hwhole : ((b.timeAt fps 1 - b.timeAt fps 0 : ℤ) : ℚ) = nsecPerSec / fps := by
        rw [Int.cast_sub]
        exact hfirst
      refine ⟨hzero, ?_, _, hwhole⟩
      have hpos : (0 : ℤ) < b.timeAt fps 1 - b.timeAt fps 0 := by
        rw [← hwhole] at hperiod
        exact_mod_cast hperiod
      unfold Batch.timeAt at hlast
      rw [if_neg hzero, captureTime_eq hwhole (by omega), hloop] at hlast
      by_contra hlong
      rw [max_eq_left (by omega)] at hlast
      have hdiff : ((u - 1 : ℕ) : ℤ) - ((n - 1 : ℕ) : ℤ) = 0 := by
        have hprod : (((u - 1 : ℕ) : ℤ) - ((n - 1 : ℕ) : ℤ)) *
            (b.timeAt fps 1 - b.timeAt fps 0) = 0 := by
          linarith
        exact (mul_eq_zero.mp hprod).resolve_right hpos.ne'
      omega
    · rintro ⟨hzero, hle, period, hwhole⟩
      have htime : ∀ i, b.timeAt fps i = b.lastTime - (n - 1 : ℕ) * period + i * period := by
        intro i
        unfold Batch.timeAt
        rw [if_neg hzero, captureTime_eq hwhole (by omega), hloop, max_eq_right hle]
      refine ⟨by rw [htime]; ring, fun i _ => ?_⟩
      rw [htime, htime, ← hwhole]
      push_cast
      ring

end

section

variable {fps : ℚ} {md : MetadataBuffer} {s : HardwareInterface} {b : Batch}

theorem subU32_length {first last : ℕ} (h : first ≤ last) (hlast : last < 2 ^ 32) :
    subU32 (last + 1) first = (last + 1 - first) % 2 ^ 32 := by
  unfold subU32
  rw [mod_eq_of_lt (h.trans_lt hlast), ← add_mod_right (last + 1 - first)]
  congr 1
  omega

/-- **The range that is read for a frame** has the frames of its batch, unless their number is
cut. -/
theorem frameRange_spec {valid : ℤ} {last : ℕ} (recorded : valid ≠ 0 → s.Ends last) :
    ∃ r, frameRange valid last s = some r ∧
      r.elim 0 FrameRange.diff =
        (s.batchFrames (if valid = 0 then none else some last)).length % 2 ^ 32 ∧
      (∀ x ∈ r, x.first + x.diff ≤ 2 ^ 32) ∧
      (r.elim [] (fun x => List.range' x.first x.diff) =
          s.batchFrames (if valid = 0 then none else some last) ↔
        (s.batchFrames (if valid = 0 then none else some last)).length < 2 ^ 32) := by
  unfold frameRange
  by_cases hv : valid = 0
  · rw [if_pos hv, if_pos hv]
    exact ⟨none, rfl, rfl, fun _ => (nomatch ·), iff_of_true rfl (Nat.two_pow_pos 32)⟩
  obtain ⟨hlast, first, hle, hfirst⟩ := recorded hv
  have hframes : s.batchFrames (some last) = range' first (last + 1 - first) := by
    unfold HardwareInterface.batchFrames
    rw [Option.elim_some, hfirst, Option.elim_some]
  have hdiff := subU32_length hle hlast
  rw [if_neg hv, if_neg hv, hframes, hfirst, length_range']
  refine ⟨_, rfl, hdiff, ?_, ?_⟩
  · rintro _ ⟨⟩
    have := mod_le (last + 1 - first) (2 ^ 32)
    simp only [hdiff]
    omega
  · rw [Option.elim_some]
    dsimp only
    rw [hdiff]
    constructor
    · intro h
      have hlength := congrArg length h
      rw [length_range', length_range'] at hlength
      rw [← hlength]
      exact mod_lt _ (by decide)
    · intro h
      rw [mod_eq_of_lt h]

theorem readBatch_complete {v uv τ : ℤ} {n un : ℕ} (hv : md.frameNumberValid = some v)
    (hn : md.frameNumber = some n) (hτ : md.sensorTimestamp = some τ)
    (huv : md.urgentFrameNumberValid = some uv) (hun : md.urgentFrameNumber = some un)
    (normal : v ≠ 0 → s.Ends n) (urgent : uv ≠ 0 → s.Ends un) :
    ∃ ru rf, readBatch md s = some ⟨false, ru, rf, τ⟩ ∧ frameRange uv un s = some ru ∧
      frameRange v n s = some rf ∧ Batch.Finds ⟨false, ru, rf, τ⟩ 0 md := by
  obtain ⟨ru, hru, -⟩ := frameRange_spec urgent
  obtain ⟨rf, hrf, -⟩ := frameRange_spec normal
  have hread : readBatch md s = some ⟨false, ru, rf, τ⟩ := by
    unfold readBatch
    rw [hv, hn, hτ, huv, hun]
    dsimp only
    rw [hru, hrf]
    rfl
  refine ⟨ru, rf, hread, hru, hrf, readBatch_carries hread, rfl, ⟨uv, un, huv, hun, ?_⟩, τ, hτ, id⟩
  unfold frameRange at hru
  by_cases h0 : uv = 0
  · rw [if_pos h0] at hru
    cases hru
    exact iff_of_false (not_not.mpr h0) fun ⟨r, hr, _⟩ => nomatch hr
  · rw [if_neg h0] at hru
    obtain ⟨first, -, hfirst⟩ := Option.map_eq_some_iff.mp hru
    exact iff_of_true h0 ⟨_, hfirst.symm, Nat.zero_le _⟩

theorem diff_le_loopCount (b : Batch) :
    b.frame.elim 0 FrameRange.diff ≤ b.loopCount ∧
      b.urgent.elim 0 FrameRange.diff ≤ b.loopCount := by
  unfold Batch.loopCount
  split_ifs with h
  · rw [h.1, h.2]
    exact ⟨Nat.zero_le _, Nat.zero_le _⟩
  · exact ⟨le_max_right _ _, le_max_left _ _⟩

theorem calls_entries (fps : ℚ) (h : b.Finds 0 md)
    (fits : ∀ x ∈ b.frame, x.first + x.diff ≤ 2 ^ 32)
    (fitsUrgent : ∀ x ∈ b.urgent, x.first + x.diff ≤ 2 ^ 32) :
    (b.calls fps 0 b.loopCount md).filterMap MetadataBuffer.finalFrame =
        b.frame.elim [] (fun x => List.range' x.first x.diff) ∧
      (b.calls fps 0 b.loopCount md).filterMap MetadataBuffer.urgentFrame =
        b.urgent.elim [] (fun x => List.range' x.first x.diff) ∧
      (b.calls fps 0 b.loopCount md).filterMap MetadataBuffer.frameTime =
        (List.range (b.frame.elim 0 FrameRange.diff)).map (b.timeAt fps) := by
  have heq := calls_eq fps b.loopCount h
  rw [← range_eq_range'] at heq
  obtain ⟨hframe, hurgent⟩ := diff_le_loopCount b
  have hentry : ∀ {α : Type} (f : Option ℕ × Option ℕ × Option ℤ → Option α),
      (b.calls fps 0 b.loopCount md).filterMap
          (fun md => f (md.finalFrame, md.urgentFrame, md.sensorTimestamp)) =
        (range b.loopCount).filterMap
          fun i => f (b.frameAt i, b.urgentAt i, some (b.timeAt fps i)) := by
    intro α f
    have hmap := congrArg (filterMap f) heq
    rw [filterMap_map, filterMap_map] at hmap
    exact hmap
  refine ⟨?_, ?_, ?_⟩
  · exact (hentry fun x => x.1).trans (filterMap_range b.frame hframe fits)
  · exact (hentry fun x => x.2.1).trans (filterMap_range b.urgent hurgent fitsUrgent)
  · refine (hentry fun x => x.1.bind fun _ => x.2.2).trans ?_
    rw [← filterMap_range_lt (b.timeAt fps) hframe]
    refine filterMap_congr fun i _ => ?_
    unfold Batch.frameAt
    cases b.frame with
    | none => exact (if_neg (Nat.not_lt_zero i)).symm
    | some r =>
      by_cases hi : i < r.diff
      · exact (congrArg (Option.bind · _) (if_pos hi)).trans (if_pos hi).symm
      · exact (congrArg (Option.bind · _) (if_neg hi)).trans (if_neg hi).symm

theorem handedOn_incomplete (fps : ℚ) (s : HardwareInterface)
    (missing : md.frameNumberValid = none ∨ md.frameNumber = none ∨ md.sensorTimestamp = none ∨
      md.urgentFrameNumberValid = none ∨ md.urgentFrameNumber = none) :
    handedOn fps md s = some [md] ∧ md.finalFrame = none ∧ md.urgentFrame = none := by
  -- the five entries are not all there
  have hmissing : ∀ {v : ℤ} {n : ℕ} {τ u : ℤ} {m : ℕ}, md.frameNumberValid = some v →
      md.frameNumber = some n → md.sensorTimestamp = some τ →
      md.urgentFrameNumberValid = some u → md.urgentFrameNumber = some m → False := by
    intro v n τ u m hv hn hτ hu hm
    simp [hv, hn, hτ, hu, hm] at missing
  refine ⟨?_, ?_, ?_⟩
  · unfold handedOn readBatch
    split
    · next hv hn hτ hu hm => exact (hmissing hv hn hτ hu hm).elim
    · rfl
  · unfold MetadataBuffer.finalFrame
    split
    · next hv hn hτ hu hm => exact (hmissing hv hn hτ hu hm).elim
    · rfl
  · unfold MetadataBuffer.urgentFrame
    split
    · next hv hn hτ hu hm => exact (hmissing hv hn hτ hu hm).elim
    · rfl

/-- **The expansion of batch metadata**, of whichever recorded batches its frame and its urgent frame
end: each frame is handed on once, in order and at its time, exactly under the condition. -/
theorem batch_expands_iff (positive : 0 < fps)
    (recorded : ∀ l, md.finalFrame = some l ∨ md.urgentFrame = some l → s.Ends l) :
    (∃ calls, handedOn fps md s = some calls ∧ Expands fps md s calls) ↔ BatchExact fps md s := by
  by_cases missing : md.frameNumberValid = none ∨ md.frameNumber = none ∨
      md.sensorTimestamp = none ∨ md.urgentFrameNumberValid = none ∨ md.urgentFrameNumber = none
  · obtain ⟨hcalls, hfinal, hurgent⟩ := handedOn_incomplete fps s missing
    have hframes : s.batchFrames none = [] := rfl
    have htime : md.frameTime = none := by
      unfold MetadataBuffer.frameTime
      rw [hfinal]
      rfl
    refine iff_of_true ⟨_, hcalls, ?_⟩ ?_
    · refine ⟨?_, ?_, ?_, ?_⟩
      · simp [hfinal, hframes]
      · simp [hurgent, hframes]
      · simp [htime]
      · simp [htime]
    · refine ⟨?_, fun _ _ => .inl ?_⟩
      · rw [hfinal, hurgent, hframes]
        exact ⟨Nat.two_pow_pos 32, Nat.two_pow_pos 32⟩
      · rw [hfinal, hframes]
        rfl
  simp only [not_or, ← ne_eq, Option.ne_none_iff_exists'] at missing
  obtain ⟨⟨v, hv⟩, ⟨n, hn⟩, ⟨τ, hτ⟩, ⟨uv, huv⟩, ⟨un, hun⟩⟩ := missing
  have hcomplete : Complete md v n := ⟨hv, hn, hτ ▸ rfl, huv ▸ rfl, hun ▸ rfl⟩
  have hfinal := hcomplete.finalFrame
  have hurgent := hcomplete.urgentFrame huv hun
  have hnormal : v ≠ 0 → s.Ends n := fun h0 => recorded n (.inl (hfinal.trans (if_neg h0)))
  have hurgents : uv ≠ 0 → s.Ends un := fun h0 => recorded un (.inr (hurgent.trans (if_neg h0)))
  obtain ⟨ru, rf, hread, hru, hrf, hfinds⟩ := readBatch_complete hv hn hτ huv hun hnormal hurgents
  obtain ⟨rf', hrf', hlength, hbound, hframes⟩ := frameRange_spec hnormal
  obtain ⟨ru', hru', hlengthU, hboundU, hframesU⟩ := frameRange_spec hurgents
  obtain rfl : rf = rf' := Option.some.inj (hrf.symm.trans hrf')
  obtain rfl : ru = ru' := Option.some.inj (hru.symm.trans hru')
  rw [← hfinal] at hlength hframes
  rw [← hurgent] at hlengthU hframesU
  set b : Batch := ⟨false, ru, rf, τ⟩ with hb
  obtain ⟨hf, hu, ht⟩ := calls_entries fps hfinds hbound hboundU
  have hcalls : handedOn fps md s = some (b.calls fps 0 b.loopCount md) := by
    unfold handedOn
    rw [hread]
    rfl
  have hloop : b.loopCount = max (ru.elim 0 FrameRange.diff) (rf.elim 0 FrameRange.diff) ∨
      rf.elim 0 FrameRange.diff = 0 := by
    unfold Batch.loopCount
    split_ifs with h
    · obtain rfl : rf = none := h.2
      exact .inr rfl
    · exact .inl rfl
  have htimes := times_iff positive hloop
  constructor
  · rintro ⟨calls, hc, hexp⟩
    obtain rfl := Option.some.inj (hcalls.symm.trans hc)
    have hfit := hframes.mp (hf.symm.trans hexp.frames)
    have hfitU := hframesU.mp (hu.symm.trans hexp.urgents)
    rw [mod_eq_of_lt hfit] at hlength
    rw [mod_eq_of_lt hfitU] at hlengthU
    refine ⟨⟨hfit, hfitU⟩, fun t hmem => ?_⟩
    obtain rfl : τ = t := Option.some.inj (hτ.symm.trans hmem)
    rw [← hlength, ← hlengthU]
    refine htimes.mp ⟨fun t hmem => ?_, ht ▸ hexp.apart⟩
    exact Option.some.inj (hτ.symm.trans (hexp.last t (ht ▸ hmem)))
  · intro hexact
    obtain ⟨hfit, hfitU⟩ := hexact.fits
    have htime := hexact.times τ hτ
    rw [mod_eq_of_lt hfit] at hlength
    rw [mod_eq_of_lt hfitU] at hlengthU
    rw [← hlength, ← hlengthU] at htime
    obtain ⟨hlast, hapart⟩ := htimes.mpr htime
    refine ⟨_, hcalls, hf.trans (hframes.mpr hfit), hu.trans (hframesU.mpr hfitU), ?_, ?_⟩
    · rw [ht]
      exact fun t hmem => hτ.trans (congrArg some (hlast t hmem))
    · rw [ht]
      exact hapart

end

/-- The frames 3 to 6, handed on together with two urgent frames. -/
theorem batch_expands_iff_fourFrames : ∃ calls,
    handedOn 100 ⟨some 1, some 6, some 1000000000, some 1, some 2, none⟩ twoBatches = some calls ∧
      Expands 100 ⟨some 1, some 6, some 1000000000, some 1, some 2, none⟩ twoBatches calls := by
  refine (batch_expands_iff (by norm_num) ?_).mpr ⟨by decide, ?_⟩
  · rintro l (h | h)
    · cases h
      exact ⟨by decide, 3, by decide, rfl⟩
    · cases h
      exact ⟨by decide, 1, by decide, rfl⟩
  · rintro _ ⟨⟩
    refine .inr (.inr ⟨by decide, by decide, by decide, 10000000, ?_⟩)
    norm_num

end Hal3
