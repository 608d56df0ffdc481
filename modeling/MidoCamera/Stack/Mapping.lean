import MidoCamera.Library.Run
import Mathlib.Data.List.Range
import Mathlib.Order.Lattice

/-!
# Buffers that are mapped while a stream starts

`mm_stream_streamon` looks at the buffers under the lock of the stream: it waits at the first that
the kernel has and that is not mapped yet, and gives up at the first whose mapping failed. A thread
that maps buffers wakes it when there is nothing to wait for. What woke it is not looked at: it
turns the stream on, as it does when it wakes for no reason.

Each call of a mapping function is one step, since it holds the lock.
-/

namespace MmCamera

open Loop Function

/-! ## The stream and its steps -/

/-- Where the thread is that calls `mm_stream_streamon`: not in it, or back from it with a return
code; waiting for `buf_cond`, signalled and waiting for the lock; or before `VIDIOC_STREAMON`, the
lock released. -/
inductive StreamonPc
  | idle
  | waiting
  | signalled
  | passed
  | returned (rc : ℤ)
  deriving DecidableEq, Repr

/-- `buf_num`, and the `map_status` and `in_kernel` of the buffers. -/
structure MapStream where
  bufNum : ℕ
  mapStatus : ℕ → ℤ
  inKernel : ℕ → Bool
  pc : StreamonPc

/-- How the loop of `mm_stream_streamon` is left. -/
inductive MapCheck
  | wait | failed | done
  deriving DecidableEq, Repr

namespace MapStream

/-- The stream before it is started, with the buffers that are queued initially. -/
def registered (bufNum : ℕ) (inKernel : ℕ → Bool) : MapStream :=
  ⟨bufNum, fun _ => 0, inKernel, .idle⟩

/-- The loop of `mm_stream_streamon`. -/
def check (s : MapStream) : List ℕ → MapCheck
  | [] => .done
  | i :: is =>
    if s.mapStatus i = 0 ∧ s.inKernel i then .wait
    else if s.mapStatus i < 0 then .failed
    else s.check is

/-- The loop of `mm_stream_need_wait_for_mapping`. -/
def needWaitLoop (s : MapStream) (ret : Bool) : List ℕ → Bool
  | [] => ret
  | i :: is =>
    if s.mapStatus i = 0 ∧ s.inKernel i then s.needWaitLoop true is
    else if s.mapStatus i < 0 then false
    else s.needWaitLoop ret is

def needWaitForMapping (s : MapStream) : Bool := s.needWaitLoop false (List.range s.bufNum)

/-- The end of `mm_stream_map_buf` and of `mm_stream_map_bufs`. -/
def signal (s : MapStream) : MapStream :=
  if s.pc = .waiting ∧ s.needWaitForMapping = false then { s with pc := .signalled } else s

/-- `mm_stream_map_buf`. -/
def mapBuf (s : MapStream) (frameIdx : ℕ) (ok : Bool) : MapStream :=
  { s with mapStatus := update s.mapStatus frameIdx (if ok then 1 else -1) }.signal

/-- `mm_stream_map_bufs`, of so many buffers. -/
def mapBufs (s : MapStream) (numbufs : ℕ) (ok : Bool) : MapStream :=
  { s with
    mapStatus := fun i => if i < numbufs then (if ok then 1 else -1) else s.mapStatus i }.signal

/-- What `mm_stream_streamon` does before it waits or releases the lock. -/
def enter (s : MapStream) : MapStream :=
  { s with
    pc := match s.check (List.range s.bufNum) with
      | .wait => .waiting
      | .failed => .returned (-1)
      | .done => .passed }

end MapStream

/-- A step of `mm_stream_streamon`, of a thread that maps or unmaps, or of the kernel's queue. -/
inductive MapEvent
  | call
  | wake
  | spurious
  | timeout
  | streamon (ok : Bool)
  | mapBuf (frameIdx : ℕ) (ok : Bool)
  | mapBufs (numbufs : ℕ) (ok : Bool)
  | unmapBuf (frameIdx : ℕ)
  | qbuf (i : ℕ)
  | dqbuf (i : ℕ)
  deriving DecidableEq, Repr

/-- **The steps.** -/
inductive MapStep : MapEvent → MapStream → MapStream → Prop
  | call {s : MapStream} (pc : s.pc = .idle ∨ ∃ rc, s.pc = .returned rc) : MapStep .call s s.enter
  | wake {s : MapStream} (pc : s.pc = .signalled) : MapStep .wake s { s with pc := .passed }
  | spurious {s : MapStream} (pc : s.pc = .waiting) : MapStep .spurious s { s with pc := .passed }
  | timeout {s : MapStream} (pc : s.pc = .waiting) :
      MapStep .timeout s { s with pc := .returned (-1) }
  -- `VIDIOC_STREAMON`
  | streamon {s : MapStream} (ok : Bool) (pc : s.pc = .passed) :
      MapStep (.streamon ok) s { s with pc := .returned (if ok then 0 else -1) }
  | mapBuf {s : MapStream} (frameIdx : ℕ) (ok : Bool) :
      MapStep (.mapBuf frameIdx ok) s (s.mapBuf frameIdx ok)
  | mapBufs {s : MapStream} (numbufs : ℕ) (ok : Bool) :
      MapStep (.mapBufs numbufs ok) s (s.mapBufs numbufs ok)
  | unmapBuf {s : MapStream} (frameIdx : ℕ) :
      MapStep (.unmapBuf frameIdx) s
        { s with mapStatus := update s.mapStatus frameIdx 0 }
  | qbuf {s : MapStream} (i : ℕ) :
      MapStep (.qbuf i) s { s with inKernel := update s.inKernel i true }
  | dqbuf {s : MapStream} (i : ℕ) :
      MapStep (.dqbuf i) s { s with inKernel := update s.inKernel i false }

/-! ## What is claimed, and the condition -/

/-- **The stream is ready**: no mapping has failed, and every buffer that is queued is mapped. -/
def MapStream.Ready (s : MapStream) : Prop :=
  ∀ i < s.bufNum, 0 ≤ s.mapStatus i ∧ (s.inKernel i = true → s.mapStatus i = 1)

/-- **The condition**: the stream is ready when `mm_stream_streamon` comes back from its wait; and
once it has released the lock, until it turns the stream on, no mapping fails, no buffer is unmapped
that is queued, and none is queued that is not mapped. -/
def MapEvent.Cond : MapEvent → MapStream → Prop
  | .wake, s | .spurious, s => s.Ready
  | .mapBuf _ ok, s | .mapBufs _ ok, s => s.pc = .passed → ok = true
  | .unmapBuf i, s => s.pc = .passed → s.inKernel i = false
  | .qbuf i, s => s.pc = .passed → s.mapStatus i = 1
  | _, _ => True

def MapEvent.Clean (e : MapEvent) (s t : MapStream) : Prop := e.Cond s ∧ MapStep e s t

/-- A buffer is mapped, not mapped, or its mapping failed; and the stream is ready when
`mm_stream_streamon` has released the lock. -/
structure MapStream.Safe (s : MapStream) : Prop where
  range : ∀ i, s.mapStatus i = -1 ∨ s.mapStatus i = 0 ∨ s.mapStatus i = 1
  passed : s.pc = .passed → s.Ready

namespace MapStream

variable {s t : MapStream} {e : MapEvent} {i : ℕ}

theorem check_done {is : List ℕ} (h : s.check is = .done) :
    ∀ i ∈ is, 0 ≤ s.mapStatus i ∧ (s.inKernel i = true → s.mapStatus i ≠ 0) := by
  induction is with
  | nil => exact fun _ hi => nomatch hi
  | cons i is ih =>
    unfold check at h
    split_ifs at h with hwait hfailed
    intro j hj
    rcases List.mem_cons.mp hj with rfl | hj
    · exact ⟨not_lt.mp hfailed, fun hkernel hzero => hwait ⟨hzero, hkernel⟩⟩
    · exact ih h j hj

theorem enter_safe (hs : s.Safe) : s.enter.Safe := by
  refine ⟨hs.range, fun hpassed i hi => ?_⟩
  unfold enter at hpassed
  have hdone : s.check (List.range s.bufNum) = .done := by
    cases hcheck : s.check (List.range s.bufNum) <;> rw [hcheck] at hpassed <;> first
      | rfl
      | cases hpassed
  obtain ⟨hpos, hmapped⟩ := check_done hdone i (List.mem_range.mpr hi)
  refine ⟨hpos, fun hkernel => ?_⟩
  have hne : s.mapStatus i ≠ 0 := hmapped hkernel
  have hrange := hs.range i
  change 0 ≤ s.mapStatus i at hpos
  show s.mapStatus i = 1
  omega

theorem signal_safe (hs : s.Safe) : s.signal.Safe := by
  unfold signal
  split_ifs
  · exact ⟨hs.range, (nomatch ·)⟩
  · exact hs

theorem mapped_safe (hs : s.Safe) {mapStatus : ℕ → ℤ} {ok : Bool}
    (status : ∀ i, mapStatus i = s.mapStatus i ∨ mapStatus i = if ok then 1 else -1)
    (clean : s.pc = .passed → ok = true) : { s with mapStatus := mapStatus }.signal.Safe := by
  refine signal_safe ⟨fun i => ?_, fun hpassed i hi => ?_⟩
  · show mapStatus i = -1 ∨ mapStatus i = 0 ∨ mapStatus i = 1
    rcases status i with h | h
    · rw [h]
      exact hs.range i
    · rw [h]
      cases ok <;> decide
  · show 0 ≤ mapStatus i ∧ (s.inKernel i = true → mapStatus i = 1)
    rcases status i with h | h
    · rw [h]
      exact hs.passed hpassed i hi
    · rw [clean hpassed] at h
      exact ⟨by rw [h]; decide, fun _ => h⟩

end MapStream

open MapStream

variable {s t : MapStream} {e : MapEvent}

/-- **Every step that meets the condition keeps the invariant.** -/
theorem MapEvent.Clean.safe (h : e.Clean s t) (hs : s.Safe) : t.Safe := by
  obtain ⟨hc, h⟩ := h
  cases h with
  | call pc => exact enter_safe hs
  | wake pc | spurious pc => exact ⟨hs.range, fun _ => hc⟩
  | timeout pc | streamon ok pc => exact ⟨hs.range, (nomatch ·)⟩
  | mapBuf frameIdx ok =>
    refine mapped_safe hs (fun i => ?_) hc
    by_cases hi : i = frameIdx
    · exact .inr (by rw [hi, update_self])
    · exact .inl (update_of_ne hi _ _)
  | mapBufs numbufs ok =>
    refine mapped_safe hs (fun i => ?_) hc
    by_cases hi : i < numbufs
    · exact .inr (if_pos hi)
    · exact .inl (if_neg hi)
  | unmapBuf frameIdx =>
    refine ⟨fun i => ?_, fun hpassed i hi => ?_⟩
    · show update s.mapStatus frameIdx 0 i = -1 ∨
        update s.mapStatus frameIdx 0 i = 0 ∨ update s.mapStatus frameIdx 0 i = 1
      rw [update_apply]
      split_ifs
      · exact .inr (.inl rfl)
      · exact hs.range i
    · -- a buffer that is unmapped now is not queued
      obtain ⟨hpos, hmapped⟩ := hs.passed hpassed i hi
      show 0 ≤ update s.mapStatus frameIdx 0 i ∧
        (s.inKernel i = true → update s.mapStatus frameIdx 0 i = 1)
      by_cases heq : i = frameIdx
      · rw [heq, update_self]
        exact ⟨le_rfl, fun hkernel => absurd hkernel (by simp [hc hpassed])⟩
      · rw [update_of_ne heq]
        exact ⟨hpos, hmapped⟩
  | qbuf k =>
    refine ⟨hs.range, fun hpassed i hi => ⟨(hs.passed hpassed i hi).1, fun hkernel => ?_⟩⟩
    by_cases heq : i = k
    · rw [heq]
      exact hc hpassed
    · exact (hs.passed hpassed i hi).2 ((update_of_ne heq ..).symm.trans hkernel)
  | dqbuf k =>
    refine ⟨hs.range, fun hpassed i hi => ⟨(hs.passed hpassed i hi).1, fun hkernel => ?_⟩⟩
    by_cases heq : i = k
    · rw [heq] at hkernel
      exact absurd ((update_self k false s.inKernel).symm.trans hkernel) (by decide)
    · exact (hs.passed hpassed i hi).2 ((update_of_ne heq ..).symm.trans hkernel)

end MmCamera
