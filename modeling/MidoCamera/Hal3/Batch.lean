import MidoCamera.Hal3.Effects
import Mathlib.Data.Rat.Defs

/-!
# Metadata buffers and their use

A metadata buffer is given back to its stream and freed, or handed to the channel of a stream that
needs it for a reprocess of its own. In batch mode one metadata buffer stands for all frames of a
batch: `handleBatchMetadata` infers the frame numbers and hands the buffer on once for each. It lets
go of `mMutex` in between, so its states are given: those it finds whenever it takes `mMutex`.

The frame rate is taken as a rational number.
-/

namespace Hal3

/-! ## The use of a metadata buffer -/

/-- A use of a metadata buffer: it is given back by `bufDone` and freed, or handed to the channel of
a stream by `queueReprocMetadata`. -/
inductive Use
  | released
  | queued (stream : Stream)
  deriving DecidableEq, Repr

def releaseIf (free : Bool) : List Use := if free then [.released] else []

/-- The use of the buffer for the request of its frame: the first stream that needs the metadata
gets it. -/
def PendingRequest.use (free : Bool) (i : PendingRequest) : List Use :=
  match i.buffers.find? (·.needMetadata) with
  | some j => [.queued j.stream]
  | none => releaseIf free

/-- The uses of the buffer in the loop that flushes out all requests up to a frame number. -/
def flushUses (free : Bool) (frameNumber : ℕ) : List PendingRequest → List Use
  | [] => []
  | i :: is =>
    if i.frameNumber ≤ frameNumber then
      (if i.frameNumber < frameNumber then [] else i.use free) ++ flushUses free frameNumber is
    else []

/-- The uses of the buffer in `handleMetadataWithLock`, where `free` is
`free_and_bufdone_meta_buf`. -/
def metadataUses (free : Bool) (metadata : MetadataBuffer) (s : HardwareInterface) : List Use :=
  if s.mFlushPerf ∨ s.mState = .error ∨ s.mState = .deinit then releaseIf free
  else
    match metadata.frameNumberValid, metadata.frameNumber, metadata.sensorTimestamp,
      metadata.urgentFrameNumberValid, metadata.urgentFrameNumber with
    | some frameNumberValid, some frameNumber, some _, some urgentValid, some urgent =>
      let s := if urgentValid ≠ 0 then s.sendUrgent urgent else s
      if frameNumberValid = 0 then releaseIf free
      else flushUses free frameNumber s.mPendingRequestsList
    | _, _, _, _, _ => releaseIf free

/-! ## The frame numbers of a batch -/

/-- `a - b` as a `uint32_t`. -/
def subU32 (a b : ℕ) : ℕ := (a + (2 ^ 32 - b % 2 ^ 32)) % 2 ^ 32

def truncate (q : ℚ) : ℤ := q.num.tdiv q.den

abbrev nsecPerSec : ℚ := 1000000000

/-- The frames of a batch: the first, and how many there are. -/
structure FrameRange where
  first : ℕ
  diff : ℕ
  deriving DecidableEq, Repr

/-- What `handleBatchMetadata` reads before its loop: the urgent frames and the frames, where they
are valid, and the time of the last frame. -/
structure Batch where
  invalid : Bool
  urgent : Option FrameRange
  frame : Option FrameRange
  lastTime : ℤ
  deriving DecidableEq, Repr

/-- The frames of the batch that ends with a frame, if that is valid. `valueFor` does not return for
a key that is not in the map. -/
def frameRange (valid : ℤ) (last : ℕ) (s : HardwareInterface) : Option (Option FrameRange) :=
  if valid = 0 then some none
  else (s.mPendingBatchMap last).map fun first => some ⟨first, subU32 (last + 1) first⟩

/-- What `handleBatchMetadata` reads under `mMutex` before its loop. -/
def readBatch (metadata : MetadataBuffer) (s : HardwareInterface) : Option Batch :=
  match metadata.frameNumberValid, metadata.frameNumber, metadata.sensorTimestamp,
    metadata.urgentFrameNumberValid, metadata.urgentFrameNumber with
  | some frameNumberValid, some frameNumber, some timestamp, some urgentValid, some urgent => do
    let urgent ← frameRange urgentValid urgent s
    let frame ← frameRange frameNumberValid frameNumber s
    return ⟨false, urgent, frame, timestamp⟩
  | _, _, _, _, _ => some ⟨true, none, none, 0⟩

/-- What `handleBatchMetadata` leaves of the map: the entry of the last frame is removed. -/
def removeBatch (metadata : MetadataBuffer) (b : Batch) (s : HardwareInterface) :
    HardwareInterface :=
  match b.frame, metadata.frameNumber with
  | some _, some last =>
    { s with mPendingBatchMap := fun n => if n = last then none else s.mPendingBatchMap n }
  | _, _ => s

/-- How often the buffer is handed on. -/
def Batch.loopCount (b : Batch) : ℕ :=
  if b.urgent = none ∧ b.frame = none then 1
  else max (b.urgent.elim 0 FrameRange.diff) (b.frame.elim 0 FrameRange.diff)

/-- The time of the frame at position `i` of the batch. -/
def Batch.captureTime (fps : ℚ) (b : Batch) (i : ℕ) : ℤ :=
  let first := truncate (b.lastTime - (b.loopCount - 1) * nsecPerSec / fps)
  truncate (first + i * nsecPerSec / fps)

/-- The metadata with the urgent frame number at position `i`, which is not valid past the last. -/
def Batch.inferUrgent (b : Batch) (i : ℕ) (metadata : MetadataBuffer) : MetadataBuffer :=
  match b.urgent with
  | none => metadata
  | some r =>
    if i < r.diff then { metadata with urgentFrameNumber := some ((r.first + i) % 2 ^ 32) }
    else { metadata with urgentFrameNumberValid := some 0 }

/-- The metadata with the frame number at position `i`, which is not valid past the last. -/
def Batch.inferFrame (b : Batch) (i : ℕ) (metadata : MetadataBuffer) : MetadataBuffer :=
  match b.frame with
  | none => metadata
  | some r =>
    if i < r.diff then { metadata with frameNumber := some ((r.first + i) % 2 ^ 32) }
    else { metadata with frameNumberValid := some 0 }

/-- What is written into the metadata at position `i`. -/
def Batch.infer (fps : ℚ) (b : Batch) (i : ℕ) (metadata : MetadataBuffer) : MetadataBuffer :=
  if b.invalid then metadata
  else
    let metadata := b.inferFrame i (b.inferUrgent i metadata)
    if b.lastTime = 0 then metadata
    else { metadata with sensorTimestamp := some (b.captureTime fps i) }

/-- The metadata as it is handed on, `k` times from position `i` on. -/
def Batch.calls (fps : ℚ) (b : Batch) : ℕ → ℕ → MetadataBuffer → List MetadataBuffer
  | _, 0, _ => []
  | i, k + 1, metadata =>
    b.infer fps i metadata :: b.calls fps (i + 1) k (b.infer fps i metadata)

/-- `handleBatchMetadata`, where `found` is what it finds when it takes `mMutex`, first before its
loop and then at each position: what it leaves each time, and the uses of the buffer. -/
def handleBatchMetadata (streams : Streams) (timeOffset : ℤ) (fps : ℚ) (free : Bool)
    (metadata : MetadataBuffer) (found : ℕ → HardwareInterface) :
    Option (List HardwareInterface × List Use) := do
  let b ← readBatch metadata (found 0)
  let calls := (b.calls fps 0 b.loopCount metadata).zipIdx
  return (removeBatch metadata b (found 0) :: calls.map fun (metadata, i) =>
      handleMetadataWithLock streams timeOffset (i == 0) metadata (found (i + 1)),
    calls.flatMap (fun (metadata, i) => metadataUses false metadata (found (i + 1))) ++
      releaseIf free)

/-! ## The frame numbers that are handed on -/

section

variable {b : Batch} {i k : ℕ} {metadata : MetadataBuffer} {s : HardwareInterface}

/-- The frame that is handed on at position `i`. -/
def Batch.frameAt (b : Batch) (i : ℕ) : Option ℕ :=
  b.frame.bind fun r => if i < r.diff then some ((r.first + i) % 2 ^ 32) else none

/-- Metadata with all its entries. -/
structure Complete (metadata : MetadataBuffer) (frameNumberValid : ℤ) (frameNumber : ℕ) : Prop where
  valid : metadata.frameNumberValid = some frameNumberValid
  frame : metadata.frameNumber = some frameNumber
  time : metadata.sensorTimestamp.isSome = true
  urgentValid : metadata.urgentFrameNumberValid.isSome = true
  urgent : metadata.urgentFrameNumber.isSome = true

theorem Complete.finalFrame {v : ℤ} {n : ℕ} (h : Complete metadata v n) :
    metadata.finalFrame = if v = 0 then none else some n := by
  obtain ⟨τ, hτ⟩ := Option.isSome_iff_exists.mp h.time
  obtain ⟨uv, huv⟩ := Option.isSome_iff_exists.mp h.urgentValid
  obtain ⟨un, hun⟩ := Option.isSome_iff_exists.mp h.urgent
  unfold MetadataBuffer.finalFrame
  rw [h.valid, h.frame, hτ, huv, hun]

/-- **What the loop finds in the metadata at position `i`**: nothing that it can hand on, if an
entry is missing; else the frame number is valid as long as there are frames left. -/
inductive Batch.Carries (b : Batch) (i : ℕ) (metadata : MetadataBuffer) : Prop
  | invalid (invalid : b.invalid = true) (frames : b.frame = none)
      (final : metadata.finalFrame = none)
  | valid {v : ℤ} {n : ℕ} (valid : b.invalid = false) (complete : Complete metadata v n)
      (left : v ≠ 0 ↔ ∃ r, b.frame = some r ∧ i ≤ r.diff)

theorem inferUrgent_complete {v : ℤ} {n : ℕ} (h : Complete metadata v n) :
    Complete (b.inferUrgent i metadata) v n := by
  unfold Batch.inferUrgent
  split
  · exact h
  · split_ifs
    · exact ⟨h.valid, h.frame, h.time, h.urgentValid, rfl⟩
    · exact ⟨h.valid, h.frame, h.time, rfl, h.urgent⟩

theorem inferFrame_complete {v : ℤ} {n : ℕ} (h : Complete metadata v n) :
    ∃ w m, Complete (b.inferFrame i metadata) w m ∧
      (b.frame = none → w = v) ∧ ∀ r, b.frame = some r →
        (i < r.diff → w = v ∧ m = (r.first + i) % 2 ^ 32) ∧ (r.diff ≤ i → w = 0) := by
  unfold Batch.inferFrame
  cases hf : b.frame with
  | none => exact ⟨v, n, h, fun _ => rfl, fun r hr => nomatch hr⟩
  | some r =>
    dsimp only
    by_cases hi : i < r.diff
    · rw [if_pos hi]
      refine ⟨v, _, ⟨h.valid, rfl, h.time, h.urgentValid, h.urgent⟩, (nomatch ·), ?_⟩
      rintro _ ⟨⟩
      exact ⟨fun _ => ⟨rfl, rfl⟩, fun hge => absurd hi (not_lt.mpr hge)⟩
    · rw [if_neg hi]
      refine ⟨0, n, ⟨rfl, h.frame, h.time, h.urgentValid, h.urgent⟩, (nomatch ·), ?_⟩
      rintro _ ⟨⟩
      exact ⟨fun hlt => absurd hlt hi, fun _ => rfl⟩

/-- **One step**: the metadata that is handed on at position `i` has its frame, and is what the loop
goes on with. -/
theorem Batch.Carries.step (h : b.Carries i metadata) (fps : ℚ) :
    (b.infer fps i metadata).finalFrame = b.frameAt i ∧
      b.Carries (i + 1) (b.infer fps i metadata) := by
  cases h with
  | invalid hinv hframes hfinal =>
    unfold Batch.infer Batch.frameAt
    rw [if_pos hinv, hframes]
    exact ⟨hfinal, .invalid hinv hframes hfinal⟩
  | @valid v n hval hcomplete hleft =>
    obtain ⟨w, m, hframe, hnone, hsome⟩ := inferFrame_complete (i := i) (b := b)
      (inferUrgent_complete (i := i) (b := b) hcomplete)
    -- the time is written last, and has no part in it
    have hinfer : Complete (b.infer fps i metadata) w m := by
      unfold Batch.infer
      rw [if_neg (by simp [hval])]
      dsimp only
      split_ifs
      · exact hframe
      · exact ⟨hframe.valid, hframe.frame, rfl, hframe.urgentValid, hframe.urgent⟩
    rw [hinfer.finalFrame]
    unfold Batch.frameAt
    cases hf : b.frame with
    | none =>
      have hw : w = 0 := by
        rw [hnone hf]
        by_contra hv
        obtain ⟨r, hr, -⟩ := hleft.mp hv
        rw [hf] at hr
        cases hr
      refine ⟨if_pos hw, .valid hval hinfer ?_⟩
      exact iff_of_false (not_not.mpr hw) fun ⟨r, hr, _⟩ => nomatch hf.symm.trans hr
    | some r =>
      obtain ⟨hlt, hge⟩ := hsome r hf
      by_cases hi : i < r.diff
      · obtain ⟨rfl, rfl⟩ := hlt hi
        have hv : w ≠ 0 := hleft.mpr ⟨r, hf, hi.le⟩
        refine ⟨?_, .valid hval hinfer ?_⟩
        · rw [if_neg hv, Option.bind_some, if_pos hi]
        · exact iff_of_true hv ⟨r, hf, hi⟩
      · have hw : w = 0 := hge (not_lt.mp hi)
        refine ⟨?_, .valid hval hinfer (iff_of_false (not_not.mpr hw) ?_)⟩
        · rw [if_pos hw, Option.bind_some, if_neg hi]
        · rintro ⟨r', hr', hle⟩
          rw [hf] at hr'
          cases hr'
          exact hi hle

theorem readBatch_carries (h : readBatch metadata s = some b) : b.Carries 0 metadata := by
  unfold readBatch at h
  split at h
  · rename_i valid frameNumber timestamp urgentValid urgent hv hn hts huv hu
    obtain ⟨ru, -, h⟩ := Option.bind_eq_some_iff.mp h
    obtain ⟨rf, hrf, h⟩ := Option.bind_eq_some_iff.mp h
    cases h
    refine .valid rfl ⟨hv, hn, hts ▸ rfl, huv ▸ rfl, hu ▸ rfl⟩ ?_
    unfold frameRange at hrf
    by_cases h0 : valid = 0
    · rw [if_pos h0] at hrf
      cases hrf
      exact iff_of_false (not_not.mpr h0) fun ⟨r, hr, _⟩ => nomatch hr
    · rw [if_neg h0] at hrf
      obtain ⟨first, -, hfirst⟩ := Option.map_eq_some_iff.mp hrf
      exact iff_of_true h0 ⟨_, hfirst.symm, Nat.zero_le _⟩
  · rename_i hmissing
    cases h
    refine .invalid rfl rfl ?_
    unfold MetadataBuffer.finalFrame
    split
    · rename_i valid frameNumber timestamp urgentValid urgent hv hn hts huv hu
      exact absurd hu (hmissing valid frameNumber timestamp urgentValid urgent hv hn hts huv)
    · rfl

end

end Hal3
