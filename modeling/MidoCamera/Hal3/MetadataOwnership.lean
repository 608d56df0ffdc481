import MidoCamera.Hal3.Batch
import MidoCamera.Hal3.InFlight

/-!
# Who owns a metadata buffer

A metadata buffer that a handler is to give back is to be given back once, or handed to one channel.
The release stands in the branch of the loop for the request of the buffer's own frame: with no such
request among those that the loop reaches the buffer is lost. In batch mode the handler releases the
buffer after its loop, whether or not a channel has got it in the loop.
-/

namespace Hal3

open List

/-- **The buffer has one owner in the end**: it is released once and handed to no channel, or handed
to one channel and not released. -/
def Owned (uses : List Use) : Prop := uses = [.released] ∨ ∃ j, uses = [.queued j]

/-- The entries of a frame that the loop reaches. -/
def HardwareInterface.entriesAt (n : ℕ) (s : HardwareInterface) : List PendingRequest :=
  (s.mPendingRequestsList.takeWhile (·.frameNumber ≤ n)).filter (·.frameNumber = n)

/-- **The condition for a single metadata buffer**: it is not looked at, or has no valid frame
number, or the loop reaches exactly one request of its frame. -/
def Settles (md : MetadataBuffer) (s : HardwareInterface) : Prop :=
  s.ignoresMetadata ∨ ∀ n, md.finalFrame = some n → (s.entriesAt n).length = 1

/-- **The condition for the metadata buffer of a batch**: for each of its frames, no request of that
frame that the loop reaches needs the metadata, in the interface as it is found. -/
def NoPostprocess (b : Batch) (found : ℕ → HardwareInterface) : Prop :=
  ∀ k < b.loopCount, ∀ n, b.frameAt k = some n → ¬(found (k + 1)).ignoresMetadata →
    ∀ i ∈ (found (k + 1)).entriesAt n, ∀ j ∈ i.buffers, j.needMetadata = false

section

variable {free : Bool} {n : ℕ} {is js : List PendingRequest} {md : MetadataBuffer}
  {s : HardwareInterface}

theorem owned_iff {uses : List Use} : Owned uses ↔ uses.length = 1 := by
  constructor
  · rintro (rfl | ⟨j, rfl⟩) <;> rfl
  · intro h
    obtain ⟨u, rfl⟩ := length_eq_one_iff.mp h
    cases u with
    | released => exact .inl rfl
    | queued j => exact .inr ⟨j, rfl⟩

theorem flushUses_eq : flushUses free n is =
    ((is.takeWhile (·.frameNumber ≤ n)).filter (·.frameNumber = n)).flatMap
      (PendingRequest.use free) := by
  induction is with
  | nil => rfl
  | cons i is ih =>
    unfold flushUses
    by_cases hle : i.frameNumber ≤ n
    · rw [if_pos hle, takeWhile_cons, if_pos (decide_eq_true hle), filter_cons]
      by_cases hlt : i.frameNumber < n
      · rw [if_pos hlt, if_neg (by simpa using hlt.ne), nil_append, ih]
      · have heq : i.frameNumber = n := le_antisymm hle (not_lt.mp hlt)
        rw [if_neg hlt, if_pos (decide_eq_true heq), flatMap_cons, ih]
    · rw [if_neg hle, takeWhile_cons, if_neg (by simpa using hle)]
      rfl

theorem flushUses_core (h : is.map PendingRequest.core = js.map PendingRequest.core) :
    flushUses free n is = flushUses free n js := by
  induction is generalizing js with
  | nil =>
    rw [map_eq_nil_iff.mp h.symm]
  | cons i is ih =>
    cases js with
    | nil => cases h
    | cons j js =>
      obtain ⟨hcore, hrest⟩ := cons.inj h
      have hframe : i.frameNumber = j.frameNumber := congrArg PendingRequest.Core.frameNumber hcore
      have hbuffers : i.buffers = j.buffers := congrArg PendingRequest.Core.buffers hcore
      unfold flushUses PendingRequest.use
      rw [hframe, hbuffers, ih hrest]

/-- **What becomes of the buffer**, by its frame. -/
theorem metadataUses_eq : metadataUses free md s =
    if s.ignoresMetadata then releaseIf free
    else md.finalFrame.elim (releaseIf free) fun n =>
      (s.entriesAt n).flatMap (PendingRequest.use free) := by
  unfold metadataUses
  change (if s.ignoresMetadata then _ else _) = _
  by_cases hidle : s.ignoresMetadata
  · rw [if_pos hidle, if_pos hidle]
  rw [if_neg hidle, if_neg hidle]
  split
  · rename_i valid frameNumber timestamp urgentValid urgent hv hn hts huv hu
    have hfinal := Complete.finalFrame ⟨hv, hn, hts ▸ rfl, huv ▸ rfl, hu ▸ rfl⟩
    -- the partial result leaves the frames and the buffers of the entries alone
    have hurgent : flushUses free frameNumber
        (if urgentValid ≠ 0 then s.sendUrgent urgent else s).mPendingRequestsList =
          flushUses free frameNumber s.mPendingRequestsList := by
      split_ifs
      · exact flushUses_core (sendUrgent_refreshed urgent s).list
      · rfl
    dsimp only
    rw [hfinal, hurgent]
    by_cases h0 : valid = 0
    · rw [if_pos h0, if_pos h0]
      rfl
    · rw [if_neg h0, if_neg h0]
      exact flushUses_eq
  · rename_i hmissing
    have hfinal : md.finalFrame = none := by
      unfold MetadataBuffer.finalFrame
      split
      · rename_i valid frameNumber timestamp urgentValid urgent hv hn hts huv hu
        exact absurd hu (hmissing valid frameNumber timestamp urgentValid urgent hv hn hts huv)
      · rfl
    rw [hfinal]
    rfl

theorem use_length (i : PendingRequest) : (i.use true).length = 1 := by
  unfold PendingRequest.use
  split <;> rfl

/-- A request of the frame does not use the buffer, if it is not to be given back and no stream
needs the metadata. -/
theorem use_nil_iff (i : PendingRequest) :
    i.use false = [] ↔ ∀ j ∈ i.buffers, j.needMetadata = false := by
  unfold PendingRequest.use
  split
  · rename_i j hj
    refine iff_of_false (cons_ne_nil _ _) fun hall => ?_
    have hneed := find?_some hj
    rw [hall j (mem_of_find?_eq_some hj)] at hneed
    cases hneed
  · rename_i hnone
    refine iff_of_true rfl fun j hj => ?_
    simpa using find?_eq_none.mp hnone j hj

theorem metadataUses_owned : Owned (metadataUses true md s) ↔ Settles md s := by
  rw [owned_iff, metadataUses_eq]
  unfold Settles
  by_cases hidle : s.ignoresMetadata
  · rw [if_pos hidle]
    exact iff_of_true rfl (.inl hidle)
  · rw [if_neg hidle, or_iff_right hidle]
    cases md.finalFrame with
    | none => exact iff_of_true rfl fun n hn => nomatch hn
    | some n =>
      have hlength : ((s.entriesAt n).flatMap (PendingRequest.use true)).length =
          (s.entriesAt n).length := by
        simp [length_flatMap, use_length]
      rw [Option.elim_some, hlength]
      constructor
      · rintro hone _ ⟨⟩
        exact hone
      · intro hall
        exact hall n rfl

theorem metadataUses_nil : metadataUses false md s = [] ↔
    ∀ n, md.finalFrame = some n → ¬s.ignoresMetadata →
      ∀ i ∈ s.entriesAt n, ∀ j ∈ i.buffers, j.needMetadata = false := by
  rw [metadataUses_eq]
  by_cases hidle : s.ignoresMetadata
  · rw [if_pos hidle]
    exact iff_of_true rfl fun n _ hnot => absurd hidle hnot
  · rw [if_neg hidle]
    cases md.finalFrame with
    | none => exact iff_of_true rfl fun n hn => nomatch hn
    | some n =>
      rw [Option.elim_some, flatMap_eq_nil_iff]
      constructor
      · rintro hall _ ⟨⟩ - i hi
        exact (use_nil_iff i).mp (hall i hi)
      · intro hall i hi
        exact (use_nil_iff i).mpr (hall n rfl hidle i hi)

theorem batchUses_nil {b : Batch} (fps : ℚ) (found : ℕ → HardwareInterface) (k l : ℕ)
    (h : b.Carries k md) :
    (((b.calls fps k l md).zipIdx k).flatMap fun p => metadataUses false p.1 (found (p.2 + 1))) = [] ↔
      ∀ m, k ≤ m → m < k + l → ∀ n, b.frameAt m = some n → ¬(found (m + 1)).ignoresMetadata →
        ∀ i ∈ (found (m + 1)).entriesAt n, ∀ j ∈ i.buffers, j.needMetadata = false := by
  induction l generalizing k md with
  | zero => exact iff_of_true rfl fun m hle hlt => absurd hlt (not_lt.mpr hle)
  | succ l ih =>
    obtain ⟨hframe, hnext⟩ := h.step fps
    rw [Batch.calls, zipIdx_cons, flatMap_cons, append_eq_nil_iff, ih (k + 1) hnext,
      metadataUses_nil, hframe]
    constructor
    · rintro ⟨hk, hrest⟩ m hle hlt
      rcases hle.eq_or_lt with rfl | hlt'
      · exact hk
      · exact hrest m hlt' (by omega)
    · intro hall
      exact ⟨hall k le_rfl (by omega), fun m hle hlt => hall m (by omega) (by omega)⟩

/-- **The metadata buffer has one owner in the end exactly under the conditions**: a single one when
it settles, and that of a batch when no stream needs it. -/
theorem metadata_owned (streams : Streams) (timeOffset : ℤ) (fps : ℚ) (md : MetadataBuffer)
    (found : ℕ → HardwareInterface) :
    (Owned (metadataUses true md (found 0)) ↔ Settles md (found 0)) ∧
      ∀ left uses, handleBatchMetadata streams timeOffset fps true md found = some (left, uses) →
        ∃ b, readBatch md (found 0) = some b ∧ (Owned uses ↔ NoPostprocess b found) := by
  refine ⟨metadataUses_owned, fun left uses h => ?_⟩
  obtain ⟨b, hb, h⟩ := Option.bind_eq_some_iff.mp h
  obtain ⟨-, rfl⟩ := Prod.mk.inj (Option.some.inj h)
  refine ⟨b, hb, ?_⟩
  -- the release after the loop is the only use, or there are others
  have hnil := batchUses_nil fps found 0 b.loopCount (readBatch_carries hb)
  simp only [Nat.zero_le, Nat.zero_add, true_implies] at hnil
  rw [owned_iff, length_append]
  refine Iff.trans ?_ hnil
  rw [← length_eq_zero_iff]
  exact Nat.add_eq_right

end

/-! ## Buffers that are lost or used twice -/

def snapshotPending : PendingRequest :=
  (pendingRequest previewStream (previewRequest 1) (.configured 0 6)).setNeedMetadata [true]

/-- A started interface, with a batch of one frame. -/
def startedWith (is : List PendingRequest) : HardwareInterface :=
  { HardwareInterface.configured 1 6 with
    mState := .started
    mPendingRequestsList := is
    mPendingBatchMap := fun n => if n = 1 then some 1 else none }

/-- **A buffer is lost** when no request of its frame is pending, **and one is both handed to a
channel and released** when a request of its batch needs the metadata. -/
theorem metadata_not_owned :
    (¬∀ (md : MetadataBuffer) (s : HardwareInterface), Owned (metadataUses true md s)) ∧
      ¬∀ (streams : Streams) (md : MetadataBuffer) (found : ℕ → HardwareInterface)
        (left : List HardwareInterface) (uses : List Use),
        handleBatchMetadata streams 0 30 true md found = some (left, uses) → Owned uses := by
  constructor
  · intro hall
    have hlost := owned_iff.mp (hall (metadataOf 1) (startedWith []))
    exact absurd hlost (by decide)
  · intro hall
    have htwice := owned_iff.mp (hall previewStream (metadataOf 1)
      (fun _ => startedWith [snapshotPending]) _ _ rfl)
    exact absurd htwice (by decide)

/-- The metadata of a pending request. -/
theorem metadata_owned_onePending :
    Owned (metadataUses true (metadataOf 1) (startedWith [snapshotPending])) ∧
      ∃ left uses, handleBatchMetadata previewStream 0 30 true (metadataOf 1)
        (fun _ => startedWith []) = some (left, uses) ∧ Owned uses := by
  have hone := metadata_owned previewStream 0 30 (metadataOf 1)
    fun _ => startedWith [snapshotPending]
  have hnone := (metadata_owned previewStream 0 30 (metadataOf 1) fun _ => startedWith []).2
  refine ⟨hone.1.mpr (.inr ?_), _, _, rfl, ?_⟩
  · rintro n ⟨⟩
    decide
  · obtain ⟨b, hb, howned⟩ := hnone _ _ rfl
    refine howned.mpr fun k _ n _ _ i hi => ?_
    cases hi

end Hal3
