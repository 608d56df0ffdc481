import MidoCamera.Hal3.ErrorCompletion

/-!
# The map of the pending buffers

`PendingBuffersMap::removeBuf` erases from the list of a request, and the request from the map, in
the loop over both. The map never has a request without buffers, so nothing but the buffer goes.
-/

namespace Hal3

open Loop List

/-- Every request of the map has a pending buffer. -/
def PendingBuffersMap.Filled (m : PendingBuffersMap) : Prop :=
  ∀ req ∈ m.mPendingBuffersInRequest, req.mPendingBufferList ≠ []

/-- No request of the map has a pending buffer of the handle. -/
def PendingBuffersMap.Absent (m : PendingBuffersMap) (buffer : ℕ) : Prop :=
  ∀ req ∈ m.mPendingBuffersInRequest, ∀ info ∈ req.mPendingBufferList, info.buffer ≠ buffer

/-- **One buffer of the handle is taken out**: the first in the oldest request that has one, and the
request with it exactly if it has no other. Whatever is before and after stays, in its order. -/
structure PendingBuffersMap.TakenOut (m t : PendingBuffersMap) (buffer : ℕ) : Prop where
  one : ∃ older req newer before info after,
    m.mPendingBuffersInRequest = older ++ req :: newer ∧
    req.mPendingBufferList = before ++ info :: after ∧ info.buffer = buffer ∧
    (∀ r ∈ older, ∀ b ∈ r.mPendingBufferList, b.buffer ≠ buffer) ∧
    (∀ b ∈ before, b.buffer ≠ buffer) ∧
    t.mPendingBuffersInRequest = older ++ if (before ++ after).isEmpty then newer
      else { req with mPendingBufferList := before ++ after } :: newer
  count : t.numOverallBuffers + 1 = m.numOverallBuffers

section

variable {s t : HardwareInterface} {m : PendingBuffersMap}

/-! ## What is removed -/

theorem removeBufFrom_cases (buffer : ℕ) (reqs : List PendingBuffersInRequest) :
    ((∀ req ∈ reqs, ∀ info ∈ req.mPendingBufferList, info.buffer ≠ buffer) ∧
        removeBufFrom buffer reqs = reqs) ∨
      ∃ older req newer before info after, reqs = older ++ req :: newer ∧
        req.mPendingBufferList = before ++ info :: after ∧ info.buffer = buffer ∧
        (∀ r ∈ older, ∀ b ∈ r.mPendingBufferList, b.buffer ≠ buffer) ∧
        (∀ b ∈ before, b.buffer ≠ buffer) ∧
        removeBufFrom buffer reqs = older ++ if (before ++ after).isEmpty then newer
          else { req with mPendingBufferList := before ++ after } :: newer := by
  induction reqs with
  | nil => exact .inl ⟨nofun, rfl⟩
  | cons req reqs ih =>
    unfold removeBufFrom
    by_cases hany : req.mPendingBufferList.any (·.buffer == buffer)
    · obtain ⟨b, hmem, hb⟩ := any_eq_true.mp hany
      obtain ⟨info, before, after, hbefore, hinfo, hlist, herase⟩ :=
        @List.exists_of_eraseP _ (·.buffer == buffer) _ b hmem hb
      refine .inr ⟨[], req, reqs, before, info, after, rfl, hlist, eq_of_beq hinfo, nofun, ?_, ?_⟩
      · exact fun b hb heq => hbefore b hb (beq_iff_eq.mpr heq)
      · rw [if_pos hany, herase]
        rfl
    · rw [if_neg hany]
      have hnone (info : PendingBuffer) (hmem : info ∈ req.mPendingBufferList) :
          info.buffer ≠ buffer := fun heq =>
        hany (any_eq_true.mpr ⟨info, hmem, beq_iff_eq.mpr heq⟩)
      rcases ih with ⟨habsent, heq⟩ | ⟨older, r, newer, before, info, after, hreqs, hlist, hinfo,
        holder, hbefore, heq⟩
      · exact .inl ⟨forall_mem_cons.mpr ⟨hnone, habsent⟩, by rw [heq]⟩
      · refine .inr ⟨req :: older, r, newer, before, info, after, by rw [hreqs]; rfl, hlist, hinfo,
          forall_mem_cons.mpr ⟨hnone, holder⟩, hbefore, by rw [heq]; rfl⟩

theorem removeBuf_cases (m : PendingBuffersMap) (buffer : ℕ) :
    (m.Absent buffer ∧ m.removeBuf buffer = m) ∨ m.TakenOut (m.removeBuf buffer) buffer := by
  rcases removeBufFrom_cases buffer m.mPendingBuffersInRequest with ⟨habsent, heq⟩ |
    ⟨older, req, newer, before, info, after, hreqs, hlist, hinfo, holder, hbefore, heq⟩
  · exact .inl ⟨habsent, congrArg (PendingBuffersMap.mk _) heq⟩
  · refine .inr ⟨⟨older, req, newer, before, info, after, hreqs, hlist, hinfo, holder, hbefore, heq⟩,
      ?_⟩
    show ((removeBufFrom buffer m.mPendingBuffersInRequest).map _).sum + 1 =
      (m.mPendingBuffersInRequest.map _).sum
    rw [heq, hreqs]
    split_ifs with hempty
    · have hlen : before.length + after.length = 0 := by
        rw [← length_append, List.isEmpty_iff.mp hempty, length_nil]
      simp [hlist]
      omega
    · simp [hlist]
      omega

/-! ## No request is without buffers -/

theorem PendingBuffersMap.Filled.removeBuf (h : m.Filled) (buffer : ℕ) :
    (m.removeBuf buffer).Filled := by
  rcases removeBuf_cases m buffer with ⟨-, heq⟩ | ⟨⟨older, req, newer, before, info, after, hreqs,
    -, -, -, -, heq⟩, -⟩
  · rw [heq]
    exact h
  · have hall : ∀ r ∈ older ++ req :: newer, r.mPendingBufferList ≠ [] := hreqs ▸ h
    obtain ⟨holder, hnewer⟩ := forall_mem_append.mp hall
    have hnewer := (forall_mem_cons.mp hnewer).2
    unfold Filled
    rw [heq]
    refine forall_mem_append.mpr ⟨holder, ?_⟩
    split_ifs with hempty
    · exact hnewer
    · exact forall_mem_cons.mpr ⟨fun hnil => hempty (List.isEmpty_iff.mpr hnil), hnewer⟩

theorem PendingBuffersMap.Filled.removeBufs (h : m.Filled) (bs : List StreamBuffer) :
    (bs.foldl (fun m b => m.removeBuf b.buffer) m).Filled := by
  induction bs generalizing m with
  | nil => exact h
  | cons b bs ih => exact ih (h.removeBuf b.buffer)

theorem PendingBuffersMap.Filled.congr {m' : PendingBuffersMap} (h : m.Filled)
    (heq : m'.mPendingBuffersInRequest = m.mPendingBuffersInRequest) : m'.Filled := fun req hmem =>
  h req (heq ▸ hmem)

theorem Dropped.filled (hd : Dropped s t) : t.mPendingBuffersMap.Filled := by
  rw [hd.map]
  exact nofun

theorem FlushStep.filled {env : FlushEnv} (hf : FlushStep env s t)
    (h : s.mPendingBuffersMap.Filled) : t.mPendingBuffersMap.Filled := by
  cases hf with
  | stopped => exact h
  | dropped _ dropped => exact dropped.filled

theorem FlushSteps.filled {n : ℕ} {is js : List PendingRequest} (hs : FlushSteps n is s js t)
    (h : s.mPendingBuffersMap.Filled) : t.mPendingBuffersMap.Filled := by
  induction hs with
  | nil | later => exact h
  | passed frame input core reported rest ih => exact ih (reported.map ▸ h)
  | finished frame input core reported finished rest ih =>
    refine ih ?_
    rw [finished.map, reported.map]
    exact h.removeBufs _

theorem MetadataStep.filled {md : MetadataBuffer} (hs : MetadataStep md s t)
    (h : s.mPendingBuffersMap.Filled) : t.mPendingBuffersMap.Filled := by
  cases hs with
  | ignored => exact h
  | refreshed _ refreshed => exact refreshed.map ▸ h
  | flushed _ _ before steps after =>
    rw [after.map]
    exact steps.filled (before.map ▸ h)

theorem BufferStep.filled {b : StreamBuffer} {n : ℕ} (hs : BufferStep b n s t)
    (h : s.mPendingBuffersMap.Filled) : t.mPendingBuffersMap.Filled := by
  cases hs with
  | ignored | cached => exact h
  | counted num _ => exact h.congr rfl
  | givenBack _ givenBack =>
    rw [givenBack.map]
    exact h.removeBuf _
  | reprocessed => exact h.removeBuf _

theorem RequestStep.filled {streams : Streams} {env : RequestEnv} {req : CaptureRequest} {rc : ℤ}
    (hs : RequestStep streams env req s rc t) (some : req.outputBuffers ≠ [])
    (h : s.mPendingBuffersMap.Filled) : t.mPendingBuffersMap.Filled := by
  have hkeep := prepare_keeps streams env req s
  cases hs with
  | refused early =>
    rw [early] at hkeep
    exact hkeep.1.map ▸ h
  | restartFailed _ _ _ dropped => exact dropped.filled
  | @recorded u v w _ _ i prepared restarted recorded issued =>
    rw [prepared] at hkeep
    have hv : v.mPendingBuffersMap.Filled := by
      cases restarted with
      | steady => exact hkeep.1.map ▸ h
      | restarted _ _ dropped => exact dropped.filled
    obtain ⟨e, -, he, hmap⟩ := recorded.map
    have hissued : t.mPendingBuffersMap = w.mPendingBuffersMap := issued.map
    rw [hissued, hmap]
    refine forall_mem_append.mpr ⟨hv, forall_mem_singleton.mpr ?_⟩
    rw [he]
    exact fun hnil => some (map_eq_nil_iff.mp hnil)

theorem handleInputBuffer_map (now : ℤ) (n : ℕ) (s : HardwareInterface) :
    (handleInputBufferWithLock now n s).mPendingBuffersMap = s.mPendingBuffersMap := by
  unfold handleInputBufferWithLock
  split
  · rfl
  · split_ifs <;> rfl

theorem handleCameraDeviceError_filled {env : FlushEnv}
    (ends : handleCameraDeviceError env s = .ok t) (error : s.mState = .error)
    (h : s.mPendingBuffersMap.Filled) : t.mPendingBuffersMap.Filled := by
  obtain ⟨u, hu, rfl⟩ := handleCameraDeviceError_step ends error
  exact hu.filled h

theorem ValidCall.outputs {streams : Streams} {req : CaptureRequest}
    (call : ValidCall streams req s) : req.outputBuffers ≠ [] := by
  intro hnil
  have hvalid := call.valid
  unfold validateCaptureRequest at hvalid
  rw [if_pos hnil] at hvalid
  split_ifs at hvalid <;> exact absurd hvalid (by decide)

/-- **Every operation** leaves no request of the map without buffers. -/
theorem Op.Step.filled {streams : Streams} {op : Op} (hs : op.Step streams s t)
    (h : s.mPendingBuffersMap.Filled) : t.mPendingBuffersMap.Filled := by
  cases Op.outcome hs with
  | requestError error ends | flushError error ends =>
    exact handleCameraDeviceError_filled ends error h
  | request call step => exact step.filled call.outputs h
  | metadata timeOffset first md => exact (handleMetadata_step streams timeOffset first md s).filled h
  | buffer now b frameNumber => exact (handleBuffer_step streams now b frameNumber s).filled h
  | inputBuffer now frameNumber => exact handleInputBuffer_map now frameNumber s ▸ h
  | flushEnded _ step => exact step.filled h
  | perfEnded dropped => exact dropped.filled
  | requestInvalid | flushIdle | flushOff | perfOff | perfFailed | daemonDied => exact h
  | flushBegun | perfBegun => exact h.congr rfl

/-- **A buffer is removed from the map once**, in every state that a run reaches and after any
buffers have been removed there: nothing changes if it is not pending, and else one occurrence of it
goes. No request is left without buffers. -/
theorem removeBuf_once {streams : Streams} {batchSize minInFlight : ℕ} {ops : List Op}
    (run : Run (Op.Step streams) ops (.configured batchSize minInFlight) s) (bs : List StreamBuffer)
    (hm : m = bs.foldl (fun m b => m.removeBuf b.buffer) s.mPendingBuffersMap) (buffer : ℕ) :
    (m.removeBuf buffer).Filled ∧
      ((m.Absent buffer ∧ m.removeBuf buffer = m) ∨ m.TakenOut (m.removeBuf buffer) buffer) := by
  have hs : s.mPendingBuffersMap.Filled :=
    run.invariant (I := fun s => s.mPendingBuffersMap.Filled) (fun _ _ _ hs h => hs.filled h) nofun
  refine ⟨?_, removeBuf_cases m buffer⟩
  rw [hm]
  exact (hs.removeBufs bs).removeBuf buffer

/-- A request of one buffer, which is removed. -/
theorem removeBuf_once_preview : ∃ s, Run (Op.Step previewStream)
    [.request (channelReturns 0) (previewRequest 1)] (.configured 0 6) s ∧
      s.mPendingBuffersMap.numOverallBuffers = 1 ∧ ∃ buffer,
        (s.mPendingBuffersMap.removeBuf buffer).numOverallBuffers = 0 ∧
          (s.mPendingBuffersMap.removeBuf buffer).Filled := by
  obtain ⟨s, run, hnum, hzero⟩ : ∃ s, Run (Op.Step previewStream)
      [.request (channelReturns 0) (previewRequest 1)] (.configured 0 6) s ∧
        s.mPendingBuffersMap.numOverallBuffers = 1 ∧
          (s.mPendingBuffersMap.removeBuf 16).numOverallBuffers = 0 :=
    ⟨_, .one rfl, by decide +kernel, by decide +kernel⟩
  exact ⟨s, run, hnum, 16, hzero, (removeBuf_once run [] rfl 16).1⟩

end

end Hal3
