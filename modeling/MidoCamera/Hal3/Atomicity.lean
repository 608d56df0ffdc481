import MidoCamera.Hal3.Inversion

/-!
# A capture request that fails

`processCaptureRequest` enters a request in the account before it asks the channels for their
buffers. A call that fails before the entry leaves the account as it was; one that fails after it
leaves the request pending, although the framework is told that it has been rejected.
-/

namespace Hal3

open List

/-- The account is as it was. -/
structure Unchanged (s t : HardwareInterface) : Prop where
  list : t.mPendingRequestsList = s.mPendingRequestsList
  map : t.mPendingBuffersMap = s.mPendingBuffersMap
  batch : t.mPendingBatchMap = s.mPendingBatchMap
  live : t.mPendingLiveRequest = s.mPendingLiveRequest

def CaptureRequest.Fresh (req : CaptureRequest) (s : HardwareInterface) : Prop :=
  ∀ i ∈ s.mPendingRequestsList, i.frameNumber ≠ req.frameNumber

def CaptureRequest.Owed (req : CaptureRequest) (s : HardwareInterface) : Prop :=
  ∃ i ∈ s.mPendingRequestsList, i.frameNumber = req.frameNumber

def previewStream : Streams := fun _ => ⟨.other, some ⟨1, false⟩⟩

/-- A request for one preview buffer. -/
def previewRequest (frameNumber : ℕ) : CaptureRequest :=
  { frameNumber := frameNumber
    settings := some { requestId := some 1 }
    inputBuffer := none
    outputBuffers := [⟨0, 16 * frameNumber, 32, .ok, -1, -1⟩] }

/-- Outcomes without an error, but for the request to the channels, whose outcome is `rc`. -/
def channelReturns (rc : ℤ) : RequestEnv :=
  { deviceError := ⟨none, 0, 0⟩
    unconfigure := 0
    minInFlightRequests := 6
    startBatchSize := none
    startUp := none
    syncWait := fun _ => 0
    setFrameParameters := 0
    batchSize := none
    needSensorRestart := false
    setBatchFrameNumber := true
    startAllChannels := 0
    inputSyncWait := 0
    systemTime := 0
    setReprocParameters := 0
    request := fun _ => rc
    needMetadata := fun _ => false
    clockGettime := 0
    condWait := 0 }

/-- **A request is owed a result although its call fails**: the request to its channel fails, and
its entry stays in the account. -/
theorem captureRequest_not_atomic :
    ¬∀ (streams : Streams) (env : RequestEnv) (req : CaptureRequest) (s t : HardwareInterface)
      (rc : ℤ), ValidCall streams req s → processCaptureRequest streams env req s = .ok (rc, t) →
        rc ≠ noError → Unchanged s t := by
  intro hall
  have hcall : ValidCall previewStream (previewRequest 1) (.configured 0 6) := ⟨.inl rfl, rfl⟩
  have hlist := (hall previewStream (channelReturns (-1)) (previewRequest 1) (.configured 0 6) _ _
    hcall rfl (by decide)).list
  exact absurd (congrArg length hlist) (by decide)

/-! ## The failures before the entry -/

/-- The batch size once the streams are started. -/
def HardwareInterface.batchSizeStarted (env : RequestEnv) (s : HardwareInterface) : ℕ :=
  if s.mState = .configured then env.startBatchSize.getD s.mBatchSize else s.mBatchSize

/-- The parameters are parsed with this request. -/
def ParametersParsed (streams : Streams) (env : RequestEnv) (req : CaptureRequest)
    (s : HardwareInterface) : Prop :=
  s.batchSizeStarted env = 0 ∨ req.isVidBufRequested streams = false ∨ s.mToBeQueuedVidBufs = 0

instance (streams : Streams) (env : RequestEnv) (req : CaptureRequest) (s : HardwareInterface) :
    Decidable (ParametersParsed streams env req s) :=
  inferInstanceAs (Decidable (_ ∨ _ ∨ _))

/-- The batch size once the parameters are set. -/
def batchSizeSet (streams : Streams) (env : RequestEnv) (req : CaptureRequest)
    (s : HardwareInterface) : ℕ :=
  if ParametersParsed streams env req s then env.batchSize.getD (s.batchSizeStarted env)
  else s.batchSizeStarted env

/-- **The failures before the request is recorded** and before the sensor is restarted: one of the
calls on the way fails, or the request has no id and cannot take that of the request before. -/
inductive FailsEarly (streams : Streams) (env : RequestEnv) (req : CaptureRequest)
    (s : HardwareInterface) : Prop
  | unconfigure (state : s.mState = .configured) (again : s.mFirstConfiguration = false)
      (code : env.unconfigure < 0)
  | startUp (state : s.mState = .configured) (code : env.startUp ≠ none)
  | requestId (missing : req.settings.bind Settings.requestId = none)
      (before : s.mState = .configured ∨ s.mCurrentRequestId = -1)
  | acquireFence (code : acquireFences env 0 req.outputBuffers ≠ noError)
  | inputFence {b : StreamBuffer} (input : req.inputBuffer = some b) (fence : b.acquireFence ≠ -1)
      (code : env.inputSyncWait ≠ noError)
  | parameters (input : req.inputBuffer = none) (parsed : ParametersParsed streams env req s)
      (code : env.setFrameParameters < 0)
  | batchFrameNumber (input : req.inputBuffer = none) (batch : batchSizeSet streams env req s ≠ 0)
      (code : env.setBatchFrameNumber = false)

/-- The sensor is restarted with this request. -/
def SensorRestarts (streams : Streams) (env : RequestEnv) (req : CaptureRequest)
    (s : HardwareInterface) : Prop :=
  req.inputBuffer = none ∧ (s.mNeedSensorRestart = true ∨
    ParametersParsed streams env req s ∧ env.needSensorRestart = true)

theorem previewRequest_steady (rc : ℤ) (frameNumber : ℕ) {s : HardwareInterface}
    (restart : s.mNeedSensorRestart = false) :
    ¬SensorRestarts previewStream (channelReturns rc) (previewRequest frameNumber) s := by
  rintro ⟨-, hr | ⟨-, hr⟩⟩
  · rw [restart] at hr
    cases hr
  · cases hr

/-- The restart of the sensor fails. -/
def RestartFails (streams : Streams) (env : RequestEnv) (req : CaptureRequest)
    (s : HardwareInterface) : Prop :=
  SensorRestarts streams env req s ∧ env.startAllChannels ≠ noError

/-- **The condition under which a call that fails leaves the account as it was**: it fails before
the request is recorded; at the restart of the sensor, if it fails there, no buffer is pending; and
if it has started the streams, the counter was zero. -/
structure Atomic (streams : Streams) (env : RequestEnv) (req : CaptureRequest)
    (s : HardwareInterface) : Prop where
  early : FailsEarly streams env req s ∨ RestartFails streams env req s ∧
    s.mPendingBuffersMap.mPendingBuffersInRequest = []
  live : s.streamsStart env → s.mPendingLiveRequest = 0

section

variable {streams : Streams} {env : RequestEnv} {req : CaptureRequest}
  {s t u : HardwareInterface} {rc : ℤ}

/-- What the checks read is as it was, but for the batch size. -/
structure Started (env : RequestEnv) (s u : HardwareInterface) : Prop where
  batchSize : u.mBatchSize = s.batchSizeStarted env
  toBeQueued : u.mToBeQueuedVidBufs = s.mToBeQueuedVidBufs
  restart : u.mNeedSensorRestart = s.mNeedSensorRestart

theorem Started.parses (h : Started env s u) :
    parsesParameters streams req u = true ↔ ParametersParsed streams env req s := by
  unfold parsesParameters ParametersParsed
  rw [h.batchSize, h.toBeQueued]
  simp [or_assoc]

theorem Started.batchSizeSet (h : Started env s u) :
    (parseParameters streams env req u).mBatchSize = batchSizeSet streams env req s := by
  unfold parseParameters Hal3.batchSizeSet
  by_cases hp : ParametersParsed streams env req s
  · rw [if_pos (h.parses.mpr hp), if_pos hp, ← h.batchSize]
  · rw [if_neg (mt h.parses.mp hp), if_neg hp, ← h.batchSize]

theorem startUp_started (h : startUp env req s = .ok u) :
    Started env s u ∧ u.mCurrentRequestId = s.mCurrentRequestId ∧ u.mState = s.mState := by
  unfold startUp at h
  by_cases hc : s.mState = .configured
  · rw [if_neg (not_not.mpr hc)] at h
    by_cases hu : s.mFirstConfiguration = false ∧ env.unconfigure < 0
    · rw [if_pos hu] at h
      cases h
    · rw [if_neg hu] at h
      cases hs : env.startUp with
      | some rc => simp [hs] at h
      | none =>
        simp only [hs] at h
        cases h
        exact ⟨⟨(if_pos hc).symm, rfl, rfl⟩, rfl, rfl⟩
  · rw [if_pos hc] at h
    cases h
    exact ⟨⟨(if_neg hc).symm, rfl, rfl⟩, rfl, rfl⟩

theorem requestId_started {v : HardwareInterface} (h : requestId req u = .ok v)
    (hu : Started env s u) : Started env s v := by
  unfold requestId at h
  split at h
  · cases h
    exact ⟨hu.batchSize, hu.toBeQueued, hu.restart⟩
  · obtain ⟨-, rfl⟩ := refuse_ok h
    exact hu

theorem refuse_error {c : Prop} [Decidable c] {rc' : ℤ} (h : refuse c rc s = .error (rc', t)) :
    c ∧ rc' = rc := by
  unfold refuse at h
  split_ifs at h with hc
  cases h
  exact ⟨hc, rfl⟩

theorem prepare_stages (h : prepare streams env req s = .ok t) :
    ∃ u v, startUp env req s = .ok u ∧ requestId req u = .ok v ∧
      acquireFences env 0 req.outputBuffers = noError ∧ Started env s v ∧
      (req.inputBuffer = none → setParameters streams env req v = .ok t) ∧
      ∀ b, req.inputBuffer = some b →
        ¬(b.acquireFence ≠ -1 ∧ env.inputSyncWait ≠ noError) ∧ t = v := by
  unfold prepare at h
  obtain ⟨u, hu, hflush⟩ := bind_eq_ok.mp h
  obtain ⟨u', hu', hid⟩ := bind_eq_ok.mp hflush
  rw [(refuse_ok hu').2] at hid
  obtain ⟨v, hv, hfence⟩ := bind_eq_ok.mp hid
  obtain ⟨v', hv', hlast⟩ := bind_eq_ok.mp hfence
  obtain ⟨hf, hvv'⟩ := refuse_ok hv'
  rw [hvv'] at hlast
  refine ⟨u, v, hu, hv, not_not.mp hf, requestId_started hv (startUp_started hu).1, ?_, ?_⟩
  · intro hin
    simpa only [hin] using hlast
  · intro b hin
    simp only [hin] at hlast
    exact refuse_ok hlast

/-- **A call gets past these parts only if nothing fails in them**, and then restarts the sensor
where it is due. -/
theorem prepare_passes (h : prepare streams env req s = .ok t) :
    ¬FailsEarly streams env req s ∧ (RestartDue req t ↔ SensorRestarts streams env req s) := by
  obtain ⟨u, v, hu, hv, hfence, hst, hnone, hsome⟩ := prepare_stages h
  obtain ⟨hustart, hid, hstate⟩ := startUp_started hu
  -- what is checked of a request without an input buffer
  have hset : req.inputBuffer = none →
      ¬(ParametersParsed streams env req s ∧ env.setFrameParameters < 0) ∧
        ¬(batchSizeSet streams env req s ≠ 0 ∧ env.setBatchFrameNumber = false) ∧
        (t.mNeedSensorRestart = true ↔ s.mNeedSensorRestart = true ∨
          ParametersParsed streams env req s ∧ env.needSensorRestart = true) := by
    intro hin
    obtain ⟨w, hw, ht⟩ := bind_eq_ok.mp (hnone hin)
    obtain ⟨hparse, rfl⟩ := refuse_ok hw
    obtain ⟨hbatch, rfl⟩ := refuse_ok ht
    rw [hst.parses] at hparse
    rw [hst.batchSizeSet] at hbatch
    refine ⟨hparse, hbatch, ?_⟩
    show (parseParameters streams env req v).mNeedSensorRestart = true ↔ _
    unfold parseParameters
    by_cases hp : ParametersParsed streams env req s
    · rw [if_pos (hst.parses.mpr hp)]
      simp [hp, hst.restart]
    · rw [if_neg (mt hst.parses.mp hp)]
      simp [hp, hst.restart]
  constructor
  · rintro (⟨hc, hagain, hcode⟩ | ⟨hc, hcode⟩ | ⟨hmiss, hbefore⟩ | hcode | ⟨hin, hb, hcode⟩ |
      ⟨hin, hp, hcode⟩ | ⟨hin, hbatch, hcode⟩)
    · rcases (startUp_ok hu hc).2.1 with hfirst | hle
      · simp [hagain] at hfirst
      · exact absurd hcode (not_lt.mpr hle)
    · exact hcode (startUp_ok hu hc).2.2
    · unfold requestId at hv
      rw [hmiss] at hv
      refine (refuse_ok hv).1 ?_
      rwa [hstate, hid]
    · exact hcode hfence
    · exact (hsome _ hin).1 ⟨hb, hcode⟩
    · exact (hset hin).1 ⟨hp, hcode⟩
    · exact (hset hin).2.1 ⟨hbatch, hcode⟩
  · exact and_congr_right fun hin => (hset hin).2.2

/-- **A call that returns early** is made during a `flushPerf`, or has failed in one of these ways;
without an error only at the start of the streams. -/
theorem prepare_fails (h : prepare streams env req s = .error (rc, t)) :
    s.mFlushPerf = true ∧ rc = noError ∨ FailsEarly streams env req s ∧
      (rc = noError → s.mState = .configured ∧ env.startUp ≠ none) := by
  unfold prepare at h
  rcases bind_eq_error.mp h with hu | ⟨u, hu, h⟩
  · -- the start of the streams
    unfold startUp at hu
    by_cases hc : s.mState = .configured
    · rw [if_neg (not_not.mpr hc)] at hu
      by_cases hun : s.mFirstConfiguration = false ∧ env.unconfigure < 0
      · rw [if_pos hun] at hu
        cases hu
        exact .inr ⟨.unconfigure hc hun.1 hun.2, fun h0 => absurd h0 hun.2.ne⟩
      · rw [if_neg hun] at hu
        have hcode : env.startUp ≠ none := fun hs => by simp [hs] at hu
        exact .inr ⟨.startUp hc hcode, fun _ => ⟨hc, hcode⟩⟩
    · rw [if_pos hc] at hu
      cases hu
  obtain ⟨hst, hid, hstate⟩ := startUp_started hu
  rcases bind_eq_error.mp h with hflush | ⟨u', hflush, hrest⟩
  · obtain ⟨hperf, hrc⟩ := refuse_error hflush
    have hkeep := startUp_keeps env req s
    rw [hu] at hkeep
    exact .inl ⟨hkeep.1.flushPerf.symm.trans hperf, hrc⟩
  refine .inr ?_
  rw [(refuse_ok hflush).2] at hrest
  rcases bind_eq_error.mp hrest with hv | ⟨v, hv, hrest⟩
  · unfold requestId at hv
    cases hreq : req.settings.bind Settings.requestId with
    | some id => simp [hreq] at hv
    | none =>
      rw [hreq] at hv
      obtain ⟨hbefore, rfl⟩ := refuse_error hv
      rw [hstate, hid] at hbefore
      exact ⟨.requestId hreq hbefore, fun h0 => absurd h0 (by decide)⟩
  have hvst := requestId_started hv hst
  rcases bind_eq_error.mp hrest with hf | ⟨v', hf, hlast⟩
  · obtain ⟨hcode, rfl⟩ := refuse_error hf
    exact ⟨.acquireFence hcode, fun h0 => absurd h0 hcode⟩
  rw [(refuse_ok hf).2] at hlast
  cases hin : req.inputBuffer with
  | some b =>
    rw [hin] at hlast
    obtain ⟨hfence, rfl⟩ := refuse_error hlast
    exact ⟨.inputFence hin hfence.1 hfence.2, fun h0 => absurd h0 hfence.2⟩
  | none =>
    rw [hin] at hlast
    rcases bind_eq_error.mp hlast with hp | ⟨w, hp, hset⟩
    · obtain ⟨hparse, rfl⟩ := refuse_error hp
      exact ⟨.parameters hin (hvst.parses.mp hparse.1) hparse.2, fun h0 => absurd h0 hparse.2.ne⟩
    · obtain ⟨-, hw⟩ := refuse_ok hp
      obtain ⟨hbatch, rfl⟩ := refuse_error hset
      rw [hw, hvst.batchSizeSet] at hbatch
      exact ⟨.batchFrameNumber hin hbatch.1 hbatch.2, fun h0 => absurd h0 (by decide)⟩

/-! ## Atomicity -/

theorem liveAfterStart_eq :
    s.liveAfterStart env = s.mPendingLiveRequest ↔
      (s.streamsStart env → s.mPendingLiveRequest = 0) := by
  unfold HardwareInterface.liveAfterStart
  by_cases hs : s.streamsStart env
  · rw [if_pos hs]
    exact ⟨fun h _ => h.symm, fun h => (h hs).symm⟩
  · rw [if_neg hs]
    exact ⟨fun _ h => absurd h hs, fun _ => rfl⟩

/-- **Capture requests are atomic under the condition, and only under it.** A call that fails leaves
the account as it was when it fails before the request is recorded, at the restart of the sensor
only with no buffer pending, and does not reset the counter. For a new frame number, it leaves the
account as it was in no other case; and unless it fails before the request is recorded, the request
is owed a result. -/
theorem captureRequest_atomic (call : ValidCall streams req s)
    (h : processCaptureRequest streams env req s = .ok (rc, t)) (error : rc ≠ noError) :
    (Atomic streams env req s → Unchanged s t) ∧
      (req.Fresh s → (Unchanged s t → Atomic streams env req s) ∧
        (req.Owed t ↔ ¬(FailsEarly streams env req s ∨ RestartFails streams env req s))) := by
  rw [call.eq] at h
  have hkeep := prepare_keeps streams env req s
  cases processValidRequest_step h with
  | refused early =>
    rw [early] at hkeep
    obtain ⟨hp, hl⟩ := hkeep
    have hfails : FailsEarly streams env req s :=
      (prepare_fails early).elim (fun hok => absurd hok.2 error) And.left
    refine ⟨fun hat => ?_, fun hfresh => ⟨fun hsame => ?_, ?_⟩⟩
    · exact ⟨hp.list, hp.map, hp.batch, hl.trans (liveAfterStart_eq.mpr hat.live)⟩
    · exact ⟨.inl hfails, liveAfterStart_eq.mp (hl.symm.trans hsame.live)⟩
    · refine iff_of_false ?_ (not_not.mpr (.inl hfails))
      rintro ⟨i, hi, hframe⟩
      exact hfresh i (hp.list ▸ hi) hframe
  | restartFailed prepared due code dropped =>
    rw [prepared] at hkeep
    obtain ⟨hp, hl⟩ := hkeep
    obtain ⟨hpass, hdue⟩ := prepare_passes prepared
    have hfails : RestartFails streams env req s := ⟨hdue.mp due, code⟩
    refine ⟨fun hat => ?_, fun hfresh => ⟨fun hsame => ?_, ?_⟩⟩
    · -- no buffer is pending, so no request is dropped
      obtain ⟨-, hempty⟩ := hat.early.resolve_left hpass
      rw [← hp.map] at hempty
      have hcount : HardwareInterface.dropCount _ = 0 := congrArg (countP _) hempty
      refine ⟨?_, ?_, dropped.batch.trans hp.batch, ?_⟩
      · rw [dropped.list, hcount, drop_zero, hp.list]
      · rw [dropped.map, ← hempty, hp.map]
      · exact (dropped.live.trans hl).trans (liveAfterStart_eq.mpr hat.live)
    · have hmap := congrArg PendingBuffersMap.mPendingBuffersInRequest
        (dropped.map.symm.trans hsame.map)
      exact ⟨.inr ⟨hfails, hmap.symm⟩,
        liveAfterStart_eq.mp ((dropped.live.trans hl).symm.trans hsame.live)⟩
    · refine iff_of_false ?_ (not_not.mpr (.inr hfails))
      rintro ⟨i, hi, hframe⟩
      rw [dropped.list, hp.list] at hi
      exact hfresh i (mem_of_mem_drop hi) hframe
  | recorded prepared restarted recorded issued =>
    obtain ⟨hpass, hdue⟩ := prepare_passes prepared
    have hrestart : ¬RestartFails streams env req s := by
      rintro ⟨hs, hcode⟩
      cases restarted with
      | steady due => exact due (hdue.mpr hs)
      | restarted _ code _ => exact hcode code
    -- the entry stays, with the frame number of the request
    obtain ⟨flags, hlist⟩ := issued.list recorded.list
    have howed : req.Owed t := by
      refine ⟨PendingRequest.setNeedMetadata flags _, ?_, recorded.frame⟩
      rw [hlist]
      exact mem_append_right _ mem_cons_self
    refine ⟨fun hat => ?_, fun hfresh => ⟨fun hsame => ?_, ?_⟩⟩
    · rcases hat.early with hearly | ⟨hfails, -⟩
      · exact absurd hearly hpass
      · exact absurd hfails hrestart
    · obtain ⟨i, hi, hframe⟩ := howed
      exact absurd hframe (hfresh i (hsame.list ▸ hi))
    · exact iff_of_true howed (not_or.mpr ⟨hpass, hrestart⟩)

end

/-- The first request, without a request id. -/
theorem captureRequest_atomic_withoutId :
    Unchanged (.configured 0 6) { HardwareInterface.configured 0 6 with
      mFirstConfiguration := false
      mMinInFlightRequests := 6 } :=
  (@captureRequest_atomic previewStream (channelReturns 0)
    { previewRequest 1 with settings := some {} } _ _ nameNotFound ⟨.inl rfl, rfl⟩ rfl
    (by decide)).1 ⟨.inl (.requestId rfl (.inl rfl)), fun _ => rfl⟩

end Hal3
