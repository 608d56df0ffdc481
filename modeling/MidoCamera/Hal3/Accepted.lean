import MidoCamera.Hal3.Traffic

/-!
# A capture request that is accepted

A call of `processCaptureRequest` that returns `NO_ERROR` has accepted its request, which is then
owed its buffers and a result. Two of its returns give `NO_ERROR` before the request is recorded:
the one during a `flushPerf`, and the one after a start of the streams that gives up for the settings
of a linked camera. There the code is still that of the call before. What the start of the streams
returns is told here from the outcomes of its calls.
-/

namespace Hal3

open List

/-! ## The start of the streams -/

/-- The outcomes of the calls on a channel: of `setBatchSize`, on a stream together with
`setPerFrameMapUnmap`, of `initialize` and of `start`. -/
structure ChannelStart where
  isVideo : Bool
  setBatchSize : ℤ
  init : ℤ
  start : ℤ

/-- What the start of the streams depends on: the outcomes of its calls, the channels there are, the
settings `QCAMERA3_DUALCAM_LINK_ENABLE` and `QCAMERA3_DUALCAM_LINK_RELATED_CAMERA_ID`, the cameras
and their sessions. -/
structure StartUpEnv where
  getSensorOutputSize : ℤ
  streams : List ChannelStart
  mRawDumpChannel : Option ChannelStart
  mSupportChannel : Option ChannelStart
  mAnalysisChannel : Option ChannelStart
  mDummyBatchChannel : Option ChannelStart
  setBundleInfo : ℤ
  linkEnable : Option ℕ
  linkRelatedCameraId : Option ℕ
  mLinkedCameraId : ℕ
  mCameraId : ℕ
  maxNumSensors : ℕ
  sessionId : ℕ → ℕ
  syncRelatedSensors : ℤ
  metadataStart : ℤ
  startChannel : Option ℤ

/-- A return with any code but `NO_ERROR`. -/
def checkZero (rc : ℤ) : Except ℤ Unit := if rc ≠ noError then .error rc else .ok ()

def checkNonneg (rc : ℤ) : Except ℤ Unit := if rc < 0 then .error rc else .ok ()

/-- The batch mode of a video channel. -/
def ChannelStart.setBatch (batchSize : ℕ) (ch : ChannelStart) : Except ℤ Unit :=
  if ch.isVideo = true ∧ batchSize ≠ 0 then checkZero ch.setBatchSize else .ok ()

/-- The channels are initialized. -/
def StartUpEnv.initChannels (c : StartUpEnv) (batchSize : ℕ) : Except ℤ Unit := do
  checkZero c.getSensorOutputSize
  c.streams.forM (·.setBatch batchSize)
  c.streams.forM (checkZero ·.init)
  c.mRawDumpChannel.toList.forM (checkZero ·.init)
  c.mSupportChannel.toList.forM (checkNonneg ·.init)
  c.mAnalysisChannel.toList.forM (checkNonneg ·.init)
  c.mDummyBatchChannel.toList.forM (checkNonneg ·.setBatchSize)
  c.mDummyBatchChannel.toList.forM (checkNonneg ·.init)

/-- `mLinkedCameraId`, as the settings give it. -/
def StartUpEnv.linkedCameraId (c : StartUpEnv) : ℕ := c.linkRelatedCameraId.getD c.mLinkedCameraId

/-- The linked camera of the settings is not a camera. -/
def StartUpEnv.LinkInvalid (c : StartUpEnv) : Prop :=
  c.linkRelatedCameraId.isSome = true ∧ c.maxNumSensors ≤ c.linkedCameraId ∧
    c.linkedCameraId ≠ c.mCameraId

instance (c : StartUpEnv) : Decidable c.LinkInvalid := inferInstanceAs (Decidable (_ ∧ _ ∧ _))

/-- The cameras are to be linked, or unlinked, and the linked one has no session. -/
def StartUpEnv.NoSession (c : StartUpEnv) : Prop :=
  c.linkEnable.isSome = true ∧ c.sessionId c.linkedCameraId = 0xDEADBEEF

instance (c : StartUpEnv) : Decidable c.NoSession := inferInstanceAs (Decidable (_ ∧ _))

/-- The cameras are linked. -/
def StartUpEnv.linkCameras (c : StartUpEnv) : Except ℤ Unit := do
  checkNonneg c.setBundleInfo
  -- where this gives up, the code is still that of `setBundleInfo`
  if c.LinkInvalid then .error c.setBundleInfo
  else if c.NoSession then .error c.setBundleInfo
  else if c.linkEnable.isSome then checkNonneg c.syncRelatedSensors
  else .ok ()

/-- The channels are started. -/
def StartUpEnv.startChannels (c : StartUpEnv) : Except ℤ Unit := do
  checkNonneg c.metadataStart
  c.mAnalysisChannel.toList.forM (checkNonneg ·.start)
  c.mSupportChannel.toList.forM (checkNonneg ·.start)
  c.streams.forM (checkNonneg ·.start)
  c.mRawDumpChannel.toList.forM (checkZero ·.start)
  c.startChannel.toList.forM checkZero

/-- **The start of the streams**, with the code with which it fails. -/
def StartUpEnv.startStreams (c : StartUpEnv) (batchSize : ℕ) : Except ℤ Unit := do
  c.initChannels batchSize
  c.linkCameras
  c.startChannels

/-- The code with which the start of the streams fails, if it does. -/
def StartUpEnv.code (c : StartUpEnv) (batchSize : ℕ) : Option ℤ :=
  match c.startStreams batchSize with
  | .error rc => some rc
  | .ok _ => none

/-- The outcomes of what a call makes, with those of the start of the streams. -/
def RequestEnv.starting (env : RequestEnv) (c : StartUpEnv) (s : HardwareInterface) : RequestEnv :=
  { env with startUp := c.code (s.batchSizeStarted env) }

/-- The channels can be initialized. -/
structure StartUpEnv.Inits (c : StartUpEnv) (batchSize : ℕ) : Prop where
  sensor : c.getSensorOutputSize = noError
  batch : batchSize ≠ 0 → ∀ ch ∈ c.streams, ch.isVideo = true → ch.setBatchSize = noError
  streams : ∀ ch ∈ c.streams, ch.init = noError
  rawDump : ∀ ch ∈ c.mRawDumpChannel, ch.init = noError
  support : ∀ ch ∈ c.mSupportChannel, 0 ≤ ch.init
  analysis : ∀ ch ∈ c.mAnalysisChannel, 0 ≤ ch.init
  dummyBatch : ∀ ch ∈ c.mDummyBatchChannel, 0 ≤ ch.setBatchSize ∧ 0 ≤ ch.init

/-- The cameras can be linked. -/
structure StartUpEnv.Links (c : StartUpEnv) : Prop where
  bundle : 0 ≤ c.setBundleInfo
  valid : ¬c.LinkInvalid
  session : ¬c.NoSession
  sync : c.linkEnable.isSome = true → 0 ≤ c.syncRelatedSensors

/-- The channels can be started. -/
structure StartUpEnv.Starts (c : StartUpEnv) : Prop where
  metadata : 0 ≤ c.metadataStart
  analysis : ∀ ch ∈ c.mAnalysisChannel, 0 ≤ ch.start
  support : ∀ ch ∈ c.mSupportChannel, 0 ≤ ch.start
  streams : ∀ ch ∈ c.streams, 0 ≤ ch.start
  rawDump : ∀ ch ∈ c.mRawDumpChannel, ch.start = noError
  channel : ∀ rc ∈ c.startChannel, rc = noError

/-- **The start of the streams gives up without an error**: the settings name a linked camera that is
none, or that has no session. -/
structure StartUpEnv.GivesUp (c : StartUpEnv) (batchSize : ℕ) : Prop where
  inits : c.Inits batchSize
  bundle : c.setBundleInfo = noError
  link : c.LinkInvalid ∨ c.NoSession

section

variable {a b : Except ℤ Unit} {rc : ℤ}

theorem checkZero_eq_ok : checkZero rc = .ok () ↔ rc = noError := by
  unfold checkZero
  split_ifs with h
  · exact iff_of_false (nomatch ·) h
  · exact iff_of_true rfl (not_not.mp h)

theorem checkNonneg_eq_ok : checkNonneg rc = .ok () ↔ 0 ≤ rc := by
  unfold checkNonneg
  split_ifs with h
  · exact iff_of_false (nomatch ·) (not_le.mpr h)
  · exact iff_of_true rfl (not_lt.mp h)

theorem andThen_eq_ok : (a >>= fun _ => b) = .ok () ↔ a = .ok () ∧ b = .ok () :=
  bind_eq_ok.trans ⟨fun ⟨_, ha, hb⟩ => ⟨ha, hb⟩, fun ⟨ha, hb⟩ => ⟨(), ha, hb⟩⟩

theorem forM_eq_ok {α : Type} {f : α → Except ℤ Unit} {l : List α} :
    l.forM f = .ok () ↔ ∀ x ∈ l, f x = .ok () := by
  induction l with
  | nil => exact iff_of_true rfl fun _ => (nomatch ·)
  | cons x l ih =>
    rw [forall_mem_cons, ← ih]
    exact andThen_eq_ok

theorem exists_of_forM_eq_error {α : Type} {f : α → Except ℤ Unit} {l : List α}
    (h : l.forM f = .error rc) : ∃ x ∈ l, f x = .error rc := by
  induction l with
  | nil => cases h
  | cons x l ih =>
    rcases bind_eq_error.mp h with hx | ⟨_, -, hl⟩
    · exact ⟨x, mem_cons_self, hx⟩
    · obtain ⟨y, hy, hrc⟩ := ih hl
      exact ⟨y, mem_cons_of_mem x hy, hrc⟩

/-- A part of the function that does not fail with `NO_ERROR`. -/
def Reports (a : Except ℤ Unit) : Prop := a ≠ .error noError

theorem Reports.checkZero (rc : ℤ) : Reports (checkZero rc) := by
  unfold Hal3.checkZero
  split_ifs with h
  · exact fun h0 => h (Except.error.inj h0)
  · exact (nomatch ·)

theorem Reports.checkNonneg (rc : ℤ) : Reports (checkNonneg rc) := by
  unfold Hal3.checkNonneg
  split_ifs with h
  · exact fun h0 => h.ne (Except.error.inj h0)
  · exact (nomatch ·)

theorem Reports.andThen (ha : Reports a) (hb : Reports b) : Reports (a >>= fun _ => b) :=
  fun h => (bind_eq_error.mp h).elim ha fun ⟨_, _, h⟩ => hb h

theorem Reports.forM {α : Type} {f : α → Except ℤ Unit} (h : ∀ x, Reports (f x)) (l : List α) :
    Reports (l.forM f) := fun h0 =>
  (exists_of_forM_eq_error h0).elim fun x hx => h x hx.2

end

theorem setBatch_eq_ok {batchSize : ℕ} {ch : ChannelStart} :
    ch.setBatch batchSize = .ok () ↔
      (batchSize ≠ 0 → ch.isVideo = true → ch.setBatchSize = noError) := by
  unfold ChannelStart.setBatch
  split_ifs with h
  · exact checkZero_eq_ok.trans ⟨fun h0 _ _ => h0, fun h0 => h0 h.2 h.1⟩
  · exact iff_of_true rfl fun hb hv => absurd ⟨hv, hb⟩ h

section

variable {c : StartUpEnv} {batchSize : ℕ}

theorem initChannels_reports (c : StartUpEnv) (batchSize : ℕ) :
    Reports (c.initChannels batchSize) := by
  have hbatch : ∀ ch : ChannelStart, Reports (ch.setBatch batchSize) := by
    intro ch
    unfold ChannelStart.setBatch
    split_ifs
    · exact .checkZero _
    · exact (nomatch ·)
  refine (Reports.checkZero _).andThen <| (Reports.forM hbatch _).andThen ?_
  refine (Reports.forM (fun _ => .checkZero _) _).andThen ?_
  refine (Reports.forM (fun _ => .checkZero _) _).andThen ?_
  refine (Reports.forM (fun _ => .checkNonneg _) _).andThen ?_
  refine (Reports.forM (fun _ => .checkNonneg _) _).andThen ?_
  exact (Reports.forM (fun _ => .checkNonneg _) _).andThen (.forM (fun _ => .checkNonneg _) _)

theorem startChannels_reports (c : StartUpEnv) : Reports c.startChannels := by
  refine (Reports.checkNonneg _).andThen ?_
  refine (Reports.forM (fun _ => .checkNonneg _) _).andThen ?_
  refine (Reports.forM (fun _ => .checkNonneg _) _).andThen ?_
  refine (Reports.forM (fun _ => .checkNonneg _) _).andThen ?_
  exact (Reports.forM (fun _ => .checkZero _) _).andThen (.forM .checkZero _)

theorem initChannels_eq_ok : c.initChannels batchSize = .ok () ↔ c.Inits batchSize := by
  unfold StartUpEnv.initChannels
  simp only [andThen_eq_ok, forM_eq_ok, checkZero_eq_ok, checkNonneg_eq_ok, setBatch_eq_ok,
    Option.mem_toList]
  constructor
  · rintro ⟨hsensor, hbatch, hstreams, hraw, hsupport, hanalysis, hsize, hdummy⟩
    exact ⟨hsensor, fun hb ch hch => hbatch ch hch hb, hstreams, hraw, hsupport, hanalysis,
      fun ch hch => ⟨hsize ch hch, hdummy ch hch⟩⟩
  · intro h
    exact ⟨h.sensor, fun ch hch hb => h.batch hb ch hch, h.streams, h.rawDump, h.support,
      h.analysis, fun ch hch => (h.dummyBatch ch hch).1, fun ch hch => (h.dummyBatch ch hch).2⟩

theorem startChannels_eq_ok : c.startChannels = .ok () ↔ c.Starts := by
  unfold StartUpEnv.startChannels
  simp only [andThen_eq_ok, forM_eq_ok, checkZero_eq_ok, checkNonneg_eq_ok, Option.mem_toList]
  constructor
  · rintro ⟨hmetadata, hanalysis, hsupport, hstreams, hraw, hchannel⟩
    exact ⟨hmetadata, hanalysis, hsupport, hstreams, hraw, hchannel⟩
  · intro h
    exact ⟨h.metadata, h.analysis, h.support, h.streams, h.rawDump, h.channel⟩

theorem linkCameras_eq_ok : c.linkCameras = .ok () ↔ c.Links := by
  unfold StartUpEnv.linkCameras
  rw [andThen_eq_ok, checkNonneg_eq_ok]
  split_ifs with hvalid hsession hlink
  · exact iff_of_false (fun h => nomatch h.2) fun h => h.valid hvalid
  · exact iff_of_false (fun h => nomatch h.2) fun h => h.session hsession
  · rw [checkNonneg_eq_ok]
    exact ⟨fun h => ⟨h.1, hvalid, hsession, fun _ => h.2⟩, fun h => ⟨h.bundle, h.sync hlink⟩⟩
  · exact ⟨fun h => ⟨h.1, hvalid, hsession, fun h' => absurd h' hlink⟩, fun h => ⟨h.bundle, rfl⟩⟩

theorem linkCameras_gives_up_iff :
    c.linkCameras = .error noError ↔ c.setBundleInfo = noError ∧ (c.LinkInvalid ∨ c.NoSession) := by
  have herror : (.error c.setBundleInfo : Except ℤ Unit) = .error noError ↔
      c.setBundleInfo = noError := ⟨Except.error.inj, congrArg _⟩
  have hbundle : c.setBundleInfo = noError → checkNonneg c.setBundleInfo = .ok () := fun h =>
    checkNonneg_eq_ok.mpr h.ge
  unfold StartUpEnv.linkCameras
  rw [bind_eq_error, or_iff_right (Reports.checkNonneg _)]
  split_ifs with hvalid hsession hlink
  · exact ⟨fun ⟨_, _, h⟩ => ⟨herror.mp h, .inl hvalid⟩, fun h => ⟨(), hbundle h.1, herror.mpr h.1⟩⟩
  · exact ⟨fun ⟨_, _, h⟩ => ⟨herror.mp h, .inr hsession⟩,
      fun h => ⟨(), hbundle h.1, herror.mpr h.1⟩⟩
  · exact iff_of_false (fun ⟨_, _, h⟩ => Reports.checkNonneg _ h) fun h => h.2.elim hvalid hsession
  · exact iff_of_false (fun ⟨_, _, h⟩ => nomatch h) fun h => h.2.elim hvalid hsession

theorem code_eq_none_iff :
    c.code batchSize = none ↔ c.Inits batchSize ∧ c.Links ∧ c.Starts := by
  rw [← initChannels_eq_ok, ← linkCameras_eq_ok, ← startChannels_eq_ok, ← andThen_eq_ok,
    ← andThen_eq_ok]
  unfold StartUpEnv.code StartUpEnv.startStreams
  split
  · rename_i h
    exact iff_of_false (nomatch ·) fun h' => nomatch h.symm.trans h'
  · rename_i h
    exact iff_of_true rfl h

/-- **When the start of the streams fails without an error.** -/
theorem startStreams_gives_up_iff : c.code batchSize = some noError ↔ c.GivesUp batchSize := by
  have hcode : c.code batchSize = some noError ↔ c.startStreams batchSize = .error noError := by
    unfold StartUpEnv.code
    split
    · rename_i h
      rw [h]
      exact ⟨fun h0 => congrArg _ (Option.some.inj h0), fun h0 => congrArg _ (Except.error.inj h0)⟩
    · rename_i h
      rw [h]
      exact iff_of_false (nomatch ·) (nomatch ·)
  rw [hcode]
  unfold StartUpEnv.startStreams
  constructor
  · intro h
    obtain ⟨_, hinit, h⟩ := (bind_eq_error.mp h).resolve_left (initChannels_reports c batchSize)
    -- the last part does report an error
    have hlink := (bind_eq_error.mp h).resolve_right fun ⟨_, _, h⟩ => startChannels_reports c h
    obtain ⟨hbundle, hgiven⟩ := linkCameras_gives_up_iff.mp hlink
    exact ⟨initChannels_eq_ok.mp hinit, hbundle, hgiven⟩
  · intro h
    refine bind_eq_error.mpr (.inr ⟨(), initChannels_eq_ok.mpr h.inits, ?_⟩)
    exact bind_eq_error.mpr (.inl (linkCameras_gives_up_iff.mpr ⟨h.bundle, h.link⟩))

end

/-! ## What an accepted request is owed -/

/-- The request is pending with its streams, and so are its buffers. -/
structure CaptureRequest.Entered (req : CaptureRequest) (s : HardwareInterface) : Prop where
  list : ∃ i ∈ s.mPendingRequestsList, i.core.held = req.held
  map : ∃ e ∈ s.mPendingBuffersMap.mPendingBuffersInRequest, e.frameNumber = req.frameNumber ∧
    e.mPendingBufferList = req.outputBuffers.map fun b => ⟨b.stream, b.buffer⟩

/-- What answers a request: its final result, or an error for it. -/
inductive Answers (frameNumber : ℕ) : Callback → Prop
  | result {r : CaptureResult} (frame : r.frameNumber = frameNumber)
      (final : r.result.isFinal = true) : Answers frameNumber (.captureResult r)
  | settings {r : CaptureResult} {settings : Option Settings} (frame : r.frameNumber = frameNumber)
      (reprocessed : r.result = .settings settings) : Answers frameNumber (.captureResult r)
  | error {code : ErrorCode} (request : code = .request ∨ code = .result) :
      Answers frameNumber (.error code frameNumber none)

/-- The framework has been sent the buffers of the request, and a result or an error. -/
structure CaptureRequest.Answered (req : CaptureRequest) (cs : List Callback) : Prop where
  buffers : ∀ b ∈ req.outputBuffers, ∃ r, .captureResult r ∈ cs ∧ r.frameNumber = req.frameNumber ∧
    b.item ∈ r.outputBuffers.map StreamBuffer.item
  result : ∃ c ∈ cs, Answers req.frameNumber c

/-- The frame number is that of no request so far: none is pending with it or has been answered. -/
structure CaptureRequest.New (req : CaptureRequest) (s : HardwareInterface) : Prop where
  fresh : req.Fresh s
  unanswered : ∀ c ∈ s.callbacks, ¬Answers req.frameNumber c

/-- The streams are configured, and what the interface was configured for before is given up. -/
def HardwareInterface.Unconfigures (s : HardwareInterface) (env : RequestEnv) : Prop :=
  s.mFirstConfiguration = true ∨ 0 ≤ env.unconfigure

/-- **A request that is dropped although it is accepted**: it comes during a `flushPerf`, and a start
of the streams that is due succeeds; or the start of the streams gives up for a linked camera. -/
inductive Drops (streams : Streams) (c : StartUpEnv) (env : RequestEnv) (req : CaptureRequest)
    (s : HardwareInterface) : Prop
  | flushPerf (call : ValidCall streams req s) (flushPerf : s.mFlushPerf = true)
      (started : s.mState = .configured → s.Unconfigures env ∧
        c.Inits (s.batchSizeStarted env) ∧ c.Links ∧ c.Starts)
  | linkedCamera (call : ValidCall streams req s) (state : s.mState = .configured)
      (unconfigures : s.Unconfigures env) (givesUp : c.GivesUp (s.batchSizeStarted env))

/-- A start of the streams in which nothing fails. -/
def startsUp : StartUpEnv :=
  { getSensorOutputSize := 0
    streams := [⟨false, 0, 0, 0⟩]
    mRawDumpChannel := none
    mSupportChannel := none
    mAnalysisChannel := none
    mDummyBatchChannel := none
    setBundleInfo := 0
    linkEnable := none
    linkRelatedCameraId := none
    mLinkedCameraId := 0
    mCameraId := 0
    maxNumSensors := 3
    sessionId := fun _ => 0xDEADBEEF
    syncRelatedSensors := 0
    metadataStart := 0
    startChannel := none }

/-- **A request is dropped although it is accepted**: one that comes during a `flushPerf`, and the
first request, whose settings link a camera that has no session. -/
theorem captureRequest_dropped :
    (∃ s t, (previewRequest 1).New s ∧ s.mFlushPerf = true ∧
      processCaptureRequest previewStream ((channelReturns 0).starting startsUp s)
        (previewRequest 1) s = .ok (noError, t) ∧
      ¬((previewRequest 1).Entered t ∨ (previewRequest 1).Answered t.callbacks)) ∧
    ∃ t, processCaptureRequest previewStream
        ((channelReturns 0).starting { startsUp with linkEnable := some 1 } (.configured 0 6))
        (previewRequest 1) (.configured 0 6) = .ok (noError, t) ∧
      ¬((previewRequest 1).Entered t ∨ (previewRequest 1).Answered t.callbacks) := by
  have hnone : ∀ t : HardwareInterface, t.mPendingRequestsList = [] → t.callbacks = [] →
      ¬((previewRequest 1).Entered t ∨ (previewRequest 1).Answered t.callbacks) := by
    rintro t hlist hcalls (hentered | hanswered)
    · obtain ⟨i, hi, -⟩ := hentered.list
      rw [hlist] at hi
      cases hi
    · obtain ⟨c, hc, -⟩ := hanswered.result
      rw [hcalls] at hc
      cases hc
  refine ⟨⟨{ HardwareInterface.configured 0 6 with mState := .started, mFlushPerf := true }, _,
    ⟨fun _ => (nomatch ·), fun _ => (nomatch ·)⟩, rfl, rfl, hnone _ rfl rfl⟩, _, rfl,
    hnone _ rfl rfl⟩

section

variable {streams : Streams} {c : StartUpEnv} {env : RequestEnv} {req : CaptureRequest}
  {s t : HardwareInterface} {rc : ℤ}

theorem startUp_noError_iff : (∃ t, startUp env req s = .error (noError, t)) ↔
    s.mState = .configured ∧ s.Unconfigures env ∧ env.startUp = some noError := by
  unfold startUp HardwareInterface.Unconfigures
  by_cases hstate : s.mState = .configured
  swap
  · rw [if_pos hstate]
    exact iff_of_false (fun ⟨_, h⟩ => nomatch h) fun h => hstate h.1
  rw [if_neg (not_not.mpr hstate)]
  by_cases hun : s.mFirstConfiguration = false ∧ env.unconfigure < 0
  · rw [if_pos hun]
    refine iff_of_false (fun ⟨_, h⟩ => ?_) fun h => ?_
    · exact hun.2.ne (congrArg Prod.fst (Except.error.inj h))
    · rcases h.2.1 with hfirst | hcode
      · rw [hun.1] at hfirst
        cases hfirst
      · exact absurd hun.2 (not_lt.mpr hcode)
  rw [if_neg hun]
  have hunconfigures : s.mFirstConfiguration = true ∨ 0 ≤ env.unconfigure := by
    by_contra hno
    rw [not_or, Bool.not_eq_true, not_le] at hno
    exact hun hno
  cases hcode : env.startUp with
  | none => exact iff_of_false (fun ⟨_, h⟩ => nomatch h) fun h => nomatch h.2.2
  | some rc =>
    constructor
    · rintro ⟨_, h⟩
      exact ⟨hstate, hunconfigures, congrArg some (congrArg Prod.fst (Except.error.inj h))⟩
    · rintro ⟨-, -, h⟩
      cases h
      exact ⟨_, rfl⟩

theorem exists_startUp_ok (req : CaptureRequest) (h : s.mState = .configured → s.streamsStart env) :
    ∃ u, startUp env req s = .ok u := by
  cases hst : startUp env req s with
  | ok u => exact ⟨u, rfl⟩
  | error r =>
    exfalso
    unfold startUp at hst
    by_cases hstate : s.mState = .configured
    · obtain ⟨-, hun, hcode⟩ := h hstate
      rw [if_neg (not_not.mpr hstate), if_neg, hcode] at hst
      · cases hst
      · rintro ⟨hfirst, hneg⟩
        rcases hun with hun | hun
        · rw [hfirst] at hun
          cases hun
        · exact absurd hneg (not_lt.mpr hun)
    · rw [if_pos hstate] at hst
      cases hst

theorem prepare_noError_iff : (∃ t, prepare streams env req s = .error (noError, t)) ↔
    s.mFlushPerf = true ∧ (s.mState = .configured → s.streamsStart env) ∨
      s.mState = .configured ∧ s.Unconfigures env ∧ env.startUp = some noError := by
  constructor
  · rintro ⟨t, h⟩
    rcases bind_eq_error.mp h with hstart | ⟨u, hstart, -⟩
    · exact .inr (startUp_noError_iff.mp ⟨t, hstart⟩)
    · rcases prepare_fails h with ⟨hperf, -⟩ | ⟨-, hcode⟩
      · exact .inl ⟨hperf, startUp_ok hstart⟩
      · obtain ⟨hstate, hfails⟩ := hcode rfl
        exact absurd (startUp_ok hstart hstate).2.2 hfails
  · rintro (⟨hperf, hstarts⟩ | hgivesUp)
    · obtain ⟨u, hu⟩ := exists_startUp_ok req hstarts
      have hkeep := startUp_keeps env req s
      rw [hu] at hkeep
      refine ⟨u, bind_eq_error.mpr (.inr ⟨u, hu, bind_eq_error.mpr (.inl ?_)⟩)⟩
      exact if_pos (hkeep.1.flushPerf.trans hperf)
    · obtain ⟨t, ht⟩ := startUp_noError_iff.mpr hgivesUp
      exact ⟨t, bind_eq_error.mpr (.inl ht)⟩

theorem drops_iff (call : ValidCall streams req s) : Drops streams c env req s ↔
    ∃ t, prepare streams (env.starting c s) req s = .error (noError, t) := by
  rw [prepare_noError_iff]
  have hcode : (env.starting c s).startUp = c.code (s.batchSizeStarted env) := rfl
  constructor
  · rintro (⟨-, hperf, hstarted⟩ | ⟨-, hstate, hun, hgivesUp⟩)
    · refine .inl ⟨hperf, fun hstate => ?_⟩
      obtain ⟨hun, hstarts⟩ := hstarted hstate
      exact ⟨hstate, hun, hcode.trans (code_eq_none_iff.mpr hstarts)⟩
    · exact .inr ⟨hstate, hun, hcode.trans (startStreams_gives_up_iff.mpr hgivesUp)⟩
  · rintro (⟨hperf, hstarted⟩ | ⟨hstate, hun, hgivesUp⟩)
    · refine .flushPerf call hperf fun hstate => ?_
      obtain ⟨-, hun, hstarts⟩ := hstarted hstate
      exact ⟨hun, code_eq_none_iff.mp (hcode.symm.trans hstarts)⟩
    · exact .linkedCamera call hstate hun (startStreams_gives_up_iff.mp (hcode.symm.trans hgivesUp))

theorem IssueStep.entered {v w : HardwareInterface} {i : PendingRequest}
    (hr : Recorded req i v w) (hs : IssueStep streams env req w v.mPendingRequestsList i rc t) :
    req.Entered t := by
  obtain ⟨flags, hlist⟩ := hs.list hr.list
  obtain ⟨e, hframe, hbuffers, hmap⟩ := hr.map
  refine ⟨⟨i.setNeedMetadata flags, ?_, ?_⟩, e, ?_, hframe, hbuffers⟩
  · rw [hlist]
    exact mem_append_right _ mem_cons_self
  · rw [held_setNeedMetadata, hr.held]
  · rw [hs.map, hmap]
    exact mem_append_right _ mem_cons_self

theorem RequestStep.entered (call : ValidCall streams req s) (accepted : rc = noError)
    (hs : RequestStep streams (env.starting c s) req s rc t)
    (kept : ¬Drops streams c env req s) : req.Entered t := by
  subst accepted
  cases hs with
  | refused early => exact absurd ((drops_iff call).mpr ⟨t, early⟩) kept
  | recorded prepared restarted recorded issued => exact issued.entered recorded

theorem Drops.lost (hd : Drops streams c env req s) (isNew : req.New s)
    (h : processCaptureRequest streams (env.starting c s) req s = .ok (rc, t)) :
    rc = noError ∧ ¬(req.Entered t ∨ req.Answered t.callbacks) := by
  have call : ValidCall streams req s := by
    cases hd with
    | flushPerf call | linkedCamera call => exact call
  obtain ⟨u, hu⟩ := (drops_iff call).mp hd
  have hkeep := prepare_keeps streams (env.starting c s) req s
  rw [hu] at hkeep
  rw [call.eq] at h
  unfold processValidRequest at h
  rw [hu] at h
  cases h
  refine ⟨rfl, ?_⟩
  rintro (hentered | hanswered)
  · obtain ⟨i, hi, hheld⟩ := hentered.list
    exact isNew.fresh i (hkeep.1.list ▸ hi) (congrArg PendingRequest.Held.frameNumber hheld)
  · obtain ⟨a, ha, hanswers⟩ := hanswered.result
    exact isNew.unanswered a (hkeep.1.callbacks ▸ ha) hanswers

/-- **Accepted means owed**: in every state, a request that is accepted is entered in the account, or
has been answered, exactly if it is not dropped. -/
theorem captureRequest_accepted_iff (isNew : req.New s)
    (h : processCaptureRequest streams (env.starting c s) req s = .ok (rc, t)) :
    (rc = noError → req.Entered t ∨ req.Answered t.callbacks) ↔ ¬Drops streams c env req s := by
  constructor
  · intro howed hd
    obtain ⟨hrc, hlost⟩ := hd.lost isNew h
    exact hlost (howed hrc)
  · intro hkept hrc
    rcases processCaptureRequest_cases h with ⟨herror, -⟩ | ⟨-, hfails⟩ | ⟨call, step⟩
    · -- after a device error the request is refused
      unfold processCaptureRequest at h
      rw [herror] at h
      obtain ⟨u, -, hu⟩ := bind_eq_ok.mp h
      cases hu
      cases hrc
    · exact absurd hrc hfails
    · exact .inl (step.entered call hrc hkept)

end

/-- The first request, with nothing that fails. -/
theorem captureRequest_accepted_iff_first : ∃ t, (previewRequest 1).Entered t ∨
    (previewRequest 1).Answered t.callbacks := by
  have isNew : (previewRequest 1).New (.configured 0 6) :=
    ⟨fun _ => (nomatch ·), fun _ => (nomatch ·)⟩
  have h : processCaptureRequest previewStream ((channelReturns 0).starting startsUp
      (.configured 0 6)) (previewRequest 1) (.configured 0 6) = .ok (noError, _) := rfl
  refine ⟨_, (captureRequest_accepted_iff isNew h).mpr ?_ rfl⟩
  rintro (⟨-, hperf, -⟩ | ⟨-, -, -, hgivesUp⟩)
  · cases hperf
  · exact hgivesUp.link.elim (fun h => absurd h (by decide)) fun h => absurd h (by decide)

end Hal3
