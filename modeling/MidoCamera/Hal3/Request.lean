import MidoCamera.Hal3.Flush
import Mathlib.Data.List.ModifyLast

/-!
# Capture requests

`processCaptureRequest`, in the parts between which its early returns lie: what it does before the
request enters the account, with the restart of the sensor, the entry, and the requests to the
channels. What it calls
in the channels and the backend is an outcome of its environment. The wait at its end lets go of
`mMutex`; what happens meanwhile is other operations, so only its outcome is modelled here.
-/

namespace Hal3

open MmCamera (incU32)

/-! ## Validation -/

/-- What `validateCaptureRequest` asks of an output buffer. -/
def outputBufferValid (streams : Streams) (b : StreamBuffer) : Bool :=
  (streams b.stream).priv.isSome && b.status == .ok && b.releaseFence == -1 && b.buffer != 0 &&
    b.privateHandle != 0

/-- What `validateCaptureRequest` asks of an input buffer. -/
def inputBufferValid (b : StreamBuffer) : Bool :=
  b.status == .ok && b.releaseFence == -1 && b.buffer != 0

/-- `validateCaptureRequest`, for a request that is not null. -/
def validateCaptureRequest (streams : Streams) (req : CaptureRequest) (s : HardwareInterface) :
    ℤ :=
  if req.settings = none ∧ s.mState = .configured then badValue
  else if req.outputBuffers = [] then badValue
  else if maxNumStreams ≤ req.outputBuffers.length then badValue
  else if req.inputBuffer.any (!inputBufferValid ·) then badValue
  else if req.outputBuffers.any (!outputBufferValid streams ·) then badValue
  else noError

/-! ## Before the request is recorded -/

/-- The outcomes of what `processCaptureRequest` calls; the functions are of the position of an
output buffer. `startUp` is the code with which the start of the streams fails, if it does; the two
batch sizes are those that `setHalFpsRange` sets at the start and with the parameters, if it
does. -/
structure RequestEnv where
  deviceError : FlushEnv
  unconfigure : ℤ
  minInFlightRequests : ℕ
  startBatchSize : Option ℕ
  startUp : Option ℤ
  syncWait : ℕ → ℤ
  setFrameParameters : ℤ
  batchSize : Option ℕ
  needSensorRestart : Bool
  setBatchFrameNumber : Bool
  startAllChannels : ℤ
  inputSyncWait : ℤ
  systemTime : ℤ
  setReprocParameters : ℤ
  request : ℕ → ℤ
  needMetadata : ℕ → Bool
  clockGettime : ℤ
  condWait : ℤ

/-- An early return, with its code, or the state in which the function goes on. -/
abbrev Early (α : Type) := Except (ℤ × HardwareInterface) α

def refuse (c : Prop) [Decidable c] (rc : ℤ) (s : HardwareInterface) : Early HardwareInterface :=
  if c then .error (rc, s) else .ok s

/-- The start of the streams with the first request after they are configured. -/
def startUp (env : RequestEnv) (req : CaptureRequest) (s : HardwareInterface) :
    Early HardwareInterface :=
  if s.mState ≠ .configured then .ok s
  else if s.mFirstConfiguration = false ∧ env.unconfigure < 0 then .error (env.unconfigure, s)
  else
    let s := { s with
      mCaptureIntent := (req.settings.bind Settings.captureIntent).getD s.mCaptureIntent
      mMinInFlightRequests := env.minInFlightRequests
      mBatchSize := env.startBatchSize.getD s.mBatchSize }
    match env.startUp with
    | some rc => .error (rc, s)
    | none => .ok { s with mPendingLiveRequest := 0, mFirstConfiguration := false }

/-- The request id, which a request without one takes from the request before. -/
def requestId (req : CaptureRequest) (s : HardwareInterface) : Early HardwareInterface :=
  match req.settings.bind Settings.requestId with
  | some id => .ok { s with mCurrentRequestId := id }
  | none => refuse (s.mState = .configured ∨ s.mCurrentRequestId = -1) nameNotFound s

/-- The code of the first wait for an acquire fence that fails, the first buffer at position
`k`. -/
def acquireFences (env : RequestEnv) : ℕ → List StreamBuffer → ℤ
  | _, [] => noError
  | k, b :: bs =>
    if b.acquireFence ≠ -1 ∧ env.syncWait k ≠ noError then env.syncWait k
    else acquireFences env (k + 1) bs

def CaptureRequest.isVidBufRequested (streams : Streams) (req : CaptureRequest) : Bool :=
  req.outputBuffers.any fun b => streams.isVideo b.stream

/-- The parameters are parsed with every request, and with the first of a batch. -/
def parsesParameters (streams : Streams) (req : CaptureRequest) (s : HardwareInterface) : Bool :=
  s.mBatchSize == 0 || !req.isVidBufRequested streams || s.mToBeQueuedVidBufs == 0

/-- What the parameters of a request set, if they are parsed. -/
def parseParameters (streams : Streams) (env : RequestEnv) (req : CaptureRequest)
    (s : HardwareInterface) : HardwareInterface :=
  if parsesParameters streams req s then
    { s with
      mBatchSize := env.batchSize.getD s.mBatchSize
      mNeedSensorRestart := s.mNeedSensorRestart || env.needSensorRestart }
  else s

/-- The frame number of the first request of a batch. -/
def startBatch (req : CaptureRequest) (s : HardwareInterface) : HardwareInterface :=
  { s with
    mFirstFrameNumberInBatch :=
      if s.mBatchSize ≠ 0 ∧ s.mToBeQueuedVidBufs = 0 then req.frameNumber
      else s.mFirstFrameNumberInBatch }

/-- The parameters of a request without an input buffer. -/
def setParameters (streams : Streams) (env : RequestEnv) (req : CaptureRequest)
    (s : HardwareInterface) : Early HardwareInterface := do
  let u ← refuse (parsesParameters streams req s ∧ env.setFrameParameters < 0)
    env.setFrameParameters (parseParameters streams env req s)
  refuse (u.mBatchSize ≠ 0 ∧ env.setBatchFrameNumber = false) badValue (startBatch req u)

/-- What `processCaptureRequest` does with a valid request up to the restart of the sensor. -/
def prepare (streams : Streams) (env : RequestEnv) (req : CaptureRequest)
    (s : HardwareInterface) : Early HardwareInterface := do
  let s ← startUp env req s
  let s ← refuse (s.mFlushPerf = true) noError s
  let s ← requestId req s
  let rc := acquireFences env 0 req.outputBuffers
  let s ← refuse (rc ≠ noError) rc s
  match req.inputBuffer with
  | none => setParameters streams env req s
  | some b => refuse (b.acquireFence ≠ -1 ∧ env.inputSyncWait ≠ noError) env.inputSyncWait s

/-- The restart of the sensor, with its return if it fails. -/
def restartSensor (env : RequestEnv) (s : HardwareInterface) : Exec (Early HardwareInterface) := do
  let (rc, s) ← dynamicUpdateMetaStreamInfo env.startAllChannels s
  if rc ≠ noError then return .error (badValue, s)
  return .ok { s with mNeedSensorRestart := false }

/-- The parameters ask for a restart of the sensor, and the request has no input buffer. -/
def RestartDue (req : CaptureRequest) (s : HardwareInterface) : Prop :=
  req.inputBuffer = none ∧ s.mNeedSensorRestart = true

instance (req : CaptureRequest) (s : HardwareInterface) : Decidable (RestartDue req s) :=
  inferInstanceAs (Decidable (_ ∧ _))

/-- The sensor is restarted when it is due. -/
def restartIfNeeded (env : RequestEnv) (req : CaptureRequest) (s : HardwareInterface) :
    Exec (Early HardwareInterface) :=
  if RestartDue req s then restartSensor env s else .ok (.ok s)

/-! ## The entry in the account -/

/-- `saveRequestSettings`: the settings of the request, to which a flag is added for an input
buffer. -/
def saveRequestSettings (req : CaptureRequest) : Option Settings :=
  if req.inputBuffer.isSome then some (req.settings.getD {}) else req.settings

/-- The entry of a request in `mPendingRequestsList`. -/
def pendingRequest (streams : Streams) (req : CaptureRequest) (s : HardwareInterface) :
    PendingRequest :=
  { frameNumber := req.frameNumber
    numBuffers := req.outputBuffers.length
    requestId := s.mCurrentRequestId
    buffers := req.outputBuffers.map fun b => ⟨b.stream, none, false⟩
    blobRequest := req.outputBuffers.any fun b => (streams b.stream).format == .blob
    bUrgentReceived := false
    timestamp := 0
    inputBuffer := req.inputBuffer
    settings := saveRequestSettings req
    pipelineDepth := 0
    partialResultCnt := 0
    captureIntent := s.mCaptureIntent
    fwkCacMode := s.mCacMode
    shutterNotified := false }

/-- The entry of a request in `mPendingBuffersMap`. -/
def bufsForCurRequest (env : RequestEnv) (req : CaptureRequest) : PendingBuffersInRequest :=
  { frameNumber := req.frameNumber
    timestamp := env.systemTime
    mPendingBufferList := req.outputBuffers.map fun b => ⟨b.stream, b.buffer⟩ }

/-- The request is recorded as pending, and so are its buffers. -/
def record (streams : Streams) (env : RequestEnv) (req : CaptureRequest) (s : HardwareInterface) :
    HardwareInterface :=
  let s := { s with
    mCaptureIntent := (req.settings.bind Settings.captureIntent).getD s.mCaptureIntent
    mCacMode := (req.settings.bind Settings.cacMode).getD s.mCacMode }
  { s with
    mPendingBuffersMap := { s.mPendingBuffersMap with
      mPendingBuffersInRequest :=
        s.mPendingBuffersMap.mPendingBuffersInRequest ++ [bufsForCurRequest env req] }
    mPendingRequestsList := s.mPendingRequestsList ++ [pendingRequest streams req s] }

/-! ## The requests to the channels -/

/-- How the loop over the output buffers ends: the code of a request that fails, the
`need_metadata` flags of the entries passed, and the video buffers to be queued. -/
structure Issued where
  failed : Option ℤ
  flags : List Bool
  toBeQueued : ℕ

/-- An output buffer needs the metadata: that of a live snapshot, and of a YUV stream that says
so. -/
def needsMetadata (streams : Streams) (env : RequestEnv) (input : Bool) (k : ℕ)
    (b : StreamBuffer) : Bool :=
  match (streams b.stream).format with
  | .blob => !input
  | .ycbcr420 => env.needMetadata k
  | .other => false

/-- The loop over the output buffers, the first at position `k`. -/
def issueLoop (streams : Streams) (env : RequestEnv) (input batch : Bool) :
    ℕ → List StreamBuffer → List Bool → ℕ → Issued
  | _, [], flags, toBeQueued => ⟨none, flags, toBeQueued⟩
  | k, b :: bs, flags, toBeQueued =>
    match (streams b.stream).priv with
    | none => issueLoop streams env input batch (k + 1) bs flags toBeQueued
    | some channel =>
      -- a video buffer of a batch counts as queued even if its request fails
      let toBeQueued :=
        if (streams b.stream).format = .other ∧ channel.isVideo ∧ batch then toBeQueued + 1
        else toBeQueued
      if env.request k < 0 then ⟨some (env.request k), flags, toBeQueued⟩
      else
        issueLoop streams env input batch (k + 1) bs
          (flags ++ [needsMetadata streams env input k b]) toBeQueued

/-- The `need_metadata` flags of the first buffers of a request. -/
def PendingRequest.setNeedMetadata (flags : List Bool) (i : PendingRequest) : PendingRequest :=
  { i with
    buffers := i.buffers.mapIdx fun k j => { j with needMetadata := flags.getD k j.needMetadata } }

/-- The parameters go to the backend with every request, and with the last of a batch. -/
def sendsParameters (streams : Streams) (req : CaptureRequest) (s : HardwareInterface) : Bool :=
  s.mBatchSize == 0 || !req.isVidBufRequested streams || s.mToBeQueuedVidBufs == s.mBatchSize

/-- The parameters go to the backend, and with them the frame numbers of a batch. -/
def sendParameters (streams : Streams) (req : CaptureRequest) (s : HardwareInterface) :
    HardwareInterface :=
  if sendsParameters streams req s then
    { s with
      mToBeQueuedVidBufs := 0
      mPendingBatchMap := Function.update s.mPendingBatchMap req.frameNumber
        (some s.mFirstFrameNumberInBatch) }
  else s

def HardwareInterface.countLive (s : HardwareInterface) : HardwareInterface :=
  { s with mPendingLiveRequest := incU32 s.mPendingLiveRequest }

/-- What `processCaptureRequest` does once all channels have their requests, with its return code:
the outcome of the wait, for a live request that has to wait, and else that of reading the
clock. -/
def accept (streams : Streams) (env : RequestEnv) (req : CaptureRequest) (s : HardwareInterface) :
    ℤ × HardwareInterface :=
  let s := if req.inputBuffer.isSome then s else (sendParameters streams req s).countLive
  let waits := s.mMinInFlightRequests ≤ s.mPendingLiveRequest ∧ req.inputBuffer = none
  (if waits then env.condWait else env.clockGettime, { s with mState := .started })

/-- All that `processCaptureRequest` does with a request once it is recorded, with its return
code. -/
def issue (streams : Streams) (env : RequestEnv) (req : CaptureRequest) (s : HardwareInterface) :
    ℤ × HardwareInterface :=
  if s.mFlush then (noError, s)
  else if req.inputBuffer.isSome ∧ env.setReprocParameters ≠ noError then
    (env.setReprocParameters, s)
  else
    let issued := issueLoop streams env req.inputBuffer.isSome (s.mBatchSize != 0) 0
      req.outputBuffers [] s.mToBeQueuedVidBufs
    let s := { s with
      mPendingRequestsList :=
        s.mPendingRequestsList.modifyLast (PendingRequest.setNeedMetadata issued.flags)
      mToBeQueuedVidBufs := issued.toBeQueued }
    match issued.failed with
    | some rc => (rc, s)
    | none =>
      if 1 < issued.flags.count true then (badValue, s) else accept streams env req s

/-- What `processCaptureRequest` does with a valid request, with its return code. -/
def processValidRequest (streams : Streams) (env : RequestEnv) (req : CaptureRequest)
    (s : HardwareInterface) : Exec (ℤ × HardwareInterface) :=
  match prepare streams env req s with
  | .error r => .ok r
  | .ok s => do
    match ← restartIfNeeded env req s with
    | .error r => return r
    | .ok s => return issue streams env req (record streams env req s)

/-- `processCaptureRequest`, with its return code. -/
def processCaptureRequest (streams : Streams) (env : RequestEnv) (req : CaptureRequest)
    (s : HardwareInterface) : Exec (ℤ × HardwareInterface) :=
  match s.mState with
  | .error => do
    let s ← handleCameraDeviceError env.deviceError s
    return (noDevice, s)
  | .configured | .started =>
    if validateCaptureRequest streams req s ≠ noError then
      .ok (validateCaptureRequest streams req s, s)
    else processValidRequest streams env req s
  | _ => .ok (noDevice, s)

/-- The operations on the interface. -/
inductive Op
  | request (env : RequestEnv) (req : CaptureRequest)
  | metadata (timeOffset : ℤ) (first : Bool) (metadata : MetadataBuffer)
  | buffer (now : ℤ) (b : StreamBuffer) (frameNumber : ℕ)
  | inputBuffer (now : ℤ) (frameNumber : ℕ)
  | flushBegin (env : FlushEnv)
  | flushEnd (env : FlushEnv)
  | flushPerfBegin (rc : ℤ)
  | flushPerfEnd (rc : ℤ)
  | daemonDied

/-- The call of `flush` by the framework, up to where the channels are stopped. -/
def flushDevice (env : FlushEnv) (s : HardwareInterface) : Exec HardwareInterface :=
  match s.mState with
  | .started => .ok (flushBegin s)
  | .error => handleCameraDeviceError env s
  | _ => .ok s

/-- What an operation does. A flush ends after it has begun, and a `flushPerf` without an error
when no buffer is awaited any more. -/
def Op.exec (streams : Streams) : Op → HardwareInterface → Exec HardwareInterface
  | .request env req, s => return (← processCaptureRequest streams env req s).2
  | .metadata timeOffset first md, s => .ok (handleMetadataWithLock streams timeOffset first md s)
  | .buffer now b frameNumber, s => .ok (handleBufferWithLock streams now b frameNumber s)
  | .inputBuffer now frameNumber, s => .ok (handleInputBufferWithLock now frameNumber s)
  | .flushBegin env, s => flushDevice env s
  | .flushEnd env, s => if s.mFlush then return (← Hal3.flushEnd env true s).2 else .ok s
  | .flushPerfBegin rc, s => .ok (Hal3.flushPerfBegin rc s)
  | .flushPerfEnd rc, s =>
    if s.mFlushPerf ∧ (rc ≠ 0 ∨ s.mPendingBuffersMap.numPendingBufsAtFlush = 0) then
      return (← Hal3.flushPerfEnd rc s).2
    else .ok s
  | .daemonDied, s => .ok { s with mState := .error }

def Op.Step (streams : Streams) (op : Op) (s t : HardwareInterface) : Prop :=
  op.exec streams s = .ok t

end Hal3
