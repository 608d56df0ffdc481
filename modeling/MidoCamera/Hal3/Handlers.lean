import MidoCamera.Hal3.Types
import Mathlib.Tactic.Ring

/-!
# The callbacks of the channels

What the interface does, under `mMutex`, when a metadata buffer or an image buffer arrives. The
work on what the buffers contain (time stamps for the display, exif, tuning dumps, reprocessing)
is left out: no function here reads its outcome. `mPendingReprocessResultList` is left out too:
nothing is ever put in it.
-/

namespace Hal3

open MmCamera (incU32 decU32)

/-! ## The pending buffers -/

/-- The loop of `PendingBuffersMap::removeBuf`: the first entry of the buffer is taken out, and
its request with it when no other entry is left. -/
def removeBufFrom (buffer : ℕ) : List PendingBuffersInRequest → List PendingBuffersInRequest
  | [] => []
  | req :: reqs =>
    if req.mPendingBufferList.any (·.buffer == buffer) then
      let rest := req.mPendingBufferList.eraseP (·.buffer == buffer)
      if rest.isEmpty then reqs else { req with mPendingBufferList := rest } :: reqs
    else req :: removeBufFrom buffer reqs

def PendingBuffersMap.removeBuf (m : PendingBuffersMap) (buffer : ℕ) : PendingBuffersMap :=
  { m with mPendingBuffersInRequest := removeBufFrom buffer m.mPendingBuffersInRequest }

def PendingBuffersMap.numOverallBuffers (m : PendingBuffersMap) : ℕ :=
  (m.mPendingBuffersInRequest.map fun req => req.mPendingBufferList.length).sum

/-! ## Metadata -/

/-- What is read of a metadata buffer, each entry there or not. -/
structure MetadataBuffer where
  frameNumberValid : Option ℤ
  frameNumber : Option ℕ
  sensorTimestamp : Option ℤ
  urgentFrameNumberValid : Option ℤ
  urgentFrameNumber : Option ℕ
  frameDropped : Option (List ℕ)
  deriving DecidableEq, Repr

/-- The loop over the pending requests for an urgent frame number: the first request of that
number that has no partial result yet is given one. -/
def urgentResult (urgent : ℕ) : List PendingRequest → List PendingRequest × Option Callback
  | [] => ([], none)
  | i :: is =>
    if i.frameNumber = urgent ∧ i.bUrgentReceived = false then
      let i := { i with partialResultCnt := incU32 i.partialResultCnt, bUrgentReceived := true }
      (i :: is, some (.captureResult
        { frameNumber := urgent
          result := .urgent
          partialResult := i.partialResultCnt
          inputBuffer := none
          outputBuffers := [] }))
    else
      let (is, c) := urgentResult urgent is
      (i :: is, c)

/-- The partial result for an urgent frame number. -/
def HardwareInterface.sendUrgent (urgent : ℕ) (s : HardwareInterface) : HardwareInterface :=
  let (is, c) := urgentResult urgent s.mPendingRequestsList
  { s with mPendingRequestsList := is, callbacks := s.callbacks ++ c.toList }

/-- The streams of a request that are reported as dropped, once for each report. -/
def droppedStreams (streams : Streams) (dropped : List ℕ) (i : PendingRequest) : List Stream :=
  i.buffers.flatMap fun j =>
    (dropped.filter fun id => streams.streamId j.stream == id).map fun _ => j.stream

/-- The buffers of a request that are reported as dropped. -/
def HardwareInterface.reportDropped (streams : Streams) (dropped : Option (List ℕ))
    (i : PendingRequest) (s : HardwareInterface) : HardwareInterface :=
  match dropped with
  | none => s
  | some ids =>
    let js := droppedStreams streams ids i
    { s with
      callbacks := s.callbacks ++ js.map fun j => .error .buffer i.frameNumber (some j)
      mPendingFrameDropList := s.mPendingFrameDropList ++
        js.map fun j => ⟨i.frameNumber, streams.streamId j⟩ }

/-- A buffer of a frame in which its stream has been dropped is returned as failed, once. -/
def HardwareInterface.markDropped (streams : Streams) (frameNumber : ℕ) (b : StreamBuffer)
    (s : HardwareInterface) : StreamBuffer × HardwareInterface :=
  let drop : PendingFrameDrop := ⟨frameNumber, streams.streamId b.stream⟩
  if drop ∈ s.mPendingFrameDropList then
    ({ b with status := .error },
      { s with mPendingFrameDropList := s.mPendingFrameDropList.erase drop })
  else (b, s)

/-- The cached buffers of a request as they go into its result; each leaves the pending buffers. -/
def takeBuffers (streams : Streams) (frameNumber : ℕ) :
    List RequestedBuffer → HardwareInterface → List StreamBuffer × HardwareInterface
  | [], s => ([], s)
  | j :: js, s =>
    match j.buffer with
    | none => takeBuffers streams frameNumber js s
    | some b =>
      let (b, s) := s.markDropped streams frameNumber b
      let s := { s with mPendingBuffersMap := s.mPendingBuffersMap.removeBuf b.buffer }
      let (bs, s) := takeBuffers streams frameNumber js s
      (b :: bs, s)

/-- The final result of a request: for a metadata buffer that was missed the request id and an
error, and else the shutter and the metadata. -/
def HardwareInterface.sendResult (streams : Streams) (frameNumber : ℕ) (captureTime : ℤ)
    (first : Bool) (i : PendingRequest) (s : HardwareInterface) : HardwareInterface :=
  let s := { s with mPendingLiveRequest := decU32 s.mPendingLiveRequest }
  let (result, s) :=
    if i.frameNumber < frameNumber then
      (ResultMetadata.dummy i.requestId, s.call (.error .result i.frameNumber none))
    else
      (ResultMetadata.hal captureTime i.requestId i.pipelineDepth i.captureIntent
          (i.buffers.any (·.needMetadata)) i.fwkCacMode first,
        s.call (.shutter i.frameNumber captureTime))
  let (bufs, s) := takeBuffers streams frameNumber i.buffers s
  s.call (.captureResult
    { frameNumber := i.frameNumber
      result := result
      partialResult := i.partialResultCnt
      inputBuffer := i.inputBuffer
      outputBuffers := bufs })

/-- The loop that flushes out all requests up to a frame number: what is left of the list. A
reprocess request of an earlier frame is passed over. -/
def flushOut (streams : Streams) (frameNumber : ℕ) (captureTime : ℤ) (dropped : Option (List ℕ))
    (first : Bool) :
    List PendingRequest → HardwareInterface → List PendingRequest × HardwareInterface
  | [], s => ([], s)
  | i :: is, s =>
    if i.frameNumber ≤ frameNumber then
      let i := { i with partialResultCnt := incU32 i.partialResultCnt }
      let s := s.reportDropped streams dropped i
      if i.frameNumber < frameNumber ∧ i.inputBuffer.isSome then
        let (is, s) := flushOut streams frameNumber captureTime dropped first is s
        (i :: is, s)
      else
        flushOut streams frameNumber captureTime dropped first is
          (s.sendResult streams frameNumber captureTime first i)
    else (i :: is, s)

def HardwareInterface.doneMetadata (s : HardwareInterface) : HardwareInterface :=
  { s with
    mPendingRequestsList := s.mPendingRequestsList.map fun i =>
      { i with pipelineDepth := (i.pipelineDepth + 1) % 2 ^ 8 } }

/-- `handleMetadataWithLock`; `timeOffset` is what the clock of the sensor is ahead. -/
def handleMetadataWithLock (streams : Streams) (timeOffset : ℤ) (first : Bool)
    (metadata : MetadataBuffer) (s : HardwareInterface) : HardwareInterface :=
  if s.mFlushPerf ∨ s.mState = .error ∨ s.mState = .deinit then s
  else
    match metadata.frameNumberValid, metadata.frameNumber, metadata.sensorTimestamp,
      metadata.urgentFrameNumberValid, metadata.urgentFrameNumber with
    | some frameNumberValid, some frameNumber, some timestamp, some urgentValid, some urgent =>
      let s := if urgentValid ≠ 0 then s.sendUrgent urgent else s
      if frameNumberValid = 0 then s.doneMetadata
      else
        let (is, s) := flushOut streams frameNumber (timestamp - timeOffset)
          metadata.frameDropped first s.mPendingRequestsList s
        { s with mPendingRequestsList := is }.doneMetadata
    | _, _, _, _, _ => s.doneMetadata

/-! ## Buffers -/

def handleBuffersDuringFlushLock (buffer : ℕ) (s : HardwareInterface) : HardwareInterface :=
  if s.mPendingBuffersMap.mPendingBuffersInRequest.any
      (·.mPendingBufferList.any (·.buffer == buffer)) then
    { s with mPendingBuffersMap := { s.mPendingBuffersMap with
        numPendingBufsAtFlush := decU32 s.mPendingBuffersMap.numPendingBufsAtFlush } }
  else s

/-- The buffer is kept in the entry of its stream, if there is none yet. -/
def RequestedBuffer.cache (b : StreamBuffer) (j : RequestedBuffer) : RequestedBuffer :=
  if j.stream = b.stream ∧ j.buffer = none then { j with buffer := some b } else j

/-- The buffer is kept with the first request of its frame. -/
def cacheBuffer (b : StreamBuffer) (frameNumber : ℕ) : List PendingRequest → List PendingRequest
  | [] => []
  | i :: is =>
    if i.frameNumber = frameNumber then
      { i with buffers := i.buffers.map (RequestedBuffer.cache b) } :: is
    else i :: cacheBuffer b frameNumber is

/-- The time of the shutter of a reprocess request, where `now` is the time of the clock. -/
def PendingRequest.captureTime (now : ℤ) (i : PendingRequest) : ℤ :=
  (i.settings.bind Settings.sensorTimestamp).getD now

/-- A buffer whose request is no longer pending goes to the framework by itself. -/
def HardwareInterface.returnBuffer (streams : Streams) (b : StreamBuffer) (frameNumber : ℕ)
    (s : HardwareInterface) : HardwareInterface :=
  let (b, s) := s.markDropped streams frameNumber b
  { s with mPendingBuffersMap := s.mPendingBuffersMap.removeBuf b.buffer }.call (.captureResult
    { frameNumber := frameNumber
      result := .null
      partialResult := 0
      inputBuffer := none
      outputBuffers := [b] })

/-- The result of a reprocess request, which its output buffer completes. -/
def HardwareInterface.reprocessResult (b : StreamBuffer) (now : ℤ) (i : PendingRequest)
    (s : HardwareInterface) : HardwareInterface :=
  { s with
    mPendingBuffersMap := s.mPendingBuffersMap.removeBuf b.buffer
    mPendingRequestsList := s.mPendingRequestsList.eraseP (·.frameNumber == i.frameNumber)
    callbacks := s.callbacks ++
      [.shutter i.frameNumber (i.captureTime now),
        .captureResult
          { frameNumber := i.frameNumber
            result := .settings i.settings
            partialResult := partialResultCount
            inputBuffer := i.inputBuffer
            outputBuffers := [b] }] }

def handleBufferWithLock (streams : Streams) (now : ℤ) (b : StreamBuffer) (frameNumber : ℕ)
    (s : HardwareInterface) : HardwareInterface :=
  if s.mState = .error ∨ s.mState = .deinit then s
  else if s.mFlushPerf then handleBuffersDuringFlushLock b.buffer s
  else
    match s.mPendingRequestsList.find? (·.frameNumber == frameNumber) with
    | none => s.returnBuffer streams b frameNumber
    | some i =>
      if i.inputBuffer.isSome then s.reprocessResult b now i
      else { s with mPendingRequestsList := cacheBuffer b frameNumber s.mPendingRequestsList }

def handleInputBufferWithLock (now : ℤ) (frameNumber : ℕ) (s : HardwareInterface) :
    HardwareInterface :=
  match s.mPendingRequestsList.find? (·.frameNumber == frameNumber) with
  | none => s
  | some i =>
    if i.inputBuffer.isSome then
      { s with
        mPendingRequestsList := s.mPendingRequestsList.eraseP (·.frameNumber == frameNumber)
        callbacks := s.callbacks ++
          (if i.shutterNotified then [] else [.shutter frameNumber (i.captureTime now)]) ++
          [.captureResult
            { frameNumber := frameNumber
              result := .settings i.settings
              partialResult := partialResultCount
              inputBuffer := i.inputBuffer
              outputBuffers := [] }] }
    else s

end Hal3
