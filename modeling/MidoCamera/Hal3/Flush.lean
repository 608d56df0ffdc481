import MidoCamera.Hal3.Handlers

/-!
# Flushes and restarts

The operations that give up the pending requests: `flush`, `flushPerf`, the restart of the sensor,
and the end after a device error. `flush` and `flushPerf` let go of `mMutex` on the way, so each is
two steps, between which the channels may call back and the framework may send requests. An
allocation with `new` does not return null, so `NO_MEMORY` is never returned.
-/

namespace Hal3

/-! ## Errors for all that is pending -/

/-- The buffers of a request as they are returned by a flush. -/
def PendingBuffersInRequest.errorBuffers (req : PendingBuffersInRequest) : List StreamBuffer :=
  req.mPendingBufferList.map fun info => ⟨info.stream, info.buffer, 0, .error, -1, -1⟩

/-- The result that returns the buffers of a request, with an input buffer. -/
def PendingBuffersInRequest.errorResult (req : PendingBuffersInRequest)
    (inputBuffer : Option StreamBuffer) : Callback :=
  .captureResult
    { frameNumber := req.frameNumber
      result := .null
      partialResult := 0
      inputBuffer := inputBuffer
      outputBuffers := req.errorBuffers }

/-- The loop over the pending buffers, with the pending requests that are left. Buffers of a frame
before the oldest request are reported one by one; for any other frame the first request that is
left is taken to be its request. The input buffer of a result is that of the request reported
last. -/
def notifyErrorLoop (frameNum : ℕ) :
    List PendingBuffersInRequest → Option StreamBuffer → List PendingRequest → List Callback →
      Exec (List PendingRequest × List Callback)
  | [], _, is, cs => .ok (is, cs)
  | req :: reqs, input, is, cs =>
    if req.frameNumber < frameNum then
      notifyErrorLoop frameNum reqs input is
        (cs ++ (req.mPendingBufferList.map fun info =>
            .error .buffer req.frameNumber (some info.stream)) ++ [req.errorResult input])
    else
      match is with
      | [] => .error .invalidIterator
      | i :: is =>
        notifyErrorLoop frameNum reqs i.inputBuffer is
          (cs ++ [.error .request req.frameNumber none, req.errorResult i.inputBuffer])

/-- The frame number of the oldest pending request, and `UINT_MAX` where there is none. -/
def HardwareInterface.oldestFrame (s : HardwareInterface) : ℕ :=
  s.mPendingRequestsList.head?.elim (2 ^ 32 - 1) PendingRequest.frameNumber

def notifyErrorForPendingRequests (s : HardwareInterface) : Exec HardwareInterface := do
  let (is, cs) ← notifyErrorLoop s.oldestFrame s.mPendingBuffersMap.mPendingBuffersInRequest none
    s.mPendingRequestsList s.callbacks
  return { s with
    mPendingRequestsList := is
    mPendingBuffersMap := { s.mPendingBuffersMap with mPendingBuffersInRequest := [] }
    mPendingFrameDropList := []
    callbacks := cs }

/-! ## Flush -/

/-- The outcomes of the calls that `flush` makes: of `sync_related_sensors`, for a device that is
linked to another, of `setBundleInfo`, and of `startAllChannels`. -/
structure FlushEnv where
  unlink : Option ℤ
  setBundleInfo : ℤ
  startAllChannels : ℤ

/-- `flush` up to where the channels are stopped. -/
def flushBegin (s : HardwareInterface) : HardwareInterface := { s with mFlush := true }

/-- The rest of `flush`, from where the channels are stopped, with its return code. -/
def flushEnd (env : FlushEnv) (restartChannels : Bool) (s : HardwareInterface) :
    Exec (ℤ × HardwareInterface) :=
  if env.unlink.getD noError < 0 then .ok (env.unlink.getD noError, s)
  else if env.setBundleInfo < 0 then .ok (env.setBundleInfo, s)
  else do
    let s ← notifyErrorForPendingRequests { s with mPendingLiveRequest := 0 }
    let s := { s with mFlush := false }
    if restartChannels ∧ env.startAllChannels < 0 then return (env.startAllChannels, s)
    return (noError, s)

/-- `handleCameraDeviceError`, which flushes and closes the interface after a device error. -/
def handleCameraDeviceError (env : FlushEnv) (s : HardwareInterface) : Exec HardwareInterface :=
  if s.mState ≠ .error then .ok s
  else do
    let (_, s) ← flushEnd env false (flushBegin s)
    return { s with mState := .deinit }.call (.error .device 0 none)

/-- `flushPerf` up to where it waits for buffers, if it does; `rc` is the outcome of the flush of
the backend. -/
def flushPerfBegin (rc : ℤ) (s : HardwareInterface) : HardwareInterface :=
  let num := s.mPendingBuffersMap.numOverallBuffers
  let s := { s with
    mPendingBuffersMap := { s.mPendingBuffersMap with numPendingBufsAtFlush := num } }
  if rc < 0 ∨ num = 0 then { s with mFlushPerf := false } else { s with mFlushPerf := true }

/-- The rest of `flushPerf`, from the end of its wait, which ends when no buffer is pending or
with an error code. -/
def flushPerfEnd (rc : ℤ) (s : HardwareInterface) : Exec (ℤ × HardwareInterface) :=
  if rc ≠ 0 then .ok (noDevice, { s with mFlushPerf := false })
  else do
    let s ← notifyErrorForPendingRequests s
    return (noError, { s with mPendingLiveRequest := 0, mFlushPerf := false })

/-! ## Restart -/

/-- `dynamicUpdateMetaStreamInfo`; `rc` is the outcome of `startAllChannels`. -/
def dynamicUpdateMetaStreamInfo (rc : ℤ) (s : HardwareInterface) :
    Exec (ℤ × HardwareInterface) := do
  let s ← notifyErrorForPendingRequests s
  return (rc, s)

end Hal3
