import MidoCamera.Library.Program
import Mathlib.Data.Int.Notation

/-!
# The state machine and its parent

`QCameraStateMachine` takes events one at a time, and what it does with one depends on its state. It
works on its parent, `QCamera2HardwareInterface`: each operation of the parent is recorded with
those before it, and what the operation returns may depend on all of them. Of the parent the model
keeps the preview, which four operations change, the messages that are enabled, and the results that
are signalled.

A stop of the preview always takes down what has been prepared and started; a start or a preparation
that fails leaves the preview as it was.
-/

namespace QCamera

/-! ## States and events -/

/-- `qcamera_state_enum_t`. -/
inductive SmState
  | previewStopped | previewReady | previewing | prepareSnapshot | picTaking | recording
  | videoPicTaking | previewPicTaking
  deriving DecidableEq, Repr

/-- `qcamera_sm_evt_enum_t`, with the source's spellings. -/
inductive SmEvt
  | setPreviewWindow | setCallbacks | enableMsgType | disableMsgType | msgTypeEnabled
  | setParams | setParamsStop | setParamsCommit | setParamsRestart | getParams | putParams
  | preparePreview | startPreview | startNodisplayPreview | stopPreview | previewEnabled
  | storeMetadataInBufs | preStartRecording | startRecording | stopRecording | recordingEnabled
  | releaseRecoridngFrame
  | prepareSnapshot | preTakePicture | takePicture | cancelPicture
  | startAutoFocus | stopAutoFocus | sendCommand
  | release | dump | regFaceImage
  | evtInternal | evtNotify | jpegEvtNotify | snapshotDone | thermalNotify | stopCaptureChannel
  | restartPerview | delayedRestart | sendCommandRestart | restartStartPreview | restartStopPreview
  deriving DecidableEq, Repr

def SmEvt.value (e : SmEvt) : ℕ := e.ctorIdx + 1

/-- `qcamera_internal_evt_type_t`. -/
inductive InternalEvt
  | focusUpdate | prepSnapshotDone | faceDetectResult | histogramStats | cropInfo | asdUpdate
  | readyForSnapshot | ledModeOverride | awbUpdate | aeUpdate | focusPosUpdate | hdrUpdate
  | retroAecUnlock | zslCaptureDone
  deriving DecidableEq, Repr

/-- `cam_event_type_t`, as far as it is told apart. -/
inductive ServerEvt
  | daemonDied | cacDone
  | other (n : ℕ)
  deriving DecidableEq, Repr

/-- The commands of `sendCommand`, as far as they are told apart. -/
inductive CameraCmd
  | longshotOn | longshotOff
  | other (n : ℤ)
  deriving DecidableEq, Repr

/-- What `payload` points to, for the events that look at it. -/
structure Payload where
  msgs : BitVec 32
  cmd : CameraCmd
  internalEvt : InternalEvt
  serverEvt : ServerEvt
  deriving DecidableEq, Repr

/-- `int32_t` type of status. -/
inductive Status
  | noError | invalidOperation | unknownError | badValue
  | other (n : ℤ)
  deriving DecidableEq, Repr

/-! ## The parent -/

/-- `qcamera_ch_type_enum_t`, as far as the state machine stops channels itself. -/
inductive ChannelType
  | zsl | preview
  deriving DecidableEq, Repr

/-- The operations of the parent and its queries. Of `takePicture`, what comes before and after the
preview is stopped are operations of their own. -/
inductive ParentOp
  | setPreviewWindow | setCallBacks | waitDeferredWork
  | enableMsgType (msgs : BitVec 32) | disableMsgType (msgs : BitVec 32)
  | updateParameters | memoryPoolClear | commitParameterChanges | setNeedRestart (b : Bool)
  | getParameters | mallocParams | putParameters
  | preparePreview | startPreview | stopPreview | unpreparePreview | setPreviewStarted
  | release | storeMetaDataInBuffers | dump | sendCommand (cmd : CameraCmd) | closeNativeHandle
  | autoFocus | cancelAutoFocus | registerFaceImage | updateThermalLevel
  | sendEvtNotify | updateFlashMode
  | startRecording | stopRecording | releaseRecordingFrame
  | prepareHardwareForSnapshot | processPrepSnapshotDoneEvent
  | configureAdvancedCapture | takeZslPicture | takeRegularPicture | unconfigureAdvancedCapture
  | takeLiveSnapshot | cancelPicture | cancelLiveSnapshot | longShot
  | stopChannel (type : ChannelType) | stopCaptureChannel (destroy : Bool)
  | updateRecordingHintValue (b : Bool) | updateZSLModeValue (b : Bool)
  | setPreviewRestartNeeded
  | processAutoFocusEvent | processFaceDetectionResult | processHistogramStats | processZoomEvent
  | processASDUpdate | transAwbMetaToParams | processAEInfo | processFocusPositionInfo
  | processHDRData | processRetroAECUnlock | processZSLCaptureDone | processJpegNotify
  | playShutter | setCACDoneReceived
  -- the queries
  | previewWindow | isZSLMode | isLongshotEnabled | isRetroPicture | isPreviewRestartEnabled
  | getRecordingHintValue | isManualCaptureType3 | isRelatedSensorsOn
  | isCACEnabled | isOEMFeatEnabled | isCaptureShutterEnabled
  deriving DecidableEq, Repr

/-- **What the parent returns**: the status of an operation, the answer to a query, and what an
operation leaves in its out-arguments. Each may depend on the operations before it. -/
structure Parent where
  status : List ParentOp → ParentOp → Status
  answer : List ParentOp → ParentOp → Bool
  out : List ParentOp → ParentOp → ℤ × ℤ

/-- A parent whose operations all succeed, with a window to preview in, and whose queries are
otherwise denied. -/
def quietParent : Parent where
  status _ _ := .noError
  answer _ op := op = .previewWindow
  out _ _ := (0, 0)

/-- The preview: its channels have been added, and they have been started. -/
@[ext]
structure Preview where
  prepared : Bool
  started : Bool
  deriving DecidableEq, Repr

def Preview.down : Preview := ⟨false, false⟩

/-- What an operation of the parent does to the preview. -/
def ParentOp.onPreview (op : ParentOp) (rc : Status) (v : Preview) : Preview :=
  match op with
  | .preparePreview => if rc = .noError then ⟨true, false⟩ else v
  | .startPreview => if rc = .noError then { v with started := true } else v
  | .stopPreview | .unpreparePreview => .down
  | _ => v

/-- What an operation of the parent does to the messages that are enabled. -/
def ParentOp.onMsgs (op : ParentOp) (enabled : BitVec 32) : BitVec 32 :=
  match op with
  | .enableMsgType msgs => enabled ||| msgs
  | .disableMsgType msgs => enabled &&& ~~~msgs
  | _ => enabled

/-! ## The state machine -/

/-- `qcamera_api_result_type_t`, with what comes with the type. -/
inductive ResultType
  | default
  | enableFlag (enabled : BitVec 32)
  | params (nonNull : Bool)
  | handle (handle : ℤ)
  deriving DecidableEq, Repr

/-- `qcamera_api_result_t`. -/
structure ApiResult where
  status : Status
  requestApi : SmEvt
  resultType : ResultType
  deriving DecidableEq, Repr

/-- The build: without the vendor's extensions or with them, and the bit of
`CAMERA_MSG_PREVIEW_FRAME`. -/
structure Build where
  vanillaHal : Bool
  msgPreviewFrame : BitVec 32

/-- `QCameraStateMachine` and its parent, with the operations of the parent and the results that
have been signalled. -/
structure Machine where
  mState : SmState
  mBDelayPreviewMsgs : Bool
  mBPreviewNeedsRestart : Bool
  mBPreviewDelayedRestart : Bool
  mDelayedMsgs : BitVec 32
  mRestoreZSL : Bool
  preview : Preview
  msgEnabled : BitVec 32
  calls : List ParentOp
  apiResults : List ApiResult
  evtResults : List ApiResult
  deriving DecidableEq, Repr

/-- The constructor of `QCameraStateMachine`. The two flags about a restart are not initialized. -/
def Machine.new (needsRestart delayedRestart : Bool) (msgEnabled : BitVec 32) : Machine where
  mState := .previewStopped
  mBDelayPreviewMsgs := false
  mBPreviewNeedsRestart := needsRestart
  mBPreviewDelayedRestart := delayedRestart
  mDelayedMsgs := 0
  mRestoreZSL := true
  preview := .down
  msgEnabled := msgEnabled
  calls := []
  apiResults := []
  evtResults := []

abbrev Proc (α : Type) := StateM Machine α

/-- **An operation of the parent.** -/
def call (p : Parent) (op : ParentOp) : Proc Status := do
  let s ← get
  let rc := p.status s.calls op
  modify fun s => { s with
    calls := s.calls ++ [op]
    preview := op.onPreview rc s.preview
    msgEnabled := op.onMsgs s.msgEnabled }
  pure rc

def perform (p : Parent) (op : ParentOp) : Proc Unit := do
  let _ ← call p op

def ask (p : Parent) (op : ParentOp) : Proc Bool := do
  let s ← get
  modify fun s => { s with calls := s.calls ++ [op] }
  pure (p.answer s.calls op)

def outArgs (p : Parent) (op : ParentOp) : Proc (ℤ × ℤ) := do
  let s ← get
  pure (p.out s.calls op)

def msgTypeEnabled (msgs : BitVec 32) : Proc (BitVec 32) := do
  let s ← get
  pure (s.msgEnabled &&& msgs)

/-- `m_state = ...`. -/
def setState (m : SmState) : Proc Unit := modify fun s => { s with mState := m }

def signalAPIResult (r : ApiResult) : Proc Unit :=
  modify fun s => { s with apiResults := s.apiResults ++ [r] }

def signalEvtResult (r : ApiResult) : Proc Unit :=
  modify fun s => { s with evtResults := s.evtResults ++ [r] }

def applyDelayedMsgs (p : Parent) : Proc Status := do
  let s ← get
  if s.mBDelayPreviewMsgs && s.mDelayedMsgs ≠ 0 then do
    let rc ← call p (.enableMsgType s.mDelayedMsgs)
    modify fun s => { s with mBDelayPreviewMsgs := false, mDelayedMsgs := 0 }
    pure rc
  else do
    if s.mBDelayPreviewMsgs then modify fun s => { s with mBDelayPreviewMsgs := false }
    pure .noError

/-! ## Functions of the parent that change the preview -/

def preTakePicture (p : Parent) : Proc Status := do
  if ← ask p .getRecordingHintValue then
    if ← ask p .isRelatedSensorsOn then
      perform p .setPreviewRestartNeeded
      pure .noError
    else
      perform p .stopPreview
      perform p (.updateRecordingHintValue false)
      let rc ← call p .preparePreview
      if rc = .noError then
        let rc ← call p .startPreview
        if rc ≠ .noError then perform p .unpreparePreview
        pure rc
      else pure rc
  else pure .noError

def preStartRecording (p : Parent) : Proc Status := do
  if ← ask p .getRecordingHintValue then pure .noError
  else do
    if ← ask p .isRelatedSensorsOn then
      perform p .setPreviewRestartNeeded
      pure .noError
    else
      perform p .stopPreview
      perform p (.updateRecordingHintValue true)
      let rc ← call p .preparePreview
      if rc = .noError then call p .startPreview else pure rc

/-- `takePicture`: without ZSL the preview is stopped, unless the capture cannot be configured. -/
def takePicture (p : Parent) : Proc Status := do
  let rc ← call p .configureAdvancedCapture
  if rc ≠ .noError then pure rc
  else do
    if ← ask p .isZSLMode then call p .takeZslPicture
    else
      perform p .stopPreview
      call p .takeRegularPicture

end QCamera
