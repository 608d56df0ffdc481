import MidoCamera.Hal1.Types

/-!
# The handlers of the states

`stateMachine` hands an event to the handler of its state. There are eight, and each decides for
every event what to do and whether to signal a result. What is not listed in a handler is left to
its last case, where nothing is done.

What several handlers do in the same words comes first. `fall` is a case that is not handled.
-/

namespace QCamera

/-! ## What the handlers share -/

/-- The end of most cases: a result of the default type is signalled. -/
def reply (evt : SmEvt) (rc : Status) : Proc Status := do
  signalAPIResult ⟨rc, evt, .default⟩
  pure rc

def refuse (evt : SmEvt) : Proc Status := reply evt .invalidOperation

def replyFlag (evt : SmEvt) (enabled : BitVec 32) : Proc Status := do
  signalAPIResult ⟨.noError, evt, .enableFlag enabled⟩
  pure .noError

/-- The end of an event that is waited for with `processSyncEvt`. -/
def replyEvt (evt : SmEvt) (rc : Status) : Proc Status := do
  signalEvtResult ⟨rc, evt, .default⟩
  pure rc

def fall : Proc Status := pure .noError

def replyCall (p : Parent) (evt : SmEvt) (op : ParentOp) : Proc Status := do
  let rc ← call p op
  reply evt rc

/-- An operation that waits for the initialization of the parameters. -/
def afterParamInit (p : Parent) (op : ParentOp) : Proc Status := do
  let rc ← call p .waitDeferredWork
  if rc ≠ .noError then pure rc else call p op

/-- The status of an operation that waits for the parameters is the result. -/
def replyInit (p : Parent) (evt : SmEvt) (op : ParentOp) : Proc Status := do
  let rc ← afterParamInit p op
  reply evt rc

/-- `QCAMERA_SM_EVT_MSG_TYPE_ENABLED`. -/
def replyMsgTypeEnabled (evt : SmEvt) (msgs : BitVec 32) : Proc Status := do
  let enabled ← msgTypeEnabled msgs
  replyFlag evt enabled

/-- `QCAMERA_SM_EVT_GET_PARAMS`. -/
def replyParams (evt : SmEvt) (params : Bool) : Proc Status := do
  let rc := if params then .noError else .unknownError
  signalAPIResult ⟨rc, evt, .params params⟩
  pure rc

/-- `QCAMERA_SM_EVT_GET_PARAMS`, when the parameters have been initialized. -/
def getParams (p : Parent) (evt : SmEvt) : Proc Status := do
  let params ← ask p .getParameters
  replyParams evt params

def regFaceImage (p : Parent) (evt : SmEvt) : Proc Status := do
  let rc ← call p .registerFaceImage
  let (faceID, _) ← outArgs p .registerFaceImage
  signalAPIResult ⟨rc, evt, .handle faceID⟩
  pure rc

/-- `QCAMERA_SM_EVT_SET_PARAMS_RESTART`, where no preview is restarted. -/
def clearNeedRestart (p : Parent) (evt : SmEvt) : Proc Status := do
  perform p (.setNeedRestart false)
  reply evt .noError

/-- `QCAMERA_SM_EVT_SET_PARAMS` during a recording. -/
def setParamsRecording (p : Parent) (evt : SmEvt) : Proc Status := do
  let rc ← call p .updateParameters
  let (needRestart, _) ← outArgs p .updateParameters
  let rc := if rc = .noError ∧ needRestart ≠ 0 then .badValue else rc
  if rc ≠ .noError then perform p (.setNeedRestart false)
  reply evt rc

/-- `CAM_EVENT_TYPE_DAEMON_DIED`, where nobody waits for an answer. -/
def notifyDaemonDied (p : Parent) : Proc Status := do
  perform p .sendEvtNotify
  pure .noError

/-- `CAM_EVENT_TYPE_DAEMON_DIED`, where somebody may wait for an answer. -/
def answerDaemonDied (p : Parent) : Proc Status := do
  signalAPIResult ⟨.noError, .prepareSnapshot, .default⟩
  signalAPIResult ⟨.noError, .takePicture, .default⟩
  notifyDaemonDied p

def cacDone (p : Parent) : Proc Status := do
  let cac ← if ← ask p .isCACEnabled then pure true else ask p .isOEMFeatEnabled
  if cac then
    let quiet ← if ← ask p .isLongshotEnabled then ask p .isCaptureShutterEnabled else pure true
    if !quiet then perform p .playShutter
    perform p .setCACDoneReceived
  pure .noError

/-- What the parent does for an internal event. -/
def InternalEvt.op : InternalEvt → Option ParentOp
  | .focusUpdate => some .processAutoFocusEvent
  | .faceDetectResult => some .processFaceDetectionResult
  | .histogramStats => some .processHistogramStats
  | .cropInfo => some .processZoomEvent
  | .asdUpdate => some .processASDUpdate
  | .ledModeOverride => some .updateFlashMode
  | .awbUpdate => some .transAwbMetaToParams
  | .aeUpdate => some .processAEInfo
  | .focusPosUpdate => some .processFocusPositionInfo
  | .hdrUpdate => some .processHDRData
  | .retroAecUnlock => some .processRetroAECUnlock
  | .zslCaptureDone => some .processZSLCaptureDone
  | .prepSnapshotDone | .readyForSnapshot => none

def processInternal (p : Parent) (t : InternalEvt) : Proc Status :=
  match t.op with
  | some op => call p op
  | none => fall

/-- `QCAMERA_SM_EVT_EVT_NOTIFY`, where nobody waits for an answer. -/
def evtNotify (p : Parent) : ServerEvt → Proc Status
  | .daemonDied => notifyDaemonDied p
  | _ => fall

/-- `QCAMERA_SM_EVT_EVT_NOTIFY` during a capture. -/
def evtNotifyCapture (p : Parent) : ServerEvt → Proc Status
  | .daemonDied => answerDaemonDied p
  | .cacDone => cacDone p
  | _ => fall

/-- `QCAMERA_SM_EVT_EVT_INTERNAL` during a recording. -/
def evtInternalRecording (p : Parent) : InternalEvt → Proc Status
  | .prepSnapshotDone | .readyForSnapshot | .ledModeOverride => fall
  | t => processInternal p t

/-- `isZSLMode() || isLongshotEnabled()`. -/
def isZslOrLongshot (p : Parent) : Proc Bool := do
  if ← ask p .isZSLMode then pure true else ask p .isLongshotEnabled

/-- The preview is started after a preparation, and what has been prepared is taken back if that
fails. -/
def startOrUnprepare (p : Parent) : Proc Status := do
  let rc ← call p .startPreview
  if rc ≠ .noError then perform p .unpreparePreview
  pure rc

def restartPreview (p : Parent) : Proc Status := do
  let rc ← call p .preparePreview
  if rc = .noError then startOrUnprepare p else pure rc

/-- The preview is prepared and started, and the messages that have been delayed are enabled in
between. -/
def restartPreviewDelayed (p : Parent) : Proc Status := do
  let rc ← call p .preparePreview
  if rc = .noError then
    let _ ← applyDelayedMsgs p
    startOrUnprepare p
  else pure rc

def restartStopPreview (p : Parent) (evt : SmEvt) : Proc Status := do
  perform p .stopPreview
  reply evt .noError

def restartStartPreview (p : Parent) (evt : SmEvt) : Proc Status := do
  let rc ← call p .preparePreview
  let rc ← if rc = .noError then call p .startPreview else pure rc
  reply evt rc

/-! ## `QCAMERA_SM_STATE_PREVIEW_STOPPED` -/

/-- The preview is started after a preparation, and the state follows it. -/
def startFromStopped (p : Parent) : Proc Status := do
  let _ ← applyDelayedMsgs p
  let rc ← call p .startPreview
  if rc ≠ .noError then perform p .unpreparePreview else setState .previewing
  pure rc

/-- `QCAMERA_SM_EVT_EVT_INTERNAL`. -/
def evtInternalStopped (p : Parent) : InternalEvt → Proc Status
  | .ledModeOverride => afterParamInit p .updateFlashMode
  | _ => fall

def procEvtPreviewStoppedState (p : Parent) (evt : SmEvt) (payload : Payload) : Proc Status :=
  match evt with
  | .setPreviewWindow => replyCall p evt .setPreviewWindow
  | .setCallbacks => replyCall p evt .setCallBacks
  | .enableMsgType => replyInit p evt (.enableMsgType payload.msgs)
  | .disableMsgType => replyInit p evt (.disableMsgType payload.msgs)
  | .msgTypeEnabled => replyMsgTypeEnabled evt payload.msgs
  | .setParams => replyInit p evt .updateParameters
  | .setParamsStop => do
    perform p .memoryPoolClear
    reply evt .noError
  | .setParamsCommit => replyCall p evt .commitParameterChanges
  | .setParamsRestart => clearNeedRestart p evt
  | .getParams => do
    let rc ← call p .waitDeferredWork
    let params ← if rc ≠ .noError then ask p .mallocParams else ask p .getParameters
    replyParams evt params
  | .putParams => replyCall p evt .putParameters
  | .preparePreview => do
    let rc ← afterParamInit p .preparePreview
    if rc = .noError then setState .previewReady
    reply evt rc
  | .startPreview => do
    let rc ← call p .waitDeferredWork
    let rc ←
      if rc ≠ .noError then pure rc
      else do
        if ← ask p .previewWindow then
          let rc ← call p .preparePreview
          if rc = .noError then startFromStopped p else pure rc
        else
          -- the preview window is not set yet
          let rc ← call p .preparePreview
          if rc = .noError then setState .previewReady
          pure rc
    reply evt rc
  | .startNodisplayPreview => do
    let rc ← afterParamInit p .preparePreview
    let rc ← if rc = .noError then startFromStopped p else pure rc
    reply evt rc
  | .stopPreview => reply evt .noError
  | .previewEnabled | .recordingEnabled => replyFlag evt 0
  | .release => replyCall p evt .release
  | .storeMetadataInBufs => replyCall p evt .storeMetaDataInBuffers
  | .dump => replyInit p evt .dump
  | .sendCommand => replyInit p evt (.sendCommand payload.cmd)
  | .releaseRecoridngFrame => do
    perform p .closeNativeHandle
    -- the source goes on with the next case
    refuse evt
  | .preStartRecording | .restartStopPreview | .restartStartPreview | .startRecording
  | .stopRecording | .prepareSnapshot | .preTakePicture | .takePicture => refuse evt
  | .startAutoFocus | .cancelPicture => reply evt .noError
  | .stopAutoFocus => replyInit p evt .cancelAutoFocus
  | .regFaceImage => regFaceImage p evt
  | .thermalNotify => afterParamInit p .updateThermalLevel
  | .evtNotify => evtNotify p payload.serverEvt
  | .snapshotDone => replyEvt evt .noError
  | .evtInternal => evtInternalStopped p payload.internalEvt
  | _ => fall

/-! ## `QCAMERA_SM_STATE_PREVIEW_READY` -/

/-- The preview that has been prepared is started, and the state follows it. -/
def startFromReady (p : Parent) : Proc Status := do
  let rc ← call p .startPreview
  if rc ≠ .noError then
    perform p .unpreparePreview
    setState .previewStopped
  else setState .previewing
  pure rc

/-- `QCAMERA_SM_EVT_EVT_INTERNAL`. -/
def evtInternalReady (p : Parent) : InternalEvt → Proc Status
  | .ledModeOverride => call p .updateFlashMode
  | _ => fall

def procEvtPreviewReadyState (p : Parent) (evt : SmEvt) (payload : Payload) : Proc Status :=
  match evt with
  | .setPreviewWindow => do
    perform p .setPreviewWindow
    let rc ←
      if ← ask p .previewWindow then do
        let _ ← applyDelayedMsgs p
        startFromReady p
      else pure .noError
    reply evt rc
  | .setCallbacks => replyCall p evt .setCallBacks
  | .enableMsgType => replyCall p evt (.enableMsgType payload.msgs)
  | .disableMsgType => replyCall p evt (.disableMsgType payload.msgs)
  | .msgTypeEnabled => replyMsgTypeEnabled evt payload.msgs
  | .setParams => replyCall p evt .updateParameters
  | .setParamsStop => do
    perform p .unpreparePreview
    perform p .memoryPoolClear
    reply evt .noError
  | .setParamsCommit => replyCall p evt .commitParameterChanges
  | .setParamsRestart => do
    let rc ← call p .preparePreview
    if rc ≠ .noError then setState .previewStopped
    perform p (.setNeedRestart false)
    reply evt rc
  | .getParams => getParams p evt
  | .putParams => replyCall p evt .putParameters
  | .preparePreview => reply evt .noError
  | .startNodisplayPreview => do
    let _ ← startFromReady p
    reply evt .noError
  | .startPreview => do
    if ← ask p .previewWindow then
      let _ ← startFromReady p
    reply evt .noError
  | .stopPreview => do
    perform p .unpreparePreview
    setState .previewStopped
    reply evt .noError
  | .previewEnabled => replyFlag evt 1
  | .recordingEnabled => replyFlag evt 0
  | .storeMetadataInBufs => replyCall p evt .storeMetaDataInBuffers
  | .dump => replyCall p evt .dump
  | .startAutoFocus => replyCall p evt .autoFocus
  | .stopAutoFocus => replyCall p evt .cancelAutoFocus
  | .sendCommand => replyCall p evt (.sendCommand payload.cmd)
  | .regFaceImage => regFaceImage p evt
  | .releaseRecoridngFrame => do
    perform p .closeNativeHandle
    refuse evt
  | .preStartRecording | .restartStopPreview | .restartStartPreview | .startRecording
  | .stopRecording | .prepareSnapshot | .preTakePicture | .takePicture | .cancelPicture
  | .release => refuse evt
  | .evtNotify => evtNotify p payload.serverEvt
  | .snapshotDone => replyEvt evt .noError
  | .evtInternal => evtInternalReady p payload.internalEvt
  | _ => fall

/-! ## `QCAMERA_SM_STATE_PREVIEWING` -/

/-- `QCAMERA_SM_EVT_ENABLE_MSG_TYPE`: preview frames may have to wait. -/
def enableMsgTypePreviewing (b : Build) (p : Parent) (evt : SmEvt) (msgs : BitVec 32) :
    Proc Status := do
  let s ← get
  if s.mBDelayPreviewMsgs && msgs &&& b.msgPreviewFrame ≠ 0 then
    modify fun s => { s with mDelayedMsgs := b.msgPreviewFrame }
    replyCall p evt (.enableMsgType (msgs &&& ~~~b.msgPreviewFrame))
  else replyCall p evt (.enableMsgType msgs)

/-- `QCAMERA_SM_EVT_DISABLE_MSG_TYPE`. -/
def disableMsgTypePreviewing (p : Parent) (evt : SmEvt) (msgs : BitVec 32) : Proc Status := do
  let s ← get
  if s.mBDelayPreviewMsgs && s.mDelayedMsgs ≠ 0 then
    let delayed := s.mDelayedMsgs &&& ~~~msgs
    modify fun s => { s with
      mDelayedMsgs := delayed
      mBDelayPreviewMsgs := if delayed = 0 then false else s.mBDelayPreviewMsgs }
  replyCall p evt (.disableMsgType msgs)

/-- `QCAMERA_SM_EVT_MSG_TYPE_ENABLED`. -/
def msgTypeEnabledPreviewing (evt : SmEvt) (msgs : BitVec 32) : Proc Status := do
  let enabled ← msgTypeEnabled msgs
  let s ← get
  if s.mBDelayPreviewMsgs && s.mDelayedMsgs ≠ 0 then
    replyFlag evt (enabled ||| (msgs &&& s.mDelayedMsgs))
  else replyFlag evt enabled

/-- `QCAMERA_SM_EVT_SET_PARAMS_RESTART`: the state follows the preview if it cannot be started, not
if it cannot be prepared. -/
def setParamsRestartPreviewing (p : Parent) (evt : SmEvt) : Proc Status := do
  let rc ← call p .preparePreview
  let rc ←
    if rc = .noError then do
      let _ ← applyDelayedMsgs p
      let rc ← startOrUnprepare p
      if rc ≠ .noError then setState .previewStopped
      pure rc
    else pure rc
  perform p (.setNeedRestart false)
  reply evt rc

/-- `QCAMERA_SM_EVT_PREPARE_SNAPSHOT`: the result waits for the snapshot to be prepared. -/
def prepareSnapshotPreviewing (p : Parent) (evt : SmEvt) : Proc Status := do
  let rc ← call p .prepareHardwareForSnapshot
  if rc = .noError then
    setState .prepareSnapshot
    let _ ← applyDelayedMsgs p
    pure rc
  else reply evt rc

/-- The preview is restarted for a picture if it has been set up for a recording. -/
def restartForPicture (p : Parent) : Proc Unit := do
  if ← ask p .getRecordingHintValue then
    perform p .stopPreview
    perform p (.updateRecordingHintValue false)
    let _ ← restartPreview p

/-- The preview goes on or is stopped during a capture with ZSL or in longshot mode. -/
def enterZslCapture (p : Parent) : Proc Unit := do
  let stop ←
    if ← ask p .isPreviewRestartEnabled then ask p .isManualCaptureType3 else pure false
  if stop then
    perform p .stopPreview
    perform p (.updateZSLModeValue false)
    modify fun s => { s with mRestoreZSL := true, mBDelayPreviewMsgs := true }
    setState .picTaking
  else
    setState .previewPicTaking
    modify fun s => { s with mBDelayPreviewMsgs := true }

/-- `QCAMERA_SM_EVT_TAKE_PICTURE`, with ZSL or in longshot mode: the result of a retro picture waits
for its frames. -/
def takePictureZsl (p : Parent) (evt : SmEvt) : Proc Status := do
  enterZslCapture p
  let rc ← takePicture p
  if rc ≠ .noError then
    perform p .unconfigureAdvancedCapture
    setState .previewing
  let retro ← ask p .isRetroPicture
  if !retro ∨ rc ≠ .noError then reply evt rc else pure rc

/-- After a capture that failed, the preview is restarted, and the state follows it. -/
def recoverPreview (p : Parent) : Proc Unit := do
  perform p .unconfigureAdvancedCapture
  perform p .stopPreview
  let rc ← restartPreview p
  setState (if rc = .noError then .previewing else .previewStopped)

/-- `QCAMERA_SM_EVT_TAKE_PICTURE`, without ZSL. -/
def takePictureRegular (p : Parent) (evt : SmEvt) : Proc Status := do
  setState .picTaking
  let rc ← takePicture p
  if rc ≠ .noError then recoverPreview p
  reply evt rc

/-- `QCAMERA_SM_EVT_SEND_COMMAND`: a longshot may need more buffers, and so a restart, which the
restart of another camera may delay. -/
def sendCommandPreviewing (b : Build) (p : Parent) (evt : SmEvt) (cmd : CameraCmd) :
    Proc Status := do
  let rc ← call p (.sendCommand cmd)
  let (arg1, arg2) ← outArgs p (.sendCommand cmd)
  let needsRestart : Bool := arg1 = SmEvt.restartPerview.value
  let delayedRestart : Bool := arg2 = SmEvt.delayedRestart.value
  modify fun s => { s with
    mBPreviewNeedsRestart := needsRestart, mBPreviewDelayedRestart := delayedRestart }
  let rc ←
    if !b.vanillaHal ∧ cmd = .longshotOn ∧ needsRestart then do
      perform p .stopPreview
      perform p .memoryPoolClear
      if delayedRestart then pure rc else restartPreviewDelayed p
    else pure rc
  reply evt rc

def sendCommandRestart (b : Build) (p : Parent) (evt : SmEvt) (cmd : CameraCmd) :
    Proc Status := do
  let s ← get
  let rc ←
    if !b.vanillaHal ∧ cmd = .longshotOn ∧ s.mBPreviewNeedsRestart ∧ s.mBPreviewDelayedRestart then
      restartPreview p
    else pure .noError
  reply evt rc

/-- `QCAMERA_SM_EVT_EVT_INTERNAL`. -/
def evtInternalPreviewing (p : Parent) : InternalEvt → Proc Status
  | .prepSnapshotDone | .readyForSnapshot => fall
  | t => processInternal p t

def procEvtPreviewingState (b : Build) (p : Parent) (evt : SmEvt) (payload : Payload) :
    Proc Status :=
  match evt with
  | .setPreviewWindow => refuse evt
  | .setCallbacks => replyCall p evt .setCallBacks
  | .enableMsgType => enableMsgTypePreviewing b p evt payload.msgs
  | .disableMsgType => disableMsgTypePreviewing p evt payload.msgs
  | .msgTypeEnabled => msgTypeEnabledPreviewing evt payload.msgs
  | .setParams => replyCall p evt .updateParameters
  | .setParamsStop => do
    let rc ← call p .stopPreview
    perform p .memoryPoolClear
    reply evt rc
  | .setParamsCommit => replyCall p evt .commitParameterChanges
  | .setParamsRestart => setParamsRestartPreviewing p evt
  | .getParams => getParams p evt
  | .putParams => replyCall p evt .putParameters
  | .preparePreview => reply evt .noError
  | .startPreview | .startNodisplayPreview => do
    let _ ← applyDelayedMsgs p
    reply evt .noError
  | .stopPreview => do
    let rc ← call p .stopPreview
    let _ ← applyDelayedMsgs p
    setState .previewStopped
    reply evt rc
  | .previewEnabled => do
    let _ ← applyDelayedMsgs p
    replyFlag evt 1
  | .recordingEnabled => replyFlag evt 0
  | .storeMetadataInBufs => replyCall p evt .storeMetaDataInBuffers
  | .dump => replyCall p evt .dump
  | .startAutoFocus => replyCall p evt .autoFocus
  | .stopAutoFocus => replyCall p evt .cancelAutoFocus
  | .preStartRecording => do
    let rc ← preStartRecording p
    reply evt rc
  | .startRecording => do
    let rc ← call p .startRecording
    if rc = .noError then
      setState .recording
      let _ ← applyDelayedMsgs p
    reply evt rc
  | .prepareSnapshot => prepareSnapshotPreviewing p evt
  | .preTakePicture => do
    let rc ← preTakePicture p
    reply evt rc
  | .takePicture => do
    restartForPicture p
    if ← isZslOrLongshot p then takePictureZsl p evt else takePictureRegular p evt
  | .sendCommand => sendCommandPreviewing b p evt payload.cmd
  | .sendCommandRestart => sendCommandRestart b p evt payload.cmd
  | .regFaceImage => regFaceImage p evt
  | .releaseRecoridngFrame => do
    perform p .closeNativeHandle
    refuse evt
  | .cancelPicture | .stopRecording | .release => refuse evt
  | .evtInternal => evtInternalPreviewing p payload.internalEvt
  | .evtNotify => evtNotify p payload.serverEvt
  | .thermalNotify => call p .updateThermalLevel
  | .snapshotDone => replyEvt evt .noError
  | .restartStopPreview => restartStopPreview p evt
  | .restartStartPreview => restartStartPreview p evt
  | _ => fall

/-! ## `QCAMERA_SM_STATE_PREPARE_SNAPSHOT` -/

/-- `QCAMERA_INTERNAL_EVT_PREP_SNAPSHOT_DONE`: the snapshot has been prepared. -/
def answerPrepareSnapshot (p : Parent) : Proc Status := do
  perform p .processPrepSnapshotDoneEvent
  setState .previewing
  signalAPIResult ⟨.noError, .prepareSnapshot, .default⟩
  pure .noError

/-- `QCAMERA_SM_EVT_EVT_INTERNAL`. -/
def evtInternalPrepareSnapshot (p : Parent) : InternalEvt → Proc Status
  | .prepSnapshotDone => answerPrepareSnapshot p
  | .readyForSnapshot | .ledModeOverride => fall
  | t => processInternal p t

/-- `QCAMERA_SM_EVT_EVT_NOTIFY`. -/
def evtNotifyPrepareSnapshot (p : Parent) : ServerEvt → Proc Status
  | .daemonDied => answerDaemonDied p
  | _ => fall

def procEvtPrepareSnapshotState (p : Parent) (evt : SmEvt) (payload : Payload) : Proc Status :=
  match evt with
  | .setPreviewWindow | .setCallbacks | .enableMsgType | .disableMsgType | .msgTypeEnabled
  | .setParams | .setParamsStop | .setParamsCommit | .setParamsRestart | .getParams | .putParams
  | .preparePreview | .startPreview | .startNodisplayPreview | .stopPreview | .previewEnabled
  | .recordingEnabled | .storeMetadataInBufs | .dump | .startAutoFocus | .stopAutoFocus
  | .preStartRecording | .restartStopPreview | .restartStartPreview | .startRecording
  | .preTakePicture | .takePicture | .prepareSnapshot | .sendCommand | .cancelPicture
  | .stopRecording | .releaseRecoridngFrame | .release => refuse evt
  | .evtInternal => evtInternalPrepareSnapshot p payload.internalEvt
  | .evtNotify => evtNotifyPrepareSnapshot p payload.serverEvt
  | .snapshotDone => replyEvt evt .noError
  | .thermalNotify => call p .updateThermalLevel
  | _ => fall

/-! ## `QCAMERA_SM_STATE_PIC_TAKING` -/

def cancelPictureStopped (p : Parent) (evt : SmEvt) : Proc Status := do
  let rc ← call p .cancelPicture
  setState .previewStopped
  reply evt rc

/-- `QCAMERA_SM_EVT_SEND_COMMAND` during a capture: the end of a longshot ends the capture. -/
def sendCommandCapture (b : Build) (p : Parent) (evt : SmEvt) (cmd : CameraCmd) :
    Proc Status := do
  let rc ← call p (.sendCommand cmd)
  if !b.vanillaHal ∧ cmd = .longshotOff then setState .previewing
  reply evt rc

/-- `QCAMERA_SM_EVT_PRE_TAKE_PICTURE` during a capture. -/
def preTakePictureCapture (p : Parent) (evt : SmEvt) : Proc Status := do
  if ← ask p .isLongshotEnabled then reply evt .noError else refuse evt

/-- `QCAMERA_SM_EVT_TAKE_PICTURE` during a capture. -/
def takePictureCapture (p : Parent) (evt : SmEvt) : Proc Status := do
  if ← ask p .isLongshotEnabled then replyCall p evt .longShot else refuse evt

/-- The preview is prepared and started while a picture is taken. -/
def restartEarly (p : Parent) : Proc Status := do
  let rc ← call p .preparePreview
  if rc = .noError then
    perform p .setPreviewStarted
    let _ ← applyDelayedMsgs p
    call p .startPreview
  else pure rc

def stopCaptureChannel (p : Parent) (evt : SmEvt) : Proc Status := do
  let restart ← ask p .isPreviewRestartEnabled
  let rc ← call p (.stopCaptureChannel restart)
  let rc ←
    if restart ∧ rc = .noError then do
      perform p .unconfigureAdvancedCapture
      restartEarly p
    else pure rc
  reply evt rc

/-- `QCAMERA_SM_EVT_SNAPSHOT_DONE`: the preview is restarted if it is to be, and has been stopped
for a manual capture. -/
def snapshotDonePicTaking (p : Parent) (evt : SmEvt) : Proc Status := do
  let rc ← call p .cancelPicture
  if ← ask p .isPreviewRestartEnabled then
    let rc ←
      if ← ask p .isManualCaptureType3 then do
        let s ← get
        perform p (.updateZSLModeValue s.mRestoreZSL)
        modify fun s => { s with mRestoreZSL := false }
        restartEarly p
      else pure rc
    setState .previewing
    replyEvt evt rc
  else
    setState .previewStopped
    replyEvt evt rc

/-- `QCAMERA_SM_EVT_EVT_INTERNAL`. -/
def evtInternalPicTaking (p : Parent) : InternalEvt → Proc Status
  | .prepSnapshotDone | .readyForSnapshot | .faceDetectResult | .histogramStats
  | .ledModeOverride => fall
  | t => processInternal p t

def procEvtPicTakingState (b : Build) (p : Parent) (evt : SmEvt) (payload : Payload) :
    Proc Status :=
  match evt with
  | .setPreviewWindow => refuse evt
  | .setCallbacks => replyCall p evt .setCallBacks
  | .enableMsgType => replyCall p evt (.enableMsgType payload.msgs)
  | .disableMsgType => replyCall p evt (.disableMsgType payload.msgs)
  | .msgTypeEnabled => replyMsgTypeEnabled evt payload.msgs
  | .setParams => replyCall p evt .updateParameters
  | .setParamsStop => reply evt .noError
  | .setParamsCommit => replyCall p evt .commitParameterChanges
  | .setParamsRestart => clearNeedRestart p evt
  | .getParams => getParams p evt
  | .putParams => replyCall p evt .putParameters
  | .stopPreview => cancelPictureStopped p evt
  | .previewEnabled => replyFlag evt 0
  | .recordingEnabled => replyFlag evt 0
  | .storeMetadataInBufs => replyCall p evt .storeMetaDataInBuffers
  | .dump => replyCall p evt .dump
  | .startAutoFocus => replyCall p evt .autoFocus
  | .stopAutoFocus => replyCall p evt .cancelAutoFocus
  | .sendCommand => sendCommandCapture b p evt payload.cmd
  | .cancelPicture => cancelPictureStopped p evt
  | .regFaceImage => regFaceImage p evt
  | .preTakePicture => preTakePictureCapture p evt
  | .takePicture => takePictureCapture p evt
  | .prepareSnapshot | .preStartRecording | .restartStopPreview | .restartStartPreview
  | .startRecording | .stopRecording | .releaseRecoridngFrame | .preparePreview | .startPreview
  | .startNodisplayPreview | .release => refuse evt
  | .evtInternal => evtInternalPicTaking p payload.internalEvt
  | .evtNotify => evtNotifyCapture p payload.serverEvt
  | .jpegEvtNotify => call p .processJpegNotify
  | .stopCaptureChannel => stopCaptureChannel p evt
  | .snapshotDone => snapshotDonePicTaking p evt
  | .thermalNotify => call p .updateThermalLevel
  | _ => fall

/-! ## `QCAMERA_SM_STATE_RECORDING` -/

/-- `QCAMERA_SM_EVT_TAKE_PICTURE` during a recording. -/
def takeLiveSnapshot (p : Parent) (evt : SmEvt) : Proc Status := do
  setState .videoPicTaking
  let rc ← call p .takeLiveSnapshot
  if rc ≠ .noError then
    perform p .unconfigureAdvancedCapture
    setState .recording
  reply evt rc

def procEvtRecordingState (p : Parent) (evt : SmEvt) (payload : Payload) : Proc Status :=
  match evt with
  | .preparePreview | .startPreview | .setPreviewWindow => reply evt .noError
  | .setCallbacks => replyCall p evt .setCallBacks
  | .enableMsgType => replyCall p evt (.enableMsgType payload.msgs)
  | .disableMsgType => replyCall p evt (.disableMsgType payload.msgs)
  | .msgTypeEnabled => replyMsgTypeEnabled evt payload.msgs
  | .setParams => setParamsRecording p evt
  | .setParamsCommit => replyCall p evt .commitParameterChanges
  | .setParamsStop | .setParamsRestart => refuse evt
  | .getParams => getParams p evt
  | .putParams => replyCall p evt .putParameters
  | .previewEnabled => replyFlag evt 0
  | .recordingEnabled => replyFlag evt 1
  | .storeMetadataInBufs => replyCall p evt .storeMetaDataInBuffers
  | .dump => replyCall p evt .dump
  | .startAutoFocus => replyCall p evt .autoFocus
  | .stopAutoFocus => replyCall p evt .cancelAutoFocus
  | .sendCommand => replyCall p evt (.sendCommand payload.cmd)
  | .preTakePicture => reply evt .noError
  | .takePicture => takeLiveSnapshot p evt
  | .preStartRecording | .restartStopPreview | .restartStartPreview | .startRecording =>
    reply evt .noError
  | .stopRecording => do
    let rc ← call p .stopRecording
    setState .previewing
    reply evt rc
  | .stopPreview => do
    perform p .stopRecording
    setState .previewing
    let rc ← call p .stopPreview
    setState .previewStopped
    reply evt rc
  | .releaseRecoridngFrame => replyCall p evt .releaseRecordingFrame
  | .regFaceImage => regFaceImage p evt
  | .prepareSnapshot => reply evt .noError
  | .cancelPicture | .startNodisplayPreview | .release => refuse evt
  | .evtInternal => evtInternalRecording p payload.internalEvt
  | .evtNotify => evtNotify p payload.serverEvt
  | .thermalNotify => call p .updateThermalLevel
  | .snapshotDone => replyEvt evt .noError
  | _ => fall

/-! ## `QCAMERA_SM_STATE_VIDEO_PIC_TAKING` -/

def procEvtVideoPicTakingState (p : Parent) (evt : SmEvt) (payload : Payload) : Proc Status :=
  match evt with
  | .setPreviewWindow => refuse evt
  | .setCallbacks => replyCall p evt .setCallBacks
  | .enableMsgType => replyCall p evt (.enableMsgType payload.msgs)
  | .disableMsgType => replyCall p evt (.disableMsgType payload.msgs)
  | .msgTypeEnabled => replyMsgTypeEnabled evt payload.msgs
  | .setParams => setParamsRecording p evt
  | .setParamsCommit => replyCall p evt .commitParameterChanges
  | .setParamsStop | .setParamsRestart => refuse evt
  | .getParams => getParams p evt
  | .putParams => replyCall p evt .putParameters
  | .previewEnabled => replyFlag evt 1
  | .recordingEnabled => replyFlag evt 1
  | .storeMetadataInBufs => replyCall p evt .storeMetaDataInBuffers
  | .dump => replyCall p evt .dump
  | .startAutoFocus => replyCall p evt .autoFocus
  | .stopAutoFocus => replyCall p evt .cancelAutoFocus
  | .sendCommand => replyCall p evt (.sendCommand payload.cmd)
  | .stopRecording => do
    perform p .cancelLiveSnapshot
    setState .recording
    let rc ← call p .stopRecording
    setState .previewing
    reply evt rc
  | .releaseRecoridngFrame => replyCall p evt .releaseRecordingFrame
  | .cancelPicture => do
    let rc ← call p .cancelLiveSnapshot
    setState .recording
    reply evt rc
  | .regFaceImage => regFaceImage p evt
  | .stopPreview => do
    perform p .cancelLiveSnapshot
    setState .recording
    perform p .stopRecording
    setState .previewing
    let rc ← call p .stopPreview
    setState .previewStopped
    reply evt rc
  | .preStartRecording | .restartStopPreview | .restartStartPreview | .startRecording
  | .preparePreview | .startPreview | .startNodisplayPreview | .prepareSnapshot | .preTakePicture
  | .takePicture | .release => refuse evt
  | .evtInternal => evtInternalRecording p payload.internalEvt
  | .evtNotify => evtNotify p payload.serverEvt
  | .jpegEvtNotify => call p .processJpegNotify
  | .snapshotDone => do
    let rc ← call p .cancelLiveSnapshot
    setState .recording
    replyEvt evt rc
  | .thermalNotify => call p .updateThermalLevel
  | _ => fall

/-! ## `QCAMERA_SM_STATE_PREVIEW_PIC_TAKING` -/

/-- `QCAMERA_SM_EVT_SET_PARAMS_RESTART`: without its preview, a capture goes on as one that has
stopped it. -/
def setParamsRestartCapture (p : Parent) (evt : SmEvt) : Proc Status := do
  let rc ← restartPreviewDelayed p
  if rc ≠ .noError then setState .picTaking
  perform p (.setNeedRestart false)
  reply evt rc

def cancelCapture (p : Parent) : Proc Status := do
  if ← isZslOrLongshot p then call p .cancelPicture else call p .cancelLiveSnapshot

/-- `QCAMERA_SM_EVT_STOP_PREVIEW`. -/
def stopPreviewCapture (p : Parent) (evt : SmEvt) : Proc Status := do
  let rc ←
    if ← ask p .isZSLMode then do
      let rc ← call p .cancelPicture
      perform p (.stopChannel .zsl)
      pure rc
    else do
      if ← ask p .isLongshotEnabled then call p .cancelPicture
      else
        let rc ← call p .cancelLiveSnapshot
        perform p (.stopChannel .preview)
        pure rc
  perform p .unpreparePreview
  setState .previewStopped
  reply evt rc

/-- `QCAMERA_SM_EVT_PRE_START_RECORDING`. -/
def preStartRecordingCapture (p : Parent) (evt : SmEvt) : Proc Status := do
  if ← isZslOrLongshot p then refuse evt
  else
    let rc ← preStartRecording p
    reply evt rc

/-- `QCAMERA_SM_EVT_START_RECORDING`. -/
def startRecordingCapture (p : Parent) (evt : SmEvt) : Proc Status := do
  if ← isZslOrLongshot p then refuse evt
  else
    let rc ← call p .startRecording
    if rc = .noError then setState .videoPicTaking
    reply evt rc

/-- `QCAMERA_SM_EVT_PREPARE_SNAPSHOT`: for a retro picture, the result waits for the snapshot to be
prepared. -/
def prepareSnapshotCapture (p : Parent) (evt : SmEvt) : Proc Status := do
  if ← ask p .isRetroPicture then
    let rc ← call p .prepareHardwareForSnapshot
    if rc ≠ .noError then reply evt rc else pure rc
  else refuse evt

/-- `QCAMERA_INTERNAL_EVT_PREP_SNAPSHOT_DONE`. -/
def answerPrepareSnapshotRetro (p : Parent) : Proc Status := do
  if ← ask p .isRetroPicture then
    perform p .processPrepSnapshotDoneEvent
    signalAPIResult ⟨.noError, .prepareSnapshot, .default⟩
  pure .noError

/-- `QCAMERA_INTERNAL_EVT_READY_FOR_SNAPSHOT`. -/
def answerTakePictureRetro (p : Parent) : Proc Status := do
  if ← ask p .isRetroPicture then signalAPIResult ⟨.noError, .takePicture, .default⟩
  pure .noError

/-- `QCAMERA_SM_EVT_SNAPSHOT_DONE`: for a retro picture, a result of an API is signalled, too. -/
def snapshotDoneCapture (p : Parent) (evt : SmEvt) : Proc Status := do
  let rc ← cancelCapture p
  setState .previewing
  if ← ask p .isRetroPicture then signalAPIResult ⟨rc, evt, .default⟩
  replyEvt evt rc

/-- `QCAMERA_SM_EVT_EVT_INTERNAL`. -/
def evtInternalCapture (p : Parent) : InternalEvt → Proc Status
  | .prepSnapshotDone => answerPrepareSnapshotRetro p
  | .readyForSnapshot => answerTakePictureRetro p
  | .ledModeOverride => fall
  | t => processInternal p t

def procEvtPreviewPicTakingState (b : Build) (p : Parent) (evt : SmEvt) (payload : Payload) :
    Proc Status :=
  match evt with
  | .setCallbacks => replyCall p evt .setCallBacks
  | .enableMsgType => replyCall p evt (.enableMsgType payload.msgs)
  | .disableMsgType => replyCall p evt (.disableMsgType payload.msgs)
  | .msgTypeEnabled => replyMsgTypeEnabled evt payload.msgs
  | .setParams => replyCall p evt .updateParameters
  | .setParamsStop => do
    let rc ← call p .stopPreview
    perform p .memoryPoolClear
    reply evt rc
  | .setParamsCommit => replyCall p evt .commitParameterChanges
  | .setParamsRestart => setParamsRestartCapture p evt
  | .getParams => getParams p evt
  | .putParams => replyCall p evt .putParameters
  | .previewEnabled => replyFlag evt 1
  | .recordingEnabled => replyFlag evt 0
  | .storeMetadataInBufs => replyCall p evt .storeMetaDataInBuffers
  | .dump => replyCall p evt .dump
  | .startAutoFocus => replyCall p evt .autoFocus
  | .stopAutoFocus => replyCall p evt .cancelAutoFocus
  | .sendCommand => sendCommandCapture b p evt payload.cmd
  | .releaseRecoridngFrame => replyCall p evt .releaseRecordingFrame
  | .cancelPicture => do
    let rc ← cancelCapture p
    setState .previewing
    reply evt rc
  | .stopPreview => stopPreviewCapture p evt
  | .preStartRecording => preStartRecordingCapture p evt
  | .startRecording => startRecordingCapture p evt
  | .regFaceImage => regFaceImage p evt
  | .preTakePicture => preTakePictureCapture p evt
  | .takePicture => takePictureCapture p evt
  | .prepareSnapshot => prepareSnapshotCapture p evt
  | .stopRecording | .preparePreview | .startPreview | .startNodisplayPreview | .setPreviewWindow
  | .release => refuse evt
  | .evtInternal => evtInternalCapture p payload.internalEvt
  | .evtNotify => evtNotifyCapture p payload.serverEvt
  | .jpegEvtNotify => call p .processJpegNotify
  | .snapshotDone => snapshotDoneCapture p evt
  | .thermalNotify => call p .updateThermalLevel
  | .restartStopPreview => restartStopPreview p evt
  | .restartStartPreview => restartStartPreview p evt
  | _ => fall

def stateMachine (b : Build) (p : Parent) (evt : SmEvt) (payload : Payload) : Proc Status := do
  let s ← get
  match s.mState with
  | .previewStopped => procEvtPreviewStoppedState p evt payload
  | .previewReady => procEvtPreviewReadyState p evt payload
  | .previewing => procEvtPreviewingState b p evt payload
  | .prepareSnapshot => procEvtPrepareSnapshotState p evt payload
  | .picTaking => procEvtPicTakingState b p evt payload
  | .recording => procEvtRecordingState p evt payload
  | .videoPicTaking => procEvtVideoPicTakingState p evt payload
  | .previewPicTaking => procEvtPreviewPicTakingState b p evt payload

end QCamera
