import MidoCamera.Hal1.StateMachine

/-!
# What the handlers do alike

Most events leave the state and the preview alone. An API among them ends with one result, which
carries the API, and any other event with none. The handlers list such events in their own ways;
this is shown for each of the ways, and then for each handler and every event that is not told to be
an exception.
-/

namespace QCamera

open Loop List Emitter

/-- The events that are issued with `processAPI` and whose result is waited for. -/
def SmEvt.isApi : SmEvt → Bool
  | .evtInternal | .evtNotify | .jpegEvtNotify | .snapshotDone | .thermalNotify
  | .stopCaptureChannel | .restartPerview | .delayedRestart => false
  | _ => true

def SmEvt.due (evt : SmEvt) : List SmEvt := bif evt.isApi then [evt] else []

theorem not_listed {evt : SmEvt} {l : List SmEvt} (hl : ∀ e ∈ l, e.isApi = true)
    (hevt : evt.isApi = false) : evt ∉ l := by
  intro h
  exact Bool.noConfusion (hevt.symm.trans (hl evt h))

def Machine.answers (s : Machine) : List SmEvt := s.apiResults.map ApiResult.requestApi

/-- What there is to see of the machine: its state, the preview, and the flags about a restart of
the preview. -/
structure View where
  state : SmState
  preview : Preview
  needs : Bool
  delayed : Bool
  deriving DecidableEq, Repr

def Machine.view (s : Machine) : View :=
  ⟨s.mState, s.preview, s.mBPreviewNeedsRestart, s.mBPreviewDelayedRestart⟩

/-- From the view, the program ends as the postcondition says, with the results it has signalled. -/
abbrev Does {α : Type} (c : Proc α) (w : View) (Q : α → View → List SmEvt → Prop) : Prop :=
  Leads Machine.view Machine.answers c w Q

abbrev Quiet {α : Type} (c : Proc α) : Prop := Emits Machine.view Machine.answers [] c

abbrev Plain {α : Type} (evt : SmEvt) (c : Proc α) : Prop :=
  Emits Machine.view Machine.answers [evt] c

/-- **How most events are handled.** -/
abbrev Standard (evt : SmEvt) (c : Proc Status) : Prop :=
  Emits Machine.view Machine.answers evt.due c

abbrev Silent {α : Type} (c : Proc α) : Prop := Emitter Machine.view Machine.answers [] c

abbrev Answering {α : Type} (evt : SmEvt) (c : Proc α) : Prop :=
  Emitter Machine.view Machine.answers [evt] c

def ParentOp.Inert (op : ParentOp) : Prop := ∀ rc v, op.onPreview rc v = v

set_option synthInstance.maxSize 2048

section Quiet

variable {p : Parent} {op : ParentOp}

@[reducible]
def ParentOp.isInert : ParentOp → Bool
  | .preparePreview | .startPreview | .stopPreview | .unpreparePreview => false
  | _ => true

theorem call_quiet (hop : op.Inert) : Quiet (call p op) := by
  apply Emits.intro
  intro s
  refine ⟨?_, (append_nil _).symm⟩
  exact congrArg (View.mk s.mState · _ _) (hop (p.status s.calls op) s.preview)

theorem ask_quiet : Quiet (ask p op) := .intro fun _ => ⟨rfl, (append_nil _).symm⟩

theorem get_quiet : Quiet (get : Proc Machine) := .intro fun _ => ⟨rfl, (append_nil _).symm⟩

theorem modify_quiet {g : Machine → Machine} (hv : ∀ s, (g s).view = s.view)
    (ha : ∀ s, (g s).answers = s.answers) : Quiet (modify g : Proc PUnit) :=
  .intro fun s => ⟨hv s, (ha s).trans (append_nil _).symm⟩

theorem replyEvt_quiet {evt : SmEvt} {rc : Status} : Quiet (replyEvt evt rc) :=
  .intro fun _ => ⟨rfl, (append_nil _).symm⟩

instance [hop : Fact op.isInert] : Silent (call p op) := by
  refine ⟨call_quiet ?_⟩
  cases op with
  | preparePreview | startPreview | stopPreview | unpreparePreview => cases hop.out
  | _ => exact fun _ _ => rfl

instance [Fact op.isInert] : Silent (perform p op) := Emitter.after

instance : Silent (ask p op) := ⟨ask_quiet⟩

instance : Silent (get : Proc Machine) := ⟨get_quiet⟩

instance {evt : SmEvt} {rc : Status} : Silent (replyEvt evt rc) := ⟨replyEvt_quiet⟩

instance {delaying : Machine → Bool} {delayed : Machine → BitVec 32} : Silent (modify fun s =>
    { s with
      mBDelayPreviewMsgs := delaying s
      mDelayedMsgs := delayed s } : Proc PUnit) := ⟨modify_quiet (fun _ => rfl) fun _ => rfl⟩

instance : Silent (outArgs p op) := by
  unfold outArgs
  infer_instance

instance {msgs : BitVec 32} : Silent (msgTypeEnabled msgs) := by
  unfold msgTypeEnabled
  infer_instance

instance : Silent fall := by
  unfold fall
  infer_instance

instance : Silent (applyDelayedMsgs p) := by
  unfold applyDelayedMsgs
  dsimp only
  infer_instance

instance [Fact op.isInert] : Silent (afterParamInit p op) := by
  unfold afterParamInit
  infer_instance

instance : Silent (notifyDaemonDied p) := by
  unfold notifyDaemonDied
  infer_instance

theorem notifyDaemonDied_quiet : Quiet (notifyDaemonDied p) := emits

instance {e : ServerEvt} : Silent (evtNotify p e) := by
  cases e <;> dsimp only [evtNotify] <;> infer_instance

instance : Silent (isZslOrLongshot p) := by
  unfold isZslOrLongshot
  infer_instance

instance {t : InternalEvt} : Silent (processInternal p t) := by
  cases t <;> dsimp only [processInternal, InternalEvt.op] <;> infer_instance

instance {t : InternalEvt} : Silent (evtInternalStopped p t) := by
  cases t <;> dsimp only [evtInternalStopped] <;> infer_instance

instance {t : InternalEvt} : Silent (evtInternalReady p t) := by
  cases t <;> dsimp only [evtInternalReady] <;> infer_instance

instance {t : InternalEvt} : Silent (evtInternalPreviewing p t) := by
  cases t <;> dsimp only [evtInternalPreviewing] <;> infer_instance

theorem evtInternalPrepareSnapshot_quiet {t : InternalEvt} (ht : t ≠ .prepSnapshotDone) :
    Quiet (evtInternalPrepareSnapshot p t) := by
  cases t with
  | prepSnapshotDone => exact absurd rfl ht
  | _ =>
    dsimp only [evtInternalPrepareSnapshot]
    exact emits

instance {t : InternalEvt} : Silent (evtInternalPicTaking p t) := by
  cases t <;> dsimp only [evtInternalPicTaking] <;> infer_instance

instance {t : InternalEvt} : Silent (evtInternalRecording p t) := by
  cases t <;> dsimp only [evtInternalRecording] <;> infer_instance

theorem evtInternalCapture_quiet {t : InternalEvt} (ht : t ≠ .prepSnapshotDone)
    (ht' : t ≠ .readyForSnapshot) : Quiet (evtInternalCapture p t) := by
  cases t with
  | prepSnapshotDone => exact absurd rfl ht
  | readyForSnapshot => exact absurd rfl ht'
  | _ =>
    dsimp only [evtInternalCapture]
    exact emits

instance : Silent (cacDone p) := by
  unfold cacDone
  dsimp only
  infer_instance

theorem evtNotifyPrepareSnapshot_quiet {e : ServerEvt} (he : e ≠ .daemonDied) :
    Quiet (evtNotifyPrepareSnapshot p e) := by
  cases e with
  | daemonDied => exact absurd rfl he
  | _ =>
    dsimp only [evtNotifyPrepareSnapshot]
    exact emits

theorem evtNotifyCapture_quiet {e : ServerEvt} (he : e ≠ .daemonDied) :
    Quiet (evtNotifyCapture p e) := by
  cases e with
  | daemonDied => exact absurd rfl he
  | _ =>
    dsimp only [evtNotifyCapture]
    exact emits

end Quiet

/-! ## The replies -/

section Plain

variable {p : Parent} {op : ParentOp} {evt : SmEvt}

theorem signalAPIResult_plain {rc : Status} {type : ResultType} :
    Plain evt (signalAPIResult ⟨rc, evt, type⟩) := .intro fun _ => ⟨rfl, map_append⟩

instance {rc : Status} : Answering evt (reply evt rc) :=
  ⟨signalAPIResult_plain.bind fun _ => .pure rc⟩

instance {enabled : BitVec 32} : Answering evt (replyFlag evt enabled) :=
  ⟨signalAPIResult_plain.bind fun _ => .pure _⟩

instance {params : Bool} : Answering evt (replyParams evt params) :=
  ⟨signalAPIResult_plain.bind fun _ => .pure _⟩

instance {rc : Status} {type : ResultType} : Answering evt (do
    signalAPIResult ⟨rc, evt, type⟩
    pure rc) := ⟨signalAPIResult_plain.bind fun _ => .pure rc⟩

instance : Answering evt (refuse evt) := by
  unfold refuse
  infer_instance

instance [Fact op.isInert] : Answering evt (replyCall p evt op) := by
  unfold replyCall
  infer_instance

instance [Fact op.isInert] : Answering evt (replyInit p evt op) := by
  unfold replyInit
  infer_instance

instance {msgs : BitVec 32} : Answering evt (replyMsgTypeEnabled evt msgs) := by
  unfold replyMsgTypeEnabled
  infer_instance

instance : Answering evt (getParams p evt) := by
  unfold getParams
  infer_instance

instance : Answering evt (regFaceImage p evt) := by
  unfold regFaceImage
  dsimp only
  infer_instance

instance : Answering evt (clearNeedRestart p evt) := by
  unfold clearNeedRestart
  infer_instance

instance : Answering evt (setParamsRecording p evt) := by
  unfold setParamsRecording
  infer_instance

instance {b : Build} {msgs : BitVec 32} : Answering evt (enableMsgTypePreviewing b p evt msgs) := by
  unfold enableMsgTypePreviewing
  infer_instance

instance {msgs : BitVec 32} : Answering evt (disableMsgTypePreviewing p evt msgs) := by
  unfold disableMsgTypePreviewing
  dsimp only
  infer_instance

instance {msgs : BitVec 32} : Answering evt (msgTypeEnabledPreviewing evt msgs) := by
  unfold msgTypeEnabledPreviewing
  infer_instance

instance : Answering evt (preTakePictureCapture p evt) := by
  unfold preTakePictureCapture
  infer_instance

instance : Answering evt (takePictureCapture p evt) := by
  unfold takePictureCapture
  infer_instance

end Plain

/-! ## The handlers -/

/-- The events that are not handled in the way of all others. -/
def SmState.special : SmState → List SmEvt
  | .previewStopped => [.preparePreview, .startPreview, .startNodisplayPreview, .sendCommandRestart]
  | .previewReady =>
    [.setPreviewWindow, .setParamsStop, .setParamsRestart, .startNodisplayPreview,
      .startPreview, .stopPreview, .sendCommandRestart]
  | .previewing =>
    [.setParamsStop, .setParamsRestart, .stopPreview, .preStartRecording, .startRecording,
      .prepareSnapshot, .preTakePicture, .takePicture, .sendCommand, .sendCommandRestart,
      .restartStopPreview, .restartStartPreview]
  | .prepareSnapshot => [.evtInternal, .evtNotify, .regFaceImage, .sendCommandRestart]
  | .picTaking =>
    [.stopPreview, .cancelPicture, .sendCommand, .evtNotify, .stopCaptureChannel,
      .snapshotDone, .sendCommandRestart]
  | .recording => [.takePicture, .stopRecording, .stopPreview, .sendCommandRestart]
  | .videoPicTaking =>
    [.stopRecording, .cancelPicture, .stopPreview, .snapshotDone, .sendCommandRestart]
  | .previewPicTaking =>
    [.setParamsStop, .setParamsRestart, .sendCommand, .cancelPicture, .stopPreview,
      .preStartRecording, .startRecording, .prepareSnapshot, .evtInternal, .evtNotify,
      .snapshotDone, .restartStopPreview, .restartStartPreview, .sendCommandRestart]

section Handlers

variable {b : Build} {p : Parent} {evt : SmEvt} {payload : Payload}

theorem procEvtPreviewStoppedState_standard (hevt : evt ∉ SmState.special .previewStopped) :
    Standard evt (procEvtPreviewStoppedState p evt payload) := by
  cases evt with
  | preparePreview | startPreview | startNodisplayPreview | sendCommandRestart =>
    exact absurd hevt (by decide)
  | _ =>
    dsimp only [Standard, procEvtPreviewStoppedState, SmEvt.due, SmEvt.isApi, cond]
    exact emits

theorem procEvtPreviewReadyState_standard (hevt : evt ∉ SmState.special .previewReady) :
    Standard evt (procEvtPreviewReadyState p evt payload) := by
  cases evt with
  | setPreviewWindow | setParamsStop | setParamsRestart | startNodisplayPreview | startPreview
  | stopPreview | sendCommandRestart => exact absurd hevt (by decide)
  | _ =>
    dsimp only [Standard, procEvtPreviewReadyState, SmEvt.due, SmEvt.isApi, cond]
    exact emits

theorem procEvtPreviewingState_standard (hevt : evt ∉ SmState.special .previewing) :
    Standard evt (procEvtPreviewingState b p evt payload) := by
  cases evt with
  | setParamsStop | setParamsRestart | stopPreview | preStartRecording | startRecording
  | prepareSnapshot | preTakePicture | takePicture | sendCommand | sendCommandRestart
  | restartStopPreview | restartStartPreview => exact absurd hevt (by decide)
  | _ =>
    dsimp only [Standard, procEvtPreviewingState, SmEvt.due, SmEvt.isApi, cond]
    exact emits

theorem procEvtPrepareSnapshotState_standard (hevt : evt ∉ SmState.special .prepareSnapshot) :
    Standard evt (procEvtPrepareSnapshotState p evt payload) := by
  cases evt with
  | evtInternal | evtNotify | regFaceImage | sendCommandRestart => exact absurd hevt (by decide)
  | _ =>
    dsimp only [Standard, procEvtPrepareSnapshotState, SmEvt.due, SmEvt.isApi, cond]
    exact emits

theorem procEvtPicTakingState_standard (hevt : evt ∉ SmState.special .picTaking) :
    Standard evt (procEvtPicTakingState b p evt payload) := by
  cases evt with
  | stopPreview | cancelPicture | sendCommand | evtNotify | stopCaptureChannel | snapshotDone
  | sendCommandRestart => exact absurd hevt (by decide)
  | _ =>
    dsimp only [Standard, procEvtPicTakingState, SmEvt.due, SmEvt.isApi, cond]
    exact emits

theorem procEvtRecordingState_standard (hevt : evt ∉ SmState.special .recording) :
    Standard evt (procEvtRecordingState p evt payload) := by
  cases evt with
  | takePicture | stopRecording | stopPreview | sendCommandRestart =>
    exact absurd hevt (by decide)
  | _ =>
    dsimp only [Standard, procEvtRecordingState, SmEvt.due, SmEvt.isApi, cond]
    exact emits

theorem procEvtVideoPicTakingState_standard (hevt : evt ∉ SmState.special .videoPicTaking) :
    Standard evt (procEvtVideoPicTakingState p evt payload) := by
  cases evt with
  | stopRecording | cancelPicture | stopPreview | snapshotDone | sendCommandRestart =>
    exact absurd hevt (by decide)
  | _ =>
    dsimp only [Standard, procEvtVideoPicTakingState, SmEvt.due, SmEvt.isApi, cond]
    exact emits

theorem procEvtPreviewPicTakingState_standard (hevt : evt ∉ SmState.special .previewPicTaking) :
    Standard evt (procEvtPreviewPicTakingState b p evt payload) := by
  cases evt with
  | setParamsStop | setParamsRestart | sendCommand | cancelPicture | stopPreview
  | preStartRecording | startRecording | prepareSnapshot | evtInternal | evtNotify | snapshotDone
  | restartStopPreview | restartStartPreview | sendCommandRestart =>
    exact absurd hevt (by decide)
  | _ =>
    dsimp only [Standard, procEvtPreviewPicTakingState, SmEvt.due, SmEvt.isApi, cond]
    exact emits

end Handlers

end QCamera
