import MidoCamera.Hal1.PreviewState

/-!
# The messages that are delayed

From the start of a capture with ZSL on, the callbacks of the preview frames are held back: an
application that enables them in the state `PREVIEWING` has them enabled in the parent only when the
delay is lifted, by `applyDelayedMsgs`. In the other states a request goes to the parent at once,
and what is held back is not looked at. So a request to disable the message does not take back one
that is held back, unless it is made in `PREVIEWING`.
-/

namespace QCamera

open Loop

/-! ## The messages -/

/-- The messages of the machine: whether those of the preview are delayed, what is held back, and
what is enabled in the parent. -/
structure Msgs where
  delaying : Bool
  delayed : BitVec 32
  enabled : BitVec 32
  deriving DecidableEq, Repr

def Machine.msgs (s : Machine) : Msgs := ⟨s.mBDelayPreviewMsgs, s.mDelayedMsgs, s.msgEnabled⟩

def Msgs.lift (w : Msgs) : Msgs :=
  if w.delaying then ⟨false, 0, w.enabled ||| w.delayed⟩ else w

/-- What happens to the messages without a request: the delay is lifted, or it begins. -/
inductive Msgs.Shift : Msgs → Msgs → Prop
  | lift (w : Msgs) : Shift w w.lift
  | delay (w : Msgs) : Shift w { w with delaying := true }

/-- The program changes the messages only by lifting the delay and by beginning it. -/
abbrev Spares {α : Type} (c : Proc α) : Prop := Carries Machine.msgs Msgs.Shift c

/-! ## The programs that spare them -/

set_option synthInstance.maxSize 2048

section Sparing

variable {b : Build} {p : Parent} {op : ParentOp} {evt : SmEvt} {rc : Status}

/-- `Spares`, of programs that are built of such programs. -/
abbrev Sparing {α : Type} (c : Proc α) : Prop := Carrier Machine.msgs Msgs.Shift c

@[reducible]
def ParentOp.isMute : ParentOp → Bool
  | .enableMsgType _ | .disableMsgType _ => false
  | _ => true

instance call_sparing [hop : Fact op.isMute] : Sparing (call p op) := by
  refine ⟨.keep fun s => congrArg (Msgs.mk _ _) ?_⟩
  cases op with
  | enableMsgType | disableMsgType => cases hop.out
  | _ => rfl

instance : Sparing (get : Proc Machine) := ⟨.keep fun _ => rfl⟩

instance [Fact op.isMute] : Sparing (perform p op) := Carrier.bind

instance : Sparing (ask p op) := ⟨.keep fun _ => rfl⟩

instance : Sparing (outArgs p op) := ⟨.keep fun _ => rfl⟩

instance {m : SmState} : Sparing (setState m) := ⟨.keep fun _ => rfl⟩

instance {msgs : BitVec 32} : Sparing (msgTypeEnabled msgs) := ⟨.keep fun _ => rfl⟩

instance {r : ApiResult} : Sparing (signalAPIResult r) := ⟨.keep fun _ => rfl⟩

instance {r : ApiResult} : Sparing (signalEvtResult r) := ⟨.keep fun _ => rfl⟩

instance : Sparing (reply evt rc) := ⟨.keep fun _ => rfl⟩

instance {enabled : BitVec 32} : Sparing (replyFlag evt enabled) := ⟨.keep fun _ => rfl⟩

instance {params : Bool} : Sparing (replyParams evt params) := ⟨.keep fun _ => rfl⟩

instance : Sparing (replyEvt evt rc) := ⟨.keep fun _ => rfl⟩

instance : Sparing (regFaceImage p evt) := ⟨.keep fun _ => rfl⟩

/-- **What `applyDelayedMsgs` does.** -/
theorem applyDelayedMsgs_msgs (s : Machine) :
    ((applyDelayedMsgs p).run s).2.msgs = s.msgs.lift := by
  change ((if s.mBDelayPreviewMsgs && s.mDelayedMsgs ≠ 0 then do
    let rc ← call p (.enableMsgType s.mDelayedMsgs)
    modify fun s => { s with mBDelayPreviewMsgs := false, mDelayedMsgs := 0 }
    pure rc
  else do
    if s.mBDelayPreviewMsgs then modify fun s => { s with mBDelayPreviewMsgs := false }
    pure .noError : Proc Status).run s).2.msgs = _
  cases hdelaying : s.mBDelayPreviewMsgs with
  | false =>
    have hlift : s.msgs.lift = s.msgs := by simp [Msgs.lift, Machine.msgs, hdelaying]
    rw [hlift]
    rfl
  | true =>
    by_cases hdelayed : s.mDelayedMsgs = 0
    · have hlift : s.msgs.lift = ⟨false, s.mDelayedMsgs, s.msgEnabled⟩ := by
        simp [Msgs.lift, Machine.msgs, hdelaying, hdelayed]
      rw [hlift, if_neg (by simp [hdelayed])]
      rfl
    · have hlift : s.msgs.lift = ⟨false, 0, s.msgEnabled ||| s.mDelayedMsgs⟩ := by
        simp [Msgs.lift, Machine.msgs, hdelaying]
      rw [hlift, if_pos (by simpa using hdelayed)]
      rfl

instance : Sparing (applyDelayedMsgs p) := by
  refine ⟨.step fun s => ?_⟩
  rw [applyDelayedMsgs_msgs]
  exact .lift s.msgs

instance {restore needs delayed : Machine → Bool} : Sparing (modify fun s => { s with
    mRestoreZSL := restore s
    mBPreviewNeedsRestart := needs s
    mBPreviewDelayedRestart := delayed s } : Proc PUnit) := ⟨.keep fun _ => rfl⟩

/-- From the start of a capture on, the messages are delayed. -/
theorem delay_sparing {g : Machine → Machine} (hg : ∀ s, (g s).msgs = { s.msgs with delaying := true }) :
    Sparing (modify g : Proc PUnit) := by
  refine ⟨.step fun s => ?_⟩
  rw [show ((modify g : Proc PUnit).run s).2 = g s from rfl, hg]
  exact .delay s.msgs

instance : Sparing (modify fun s => { s with mBDelayPreviewMsgs := true } : Proc PUnit) :=
  delay_sparing fun _ => rfl

instance : Sparing (modify fun s => { s with
    mRestoreZSL := true
    mBDelayPreviewMsgs := true } : Proc PUnit) := delay_sparing fun _ => rfl

/-! ## The handlers -/

instance : Sparing (fall) := by
  unfold fall
  infer_instance

instance : Sparing (refuse evt) := by
  unfold refuse
  infer_instance

instance [Fact op.isMute] : Sparing (replyCall p evt op) := by
  unfold replyCall
  infer_instance

instance [Fact op.isMute] : Sparing (afterParamInit p op) := by
  unfold afterParamInit
  infer_instance

instance [Fact op.isMute] : Sparing (replyInit p evt op) := by
  unfold replyInit
  infer_instance

instance {msgs : BitVec 32} : Sparing (replyMsgTypeEnabled evt msgs) := by
  unfold replyMsgTypeEnabled
  infer_instance

instance : Sparing (getParams p evt) := by
  unfold getParams
  infer_instance

instance : Sparing (clearNeedRestart p evt) := by
  unfold clearNeedRestart
  infer_instance

instance : Sparing (setParamsRecording p evt) := by
  unfold setParamsRecording
  infer_instance

instance : Sparing (notifyDaemonDied p) := by
  unfold notifyDaemonDied
  infer_instance

instance : Sparing (answerDaemonDied p) := ⟨.keep fun _ => rfl⟩

instance : Sparing (cacDone p) := by
  unfold cacDone
  dsimp only
  infer_instance

instance {t : InternalEvt} : Sparing (processInternal p t) := by
  cases t <;> dsimp only [processInternal, InternalEvt.op] <;> infer_instance

instance {e : ServerEvt} : Sparing (evtNotify p e) := by
  cases e <;> dsimp only [evtNotify] <;> infer_instance

instance {e : ServerEvt} : Sparing (evtNotifyCapture p e) := by
  cases e <;> dsimp only [evtNotifyCapture] <;> infer_instance

instance {t : InternalEvt} : Sparing (evtInternalRecording p t) := by
  cases t <;> dsimp only [evtInternalRecording] <;> infer_instance

instance : Sparing (isZslOrLongshot p) := by
  unfold isZslOrLongshot
  infer_instance

instance : Sparing (startOrUnprepare p) := by
  unfold startOrUnprepare
  infer_instance

instance : Sparing (restartPreview p) := by
  unfold restartPreview
  infer_instance

instance : Sparing (restartPreviewDelayed p) := by
  unfold restartPreviewDelayed
  infer_instance

instance : Sparing (restartStopPreview p evt) := by
  unfold restartStopPreview
  infer_instance

instance : Sparing (restartStartPreview p evt) := by
  unfold restartStartPreview
  dsimp only
  infer_instance

instance : Sparing (preTakePicture p) := by
  unfold preTakePicture
  infer_instance

instance : Sparing (preStartRecording p) := by
  unfold preStartRecording
  infer_instance

instance : Sparing (takePicture p) := by
  unfold takePicture
  infer_instance

instance : Sparing (startFromStopped p) := by
  unfold startFromStopped
  infer_instance

instance {t : InternalEvt} : Sparing (evtInternalStopped p t) := by
  cases t <;> dsimp only [evtInternalStopped] <;> infer_instance

instance : Sparing (startFromReady p) := by
  unfold startFromReady
  infer_instance

instance {t : InternalEvt} : Sparing (evtInternalReady p t) := by
  cases t <;> dsimp only [evtInternalReady] <;> infer_instance

instance {msgs : BitVec 32} : Sparing (msgTypeEnabledPreviewing evt msgs) := by
  unfold msgTypeEnabledPreviewing
  infer_instance

instance : Sparing (setParamsRestartPreviewing p evt) := by
  unfold setParamsRestartPreviewing
  dsimp only
  infer_instance

instance : Sparing (prepareSnapshotPreviewing p evt) := by
  unfold prepareSnapshotPreviewing
  infer_instance

instance : Sparing (restartForPicture p) := by
  unfold restartForPicture
  infer_instance

instance : Sparing (enterZslCapture p) := by
  unfold enterZslCapture
  dsimp only
  infer_instance

instance : Sparing (takePictureZsl p evt) := by
  unfold takePictureZsl
  dsimp only
  infer_instance

instance : Sparing (recoverPreview p) := by
  unfold recoverPreview
  infer_instance

instance : Sparing (takePictureRegular p evt) := by
  unfold takePictureRegular
  infer_instance

instance {cmd : CameraCmd} : Sparing (sendCommandPreviewing b p evt cmd) := by
  unfold sendCommandPreviewing
  dsimp only
  infer_instance

instance {cmd : CameraCmd} : Sparing (sendCommandRestart b p evt cmd) := by
  unfold sendCommandRestart
  dsimp only
  infer_instance

instance {t : InternalEvt} : Sparing (evtInternalPreviewing p t) := by
  cases t <;> dsimp only [evtInternalPreviewing] <;> infer_instance

instance : Sparing (answerPrepareSnapshot p) := ⟨.keep fun _ => rfl⟩

instance {t : InternalEvt} : Sparing (evtInternalPrepareSnapshot p t) := by
  cases t <;> dsimp only [evtInternalPrepareSnapshot] <;> infer_instance

instance {e : ServerEvt} : Sparing (evtNotifyPrepareSnapshot p e) := by
  cases e <;> dsimp only [evtNotifyPrepareSnapshot] <;> infer_instance

instance : Sparing (cancelPictureStopped p evt) := by
  unfold cancelPictureStopped
  infer_instance

instance {cmd : CameraCmd} : Sparing (sendCommandCapture b p evt cmd) := by
  unfold sendCommandCapture
  infer_instance

instance : Sparing (preTakePictureCapture p evt) := by
  unfold preTakePictureCapture
  infer_instance

instance : Sparing (takePictureCapture p evt) := by
  unfold takePictureCapture
  infer_instance

instance : Sparing (restartEarly p) := by
  unfold restartEarly
  infer_instance

instance : Sparing (stopCaptureChannel p evt) := by
  unfold stopCaptureChannel
  dsimp only
  infer_instance

instance : Sparing (snapshotDonePicTaking p evt) := by
  unfold snapshotDonePicTaking
  dsimp only
  infer_instance

instance {t : InternalEvt} : Sparing (evtInternalPicTaking p t) := by
  cases t <;> dsimp only [evtInternalPicTaking] <;> infer_instance

instance : Sparing (takeLiveSnapshot p evt) := by
  unfold takeLiveSnapshot
  infer_instance

instance : Sparing (setParamsRestartCapture p evt) := by
  unfold setParamsRestartCapture
  dsimp only
  infer_instance

instance : Sparing (cancelCapture p) := by
  unfold cancelCapture
  infer_instance

instance : Sparing (stopPreviewCapture p evt) := by
  unfold stopPreviewCapture
  dsimp only
  infer_instance

instance : Sparing (preStartRecordingCapture p evt) := by
  unfold preStartRecordingCapture
  infer_instance

instance : Sparing (startRecordingCapture p evt) := by
  unfold startRecordingCapture
  infer_instance

instance : Sparing (prepareSnapshotCapture p evt) := by
  unfold prepareSnapshotCapture
  infer_instance

instance : Sparing (answerPrepareSnapshotRetro p) := by
  unfold answerPrepareSnapshotRetro
  infer_instance

instance : Sparing (answerTakePictureRetro p) := by
  unfold answerTakePictureRetro
  infer_instance

instance : Sparing (snapshotDoneCapture p evt) := by
  unfold snapshotDoneCapture
  dsimp only
  infer_instance

instance {t : InternalEvt} : Sparing (evtInternalCapture p t) := by
  cases t <;> dsimp only [evtInternalCapture] <;> infer_instance

end Sparing

section Handlers

variable {b : Build} {p : Parent} {evt : SmEvt} {payload : Payload}

def SmEvt.isRequest : SmEvt → Bool
  | .enableMsgType | .disableMsgType => true
  | _ => false

theorem procEvtPreviewStoppedState_sparing (hevt : evt.isRequest = false) :
    Sparing (procEvtPreviewStoppedState p evt payload) := by
  cases evt with
  | enableMsgType | disableMsgType => cases hevt
  | _ =>
    dsimp only [procEvtPreviewStoppedState]
    infer_instance

theorem procEvtPreviewReadyState_sparing (hevt : evt.isRequest = false) :
    Sparing (procEvtPreviewReadyState p evt payload) := by
  cases evt with
  | enableMsgType | disableMsgType => cases hevt
  | _ =>
    dsimp only [procEvtPreviewReadyState]
    infer_instance

theorem procEvtPreviewingState_sparing (hevt : evt.isRequest = false) :
    Sparing (procEvtPreviewingState b p evt payload) := by
  cases evt with
  | enableMsgType | disableMsgType => cases hevt
  | _ =>
    dsimp only [procEvtPreviewingState]
    infer_instance

theorem procEvtPrepareSnapshotState_sparing : Sparing (procEvtPrepareSnapshotState p evt payload) := by
  cases evt <;> dsimp only [procEvtPrepareSnapshotState] <;> infer_instance

theorem procEvtPicTakingState_sparing (hevt : evt.isRequest = false) :
    Sparing (procEvtPicTakingState b p evt payload) := by
  cases evt with
  | enableMsgType | disableMsgType => cases hevt
  | _ =>
    dsimp only [procEvtPicTakingState]
    infer_instance

theorem procEvtRecordingState_sparing (hevt : evt.isRequest = false) :
    Sparing (procEvtRecordingState p evt payload) := by
  cases evt with
  | enableMsgType | disableMsgType => cases hevt
  | _ =>
    dsimp only [procEvtRecordingState]
    infer_instance

theorem procEvtVideoPicTakingState_sparing (hevt : evt.isRequest = false) :
    Sparing (procEvtVideoPicTakingState p evt payload) := by
  cases evt with
  | enableMsgType | disableMsgType => cases hevt
  | _ =>
    dsimp only [procEvtVideoPicTakingState]
    infer_instance

theorem procEvtPreviewPicTakingState_sparing (hevt : evt.isRequest = false) :
    Sparing (procEvtPreviewPicTakingState b p evt payload) := by
  cases evt with
  | enableMsgType | disableMsgType => cases hevt
  | _ =>
    dsimp only [procEvtPreviewPicTakingState]
    infer_instance

/-- **All events but the requests spare the messages.** -/
theorem stateMachine_spares (hevt : evt.isRequest = false) :
    Spares (stateMachine b p evt payload) := by
  apply Carries.bind (.keep fun _ => rfl)
  intro s
  cases s.mState with
  | previewStopped => exact (procEvtPreviewStoppedState_sparing hevt).carries
  | previewReady => exact (procEvtPreviewReadyState_sparing hevt).carries
  | previewing => exact (procEvtPreviewingState_sparing hevt).carries
  | prepareSnapshot => exact procEvtPrepareSnapshotState_sparing.carries
  | picTaking => exact (procEvtPicTakingState_sparing hevt).carries
  | recording => exact (procEvtRecordingState_sparing hevt).carries
  | videoPicTaking => exact (procEvtVideoPicTakingState_sparing hevt).carries
  | previewPicTaking => exact (procEvtPreviewPicTakingState_sparing hevt).carries

end Handlers

/-- A request is carried out: it is refused while a snapshot is prepared, and fails if the
parameters cannot be initialized. -/
def Machine.Accepts (p : Parent) (s : Machine) : Prop :=
  match s.mState with
  | .prepareSnapshot => False
  | .previewStopped => p.status s.calls .waitDeferredWork = .noError
  | _ => True

instance (p : Parent) (s : Machine) : Decidable (s.Accepts p) := by
  unfold Machine.Accepts
  split <;> infer_instance

def Msgs.enable (msgs : BitVec 32) (w : Msgs) : Msgs := { w with enabled := w.enabled ||| msgs }

def Msgs.disable (msgs : BitVec 32) (w : Msgs) : Msgs :=
  { w with enabled := w.enabled &&& ~~~msgs }

/-- A request to enable messages, in `PREVIEWING`. -/
def Msgs.enablePreviewing (preview msgs : BitVec 32) (w : Msgs) : Msgs :=
  if w.delaying && msgs &&& preview ≠ 0 then
    Msgs.enable (msgs &&& ~~~preview) { w with delayed := preview }
  else w.enable msgs

/-- A request to disable messages, in `PREVIEWING`. -/
def Msgs.disablePreviewing (msgs : BitVec 32) (w : Msgs) : Msgs :=
  if w.delaying && w.delayed ≠ 0 then
    Msgs.disable msgs { w with
      delaying := if w.delayed &&& ~~~msgs = 0 then false else w.delaying
      delayed := w.delayed &&& ~~~msgs }
  else w.disable msgs

section Requests

variable {b : Build} {p : Parent} {payload : Payload} {s : Machine}

theorem enableMsgTypePreviewing_msgs {evt : SmEvt} {msgs : BitVec 32} :
    ((enableMsgTypePreviewing b p evt msgs).run s).2.msgs =
      s.msgs.enablePreviewing b.msgPreviewFrame msgs := by
  change ((if s.mBDelayPreviewMsgs && msgs &&& b.msgPreviewFrame ≠ 0 then do
    modify fun s => { s with mDelayedMsgs := b.msgPreviewFrame }
    replyCall p evt (.enableMsgType (msgs &&& ~~~b.msgPreviewFrame))
  else replyCall p evt (.enableMsgType msgs) : Proc Status).run s).2.msgs = _
  change _ = if s.mBDelayPreviewMsgs && msgs &&& b.msgPreviewFrame ≠ 0 then _ else _
  split_ifs <;> rfl

theorem disableMsgTypePreviewing_msgs {evt : SmEvt} {msgs : BitVec 32} :
    ((disableMsgTypePreviewing p evt msgs).run s).2.msgs = s.msgs.disablePreviewing msgs := by
  change ((if s.mBDelayPreviewMsgs && s.mDelayedMsgs ≠ 0 then do
    modify fun t => { t with
      mDelayedMsgs := s.mDelayedMsgs &&& ~~~msgs
      mBDelayPreviewMsgs :=
        if s.mDelayedMsgs &&& ~~~msgs = 0 then false else t.mBDelayPreviewMsgs }
    replyCall p evt (.disableMsgType msgs)
  else replyCall p evt (.disableMsgType msgs) : Proc Status).run s).2.msgs = _
  change _ = if s.mBDelayPreviewMsgs && s.mDelayedMsgs ≠ 0 then _ else _
  by_cases h : (s.mBDelayPreviewMsgs && decide (s.mDelayedMsgs ≠ 0)) = true
  · rw [if_pos h, if_pos h]
    rfl
  · rw [if_neg h, if_neg h]
    rfl

theorem replyInit_msgs {evt : SmEvt} {op : ParentOp} :
    ((replyInit p evt op).run s).2.msgs =
      if p.status s.calls .waitDeferredWork = .noError then
        { s.msgs with enabled := op.onMsgs s.msgs.enabled }
      else s.msgs := by
  change (((if p.status s.calls .waitDeferredWork ≠ .noError then
      pure (p.status s.calls .waitDeferredWork) else call p op : Proc Status) >>= reply evt).run
    { s with calls := s.calls ++ [.waitDeferredWork] }).2.msgs = _
  by_cases h : p.status s.calls .waitDeferredWork = .noError
  · rw [if_neg (not_not.mpr h), if_pos h]
    rfl
  · rw [if_pos h, if_neg h]
    rfl

theorem handle_eq {evt : SmEvt} : s.handle b p evt payload =
    ((match s.mState with
      | .previewStopped => procEvtPreviewStoppedState p evt payload
      | .previewReady => procEvtPreviewReadyState p evt payload
      | .previewing => procEvtPreviewingState b p evt payload
      | .prepareSnapshot => procEvtPrepareSnapshotState p evt payload
      | .picTaking => procEvtPicTakingState b p evt payload
      | .recording => procEvtRecordingState p evt payload
      | .videoPicTaking => procEvtVideoPicTakingState p evt payload
      | .previewPicTaking => procEvtPreviewPicTakingState b p evt payload : Proc Status).run s).2 :=
  rfl

theorem accepts_stopped (hm : s.mState = .previewStopped) :
    s.Accepts p ↔ p.status s.calls .waitDeferredWork = .noError := by
  unfold Machine.Accepts
  rw [hm]

theorem not_accepts (hm : s.mState = .prepareSnapshot) : ¬s.Accepts p := by
  unfold Machine.Accepts
  rw [hm]
  exact id

theorem accepts (hm : s.mState ∉ [.previewStopped, .prepareSnapshot]) : s.Accepts p := by
  unfold Machine.Accepts
  cases h : s.mState with
  | previewStopped | prepareSnapshot => exact absurd h fun h => hm (by simp [h])
  | _ => trivial

theorem handle_enable : (s.handle b p .enableMsgType payload).msgs =
    if s.mState = .previewing then s.msgs.enablePreviewing b.msgPreviewFrame payload.msgs
    else if s.Accepts p then s.msgs.enable payload.msgs
    else s.msgs := by
  rw [handle_eq]
  cases hm : s.mState with
  | previewing => exact enableMsgTypePreviewing_msgs
  | previewStopped =>
    rw [if_neg (by decide), if_congr (accepts_stopped hm) rfl rfl]
    exact replyInit_msgs
  | prepareSnapshot =>
    rw [if_neg (by decide), if_neg (not_accepts hm)]
    rfl
  | previewReady | picTaking | recording | videoPicTaking | previewPicTaking =>
    rw [if_neg (by decide), if_pos (accepts (by rw [hm]; decide))]
    rfl

theorem handle_disable : (s.handle b p .disableMsgType payload).msgs =
    if s.mState = .previewing then s.msgs.disablePreviewing payload.msgs
    else if s.Accepts p then s.msgs.disable payload.msgs
    else s.msgs := by
  rw [handle_eq]
  cases hm : s.mState with
  | previewing => exact disableMsgTypePreviewing_msgs
  | previewStopped =>
    rw [if_neg (by decide), if_congr (accepts_stopped hm) rfl rfl]
    exact replyInit_msgs
  | prepareSnapshot =>
    rw [if_neg (by decide), if_neg (not_accepts hm)]
    rfl
  | previewReady | picTaking | recording | videoPicTaking | previewPicTaking =>
    rw [if_neg (by decide), if_pos (accepts (by rw [hm]; decide))]
    rfl

/-- **A query of the messages**, unless it is refused: in `PREVIEWING`, what is held back counts as
enabled. -/
theorem handle_query (hm : s.mState ≠ .prepareSnapshot) :
    (s.handle b p .msgTypeEnabled payload).apiResults = s.apiResults ++
      [⟨.noError, .msgTypeEnabled, .enableFlag
        (if s.mState = .previewing ∧ s.mBDelayPreviewMsgs = true ∧ s.mDelayedMsgs ≠ 0 then
          s.msgEnabled &&& payload.msgs ||| payload.msgs &&& s.mDelayedMsgs
        else s.msgEnabled &&& payload.msgs)⟩] := by
  rw [handle_eq]
  cases h : s.mState with
  | prepareSnapshot => exact absurd h hm
  | previewing =>
    change ((if s.mBDelayPreviewMsgs && s.mDelayedMsgs ≠ 0 then
        replyFlag .msgTypeEnabled
          (s.msgEnabled &&& payload.msgs ||| payload.msgs &&& s.mDelayedMsgs)
      else replyFlag .msgTypeEnabled (s.msgEnabled &&& payload.msgs) : Proc Status).run
        s).2.apiResults = _
    by_cases hheld : s.mBDelayPreviewMsgs = true ∧ s.mDelayedMsgs ≠ 0
    · rw [if_pos (by simpa using hheld), if_pos ⟨rfl, hheld⟩]
      rfl
    · rw [if_neg (by simpa using hheld), if_neg fun h => hheld h.2]
      rfl
  | previewStopped | previewReady | picTaking | recording | videoPicTaking | previewPicTaking =>
    rw [if_neg (by simp)]
    rfl

end Requests

/-! ## The last request -/

def OneBit (m : BitVec 32) : Prop := ∃ i < 32, m = BitVec.twoPow 32 i

def Has (m enabled : BitVec 32) : Prop := enabled &&& m ≠ 0

instance (m enabled : BitVec 32) : Decidable (Has m enabled) := by
  unfold Has
  infer_instance

section Bits

variable {m x y : BitVec 32}

theorem OneBit.has_iff {i : ℕ} (hi : i < 32) :
    Has (BitVec.twoPow 32 i) x ↔ x.getLsbD i = true := by
  unfold Has
  rw [BitVec.and_twoPow]
  have hne : BitVec.twoPow 32 i ≠ 0#32 := by
    intro h
    have hbit := congrArg (BitVec.getLsbD · i) h
    simp [hi] at hbit
  cases x.getLsbD i <;> simp [hne]

theorem OneBit.has_self (h : OneBit m) : Has m m := by
  obtain ⟨i, hi, rfl⟩ := h
  simp [OneBit.has_iff hi, hi]

theorem OneBit.has_or (h : OneBit m) : Has m (x ||| y) ↔ Has m x ∨ Has m y := by
  obtain ⟨i, hi, rfl⟩ := h
  simp [OneBit.has_iff hi]

theorem OneBit.has_and (h : OneBit m) : Has m (x &&& y) ↔ Has m x ∧ Has m y := by
  obtain ⟨i, hi, rfl⟩ := h
  simp [OneBit.has_iff hi]

theorem OneBit.has_not (h : OneBit m) : Has m (~~~x) ↔ ¬Has m x := by
  obtain ⟨i, hi, rfl⟩ := h
  simp [OneBit.has_iff hi, hi]

theorem not_has_zero : ¬Has m 0#32 := fun h => h (BitVec.zero_and)

theorem OneBit.ne_zero (h : OneBit m) : m ≠ 0#32 := by
  rintro rfl
  exact not_has_zero h.has_self

theorem OneBit.and_not (h : OneBit m) : m &&& ~~~x = if Has m x then 0 else m := by
  obtain ⟨i, hi, rfl⟩ := h
  rw [BitVec.and_comm, BitVec.and_twoPow, if_congr (OneBit.has_iff hi) rfl rfl]
  rw [BitVec.getLsbD_not]
  cases x.getLsbD i <;> simp [hi]

end Bits

/-- **The messages are as the last request has them**: the message is enabled or held back just if
it asked to enable it. -/
structure Msgs.Respects (m : BitVec 32) (last : Bool) (w : Msgs) : Prop where
  held : w.delayed = 0 ∨ w.delayed = m ∧ w.delaying = true
  last : last = true ↔ Has m w.enabled ∨ w.delayed ≠ 0

namespace Msgs.Respects

variable {m msgs : BitVec 32} {last : Bool} {w w' : Msgs}

theorem has_delayed (hm : OneBit m) (h : w.Respects m last) : Has m w.delayed ↔ w.delayed ≠ 0 := by
  rcases h.held with h0 | ⟨hd, -⟩
  · simp [h0, not_has_zero]
  · simp [hd, hm.has_self, hm.ne_zero]

theorem lift (hm : OneBit m) (h : w.Respects m last) : w.lift.Respects m last := by
  unfold Msgs.lift
  split_ifs
  · refine ⟨.inl rfl, h.last.trans ?_⟩
    rw [hm.has_or, h.has_delayed hm]
    simp
  · exact h

theorem shift (hm : OneBit m) (hstep : Msgs.Shift w w') (h : w.Respects m last) :
    w'.Respects m last := by
  cases hstep with
  | lift => exact h.lift hm
  | delay => exact ⟨h.held.imp_right fun hd => ⟨hd.1, rfl⟩, h.last⟩

theorem enable (hm : OneBit m) (h : w.Respects m last) :
    (w.enable msgs).Respects m (if Has m msgs then true else last) := by
  refine ⟨h.held, ?_⟩
  change _ ↔ Has m (w.enabled ||| msgs) ∨ w.delayed ≠ 0
  rw [hm.has_or]
  split_ifs with hmsgs
  · simp [hmsgs]
  · simpa [hmsgs] using h.last

theorem enablePreviewing (hm : OneBit m) (h : w.Respects m last) :
    (w.enablePreviewing m msgs).Respects m (if Has m msgs then true else last) := by
  unfold Msgs.enablePreviewing
  by_cases hdelay : (w.delaying && decide (msgs &&& m ≠ 0)) = true
  · -- the message is held back
    rw [if_pos hdelay]
    rw [Bool.and_eq_true, decide_eq_true_eq] at hdelay
    rw [if_pos (show Has m msgs from hdelay.2)]
    exact ⟨.inr ⟨rfl, hdelay.1⟩, iff_of_true rfl (.inr hm.ne_zero)⟩
  · rw [if_neg hdelay]
    exact h.enable hm

theorem disable (hm : OneBit m) (h : w.Respects m last) (hnone : Has m msgs → w.delayed = 0) :
    (w.disable msgs).Respects m (if Has m msgs then false else last) := by
  refine ⟨h.held, ?_⟩
  change _ ↔ Has m (w.enabled &&& ~~~msgs) ∨ w.delayed ≠ 0
  rw [hm.has_and, hm.has_not]
  split_ifs with hmsgs
  · simp [hmsgs, hnone hmsgs]
  · simpa [hmsgs] using h.last

theorem disablePreviewing (hm : OneBit m) (h : w.Respects m last) :
    (w.disablePreviewing msgs).Respects m (if Has m msgs then false else last) := by
  unfold Msgs.disablePreviewing
  by_cases hheld : (w.delaying && decide (w.delayed ≠ 0)) = true
  · rw [if_pos hheld]
    rw [Bool.and_eq_true, decide_eq_true_eq] at hheld
    obtain ⟨hd, hdelaying⟩ := h.held.resolve_left hheld.2
    rw [hd, hm.and_not]
    by_cases hmsgs : Has m msgs
    · rw [if_pos hmsgs, if_pos hmsgs, if_pos rfl]
      refine ⟨.inl rfl, iff_of_false Bool.noConfusion ?_⟩
      rintro (hbit | hne)
      · exact hm.has_not.mp (hm.has_and.mp hbit).2 hmsgs
      · exact hne rfl
    · rw [if_neg hmsgs, if_neg hmsgs, if_neg (show ¬m = 0 from hm.ne_zero)]
      refine ⟨.inr ⟨rfl, hdelaying⟩, iff_of_true (h.last.mpr (.inr hheld.2)) ?_⟩
      exact .inr hm.ne_zero
  · -- nothing is held back
    rw [if_neg hheld]
    refine h.disable hm fun _ => ?_
    rcases h.held with h0 | ⟨hd, hdelaying⟩
    · exact h0
    · refine absurd ?_ hheld
      rw [Bool.and_eq_true, decide_eq_true_eq, hd]
      exact ⟨hdelaying, hm.ne_zero⟩

end Msgs.Respects

/-- The last request for the message, after an event: one that is refused does not count. -/
def Machine.lastRequest (b : Build) (p : Parent) (evt : SmEvt) (payload : Payload) (s : Machine)
    (last : Bool) : Bool :=
  if s.Accepts p ∧ Has b.msgPreviewFrame payload.msgs then
    match evt with
    | .enableMsgType => true
    | .disableMsgType => false
    | _ => last
  else last

/-- A request to disable the message is carried out in a state other than `PREVIEWING`, while one to
enable it is held back. -/
def Machine.Overlooks (b : Build) (p : Parent) (evt : SmEvt) (payload : Payload) (s : Machine) :
    Prop :=
  evt = .disableMsgType ∧ Has b.msgPreviewFrame payload.msgs ∧ s.Accepts p ∧
    s.mState ≠ .previewing ∧ s.mDelayedMsgs ≠ 0

/-- An event is handled, and the last request is kept. -/
inductive RequestStep (b : Build) :
    Parent × SmEvt × Payload → Machine × Bool → Machine × Bool → Prop
  | handle {p : Parent} {evt : SmEvt} {payload : Payload} {s : Machine} {last : Bool} :
      RequestStep b (p, evt, payload) (s, last)
        (s.handle b p evt payload, s.lastRequest b p evt payload last)

def HeedfulStep (b : Build) (l : Parent × SmEvt × Payload) (x y : Machine × Bool) : Prop :=
  RequestStep b l x y ∧ ¬x.1.Overlooks b l.1 l.2.1 l.2.2

section Runs

variable {b : Build} {p : Parent} {evt : SmEvt} {payload : Payload} {s : Machine} {last : Bool}

theorem lastRequest_refused (hacc : ¬s.Accepts p) :
    s.lastRequest b p evt payload last = last := if_neg fun h => hacc h.1

theorem lastRequest_accepted (hacc : s.Accepts p) :
    s.lastRequest b p evt payload last =
      if Has b.msgPreviewFrame payload.msgs then
        match evt with
        | .enableMsgType => true
        | .disableMsgType => false
        | _ => last
      else last := if_congr (and_iff_right hacc) rfl rfl

/-- **An event keeps the last request**, unless it overlooks what is held back. -/
theorem handle_respects (hm : OneBit b.msgPreviewFrame)
    (h : s.msgs.Respects b.msgPreviewFrame last) (heeds : ¬s.Overlooks b p evt payload) :
    (s.handle b p evt payload).msgs.Respects b.msgPreviewFrame
      (s.lastRequest b p evt payload last) := by
  have hpreviewing : s.mState = .previewing → s.Accepts p := fun hs =>
    accepts (by rw [hs]; decide)
  by_cases hevt : evt.isRequest = true
  · cases evt with
    | enableMsgType =>
      rw [handle_enable]
      split_ifs with hs hacc
      · rw [lastRequest_accepted (hpreviewing hs)]
        exact h.enablePreviewing hm
      · rw [lastRequest_accepted hacc]
        exact h.enable hm
      · rw [lastRequest_refused hacc]
        exact h
    | disableMsgType =>
      rw [handle_disable]
      split_ifs with hs hacc
      · rw [lastRequest_accepted (hpreviewing hs)]
        exact h.disablePreviewing hm
      · rw [lastRequest_accepted hacc]
        refine h.disable hm fun hmsgs => ?_
        by_contra hheld
        exact heeds ⟨rfl, hmsgs, hacc, hs, hheld⟩
      · rw [lastRequest_refused hacc]
        exact h
    | _ => cases hevt
  · -- without a request, the delay is lifted or begins
    have hlast : s.lastRequest b p evt payload last = last := by
      unfold Machine.lastRequest
      cases evt with
      | enableMsgType | disableMsgType => exact absurd rfl hevt
      | _ => exact ite_self _
    rw [hlast]
    exact (stateMachine_spares (Bool.not_eq_true _ ▸ hevt)).invariant
      (I := Msgs.Respects b.msgPreviewFrame last) (fun _ _ hstep hw => hw.shift hm hstep) h

theorem run_respects (hm : OneBit b.msgPreviewFrame) {needsRestart delayedRestart : Bool}
    {ls : List (Parent × SmEvt × Payload)}
    (run : Run (HeedfulStep b) ls (.new needsRestart delayedRestart 0, false) (s, last)) :
    s.msgs.Respects b.msgPreviewFrame last := by
  refine run.invariant (I := fun x => x.1.msgs.Respects b.msgPreviewFrame x.2) ?_ ?_
  · rintro _ _ _ ⟨hstep, hheeds⟩ hx
    cases hstep with
    | handle => exact handle_respects hm hx hheeds
  · refine ⟨.inl rfl, iff_of_false Bool.noConfusion ?_⟩
    rintro (hbit | hne)
    · exact not_has_zero hbit
    · exact hne rfl

/-- **The last request is respected.** In every run in which no request to disable the message
overlooks one to enable it that is held back, in every state that is reached:

* if nothing is held back, the message is enabled in the parent just if the last request for it was
  to enable it, and so it is whenever `applyDelayedMsgs` has run, which leaves nothing held back;
* a query of the message is answered by the last request just if what is held back makes no
  difference or is looked at: in `PREVIEWING`, with nothing held back, or where the message is
  enabled in the parent all the same. -/
theorem delayed_respected (hm : OneBit b.msgPreviewFrame) {needsRestart delayedRestart : Bool}
    {ls : List (Parent × SmEvt × Payload)}
    (run : Run (HeedfulStep b) ls (.new needsRestart delayedRestart 0, false) (s, last)) :
    (s.mDelayedMsgs = 0 → (Has b.msgPreviewFrame s.msgEnabled ↔ last = true)) ∧
    (∀ p, ((applyDelayedMsgs p).run s).2.mDelayedMsgs = 0 ∧
      (Has b.msgPreviewFrame ((applyDelayedMsgs p).run s).2.msgEnabled ↔ last = true)) ∧
    (∀ p payload, s.mState ≠ .prepareSnapshot → Has b.msgPreviewFrame payload.msgs →
      ∃ enabled, (s.handle b p .msgTypeEnabled payload).apiResults =
          s.apiResults ++ [⟨.noError, .msgTypeEnabled, .enableFlag enabled⟩] ∧
        ((Has b.msgPreviewFrame enabled ↔ last = true) ↔
          s.mState = .previewing ∨ s.mDelayedMsgs = 0 ∨ Has b.msgPreviewFrame s.msgEnabled)) := by
  have h := run_respects hm run
  have hempty : ∀ w : Msgs, w.Respects b.msgPreviewFrame last → w.delayed = 0 →
      (Has b.msgPreviewFrame w.enabled ↔ last = true) := by
    intro w hw h0
    rw [hw.last]
    simp [h0]
  have hlift : s.msgs.lift.delayed = 0 := by
    unfold Msgs.lift
    split_ifs with hdelaying
    · rfl
    · exact h.held.resolve_right fun hd => hdelaying hd.2
  refine ⟨hempty s.msgs h, fun p => ?_, fun p payload hs hmsgs => ?_⟩
  · have happly := applyDelayedMsgs_msgs (p := p) s
    have hbits := hempty _ (h.lift hm) hlift
    rw [← happly] at hbits hlift
    exact ⟨hlift, hbits⟩
  · refine ⟨_, handle_query hs, ?_⟩
    have hlast : last = true ↔ Has b.msgPreviewFrame s.msgEnabled ∨ s.mDelayedMsgs ≠ 0 := h.last
    have hdelayed : Has b.msgPreviewFrame s.mDelayedMsgs ↔ s.mDelayedMsgs ≠ 0 := h.has_delayed hm
    by_cases hlook : s.mState = .previewing ∧ s.mBDelayPreviewMsgs = true ∧ s.mDelayedMsgs ≠ 0
    · rw [if_pos hlook, hm.has_or, hm.has_and, hm.has_and, hlast, hdelayed]
      simp [hmsgs, hlook]
    · -- what is held back is not looked at
      have hnone : s.mState = .previewing → s.mDelayedMsgs = 0 := by
        intro hprev
        rcases h.held with h0 | ⟨hd, hdelaying⟩
        · exact h0
        · exact absurd ⟨hprev, hdelaying, fun h0 => hm.ne_zero (hd.symm.trans h0)⟩ hlook
      rw [if_neg hlook, hm.has_and, hlast]
      by_cases h0 : s.mDelayedMsgs = 0#32
      · simp [hmsgs, h0]
      · have hprev : s.mState ≠ .previewing := fun hprev => h0 (hnone hprev)
        simp [hmsgs, h0, hprev]

def zslParent : Parent :=
  { quietParent with answer := fun _ op => op = .previewWindow ∨ op = .isZSLMode }

def previewFrameRequest : Payload := { emptyPayload with msgs := 16 }

/-- The preview is started, a picture is taken, and the preview frames are enabled. -/
def delayRun : List (Parent × SmEvt × Payload) :=
  [(zslParent, .startPreview, emptyPayload), (zslParent, .takePicture, emptyPayload),
    (zslParent, .snapshotDone, emptyPayload), (zslParent, .enableMsgType, previewFrameRequest)]

/-- During the next picture the preview frames are disabled, and after it the preview is asked
for. -/
def disableRun : List (Parent × SmEvt × Payload) :=
  delayRun ++ [(zslParent, .takePicture, emptyPayload),
    (zslParent, .disableMsgType, previewFrameRequest), (zslParent, .snapshotDone, emptyPayload),
    (zslParent, .startPreview, emptyPayload)]

/-- The machine after a run, and the last request. -/
def runRequests (b : Build) (ls : List (Parent × SmEvt × Payload)) (x : Machine × Bool) :
    Machine × Bool :=
  ls.foldl (fun x l => (x.1.handle b l.1 l.2.1 l.2.2, x.1.lastRequest b l.1 l.2.1 l.2.2 x.2)) x

theorem runRequests_run (b : Build) (ls : List (Parent × SmEvt × Payload)) (x : Machine × Bool) :
    Run (RequestStep b) ls x (runRequests b ls x) := by
  induction ls generalizing x with
  | nil => exact .nil x
  | cons l ls ih => exact .cons .handle (ih _)

/-- **The delay outlives a request to disable**: the preview frames are enabled by a request that
has been taken back. -/
theorem delayed_outlives :
    ∃ s, Run (RequestStep ⟨false, 16⟩) disableRun (.new false false 0, false) (s, false) ∧
      s.mDelayedMsgs = 0 ∧ s.mBDelayPreviewMsgs = false ∧ Has 16 s.msgEnabled := by
  have hrun := runRequests_run ⟨false, 16⟩ disableRun (.new false false 0, false)
  have hlast : runRequests ⟨false, 16⟩ disableRun (.new false false 0, false) =
      ((runRequests ⟨false, 16⟩ disableRun (.new false false 0, false)).1, false) :=
    Prod.ext rfl (by decide +kernel)
  rw [hlast] at hrun
  exact ⟨_, hrun, by decide +kernel⟩

/-- Between two pictures the preview frames are enabled, and the request is respected. -/
theorem delayed_respected_enabled :
    ∃ s, Run (HeedfulStep ⟨false, 16⟩) delayRun (.new false false 0, false) (s, true) ∧
      s.mDelayedMsgs = 16 ∧
      ∀ p, Has 16 ((applyDelayedMsgs p).run s).2.msgEnabled ↔ true = true := by
  have hone : OneBit 16 := ⟨4, by decide, by decide⟩
  have hrun : Run (HeedfulStep ⟨false, 16⟩) delayRun (.new false false 0, false)
      (runRequests ⟨false, 16⟩ delayRun (.new false false 0, false)) :=
    .cons ⟨.handle, fun h => by cases h.1⟩ (.cons ⟨.handle, fun h => by cases h.1⟩
      (.cons ⟨.handle, fun h => by cases h.1⟩ (.one ⟨.handle, fun h => by cases h.1⟩)))
  have hlast : runRequests ⟨false, 16⟩ delayRun (.new false false 0, false) =
      ((runRequests ⟨false, 16⟩ delayRun (.new false false 0, false)).1, true) :=
    Prod.ext rfl (by decide +kernel)
  rw [hlast] at hrun
  exact ⟨_, hrun, by decide +kernel, fun p => ((delayed_respected hone hrun).2.1 p).2⟩

end Runs

end QCamera
