import MidoCamera.Hal1.PreviewMoves

/-!
# What the handlers do apart, during a capture or a recording

The same for the states in which a picture is taken or a video is recorded. Here backend events do
more than to be passed on: they end a capture, and they answer an API that waits.
-/

namespace QCamera

open Loop

/-! ## `QCAMERA_SM_STATE_PREPARE_SNAPSHOT` -/

inductive PrepareSnapshotMove (payload : Payload) : SmEvt → View → View → List SmEvt → Prop
  | internal {w : View} (h : payload.internalEvt ≠ .prepSnapshotDone) :
      PrepareSnapshotMove payload .evtInternal w w []
  | prepared {w : View} (h : payload.internalEvt = .prepSnapshotDone) :
      PrepareSnapshotMove payload .evtInternal w { w with state := .previewing }
        [.prepareSnapshot]
  | notify {w : View} (h : payload.serverEvt ≠ .daemonDied) :
      PrepareSnapshotMove payload .evtNotify w w []
  | daemonDied {w : View} (h : payload.serverEvt = .daemonDied) :
      PrepareSnapshotMove payload .evtNotify w w [.prepareSnapshot, .takePicture]
  | ignored {evt : SmEvt} {w : View} (hevt : evt ∈ [.regFaceImage, .sendCommandRestart]) :
      PrepareSnapshotMove payload evt w w []

section PrepareSnapshot

variable {p : Parent} {evt : SmEvt} {payload : Payload} {w : View}

theorem answerDaemonDied_emits :
    Emits Machine.view Machine.answers [.prepareSnapshot, .takePicture] (answerDaemonDied p) :=
  signalAPIResult_plain.bind fun _ => signalAPIResult_plain.bind fun _ => notifyDaemonDied_quiet

theorem procEvtPrepareSnapshotState_moves (hevt : evt ∈ SmState.special .prepareSnapshot) :
    Does (procEvtPrepareSnapshotState p evt payload) w
      fun _ w' l => PrepareSnapshotMove payload evt w w' l := by
  cases evt with
  | evtInternal =>
    by_cases h : payload.internalEvt = .prepSnapshotDone
    · show Does (evtInternalPrepareSnapshot p payload.internalEvt) w _
      rw [h]
      apply Emitter.leads
      intro _
      apply does_setState
      apply (signalAPIResult_plain _).bind
      rintro _ _ _ ⟨rfl, rfl⟩
      exact leads_pure (.prepared h)
    · apply (evtInternalPrepareSnapshot_quiet h w).mono
      rintro _ _ _ ⟨rfl, rfl⟩
      exact .internal h
  | evtNotify =>
    by_cases h : payload.serverEvt = .daemonDied
    · show Does (evtNotifyPrepareSnapshot p payload.serverEvt) w _
      rw [h]
      apply (answerDaemonDied_emits w).mono
      rintro _ _ _ ⟨rfl, rfl⟩
      exact .daemonDied h
    · apply (evtNotifyPrepareSnapshot_quiet h w).mono
      rintro _ _ _ ⟨rfl, rfl⟩
      exact .notify h
  | regFaceImage | sendCommandRestart => exact leads_pure (.ignored (by decide))
  | _ => exact absurd hevt (by decide)

end PrepareSnapshot

/-! ## `QCAMERA_SM_STATE_PIC_TAKING` -/

inductive PicTakingMove (b : Build) (p : Parent) (payload : Payload) :
    SmEvt → View → View → List SmEvt → Prop
  | cancelled {evt : SmEvt} {w : View} (hevt : evt ∈ [.stopPreview, .cancelPicture]) :
      PicTakingMove b p payload evt w { w with state := .previewStopped } [evt]
  | sendCommand {w : View} : PicTakingMove b p payload .sendCommand w w [.sendCommand]
  | longshotOff {w : View} (hb : b.vanillaHal = false) (h : payload.cmd = .longshotOff) :
      PicTakingMove b p payload .sendCommand w { w with state := .previewing } [.sendCommand]
  | notify {w : View} (h : payload.serverEvt ≠ .daemonDied) :
      PicTakingMove b p payload .evtNotify w w []
  | daemonDied {w : View} (h : payload.serverEvt = .daemonDied) :
      PicTakingMove b p payload .evtNotify w w [.prepareSnapshot, .takePicture]
  | stopCaptureChannel {w : View} {v : Preview} :
      PicTakingMove b p payload .stopCaptureChannel w { w with preview := v } [.stopCaptureChannel]
  | done {w : View} (hrestart : ¬p.Says .isPreviewRestartEnabled true) :
      PicTakingMove b p payload .snapshotDone w { w with state := .previewStopped } []
  | doneBeside {w : View} (hrestart : ¬p.Says .isPreviewRestartEnabled false)
      (hmanual : ¬p.Says .isManualCaptureType3 true) :
      PicTakingMove b p payload .snapshotDone w { w with state := .previewing } []
  | doneRestart {w : View} {rc : Status} {v : Preview}
      (hrestart : ¬p.Says .isPreviewRestartEnabled false)
      (hmanual : ¬p.Says .isManualCaptureType3 false) (h : Restarted p false rc w.preview v) :
      PicTakingMove b p payload .snapshotDone w { w with state := .previewing, preview := v } []
  | ignored {w : View} : PicTakingMove b p payload .sendCommandRestart w w []

section PicTaking

variable {b : Build} {p : Parent} {evt : SmEvt} {payload : Payload} {w : View}

theorem sendCommandCapture_does {cmd : CameraCmd} :
    Does (sendCommandCapture b p .sendCommand cmd) w fun _ w' l => l = [.sendCommand] ∧
      (w' = w ∨ b.vanillaHal = false ∧ cmd = .longshotOff ∧
        w' = { w with state := .previewing }) := by
  apply Emitter.leads
  intro rc
  apply leads_ite
  · rintro ⟨hb, hcmd⟩
    rw [Bool.not_eq_true'] at hb
    apply does_setState
    exact does_reply ⟨rfl, .inr ⟨hb, hcmd, rfl⟩⟩
  · intro _
    exact does_reply ⟨rfl, .inl rfl⟩

theorem snapshotDonePicTaking_moves : Does (snapshotDonePicTaking p .snapshotDone) w
    fun _ w' l => PicTakingMove b p payload .snapshotDone w w' l := by
  apply Emitter.leads
  intro rc
  apply does_ask
  · intro hrestart
    apply leads_pos rfl
    apply does_ask
    · intro hmanual
      apply leads_pos rfl
      apply Emitter.leads
      intro s
      apply Emitter.leads
      intro _
      refine (modify_quiet ?_ ?_).leads fun _ => ?_
      · exact fun _ => rfl
      · exact fun _ => rfl
      · apply restartEarly_restarted.bind
        rintro rc _ _ ⟨v, h, rfl, rfl⟩
        apply does_setState
        apply (replyEvt_quiet _).mono
        rintro _ _ _ ⟨rfl, rfl⟩
        exact .doneRestart hrestart hmanual h
    · intro hmanual
      apply leads_neg Bool.false_ne_true
      apply leads_pure_bind
      apply does_setState
      apply (replyEvt_quiet _).mono
      rintro _ _ _ ⟨rfl, rfl⟩
      exact .doneBeside hrestart hmanual
  · intro hrestart
    apply leads_neg Bool.false_ne_true
    apply does_setState
    apply (replyEvt_quiet _).mono
    rintro _ _ _ ⟨rfl, rfl⟩
    exact .done hrestart

theorem stopCaptureChannel_moves : Does (stopCaptureChannel p .stopCaptureChannel) w
    fun _ w' l => PicTakingMove b p payload .stopCaptureChannel w w' l := by
  apply Emitter.leads
  intro restart
  apply Emitter.leads
  intro rc
  apply leads_ite
  · intro _
    apply Emitter.leads
    intro _
    apply restartEarly_restarted.bind
    rintro rc _ _ ⟨v, _, rfl, rfl⟩
    exact does_reply .stopCaptureChannel
  · intro _
    apply leads_pure_bind
    exact does_reply .stopCaptureChannel

theorem procEvtPicTakingState_moves (hevt : evt ∈ SmState.special .picTaking) :
    Does (procEvtPicTakingState b p evt payload) w
      fun _ w' l => PicTakingMove b p payload evt w w' l := by
  cases evt with
  | stopPreview | cancelPicture =>
    apply Emitter.leads
    intro rc
    apply does_setState
    exact does_reply (.cancelled (by decide))
  | sendCommand =>
    apply sendCommandCapture_does.mono
    rintro _ _ _ ⟨rfl, rfl | ⟨hb, h, rfl⟩⟩
    · exact .sendCommand
    · exact .longshotOff hb h
  | evtNotify =>
    by_cases h : payload.serverEvt = .daemonDied
    · show Does (evtNotifyCapture p payload.serverEvt) w _
      rw [h]
      apply (answerDaemonDied_emits w).mono
      rintro _ _ _ ⟨rfl, rfl⟩
      exact .daemonDied h
    · apply (evtNotifyCapture_quiet h w).mono
      rintro _ _ _ ⟨rfl, rfl⟩
      exact .notify h
  | stopCaptureChannel => exact stopCaptureChannel_moves
  | snapshotDone => exact snapshotDonePicTaking_moves
  | sendCommandRestart => exact leads_pure .ignored
  | _ => exact absurd hevt (by decide)

end PicTaking

/-! ## `QCAMERA_SM_STATE_RECORDING` -/

inductive RecordingMove : SmEvt → View → View → List SmEvt → Prop
  | takePicture {w : View} :
      RecordingMove .takePicture w { w with state := .videoPicTaking } [.takePicture]
  | takePictureFails {w : View} :
      RecordingMove .takePicture w { w with state := .recording } [.takePicture]
  | stopRecording {w : View} :
      RecordingMove .stopRecording w { w with state := .previewing } [.stopRecording]
  | stopPreview {w : View} :
      RecordingMove .stopPreview w { w with state := .previewStopped, preview := .down }
        [.stopPreview]
  | ignored {w : View} : RecordingMove .sendCommandRestart w w []

theorem procEvtRecordingState_moves {p : Parent} {evt : SmEvt} {payload : Payload} {w : View}
    (hevt : evt ∈ SmState.special .recording) :
    Does (procEvtRecordingState p evt payload) w fun _ w' l => RecordingMove evt w w' l := by
  cases evt with
  | takePicture =>
    apply does_setState
    apply Emitter.leads
    intro rc
    apply leads_ite
    · intro _
      apply Emitter.leads
      intro _
      apply does_setState
      exact does_reply .takePictureFails
    · intro _
      exact does_reply .takePicture
  | stopRecording =>
    apply Emitter.leads
    intro rc
    apply does_setState
    exact does_reply .stopRecording
  | stopPreview =>
    apply Emitter.leads
    intro _
    apply does_setState
    apply does_stop fun _ _ => rfl
    intro rc
    apply does_setState
    exact does_reply .stopPreview
  | sendCommandRestart => exact leads_pure .ignored
  | _ => exact absurd hevt (by decide)

/-! ## `QCAMERA_SM_STATE_VIDEO_PIC_TAKING` -/

inductive VideoPicTakingMove : SmEvt → View → View → List SmEvt → Prop
  | stopRecording {w : View} :
      VideoPicTakingMove .stopRecording w { w with state := .previewing } [.stopRecording]
  | cancelPicture {w : View} :
      VideoPicTakingMove .cancelPicture w { w with state := .recording } [.cancelPicture]
  | stopPreview {w : View} :
      VideoPicTakingMove .stopPreview w { w with state := .previewStopped, preview := .down }
        [.stopPreview]
  | snapshotDone {w : View} :
      VideoPicTakingMove .snapshotDone w { w with state := .recording } []
  | ignored {w : View} : VideoPicTakingMove .sendCommandRestart w w []

theorem procEvtVideoPicTakingState_moves {p : Parent} {evt : SmEvt} {payload : Payload} {w : View}
    (hevt : evt ∈ SmState.special .videoPicTaking) :
    Does (procEvtVideoPicTakingState p evt payload) w
      fun _ w' l => VideoPicTakingMove evt w w' l := by
  cases evt with
  | stopRecording =>
    apply Emitter.leads
    intro _
    apply does_setState
    apply Emitter.leads
    intro rc
    apply does_setState
    exact does_reply .stopRecording
  | cancelPicture =>
    apply Emitter.leads
    intro rc
    apply does_setState
    exact does_reply .cancelPicture
  | stopPreview =>
    apply Emitter.leads
    intro _
    apply does_setState
    apply Emitter.leads
    intro _
    apply does_setState
    apply does_stop fun _ _ => rfl
    intro rc
    apply does_setState
    exact does_reply .stopPreview
  | snapshotDone =>
    apply Emitter.leads
    intro rc
    apply does_setState
    apply (replyEvt_quiet _).mono
    rintro _ _ _ ⟨rfl, rfl⟩
    exact .snapshotDone
  | sendCommandRestart => exact leads_pure .ignored
  | _ => exact absurd hevt (by decide)

/-! ## `QCAMERA_SM_STATE_PREVIEW_PIC_TAKING` -/

inductive CaptureMove (p : Parent) (payload : Payload) : SmEvt → View → View → List SmEvt → Prop
  | down {evt : SmEvt} {w : View} (hevt : evt ∈ [.setParamsStop, .restartStopPreview]) :
      CaptureMove p payload evt w { w with preview := .down } [evt]
  | setParamsRestart {w : View} :
      CaptureMove p payload .setParamsRestart w { w with preview := ⟨true, true⟩ }
        [.setParamsRestart]
  | setParamsRestartFails {w : View} {v : Preview} :
      CaptureMove p payload .setParamsRestart w { w with state := .picTaking, preview := v }
        [.setParamsRestart]
  | restartStartPreview {w : View} {rc : Status} {v : Preview}
      (h : Restarted p false rc w.preview v) :
      CaptureMove p payload .restartStartPreview w { w with preview := v } [.restartStartPreview]
  | sendCommand {w : View} : CaptureMove p payload .sendCommand w w [.sendCommand]
  | longshotOff {w : View} (h : payload.cmd = .longshotOff) :
      CaptureMove p payload .sendCommand w { w with state := .previewing } [.sendCommand]
  | cancelPicture {w : View} :
      CaptureMove p payload .cancelPicture w { w with state := .previewing } [.cancelPicture]
  | stopPreview {w : View} :
      CaptureMove p payload .stopPreview w { w with state := .previewStopped, preview := .down }
        [.stopPreview]
  | kept {evt : SmEvt} {w : View}
      (hevt : evt ∈ [.preStartRecording, .startRecording, .prepareSnapshot]) :
      CaptureMove p payload evt w w [evt]
  | preStartRecording {w : View} {rc : Status} {v : Preview} (hregular : ¬p.Says .isZSLMode true)
      (hsingle : ¬p.Says .isLongshotEnabled true)
      (hhint : ¬p.Says .getRecordingHintValue true) (hrelated : ¬p.Says .isRelatedSensorsOn true)
      (h : Restarted p false rc .down v) :
      CaptureMove p payload .preStartRecording w { w with preview := v } [.preStartRecording]
  | startRecording {w : View} :
      CaptureMove p payload .startRecording w { w with state := .videoPicTaking }
        [.startRecording]
  | retroSnapshot {w : View} (hretro : ¬p.Says .isRetroPicture false) :
      CaptureMove p payload .prepareSnapshot w w []
  | internal {w : View} (h : payload.internalEvt ≠ .prepSnapshotDone)
      (h' : payload.internalEvt ≠ .readyForSnapshot) : CaptureMove p payload .evtInternal w w []
  | prepared {w : View} (h : payload.internalEvt = .prepSnapshotDone)
      (hretro : ¬p.Says .isRetroPicture false) :
      CaptureMove p payload .evtInternal w w [.prepareSnapshot]
  | ready {w : View} (h : payload.internalEvt = .readyForSnapshot)
      (hretro : ¬p.Says .isRetroPicture false) :
      CaptureMove p payload .evtInternal w w [.takePicture]
  | unasked {w : View} (hretro : ¬p.Says .isRetroPicture true) :
      CaptureMove p payload .evtInternal w w []
  | notify {w : View} (h : payload.serverEvt ≠ .daemonDied) :
      CaptureMove p payload .evtNotify w w []
  | daemonDied {w : View} (h : payload.serverEvt = .daemonDied) :
      CaptureMove p payload .evtNotify w w [.prepareSnapshot, .takePicture]
  | snapshotDone {w : View} :
      CaptureMove p payload .snapshotDone w { w with state := .previewing } []
  | retroDone {w : View} (hretro : ¬p.Says .isRetroPicture false) :
      CaptureMove p payload .snapshotDone w { w with state := .previewing } [.snapshotDone]
  | ignored {w : View} : CaptureMove p payload .sendCommandRestart w w []

section Capture

variable {b : Build} {p : Parent} {evt : SmEvt} {payload : Payload} {w : View}

instance : Silent (cancelCapture p) := by
  unfold cancelCapture
  infer_instance

theorem setParamsRestartCapture_moves : Does (setParamsRestartCapture p .setParamsRestart) w
    fun _ w' l => CaptureMove p payload .setParamsRestart w w' l := by
  apply restartPreviewDelayed_restarted.bind
  rintro rc _ _ ⟨v, h, rfl, rfl⟩
  apply leads_ite
  · intro _
    apply does_setState
    apply Emitter.leads
    intro _
    exact does_reply .setParamsRestartFails
  · intro hrc
    apply Emitter.leads
    intro _
    cases h with
    | done => exact does_reply .setParamsRestart
    | unprepared h _ | unstarted h _ _ => exact absurd h hrc

theorem stopPreviewCapture_moves : Does (stopPreviewCapture p .stopPreview) w
    fun _ w' l => CaptureMove p payload .stopPreview w w' l := by
  -- however the capture is cancelled, the preview is taken down after it
  have stopped : ∀ rc, Does (do
      perform p .unpreparePreview
      setState .previewStopped
      reply .stopPreview rc) w fun _ w' l => CaptureMove p payload .stopPreview w w' l := by
    intro rc
    apply does_perform_stop fun _ _ => rfl
    apply does_setState
    exact does_reply .stopPreview
  apply Emitter.leads
  intro zsl
  apply leads_ite
  · intro _
    apply Emitter.leads
    intro rc
    apply Emitter.leads
    intro _
    exact leads_pure_bind (stopped rc)
  · intro _
    apply Emitter.leads
    intro longshot
    apply leads_ite
    · intro _
      exact Emitter.leads stopped
    · intro _
      apply Emitter.leads
      intro rc
      apply Emitter.leads
      intro _
      exact leads_pure_bind (stopped rc)

theorem evtInternalCapture_moves : Does (evtInternalCapture p payload.internalEvt) w
    fun _ w' l => CaptureMove p payload .evtInternal w w' l := by
  by_cases hprepared : payload.internalEvt = .prepSnapshotDone
  · rw [hprepared]
    apply does_ask
    · intro hretro
      apply leads_pos rfl
      apply Emitter.leads
      intro _
      apply (signalAPIResult_plain _).bind
      rintro _ _ _ ⟨rfl, rfl⟩
      exact leads_pure (.prepared hprepared hretro)
    · intro hretro
      apply leads_neg Bool.false_ne_true
      exact leads_pure (.unasked hretro)
  · by_cases hready : payload.internalEvt = .readyForSnapshot
    · rw [hready]
      apply does_ask
      · intro hretro
        apply leads_pos rfl
        apply (signalAPIResult_plain _).bind
        rintro _ _ _ ⟨rfl, rfl⟩
        exact leads_pure (.ready hready hretro)
      · intro hretro
        apply leads_neg Bool.false_ne_true
        exact leads_pure (.unasked hretro)
    · apply (evtInternalCapture_quiet hprepared hready w).mono
      rintro _ _ _ ⟨rfl, rfl⟩
      exact .internal hprepared hready

theorem procEvtPreviewPicTakingState_moves (hevt : evt ∈ SmState.special .previewPicTaking) :
    Does (procEvtPreviewPicTakingState b p evt payload) w
      fun _ w' l => CaptureMove p payload evt w w' l := by
  -- each event is followed command by command to its answer
  cases evt with
  | setParamsStop =>
    apply does_stop fun _ _ => rfl
    intro rc
    apply Emitter.leads
    intro _
    exact does_reply (.down (by decide))
  | setParamsRestart => exact setParamsRestartCapture_moves
  | sendCommand =>
    apply sendCommandCapture_does.mono
    rintro _ _ _ ⟨rfl, rfl | ⟨_, h, rfl⟩⟩
    · exact .sendCommand
    · exact .longshotOff h
  | cancelPicture =>
    apply Emitter.leads
    intro rc
    apply does_setState
    exact does_reply .cancelPicture
  | stopPreview => exact stopPreviewCapture_moves
  | preStartRecording =>
    -- a recording may start only in a ZSL capture or a long shot
    apply isZslOrLongshot_does.bind
    rintro zsl _ _ ⟨rfl, rfl, _, hregular⟩
    apply leads_ite
    · intro _
      exact does_reply (.kept (by decide))
    · intro h
      rw [Bool.not_eq_true] at h
      obtain ⟨hregular, hsingle⟩ := hregular h
      apply preStartRecording_does.bind
      rintro rc _ _ ⟨rfl, rfl | ⟨hhint, hrelated, rc', v, h, rfl⟩⟩
      · exact does_reply (.kept (by decide))
      · exact does_reply (.preStartRecording hregular hsingle hhint hrelated h)
  | startRecording =>
    apply Emitter.leads
    intro zsl
    apply leads_ite
    · intro _
      exact does_reply (.kept (by decide))
    · intro _
      apply Emitter.leads
      intro rc
      apply leads_ite
      · intro _
        apply does_setState
        exact does_reply .startRecording
      · intro _
        exact does_reply (.kept (by decide))
  | prepareSnapshot =>
    apply does_ask
    · -- a retro picture leaves the flash on: nothing is answered yet
      intro hretro
      apply leads_pos rfl
      apply Emitter.leads
      intro rc
      apply leads_ite
      · intro _
        exact does_reply (.kept (by decide))
      · intro _
        exact leads_pure (.retroSnapshot hretro)
    · intro _
      apply leads_neg Bool.false_ne_true
      exact does_reply (.kept (by decide))
  | evtInternal => exact evtInternalCapture_moves
  | evtNotify =>
    -- only the death of the daemon leaves the state
    by_cases h : payload.serverEvt = .daemonDied
    · show Does (evtNotifyCapture p payload.serverEvt) w _
      rw [h]
      apply (answerDaemonDied_emits w).mono
      rintro _ _ _ ⟨rfl, rfl⟩
      exact .daemonDied h
    · apply (evtNotifyCapture_quiet h w).mono
      rintro _ _ _ ⟨rfl, rfl⟩
      exact .notify h
  | snapshotDone =>
    apply Emitter.leads
    intro rc
    apply does_setState
    apply does_ask
    · intro hretro
      apply leads_pos rfl
      apply (signalAPIResult_plain _).bind
      rintro _ _ _ ⟨rfl, rfl⟩
      apply (replyEvt_quiet _).mono
      rintro _ _ _ ⟨rfl, rfl⟩
      exact .retroDone hretro
    · intro _
      apply leads_neg Bool.false_ne_true
      apply (replyEvt_quiet _).mono
      rintro _ _ _ ⟨rfl, rfl⟩
      exact .snapshotDone
  | restartStopPreview =>
    apply does_perform_stop fun _ _ => rfl
    exact does_reply (.down (by decide))
  | restartStartPreview =>
    apply does_prepareStart (f := reply .restartStartPreview)
    intro rc v h
    exact does_reply (.restartStartPreview h)
  | sendCommandRestart => exact leads_pure .ignored
  | _ => exact absurd hevt (by decide)

end Capture

end QCamera
