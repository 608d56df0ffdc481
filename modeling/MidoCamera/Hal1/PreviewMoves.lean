import MidoCamera.Hal1.Operations

/-!
# What the handlers do apart, without a capture

For each of the states `PREVIEW_STOPPED`, `PREVIEW_READY` and `PREVIEWING`, the events that its
handler does not handle in the way of all others, and all that may come of each: the state and the
preview afterwards, and the results that are signalled. Where the parent decides, a move says what
the parent must have returned.
-/

namespace QCamera

open Loop

/-! ## `QCAMERA_SM_STATE_PREVIEW_STOPPED` -/

inductive StoppedMove : SmEvt → View → View → List SmEvt → Prop
  | kept {evt : SmEvt} {w : View}
      (hevt : evt ∈ [.preparePreview, .startPreview, .startNodisplayPreview]) :
      StoppedMove evt w w [evt]
  | prepared {evt : SmEvt} {w : View} (hevt : evt ∈ [.preparePreview, .startPreview]) :
      StoppedMove evt w { w with state := .previewReady, preview := ⟨true, false⟩ } [evt]
  | started {evt : SmEvt} {w : View} (hevt : evt ∈ [.startPreview, .startNodisplayPreview]) :
      StoppedMove evt w { w with state := .previewing, preview := ⟨true, true⟩ } [evt]
  | unprepared {evt : SmEvt} {w : View} (hevt : evt ∈ [.startPreview, .startNodisplayPreview]) :
      StoppedMove evt w { w with preview := .down } [evt]
  | ignored {w : View} : StoppedMove .sendCommandRestart w w []

section Stopped

variable {p : Parent} {evt : SmEvt} {payload : Payload} {w : View}

theorem afterParamInit_prepare : Does (afterParamInit p .preparePreview) w fun rc w' l =>
    l = [] ∧ (rc = .noError ∧ w' = { w with preview := ⟨true, false⟩ } ∨
      rc ≠ .noError ∧ w' = w) := by
  apply Emitter.leads
  intro rc
  apply leads_ite
  · intro h
    exact leads_pure ⟨rfl, .inr ⟨h, rfl⟩⟩
  · intro _
    rw [← bind_pure (call p .preparePreview)]
    apply does_prepare
    · intro _
      exact leads_pure ⟨rfl, .inl ⟨rfl, rfl⟩⟩
    · intro rc hrc _
      exact leads_pure ⟨rfl, .inr ⟨hrc, rfl⟩⟩

theorem startFromStopped_started (hw : w.preview = ⟨true, false⟩) :
    Does (startFromStopped p) w fun _ w' l =>
      l = [] ∧ (w' = { w with state := .previewing, preview := ⟨true, true⟩ } ∨
        w' = { w with preview := .down }) := by
  apply Emitter.leads
  intro _
  apply does_start
  · apply leads_neg (not_not_intro rfl)
    apply does_setState
    refine leads_pure ⟨rfl, .inl ?_⟩
    rw [hw]
  · intro rc hrc _
    apply leads_pos hrc
    apply does_perform_stop fun _ _ => rfl
    exact leads_pure ⟨rfl, .inr rfl⟩

theorem startFromStopped_moves (hevt : evt ∈ [.startPreview, .startNodisplayPreview]) :
    Does (do let rc ← startFromStopped p; reply evt rc) { w with preview := ⟨true, false⟩ }
      fun _ w' l => StoppedMove evt w w' l := by
  apply (startFromStopped_started rfl).bind
  rintro rc _ _ ⟨rfl, rfl | rfl⟩
  · exact does_reply (.started hevt)
  · exact does_reply (.unprepared hevt)

theorem procEvtPreviewStoppedState_moves (hevt : evt ∈ SmState.special .previewStopped) :
    Does (procEvtPreviewStoppedState p evt payload) w fun _ w' l => StoppedMove evt w w' l := by
  cases evt with
  | preparePreview =>
    apply afterParamInit_prepare.bind
    rintro rc _ _ ⟨rfl, ⟨hrc, rfl⟩ | ⟨hrc, rfl⟩⟩
    · apply leads_pos hrc
      apply does_setState
      exact does_reply (.prepared (by decide))
    · exact leads_neg hrc (does_reply (.kept (by decide)))
  | startPreview =>
    apply Emitter.leads
    intro rc
    apply leads_ite
    · intro _
      exact does_reply (.kept (by decide))
    · intro _
      apply Emitter.leads
      intro window
      apply leads_ite
      · intro _
        apply does_prepare
        · intro _
          exact leads_pos rfl (startFromStopped_moves (by decide))
        · intro rc hrc _
          exact leads_neg hrc (does_reply (.kept (by decide)))
      · intro _
        apply does_prepare
        · intro _
          apply leads_pos rfl
          apply does_setState
          exact does_reply (.prepared (by decide))
        · intro rc hrc _
          exact leads_neg hrc (does_reply (.kept (by decide)))
  | startNodisplayPreview =>
    apply afterParamInit_prepare.bind
    rintro rc _ _ ⟨rfl, ⟨hrc, rfl⟩ | ⟨hrc, rfl⟩⟩
    · exact leads_pos hrc (startFromStopped_moves (by decide))
    · exact leads_neg hrc (does_reply (.kept (by decide)))
  | sendCommandRestart => exact leads_pure .ignored
  | _ => exact absurd hevt (by decide)

end Stopped

/-! ## `QCAMERA_SM_STATE_PREVIEW_READY` -/

inductive ReadyMove (p : Parent) : SmEvt → View → View → List SmEvt → Prop
  | kept {evt : SmEvt} {w : View} (hevt : evt ∈ [.setPreviewWindow, .startPreview]) :
      ReadyMove p evt w w [evt]
  | started {evt : SmEvt} {w : View}
      (hevt : evt ∈ [.setPreviewWindow, .startPreview, .startNodisplayPreview]) :
      ReadyMove p evt w
        { w with state := .previewing, preview := { w.preview with started := true } } [evt]
  | unprepared {evt : SmEvt} {w : View}
      (hevt : evt ∈ [.setPreviewWindow, .startPreview, .startNodisplayPreview]) :
      ReadyMove p evt w { w with state := .previewStopped, preview := .down } [evt]
  | stopPreview {w : View} :
      ReadyMove p .stopPreview w { w with state := .previewStopped, preview := .down }
        [.stopPreview]
  | setParamsStop {w : View} :
      ReadyMove p .setParamsStop w { w with preview := .down } [.setParamsStop]
  | setParamsRestart {w : View} :
      ReadyMove p .setParamsRestart w { w with preview := ⟨true, false⟩ } [.setParamsRestart]
  | setParamsRestartFails {w : View} (h : ¬p.Ok .preparePreview) :
      ReadyMove p .setParamsRestart w { w with state := .previewStopped } [.setParamsRestart]
  | ignored {w : View} : ReadyMove p .sendCommandRestart w w []

section Ready

variable {p : Parent} {evt : SmEvt} {payload : Payload} {w : View}

theorem startFromReady_moves {f : Status → Proc Status}
    (hf : ∀ rc, ∃ rc', f rc = reply evt rc')
    (hevt : evt ∈ [.setPreviewWindow, .startPreview, .startNodisplayPreview]) :
    Does (startFromReady p >>= f) w fun _ w' l => ReadyMove p evt w w' l := by
  have started : Does (startFromReady p) w fun _ w' l => l = [] ∧
      (w' = { w with state := .previewing, preview := { w.preview with started := true } } ∨
        w' = { w with state := .previewStopped, preview := .down }) := by
    apply does_start
    · apply leads_neg (not_not_intro rfl)
      apply does_setState
      exact leads_pure ⟨rfl, .inl rfl⟩
    · intro rc hrc _
      apply leads_pos hrc
      apply does_perform_stop fun _ _ => rfl
      apply does_setState
      exact leads_pure ⟨rfl, .inr rfl⟩
  apply started.bind
  rintro rc _ _ ⟨rfl, h⟩
  obtain ⟨rc', hrc'⟩ := hf rc
  rw [hrc']
  rcases h with rfl | rfl
  · exact does_reply (.started hevt)
  · exact does_reply (.unprepared hevt)

theorem procEvtPreviewReadyState_moves (hevt : evt ∈ SmState.special .previewReady) :
    Does (procEvtPreviewReadyState p evt payload) w fun _ w' l => ReadyMove p evt w w' l := by
  cases evt with
  | setPreviewWindow =>
    apply Emitter.leads
    intro _
    apply Emitter.leads
    intro window
    apply leads_ite
    · intro _
      apply Emitter.leads
      intro _
      exact startFromReady_moves (fun rc => ⟨rc, rfl⟩) (by decide)
    · intro _
      exact does_reply (.kept (by decide))
  | setParamsStop =>
    apply does_perform_stop fun _ _ => rfl
    apply Emitter.leads
    intro _
    exact does_reply .setParamsStop
  | setParamsRestart =>
    apply does_prepare
    · intro _
      apply leads_neg (not_not_intro rfl)
      apply Emitter.leads
      intro _
      exact does_reply .setParamsRestart
    · intro rc hrc hprepare
      apply leads_pos hrc
      apply does_setState
      apply Emitter.leads
      intro _
      exact does_reply (.setParamsRestartFails hprepare)
  | startNodisplayPreview => exact startFromReady_moves (fun _ => ⟨.noError, rfl⟩) (by decide)
  | startPreview =>
    apply Emitter.leads
    intro window
    apply leads_ite
    · intro _
      exact startFromReady_moves (fun _ => ⟨.noError, rfl⟩) (by decide)
    · intro _
      exact does_reply (.kept (by decide))
  | stopPreview =>
    apply does_perform_stop fun _ _ => rfl
    apply does_setState
    exact does_reply .stopPreview
  | sendCommandRestart => exact leads_pure .ignored
  | _ => exact absurd hevt (by decide)

end Ready

/-! ## `QCAMERA_SM_STATE_PREVIEWING` -/

/-- A picture can be taken: it can be configured, and its frames can be asked for, with ZSL or
without. -/
def Parent.CaptureOk (p : Parent) : Prop :=
  p.Ok .configureAdvancedCapture ∧ (p.Says .isZSLMode false ∨ p.Ok .takeZslPicture) ∧
    (p.Says .isZSLMode true ∨ p.Ok .takeRegularPicture)

def Parent.Regular (p : Parent) : Prop := p.Says .isZSLMode false ∧ p.Says .isLongshotEnabled false

/-- What is left of the preview when a capture is to go on beside it. -/
def Beside (p : Parent) (v v' : Preview) : Prop :=
  ∃ v₁, (v₁ = v ∨ ¬p.Says .getRecordingHintValue false ∧ ∃ rc, Restarted p true rc .down v₁) ∧
    (v' = v₁ ∨ ¬p.Says .isZSLMode true ∧ ¬p.Fails .configureAdvancedCapture ∧ v' = .down)

/-- After the command, the preview is to be restarted at once. -/
def Parent.AsksRestart (p : Parent) (cmd : CameraCmd) : Prop :=
  ∃ calls, (p.out calls (.sendCommand cmd)).1 = SmEvt.restartPerview.value ∧
    (p.out calls (.sendCommand cmd)).2 ≠ SmEvt.delayedRestart.value

/-- How a capture with ZSL or in longshot mode is entered. -/
inductive Entered (p : Parent) (w : View) : View → Prop
  | stopped (hrestart : ¬p.Says .isPreviewRestartEnabled false)
      (hmanual : ¬p.Says .isManualCaptureType3 false) :
      Entered p w { w with state := .picTaking, preview := .down }
  | beside (h : ¬(p.Says .isPreviewRestartEnabled true ∧ p.Says .isManualCaptureType3 true)) :
      Entered p w { w with state := .previewPicTaking }

inductive PreviewingMove (b : Build) (p : Parent) (cmd : CameraCmd) :
    SmEvt → View → View → List SmEvt → Prop
  | down {evt : SmEvt} {w : View} (hevt : evt ∈ [.setParamsStop, .restartStopPreview]) :
      PreviewingMove b p cmd evt w { w with preview := .down } [evt]
  | stopPreview {w : View} :
      PreviewingMove b p cmd .stopPreview w { w with state := .previewStopped, preview := .down }
        [.stopPreview]
  | setParamsRestart {w : View} :
      PreviewingMove b p cmd .setParamsRestart w { w with preview := ⟨true, true⟩ }
        [.setParamsRestart]
  | setParamsUnstarted {w : View} :
      PreviewingMove b p cmd .setParamsRestart w
        { w with state := .previewStopped, preview := .down } [.setParamsRestart]
  | setParamsUnprepared {w : View} (h : ¬p.Ok .preparePreview) :
      PreviewingMove b p cmd .setParamsRestart w w [.setParamsRestart]
  | hintKept {evt : SmEvt} {w : View} (hevt : evt ∈ [.preTakePicture, .preStartRecording]) :
      PreviewingMove b p cmd evt w w [evt]
  | preTakePicture {w : View} {rc : Status} {v : Preview}
      (hhint : ¬p.Says .getRecordingHintValue false) (hrelated : ¬p.Says .isRelatedSensorsOn true)
      (h : Restarted p true rc .down v) :
      PreviewingMove b p cmd .preTakePicture w { w with preview := v } [.preTakePicture]
  | preStartRecording {w : View} {rc : Status} {v : Preview}
      (hhint : ¬p.Says .getRecordingHintValue true) (hrelated : ¬p.Says .isRelatedSensorsOn true)
      (h : Restarted p false rc .down v) :
      PreviewingMove b p cmd .preStartRecording w { w with preview := v } [.preStartRecording]
  | startRecording {w : View} :
      PreviewingMove b p cmd .startRecording w { w with state := .recording } [.startRecording]
  | startRecordingFails {w : View} :
      PreviewingMove b p cmd .startRecording w w [.startRecording]
  | prepareSnapshot {w : View} :
      PreviewingMove b p cmd .prepareSnapshot w { w with state := .prepareSnapshot } []
  | prepareSnapshotFails {w : View} :
      PreviewingMove b p cmd .prepareSnapshot w w [.prepareSnapshot]
  | picture {w : View} {v : Preview} :
      PreviewingMove b p cmd .takePicture w { w with state := .picTaking, preview := v }
        [.takePicture]
  | retroPicture {w : View} {v : Preview} (hrestart : ¬p.Says .isPreviewRestartEnabled false)
      (hmanual : ¬p.Says .isManualCaptureType3 false) (hretro : ¬p.Says .isRetroPicture false) :
      PreviewingMove b p cmd .takePicture w { w with state := .picTaking, preview := v } []
  | pictureFails {w : View} {v : Preview} (hzsl : ¬p.Regular)
      (hrestart : ¬p.Says .isPreviewRestartEnabled false)
      (hmanual : ¬p.Says .isManualCaptureType3 false) (h : ¬p.CaptureOk) :
      PreviewingMove b p cmd .takePicture w { w with state := .previewing, preview := v }
        [.takePicture]
  | recovered {w : View} :
      PreviewingMove b p cmd .takePicture w
        { w with state := .previewing, preview := ⟨true, true⟩ } [.takePicture]
  | lost {w : View} :
      PreviewingMove b p cmd .takePicture w { w with state := .previewStopped, preview := .down }
        [.takePicture]
  | beside {w : View} {v : Preview} {state : SmState} (hzsl : ¬p.Regular)
      (hstop : ¬(p.Says .isPreviewRestartEnabled true ∧ p.Says .isManualCaptureType3 true))
      (hstate : state ∈ [.previewing, .previewPicTaking]) (h : Beside p w.preview v) :
      PreviewingMove b p cmd .takePicture w { w with state := state, preview := v } [.takePicture]
  | retroBeside {w : View} {v : Preview} (hzsl : ¬p.Regular)
      (hstop : ¬(p.Says .isPreviewRestartEnabled true ∧ p.Says .isManualCaptureType3 true))
      (hretro : ¬p.Says .isRetroPicture false) (h : Beside p w.preview v) :
      PreviewingMove b p cmd .takePicture w { w with state := .previewPicTaking, preview := v } []
  | sendCommand {w : View} {needs delayed : Bool}
      (h : ¬(b.vanillaHal = false ∧ cmd = .longshotOn ∧ needs = true)) :
      PreviewingMove b p cmd .sendCommand w { w with needs := needs, delayed := delayed }
        [.sendCommand]
  | longshotStop {w : View} (hb : b.vanillaHal = false) (hcmd : cmd = .longshotOn) :
      PreviewingMove b p cmd .sendCommand w
        { w with preview := .down, needs := true, delayed := true } [.sendCommand]
  | longshotRestart {w : View} {rc : Status} {v : Preview} (hb : b.vanillaHal = false)
      (hcmd : cmd = .longshotOn) (hasks : p.AsksRestart cmd) (h : Restarted p true rc .down v) :
      PreviewingMove b p cmd .sendCommand w
        { w with preview := v, needs := true, delayed := false } [.sendCommand]
  | commandKept {w : View} (h : ¬(b.vanillaHal = false ∧ cmd = .longshotOn ∧ w.needs = true ∧
        w.delayed = true)) :
      PreviewingMove b p cmd .sendCommandRestart w w [.sendCommandRestart]
  | commandRestart {w : View} {rc : Status} {v : Preview} (hb : b.vanillaHal = false)
      (hcmd : cmd = .longshotOn) (hneeds : w.needs = true) (hdelayed : w.delayed = true)
      (h : Restarted p true rc w.preview v) :
      PreviewingMove b p cmd .sendCommandRestart w { w with preview := v } [.sendCommandRestart]
  | restartStartPreview {w : View} {rc : Status} {v : Preview}
      (h : Restarted p false rc w.preview v) :
      PreviewingMove b p cmd .restartStartPreview w { w with preview := v } [.restartStartPreview]

section Previewing

variable {b : Build} {p : Parent} {evt : SmEvt} {payload : Payload} {cmd : CameraCmd} {w : View}

theorem preTakePicture_does : Does (preTakePicture p) w fun _ w' l => l = [] ∧ (w' = w ∨
    ¬p.Says .getRecordingHintValue false ∧ ¬p.Says .isRelatedSensorsOn true ∧
      ∃ rc v, Restarted p true rc .down v ∧ w' = { w with preview := v }) := by
  apply does_ask
  · intro hhint
    apply does_ask
    · intro _
      apply Emitter.leads
      intro _
      exact leads_pure ⟨rfl, .inl rfl⟩
    · intro hrelated
      apply does_perform_stop fun _ _ => rfl
      apply Emitter.leads
      intro _
      apply (restartPreview_restarted (w := { w with preview := .down })).mono
      rintro rc _ _ ⟨v, h, rfl, rfl⟩
      exact ⟨rfl, .inr ⟨hhint, hrelated, rc, v, h, rfl⟩⟩
  · intro _
    exact leads_pure ⟨rfl, .inl rfl⟩

theorem preStartRecording_does : Does (preStartRecording p) w fun _ w' l => l = [] ∧ (w' = w ∨
    ¬p.Says .getRecordingHintValue true ∧ ¬p.Says .isRelatedSensorsOn true ∧
      ∃ rc v, Restarted p false rc .down v ∧ w' = { w with preview := v }) := by
  apply does_ask
  · intro _
    exact leads_pure ⟨rfl, .inl rfl⟩
  · intro hhint
    apply does_ask
    · intro _
      apply Emitter.leads
      intro _
      exact leads_pure ⟨rfl, .inl rfl⟩
    · intro hrelated
      apply does_perform_stop fun _ _ => rfl
      apply Emitter.leads
      intro _
      apply does_prepareStart (f := pure)
      intro rc v h
      exact leads_pure ⟨rfl, .inr ⟨hhint, hrelated, rc, v, h, rfl⟩⟩

theorem setParamsRestartPreviewing_moves : Does (setParamsRestartPreviewing p .setParamsRestart) w
    fun _ w' l => PreviewingMove b p cmd .setParamsRestart w w' l := by
  apply does_prepare
  · intro _
    apply leads_pos rfl
    apply Emitter.leads
    intro _
    apply (startOrUnprepare_does rfl).bind
    rintro rc _ _ ⟨rfl, ⟨rfl, rfl⟩ | ⟨hrc, _, rfl⟩⟩
    · apply leads_neg (not_not_intro rfl)
      apply leads_pure_bind
      apply Emitter.leads
      intro _
      exact does_reply .setParamsRestart
    · apply leads_pos hrc
      apply does_setState
      apply leads_pure_bind
      apply Emitter.leads
      intro _
      exact does_reply .setParamsUnstarted
  · intro rc hrc hprepare
    apply leads_neg hrc
    apply leads_pure_bind
    apply Emitter.leads
    intro _
    exact does_reply (.setParamsUnprepared hprepare)

theorem prepareSnapshotPreviewing_moves :
    Does (prepareSnapshotPreviewing p .prepareSnapshot) w
      fun _ w' l => PreviewingMove b p cmd .prepareSnapshot w w' l := by
  apply Emitter.leads
  intro rc
  apply leads_ite
  · intro _
    apply does_setState
    apply Emitter.leads
    intro _
    exact leads_pure .prepareSnapshot
  · intro _
    exact does_reply .prepareSnapshotFails

theorem sendCommandPreviewing_moves : Does (sendCommandPreviewing b p .sendCommand cmd) w
    fun _ w' l => PreviewingMove b p cmd .sendCommand w w' l := by
  apply Emitter.leads
  intro rc
  apply does_outArgs
  intro calls
  generalize hout : p.out calls (.sendCommand cmd) = out
  apply does_modify (u := { w with
    needs := out.1 = SmEvt.restartPerview.value, delayed := out.2 = SmEvt.delayedRestart.value })
  · rintro s rfl
    exact ⟨rfl, rfl⟩
  · apply leads_ite
    · rintro ⟨hb, hcmd, hneeds⟩
      rw [Bool.not_eq_true'] at hb
      apply does_perform_stop fun _ _ => rfl
      apply Emitter.leads
      intro _
      apply leads_ite
      · intro hdelayed
        rw [hneeds, hdelayed]
        apply leads_pure_bind
        exact does_reply (.longshotStop hb hcmd)
      · intro hdelayed
        have hasks : p.AsksRestart cmd := by
          refine ⟨calls, ?_⟩
          rw [hout]
          exact ⟨of_decide_eq_true hneeds, fun h => hdelayed (decide_eq_true h)⟩
        rw [Bool.not_eq_true] at hdelayed
        rw [hneeds, hdelayed]
        apply restartPreviewDelayed_restarted.bind
        rintro rc _ _ ⟨v, h, rfl, rfl⟩
        exact does_reply (.longshotRestart hb hcmd hasks h)
    · intro h
      apply leads_pure_bind
      apply does_reply
      apply PreviewingMove.sendCommand
      rintro ⟨hb, hcmd, hneeds⟩
      exact h ⟨by rw [hb]; rfl, hcmd, hneeds⟩

theorem sendCommandRestart_moves : Does (sendCommandRestart b p .sendCommandRestart cmd) w
    fun _ w' l => PreviewingMove b p cmd .sendCommandRestart w w' l := by
  apply leads_bind
  rintro s rfl
  refine ⟨[], (List.append_nil _).symm, ?_⟩
  apply leads_ite
  · rintro ⟨hb, hcmd, hneeds, hdelayed⟩
    rw [Bool.not_eq_true'] at hb
    apply restartPreview_restarted.bind
    rintro rc _ _ ⟨v, h, rfl, rfl⟩
    exact does_reply (.commandRestart hb hcmd hneeds hdelayed h)
  · intro h
    apply leads_pure_bind
    apply does_reply
    apply PreviewingMove.commandKept
    rintro ⟨hb, hcmd, hneeds, hdelayed⟩
    exact h ⟨by rw [hb]; rfl, hcmd, hneeds, hdelayed⟩

theorem isZslOrLongshot_does : Does (isZslOrLongshot p) w fun zsl w' l => l = [] ∧ w' = w ∧
    (zsl = true → ¬p.Regular) ∧
      (zsl = false → ¬p.Says .isZSLMode true ∧ ¬p.Says .isLongshotEnabled true) := by
  apply does_ask
  · intro hzsl
    exact leads_pure ⟨rfl, rfl, fun _ h => hzsl h.1, nofun⟩
  · intro hregular
    rw [← bind_pure (ask p .isLongshotEnabled)]
    apply does_ask
    · intro hlongshot
      exact leads_pure ⟨rfl, rfl, fun _ h => hlongshot h.2, nofun⟩
    · intro hsingle
      exact leads_pure ⟨rfl, rfl, nofun, fun _ => ⟨hregular, hsingle⟩⟩

theorem restartForPicture_does : Does (restartForPicture p) w fun _ w' l => l = [] ∧
    ∃ v, (v = w.preview ∨
      ¬p.Says .getRecordingHintValue false ∧ ∃ rc, Restarted p true rc .down v) ∧
      w' = { w with preview := v } := by
  apply does_ask
  · intro hhint
    apply does_perform_stop fun _ _ => rfl
    apply Emitter.leads
    intro _
    apply restartPreview_restarted.bind
    rintro rc _ _ ⟨v, h, rfl, rfl⟩
    exact leads_pure ⟨rfl, v, .inr ⟨hhint, rc, h⟩, rfl⟩
  · intro _
    exact leads_pure ⟨rfl, w.preview, .inl rfl, rfl⟩

theorem enterZslCapture_entered : Does (enterZslCapture p) w fun _ w' l =>
    l = [] ∧ Entered p w w' := by
  have beside : ¬(p.Says .isPreviewRestartEnabled true ∧ p.Says .isManualCaptureType3 true) →
      Does (do
        setState .previewPicTaking
        modify fun s => { s with mBDelayPreviewMsgs := true } : Proc PUnit) w
          fun _ w' l => l = [] ∧ Entered p w w' := by
    intro h
    apply does_setState
    refine (modify_quiet ?_ ?_ _).mono ?_
    · exact fun _ => rfl
    · exact fun _ => rfl
    · rintro _ _ _ ⟨rfl, rfl⟩
      exact ⟨rfl, .beside h⟩
  apply does_ask
  · intro hrestart
    apply does_ask
    · intro hmanual
      apply does_perform_stop fun _ _ => rfl
      apply Emitter.leads
      intro _
      refine (modify_quiet ?_ ?_).leads fun _ => ?_
      · exact fun _ => rfl
      · exact fun _ => rfl
      · rw [← bind_pure (setState .picTaking)]
        apply does_setState
        exact leads_pure ⟨rfl, .stopped hrestart hmanual⟩
    · intro hmanual
      exact beside fun h => hmanual h.2
  · intro hrestart
    exact beside fun h => hrestart h.1

theorem takePicture_does : Does (takePicture p) w fun rc w' l => l = [] ∧
    (rc ≠ .noError → ¬p.CaptureOk) ∧
      ∃ v, (v = w.preview ∨
        ¬p.Says .isZSLMode true ∧ ¬p.Fails .configureAdvancedCapture ∧ v = .down) ∧
        w' = { w with preview := v } := by
  apply does_call fun _ _ => rfl
  intro calls
  apply leads_ite
  · intro h
    exact leads_pure ⟨rfl, fun _ hok => h (hok.1 calls), w.preview, .inl rfl, rfl⟩
  · intro h
    rw [not_ne_iff] at h
    have hconfigured : ¬p.Fails .configureAdvancedCapture := fun hfails => hfails calls h
    apply does_ask
    · intro hzsl
      apply leads_pos rfl
      rw [← bind_pure (call p .takeZslPicture)]
      apply does_call fun _ _ => rfl
      intro calls
      refine leads_pure ⟨rfl, ?_, w.preview, .inl rfl, rfl⟩
      rintro hrc ⟨_, hregular | hok, _⟩
      · exact hzsl hregular
      · exact hrc (hok calls)
    · intro hregular
      apply leads_neg Bool.false_ne_true
      apply does_perform_stop fun _ _ => rfl
      rw [← bind_pure (call p .takeRegularPicture)]
      apply does_call fun _ _ => rfl
      intro calls
      refine leads_pure ⟨rfl, ?_, .down, .inr ⟨hregular, hconfigured, rfl⟩, rfl⟩
      rintro hrc ⟨_, _, hzsl | hok⟩
      · exact hregular hzsl
      · exact hrc (hok calls)

theorem recoverPreview_does : Does (recoverPreview p) w fun _ w' l => l = [] ∧
    (w' = { w with state := .previewing, preview := ⟨true, true⟩ } ∨
      w' = { w with state := .previewStopped, preview := .down }) := by
  apply Emitter.leads
  intro _
  apply does_perform_stop fun _ _ => rfl
  apply restartPreview_restarted.bind
  rintro rc _ _ ⟨v, h, rfl, rfl⟩
  rw [← bind_pure (setState _)]
  apply does_setState
  cases h with
  | done => exact leads_pure ⟨rfl, .inl rfl⟩
  | unprepared hrc _ | unstarted hrc _ _ =>
    rw [if_neg hrc]
    exact leads_pure ⟨rfl, .inr rfl⟩

theorem takePictureZsl_moves {v : Preview} (hzsl : ¬p.Regular) (hv : v = w.preview ∨
      ¬p.Says .getRecordingHintValue false ∧ ∃ rc, Restarted p true rc .down v) :
    Does (takePictureZsl p .takePicture) { w with preview := v }
      fun _ w' l => PreviewingMove b p cmd .takePicture w w' l := by
  apply enterZslCapture_entered.bind
  rintro _ w₁ _ ⟨rfl, hentered⟩
  apply takePicture_does.bind
  rintro rc _ _ ⟨rfl, hrc, v', hv', rfl⟩
  cases hentered with
  | stopped hrestart hmanual =>
    apply leads_ite
    · intro h
      apply Emitter.leads
      intro _
      apply does_setState
      apply Emitter.leads
      intro retro
      apply leads_pos (.inr h)
      exact does_reply (.pictureFails hzsl hrestart hmanual (hrc h))
    · intro h
      apply does_ask
      · intro hretro
        apply leads_neg
        · rintro (h' | h')
          · exact Bool.noConfusion h'
          · exact h h'
        · exact leads_pure (.retroPicture hrestart hmanual hretro)
      · intro _
        apply leads_pos (.inl rfl)
        exact does_reply .picture
  | beside hstop =>
    have hbeside : Beside p w.preview v' := ⟨v, hv, hv'⟩
    apply leads_ite
    · intro h
      apply Emitter.leads
      intro _
      apply does_setState
      apply Emitter.leads
      intro retro
      apply leads_pos (.inr h)
      exact does_reply (.beside hzsl hstop (by decide) hbeside)
    · intro h
      apply does_ask
      · intro hretro
        apply leads_neg
        · rintro (h' | h')
          · exact Bool.noConfusion h'
          · exact h h'
        · exact leads_pure (.retroBeside hzsl hstop hretro hbeside)
      · intro _
        apply leads_pos (.inl rfl)
        exact does_reply (.beside hzsl hstop (List.mem_cons_of_mem _ List.mem_cons_self) hbeside)

theorem takePictureRegular_moves {v : Preview} :
    Does (takePictureRegular p .takePicture) { w with preview := v }
      fun _ w' l => PreviewingMove b p cmd .takePicture w w' l := by
  apply does_setState
  apply takePicture_does.bind
  rintro rc _ _ ⟨rfl, _, v', _, rfl⟩
  apply leads_ite
  · intro _
    apply recoverPreview_does.bind
    rintro _ _ _ ⟨rfl, rfl | rfl⟩
    · exact does_reply .recovered
    · exact does_reply .lost
  · intro _
    exact does_reply .picture

theorem procEvtPreviewingState_moves (hevt : evt ∈ SmState.special .previewing) :
    Does (procEvtPreviewingState b p evt payload) w
      fun _ w' l => PreviewingMove b p payload.cmd evt w w' l := by
  cases evt with
  | setParamsStop =>
    apply does_stop fun _ _ => rfl
    intro rc
    apply Emitter.leads
    intro _
    exact does_reply (.down (by decide))
  | setParamsRestart => exact setParamsRestartPreviewing_moves
  | stopPreview =>
    apply does_stop fun _ _ => rfl
    intro rc
    apply Emitter.leads
    intro _
    apply does_setState
    exact does_reply .stopPreview
  | preStartRecording =>
    apply preStartRecording_does.bind
    rintro rc _ _ ⟨rfl, rfl | ⟨hhint, hrelated, rc', v, h, rfl⟩⟩
    · exact does_reply (.hintKept (by decide))
    · exact does_reply (.preStartRecording hhint hrelated h)
  | startRecording =>
    apply Emitter.leads
    intro rc
    apply leads_ite
    · intro _
      apply does_setState
      apply Emitter.leads
      intro _
      exact does_reply .startRecording
    · intro _
      exact does_reply .startRecordingFails
  | prepareSnapshot => exact prepareSnapshotPreviewing_moves
  | preTakePicture =>
    apply preTakePicture_does.bind
    rintro rc _ _ ⟨rfl, rfl | ⟨hhint, hrelated, rc', v, h, rfl⟩⟩
    · exact does_reply (.hintKept (by decide))
    · exact does_reply (.preTakePicture hhint hrelated h)
  | takePicture =>
    apply restartForPicture_does.bind
    rintro _ _ _ ⟨rfl, v, hv, rfl⟩
    apply isZslOrLongshot_does.bind
    rintro zsl _ _ ⟨rfl, rfl, hzsl, _⟩
    apply leads_ite
    · intro h
      exact takePictureZsl_moves (hzsl h) hv
    · intro _
      exact takePictureRegular_moves
  | sendCommand => exact sendCommandPreviewing_moves
  | sendCommandRestart => exact sendCommandRestart_moves
  | restartStopPreview =>
    apply does_perform_stop fun _ _ => rfl
    exact does_reply (.down (by decide))
  | restartStartPreview =>
    apply does_prepareStart (f := reply .restartStartPreview)
    intro rc v h
    exact does_reply (.restartStartPreview h)
  | _ => exact absurd hevt (by decide)

end Previewing

end QCamera
