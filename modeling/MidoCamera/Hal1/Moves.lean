import MidoCamera.Hal1.CaptureMoves

/-!
# What may come of an event

The moves of the states, taken together: what the state machine is seen to do with an event depends
on nothing but what is seen of it before.
-/

namespace QCamera

open Loop

/-- **What may come of an event**, in the state in which it is handled. -/
inductive Move (b : Build) (p : Parent) (evt : SmEvt) (payload : Payload) :
    View → View → List SmEvt → Prop
  | standard {w : View} (h : evt ∉ w.state.special) : Move b p evt payload w w evt.due
  | stopped {w w' : View} {l : List SmEvt} (hw : w.state = .previewStopped)
      (h : StoppedMove evt w w' l) : Move b p evt payload w w' l
  | ready {w w' : View} {l : List SmEvt} (hw : w.state = .previewReady)
      (h : ReadyMove p evt w w' l) : Move b p evt payload w w' l
  | previewing {w w' : View} {l : List SmEvt} (hw : w.state = .previewing)
      (h : PreviewingMove b p payload.cmd evt w w' l) : Move b p evt payload w w' l
  | prepareSnapshot {w w' : View} {l : List SmEvt} (hw : w.state = .prepareSnapshot)
      (h : PrepareSnapshotMove payload evt w w' l) : Move b p evt payload w w' l
  | picTaking {w w' : View} {l : List SmEvt} (hw : w.state = .picTaking)
      (h : PicTakingMove b p payload evt w w' l) : Move b p evt payload w w' l
  | recording {w w' : View} {l : List SmEvt} (hw : w.state = .recording)
      (h : RecordingMove evt w w' l) : Move b p evt payload w w' l
  | videoPicTaking {w w' : View} {l : List SmEvt} (hw : w.state = .videoPicTaking)
      (h : VideoPicTakingMove evt w w' l) : Move b p evt payload w w' l
  | capture {w w' : View} {l : List SmEvt} (hw : w.state = .previewPicTaking)
      (h : CaptureMove p payload evt w w' l) : Move b p evt payload w w' l

theorem move_of_handler {b : Build} {p : Parent} {evt : SmEvt} {payload : Payload} {w : View}
    {m : SmState} {c : Proc Status} {M : View → View → List SmEvt → Prop} (hw : w.state = m)
    (standard : evt ∉ m.special → Standard evt c)
    (special : evt ∈ m.special → Does c w fun _ w' l => M w w' l)
    (hM : ∀ w' l, M w w' l → Move b p evt payload w w' l) :
    Does c w fun _ w' l => Move b p evt payload w w' l := by
  subst hw
  by_cases h : evt ∈ w.state.special
  · apply (special h).mono
    intro _ w' l hmove
    exact hM w' l hmove
  · apply (standard h w).mono
    rintro _ _ _ ⟨rfl, rfl⟩
    exact .standard h

/-- **The state machine does nothing else.** -/
theorem stateMachine_moves (b : Build) (p : Parent) (evt : SmEvt) (payload : Payload) (w : View) :
    Does (stateMachine b p evt payload) w fun _ w' l => Move b p evt payload w w' l := by
  intro s hs
  have hw : s.mState = w.state := congrArg View.state hs
  -- the handler is that of the state
  obtain ⟨m, _, _, _, _, _, _, _, _, _, _⟩ := s
  cases m with
  | previewStopped =>
    exact move_of_handler hw.symm procEvtPreviewStoppedState_standard
      procEvtPreviewStoppedState_moves (fun _ _ => .stopped hw.symm) _ hs
  | previewReady =>
    exact move_of_handler hw.symm procEvtPreviewReadyState_standard
      procEvtPreviewReadyState_moves (fun _ _ => .ready hw.symm) _ hs
  | previewing =>
    exact move_of_handler hw.symm procEvtPreviewingState_standard
      procEvtPreviewingState_moves (fun _ _ => .previewing hw.symm) _ hs
  | prepareSnapshot =>
    exact move_of_handler hw.symm procEvtPrepareSnapshotState_standard
      procEvtPrepareSnapshotState_moves (fun _ _ => .prepareSnapshot hw.symm) _ hs
  | picTaking =>
    exact move_of_handler hw.symm procEvtPicTakingState_standard
      procEvtPicTakingState_moves (fun _ _ => .picTaking hw.symm) _ hs
  | recording =>
    exact move_of_handler hw.symm procEvtRecordingState_standard
      procEvtRecordingState_moves (fun _ _ => .recording hw.symm) _ hs
  | videoPicTaking =>
    exact move_of_handler hw.symm procEvtVideoPicTakingState_standard
      procEvtVideoPicTakingState_moves (fun _ _ => .videoPicTaking hw.symm) _ hs
  | previewPicTaking =>
    exact move_of_handler hw.symm procEvtPreviewPicTakingState_standard
      procEvtPreviewPicTakingState_moves (fun _ _ => .capture hw.symm) _ hs

def Machine.handle (b : Build) (p : Parent) (evt : SmEvt) (payload : Payload) (s : Machine) :
    Machine := ((stateMachine b p evt payload).run s).2

theorem Machine.handle_moves (s : Machine) (b : Build) (p : Parent) (evt : SmEvt)
    (payload : Payload) :
    ∃ l, (s.handle b p evt payload).answers = s.answers ++ l ∧
      Move b p evt payload s.view (s.handle b p evt payload).view l :=
  stateMachine_moves b p evt payload s.view s rfl

/-! ## What is asked for -/

/-- The APIs that a state rests on. -/
def SmState.restsOn : SmState → List SmEvt
  | .picTaking | .previewPicTaking => [.takePicture]
  | .recording => [.startRecording]
  | .videoPicTaking => [.startRecording, .takePicture]
  | _ => []

/-- The events after which an API is in force no more. -/
def SmEvt.endedBy : SmEvt → List SmEvt
  | .startRecording => [.stopRecording, .stopPreview]
  | .takePicture => [.cancelPicture, .snapshotDone, .stopPreview]
  | _ => []

def inForce (asked : List SmEvt) (evt : SmEvt) : List SmEvt :=
  evt :: asked.filter (evt ∉ ·.endedBy)

theorem Move.restsOn {b : Build} {p : Parent} {evt e : SmEvt} {payload : Payload} {w w' : View}
    {l : List SmEvt} (h : Move b p evt payload w w' l) (he : e ∈ w'.state.restsOn) :
    e = evt ∨ e ∈ w.state.restsOn ∧ evt ∉ e.endedBy := by
  cases h with
  | standard hevt =>
    revert he hevt
    cases w.state <;> simp [SmState.restsOn, SmState.special] <;> grind [SmEvt.endedBy]
  | stopped hw h | ready hw h | previewing hw h | prepareSnapshot hw h | picTaking hw h
  | recording hw h | videoPicTaking hw h | capture hw h =>
    cases h <;> simp_all [SmState.restsOn, SmEvt.endedBy] <;> grind

/-- **What a state rests on is in force**: no picture is taken and nothing is recorded but what was
asked for and has not ended since, whatever fails. -/
theorem restsOn_inForce (b : Build) (s : Machine) (ls : List (Parent × SmEvt × Payload)) :
    (ls.foldl (fun s l => s.handle b l.1 l.2.1 l.2.2) s).mState.restsOn ⊆
      ls.foldl (fun asked l => inForce asked l.2.1) s.mState.restsOn := by
  suffices ∀ asked, s.mState.restsOn ⊆ asked →
      (ls.foldl (fun s l => s.handle b l.1 l.2.1 l.2.2) s).mState.restsOn ⊆
        ls.foldl (fun asked l => inForce asked l.2.1) asked from this _ (List.Subset.refl _)
  induction ls generalizing s with
  | nil => exact fun asked hs => hs
  | cons l ls ih =>
    intro asked hs
    refine ih _ _ fun e he => ?_
    obtain ⟨_, -, hmove⟩ := s.handle_moves b l.1 l.2.1 l.2.2
    rcases hmove.restsOn he with rfl | ⟨hrests, hlasts⟩
    · exact List.mem_cons_self
    · exact List.mem_cons_of_mem _ (List.mem_filter.mpr ⟨hs hrests, by simpa using hlasts⟩)

end QCamera
