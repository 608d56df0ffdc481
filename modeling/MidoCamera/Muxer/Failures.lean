import Mathlib.Data.List.Basic

/-!
# Failing operations of the muxer

An operation of the logical camera is a sequence of calls to its physical cameras, phase after phase,
and returns at the first call that fails. Nothing undoes the calls before it. A call that fails leaves
its camera as it was.
-/

namespace Muxer

/-- What a camera is known by: whether it is open, prepared, bundled, showing a preview, stopped for
a restart, recording, and has the recording hint, and its parameters. -/
inductive Field
  | opened
  | prepared
  | bundled
  | preview
  | stopped
  | recordingHint
  | recording
  | params
  deriving DecidableEq

/-- The calls to a camera. -/
inductive CameraCall
  | openCamera
  | prepare_preview
  | bundleRelatedCameras
  | start_preview
  | pre_start_recording
  | restart_stop_preview
  | setRecordingHintValue
  | restart_start_preview
  | start_recording
  | set_parameters
  | stop_after_set_params
  | commit_params (parms : ℕ)
  | restart_after_set_params
  deriving DecidableEq

/-- What a call sets, and to what. -/
def CameraCall.effect : CameraCall → Option (Field × ℕ)
  | .openCamera => some (.opened, 1)
  | .prepare_preview => some (.prepared, 1)
  | .bundleRelatedCameras => some (.bundled, 1)
  | .start_preview => some (.preview, 1)
  | .restart_stop_preview | .stop_after_set_params => some (.stopped, 1)
  | .restart_start_preview | .restart_after_set_params => some (.stopped, 0)
  | .setRecordingHintValue => some (.recordingHint, 1)
  | .start_recording => some (.recording, 1)
  | .commit_params parms => some (.params, parms)
  | .pre_start_recording | .set_parameters => none

def CameraCall.gives (c : CameraCall) (f : Field) : Option ℕ :=
  c.effect.bind fun e => if e.1 = f then some e.2 else none

/-- The cameras of a logical camera, and `m_bRecordingHintInternallySet`. -/
structure LogicalCamera where
  numCameras : ℕ
  nPrimaryPhyCamIndex : ℕ
  cams : ℕ → Field → ℕ
  hintInternallySet : Bool

/-- The operations, with whether a camera needs a restart of its preview. -/
inductive LogicalOp
  | cameraDeviceOpen
  | start_preview
  | start_recording (previewRestartNeeded : Bool)
  | set_parameters (parms : ℕ) (needRestart : Bool)

namespace LogicalCamera

/-- A loop over the cameras. -/
def all (m : LogicalCamera) (c : CameraCall) : List (CameraCall × ℕ) :=
  (List.range m.numCameras).map (c, ·)

/-- The primary camera is bundled with every other one, and each of these with it. -/
def bundle (m : LogicalCamera) : List (CameraCall × ℕ) :=
  (List.range m.numCameras).flatMap fun i =>
    List.replicate (if i = m.nPrimaryPhyCamIndex then m.numCameras - 1 else 1)
      (.bundleRelatedCameras, i)

def calls (m : LogicalCamera) : LogicalOp → List (CameraCall × ℕ)
  | .cameraDeviceOpen => m.all .openCamera
  | .start_preview =>
    m.all .prepare_preview ++ (if m.numCameras > 1 then m.bundle else []) ++ m.all .start_preview
  | .start_recording previewRestartNeeded =>
    m.all .pre_start_recording ++
      (if previewRestartNeeded then m.all .restart_stop_preview ++ m.all .setRecordingHintValue ++
        m.all .restart_start_preview else []) ++ [(.start_recording, m.nPrimaryPhyCamIndex)]
  | .set_parameters parms needRestart =>
    m.all .set_parameters ++ (if needRestart then m.all .stop_after_set_params else []) ++
      m.all (.commit_params parms) ++
      (if needRestart then m.all .restart_after_set_params else [])

/-- A call that succeeds. -/
def call (m : LogicalCamera) (c : CameraCall × ℕ) : LogicalCamera :=
  { m with
    cams := fun j f => if j = c.2 then (c.1.gives f).getD (m.cams j f) else m.cams j f
    hintInternallySet := m.hintInternallySet || c.1 == .setRecordingHintValue }

/-- The calls in order, to the first that fails; the result tells whether none does. -/
def run (fails : ℕ → Bool) : ℕ → List (CameraCall × ℕ) → LogicalCamera → LogicalCamera × Bool
  | _, [], m => (m, true)
  | k, c :: cs, m => if fails k then (m, false) else run fails (k + 1) cs (m.call c)

def exec (m : LogicalCamera) (op : LogicalOp) (fails : ℕ → Bool) : LogicalCamera × Bool :=
  run fails 0 (m.calls op) m

/-- The calls before the first that fails. -/
def before (fails : ℕ → Bool) : ℕ → List (CameraCall × ℕ) → List (CameraCall × ℕ)
  | _, [] => []
  | k, c :: cs => if fails k then [] else c :: before fails (k + 1) cs

/-- What the calls give a camera: the last one counts. -/
def given (j : ℕ) (f : Field) : List (CameraCall × ℕ) → Option ℕ
  | [] => none
  | c :: cs => (given j f cs).or (if j = c.2 then c.1.gives f else none)

/-- **The cameras are as before**, and the hint is taken for set only if they all have it. -/
structure Agrees (m t : LogicalCamera) : Prop where
  cams : ∀ j < m.numCameras, ∀ f, t.cams j f = m.cams j f
  hint : t.hintInternallySet = true → ∀ j < m.numCameras, t.cams j .recordingHint = 1

/-- **The condition**: what the calls before the failing one give the cameras, they had; and if the
hint is given or was taken for set, they all had it. -/
structure Idle (m : LogicalCamera) (cs : List (CameraCall × ℕ)) : Prop where
  cams : ∀ j < m.numCameras, ∀ f, ∀ v ∈ given j f cs, m.cams j f = v
  hint : (m.hintInternallySet = true ∨ cs.any (·.1 == .setRecordingHintValue)) →
    ∀ j < m.numCameras, m.cams j .recordingHint = 1

variable {m t : LogicalCamera} {fails : ℕ → Bool}

end LogicalCamera

end Muxer
