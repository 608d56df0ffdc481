import MidoCamera.Hal1.Moves
import MidoCamera.Library.Run

/-!
# The state and the preview

The state tells whether the preview has been prepared and started, but for the time between the two
halves of a sequence of APIs that stop it on purpose and restart it.

Many handlers restart the preview. Where the restart fails, some let the state follow the preview,
and some leave the state as it was, with no preview to it. Where no restart of the second kind
fails, the state and the preview agree whenever no sequence is open.
-/

namespace QCamera

open Loop List

variable {w : View}

/-! ## What the state tells -/

/-- The state tells what has become of the preview. -/
structure Machine.Matches (s : Machine) : Prop where
  started : s.mState ∈ [.previewing, .recording, .videoPicTaking] → s.preview.started = true
  ready : s.mState = .previewReady → s.preview = ⟨true, false⟩
  stopped : s.mState = .previewStopped → s.preview = .down

/-- What is open between the halves of a sequence of APIs. -/
inductive ApiSeq
  | none | params | restart | longshot
  deriving DecidableEq, Repr

/-- The sequence that an API opens: a stop of the preview that a later API is to undo. -/
def ApiSeq.opened (b : Build) (w w' : View) (evt : SmEvt) (cmd : CameraCmd) : ApiSeq :=
  match evt with
  | .setParamsStop => .params
  | .restartStopPreview =>
    if w.state = .previewing ∨ w.state = .previewPicTaking then .restart else .none
  | .sendCommand =>
    if b.vanillaHal = false ∧ w.state = .previewing ∧ cmd = .longshotOn ∧ w'.needs = true ∧
      w'.delayed = true then .longshot else .none
  | _ => .none

/-- How the sequences of APIs are kept: backend events do not matter to them, and no other API comes
before one that is open has been closed. -/
inductive ApiSeq.Next (b : Build) (w w' : View) : SmEvt → CameraCmd → ApiSeq → ApiSeq → Prop
  | event {evt : SmEvt} {cmd : CameraCmd} {q : ApiSeq} (hevt : evt.isApi = false) :
      Next b w w' evt cmd q q
  | opens {evt : SmEvt} {cmd : CameraCmd} (hapi : evt.isApi = true) :
      Next b w w' evt cmd .none (opened b w w' evt cmd)
  | commit {cmd : CameraCmd} : Next b w w' .setParamsCommit cmd .params .params
  | params {cmd : CameraCmd} : Next b w w' .setParamsRestart cmd .params .none
  | restart {cmd : CameraCmd} : Next b w w' .restartStartPreview cmd .restart .none
  | longshot : Next b w w' .sendCommandRestart .longshotOn .longshot .none

/-- A preparation and a start leave the preview started. -/
def Parent.Regains (p : Parent) (v : Preview) : Prop :=
  p.Ok .startPreview ∧ (p.Ok .preparePreview ∨ v.started = true) ∨
    p.Fails .preparePreview ∧ v.started = true

def Parent.StopsForCapture (p : Parent) : Prop :=
  p.Says .isPreviewRestartEnabled true ∧ p.Says .isManualCaptureType3 true

/-- **Nothing goes wrong where the state does not follow the preview.** -/
def Healthy (b : Build) (p : Parent) (w : View) (evt : SmEvt) (cmd : CameraCmd) : Prop :=
  match w.state, evt with
  | .previewReady, .setParamsRestart => p.Ok .preparePreview ∨ w.preview = .down
  | .previewing, .setParamsRestart => p.Ok .preparePreview ∨ w.preview.started = true
  | .previewing, .preTakePicture =>
    p.Says .getRecordingHintValue false ∨ p.Says .isRelatedSensorsOn true ∨ p.Regains .down
  | .previewing, .preStartRecording =>
    p.Says .getRecordingHintValue true ∨ p.Says .isRelatedSensorsOn true ∨ p.Regains .down
  | .previewPicTaking, .preStartRecording =>
    p.Says .isZSLMode true ∨ p.Says .isLongshotEnabled true ∨
      p.Says .getRecordingHintValue true ∨ p.Says .isRelatedSensorsOn true ∨ p.Regains .down
  | .previewing, .takePicture =>
    p.Regular ∨
      (p.Says .isPreviewRestartEnabled false ∨ p.Says .isManualCaptureType3 false ∨ p.CaptureOk) ∧
        (p.StopsForCapture ∨
          (p.Says .getRecordingHintValue false ∨ p.Regains .down) ∧
            (p.Says .isZSLMode true ∨ p.Fails .configureAdvancedCapture))
  | .previewing, .sendCommand =>
    b.vanillaHal = false → cmd = .longshotOn → p.AsksRestart cmd → p.Regains .down
  | .previewing, .sendCommandRestart =>
    b.vanillaHal = false → cmd = .longshotOn → w.needs = true → w.delayed = true →
      p.Regains w.preview
  | .previewing, .restartStartPreview | .previewPicTaking, .restartStartPreview =>
    p.Regains w.preview
  | .picTaking, .stopPreview | .picTaking, .cancelPicture => w.preview = .down
  | .picTaking, .sendCommand =>
    b.vanillaHal = false → cmd = .longshotOff → w.preview.started = true
  | .picTaking, .snapshotDone =>
    (p.Says .isPreviewRestartEnabled true ∨ w.preview = .down) ∧
      (p.Says .isPreviewRestartEnabled false ∨
        (p.Says .isManualCaptureType3 true ∨ w.preview.started = true) ∧
          (p.Says .isManualCaptureType3 false ∨ p.Regains w.preview))
  | _, _ => True

/-- What the state tells while a sequence is open: the preview may be down without it. -/
def Tells (w : View) (q : ApiSeq) : Prop :=
  match w.state with
  | .previewStopped => w.preview = .down
  | .previewReady => w.preview.started = false ∧ (q ≠ .params → w.preview.prepared = true)
  | .previewing | .previewPicTaking => q = .none → w.preview.started = true
  | .recording | .videoPicTaking | .prepareSnapshot => w.preview.started = true
  | .picTaking => True

/-- A longshot that has left its restart to a later command. -/
structure Delayed (b : Build) (w : View) : Prop where
  build : b.vanillaHal = false
  state : w.state = .previewing
  needs : w.needs = true
  delayed : w.delayed = true

/-- **The invariant.** -/
structure Fits (b : Build) (w : View) (q : ApiSeq) : Prop where
  tells : Tells w q
  longshot : q = .longshot → Delayed b w

theorem Restarted.started {p : Parent} {undo : Bool} {rc : Status} {v v' : Preview}
    (h : Restarted p undo rc v v') (hp : p.Regains v) : v'.started = true := by
  cases h with
  | done => rfl
  | unprepared _ hprepare =>
    rcases hp with ⟨_, hok | hv⟩ | ⟨_, hv⟩
    · exact absurd hok hprepare
    · exact hv
    · exact hv
  | unstarted _ hstart hprepare =>
    rcases hp with ⟨hok, _⟩ | ⟨hfails, _⟩
    · exact absurd hok hstart
    · exact absurd hfails hprepare

theorem Beside.started {p : Parent} {v v' : Preview} (h : Beside p v v') (hv : v.started = true)
    (hhint : p.Says .getRecordingHintValue false ∨ p.Regains .down)
    (hzsl : p.Says .isZSLMode true ∨ p.Fails .configureAdvancedCapture) : v'.started = true := by
  obtain ⟨v₁, hv₁, hv'⟩ := h
  have started : v₁.started = true := by
    rcases hv₁ with rfl | ⟨hrestarts, rc, hrestarted⟩
    · exact hv
    · exact hrestarted.started (hhint.resolve_left hrestarts)
  rcases hv' with rfl | ⟨hregular, hconfigured, _⟩
  · exact started
  · rcases hzsl with h | h
    · exact absurd h hregular
    · exact absurd h hconfigured

/-! ## The sequences -/

namespace ApiSeq

def continuing : List SmEvt :=
  [.setParamsCommit, .setParamsRestart, .restartStartPreview, .sendCommandRestart]

section Next

variable {b : Build} {w w' : View} {evt : SmEvt} {cmd : CameraCmd} {q q' : ApiSeq}

theorem Next.of_event (h : Next b w w' evt cmd q q') (hevt : evt.isApi = false) : q' = q := by
  cases h with
  | event _ => rfl
  | opens hapi => exact Bool.noConfusion (hevt.symm.trans hapi)
  | commit | params | restart | longshot => exact Bool.noConfusion hevt

theorem Next.of_api (h : Next b w w' evt cmd q q') {l : List SmEvt} (hmem : evt ∈ l)
    (hl : ∀ e ∈ l, e.isApi = true ∧ e ∉ continuing) :
    q = .none ∧ q' = opened b w w' evt cmd := by
  obtain ⟨hapi, hevt⟩ := hl evt hmem
  cases h with
  | event h => exact Bool.noConfusion (h.symm.trans hapi)
  | opens _ => exact ⟨rfl, rfl⟩
  | commit | params | restart | longshot => exact absurd (by decide) hevt

theorem Next.open_before (h : Next b w w' evt cmd q q') (hevt : evt ∉ [.setParamsRestart,
      .restartStartPreview, .sendCommandRestart]) (hq : q' = .none) : q = .none := by
  cases h with
  | event _ | commit => exact hq
  | opens _ => rfl
  | params | restart | longshot => exact absurd (by decide) hevt

theorem Next.params_before (h : Next b w w' evt cmd q q') (hevt : evt ≠ .setParamsRestart)
    (hq : q' ≠ .params) : q ≠ .params := by
  cases h with
  | event _ => exact hq
  | opens _ | restart | longshot => exact nofun
  | commit => exact absurd rfl hq
  | params => exact absurd rfl hevt

theorem opened_longshot (h : opened b w w' evt cmd = .longshot) :
    evt = .sendCommand ∧ b.vanillaHal = false ∧ w.state = .previewing ∧ w'.needs = true ∧
      w'.delayed = true := by
  unfold opened at h
  split at h
  · cases h
  · split_ifs at h
  · split_ifs at h with hopens
    exact ⟨rfl, hopens.1, hopens.2.1, hopens.2.2.2⟩
  · cases h

end Next

end ApiSeq

/-! ## What the moves leave -/

section Tells

variable {b : Build} {p : Parent} {evt : SmEvt} {payload : Payload} {cmd : CameraCmd}
  {w' : View} {l : List SmEvt} {q q' : ApiSeq}

theorem StoppedMove.tells (h : StoppedMove evt w w' l)
    (hw : w.state = .previewStopped) (hv : w.preview = .down) : Tells w' q' := by
  obtain ⟨m, v, needs, delayed⟩ := w
  obtain rfl : m = .previewStopped := hw
  cases h with
  | kept _ | ignored => exact hv
  | prepared _ => exact ⟨rfl, fun _ => rfl⟩
  | started _ => exact fun _ => rfl
  | unprepared _ => rfl

theorem ReadyMove.tells (h : ReadyMove p evt w w' l) (hw : w.state = .previewReady)
    (hv : w.preview.started = false ∧ (q ≠ .params → w.preview.prepared = true))
    (hnext : ApiSeq.Next b w w' evt cmd q q') (hp : Healthy b p w evt cmd) : Tells w' q' := by
  obtain ⟨m, v, needs, delayed⟩ := w
  obtain rfl : m = .previewReady := hw
  cases h with
  | kept hevt =>
    obtain ⟨rfl, _⟩ := hnext.of_api hevt (by decide)
    exact ⟨hv.1, fun _ => hv.2 nofun⟩
  | started _ => exact fun _ => rfl
  | unprepared _ | stopPreview => rfl
  | setParamsStop =>
    obtain ⟨_, rfl⟩ := hnext.of_api (mem_singleton.mpr rfl) (by decide)
    exact ⟨rfl, fun h => absurd rfl h⟩
  | setParamsRestart => exact ⟨rfl, fun _ => rfl⟩
  | setParamsRestartFails h => exact hp.resolve_left h
  | ignored => exact ⟨hv.1, fun h => hv.2 (hnext.params_before nofun h)⟩

theorem PreviewingMove.tells (h : PreviewingMove b p cmd evt w w' l)
    (hw : w.state = .previewing) (hv : q = .none → w.preview.started = true)
    (hdelayed : q = .longshot → Delayed b w) (hnext : ApiSeq.Next b w w' evt cmd q q')
    (hp : Healthy b p w evt cmd) : Tells w' q' := by
  obtain ⟨m, v, needs, delayed⟩ := w
  obtain rfl : m = .previewing := hw
  cases h with
  | down hevt =>
    obtain ⟨_, rfl⟩ := hnext.of_api hevt (by decide)
    rw [mem_cons, mem_singleton] at hevt
    rcases hevt with rfl | rfl
    · exact nofun
    · intro h
      rw [ApiSeq.opened, if_pos (.inl rfl)] at h
      cases h
  | stopPreview | setParamsUnstarted | lost => rfl
  | setParamsRestart | recovered => exact fun _ => rfl
  | setParamsUnprepared h => exact fun _ => hp.resolve_left h
  | hintKept hevt =>
    obtain ⟨hq, _⟩ := hnext.of_api hevt (by decide)
    exact fun _ => hv hq
  | preTakePicture hhint hrelated h | preStartRecording hhint hrelated h =>
    exact fun _ => h.started ((hp.resolve_left hhint).resolve_left hrelated)
  | startRecording | prepareSnapshot =>
    obtain ⟨hq, _⟩ := hnext.of_api (mem_singleton.mpr rfl) (by decide)
    exact hv hq
  | startRecordingFails | prepareSnapshotFails | sendCommand _ =>
    obtain ⟨hq, _⟩ := hnext.of_api (mem_singleton.mpr rfl) (by decide)
    exact fun _ => hv hq
  | picture | retroPicture _ _ _ => trivial
  | pictureFails hzsl hrestart hmanual h =>
    obtain hstays | hstays | hok := (hp.resolve_left hzsl).1
    · exact absurd hstays hrestart
    · exact absurd hstays hmanual
    · exact absurd hok h
  | beside hzsl hstop hstate h =>
    obtain ⟨hq, _⟩ := hnext.of_api (mem_singleton.mpr rfl) (by decide)
    obtain ⟨hhint, hzsl⟩ := (hp.resolve_left hzsl).2.resolve_left hstop
    rw [mem_cons, mem_singleton] at hstate
    rcases hstate with rfl | rfl
    · exact fun _ => h.started (hv hq) hhint hzsl
    · exact fun _ => h.started (hv hq) hhint hzsl
  | retroBeside hzsl hstop _ h =>
    obtain ⟨hq, _⟩ := hnext.of_api (mem_singleton.mpr rfl) (by decide)
    obtain ⟨hhint, hzsl⟩ := (hp.resolve_left hzsl).2.resolve_left hstop
    exact fun _ => h.started (hv hq) hhint hzsl
  | longshotStop hb hcmd =>
    obtain ⟨_, rfl⟩ := hnext.of_api (mem_singleton.mpr rfl) (by decide)
    intro h
    rw [ApiSeq.opened, if_pos ⟨hb, rfl, hcmd, rfl, rfl⟩] at h
    cases h
  | longshotRestart hb hcmd hasks h => exact fun _ => h.started (hp hb hcmd hasks)
  | commandKept h =>
    intro hq
    cases hnext with
    | event h => exact Bool.noConfusion h
    | opens _ => exact hv rfl
    | longshot =>
      obtain ⟨hb, _, hneeds, hdelayed⟩ := hdelayed rfl
      exact absurd ⟨hb, rfl, hneeds, hdelayed⟩ h
  | commandRestart hb hcmd hneeds hdelayed h =>
    exact fun _ => h.started (hp hb hcmd hneeds hdelayed)
  | restartStartPreview h => exact fun _ => h.started hp

theorem PrepareSnapshotMove.tells (h : PrepareSnapshotMove payload evt w w' l)
    (hw : w.state = .prepareSnapshot) (hv : w.preview.started = true) : Tells w' q' := by
  obtain ⟨m, v, needs, delayed⟩ := w
  obtain rfl : m = .prepareSnapshot := hw
  cases h with
  | internal _ | notify _ | daemonDied _ | ignored _ => exact hv
  | prepared _ => exact fun _ => hv

theorem PicTakingMove.tells (h : PicTakingMove b p payload evt w w' l)
    (hw : w.state = .picTaking) (hp : Healthy b p w evt payload.cmd) : Tells w' q' := by
  obtain ⟨m, v, needs, delayed⟩ := w
  obtain rfl : m = .picTaking := hw
  cases h with
  | cancelled hevt =>
    rw [mem_cons, mem_singleton] at hevt
    rcases hevt with rfl | rfl
    · exact hp
    · exact hp
  | longshotOff hb h => exact fun _ => hp hb h
  | done hrestart => exact hp.1.resolve_left hrestart
  | doneBeside hrestart hmanual =>
    exact fun _ => (hp.2.resolve_left hrestart).1.resolve_left hmanual
  | doneRestart hrestart hmanual h =>
    exact fun _ => h.started ((hp.2.resolve_left hrestart).2.resolve_left hmanual)
  | sendCommand | notify _ | daemonDied _ | stopCaptureChannel | ignored => trivial

theorem RecordingMove.tells (h : RecordingMove evt w w' l)
    (hw : w.state = .recording) (hv : w.preview.started = true) : Tells w' q' := by
  obtain ⟨m, v, needs, delayed⟩ := w
  obtain rfl : m = .recording := hw
  cases h with
  | takePicture | takePictureFails | ignored => exact hv
  | stopRecording => exact fun _ => hv
  | stopPreview => rfl

theorem VideoPicTakingMove.tells (h : VideoPicTakingMove evt w w' l)
    (hw : w.state = .videoPicTaking) (hv : w.preview.started = true) : Tells w' q' := by
  obtain ⟨m, v, needs, delayed⟩ := w
  obtain rfl : m = .videoPicTaking := hw
  cases h with
  | cancelPicture | snapshotDone | ignored => exact hv
  | stopRecording => exact fun _ => hv
  | stopPreview => rfl

theorem CaptureMove.tells (h : CaptureMove p payload evt w w' l)
    (hw : w.state = .previewPicTaking) (hv : q = .none → w.preview.started = true)
    (hdelayed : q = .longshot → Delayed b w) (hnext : ApiSeq.Next b w w' evt cmd q q')
    (hp : Healthy b p w evt cmd) : Tells w' q' := by
  obtain ⟨m, v, needs, delayed⟩ := w
  obtain rfl : m = .previewPicTaking := hw
  cases h with
  | down hevt =>
    obtain ⟨_, rfl⟩ := hnext.of_api hevt (by decide)
    rw [mem_cons, mem_singleton] at hevt
    rcases hevt with rfl | rfl
    · exact nofun
    · intro h
      rw [ApiSeq.opened, if_pos (.inr rfl)] at h
      cases h
  | setParamsRestart => exact fun _ => rfl
  | setParamsRestartFails => trivial
  | restartStartPreview h => exact fun _ => h.started hp
  | preStartRecording hregular hsingle hhint hrelated h =>
    have hrestarts := (hp.resolve_left hregular).resolve_left hsingle
    exact fun _ => h.started ((hrestarts.resolve_left hhint).resolve_left hrelated)
  | stopPreview => rfl
  | kept hevt =>
    obtain ⟨hq, _⟩ := hnext.of_api hevt (by decide)
    exact fun _ => hv hq
  | sendCommand | longshotOff _ | cancelPicture | retroSnapshot _ =>
    obtain ⟨hq, _⟩ := hnext.of_api (mem_singleton.mpr rfl) (by decide)
    exact fun _ => hv hq
  | startRecording =>
    obtain ⟨hq, _⟩ := hnext.of_api (mem_singleton.mpr rfl) (by decide)
    exact hv hq
  | internal _ _ | prepared _ | ready _ | unasked _ | notify _ | daemonDied _ | snapshotDone
  | retroDone =>
    obtain rfl := hnext.of_event rfl
    exact hv
  | ignored =>
    cases hnext with
    | event h => exact Bool.noConfusion h
    | opens _ => exact fun _ => hv rfl
    | longshot => exact SmState.noConfusion (hdelayed rfl).state

/-- An event that is handled in the way of all others leaves the view, and closes no sequence that
matters. -/
theorem tells_standard (h : Tells w q) (hevt : evt ∉ w.state.special)
    (hnext : ApiSeq.Next b w w evt cmd q q') : Tells w q' := by
  obtain ⟨m, v, needs, delayed⟩ := w
  cases m with
  | previewStopped | prepareSnapshot | picTaking | recording | videoPicTaking => exact h
  | previewReady =>
    have special : .setParamsRestart ∈ SmState.special .previewReady := by decide
    refine ⟨h.1, fun hq => h.2 (hnext.params_before ?_ hq)⟩
    rintro rfl
    exact hevt special
  | previewing =>
    have special : [.setParamsRestart, .restartStartPreview, .sendCommandRestart] ⊆
        SmState.special .previewing := by decide
    exact fun hq => h (hnext.open_before (fun hmem => hevt (special hmem)) hq)
  | previewPicTaking =>
    have special : [.setParamsRestart, .restartStartPreview, .sendCommandRestart] ⊆
        SmState.special .previewPicTaking := by decide
    exact fun hq => h (hnext.open_before (fun hmem => hevt (special hmem)) hq)

theorem Move.tells (h : Move b p evt payload w w' l) (hfits : Fits b w q)
    (hnext : ApiSeq.Next b w w' evt payload.cmd q q') (hp : Healthy b p w evt payload.cmd) :
    Tells w' q' := by
  have htells := hfits.tells
  cases h with
  | standard hevt => exact tells_standard htells hevt hnext
  | stopped hw h | prepareSnapshot hw h | recording hw h | videoPicTaking hw h =>
    rw [Tells, hw] at htells
    exact h.tells hw htells
  | ready hw h =>
    rw [Tells, hw] at htells
    exact h.tells hw htells hnext hp
  | previewing hw h | capture hw h =>
    rw [Tells, hw] at htells
    exact h.tells hw htells hfits.longshot hnext hp
  | picTaking hw h => exact h.tells hw hp

theorem Move.delayed (h : Move b p evt payload w w' l) (hdelayed : q = .longshot → Delayed b w)
    (hnext : ApiSeq.Next b w w' evt cmd q q') (hq : q' = .longshot) : Delayed b w' := by
  cases hnext with
  | event hevt =>
    have hw := (hdelayed hq).state
    cases h with
    | standard _ => exact hdelayed hq
    | previewing _ h =>
      cases h with
      | down h | hintKept h => exact absurd h (not_listed (by decide) hevt)
      | _ => exact Bool.noConfusion hevt
    | stopped hw' _ | ready hw' _ | prepareSnapshot hw' _ | picTaking hw' _ | recording hw' _
    | videoPicTaking hw' _ | capture hw' _ => exact SmState.noConfusion (hw.symm.trans hw')
  | opens _ =>
    obtain ⟨rfl, hb, hw, hneeds, hdelayed⟩ := ApiSeq.opened_longshot hq
    cases h with
    | standard h =>
      rw [hw] at h
      exact absurd (by decide) h
    | previewing _ h =>
      cases h with
      | sendCommand _ | longshotStop _ _ | longshotRestart _ _ _ _ =>
        exact ⟨hb, hw, hneeds, hdelayed⟩
      | down h | hintKept h => exact absurd h (by decide)
    | stopped hw' _ | ready hw' _ | prepareSnapshot hw' _ | picTaking hw' _ | recording hw' _
    | videoPicTaking hw' _ | capture hw' _ => exact SmState.noConfusion (hw.symm.trans hw')
  | commit | params | restart | longshot => cases hq

end Tells

/-- An event is handled, and the sequences of APIs are kept. -/
inductive SeqStep (b : Build) :
    Parent × SmEvt × Payload → Machine × ApiSeq → Machine × ApiSeq → Prop
  | handle {p : Parent} {evt : SmEvt} {payload : Payload} {s : Machine} {q q' : ApiSeq}
      (hnext : ApiSeq.Next b s.view (s.handle b p evt payload).view evt payload.cmd q q') :
      SeqStep b (p, evt, payload) (s, q) (s.handle b p evt payload, q')

/-- A step in which nothing goes wrong where the state does not follow the preview. -/
def HealthyStep (b : Build) (l : Parent × SmEvt × Payload) (x y : Machine × ApiSeq) : Prop :=
  SeqStep b l x y ∧ Healthy b l.1 x.1.view l.2.1 l.2.2.cmd

theorem Fits.step {b : Build} {l : Parent × SmEvt × Payload} {x y : Machine × ApiSeq}
    (hx : Fits b x.1.view x.2) (h : HealthyStep b l x y) : Fits b y.1.view y.2 := by
  obtain ⟨hstep, hp⟩ := h
  cases hstep with
  | handle hnext =>
    obtain ⟨_, _, hmove⟩ := Machine.handle_moves _ b _ _ _
    exact ⟨hmove.tells hx hnext hp, hmove.delayed hx.longshot hnext⟩

theorem Fits.matches {b : Build} {s : Machine} (h : Fits b s.view .none) : s.Matches := by
  have htells := h.tells
  constructor
  · intro hs
    simp only [mem_cons, not_mem_nil, or_false] at hs
    rcases hs with hs | hs | hs
    · rw [Tells, show s.view.state = .previewing from hs] at htells
      exact htells rfl
    · rw [Tells, show s.view.state = .recording from hs] at htells
      exact htells
    · rw [Tells, show s.view.state = .videoPicTaking from hs] at htells
      exact htells
  · intro hs
    rw [Tells, show s.view.state = .previewReady from hs] at htells
    exact Preview.ext (htells.2 nofun) htells.1
  · intro hs
    rw [Tells, show s.view.state = .previewStopped from hs] at htells
    exact htells

theorem fits_new {b : Build} {needsRestart delayedRestart : Bool} {msgEnabled : BitVec 32} :
    Fits b (Machine.new needsRestart delayedRestart msgEnabled).view .none :=
  ⟨rfl, nofun⟩

/-- **The state and the preview agree** whenever no sequence is open, in every run in which nothing
goes wrong where the state does not follow the preview. -/
theorem preview_matches {b : Build} {needsRestart delayedRestart : Bool} {msgEnabled : BitVec 32}
    {ls : List (Parent × SmEvt × Payload)} {s : Machine}
    (h : Run (HealthyStep b) ls (.new needsRestart delayedRestart msgEnabled, .none) (s, .none)) :
    s.Matches := by
  have hfits := h.invariant (fun _ _ _ hstep hx => Fits.step hx hstep) fits_new
  exact hfits.matches

/-- The same parent, but the preview cannot be prepared: there is no memory. -/
def failingParent : Parent :=
  { quietParent with status := fun _ op => if op = .preparePreview then .other (-12) else .noError }

def emptyPayload : Payload where
  msgs := 0
  cmd := .other 0
  internalEvt := .cropInfo
  serverEvt := .other 0

/-- The preview is started, and parameters are set that need a restart of it. -/
def restartRun (p : Parent) : List (Parent × SmEvt × Payload) :=
  [(quietParent, .startPreview, emptyPayload), (quietParent, .setParamsStop, emptyPayload),
    (quietParent, .setParamsCommit, emptyPayload), (p, .setParamsRestart, emptyPayload)]

/-- Where it leads. -/
def restartMachine (b : Build) (p : Parent) : Machine :=
  (((((Machine.new false false 0).handle b quietParent .startPreview emptyPayload).handle b
    quietParent .setParamsStop emptyPayload).handle b quietParent .setParamsCommit
    emptyPayload).handle b p .setParamsRestart emptyPayload)

theorem restartMachine_reached (b : Build) (p : Parent) :
    Run (SeqStep b) (restartRun p) (.new false false 0, .none) (restartMachine b p, .none) :=
  .cons (.handle (.opens rfl)) (.cons (.handle (.opens rfl)) (.cons (.handle .commit)
    (.one (.handle .params))))

/-- If the preview cannot be prepared again, the state stays `PREVIEWING` without a preview. -/
theorem preview_lost :
    Run (SeqStep ⟨false, 16⟩) (restartRun failingParent) (.new false false 0, .none)
        (restartMachine ⟨false, 16⟩ failingParent, .none) ∧
      (restartMachine ⟨false, 16⟩ failingParent).mState = .previewing ∧
      (restartMachine ⟨false, 16⟩ failingParent).preview = .down ∧
      ¬(restartMachine ⟨false, 16⟩ failingParent).Matches :=
  ⟨restartMachine_reached ⟨false, 16⟩ failingParent, rfl, rfl,
    fun h => Bool.noConfusion (h.started (mem_cons.mpr (.inl rfl)))⟩

theorem restartMachine_healthy : Run (HealthyStep ⟨false, 16⟩) (restartRun quietParent)
    (.new false false 0, .none) (restartMachine ⟨false, 16⟩ quietParent, .none) :=
  .cons ⟨.handle (.opens rfl), trivial⟩ (.cons ⟨.handle (.opens rfl), trivial⟩
    (.cons ⟨.handle .commit, trivial⟩ (.one ⟨.handle .params, .inl fun _ => rfl⟩)))

/-- If it can, the state and the preview agree. -/
theorem preview_matches_restarted : (restartMachine ⟨false, 16⟩ quietParent).Matches :=
  preview_matches restartMachine_healthy

end QCamera
