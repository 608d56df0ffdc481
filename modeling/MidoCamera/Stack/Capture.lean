import MidoCamera.Stack.ChannelFrame
import MidoCamera.Stack.Runs

/-!
# The capture a channel is in

What the handler of a channel remembers of the capture it serves: how many super buffers are
pending, whether the ZSL snapshot runs and who has started it, and the configured batches with the
index of the one that is being filled. Commands set it, the ZSL snapshot is started and stopped by
it, and every round dispatched in burst mode counts it down; nothing else a handler does, on its
own channel or on another, changes it. The calls on the camera object therefore alternate.
-/

namespace MmCamera

open Loop Channel Channel.QueueOnly

/-- What a channel keeps of the capture it is in. -/
structure Capture where
  pendingCnt : ℕ
  manualZSLSnapshot : Bool
  startZSlSnapshotCalled : Bool
  isConfigCapture : Bool
  curCaptureIdx : ℕ
  frameConfig : FrameConfig
  zslCalls : List ZslCall

/-- The capture of a channel. -/
def Channel.capture (ch : Channel) : Capture :=
  { pendingCnt := ch.pendingCnt
    manualZSLSnapshot := ch.manualZSLSnapshot
    startZSlSnapshotCalled := ch.startZSlSnapshotCalled
    isConfigCapture := ch.isConfigCapture
    curCaptureIdx := ch.curCaptureIdx
    frameConfig := ch.frameConfig
    zslCalls := ch.zslCalls }

theorem Channel.QueueOnly.capture {ch ch' : Channel} (h : ch.QueueOnly ch') :
    ch'.capture = ch.capture := h.rest Channel.capture fun _ _ => Eq.refl _

theorem capture_unmarked : Unmarked Channel.capture := fun _ _ _ _ _ _ _ => rfl

theorem sendNode_capture (cbNode : Bool) (node : Node) (ch : Channel) :
    (sendNode cbNode node ch).capture = ch.capture := by
  unfold sendNode
  dsimp only
  split_ifs <;> rfl

/-! ## Commands -/

/-- What a command itself sets of the capture. -/
def Command.onCapture (a : Capture) : Command → Capture
  | .reqDataCb _ numBuf _ => { a with pendingCnt := numBuf }
  | .startZsl => { a with manualZSLSnapshot := true, zslCalls := a.zslCalls ++ [.start] }
  | .stopZsl => { a with manualZSLSnapshot := false, zslCalls := a.zslCalls ++ [.stop] }
  | .general (.captureSetting start config) =>
    { a with
      isConfigCapture := start
      curCaptureIdx := 0
      frameConfig := if start then config.load else .zero }
  | _ => a

section Command

variable {env : Env} {c : ChannelId} {x y : Ctx}

theorem applyMetadata_capture (b : BufInfo) (m : Metadata) (x : Ctx) :
    (applyMetadata b m x).ch.capture = x.ch.capture :=
  applyMetadata_read b m x capture_unmarked (fun _ _ => rfl) fun _ _ => rfl

theorem handleMetadata_capture {b : BufInfo} (h : handleMetadata b x = some y) :
    y.ch.capture = x.ch.capture := by
  rcases handleMetadata_cases b x with ⟨m, -, hx⟩ | ⟨-, hx | hx⟩
  · obtain rfl := Option.some.inj (hx.symm.trans h)
    exact applyMetadata_capture b m x
  · obtain rfl := Option.some.inj (hx.symm.trans h)
    rfl
  · rw [hx] at h
    cases h

theorem compAndEnqueue_capture {b : BufInfo} (h : superbufCompAndEnqueue env c b x = .ok y) :
    y.ch.capture = x.ch.capture := by
  unfold superbufCompAndEnqueue at h
  split at h
  · cases h
    rfl
  · split_ifs at h
    · cases h
      rfl
    · split at h
      · cases h
        rfl
      · next z hz =>
        rw [← handleMetadata_capture hz]
        split_ifs at h
        · cases h
          rfl
        · exact (comp h).capture

theorem processGeneral_capture (g : GenericCmd) (x : Ctx) :
    (processGeneral g x).ch.capture = (Command.general g).onCapture x.ch.capture := by
  cases g with
  | aeBracketing start | afBracketing start | flashBracketing start | zoom1x start =>
    exact (flush .default x).capture
  | captureSetting start config => rfl
  | invalid => rfl

/-- **A command** does to the capture what it sets, and nothing else. -/
theorem processCommand_capture {cmd : Command} (h : processCommand env c cmd x = .ok y) :
    y.ch.capture = cmd.onCapture x.ch.capture := by
  cases cmd with
  | dataCb b => exact compAndEnqueue_capture h
  | reqDataCb type numBuf numRetro => exact (skip h).capture
  | startZsl | stopZsl | configNotify mode | flushQueue | other => cases h; rfl
  | general g =>
    cases h
    exact processGeneral_capture g x

theorem processFlush_capture (frameIdx : ℕ) (type : StreamType) (x : Ctx) :
    (processFlush frameIdx type x).ch.capture = x.ch.capture :=
  (flush type (x.setQueue { x.ch.queue with expectedFrameId := frameIdx })).capture

end Command

/-! ## Automatic ZSL -/

def Capture.started (a : Capture) : Capture :=
  { a with zslCalls := a.zslCalls ++ [.start], startZSlSnapshotCalled := true }

/-- The ZSL snapshot has been stopped by the handler itself, and the configured capture with
it. -/
def Capture.stopped (a : Capture) : Capture :=
  { a with
    zslCalls := a.zslCalls ++ [.stop]
    startZSlSnapshotCalled := false
    isConfigCapture := false }

/-- The handler takes care of the ZSL snapshot and has started it, or is about to. -/
def Channel.zslRuns (ch : Channel) : Bool :=
  !ch.manualZSLSnapshot && (ch.startZSlSnapshotCalled || ch.needStartZSL || ch.needLEDFlash
    || ch.bracketingState != .off)

/-- What the automatic start or stop of the ZSL snapshot can do to a capture. -/
inductive Channel.AutoZsl (ch : Channel) : Capture → Prop
  | start (pending : 0 < ch.pendingCnt) (auto : ch.manualZSLSnapshot = false)
      (idle : ch.startZSlSnapshotCalled = false) : AutoZsl ch ch.capture.started
  | stop (auto : ch.manualZSLSnapshot = false) (running : ch.startZSlSnapshotCalled = true) :
      AutoZsl ch ch.capture.stopped
  | keep
      (serving : ch.manualZSLSnapshot = false → ch.startZSlSnapshotCalled = true →
        0 < ch.pendingCnt)
      (idle : 0 < ch.pendingCnt → ch.startZSlSnapshotCalled = false → ch.zslRuns = false) :
      AutoZsl ch ch.capture

theorem autoZsl_capture (x : Ctx) : x.ch.AutoZsl (autoZsl x).ch.capture := by
  unfold autoZsl
  dsimp only
  split_ifs with hconfig hflash hstop
  · -- a configured capture: the frames awaited and the queue do not matter here
    have hneed : x.ch.needStartZSL = true := (Bool.and_eq_true_iff.mp hconfig).2
    have hguard : 0 < x.ch.pendingCnt ∧ x.ch.manualZSLSnapshot = false ∧
        x.ch.startZSlSnapshotCalled = false := by
      simp only [needStartZSL, Bool.and_eq_true, decide_eq_true_eq, Bool.not_eq_true'] at hneed
      exact ⟨hneed.1.1.1.1, hneed.1.1.2, hneed.1.2⟩
    have hflush : (superbufFlush .default { x with ch := x.ch.awaitBatches }).ch.capture =
        x.ch.capture := (flush _ _).capture
    have hstart := congrArg Capture.started hflush
    have hauto := Channel.AutoZsl.start hguard.1 hguard.2.1 hguard.2.2
    rw [← hstart] at hauto
    exact hauto
  · simp only [Bool.and_eq_true, decide_eq_true_eq, Bool.not_eq_true'] at hflash
    exact .start hflash.1.1.1 hflash.1.2 hflash.2
  · simp only [Bool.and_eq_true, Bool.not_eq_true'] at hstop
    exact .stop hstop.1.2 hstop.2
  · refine .keep ?_ ?_
    · intro hauto hrun
      rw [hauto, hrun] at hstop
      by_contra hnone
      exact hstop (by simp [Nat.eq_zero_of_not_pos hnone])
    · intro hpos hidle
      unfold zslRuns
      rw [hidle] at hflash ⊢
      cases hmanual : x.ch.manualZSLSnapshot with
      | true => rfl
      | false =>
        rw [hmanual] at hflash
        have hneed : x.ch.needStartZSL = false := by
          by_contra hneed
          have hneed' : x.ch.needStartZSL = true := by simpa using hneed
          have hcfg : x.ch.isConfigCapture = true := by
            simp only [needStartZSL, Bool.and_eq_true] at hneed'
            exact hneed'.1.1.1.2
          exact hconfig (by rw [hcfg, hneed']; rfl)
        simpa [hpos, hneed] using hflash

/-! ## Dispatch -/

/-- The step of a capture to its next batch. -/
def Capture.count (a : Capture) : Capture :=
  if a.isConfigCapture then
    let setting := a.frameConfig.configs a.curCaptureIdx
    let setting :=
      if setting.numFrames ≠ 0 then { setting with numFrames := setting.numFrames - 1 }
      else setting
    let a := { a with
      frameConfig := { a.frameConfig with
        configs := Function.update a.frameConfig.configs a.curCaptureIdx setting } }
    if setting.numFrames = 0 then { a with curCaptureIdx := (a.curCaptureIdx + 1) % 2 ^ 8 } else a
  else a

theorem Capture.count_eq (a : Capture) :
    a.count =
      { a with curCaptureIdx := a.count.curCaptureIdx, frameConfig := a.count.frameConfig } := by
  unfold Capture.count
  dsimp only
  split_ifs <;> rfl

/-- What one round that is dispatched in burst mode can do to a capture. -/
inductive Channel.Round (ch : Channel) : Capture → Prop
  | stop (auto : ch.manualZSLSnapshot = false) (running : ch.startZSlSnapshotCalled = true) :
      Round ch { ch.capture with pendingCnt := ch.pendingCnt - 1 }.stopped
  | count
      (serving : ch.manualZSLSnapshot = false → ch.startZSlSnapshotCalled = true →
        1 < ch.pendingCnt) :
      Round ch { ch.capture with pendingCnt := ch.pendingCnt - 1 }.count

theorem countCapture_capture (ch : Channel) : ch.countCapture.capture = ch.capture.count := by
  unfold countCapture Capture.count Channel.capture
  dsimp only
  split_ifs <;> rfl

/-- **A round dispatched in burst mode** counts the capture down, and stops the ZSL snapshot with
the last super buffer. -/
theorem countBurst_capture {ch : Channel} (hpos : 0 < ch.pendingCnt) :
    ch.Round ch.countBurst.capture := by
  have hcnt : decU32 ch.pendingCnt = ch.pendingCnt - 1 := if_neg (Nat.ne_of_gt hpos)
  have hpending : ch.countPending.capture =
      { ch.capture with pendingCnt := ch.pendingCnt - 1 } := by
    unfold countPending Channel.capture
    simp only [hcnt]
  unfold countBurst
  rw [countCapture_capture]
  unfold stopAfterBurst
  split_ifs with hstop
  · -- the configured capture is over, and there is no batch to step to
    have hover : ch.countPending.triggerStopZsl.capture.count =
        ch.countPending.capture.stopped := rfl
    simp only [Bool.and_eq_true, Bool.not_eq_true'] at hstop
    rw [hover, hpending]
    exact .stop hstop.1.2 hstop.2
  · rw [hpending]
    refine .count ?_
    intro hauto hrun
    by_contra hlast
    have hzero : ch.countPending.pendingCnt = 0 := by
      change decU32 ch.pendingCnt = 0
      omega
    refine hstop ?_
    rw [hzero]
    change (true && !ch.manualZSLSnapshot && ch.startZSlSnapshotCalled) = true
    rw [hauto, hrun]
    rfl

/-! ## The invariant rule -/

section Invariant

variable {I : Capture → Prop} {env : Env} {c d : ChannelId} {s t : System}

theorem pending_of_dispatching {ch : Channel} (h : ch.dispatching .burst = true) :
    0 < ch.pendingCnt := by
  have h' : 0 < ch.pendingCnt ∧ ch.bWaitForPrepSnapshotDone = false := by
    simpa [dispatching] using h
  exact h'.1

theorem dispatchLoop_invariant {mode : NotifyMode} {fuel k : ℕ}
    (round : ∀ (ch : Channel) (a : Capture), 0 < ch.pendingCnt → ch.Round a → I ch.capture → I a)
    (hs : I (s.ch c).capture) (h : dispatchLoop env c mode fuel k s = .ok t) :
    I (t.ch c).capture := by
  induction fuel generalizing k s with
  | zero =>
    unfold dispatchLoop at h
    split at h
    · cases h
    · cases h
      exact hs
  | succ fuel ih =>
    cases hd : (s.ch c).dispatching mode with
    | false =>
      rw [dispatchLoop_of_not _ _ hd] at h
      cases h
      exact hs
    | true =>
      cases hcol : collect c s with
      | mk info u =>
        have hu : (u.ch c).capture = (s.ch c).capture := (collect_queueOnly hcol c).capture
        by_cases hi : info = []
        · subst hi
          rw [dispatchLoop_last _ _ hd hcol] at h
          cases h
          rwa [hu]
        · rw [dispatchLoop_round _ _ hd hcol hi] at h
          refine ih ?_ h
          rw [sendSuperBuf_read sendNode_capture]
          split_ifs with hmode
          · rw [modify_ch]
            have hcnt : (u.ch c).pendingCnt = (s.ch c).pendingCnt :=
              congrArg Capture.pendingCnt hu
            have hpos : 0 < (u.ch c).pendingCnt := by
              rw [hmode.2] at hd
              rw [hcnt]
              exact pending_of_dispatching hd
            exact round _ _ hpos (countBurst_capture hpos) (by rwa [hu])
          · rwa [hu]

/-- **The invariant rule of the handler**: a command keeps what its own effect, the automatic start
or stop of the ZSL snapshot and the rounds in burst mode keep; between the first two, anything may
hold. -/
theorem processStreamBuf_invariant {cmd : Command} {J : Channel → Prop}
    (quiet : ∀ f ty, cmd = .flushQueue f ty → I (s.ch c).capture)
    (command : ∀ x, processCommand env c cmd (s.ctx c) = .ok x → J x.ch)
    (auto : ∀ (ch : Channel) (a : Capture), J ch → ch.AutoZsl a → I a)
    (round : ∀ (ch : Channel) (a : Capture), 0 < ch.pendingCnt → ch.Round a → I ch.capture → I a)
    (h : processStreamBuf env c cmd s = .ok t) : I (t.ch c).capture := by
  by_cases hflush : ∃ frame type, cmd = .flushQueue frame type
  · obtain ⟨frame, type, rfl⟩ := hflush
    cases h
    rw [put_ch, processFlush_capture]
    exact quiet frame type rfl
  · rw [processStreamBuf_eq hflush] at h
    obtain ⟨x, hx, h⟩ := bind_eq_ok.mp h
    obtain ⟨y, hy, h⟩ := bind_eq_ok.mp h
    refine dispatchLoop_invariant round ?_ h
    rw [put_ch, (overflow hy).capture]
    exact auto x.ch _ (command x hx) (autoZsl_capture x)

end Invariant

/-! ## The calls on the camera -/

def Alternate (calls : List ZslCall) : Prop :=
  calls.IsChain (· ≠ ·) ∧ ∀ call ∈ calls.head?, call = .start

theorem alternate_nil : Alternate [] := ⟨.nil, by simp⟩

theorem Alternate.start {calls : List ZslCall} (h : Alternate calls)
    (last : calls.getLast? ≠ some .start) : Alternate (calls ++ [.start]) := by
  refine ⟨h.1.append (.singleton _) ?_, ?_⟩
  · intro x hx y hy
    obtain rfl : ZslCall.start = y := by simpa using hy
    rintro rfl
    exact last hx
  · cases calls with
    | nil => simp
    | cons call calls => simpa using h.2

theorem Alternate.stop {calls : List ZslCall} (h : Alternate calls)
    (last : calls.getLast? = some .start) : Alternate (calls ++ [.stop]) := by
  refine ⟨h.1.append (.singleton _) ?_, ?_⟩
  · intro x hx y hy
    obtain rfl : ZslCall.stop = y := by simpa using hy
    obtain rfl : ZslCall.start = x := by simpa [last] using hx
    simp
  · cases calls with
    | nil => simp at last
    | cons call calls => simpa using h.2

/-- The handler itself takes care of the ZSL snapshot: since `before`, its calls alternate, and the
snapshot runs exactly after a start. -/
structure Capture.Automatic (before : List ZslCall) (a : Capture) : Prop where
  auto : a.manualZSLSnapshot = false
  calls : ∃ calls, a.zslCalls = before ++ calls ∧ Alternate calls ∧
    (a.startZSlSnapshotCalled = true ↔ calls.getLast? = some .start)

def Capture.Serving (a : Capture) : Prop := a.startZSlSnapshotCalled = true → 0 < a.pendingCnt

namespace Capture.Automatic

variable {before : List ZslCall} {a b : Capture}

theorem started (h : a.Automatic before) (idle : a.startZSlSnapshotCalled = false) :
    a.started.Automatic before := by
  obtain ⟨calls, hcalls, halt, hrun⟩ := h.calls
  refine ⟨h.auto, calls ++ [.start], ?_, halt.start ?_, ?_⟩
  · rw [Capture.started, hcalls, List.append_assoc]
  · intro hlast
    rw [hrun.mpr hlast] at idle
    cases idle
  · simp [Capture.started]

theorem stopped (h : a.Automatic before) (running : a.startZSlSnapshotCalled = true) :
    a.stopped.Automatic before := by
  obtain ⟨calls, hcalls, halt, hrun⟩ := h.calls
  refine ⟨h.auto, calls ++ [.stop], ?_, halt.stop (hrun.mp running), ?_⟩
  · rw [Capture.stopped, hcalls, List.append_assoc]
  · simp [Capture.stopped]

theorem congr (h : a.Automatic before) (auto : b.manualZSLSnapshot = a.manualZSLSnapshot)
    (run : b.startZSlSnapshotCalled = a.startZSlSnapshotCalled)
    (calls : b.zslCalls = a.zslCalls) : b.Automatic before := by
  refine ⟨auto.trans h.auto, ?_⟩
  rw [run, calls]
  exact h.calls

theorem autoZsl {ch : Channel} (h : ch.capture.Automatic before) (hb : ch.AutoZsl b) :
    b.Automatic before ∧ b.Serving := by
  cases hb with
  | start pending _ idle => exact ⟨h.started idle, fun _ => pending⟩
  | stop _ running => exact ⟨h.stopped running, fun hrun => by cases hrun⟩
  | keep serving _ => exact ⟨h, serving h.auto⟩

theorem count (h : a.Automatic before) : a.count.Automatic before := by
  rw [Capture.count_eq]
  exact h.congr rfl rfl rfl

theorem round {ch : Channel} (h : ch.capture.Automatic before) (hb : ch.Round b) :
    b.Automatic before ∧ b.Serving := by
  have hless : { ch.capture with pendingCnt := ch.pendingCnt - 1 }.Automatic before :=
    h.congr rfl rfl rfl
  cases hb with
  | stop _ running => exact ⟨hless.stopped running, fun hrun => by cases hrun⟩
  | count serving =>
    refine ⟨hless.count, ?_⟩
    rw [Capture.count_eq]
    intro hrun
    exact Nat.sub_pos_of_lt (serving h.auto hrun)

end Capture.Automatic

/-- A command that is no manual start or stop of the ZSL snapshot. -/
def Command.NoManualZsl : Command → Prop
  | .startZsl | .stopZsl => False
  | _ => True

/-- An operation that starts or stops the ZSL snapshot of channel `c` by no command. -/
def Op.NoManualZsl (c : ChannelId) : Op → Prop
  | .command _ d cmd => d = c → cmd.NoManualZsl
  | _ => True

theorem Command.NoManualZsl.automatic {cmd : Command} (h : cmd.NoManualZsl)
    {before : List ZslCall} {a : Capture} (ha : a.Automatic before) :
    (cmd.onCapture a).Automatic before := by
  cases cmd with
  | startZsl | stopZsl => exact h.elim
  | reqDataCb type numBuf numRetro => exact ha.congr rfl rfl rfl
  | general g =>
    cases g with
    | captureSetting start config => exact ha.congr rfl rfl rfl
    | _ => exact ha
  | _ => exact ha

section Runs

variable {c : ChannelId} {s t : System}

theorem autoZsl_step {op : Op} (h : op.Step s t) (hop : op.NoManualZsl c)
    {before : List ZslCall} (hs : (s.ch c).capture.Automatic before ∧ (s.ch c).capture.Serving) :
    (t.ch c).capture.Automatic before ∧ (t.ch c).capture.Serving := by
  cases op with
  | command env d cmd =>
    by_cases hd : d = c
    · subst hd
      refine processStreamBuf_invariant (I := fun a => a.Automatic before ∧ a.Serving)
        (J := fun ch => ch.capture.Automatic before)
        (fun _ _ _ => hs) ?_ (fun ch a hch ha => hch.autoZsl ha)
        (fun ch a _ ha hch => hch.1.round ha) h
      intro x hx
      rw [processCommand_capture hx]
      exact (hop rfl).automatic hs.1
    · rw [processStreamBuf_read (f := Channel.capture) (fun _ _ => rfl) sendNode_capture
        (fun he => hd he.symm) h]
      exact hs
  | register d | unregister d =>
    cases h
    exact hs

/-- **The automatic starts and stops of the ZSL snapshot**, over every run without a manual one,
from any state in which the snapshot does not run: in every state the run reaches, the calls made
since alternate and begin with a start, `startZSlSnapshotCalled` is set exactly when the last of
them is a start, and when no super buffer is pending any more the last of them is a stop. -/
theorem autoZsl_alternates {ops : List Op} (run : Run Op.Step ops s t)
    (auto : (s.ch c).manualZSLSnapshot = false) (idle : (s.ch c).startZSlSnapshotCalled = false)
    (noManual : ∀ op ∈ ops, op.NoManualZsl c) :
    ∃ calls, (t.ch c).zslCalls = (s.ch c).zslCalls ++ calls ∧
      calls.IsChain (· ≠ ·) ∧ (∀ call ∈ calls.head?, call = .start) ∧
      ((t.ch c).startZSlSnapshotCalled = true ↔ calls.getLast? = some .start) ∧
      ((t.ch c).pendingCnt = 0 → ∀ call ∈ calls.getLast?, call = .stop) := by
  have hrun : Run (fun op s t => op.Step s t ∧ op.NoManualZsl c) ops s t :=
    run.mono fun op hop _ _ hstep => ⟨hstep, noManual op hop⟩
  have hstart : (s.ch c).capture.Automatic (s.ch c).zslCalls ∧ (s.ch c).capture.Serving := by
    refine ⟨⟨auto, [], by simp [Channel.capture], alternate_nil, ?_⟩, ?_⟩
    · simp [Channel.capture, idle]
    · intro hcalled
      rw [show (s.ch c).capture.startZSlSnapshotCalled = false from idle] at hcalled
      cases hcalled
  obtain ⟨⟨-, calls, hcalls, halt, hlast⟩, hserving⟩ := hrun.invariant
    (I := fun u => (u.ch c).capture.Automatic (s.ch c).zslCalls ∧ (u.ch c).capture.Serving)
    (fun op _ _ hstep hs => autoZsl_step hstep.1 hstep.2 hs) hstart
  refine ⟨calls, hcalls, halt.1, halt.2, hlast, ?_⟩
  intro hdone call hcall
  cases call with
  | stop => rfl
  | start =>
    have hpos : 0 < (t.ch c).pendingCnt := hserving (hlast.mpr hcall)
    omega

/-- One frame of a configured capture: the ZSL snapshot is started with the request and stopped
with the frame. -/
theorem autoZsl_alternates_oneFrame :
    ∃ t, Run Op.Step [.command .ample 0 (.general (.captureSetting true
          ⟨1, fun _ => ⟨1, .normal⟩⟩)),
        .command .ample 0 (.reqDataCb .superBuf 1 0),
        .command .ample 0 (.dataCb (imageBuf 100 1 100)),
        .command .ample 0 (.dataCb (imageBuf 101 2 100))] twoStreams t ∧
      (t.ch 0).zslCalls = [.start, .stop] ∧
      ∃ calls, (t.ch 0).zslCalls = calls ∧ calls.IsChain (· ≠ ·) ∧
        ((t.ch 0).pendingCnt = 0 → ∀ call ∈ calls.getLast?, call = .stop) := by
  obtain ⟨t, run, hcalls⟩ : ∃ t, Run Op.Step [.command .ample 0 (.general (.captureSetting true
        ⟨1, fun _ => ⟨1, .normal⟩⟩)),
      .command .ample 0 (.reqDataCb .superBuf 1 0),
      .command .ample 0 (.dataCb (imageBuf 100 1 100)),
      .command .ample 0 (.dataCb (imageBuf 101 2 100))] twoStreams t ∧
      (t.ch 0).zslCalls = [.start, .stop] :=
    ⟨_, .cons rfl (.cons rfl (.cons rfl (.one rfl))), by decide +kernel⟩
  obtain ⟨calls, heq, hchain, -, -, hlast⟩ :=
    autoZsl_alternates (c := 0) run rfl rfl (by simp [Op.NoManualZsl, Command.NoManualZsl])
  exact ⟨t, run, hcalls, calls, heq, hchain, hlast⟩

end Runs

end MmCamera
