import MidoCamera.Stack.Metadata
import Mathlib.Tactic.Ring

/-!
# The command handler of a channel

`mm_channel_process_stream_buf`, the handler the command thread of every channel runs for each of
its commands: the command itself, the automatic start and stop of the ZSL snapshot, the overflow
loop, and the loop that dispatches super buffers, alone or in step with the other cameras.
-/

namespace MmCamera

/-- All channels, and the frame-sync table they share. -/
structure System where
  fs : FrameSync
  ch : ChannelId → Channel

def System.ctx (s : System) (c : ChannelId) : Ctx := ⟨s.fs, s.ch c⟩

def System.put (s : System) (c : ChannelId) (x : Ctx) : System :=
  ⟨x.fs, Function.update s.ch c x.ch⟩

def System.modify (s : System) (c : ChannelId) (f : Channel → Channel) : System :=
  ⟨s.fs, Function.update s.ch c (f (s.ch c))⟩

/-- A channel as `mm_channel_start` leaves it, with the streams it bundles, the attributes of its
bundle and its table of streams. -/
def Channel.started (bundledStreams : List StreamId) (attr : Attr) (streams : List StreamObj) :
    Channel :=
  { myHdl := 0
    camHdl := 0
    queue :=
      { que := []
        size := 0
        bundledStreams := bundledStreams
        attr := attr
        expectedFrameId := attr.userExpectedFrameId
        matchCnt := 0
        expectedFrameIdWithoutLed := 0
        ledOnStartFrameId := 0
        ledOffStartFrameId := 0
        ledOnNumFrames := 0
        once := false
        frameSkipCount := 0
        goodFrameId := 0 }
    superBufNotifyCb := true
    pendingCnt := 0
    pendingRetroCnt := 0
    reqType := .superBuf
    bWaitForPrepSnapshotDone := false
    unLockAEC := false
    stopZslSnapshot := false
    streams := streams
    manualZSLSnapshot := false
    startZSlSnapshotCalled := false
    needLEDFlash := false
    bracketingState := .off
    isFlashBracketingEnabled := false
    isZoom1xFrameRequested := false
    burstSnapNum := 0
    divertedFrameId := 0
    isConfigCapture := false
    curCaptureIdx := 0
    captureFrameId := fun _ => 0
    frameConfig := .zero
    needLowLightZSL := false }

/-! ## Commands -/

/-- The handler of `REQ_DATA_CB`, up to the skip. -/
def Channel.request (type : ReqType) (numBuf numRetro : ℕ) (ch : Channel) : Channel :=
  let retro := if numBuf = 0 ∨ numBuf < numRetro then numBuf else numRetro
  { ch with
    pendingCnt := numBuf
    pendingRetroCnt := retro
    reqType := type
    bWaitForPrepSnapshotDone := false
    needLEDFlash := if 0 < retro then false else ch.needLEDFlash
    stopZslSnapshot := false
    unLockAEC := false }

/-- The copy of a capture setting into the channel, without its `RESET` entries. -/
def FrameConfig.load (config : FrameConfig) : FrameConfig :=
  (List.range config.numBatch).foldl
    (fun fc i =>
      if (config.configs i).type = .reset then fc
      else ⟨fc.numBatch + 1, Function.update fc.configs fc.numBatch (config.configs i)⟩)
    .zero

/-- The `memset` of `capture_frame_id`: `MAX_CAPTURE_BATCH_NUM` bytes, which are the first eight
of its entries. -/
def clearCaptureFrameId (ids : ℕ → ℕ) : ℕ → ℕ := fun i => if i < 8 then 0 else ids i

/-- The branches of `MM_CAMERA_CMD_TYPE_GENERAL`. -/
def processGeneral (genCmd : GenericCmd) (x : Ctx) : Ctx :=
  match genCmd with
  | .aeBracketing start | .afBracketing start =>
    let x := superbufFlush .default x
    { x with ch := { x.ch with bracketingState := if start then .waitGoodFrameIdx else .off } }
  | .flashBracketing start =>
    let x := superbufFlush .default x
    { x with ch := { x.ch with isFlashBracketingEnabled := start } }
  | .zoom1x start =>
    let x := superbufFlush .default x
    { x with ch := { x.ch with isZoom1xFrameRequested := start } }
  | .captureSetting start config =>
    { x with ch := { x.ch with
        frameConfig := if start then config.load else .zero
        isConfigCapture := start
        curCaptureIdx := 0
        captureFrameId := clearCaptureFrameId x.ch.captureFrameId } }
  | .invalid => x

/-- The branches on the type of the command, but for `FLUSH_QUEUE`. -/
def processCommand (env : Env) (c : ChannelId) (cmd : Command) (x : Ctx) : Exec Ctx :=
  match cmd with
  | .dataCb b => superbufCompAndEnqueue env c b x
  | .reqDataCb type numBuf numRetro =>
    superbufSkip { x with ch := x.ch.request type numBuf numRetro }
  | .startZsl =>
    .ok { x with ch := { x.ch with
        manualZSLSnapshot := true, zslCalls := x.ch.zslCalls ++ [.start] } }
  | .stopZsl =>
    .ok { x with ch := { x.ch with
        manualZSLSnapshot := false, zslCalls := x.ch.zslCalls ++ [.stop] } }
  | .configNotify mode =>
    .ok (x.setQueue { x.ch.queue with attr := { x.ch.queue.attr with notifyMode := mode } })
  | .general genCmd => .ok (processGeneral genCmd x)
  | .flushQueue _ _ | .other => .ok x

/-- The branch of `MM_CAMERA_CMD_TYPE_FLUSH_QUEUE`, after which the handler returns. -/
def processFlush (frameIdx : ℕ) (streamType : StreamType) (x : Ctx) : Ctx :=
  let x := superbufFlush streamType
    (x.setQueue { x.ch.queue with expectedFrameId := frameIdx })
  { x with ch := { x.ch with syncPosts := x.ch.syncPosts + 1 } }

/-! ## Automatic ZSL -/

/-- `needStartZSL`: no batch still to come is a flash or a low light capture that is not needed. -/
def Channel.needStartZSL (ch : Channel) : Bool :=
  decide (0 < ch.pendingCnt) && ch.isConfigCapture && !ch.manualZSLSnapshot
    && !ch.startZSlSnapshotCalled
    && (List.range' ch.curCaptureIdx (ch.frameConfig.numBatch - ch.curCaptureIdx)).all fun i =>
        let type := (ch.frameConfig.configs i).type
        !((type == .flash && !ch.needLEDFlash) || (type == .lowLight && !ch.needLowLightZSL))

/-- The automatic start of a ZSL snapshot. -/
def Channel.triggerStartZsl (ch : Channel) : Channel :=
  { ch with
    zslCalls := ch.zslCalls ++ [.start]
    startZSlSnapshotCalled := true
    burstSnapNum := ch.pendingCnt
    bWaitForPrepSnapshotDone := false }

/-- The automatic stop of a ZSL snapshot, but for `bWaitForPrepSnapshotDone`. -/
def Channel.triggerStopZsl (ch : Channel) : Channel :=
  { ch with
    zslCalls := ch.zslCalls ++ [.stop]
    startZSlSnapshotCalled := false
    needLEDFlash := false
    burstSnapNum := 0
    stopZslSnapshot := false
    unLockAEC := true
    bracketingState := .off
    isConfigCapture := false }

/-- The frames awaited of the batches still to come move to the far future. -/
def Channel.awaitBatches (ch : Channel) : Channel :=
  { ch with
    captureFrameId := fun i =>
      if ch.curCaptureIdx ≤ i ∧ i < ch.frameConfig.numBatch then
        addU32 ch.queue.expectedFrameId maxFutureFrameWait
      else ch.captureFrameId i }

/-- The start or stop of the ZSL snapshot between the command and the dispatch. -/
def autoZsl (x : Ctx) : Ctx :=
  let ch := x.ch
  if ch.isConfigCapture && ch.needStartZSL then
    let x := superbufFlush .default { x with ch := ch.awaitBatches }
    { x with ch := x.ch.triggerStartZsl }
  else if decide (0 < ch.pendingCnt) && (ch.needLEDFlash || ch.bracketingState != .off)
      && !ch.manualZSLSnapshot && !ch.startZSlSnapshotCalled then
    { x with ch := ch.triggerStartZsl }
  else if (ch.pendingCnt == 0 || ch.stopZslSnapshot) && !ch.manualZSLSnapshot
      && ch.startZSlSnapshotCalled then
    { x with ch := { ch.triggerStopZsl with bWaitForPrepSnapshotDone := false } }
  else x

/-! ## Dispatch -/

/-- `mm_channel_node_info_t`: the nodes of one round, each with its channel. -/
abbrev NodeInfo := List (ChannelId × Node)

/-- The dequeue of a frame from the queue of every synced channel, in the order of the slots. -/
def frameSyncDequeue (frame : ℕ) : List CamIdx → System → NodeInfo × System
  | [], s => ([], s)
  | j :: js, s =>
    match s.fs.chObj j with
    | none => frameSyncDequeue frame js s
    | some c =>
      match superbufDequeueFrameInternal frame (s.ch c).queue with
      | (some node, q) =>
        let (info, t) := frameSyncDequeue frame js (s.modify c fun ch => { ch with queue := q })
        ((c, node) :: info, t)
      | (none, _) => frameSyncDequeue frame js s

/-- `mm_channel_node_qbuf` of every node collected. -/
def nodesQbuf (info : NodeInfo) (s : System) : System :=
  info.foldl (fun s p => s.modify p.1 fun ch => ch.qbuf p.2.bufs) s

/-- One synced dequeue, between `mm_frame_sync_lock_queues` and `mm_frame_sync_unlock_queues`: the
nodes of a frame all cameras have matched. Where a camera has none, the others' are returned. -/
def frameSyncCollect (s : System) : NodeInfo × System :=
  let matchFrame := frameSyncFindMatched false s.fs
  if matchFrame = 0 then ([], s)
  else
    let (info, s) := frameSyncDequeue matchFrame (List.finRange maxNumCameraPerBundle) s
    let s := { s with fs := frameSyncRemove matchFrame s.fs }
    if info.length = s.fs.numCam then (info, s) else ([], nodesQbuf info s)

/-- One dequeue of a channel's own queue. While a capture is configured, a super buffer before
the frame awaited is returned. -/
def superbufCollect (c : ChannelId) (s : System) : NodeInfo × System :=
  match superbufDequeue (s.ctx c) with
  | (none, x) => ([], s.put c x)
  | (some node, x) =>
    if x.ch.isConfigCapture ∧ node.frameIdx < x.ch.captureFrameId x.ch.curCaptureIdx then
      ([], s.put c (x.qbuf node.bufs))
    else ([(c, node)], s.put c x)

def collect (c : ChannelId) (s : System) : NodeInfo × System :=
  if (s.ch c).reqType = .frameSyncBuf then frameSyncCollect s else superbufCollect c s

/-- The step to the next batch of a configured capture. -/
def Channel.countCapture (ch : Channel) : Channel :=
  if ch.isConfigCapture then
    let i := ch.curCaptureIdx
    let setting := ch.frameConfig.configs i
    let setting :=
      if setting.numFrames ≠ 0 then { setting with numFrames := setting.numFrames - 1 }
      else setting
    let ch := { ch with
      frameConfig := { ch.frameConfig with
        configs := Function.update ch.frameConfig.configs i setting } }
    if setting.numFrames = 0 then
      let i := (i + 1) % 2 ^ 8
      { ch with
        curCaptureIdx := i
        queue := { ch.queue with
          expectedFrameId := ch.captureFrameId i, goodFrameId := ch.captureFrameId i } }
    else ch
  else ch

/-- The counters of pending and retro-active buffers, for one round that is dispatched. -/
def Channel.countPending (ch : Channel) : Channel :=
  { ch with
    pendingCnt := decU32 ch.pendingCnt
    bWaitForPrepSnapshotDone := ch.bWaitForPrepSnapshotDone || ch.pendingRetroCnt == 1
    pendingRetroCnt :=
      if 0 < ch.pendingRetroCnt then decU32 ch.pendingRetroCnt else ch.pendingRetroCnt }

/-- The stop of the ZSL snapshot with the last buffer of a burst. -/
def Channel.stopAfterBurst (ch : Channel) : Channel :=
  if (ch.pendingCnt == 0 || ch.stopZslSnapshot) && !ch.manualZSLSnapshot
      && ch.startZSlSnapshotCalled then ch.triggerStopZsl
  else ch

def Channel.countBurst (ch : Channel) : Channel := ch.countPending.stopAfterBurst.countCapture

/-- `mm_channel_send_super_buf` for one node: to the callback thread, or back to the streams when
there is no callback or no memory. -/
def sendNode (cbNode : Bool) (node : Node) (ch : Channel) : Channel :=
  let ch := { ch with sent := ch.sent ++ [node] }
  if ch.superBufNotifyCb && cbNode then
    let superBuf : SuperBuf :=
      { cameraHandle := ch.camHdl
        chId := ch.myHdl
        bUnlockAEC := ch.unLockAEC
        bReadyForPrepareSnapshot := ch.bWaitForPrepSnapshotDone
        bufs := node.superBuf.map (·.map BufInfo.buf) }
    { ch with cbQueue := ch.cbQueue ++ [superBuf], unLockAEC := false }
  else ch.qbuf node.bufs

/-- `mm_channel_send_super_buf`; `k` counts the nodes sent before. -/
def sendSuperBuf (env : Env) : ℕ → NodeInfo → System → System
  | _, [], s => s
  | k, (c, node) :: info, s =>
    sendSuperBuf env (k + 1) info (s.modify c (sendNode (env.cbNode k) node))

def Channel.dispatching (mode : NotifyMode) (ch : Channel) : Bool :=
  (decide (0 < ch.pendingCnt) || mode == .continuous) && !ch.bWaitForPrepSnapshotDone

/-- The dispatch loop, with the notify mode read before it; `k` counts the nodes sent before. -/
def dispatchLoop (env : Env) (c : ChannelId) (mode : NotifyMode) : ℕ → ℕ → System → Exec System
  | fuel, k, s =>
    if (s.ch c).dispatching mode then
      match fuel with
      | 0 => .error .hang
      | fuel + 1 =>
        match collect c s with
        | ([], s) => .ok s
        | (info, s) =>
          let s := if mode = .burst then s.modify c Channel.countBurst else s
          dispatchLoop env c mode fuel (k + info.length) (sendSuperBuf env k info s)
    else .ok s

def System.queued (s : System) (c : ChannelId) : ℕ := (s.ch c).queue.que.length

/-- The rounds of the dispatch loop of a channel: each takes a node of its own queue or of those
of the synced channels, or is the last. -/
def System.dispatchFuel (s : System) (c : ChannelId) : ℕ :=
  s.queued c +
    ((List.finRange maxNumCameraPerBundle).map fun j => (s.fs.chObj j).elim 0 s.queued).sum + 1

def processStreamBuf (env : Env) (c : ChannelId) (cmd : Command) (s : System) : Exec System :=
  match cmd with
  | .flushQueue frameIdx streamType => .ok (s.put c (processFlush frameIdx streamType (s.ctx c)))
  | cmd => do
    let x ← processCommand env c cmd (s.ctx c)
    let mode := x.ch.queue.attr.notifyMode
    let x ← superbufBufdoneOverflow (autoZsl x)
    let s := s.put c x
    dispatchLoop env c mode (s.dispatchFuel c) 0 s

end MmCamera
