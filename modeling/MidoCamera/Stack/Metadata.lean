import MidoCamera.Stack.Superbuf

/-!
# Metadata and the arrival of a buffer

What a metadata buffer changes in the channel before it is matched
(`mm_channel_handle_metadata`), one definition for each of the entries it looks up, in the order
of the code; and the arrival of a buffer, `mm_channel_superbuf_comp_and_enqueue`.
-/

namespace MmCamera

def Channel.getStreamByHandler (ch : Channel) (handler : StreamId) : Option StreamObj :=
  ch.streams.find? fun s => s.inUse && handler == s.myHdl

/-- The server handle of the first snapshot stream, zero when there is none. -/
def Channel.snapshotStreamId (ch : Channel) : ℕ :=
  match ch.streams.find? fun s => s.inUse && s.streamInfo == some .snapshot with
  | some s => s.serverStreamId
  | none => 0

/-- `is_crop_1x_found`: the crop of the snapshot stream starts at the corner. -/
def Channel.crop1xFound (ch : Channel) (m : Metadata) : Bool :=
  match m.cropData with
  | some crops => crops.any fun c =>
      ch.snapshotStreamId == c.streamId && c.left == 0 && c.top == 0
  | none => false

/-- `CAM_INTF_BUF_DIVERT_INFO`; the field that keeps the frame is a `uint8_t`. -/
def metaDivertInfo (b : BufInfo) (m : Metadata) (x : Ctx) : Ctx :=
  match m.bufDivertInfo with
  | some frameId =>
    { x with ch := { x.ch with
        divertedFrameId := if b.frameIdx ≤ frameId then frameId % 2 ^ 8 else 0 } }
  | none => x

def Ctx.waitFuture (x : Ctx) : Ctx :=
  x.setQueue { x.ch.queue with
    expectedFrameId := addU32 x.ch.queue.expectedFrameId maxFutureFrameWait }

/-- The branch for a requested 1x frame. -/
def metaZoom1x (b : BufInfo) (m : Metadata) (x : Ctx) : Ctx :=
  if x.ch.crop1xFound m then
    { x with ch := { x.ch with
        isZoom1xFrameRequested := false
        queue := { x.ch.queue with expectedFrameId := addU32 b.frameIdx 1 } } }
  else superbufFlushMatched x.waitFuture

def metaPrepSnapshotDone (m : Metadata) (x : Ctx) : Ctx :=
  match m.prepSnapshotDone with
  | some state =>
    let x := { x with ch := { x.ch with bWaitForPrepSnapshotDone := false } }
    match state with
    | .needFutureFrame =>
      let x := superbufFlush .default x.waitFuture
      { x with ch := { x.ch with needLEDFlash := true } }
    | .doNotNeedFutureFrame => { x with ch := { x.ch with needLEDFlash := false } }
  | none => x

/-- `CAM_INTF_META_GOOD_FRAME_IDX_RANGE`, or the wait for it while bracketing. -/
def metaGoodFrameIdxRange (m : Metadata) (x : Ctx) : Ctx :=
  match m.goodFrameIdxRange with
  | some r =>
    let q := { x.ch.queue with expectedFrameId := r.minFrameIdx, goodFrameId := r.minFrameIdx }
    if x.ch.needLEDFlash && decide (1 < x.ch.burstSnapNum) then
      x.setQueue { q with
        ledOnStartFrameId := r.minFrameIdx
        ledOffStartFrameId := r.maxFrameIdx
        once := false
        ledOnNumFrames := r.numLedOnFrames
        frameSkipCount := r.frameSkipCount }
    else x.setQueue q
  | none =>
    if x.ch.bracketingState = .waitGoodFrameIdx ∧ m.prepSnapshotDone = none then
      (superbufFlushMatched x).waitFuture
    else x

/-- The good frame of a flash bracketing or another bracketing. -/
def metaBracketing (m : Metadata) (x : Ctx) : Ctx :=
  match m.goodFrameIdxRange with
  | some r =>
    let q := { x.ch.queue with expectedFrameId := r.minFrameIdx, goodFrameId := r.minFrameIdx }
    if x.ch.isFlashBracketingEnabled then
      x.setQueue { q with expectedFrameIdWithoutLed := r.maxFrameIdx }
    else { x with ch := { x.ch with queue := q, bracketingState := .active } }
  | none => x

/-- The good frame of one batch of a configured capture. -/
def metaConfigCapture (m : Metadata) (x : Ctx) : Ctx :=
  match m.goodFrameIdxRange with
  | some r =>
    if x.ch.isConfigCapture && decide (r.configBatchIdx < x.ch.frameConfig.numBatch) then
      let ids := Function.update x.ch.captureFrameId r.configBatchIdx r.minFrameIdx
      let expected :=
        if x.ch.curCaptureIdx = r.configBatchIdx then r.minFrameIdx else ids x.ch.curCaptureIdx
      { x with ch := { x.ch with
          captureFrameId := ids
          queue := { x.ch.queue with expectedFrameId := expected, goodFrameId := expected } } }
    else x
  | none => x

/-- The end of the frames with the LED on in a burst. -/
def metaBurstFlash (b : BufInfo) (x : Ctx) : Ctx :=
  let q := x.ch.queue
  if decide (1 < x.ch.burstSnapNum) && x.ch.needLEDFlash && !x.ch.isFlashBracketingEnabled
      && x.ch.bracketingState == .off && !x.ch.isConfigCapture
      && decide (q.ledOffStartFrameId ≤ b.frameIdx) && !q.once then
    { x with ch := { x.ch with
        queue := { q with
          expectedFrameId := addU32 q.ledOffStartFrameId q.frameSkipCount
          once := true }
        stopZslSnapshot := true
        needLEDFlash := false } }
  else x

def metaLowLight (m : Metadata) (x : Ctx) : Ctx :=
  match m.lowLight with
  | some level => { x with ch := { x.ch with needLowLightZSL := level } }
  | none => x

/-- The frame the user expects, until the exposure settles or the frame is reached. -/
def metaUserExpected (b : BufInfo) (m : Metadata) (x : Ctx) : Ctx :=
  let q := x.ch.queue
  if 0 < q.attr.userExpectedFrameId then
    if b.frameIdx < q.attr.userExpectedFrameId then
      if m.aecSettled = some true then
        x.setQueue { q with
          expectedFrameId := b.frameIdx
          attr := { q.attr with userExpectedFrameId := 0 } }
      else x
    else x.setQueue { q with attr := { q.attr with userExpectedFrameId := 0 } }
  else x

/-- What the entries of a metadata buffer change. -/
def applyMetadata (b : BufInfo) (m : Metadata) (x : Ctx) : Ctx :=
  let x := metaDivertInfo b m x
  if x.ch.isZoom1xFrameRequested then metaZoom1x b m x
  else
    let x := metaPrepSnapshotDone m x
    let x := metaGoodFrameIdxRange m x
    let x := metaBracketing m x
    let x := metaConfigCapture m x
    let x := metaBurstFlash b x
    let x := metaLowLight m x
    metaUserExpected b m x

def handleMetadata (b : BufInfo) (x : Ctx) : Option Ctx :=
  match x.ch.getStreamByHandler b.streamId with
  | none => none
  | some streamObj =>
    match streamObj.streamInfo with
    | none => none
    | some type =>
      if type = .metadata ∧ (streamObj.ownedHere ∨ streamObj.linkedHere) then
        b.buf.buffer.map fun m => applyMetadata b m x
      else some x

/-- The metadata a buffer brings, if its stream is a metadata stream of this channel. -/
def Channel.metadataOf (ch : Channel) (b : BufInfo) : Option Metadata :=
  match ch.getStreamByHandler b.streamId with
  | some streamObj =>
    if streamObj.streamInfo = some .metadata ∧ (streamObj.ownedHere ∨ streamObj.linkedHere) then
      b.buf.buffer
    else none
  | none => none

theorem handleMetadata_cases (b : BufInfo) (x : Ctx) :
    (∃ m, x.ch.metadataOf b = some m ∧ handleMetadata b x = some (applyMetadata b m x)) ∨
      x.ch.metadataOf b = none ∧ (handleMetadata b x = some x ∨ handleMetadata b x = none) := by
  unfold handleMetadata Channel.metadataOf
  cases hs : x.ch.getStreamByHandler b.streamId with
  | none => simp
  | some streamObj =>
    cases hi : streamObj.streamInfo with
    | none => simp [hi]
    | some type =>
      by_cases hmeta : type = .metadata ∧ (streamObj.ownedHere ∨ streamObj.linkedHere)
      · cases hm : b.buf.buffer <;> simp [hi, hmeta]
      · simp [hi, hmeta]

def seqCompWRollover (v1 v2 : ℕ) : ℤ := if v2 < v1 then 1 else if v1 < v2 then -1 else 0

def validateSuperBuf (q : Queue) (b : BufInfo) : ℤ :=
  if q.que.any fun n => n.expectedFrame && b.frameIdx == n.frameIdx then 1 else 0

def Queue.slotOf (q : Queue) (s : StreamId) : Option ℕ := q.bundledStreams.findIdx? (s == ·)

def superbufCompAndEnqueue (env : Env) (c : ChannelId) (b : BufInfo) (x : Ctx) : Exec Ctx :=
  match x.ch.queue.slotOf b.streamId with
  | none => .ok x
  | some slot =>
    if b.frameIdx = 0 then .ok (x.qbuf [b.buf])
    else
      match handleMetadata b x with
      | none => .ok (x.qbuf [b.buf])
      | some x =>
        if seqCompWRollover b.frameIdx x.ch.queue.expectedFrameId < 0
            ∧ validateSuperBuf x.ch.queue b ≤ 0 then
          -- the incoming frame is older than the expected one
          .ok (x.qbuf [b.buf])
        else superbufComp env c slot b x

end MmCamera
