import Mathlib.Data.Fintype.Pi

/-!
# The data of a camera channel

The records of `mm_camera.h` that the command thread of a channel reads and writes. A pointer to
a channel is a `ChannelId`; the superbuf queue is the list of its nodes from the head on; a slot
of a node is `none` while it is zeroed. Frame indices and counters are natural numbers, reduced
modulo `2 ^ 32` or `2 ^ 8` where the code computes them.
-/

namespace MmCamera

/-- `n++` on a `uint32_t`. -/
def incU32 (n : ℕ) : ℕ := if n = 2 ^ 32 - 1 then 0 else n + 1

/-- `n--` on a `uint32_t`. -/
def decU32 (n : ℕ) : ℕ := if n = 0 then 2 ^ 32 - 1 else n - 1

/-- `a + b` on `uint32_t`. -/
def addU32 (a b : ℕ) : ℕ := (b + a) % 2 ^ 32

/-- `n++` on a `uint8_t`. -/
abbrev incU8 (n : ℕ) : ℕ := (n + 1) % 2 ^ 8

/-- `n--` on a `uint8_t`. -/
abbrev decU8 (n : ℕ) : ℕ := (n + (2 ^ 8 - 1)) % 2 ^ 8

theorem incU32_mod (n : ℕ) : incU32 (n % 2 ^ 32) = (n + 1) % 2 ^ 32 := by
  unfold incU32
  split_ifs <;> omega

theorem decU32_mod (n : ℕ) : decU32 ((n + 1) % 2 ^ 32) = n % 2 ^ 32 := by
  unfold decU32
  split_ifs <;> omega

theorem decU32_iterate_mod (n j : ℕ) : decU32^[j] ((n + j) % 2 ^ 32) = n % 2 ^ 32 := by
  induction j with
  | zero => rfl
  | succ j ih => rw [Function.iterate_succ_apply, ← Nat.add_assoc, decU32_mod, ih]

def maxFutureFrameWait : ℕ := 100

/-- A pointer to an `mm_channel_t`. -/
abbrev ChannelId := ℕ

abbrev StreamId := ℕ

/-- `cam_stream_type_t`. -/
inductive StreamType
  | default | preview | postview | snapshot | video | callback | implDefined | metadata | raw
  | offlineProc | parm | analysis
  deriving DecidableEq, Repr

/-- `cam_frame_idx_range_t`. -/
structure FrameIdxRange where
  minFrameIdx : ℕ
  maxFrameIdx : ℕ
  numLedOnFrames : ℕ
  frameSkipCount : ℕ
  configBatchIdx : ℕ
  deriving DecidableEq, Repr

/-- One entry of `cam_crop_data_t`: the stream and the corner of its crop. -/
structure CropInfo where
  streamId : ℕ
  left : ℤ
  top : ℤ
  deriving DecidableEq, Repr

/-- `cam_prep_snapshot_state_t`. -/
inductive PrepSnapshotState
  | doNotNeedFutureFrame | needFutureFrame
  deriving DecidableEq, Repr

/-- The entries of a `metadata_buffer_t` that the channel looks up, each valid or not. -/
structure Metadata where
  prepSnapshotDone : Option PrepSnapshotState := none
  goodFrameIdxRange : Option FrameIdxRange := none
  cropData : Option (List CropInfo) := none
  bufDivertInfo : Option ℕ := none
  lowLight : Option Bool := none
  aecSettled : Option Bool := none
  deriving DecidableEq, Repr

/-- `mm_camera_buf_def_t`: a buffer of a stream, told apart by its address; `buffer` is the
metadata it points to, where it points to any. -/
structure BufDef where
  addr : ℕ
  streamId : StreamId
  streamType : StreamType
  buffer : Option Metadata := none
  deriving DecidableEq, Repr

/-- `mm_camera_buf_info_t`: a buffer as a stream delivers it. -/
structure BufInfo where
  streamId : StreamId
  frameIdx : ℕ
  buf : BufDef
  deriving DecidableEq, Repr

/-- `mm_channel_queue_node_t`; `num_of_bufs` is the number of slots. -/
structure Node where
  superBuf : List (Option BufInfo)
  matched : Bool
  expectedFrame : Bool
  frameIdx : ℕ
  unmatchedMetaIdx : ℕ
  deriving DecidableEq, Repr

/-- `super_buf[i].frame_idx`, zero in an empty slot. -/
def slotFrameIdx (slot : Option BufInfo) : ℕ := slot.elim 0 BufInfo.frameIdx

/-- `super_buf[i].frame_idx` of a node. -/
def Node.frameIdxAt (n : Node) (i : ℕ) : ℕ := slotFrameIdx (n.superBuf.getD i none)

def Node.bufs (n : Node) : List BufDef := n.superBuf.filterMap (·.map BufInfo.buf)

/-- `mm_camera_super_buf_notify_mode_t`. -/
inductive NotifyMode
  | burst | continuous
  deriving DecidableEq, Repr

/-- `mm_camera_super_buf_priority_t`. -/
inductive Priority
  | normal | focus | exposureBracketing | low
  deriving DecidableEq, Repr

/-- `mm_camera_req_buf_type_t`. -/
inductive ReqType
  | superBuf | frameSyncBuf
  deriving DecidableEq, Repr

/-- `mm_channel_bracketing_state_t`. -/
inductive BracketingState
  | off | waitGoodFrameIdx | active
  deriving DecidableEq, Repr

/-- `mm_camera_channel_attr_t`. -/
structure Attr where
  notifyMode : NotifyMode
  waterMark : ℕ
  lookBack : ℕ
  postFrameSkip : ℕ
  maxUnmatchedFrames : ℕ
  enableFrameSync : Bool
  priority : Priority
  userExpectedFrameId : ℕ
  deriving DecidableEq, Repr

/-- `mm_channel_queue_t`; `que` lists the nodes from the head, `size` is its counter, and
`num_streams` is the length of `bundledStreams`. -/
structure Queue where
  que : List Node
  size : ℕ
  bundledStreams : List StreamId
  attr : Attr
  expectedFrameId : ℕ
  matchCnt : ℕ
  expectedFrameIdWithoutLed : ℕ
  ledOnStartFrameId : ℕ
  ledOffStartFrameId : ℕ
  ledOnNumFrames : ℕ
  once : Bool
  frameSkipCount : ℕ
  goodFrameId : ℕ
  deriving DecidableEq, Repr

def Queue.numStreams (q : Queue) : ℕ := q.bundledStreams.length

/-- What the channel reads of an `mm_stream_t` of its table: whether the entry is in use, its
handles, the type in its `stream_info` (`none` for a null pointer), and whether its channel, or
the channel its source is linked to, is this one. -/
structure StreamObj where
  inUse : Bool
  myHdl : StreamId
  serverStreamId : ℕ
  streamInfo : Option StreamType
  ownedHere : Bool
  linkedHere : Bool
  deriving DecidableEq, Repr

inductive CaptureType
  | normal | flash | bracketing | lowLight | reset | manual3A
  deriving DecidableEq, Repr

/-- The fields of `cam_capture_settings_t` the channel uses. -/
structure CaptureSettings where
  numFrames : ℤ
  type : CaptureType
  deriving DecidableEq, Repr

/-- `cam_capture_frame_config_t`; an index past the array reads what lies behind it. -/
structure FrameConfig where
  numBatch : ℕ
  configs : ℕ → CaptureSettings

/-- A zeroed `cam_capture_frame_config_t`. -/
def FrameConfig.zero : FrameConfig := ⟨0, fun _ => ⟨0, .normal⟩⟩

/-- `mm_camera_super_buf_t`: what the callback thread is handed. -/
structure SuperBuf where
  cameraHandle : ℕ
  chId : ℕ
  bUnlockAEC : Bool
  bReadyForPrepareSnapshot : Bool
  bufs : List (Option BufDef)
  deriving DecidableEq, Repr

/-- A call on the camera object. -/
inductive ZslCall
  | start | stop
  deriving DecidableEq, Repr

/-- `mm_channel_t`. The last five fields record what leaves the handler: the queue of the
callback thread, the nodes passed to `mm_channel_send_super_buf`, the buffers passed to
`mm_channel_qbuf`, the calls on the camera object, and the posts of `sync_sem`. -/
structure Channel where
  myHdl : ℕ
  camHdl : ℕ
  queue : Queue
  superBufNotifyCb : Bool
  pendingCnt : ℕ
  pendingRetroCnt : ℕ
  reqType : ReqType
  bWaitForPrepSnapshotDone : Bool
  unLockAEC : Bool
  stopZslSnapshot : Bool
  streams : List StreamObj
  manualZSLSnapshot : Bool
  startZSlSnapshotCalled : Bool
  needLEDFlash : Bool
  bracketingState : BracketingState
  isFlashBracketingEnabled : Bool
  isZoom1xFrameRequested : Bool
  burstSnapNum : ℕ
  divertedFrameId : ℕ
  isConfigCapture : Bool
  curCaptureIdx : ℕ
  captureFrameId : ℕ → ℕ
  frameConfig : FrameConfig
  needLowLightZSL : Bool
  cbQueue : List SuperBuf := []
  sent : List Node := []
  qbufs : List BufDef := []
  zslCalls : List ZslCall := []
  syncPosts : ℕ := 0

/-- `mm_camera_generic_cmd_t`: the first word of the payload says start or stop. -/
inductive GenericCmd
  | aeBracketing (start : Bool)
  | afBracketing (start : Bool)
  | flashBracketing (start : Bool)
  | zoom1x (start : Bool)
  | captureSetting (start : Bool) (frameConfig : FrameConfig)
  | invalid

/-- `mm_camera_cmdcb_t`; `other` is a type the channel's handler has no branch for. -/
inductive Command
  | dataCb (buf : BufInfo)
  | reqDataCb (type : ReqType) (numBufRequested numRetroBufRequested : ℕ)
  | startZsl
  | stopZsl
  | configNotify (notifyMode : NotifyMode)
  | flushQueue (frameIdx : ℕ) (streamType : StreamType)
  | general (genCmd : GenericCmd)
  | other

/-- The outcomes of the allocations one command makes: the two of a new queue node, and the
callback nodes in the order they are sent. -/
structure Env where
  newBuf : Bool
  newNode : Bool
  cbNode : ℕ → Bool

/-- How a handler can fail to return: a loop whose guard never fails, or a read of a freed
node. -/
inductive Fault
  | hang | useAfterFree
  deriving DecidableEq, Repr

abbrev Exec := Except Fault

theorem bind_eq_ok {α β : Type} {a : Exec α} {f : α → Exec β} {b : β} :
    a >>= f = .ok b ↔ ∃ x, a = .ok x ∧ f x = .ok b := by
  cases a with
  | error e | ok x => simp [bind, Except.bind]

end MmCamera
