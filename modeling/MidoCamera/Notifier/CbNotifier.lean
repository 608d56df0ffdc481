import MidoCamera.Library.Run
import MidoCamera.Library.Tally

/-!
# The callback notifier

`QCameraCbNotifier` queues notifications for the application and sends its thread one command for
each; the thread takes them one by one, calls the callback of their type and calls their release
callback. Commands that start and stop snapshots, and the command that ends the thread, overtake the
others. A call from outside is a check of `mActive` and, later, what follows it; the thread is one
step for each time it takes a lock or looks at what others write. What happens to a notification is
recorded.
-/

namespace Notifier

open Loop

/-! ## Notifications -/

/-- `void *`, and a pointer to a function. -/
abbrev Ptr := Option ℕ

/-- `qcamera_callback_type_m`; a C enumeration may have any value. -/
inductive CallbackType
  | notifyCallback
  | dataCallback
  | dataTimestampCallback
  | dataSnapshotCallback
  | invalid (value : ℕ)
  deriving DecidableEq, Repr

/-- The status codes that callbacks and calls are given. -/
inductive Status
  | noError
  | unknownError
  | noMemory
  | badValue
  | invalidOperation
  | failedTransaction
  deriving DecidableEq, Repr

def CAMERA_MSG_PREVIEW_FRAME : BitVec 32 := 0x0010

def CAMERA_MSG_VIDEO_FRAME : BitVec 32 := 0x0020

/-- `qcamera_callback_argm_t`. -/
structure CallbackArgm where
  cbType : CallbackType
  msgType : BitVec 32
  ext1 : ℤ := 0
  ext2 : ℤ := 0
  data : Ptr := none
  index : ℕ := 0
  timestamp : ℤ := 0
  metadata : Ptr := none
  userData : Ptr := none
  cookie : Ptr := none
  releaseCb : Ptr := none
  frameIndex : ℕ := 0
  deriving DecidableEq, Repr

/-- A notification that has been accepted, with its number. -/
structure Node where
  id : ℕ
  arg : CallbackArgm
  deriving DecidableEq, Repr

/-- What happens: a callback of the application or of the muxer is called, `release_cb` is called,
the notification is deleted; the state machine is told that all snapshots are there; a call returns.
-/
inductive Event
  | notifyCb (id : ℕ) (msgType : BitVec 32) (ext1 ext2 : ℤ) (user : Ptr)
  | dataCb (id : ℕ) (msgType : BitVec 32) (data : Ptr) (index : ℕ) (metadata user : Ptr)
  | dataCbTimestamp (id : ℕ) (timestamp : ℤ) (msgType : BitVec 32) (data : Ptr) (index : ℕ)
      (user : Ptr)
  | jpegCb (id : ℕ) (msgType : BitVec 32) (data : Ptr) (index : ℕ) (metadata user : Ptr)
      (frameIndex : ℕ) (releaseCb cookie userData : Ptr)
  | release (id : ℕ) (userData cookie : Ptr) (cbStatus : Status)
  | delete (id : ℕ)
  | snapshotDone
  | returned (rc : Status)
  deriving DecidableEq, Repr

/-- The notification that is delivered to the application or the muxer. -/
def Event.delivers : Event → List ℕ
  | .notifyCb id .. | .dataCb id .. | .dataCbTimestamp id .. | .jpegCb id .. => [id]
  | _ => []

def Event.releases : Event → List ℕ
  | .release id .. => [id]
  | _ => []

def Event.handsOver : Event → List ℕ
  | .jpegCb id .. => [id]
  | _ => []

def Event.deletes : Event → List ℕ
  | .delete id => [id]
  | _ => []

namespace Node

/-- `if (cb->release_cb) cb->release_cb(cb->user_data, cb->cookie, status)`. -/
def release (n : Node) (status : Status) : List Event :=
  if n.arg.releaseCb.isSome then [.release n.id n.arg.userData n.arg.cookie status] else []

/-- A notification is flushed: `releaseNotifications`, and it is freed. -/
def discard (n : Node) : List Event := n.release .failedTransaction ++ [.delete n.id]

def matchSnapshotNotifications (n : Node) : Bool := n.arg.cbType = .dataSnapshotCallback

def matchPreviewNotifications (n : Node) : Bool :=
  n.arg.cbType = .dataCallback ∧ n.arg.msgType = CAMERA_MSG_PREVIEW_FRAME

def matchTimestampNotifications (n : Node) : Bool :=
  n.arg.cbType = .dataTimestampCallback ∧ n.arg.msgType = CAMERA_MSG_VIDEO_FRAME

end Node

/-! ## The notifier -/

/-- `camera_cmd_type_t`. -/
inductive Cmd
  | startDataProc
  | stopDataProc
  | doNextJob
  | exit
  deriving DecidableEq, Repr

/-- Where the thread is: it waits for a command; it has taken a notification; the message type of
the notification is enabled; the notification is a snapshot that has been counted. -/
inductive Pc
  | idle
  | dequeued (n : Node)
  | enabled (n : Node)
  | counted (n : Node)
  deriving DecidableEq, Repr

def Pc.hand : Pc → List Node
  | .idle => []
  | .dequeued n | .enabled n | .counted n => [n]

/-- A call that is past its check of `mActive`, and what is left of it. -/
inductive Call
  | notifyCallback (arg : CallbackArgm)
  | sendNextJob
  | flushPreviewNotifications
  | flushVideoNotifications
  | exit
  | join
  deriving DecidableEq, Repr

structure CbNotifier where
  mNotifyCb : Ptr
  mDataCb : Ptr
  mDataCbTimestamp : Ptr
  mCallbackCookie : Ptr
  mJpegCb : Ptr := none
  mJpegCallbackCookie : Ptr := none
  mActive : Bool := true
  mDataQ : List Node := []
  /-- `m_active` of `mDataQ`. -/
  dataQActive : Bool := true
  cmdQueue : List Cmd := []
  cmdSem : ℕ := 0
  cmdPid : Bool := true
  /-- `mMsgEnabled` of the parent. -/
  mMsgEnabled : BitVec 32 := 0
  calls : List Call := []
  running : Bool := true
  pc : Pc := .idle
  isSnapshotActive : Bool := false
  longShotEnabled : Bool := false
  numOfSnapshotExpected : BitVec 32 := 0
  numOfSnapshotRcvd : BitVec 32 := 0
  /-- The notifications accepted so far. -/
  accepted : List CallbackArgm := []
  log : List Event := []

/-- `setCallbacks` of a new notifier: the thread is launched. -/
def CbNotifier.setCallbacks (notifyCb dataCb dataCbTimestamp callbackCookie : Ptr) : CbNotifier :=
  { mNotifyCb := notifyCb
    mDataCb := dataCb
    mDataCbTimestamp := dataCbTimestamp
    mCallbackCookie := callbackCookie }

/-- Which allocations succeed: that of an argument or a command, and that of a node of a queue. -/
structure Mallocs where
  data : Bool
  node : Bool
  deriving DecidableEq, Repr

namespace CbNotifier

variable (s : CbNotifier)

/-- `QCameraCmdThread::sendCmd`; the semaphore is posted even if the queue takes no command. -/
def sendCmd (cmd : Cmd) (priority : Bool) (m : Mallocs) : Status × CbNotifier :=
  if m.data then
    (.noError, { s with
      cmdQueue := if m.node then if priority then cmd :: s.cmdQueue else s.cmdQueue ++ [cmd]
        else s.cmdQueue
      cmdSem := s.cmdSem + 1 })
  else (.noMemory, s)

def returns (rc : Status) : CbNotifier := { s with log := s.log ++ [.returned rc] }

/-- `QCameraQueue::flushNodes` of `mDataQ`. -/
def flushNodes (matchFn : Node → Bool) : CbNotifier :=
  if s.dataQActive then
    { s with
      mDataQ := s.mDataQ.filter fun n => !matchFn n
      log := s.log ++ (s.mDataQ.filter matchFn).flatMap Node.discard }
  else s

/-- `QCameraQueue::flush` of `mDataQ`. -/
def flush : CbNotifier :=
  if s.dataQActive then
    { s with
      mDataQ := []
      dataQActive := false
      log := s.log ++ s.mDataQ.flatMap Node.discard }
  else s

/-- `notifyCallback` after its check of `mActive`. -/
def notifyCallback (arg : CallbackArgm) (m : Mallocs) : CbNotifier :=
  if !m.data then s.returns .noMemory
  else if m.node && s.dataQActive then
    { s with
      mDataQ := s.mDataQ ++ [⟨s.accepted.length, arg⟩]
      accepted := s.accepted ++ [arg]
      calls := s.calls ++ [.sendNextJob] }
  else s.returns .unknownError

/-- What is left of a call is done. -/
def perform (m : Mallocs) : Call → Option CbNotifier
  | .notifyCallback arg => some (s.notifyCallback arg m)
  | .sendNextJob =>
    let (rc, s) := s.sendCmd .doNextJob false m
    some (s.returns rc)
  | .flushPreviewNotifications =>
    some ((s.flushNodes Node.matchPreviewNotifications).returns .noError)
  | .flushVideoNotifications =>
    some ((s.flushNodes Node.matchTimestampNotifications).returns .noError)
  | .exit =>
    if s.cmdPid then
      let (rc, s) := s.sendCmd .exit true m
      some (if rc = .noError then { s with calls := s.calls ++ [.join] } else s)
    else some s
  | .join => if s.running then none else some { s with cmdPid := false }

/-! ## The thread -/

/-- `getCmd`, and the branch of the command; `expected` and `longshot` are the values of the
parent. -/
def getCmd (expected : BitVec 32) (longshot : Bool) : CbNotifier :=
  let s' := { s with cmdSem := s.cmdSem - 1, cmdQueue := s.cmdQueue.tail }
  match s.cmdQueue with
  | [] => s'
  | .startDataProc :: _ =>
    { s' with
      isSnapshotActive := true
      numOfSnapshotExpected := expected
      longShotEnabled := longshot
      numOfSnapshotRcvd := 0 }
  | .stopDataProc :: _ =>
    { s'.flushNodes Node.matchSnapshotNotifications with
      isSnapshotActive := false
      numOfSnapshotExpected := 0
      numOfSnapshotRcvd := 0 }
  | .doNextJob :: _ =>
    match s.dataQActive, s.mDataQ with
    | true, n :: rest => { s' with mDataQ := rest, pc := .dequeued n }
    | _, _ => s'
  | .exit :: _ => { s'.flush with running := false }

/-- The thread is done with a notification: the events, and `delete cb`. -/
def finish (n : Node) (events : List Event) : CbNotifier :=
  { s with pc := .idle, log := s.log ++ events ++ [.delete n.id] }

def msgTypeEnabledWithLock (msgType : BitVec 32) : Bool := s.mMsgEnabled &&& msgType ≠ 0

/-- The message type is looked up. -/
def checkMsgType (n : Node) : CbNotifier :=
  if s.msgTypeEnabledWithLock n.arg.msgType then { s with pc := .enabled n }
  else s.finish n (n.release .invalidOperation)

/-- A snapshot is counted, and the state machine is told when all have come. -/
def countSnapshot (n : Node) : CbNotifier :=
  if s.longShotEnabled then { s with pc := .counted n }
  else
    let rcvd := s.numOfSnapshotRcvd + 1
    { s with
      numOfSnapshotRcvd := rcvd
      log := s.log ++
        if 0 < s.numOfSnapshotExpected ∧ s.numOfSnapshotExpected = rcvd then [.snapshotDone] else []
      pc := .counted n }

def callDataCb (n : Node) : Event :=
  .dataCb n.id n.arg.msgType n.arg.data n.arg.index n.arg.metadata s.mCallbackCookie

/-- The branch of the type of the notification. -/
def dispatch (n : Node) : CbNotifier :=
  match n.arg.cbType with
  | .notifyCallback =>
    s.finish n ((if s.mNotifyCb.isSome then
      [.notifyCb n.id n.arg.msgType n.arg.ext1 n.arg.ext2 s.mCallbackCookie] else []) ++
      n.release .noError)
  | .dataCallback =>
    s.finish n ((if s.mDataCb.isSome then [s.callDataCb n] else []) ++ n.release .noError)
  | .dataTimestampCallback =>
    s.finish n ((if s.mDataCbTimestamp.isSome then
      [.dataCbTimestamp n.id n.arg.timestamp n.arg.msgType n.arg.data n.arg.index s.mCallbackCookie]
      else []) ++ n.release .noError)
  | .dataSnapshotCallback =>
    -- a snapshot that comes when none is expected is deleted, and not released
    if s.isSnapshotActive && s.mDataCb.isSome then s.countSnapshot n else s.finish n []
  | .invalid _ => s.finish n (n.release .badValue)

/-- A snapshot that has been counted goes to the muxer, which will release it, or to the
application. -/
def deliverSnapshot (n : Node) : CbNotifier :=
  if s.mJpegCb.isSome then
    s.finish n [.jpegCb n.id n.arg.msgType n.arg.data n.arg.index n.arg.metadata
      s.mJpegCallbackCookie n.arg.frameIndex n.arg.releaseCb n.arg.cookie n.arg.userData]
  else if s.mDataCb.isSome then s.finish n (s.callDataCb n :: n.release .noError)
  else s.finish n []

/-- The thread goes on with the notification that it has taken. -/
def proceed : Option CbNotifier :=
  match s.pc with
  | .idle => none
  | .dequeued n => some (s.checkMsgType n)
  | .enabled n => some (s.dispatch n)
  | .counted n => some (s.deliverSnapshot n)

end CbNotifier

/-- A call is made, or what is left of one is done; the parent changes what it owns; the thread
takes a command, or goes on with a notification. -/
inductive Op
  | notifyCallback (arg : CallbackArgm)
  | flushPreviewNotifications
  | flushVideoNotifications
  | startSnapshots (m : Mallocs)
  | stopSnapshots (m : Mallocs)
  | exit
  | perform (i : ℕ) (m : Mallocs)
  | setJpegCallBacks (jpegCb callbackCookie : Ptr)
  | setMsgEnabled (msgEnabled : BitVec 32)
  | getCmd (expected : BitVec 32) (longshot : Bool)
  | proceed
  deriving DecidableEq, Repr

/-- A call checks `mActive`. -/
def CbNotifier.enter (s : CbNotifier) (c : Call) : CbNotifier :=
  if s.mActive then { s with calls := s.calls ++ [c] } else s.returns .unknownError

def Op.exec (s : CbNotifier) : Op → Option CbNotifier
  | .notifyCallback arg => some (s.enter (.notifyCallback arg))
  | .flushPreviewNotifications => some (s.enter .flushPreviewNotifications)
  | .flushVideoNotifications => some (s.enter .flushVideoNotifications)
  | .startSnapshots m =>
    let (rc, s) := s.sendCmd .startDataProc true m
    some (s.returns rc)
  | .stopSnapshots m => some (s.sendCmd .stopDataProc true m).2
  | .exit => some { s with mActive := false, calls := s.calls ++ [.exit] }
  | .perform i m =>
    match s.calls[i]? with
    | some c => { s with calls := s.calls.eraseIdx i }.perform m c
    | none => none
  | .setJpegCallBacks jpegCb callbackCookie =>
    some { s with mJpegCb := jpegCb, mJpegCallbackCookie := callbackCookie }
  | .setMsgEnabled msgEnabled => some { s with mMsgEnabled := msgEnabled }
  | .getCmd expected longshot =>
    if s.running ∧ s.pc = .idle ∧ 0 < s.cmdSem then some (s.getCmd expected longshot) else none
  | .proceed => s.proceed

/-- **No snapshot is dropped**: when a snapshot that is to be released is dealt with while its
message type is enabled, snapshots are active and there is a data callback. -/
def Op.Expected (s : CbNotifier) : Op → Prop
  | .proceed => ∀ n, s.pc = .enabled n → n.arg.cbType = .dataSnapshotCallback →
      n.arg.releaseCb.isSome → s.isSnapshotActive ∧ s.mDataCb.isSome
  | _ => True

end Notifier
