import MidoCamera.Library.Custody
import Mathlib.Data.Nat.Bitwise

/-!
# The JPEG object

`mm_jpeg_obj` holds the clients with their sessions, the queue of the jobs to do and that of the
ongoing ones, and the job manager. The sessions of one group share a queue of idle sessions and one
of free output buffers; both are on the heap, and a session points to them.

Each job for which `mm_jpeg_start_job` returns 0 has a number, from 1 on. The number stays with the
job, with the session it is encoded on, and with the callback for it; no function of the code reads
it. Neither do they read the records of the callbacks and of the jobs that were taken back.
-/

namespace MmJpeg

open Loop

def maxSession : ℕ := 10

/-- `MM_JPEG_MAX_BUF`, which is `CAM_MAX_NUM_BUFS_PER_STREAM`. -/
def maxBuf : ℕ := 64

def maxJpegClientNum : ℕ := 8

def jobIdMagicval : ℕ := 0x1

def jobHistMax : ℕ := 10000

def getClientIdx (x : ℕ) : ℕ := x &&& 0xff

def getSessionIdx (x : ℕ) : ℕ := (x >>> 8) &&& 0xff

/-- A pointer to a session: `&clnt_mgr[clientIdx].session[sessionIdx]`. -/
structure SessionPtr where
  clientIdx : ℕ
  sessionIdx : ℕ
  deriving DecidableEq, Repr

def sessionAt (id : ℕ) : SessionPtr := ⟨getClientIdx id, getSessionIdx id⟩

def SessionPtr.InTable (r : SessionPtr) : Prop :=
  r.sessionIdx < maxSession ∧ r.clientIdx < maxJpegClientNum

instance (r : SessionPtr) : Decidable r.InTable := inferInstanceAs (Decidable (_ ∧ _))

def getSession (jobId : ℕ) : Option SessionPtr :=
  if (sessionAt jobId).InTable then some (sessionAt jobId) else none

/-- `mm_jpeg_abort_state_t`. -/
inductive AbortState
  | none | init | done
  deriving DecidableEq, Repr

/-- `jpeg_job_status_t`. -/
inductive JobStatus
  | done | error
  deriving DecidableEq, Repr

/-- `mm_jpeg_encode_job_t`; of the work buffer only whether there is one. -/
structure EncodeJob where
  sessionId : ℕ := 0
  srcIndex : ℤ := 0
  dstIndex : ℤ := 0
  workBuf : Bool := false
  deriving DecidableEq, Repr

/-- `mm_jpeg_job_q_node_t` of a job to encode, with its number. -/
structure JobNode where
  encodeJob : EncodeJob
  jobId : ℕ
  number : ℕ
  deriving DecidableEq, Repr

/-- `mm_jpeg_encode_params_t`; of `jpeg_cb` only whether there is one. -/
structure EncodeParams where
  numSrcBufs : ℕ := 0
  numDstBufs : ℕ := 0
  burstMode : Bool := false
  jpegCb : Bool := false
  deriving DecidableEq, Repr

/-- `mm_jpeg_job_session_t`. `filling` says that its component has been given an output buffer by
`OMX_FillThisBuffer` that it has not given back, and `job` is the number of the job that was last
encoded on the session since it was created. -/
structure JobSession where
  active : Bool := false
  config : Bool := false
  omxHandle : Bool := false
  encoding : Bool := false
  abortState : AbortState := .none
  autoOutBuf : Bool := false
  jobId : ℕ := 0
  sessionId : ℕ := 0
  jobHist : ℕ := 0
  encodeJob : EncodeJob := {}
  params : EncodeParams := {}
  sessionHandleQ : Option ℕ := none
  outBufQ : Option ℕ := none
  nextSession : Option SessionPtr := none
  filling : Bool := false
  job : ℕ := 0
  deriving DecidableEq, Repr

/-- `mm_jpeg_client_t`, without its sessions. -/
structure JpegClient where
  isUsed : Bool := false
  clientHandle : ℕ := 0
  deriving DecidableEq, Repr

/-- Where the job manager is: at `cam_sem_wait`, past it, at `job_lock` with work to start; and with
`job_lock`, in `mm_jpeg_session_encode` of a session: before the encoding flag is set, and after. -/
inductive MgrPc
  | waiting
  | woken
  | picking
  | configuring (r : SessionPtr)
  | submitting (r : SessionPtr)
  deriving DecidableEq, Repr

/-- `mm_jpeg_obj`, with the heap of the queues of its session groups. `concurrent` is
`MM_JPEG_CONCURRENT_SESSIONS_COUNT` of the build. The last four fields count the jobs for which
`mm_jpeg_start_job` returned 0, list the numbers and states of the callbacks and the numbers of the
jobs that were taken back, and list the groups that `mm_jpeg_create_session` has returned, each with
its number of output buffers. -/
structure JpegObj where
  concurrent : ℕ
  reuseReprocBuffer : Bool := false
  workBufCnt : ℕ := 0
  numClients : ℤ := 0
  client : ℕ → JpegClient := fun _ => {}
  session : SessionPtr → JobSession := fun _ => {}
  todo : List JobNode := []
  jobSem : ℕ := 0
  ongoing : List JobNode := []
  inprogress : Option SessionPtr := none
  numSessions : ℕ := 0
  pc : MgrPc := .waiting
  handleQs : ℕ → Option (List SessionPtr) := fun _ => none
  outBufQs : ℕ → Option (List ℕ) := fun _ => none
  nextQ : ℕ := 0
  accepted : ℕ := 0
  calls : List (ℕ × JobStatus) := []
  removed : List ℕ := []
  groups : List (ℕ × ℕ) := []

/-- Whether the allocations of an operation succeed: a job node or the queues of a session group,
the nodes of the two job queues, at the tail and at the head, and those of the queues of a group;
and the work buffers. -/
structure Mem where
  node : Bool := true
  todo : Bool := true
  ongoing : Bool := true
  head : Bool := true
  handle : Bool := true
  out : Bool := true
  work : Bool := true
  deriving DecidableEq, Repr

namespace JpegObj

def setSession (s : JpegObj) (r : SessionPtr) (p : JobSession) : JpegObj :=
  { s with session := Function.update s.session r p }

@[simp] theorem setSession_self (s : JpegObj) (r : SessionPtr) (p : JobSession) :
    (s.setSession r p).session r = p := Function.update_self _ _ _

theorem setSession_other {s : JpegObj} {r b : SessionPtr} (p : JobSession) (h : b ≠ r) :
    (s.setSession r p).session b = s.session b := Function.update_of_ne h _ _

/-- The job manager has `job_lock`. -/
def Locked (s : JpegObj) : Prop :=
  match s.pc with
  | .configuring _ | .submitting _ => True
  | _ => False

instance (s : JpegObj) : Decidable s.Locked := by
  unfold Locked
  exact match s.pc with
    | .waiting | .woken | .picking => .isFalse id
    | .configuring _ | .submitting _ => .isTrue trivial

/-- `mm_jpeg_queue_enq` of a `session_handle_q`. A queue that is not there is a crash. -/
def enqHandle (s : JpegObj) (q : Option ℕ) (r : SessionPtr) (ok : Bool) : Option JpegObj :=
  if ok then do
    let q ← q
    let l ← s.handleQs q
    some { s with handleQs := Function.update s.handleQs q (some (l ++ [r])) }
  else some s

/-- `mm_jpeg_queue_deq` of a `session_handle_q`. -/
def deqHandle (s : JpegObj) (q : Option ℕ) : Option (Option SessionPtr × JpegObj) := do
  let q ← q
  let l ← s.handleQs q
  match l with
  | [] => some (none, s)
  | r :: rest => some (some r, { s with handleQs := Function.update s.handleQs q (some rest) })

/-- `mm_jpeg_queue_enq` of an `out_buf_q`. -/
def enqOut (s : JpegObj) (q : Option ℕ) (i : ℕ) (ok : Bool) : Option JpegObj :=
  if ok then do
    let q ← q
    let l ← s.outBufQs q
    some { s with outBufQs := Function.update s.outBufQs q (some (l ++ [i])) }
  else some s

/-- `mm_jpeg_queue_deq` of an `out_buf_q`: 0 when it is empty. -/
def deqOut (s : JpegObj) (q : Option ℕ) : Option (ℕ × JpegObj) := do
  let q ← q
  let l ← s.outBufQs q
  match l with
  | [] => some (0, s)
  | i :: rest => some (i, { s with outBufQs := Function.update s.outBufQs q (some rest) })

/-- `jpeg_cb` is called for a session. -/
def callback (s : JpegObj) (r : SessionPtr) (status : JobStatus) : JpegObj :=
  { s with calls := s.calls ++ [((s.session r).job, status)] }

def running (s : JpegObj) (r : SessionPtr) : Option JobNode :=
  s.ongoing.find? fun j => j.jobId == (s.session r).jobId

/-- The output buffer of a session's job is queued as free, if it was taken from the queue. -/
def returnOut (s : JpegObj) (p : JobSession) (ok : Bool) : Option JpegObj :=
  if p.autoOutBuf then s.enqOut p.outBufQ (p.encodeJob.dstIndex + 1).toNat ok else some s

/-- `mm_jpegenc_job_done`: the job is taken off the ongoing queue, its session and its output buffer
are free again, and the manager is woken up. -/
def jobDone (s : JpegObj) (r : SessionPtr) (mem : Mem) : Option JpegObj := do
  let p := s.session r
  let s := { s with ongoing := takeOut JobNode.jobId p.jobId s.ongoing }
  let s := s.setSession r { p with encoding := false }
  let s ← s.enqHandle p.sessionHandleQ r mem.handle
  let s ← s.returnOut p mem.out
  some { s with jobSem := s.jobSem + 1 }

end JpegObj

end MmJpeg
