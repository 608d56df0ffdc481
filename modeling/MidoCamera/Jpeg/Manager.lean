import MidoCamera.Jpeg.Sessions

/-!
# The job manager

A job that is started waits in the todo queue until the manager takes it, with an idle session of
its group and a free output buffer, and gives it to OMX. It is done when OMX has filled the output
buffer (`mm_jpeg_fbd`), when OMX reports an error (`mm_jpeg_event_handler`), or when the manager
finds that it cannot be encoded.

The manager holds `job_lock` while it takes and encodes a job, and so do the calls that abort jobs
and destroy sessions; `mm_jpeg_start_job` and the callbacks of OMX take place at any time. A step is
what a thread does between two such points.
-/

namespace MmJpeg

open Loop

namespace JpegObj

/-! ## Starting and aborting a job -/

/-- The job is for an active session, and its buffers are among those of the session. -/
def Startable (s : JpegObj) (job : EncodeJob) : Prop :=
  let p := s.session (sessionAt job.sessionId)
  p.active = true ∧ job.srcIndex < p.params.numSrcBufs ∧ job.dstIndex < p.params.numDstBufs

instance (s : JpegObj) (job : EncodeJob) : Decidable (s.Startable job) :=
  inferInstanceAs (Decidable (_ ∧ _ ∧ _))

/-- The work buffers a job needs: `num_sessions + 1`, at most `MM_JPEG_CONCURRENT_SESSIONS_COUNT`,
and one less if the job brings one. -/
def workBufsNeed (s : JpegObj) (job : EncodeJob) : ℕ :=
  let need := min ((s.numSessions + 1) % 2 ^ 32) s.concurrent
  if job.workBuf then need - 1 else need

/-- The work buffers for a job: whether to go on, and the return code so far, which is -1 until
buffers are asked for. -/
def jobWorkbuffer (s : JpegObj) (job : EncodeJob) (ok : Bool) : Bool × ℤ × JpegObj :=
  if s.reuseReprocBuffer ∧ s.workBufsNeed job ≠ 0 then
    let (rc, s) := s.allocWorkbuffer (s.workBufsNeed job) ok
    (rc ≠ -1, rc, s)
  else (true, -1, s)

def nextJobId (s : JpegObj) (sessionId : ℕ) : ℕ :=
  sessionId ||| (((s.session (sessionAt sessionId)).jobHist % jobHistMax) <<< 16)

/-- `job_hist++` of a session. -/
def countJob (s : JpegObj) (r : SessionPtr) : JpegObj :=
  s.setSession r { s.session r with jobHist := ((s.session r).jobHist + 1) % 2 ^ 32 }

/-- The job is put into the todo queue, and the semaphore is posted. -/
def enqueueJob (s : JpegObj) (job : EncodeJob) (jobId : ℕ) : JpegObj :=
  { s with todo := s.todo ++ [⟨job, jobId, s.accepted + 1⟩], jobSem := s.jobSem + 1 }

/-- `mm_jpeg_start_job`: the return code, and what it leaves. -/
def startJob (s : JpegObj) (job : EncodeJob) (mem : Mem) : ℤ × JpegObj :=
  if ¬(sessionAt job.sessionId).InTable then (-1, s)
  else
    let (ok, rc, s) := s.jobWorkbuffer job mem.work
    if !ok then (-1, s)
    -- the code returned here is that of the work buffers
    else if ¬s.Startable job then (rc, s)
    else if !mem.node then (-1, s)
    else
      let jobId := s.nextJobId job.sessionId
      let s := s.countJob (sessionAt job.sessionId)
      if mem.todo then (0, s.enqueueJob job jobId) else (-1, s)

/-- A job for which `mm_jpeg_start_job` returns 0 is counted. -/
def startCounted (s : JpegObj) (job : EncodeJob) (mem : Mem) : JpegObj :=
  let (rc, s) := s.startJob job mem
  if rc = 0 then { s with accepted := s.accepted + 1 } else s

def abortJob (s : JpegObj) (jobId : ℕ) (sent : SessionPtr → Bool) : JpegObj :=
  match s.todo.find? fun j => j.jobId == jobId with
  | some j => { s with
      todo := takeOut JobNode.jobId jobId s.todo
      removed := s.removed ++ [j.number] }
  | none =>
    match s.ongoing.find? fun j => j.jobId == jobId with
    | some j =>
      let s := { s with
        ongoing := takeOut JobNode.jobId jobId s.ongoing
        removed := s.removed ++ [j.number] }
      match getSession j.jobId with
      | some r => s.sessionAbort sent fuel r
      | none => s
    | none => s

/-! ## The manager -/

def wake (s : JpegObj) : Option JpegObj :=
  if s.pc = .waiting ∧ s.jobSem ≠ 0 then some { s with jobSem := s.jobSem - 1, pc := .woken }
  else none

/-- The manager looks at the size of the ongoing queue. -/
def look (s : JpegObj) : Option JpegObj :=
  if s.pc = .woken then
    if s.concurrent ≤ s.ongoing.length then some { s with pc := .waiting }
    else some { s with pc := .picking }
  else none

/-- The job is bound to a session, and `mm_jpeg_session_encode` is entered. -/
def bind (s : JpegObj) (r : SessionPtr) (j : JobNode) : JpegObj :=
  let s := s.setSession r { s.session r with
    encodeJob := j.encodeJob
    jobId := j.jobId
    job := j.number
    abortState := .none
    encoding := false }
  { s with ongoing := s.ongoing ++ [j], pc := .configuring r }

/-- Whether the output buffer of a session's job was taken from the queue. -/
def setAuto (s : JpegObj) (r : SessionPtr) (b : Bool) : JpegObj :=
  s.setSession r { s.session r with autoOutBuf := b }

/-- The job is queued as ongoing; if it cannot be, its session is given up. -/
def queueOngoing (s : JpegObj) (r : SessionPtr) (j : JobNode) (mem : Mem) : Option JpegObj :=
  if mem.ongoing then some (s.bind r j) else s.jobDone r mem

/-- `mm_jpeg_process_encoding_job` for a job and the idle session dequeued for it, up to the call
of `mm_jpeg_session_encode`. -/
def place (s : JpegObj) (r : SessionPtr) (j : JobNode) (mem : Mem) : Option JpegObj :=
  let s := s.setAuto r false
  if j.encodeJob.dstIndex < 0 then do
    let (bufIdx, s) ← s.deqOut (s.session r).outBufQ
    -- no output buffer: neither the job nor the session goes back
    if bufIdx = 0 then some s
    else
      let encodeJob := { j.encodeJob with dstIndex := (bufIdx : ℤ) - 1 }
      (s.setAuto r true).queueOngoing r { j with encodeJob := encodeJob } mem
  else s.queueOngoing r j mem

/-- The manager takes `job_lock` and dequeues a job to do: `mm_jpeg_process_encoding_job` up to the
call of `mm_jpeg_session_encode`. -/
def pick (s : JpegObj) (mem : Mem) : Option JpegObj :=
  if s.pc = .picking then
    let s := { s with pc := .waiting }
    match s.todo with
    | [] => some s
    | j :: rest =>
      let s := { s with todo := rest }
      match getSession j.jobId with
      -- not a session: the job is gone
      | none => some s
      | some a => do
        let (idle, s) ← s.deqHandle (s.session a).sessionHandleQ
        match idle with
        | none => some (if mem.head then { s with todo := j :: s.todo } else s)
        | some r => s.place r j mem
  else none

/-- What `mm_jpeg_session_encode` meets before it sets the encoding flag: whether the thumbnail
index is in order, whether the session in progress can be stopped, whether the session can be
configured, and the parameters of the job. -/
structure EncodeOutcome where
  thumb : Bool := true
  stop : Bool := true
  configure : Bool := true
  jobParams : Bool := true
  deriving DecidableEq, Repr

/-- The session in progress is stopped, and loses its configuration. -/
def stopInprogress (s : JpegObj) (ok : Bool) : Bool × JpegObj :=
  match s.inprogress with
  | some o =>
    if ok then
      (true, { s.setSession o { s.session o with config := false } with inprogress := none })
    else (false, s)
  | none => (true, s)

/-- A session that is not configured takes the place of the one in progress. -/
def takeOver (s : JpegObj) (r : SessionPtr) (out : EncodeOutcome) : Bool × JpegObj :=
  if (s.session r).config then (true, s)
  else
    let (ok, s) := s.stopInprogress out.stop
    if ok && out.configure then
      (true, { s.setSession r { s.session r with config := true } with inprogress := some r })
    else (false, s)

/-- `mm_jpeg_session_encode`, until the encoding flag is set: whether it succeeds. -/
def sessionEncode (s : JpegObj) (r : SessionPtr) (out : EncodeOutcome) : Bool × JpegObj :=
  if !out.thumb then (false, s)
  else
    let (ok, s) := s.takeOver r out
    if ok && out.jobParams then
      (true, { s.setSession r { s.session r with encoding := true } with pc := .submitting r })
    else (false, s)

/-- The error path of `mm_jpeg_process_encoding_job`. -/
def encodeFailed (s : JpegObj) (r : SessionPtr) (mem : Mem) : Option JpegObj :=
  let s := { s with pc := .waiting }
  if (s.session r).params.jpegCb then (s.callback r .error).jobDone r mem else s.jobDone r mem

/-- The manager in `mm_jpeg_session_encode`, until the encoding flag is set. -/
def configure (s : JpegObj) (out : EncodeOutcome) (mem : Mem) : Option JpegObj :=
  match s.pc with
  | .configuring r =>
    let (ok, s) := s.sessionEncode r out
    if ok then some s else s.encodeFailed r mem
  | _ => none

/-- The manager gives the buffers to OMX, which takes them or not. A session that is aborted gives
none. -/
def submit (s : JpegObj) (ok : Bool) (mem : Mem) : Option JpegObj :=
  match s.pc with
  | .submitting r =>
    if (s.session r).abortState = .init then some { s with pc := .waiting }
    else if ok then
      some { s.setSession r { s.session r with filling := true } with pc := .waiting }
    else s.encodeFailed r mem
  | _ => none

/-! ## The callbacks of OMX -/

/-- `mm_jpeg_fbd`. The component gives back an output buffer once for each it was given. -/
def fbd (s : JpegObj) (r : SessionPtr) (mem : Mem) : Option JpegObj :=
  let p := s.session r
  if p.omxHandle && p.filling then
    let s := s.setSession r { p with filling := false }
    if p.abortState ≠ .none then some s
    else if p.params.jpegCb then (s.callback r .done).jobDone r mem
    else some s
  else none

/-- `mm_jpeg_event_handler`: an error, or the completion of a command. -/
def eventHandler (s : JpegObj) (r : SessionPtr) (error : Bool) (mem : Mem) : Option JpegObj :=
  let p := s.session r
  if p.omxHandle then
    if p.abortState = .init then some (s.setSession r { p with abortState := .done })
    else if error && p.encoding then
      if p.params.jpegCb then (s.callback r .error).jobDone r mem else s.jobDone r mem
    else some s
  else none

end JpegObj

/-- A call of a client, a step of the job manager, or a callback of OMX. -/
inductive JpegOp
  | newClient (count : ℕ)
  | createSession (clientHdl : ℕ) (params : EncodeParams) (mem : Mem) (out : ℕ → SessionOutcome)
  | startJob (job : EncodeJob) (mem : Mem)
  | abortJob (jobId : ℕ) (sent : SessionPtr → Bool)
  | destroySession (sessionId : ℕ) (sent : SessionPtr → Bool)
  | close (clientHdl : ℕ) (sent : SessionPtr → Bool)
  | wake
  | look
  | pick (mem : Mem)
  | configure (out : JpegObj.EncodeOutcome) (mem : Mem)
  | submit (ok : Bool) (mem : Mem)
  | fbd (r : SessionPtr) (mem : Mem)
  | eventHandler (r : SessionPtr) (error : Bool) (mem : Mem)

/-- What a step does, if it can be taken. -/
def JpegOp.exec (s : JpegObj) : JpegOp → Option JpegObj
  | .newClient count => some (s.newClient count).2
  | .createSession clientHdl params mem out =>
    if s.Locked then none else s.createSession clientHdl params mem out
  | .startJob job mem => some (s.startCounted job mem)
  | .abortJob jobId sent => if s.Locked then none else some (s.abortJob jobId sent)
  | .destroySession sessionId sent =>
    if s.Locked then none else s.destroySessionById sessionId sent
  | .close clientHdl sent => if s.Locked then none else some (s.close clientHdl sent).2
  | .wake => s.wake
  | .look => s.look
  | .pick mem => s.pick mem
  | .configure out mem => s.configure out mem
  | .submit ok mem => s.submit ok mem
  | .fbd r mem => s.fbd r mem
  | .eventHandler r error mem => s.eventHandler r error mem

def JpegOp.Step (op : JpegOp) (s t : JpegObj) : Prop := op.exec s = some t

end MmJpeg
