import MidoCamera.Library.FirstMatch
import MidoCamera.Library.Run

/-!
# Deferred work

The camera queues jobs for a thread of its own, which does them one by one. A job has an entry in a
table of 25 while it is not finished, and afterwards if it failed: the entry then has its status.
Who waits for a job looks for its id in the table.

The thread keeps the status of a job in a variable of its routine. A step is what is done under the
lock of the table, or by the thread on its own. What a job's work calls answers anything.

What was accepted, taken and finished is recorded; nothing reads the record.
-/

namespace Deferred

open Loop

/-! ## Jobs -/

inductive DeferredWorkCmd
  | allocateBuff
  | pprocStart
  | pprocInit
  | metadataAlloc
  | createJpegSession
  | paramAlloc
  | paramInit
  | generic
  | max
  deriving DecidableEq, Repr

structure DefWork where
  cmd : DeferredWorkCmd
  id : ℕ
  deriving DecidableEq, Repr

structure DefOngoingJob where
  jobId : ℕ
  jobStatus : ℤ
  deriving DecidableEq, Repr

/-- Whether the entry is of a job; a free one is of none, which is 0. -/
def isOf (jobId : ℕ) (job : DefOngoingJob) : Bool := job.jobId == jobId

/-- `NO_ERROR`, and the codes that the routine itself stores. -/
abbrev noError : ℤ := 0

def badValue : ℤ := -22

def noMemory : ℤ := -12

def unknownError : ℤ := -2147483648

/-- A stream of the channel: whether it is of the type that is looked for, and what
`allocateBuffers` returns. -/
structure Stream where
  isTypeOf : Bool
  allocateBuffers : ℤ
  deriving DecidableEq, Repr

/-- What a job's work meets: its channel with the streams, where there are such; whether `new` and
`malloc` return memory, and what `QCameraMetadataStreamMemory::allocate` returns; whether there is a
JPEG client and a camera handle, and whether related sensors are on; and the other return values. -/
structure Callees where
  channel : Option (List (Option Stream)) := some []
  postprocessorStart : ℤ := 0
  metadataMem : Option ℤ := some 0
  createJpegSession : ℤ := 0
  jpegClientHandle : Bool := true
  initJpegHandle : ℤ := 0
  setJpegHandle : ℤ := 0
  postprocessorInit : ℤ := 0
  parametersAllocate : ℤ := 0
  cameraHandle : Bool := true
  parametersInit : ℤ := 0
  syncRelatedSensors : Bool := false
  getRelatedCamCalibration : ℤ := 0
  debugParams : Bool := true
  bgFunction : ℤ := 0
  deriving DecidableEq, Repr

def maxOngoingJobs : ℕ := 25

/-- Where the thread is: between jobs, with a job whose work is to be done, or with one whose work
is done. -/
inductive Pc
  | idle
  | working (dw : DefWork)
  | worked (dw : DefWork)
  deriving DecidableEq, Repr

def Pc.job : Pc → Option DefWork
  | .idle => none
  | .working dw | .worked dw => some dw

/-- The camera, as far as it defers work. `cmds` counts the commands `DO_NEXT_JOB` that were sent
and not taken, `jobStatus` is the variable of the thread's routine, and the three ids are those that
jobs look up. Of the record, `succeeded` is about the work that was done last, and `outcome` about
the last job that was given an id: whether it is finished, and then whether it succeeded. -/
structure Hwi where
  ongoingJobs : List DefOngoingJob := List.replicate maxOngoingJobs ⟨0, 0⟩
  cmdQueue : List DefWork := []
  cmds : ℕ := 0
  nextJobId : ℕ := 1
  jobStatus : ℤ := noError
  pc : Pc := .idle
  initPProcJob : ℕ := 0
  paramAllocJob : ℕ := 0
  reprocJob : ℕ := 0
  accepted : List DefWork := []
  taken : List DefWork := []
  finished : List DefWork := []
  succeeded : Bool := true
  outcome : ℕ → Option (Option Bool) := fun _ => none

namespace Hwi

def getDefJobStatus (s : Hwi) (jobId : ℕ) : ℤ :=
  match s.ongoingJobs.find? (isOf jobId) with
  | some job => if noError ≠ job.jobStatus then job.jobStatus else noError
  | none => noError

def checkDeferredWork (s : Hwi) (jobId : ℕ) : Bool :=
  match s.ongoingJobs.find? (isOf jobId) with
  | some job => noError == job.jobStatus
  | none => false

/-- `waitDeferredWork`: what is returned, or nothing where the caller waits on. -/
def waitDeferredWork (s : Hwi) (jobId : ℕ) : Option ℤ :=
  if jobId = 0 then some noError
  else if s.checkDeferredWork jobId then none
  else some (s.getDefJobStatus jobId)

/-- The id after this one: `uint32_t`, and 0 is left out. -/
def followingId (nextJobId : ℕ) : ℕ :=
  if (nextJobId + 1) % 2 ^ 32 = 0 then 1 else (nextJobId + 1) % 2 ^ 32

/-- `queueDeferredWork`: the id of the job, or 0. The job may find no memory, and the queue may not
take it. -/
def queueDeferredWork (s : Hwi) (cmd : DeferredWorkCmd) (malloc enqueued : Bool) : ℕ × Hwi :=
  match s.ongoingJobs.find? (isOf 0) with
  | none => (0, s)
  | some _ =>
    if malloc && enqueued then
      let dw : DefWork := ⟨cmd, s.nextJobId⟩
      (s.nextJobId, { s with
        ongoingJobs := changeFirst (isOf 0) (fun _ => ⟨s.nextJobId, 0⟩) s.ongoingJobs
        cmdQueue := s.cmdQueue ++ [dw]
        cmds := s.cmds + 1
        nextJobId := followingId s.nextJobId
        accepted := s.accepted ++ [dw]
        outcome := Function.update s.outcome s.nextJobId (some none) })
    else (0, s)

/-- What `dequeueDeferredWork` makes of the job's entry. -/
def reported (jobStatus : ℤ) (job : DefOngoingJob) : DefOngoingJob :=
  if jobStatus ≠ noError then { job with jobStatus := jobStatus } else ⟨0, 0⟩

def dequeueDeferredWork (s : Hwi) (dw : DefWork) (jobStatus : ℤ) : Hwi :=
  { s with
    ongoingJobs := changeFirst (isOf dw.id) (reported jobStatus) s.ongoingJobs
    pc := .idle
    finished := s.finished ++ [dw]
    outcome := Function.update s.outcome dw.id (some (some s.succeeded)) }

/-- The streams are searched for the first of the type, whose buffers are allocated. -/
def allocateStreams (jobStatus : ℤ) : List (Option Stream) → ℤ
  | [] => jobStatus
  | none :: _ => badValue
  | some stream :: rest =>
    if stream.isTypeOf then if stream.allocateBuffers ≠ 0 then noMemory else jobStatus
    else allocateStreams jobStatus rest

/-- The work of a job: what it leaves in the status variable. -/
def work (s : Hwi) (cmd : DeferredWorkCmd) (c : Callees) : ℤ :=
  match cmd with
  | .allocateBuff =>
    match c.channel with
    | none => badValue
    | some streams => allocateStreams s.jobStatus streams
  | .pprocStart =>
    let ret := s.getDefJobStatus s.initPProcJob
    if ret ≠ noError then ret
    else if c.postprocessorStart ≠ noError then badValue
    else s.jobStatus
  | .metadataAlloc =>
    let ret := s.getDefJobStatus s.paramAllocJob
    if ret ≠ noError then ret
    else match c.metadataMem with
      | none => badValue
      -- `allocate` may fail: the memory is deleted then, and that is all
      | some _ => s.jobStatus
  | .createJpegSession =>
    let ret := s.getDefJobStatus s.reprocJob
    if ret ≠ noError then ret
    else if c.createJpegSession ≠ noError then unknownError
    else s.jobStatus
  | .pprocInit =>
    if !c.jpegClientHandle && c.initJpegHandle ≠ noError then unknownError
    else if c.setJpegHandle ≠ 0 then unknownError
    else if c.postprocessorInit ≠ noError then unknownError
    else s.jobStatus
  | .paramAlloc =>
    if c.parametersAllocate ≠ noError then c.parametersAllocate else s.jobStatus
  | .paramInit =>
    let rc := s.getDefJobStatus s.paramAllocJob
    if rc ≠ noError then rc
    else if !c.cameraHandle then badValue
    else if c.parametersInit ≠ 0 then unknownError
    else if c.syncRelatedSensors && c.getRelatedCamCalibration ≠ 0 then unknownError
    else if !c.debugParams then noMemory
    else s.jobStatus
  | .generic => c.bgFunction
  | .max => s.jobStatus

/-- Whether `allocate` of the metadata memory is called, and fails. -/
def allocateFails (s : Hwi) (cmd : DeferredWorkCmd) (c : Callees) : Bool :=
  cmd = .metadataAlloc && s.getDefJobStatus s.paramAllocJob = noError && c.metadataMem.any (· < 0)

/-- Whether a job's work succeeds: every step of it does. -/
def succeeds (s : Hwi) (cmd : DeferredWorkCmd) (c : Callees) : Bool :=
  match cmd with
  | .allocateBuff => c.channel.any fun streams =>
    -- the first stream that is missing or of the type decides
    (streams.find? fun stream => stream.all Stream.isTypeOf).all fun stream =>
      stream.any fun stream => stream.allocateBuffers = 0
  | .pprocStart => s.getDefJobStatus s.initPProcJob = noError && c.postprocessorStart = noError
  | .metadataAlloc =>
    s.getDefJobStatus s.paramAllocJob = noError && c.metadataMem.any fun rc => 0 ≤ rc
  | .createJpegSession => s.getDefJobStatus s.reprocJob = noError && c.createJpegSession = noError
  | .pprocInit =>
    (c.jpegClientHandle || c.initJpegHandle = noError) && c.setJpegHandle = 0 &&
      c.postprocessorInit = noError
  | .paramAlloc => c.parametersAllocate = noError
  | .paramInit =>
    s.getDefJobStatus s.paramAllocJob = noError && c.cameraHandle && c.parametersInit = 0 &&
      (!c.syncRelatedSensors || c.getRelatedCamCalibration = 0) && c.debugParams
  | .generic => c.bgFunction = noError
  | .max => true

end Hwi

/-- The ids that jobs look up. -/
inductive JobVar
  | initPProcJob
  | paramAllocJob
  | reprocJob
  deriving DecidableEq, Repr

/-- What the camera's threads do: a job is queued, an id is stored where jobs look it up, and the
deferred thread takes a job, does its work and finishes it. -/
inductive Op
  | queue (cmd : DeferredWorkCmd) (malloc enqueued : Bool)
  | store (var : JobVar) (jobId : ℕ)
  | take
  | work (c : Callees)
  | finish
  deriving DecidableEq, Repr

/-- What a step does; none where it cannot be taken. -/
def Op.exec (s : Hwi) : Op → Option Hwi
  | .queue cmd malloc enqueued => some (s.queueDeferredWork cmd malloc enqueued).2
  | .store .initPProcJob jobId => some { s with initPProcJob := jobId }
  | .store .paramAllocJob jobId => some { s with paramAllocJob := jobId }
  | .store .reprocJob jobId => some { s with reprocJob := jobId }
  | .take =>
    match s.pc, s.cmds with
    | .idle, cmds + 1 =>
      match s.cmdQueue with
      | [] => some { s with cmds := cmds }
      | dw :: rest =>
        some { s with
          cmds := cmds
          cmdQueue := rest
          pc := .working dw
          taken := s.taken ++ [dw] }
    | _, _ => none
  | .work c =>
    match s.pc with
    | .working dw =>
      some { s with
        jobStatus := s.work dw.cmd c
        pc := .worked dw
        succeeded := s.succeeds dw.cmd c }
    | _ => none
  | .finish =>
    match s.pc with
    | .worked dw => some (s.dequeueDeferredWork dw s.jobStatus)
    | _ => none

def Op.Step (op : Op) (s t : Hwi) : Prop := op.exec s = some t

/-! ## Outcomes -/

variable {s t : Hwi} {op : Op}

theorem Hwi.queue_cases (s : Hwi) (cmd : DeferredWorkCmd) (malloc enqueued : Bool) :
    (s.queueDeferredWork cmd malloc enqueued = (0, s) ∧
      (s.ongoingJobs.find? (isOf 0) = none ∨ (malloc && enqueued) = false)) ∨
    ∃ job, s.ongoingJobs.find? (isOf 0) = some job ∧
      s.queueDeferredWork cmd malloc enqueued = (s.nextJobId, { s with
        ongoingJobs := changeFirst (isOf 0) (fun _ => ⟨s.nextJobId, 0⟩) s.ongoingJobs
        cmdQueue := s.cmdQueue ++ [⟨cmd, s.nextJobId⟩]
        cmds := s.cmds + 1
        nextJobId := followingId s.nextJobId
        accepted := s.accepted ++ [⟨cmd, s.nextJobId⟩]
        outcome := Function.update s.outcome s.nextJobId (some none) }) := by
  unfold queueDeferredWork
  rcases hfind : s.ongoingJobs.find? (isOf 0) with _ | job
  · exact .inl ⟨rfl, .inl rfl⟩
  · rcases hmem : malloc && enqueued with _ | _
    · exact .inl ⟨rfl, .inr rfl⟩
    · exact .inr ⟨job, rfl, rfl⟩

/-- What a step does to the jobs: a job is accepted, taken, worked at or finished, or there is none
to do anything for. -/
inductive Op.Outcome (s : Hwi) : Op → Hwi → Prop
  | refused {cmd : DeferredWorkCmd} {malloc enqueued : Bool} :
      Outcome s (.queue cmd malloc enqueued) s
  | accepted {cmd : DeferredWorkCmd} {malloc enqueued : Bool} {job : DefOngoingJob}
      (free : s.ongoingJobs.find? (isOf 0) = some job) :
      Outcome s (.queue cmd malloc enqueued) { s with
        ongoingJobs := changeFirst (isOf 0) (fun _ => ⟨s.nextJobId, 0⟩) s.ongoingJobs
        cmdQueue := s.cmdQueue ++ [⟨cmd, s.nextJobId⟩]
        cmds := s.cmds + 1
        nextJobId := Hwi.followingId s.nextJobId
        accepted := s.accepted ++ [⟨cmd, s.nextJobId⟩]
        outcome := Function.update s.outcome s.nextJobId (some none) }
  | store {var : JobVar} {jobId initPProcJob paramAllocJob reprocJob : ℕ} :
      Outcome s (.store var jobId) { s with
        initPProcJob := initPProcJob, paramAllocJob := paramAllocJob, reprocJob := reprocJob }
  | takeNone {cmds : ℕ} (pc : s.pc = .idle) (hcmds : s.cmds = cmds + 1) (queue : s.cmdQueue = []) :
      Outcome s .take { s with cmds := cmds }
  | take {cmds : ℕ} {dw : DefWork} {rest : List DefWork} (pc : s.pc = .idle)
      (hcmds : s.cmds = cmds + 1) (queue : s.cmdQueue = dw :: rest) :
      Outcome s .take { s with
        cmds := cmds, cmdQueue := rest, pc := .working dw, taken := s.taken ++ [dw] }
  | work {c : Callees} {dw : DefWork} (pc : s.pc = .working dw) :
      Outcome s (.work c) { s with
        jobStatus := s.work dw.cmd c, pc := .worked dw, succeeded := s.succeeds dw.cmd c }
  | finish {dw : DefWork} (pc : s.pc = .worked dw) :
      Outcome s .finish (s.dequeueDeferredWork dw s.jobStatus)

theorem Op.outcome (h : op.exec s = some t) : Outcome s op t := by
  rcases op with ⟨cmd, malloc, enqueued⟩ | ⟨var, jobId⟩ | _ | c | _
  · cases h
    rcases s.queue_cases cmd malloc enqueued with ⟨h, -⟩ | ⟨job, hfree, h⟩ <;> rw [h]
    · exact .refused
    · exact .accepted hfree
  · rcases var <;> cases h <;> exact .store
  · unfold Op.exec at h
    rcases hpc : s.pc <;> rcases hcmds : s.cmds with _ | cmds <;> simp only [hpc, hcmds] at h
    all_goals first | cases h | skip
    rcases hq : s.cmdQueue with _ | ⟨dw, rest⟩ <;> simp only [hq] at h <;> cases h
    · simpa only [hpc, hq] using Outcome.takeNone hpc hcmds hq
    · exact .take hpc hcmds hq
  · unfold Op.exec at h
    rcases hpc : s.pc <;> simp only [hpc] at h <;> cases h
    exact .work hpc
  · unfold Op.exec at h
    rcases hpc : s.pc <;> simp only [hpc] at h <;> cases h
    exact .finish hpc

end Deferred
