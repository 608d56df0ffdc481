import MidoCamera.PostProc.Types
import MidoCamera.Library.Tally

/-!
# The HAL3 post-processor

Frames, metadata and commands come in from several threads. The data thread takes one command after
the other; for `DO_NEXT_JOB` it sends a JPEG job to the encoder if none is ongoing, then takes a
frame of the framework, and then a frame of the camera with its metadata.

A step is what happens under one lock, or between two of them. A command is sent after the thing
that it is for was queued, in a step of its own; a caller that is between the two owes a command.
The stop command is one step, since nothing could tell the flushes of its queues apart. What
happened to the buffers is recorded.
-/

namespace PostProc

open Loop

/-- `camera_cmd_type_t`, as far as it is sent to the data thread. -/
inductive Cmd
  | startDataProc
  | stopDataProc
  | doNextJob
  deriving DecidableEq, Repr

/-- Where the data thread is: between commands, or in one of the parts of `DO_NEXT_JOB`. In an
encoding it holds the job, and once the encoder has started it, also the id that it was given. -/
inductive Pc
  | idle
  | jpeg
  | encode (job : JpegData)
  | started (job : JpegData) (jobId : ℕ)
  | fwk
  | fwkReproc (job : PpData) (frame : FwkInput)
  | pp
  | ppReproc (job : PpData) (buf : PpBuffer)
  deriving DecidableEq, Repr

/-- Where the thread that starts and stops is. Both commands are waited for. -/
inductive Ctl
  | idle
  | starting
  | stopping
  | stopped
  deriving DecidableEq, Repr

/-- `m_pReprocChannel`: its free heap buffers and how many there are, the buffers that are with its
stream, and the requests whose results are to come. -/
structure Reproc where
  reprocessType : ReprocessType
  freeBufferList : List ℕ := []
  allocated : ℕ := 0
  queued : List ℕ := []
  submitted : List ℕ := []
  deriving DecidableEq, Repr

/-- What becomes of `doReprocessOffline`: it fails before it has taken a buffer, after it has taken
one that cannot be queued to the stream, or with the buffer queued; or the reprocess is under way.
-/
inductive Offline
  | failed
  | unqueued
  | queued
  | submitted
  deriving DecidableEq, Repr

/-- The buffer that `doReprocessOffline` takes: a free one, or a new one. -/
def Reproc.takeBuf (r : Reproc) : ℕ × Reproc :=
  match r.freeBufferList with
  | bufIdx :: rest => (bufIdx, { r with freeBufferList := rest })
  | [] => (r.allocated, { r with allocated := r.allocated + 1 })

/-- `doReprocessOffline`. Only the JPEG type takes a heap buffer. -/
def Reproc.doReprocessOffline (r : Reproc) (request : ℕ) (out : Offline) : Bool × Reproc :=
  let taken := if r.reprocessType = .jpeg then r.takeBuf.2 else r
  let queued := if r.reprocessType = .jpeg then
      { taken with queued := taken.queued ++ [r.takeBuf.1] }
    else r
  match out with
  | .failed => (false, r)
  | .unqueued => (false, taken)
  | .queued => (false, queued)
  | .submitted => (true, { queued with submitted := queued.submitted ++ [request] })

/-- A JPEG callback between `findJpegJobByJobId` and `releaseJpegJobData`: the id it came for, the
job that was started under it, and the job that was found. -/
structure Completion where
  jobId : ℕ
  startedJob : ℕ
  job : JpegData
  deriving DecidableEq, Repr

/-- The post-processor with its surroundings.

`owed` counts the callers that are about to send `DO_NEXT_JOB`. `landing` has the JPEG jobs that are
made and not yet queued, `completing` and `ppCompleting` the jobs of results that are taken from
their queue and not yet released, and `flushing` the job that `flush` is about to abort. `running`
are the encodings: the id, and the job it was given for. `streamFree` and `streamQueued` are the
snapshot stream's buffers in `mFreeBufferList` and with the stream, these with the request they were
queued for. The record is of the super buffers that came in, whose buffer was returned, and whose
memory was freed, and of the jobs that were made and freed. -/
structure PostProcessor where
  inputPPQ : Queue PpBuffer := {}
  inputFWKPPQ : Queue FwkInput := {}
  inputMetaQ : Queue SuperBuf := {}
  ongoingPPQ : Queue PpData := {}
  inputJpegQ : Queue JpegData := {}
  ongoingJpegQ : Queue JpegData := {}
  jpegSettingsQ : Queue JpegSettings := {}
  isActive : Bool := false
  cmds : List Cmd := []
  owed : ℕ := 0
  pc : Pc := .idle
  ctl : Ctl := .idle
  postProcStarted : Bool := false
  reproc : Option Reproc := none
  landing : List JpegData := []
  completing : List Completion := []
  ppCompleting : List PpData := []
  flushing : Option JpegData := none
  running : List (ℕ × ℕ) := []
  jobId : ℕ → ℕ := fun _ => 0
  streamFree : List ℕ := []
  streamAllocated : ℕ := 0
  streamQueued : List (ℕ × Option ℕ) := []
  handed : List SuperBuf := []
  returned : List SuperBuf := []
  freed : List SuperBuf := []
  mallocs : List ℕ := []
  freedJobs : List ℕ := []

/-! ## What is released -/

/-- What `releaseJpegJobData` frees. -/
def JpegData.frees (job : JpegData) : List SuperBuf :=
  job.srcReprocFrame.toList ++ job.srcFrame.toList ++
    if job.fwkSrcBuffer.isSome then [] else job.srcMetadata.toList

/-- What `releasePPJobData` frees: the metadata only with a frame. -/
def PpData.frees (job : PpData) : List SuperBuf :=
  job.srcFrame.toList ++ if job.srcFrame.isSome then job.srcMetadata.toList else []

/-- The frame of the snapshot stream that a JPEG job is of, if it is of one: `jpegEvtHandle`
compares the stream's handle. -/
def JpegData.snapshot (job : JpegData) : Option SuperBuf :=
  (job.srcReprocFrame <|> job.srcFrame).filter fun b => b.kind = .frame

namespace PostProcessor

/-- `sendCmd(CAMERA_CMD_TYPE_DO_NEXT_JOB)` is about to be called. -/
def owe (s : PostProcessor) : PostProcessor := { s with owed := s.owed + 1 }

def free (s : PostProcessor) (bs : List SuperBuf) : PostProcessor :=
  { s with freed := s.freed ++ bs }

def freeJob (s : PostProcessor) (addr : ℕ) : PostProcessor :=
  { s with freedJobs := s.freedJobs ++ [addr] }

/-- `releaseSuperBuf`: `bufDone` of the channel, which queues the buffer to its stream. -/
def releaseSuperBuf (s : PostProcessor) (b : SuperBuf) : PostProcessor :=
  { s with
    streamQueued := s.streamQueued ++ [(b.bufIdx, none)]
    returned := s.returned ++ [b] }

def metadataBufDone (s : PostProcessor) (bs : List SuperBuf) : PostProcessor :=
  { s with returned := s.returned ++ bs }

/-- `m_pReprocChannel->bufDone`, if there is a channel: the buffer is put into its free list. -/
def reprocBufDone (s : PostProcessor) (bs : List SuperBuf) : PostProcessor :=
  match s.reproc with
  | none => s
  | some r =>
    { s with
      reproc := some { r with freeBufferList := r.freeBufferList ++ bs.map SuperBuf.bufIdx }
      returned := s.returned ++ bs }

def releaseJpegJobData (s : PostProcessor) (job : JpegData) : PostProcessor :=
  let s := s.free job.srcReprocFrame.toList
  let s := (s.reprocBufDone job.srcFrame.toList).free job.srcFrame.toList
  let s := if job.fwkSrcBuffer.isSome then s
    else (s.metadataBufDone job.srcMetadata.toList).free job.srcMetadata.toList
  s.owe

def releasePPJobData (s : PostProcessor) (job : PpData) : PostProcessor :=
  let s := if job.srcFrame.isSome then
      let s := s.free job.srcFrame.toList
      (s.metadataBufDone job.srcMetadata.toList).free job.srcMetadata.toList
    else s
  s.owe

def releaseOngoingPPData (s : PostProcessor) (job : PpData) : PostProcessor :=
  let s := match job.srcFrame with
    | some b => s.releaseSuperBuf b
    | none => s
  s.releasePPJobData job

def releasePPInputData (s : PostProcessor) (buf : PpBuffer) : PostProcessor :=
  (s.releaseSuperBuf buf.input).free [buf.input]

def releaseMetadata (s : PostProcessor) (b : SuperBuf) : PostProcessor :=
  (s.metadataBufDone [b]).free [b]

/-- `abort_job`: the encoding is stopped, and its callback does not come. -/
def abortJob (s : PostProcessor) (jobId : ℕ) : PostProcessor :=
  { s with running := s.running.filter fun x => x.1 ≠ jobId }

def abandon (s : PostProcessor) (job : JpegData) : PostProcessor :=
  ((s.abortJob (s.jobId job.addr)).releaseJpegJobData job).freeJob job.addr

/-! ## What comes in -/

/-- `processData`, for a frame of the camera. -/
def processInput (s : PostProcessor) (input : SuperBuf) (frameNumber : ℕ) : PostProcessor :=
  let s := { s with
    inputPPQ := s.inputPPQ.enqueue ⟨input, frameNumber⟩
    handed := s.handed ++ [input] }
  if s.inputMetaQ.isEmpty then s else s.owe

def processPPMetadata (s : PostProcessor) (reprocMeta : SuperBuf) : PostProcessor :=
  let s := { s with
    inputMetaQ := s.inputMetaQ.enqueue reprocMeta
    handed := s.handed ++ [reprocMeta] }
  if s.inputPPQ.isEmpty then s else s.owe

def processJpegSettingData (s : PostProcessor) (jpegSettings : JpegSettings) : PostProcessor :=
  { s with jpegSettingsQ := s.jpegSettingsQ.enqueue jpegSettings }

/-- `processData`, for a frame of the framework: it waits for its reprocess, or is made a JPEG job
with the next settings. -/
def processFwk (s : PostProcessor) (frame : FwkInput) (malloc : Option ℕ) : PostProcessor :=
  if needsReprocess frame then
    { s with inputFWKPPQ := s.inputFWKPPQ.enqueue frame }.owe
  else match s.jpegSettingsQ.dequeue with
  | (none, _) => s
  | (some jpegSettings, q) =>
    let s := { s with jpegSettingsQ := q }
    match malloc with
    | none => s
    | some addr =>
      { s with
        mallocs := s.mallocs ++ [addr]
        landing := s.landing ++
          [{ addr := addr, fwkFrame := some frame, jpegSettings := jpegSettings }] }

/-- The JPEG job that `processPPData` makes of a job and the frame that was processed. -/
def jpegJob (job : PpData) (frame : SuperBuf) (jpegSettings : JpegSettings) (addr : ℕ) : JpegData :=
  { addr := addr
    srcFrame := some frame
    srcReprocFrame := if job.srcFrame = some frame then none else job.srcFrame
    fwkSrcBuffer := job.fwkSrcFrame
    srcMetadata := job.srcMetadata
    jpegSettings := jpegSettings }

/-- `processPPData`, up to where the JPEG job is queued: the first ongoing job is taken and, if it
has frames and settings and there is memory, freed. -/
def takeProcessed (s : PostProcessor) (frame : SuperBuf) (malloc : Option ℕ) :
    Option JpegData × PostProcessor :=
  match s.ongoingPPQ.dequeue with
  | (none, _) => (none, s)
  | (some job, q) =>
    let s := { s with ongoingPPQ := q }
    if job.srcFrame = none ∧ job.fwkSrcFrame = none then (none, s)
    else match job.jpegSettings with
    | none => (none, s)
    | some jpegSettings =>
      match malloc with
      | none => (none, s)
      | some addr =>
        (some (jpegJob job frame jpegSettings addr),
          { s with mallocs := s.mallocs ++ [addr] }.freeJob job.addr)

def queueJpeg (s : PostProcessor) (job : JpegData) : PostProcessor :=
  { s with inputJpegQ := s.inputJpegQ.enqueue job }.owe

/-- The reprocess stream's result for the JPEG encoder, in the next of its buffers: `processPPData`
is called with it. -/
def processed (s : PostProcessor) (r : Reproc) (addr : ℕ) (malloc : Option ℕ) :
    Option PostProcessor :=
  match r.queued, r.submitted with
  | idx :: queued, request :: submitted =>
    let frame : SuperBuf := ⟨addr, .reprocessed, idx, request⟩
    let s := { s with
      reproc := some { r with queued := queued, submitted := submitted }
      handed := s.handed ++ [frame] }
    match s.takeProcessed frame malloc with
    | (none, s) => some s
    | (some job, s) => some { s with landing := s.landing ++ [job] }
  | _, _ => none

/-- The reprocess stream's result for the framework: the frame's buffer is free again, and
`dequeuePPJob` takes the first ongoing job. -/
def reprocessed (s : PostProcessor) (r : Reproc) : Option PostProcessor :=
  match r.submitted with
  | [] => none
  | _ :: submitted =>
    let s := { s with reproc := some { r with submitted := submitted } }
    match s.ongoingPPQ.dequeue with
    | (none, _) => some s
    | (some job, q) =>
      some { s with
        ongoingPPQ := q
        returned := s.returned ++ job.srcFrame.toList
        ppCompleting := s.ppCompleting ++ [job] }

/-! ## The snapshot stream -/

/-- `request` without an input buffer: a free heap buffer, or a new one if there is memory, is
queued to the stream. -/
def queueBuf (s : PostProcessor) (request : ℕ) (allocateOne : Bool) : Option PostProcessor :=
  match s.streamFree with
  | bufIdx :: rest =>
    some { s with streamFree := rest, streamQueued := s.streamQueued ++ [(bufIdx, some request)] }
  | [] =>
    if allocateOne then
      some { s with
        streamAllocated := s.streamAllocated + 1
        streamQueued := s.streamQueued ++ [(s.streamAllocated, some request)] }
    else none

/-- `streamCbRoutine`: the stream's next buffer comes filled. One that was not queued for a request
holds what the driver put into it. -/
def streamCb (s : PostProcessor) (addr content : ℕ) : Option PostProcessor :=
  match s.streamQueued with
  | [] => none
  | (bufIdx, request) :: rest =>
    some ({ s with streamQueued := rest }.processInput
      ⟨addr, .frame, bufIdx, request.getD content⟩ 0)

/-! ## The JPEG callback and `flush` -/

/-- `findJpegJobByJobId`: the job id is looked at only for 0. -/
def findJpegJobByJobId (s : PostProcessor) (jobId : ℕ) : Option JpegData × PostProcessor :=
  if jobId = 0 then (none, s)
  else (s.ongoingJpegQ.dequeue.1, { s with ongoingJpegQ := s.ongoingJpegQ.dequeue.2 })

/-- The JPEG interface calls back for an encoding. -/
def jpegCallback (s : PostProcessor) (jobId : ℕ) : Option PostProcessor :=
  match s.running.find? fun x => x.1 == jobId with
  | none => none
  | some (_, addr) =>
    let s := { s with running := s.running.filter fun x => x.1 ≠ jobId }
    match s.findJpegJobByJobId jobId with
    | (none, s) => some s
    | (some job, s) => some { s with completing := s.completing ++ [⟨jobId, addr, job⟩] }

/-- The rest of `jpegEvtHandle`: the snapshot's buffer is free again, and the job is released. -/
def jpegDone (s : PostProcessor) (addr : ℕ) : Option PostProcessor :=
  match s.completing.find? fun c => c.job.addr == addr with
  | none => none
  | some c =>
    let s := { s with
      completing := takeOut (fun c => c.job.addr) addr s.completing
      streamFree := s.streamFree ++ c.job.snapshot.toList.map SuperBuf.bufIdx
      returned := s.returned ++ c.job.snapshot.toList }
    some ((s.releaseJpegJobData c.job).freeJob c.job.addr)

/-- `flush`, a round of the loop: the next ongoing job is taken. -/
def flushTake (s : PostProcessor) : Option PostProcessor :=
  match s.flushing, s.ongoingJpegQ.dequeue with
  | none, (some job, q) => some { s with ongoingJpegQ := q, flushing := some job }
  | _, _ => none

/-- The rest of the round: the job is aborted by its id, released and freed. -/
def flushRelease (s : PostProcessor) : Option PostProcessor :=
  s.flushing.map fun job => { s with flushing := none }.abandon job

/-- A job of `landing` is queued. -/
def land (s : PostProcessor) (addr : ℕ) : Option PostProcessor :=
  match s.landing.find? fun job => job.addr == addr with
  | none => none
  | some job => some ({ s with landing := takeOut JpegData.addr addr s.landing }.queueJpeg job)

/-- A job of `ppCompleting` is released and freed. -/
def ppDone (s : PostProcessor) (addr : ℕ) : Option PostProcessor :=
  match s.ppCompleting.find? fun job => job.addr == addr with
  | none => none
  | some job =>
    some (({ s with ppCompleting := takeOut PpData.addr addr s.ppCompleting }.releasePPJobData
      job).freeJob job.addr)

/-! ## Start and stop -/

/-- `start`, from `startPostProc`: a reprocess channel is made if one is needed; `ok` tells whether
that works. Without it, the command is not sent. -/
def start (s : PostProcessor) (reprocessType : ReprocessType) (ok : Bool) : Option PostProcessor :=
  if s.ctl = .idle ∧ s.postProcStarted = false then
    let s := { s with postProcStarted := true }
    if reprocessType = .none then
      some { s with cmds := s.cmds ++ [.startDataProc], ctl := .starting }
    else if ok then
      some { s with
        reproc := some { reprocessType := reprocessType }
        cmds := s.cmds ++ [.startDataProc]
        ctl := .starting }
    else some { s with reproc := none }
  else none

/-- `stop`, up to where the command is taken: it is sent with priority. -/
def stop (s : PostProcessor) : Option PostProcessor :=
  if s.ctl = .idle then some { s with cmds := .stopDataProc :: s.cmds, ctl := .stopping } else none

/-- The rest of `stop`: the reprocess channel is deleted. -/
def stopChannel (s : PostProcessor) : Option PostProcessor :=
  if s.ctl = .stopped then
    some { s with reproc := none, ctl := .idle, postProcStarted := false }
  else none

/-! ## The data thread -/

def startDataProc (s : PostProcessor) : PostProcessor :=
  { s with
    isActive := true
    ongoingPPQ := s.ongoingPPQ.init
    inputJpegQ := s.inputJpegQ.init
    inputPPQ := s.inputPPQ.init
    inputFWKPPQ := s.inputFWKPPQ.init
    inputMetaQ := s.inputMetaQ.init
    ctl := .idle }

/-- A job is released by `flush` of its queue, and freed. -/
def dropJpeg (s : PostProcessor) (job : JpegData) : PostProcessor :=
  (s.releaseJpegJobData job).freeJob job.addr

/-- A post-processing job is released by `flush` of its queue, and freed. -/
def dropPP (s : PostProcessor) (job : PpData) : PostProcessor :=
  (s.releaseOngoingPPData job).freeJob job.addr

/-- `CAMERA_CMD_TYPE_STOP_DATA_PROC`: ongoing encodings are aborted, and the queues flushed. -/
def stopDataProc (s : PostProcessor) : PostProcessor :=
  let s := s.ongoingJpegQ.items.foldl abandon
    { s with isActive := false, ongoingJpegQ := { s.ongoingJpegQ with items := [] } }
  let s := s.ongoingPPQ.flushed.foldl dropPP { s with ongoingPPQ := s.ongoingPPQ.flush }
  let s := s.inputJpegQ.flushed.foldl dropJpeg { s with inputJpegQ := s.inputJpegQ.flush }
  let s := s.inputPPQ.flushed.foldl releasePPInputData { s with inputPPQ := s.inputPPQ.flush }
  let s := { s with inputFWKPPQ := s.inputFWKPPQ.flush }
  let s := s.inputMetaQ.flushed.foldl releaseMetadata { s with inputMetaQ := s.inputMetaQ.flush }
  { s with ctl := .stopped }

/-- `CAMERA_CMD_TYPE_DO_NEXT_JOB`, while not active: an element of each queue is given back. -/
def giveBack (s : PostProcessor) : PostProcessor :=
  let s := match s.inputJpegQ.dequeue with
    | (none, _) => s
    | (some job, q) => { s with inputJpegQ := q }.freeJob job.addr
  let s := match s.inputPPQ.dequeue with
    | (none, _) => s
    | (some buf, q) => { s with inputPPQ := q }.releasePPInputData buf
  let s := match s.inputMetaQ.dequeue with
    | (none, _) => s
    | (some b, q) => { s with inputMetaQ := q }.releaseMetadata b
  { s with inputFWKPPQ := s.inputFWKPPQ.dequeue.2 }

/-- `getCmd`, and what is done for the command at once. -/
def getCmd (s : PostProcessor) : Option PostProcessor :=
  match s.pc, s.cmds with
  | .idle, .startDataProc :: rest => some { s with cmds := rest }.startDataProc
  | .idle, .stopDataProc :: rest => some { s with cmds := rest }.stopDataProc
  | .idle, .doNextJob :: rest =>
    some (if s.isActive then { s with cmds := rest, pc := .jpeg } else { s with cmds := rest }.giveBack)
  | _, _ => none

/-- If no encoding is ongoing, the next JPEG job is. -/
def takeJpeg (s : PostProcessor) : PostProcessor :=
  if s.ongoingJpegQ.isEmpty then
    match s.inputJpegQ.dequeue with
    | (none, _) => { s with pc := .fwk }
    | (some job, q) =>
      { s with
        inputJpegQ := q
        ongoingJpegQ := s.ongoingJpegQ.enqueue job
        pc := .encode job }
  else { s with pc := .fwk }

/-- `encodeData` or `encodeFWKData` fails: the last ongoing job is taken out, and this one released
and freed. -/
def encodeFailed (s : PostProcessor) (job : JpegData) : PostProcessor :=
  ({ s with ongoingJpegQ := s.ongoingJpegQ.dequeueLast, pc := .fwk }.releaseJpegJobData
    job).freeJob job.addr

/-- `start_job`: the encoding runs under an id. -/
def startJob (s : PostProcessor) (job : JpegData) (jobId : ℕ) : PostProcessor :=
  { s with running := s.running ++ [(jobId, job.addr)], pc := .started job jobId }

def storeJobId (s : PostProcessor) (job : JpegData) (jobId : ℕ) : PostProcessor :=
  { s with jobId := Function.update s.jobId job.addr jobId, pc := .fwk }

/-- The next frame of the framework is taken, with the next settings. Without a reprocess channel
the job and the frame are freed. -/
def takeFwk (s : PostProcessor) (malloc : Option ℕ) : PostProcessor :=
  match s.inputFWKPPQ.dequeue with
  | (none, _) => { s with pc := .pp }
  | (some frame, q) =>
    let jpegSettings := s.jpegSettingsQ.dequeue.1
    let s := { s with inputFWKPPQ := q, jpegSettingsQ := s.jpegSettingsQ.dequeue.2, pc := .pp }
    match malloc with
    | none => s
    | some addr =>
      let s := { s with mallocs := s.mallocs ++ [addr] }
      match s.reproc with
      | none => s.freeJob addr
      | some _ =>
        let job : PpData := { addr := addr, fwkSrcFrame := some frame, jpegSettings := jpegSettings }
        { s with ongoingPPQ := s.ongoingPPQ.enqueue job, pc := .fwkReproc job frame }

/-- The reprocess of a frame of the framework: if it fails, the last ongoing job is taken out, and
this one and the frame are freed. -/
def fwkReproc (s : PostProcessor) (job : PpData) (frame : FwkInput) (out : Offline) :
    PostProcessor :=
  match s.reproc with
  | none => { s with pc := .pp }
  | some r =>
    let (ok, r) := r.doReprocessOffline frame.frameNumber out
    let s := { s with reproc := some r, pc := .pp }
    if ok then s else { s with ongoingPPQ := s.ongoingPPQ.dequeueLast }.freeJob job.addr

/-- What is freed and returned where a frame of the camera is not processed. -/
def cleanUp (s : PostProcessor) (addr : Option ℕ) (buf : Option PpBuffer)
    (metaBuffer : Option SuperBuf) : PostProcessor :=
  let s := match addr with
    | some addr => s.freeJob addr
    | none => s
  let s := match buf with
    | some buf => s.releasePPInputData buf
    | none => s
  match metaBuffer with
  | some b => s.releaseMetadata b
  | none => s

/-- The next frame of the camera is taken with the next metadata and the next settings, if there are
both. Without a reprocess channel it is passed to `processPPData` at once. -/
def takePP (s : PostProcessor) (malloc jpegMalloc : Option ℕ) : PostProcessor :=
  if s.inputPPQ.isEmpty || s.inputMetaQ.isEmpty then { s with pc := .idle }
  else
    let ppBuffer := s.inputPPQ.dequeue.1
    let metaBuffer := s.inputMetaQ.dequeue.1
    let jpegSettings := s.jpegSettingsQ.dequeue.1
    let s := { s with
      inputPPQ := s.inputPPQ.dequeue.2
      inputMetaQ := s.inputMetaQ.dequeue.2
      jpegSettingsQ := s.jpegSettingsQ.dequeue.2
      mallocs := s.mallocs ++ malloc.toList
      pc := .idle }
    match malloc, metaBuffer, ppBuffer with
    | some addr, some b, some buf =>
      let job : PpData := {
        addr := addr
        srcFrame := some buf.input
        srcMetadata := some b
        jpegSettings := jpegSettings }
      let s := { s with ongoingPPQ := s.ongoingPPQ.enqueue job }
      match s.reproc with
      | some _ => { s with pc := .ppReproc job buf }
      | none =>
        match s.takeProcessed buf.input jpegMalloc with
        | (some jpegJob, s) => s.queueJpeg jpegJob
        | (none, s) => s.cleanUp (some addr) (some buf) (some b)
    | malloc, metaBuffer, ppBuffer => s.cleanUp malloc ppBuffer metaBuffer

/-- The reprocess of a frame of the camera. If `doReprocessOffline` fails, the last ongoing job is
taken out; if `overrideMetadata` fails, it is not. -/
def ppReproc (s : PostProcessor) (job : PpData) (buf : PpBuffer) (overridden : Bool)
    (out : Offline) : PostProcessor :=
  let s := { s with pc := .idle }
  match s.reproc with
  | none => s
  | some r =>
    if overridden then
      let (ok, r) := r.doReprocessOffline buf.input.request out
      let s := { s with reproc := some r }
      if ok then s
      else { s with ongoingPPQ := s.ongoingPPQ.dequeueLast }.cleanUp (some job.addr) (some buf)
        job.srcMetadata
    else s.cleanUp (some job.addr) (some buf) job.srcMetadata

end PostProcessor

/-- What the threads do. -/
inductive PostOp
  | jpegSetting (jpegSettings : JpegSettings)
  | queueBuf (request : ℕ) (allocateOne : Bool)
  | streamCb (addr content : ℕ)
  | input (b : SuperBuf) (frameNumber : ℕ)
  | metadata (reprocMeta : SuperBuf)
  | fwkInput (frame : FwkInput) (malloc : Option ℕ)
  | processed (addr : ℕ) (malloc : Option ℕ)
  | land (addr : ℕ)
  | ppDone (addr : ℕ)
  | jpegCallback (jobId : ℕ)
  | jpegDone (addr : ℕ)
  | flushTake
  | flushRelease
  | send
  | start (reprocessType : ReprocessType) (ok : Bool)
  | stop
  | stopChannel
  | getCmd
  | takeJpeg
  | encodeFailed
  | startJob (jobId : ℕ)
  | storeJobId
  | takeFwk (malloc : Option ℕ)
  | fwkReproc (out : Offline)
  | takePP (malloc jpegMalloc : Option ℕ)
  | ppReproc (overridden : Bool) (out : Offline)
  deriving DecidableEq, Repr

namespace PostOp

/-- What a step does; none where it cannot be taken. -/
def exec (s : PostProcessor) : PostOp → Option PostProcessor
  | .jpegSetting jpegSettings => some (s.processJpegSettingData jpegSettings)
  | .queueBuf request allocateOne => s.queueBuf request allocateOne
  | .streamCb addr content => s.streamCb addr content
  | .input b frameNumber =>
    if b.kind = .frame then some (s.processInput b frameNumber) else none
  | .metadata reprocMeta =>
    if reprocMeta.kind = .metadata then some (s.processPPMetadata reprocMeta) else none
  | .fwkInput frame malloc => some (s.processFwk frame malloc)
  | .processed addr malloc => s.reproc.bind fun r =>
    if r.reprocessType = .jpeg then s.processed r addr malloc else s.reprocessed r
  | .land addr => s.land addr
  | .ppDone addr => s.ppDone addr
  | .jpegCallback jobId => s.jpegCallback jobId
  | .jpegDone addr => s.jpegDone addr
  | .flushTake => s.flushTake
  | .flushRelease => s.flushRelease
  | .send =>
    if 0 < s.owed then some { s with owed := s.owed - 1, cmds := s.cmds ++ [.doNextJob] } else none
  | .start reprocessType ok => s.start reprocessType ok
  | .stop => s.stop
  | .stopChannel => s.stopChannel
  | .getCmd => s.getCmd
  | .takeJpeg => if s.pc = .jpeg then some s.takeJpeg else none
  | .encodeFailed =>
    match s.pc with
    | .encode job => some (s.encodeFailed job)
    | _ => none
  | .startJob jobId =>
    match s.pc with
    | .encode job => if jobId = 0 then none else some (s.startJob job jobId)
    | _ => none
  | .storeJobId =>
    match s.pc with
    | .started job jobId => some (s.storeJobId job jobId)
    | _ => none
  | .takeFwk malloc => if s.pc = .fwk then some (s.takeFwk malloc) else none
  | .fwkReproc out =>
    match s.pc with
    | .fwkReproc job frame => some (s.fwkReproc job frame out)
    | _ => none
  | .takePP malloc jpegMalloc => if s.pc = .pp then some (s.takePP malloc jpegMalloc) else none
  | .ppReproc overridden out =>
    match s.pc with
    | .ppReproc job buf => some (s.ppReproc job buf overridden out)
    | _ => none

/-- The addresses that `malloc` returns for jobs. -/
def jobMallocs : PostOp → List ℕ
  | .fwkInput _ malloc | .processed _ malloc | .takeFwk malloc => malloc.toList
  | .takePP malloc jpegMalloc => malloc.toList ++ jpegMalloc.toList
  | _ => []

def bufMallocs : PostOp → List ℕ
  | .streamCb addr _ | .processed addr _ => [addr]
  | .input b _ | .metadata b => [b.addr]
  | _ => []

/-- What `malloc` returns is new, and so is the id of an encoding. -/
structure Fresh (op : PostOp) (s : PostProcessor) : Prop where
  jobs : op.jobMallocs.Nodup ∧ ∀ addr ∈ op.jobMallocs, addr ∉ s.mallocs
  bufs : ∀ addr ∈ op.bufMallocs, addr ∉ s.handed.map SuperBuf.addr
  ids : ∀ jobId, op = .startJob jobId → ∀ x ∈ s.running, x.1 ≠ jobId

theorem Fresh.of_nothing {op : PostOp} {s : PostProcessor} (jobs : op.jobMallocs = [])
    (bufs : op.bufMallocs = []) (ids : ∀ jobId, op ≠ .startJob jobId) : op.Fresh s where
  jobs := by simp [jobs]
  bufs := by simp [bufs]
  ids jobId h := absurd h (ids jobId)

theorem Fresh.of_buf {op : PostOp} {s : PostProcessor} {addr : ℕ} (jobs : op.jobMallocs = [])
    (bufs : op.bufMallocs = [addr]) (ids : ∀ jobId, op ≠ .startJob jobId)
    (new : addr ∉ s.handed.map SuperBuf.addr) : op.Fresh s where
  jobs := by simp [jobs]
  bufs := by simpa [bufs] using new
  ids jobId h := absurd h (ids jobId)

def Step (op : PostOp) (s t : PostProcessor) : Prop := op.Fresh s ∧ op.exec s = some t

end PostOp

/-- A post-processor that was made and is started, as `START_DATA_PROC` leaves it. -/
def PostProcessor.active (reproc : Option Reproc) : PostProcessor :=
  { isActive := true, postProcStarted := true, reproc := reproc }

end PostProc
