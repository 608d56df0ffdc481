import MidoCamera.PostProc.Types
import MidoCamera.Library.Owners

/-!
# The HAL1 post-processor

A super buffer that is handed to the post-processor goes from there to a reprocess channel, pass by
pass, to the JPEG encoder, or to the application as a raw image. On its way it is in a job, and the
job is in a queue, or a thread has it in its hands: the thread that brings a reprocessed frame, or
the data thread, which does one thing after the other for `DO_NEXT_JOB`.

A step is what happens under one lock, or between two of them. What the parameters and the channels
say, and what `malloc` and the other modules return, is given with the step. The commands of the
data thread may come in any order. What happened to the buffers and the jobs is recorded.
-/

namespace Hal1Post

open Loop
open PostProc (Queue)

/-! ## Jobs -/

/-- `mm_camera_super_buf_t`: where the structure is, and the channel that its buffers are of. -/
structure SuperBuf where
  addr : ℕ
  chId : ℕ
  deriving DecidableEq, Repr

/-- `qcamera_pp_data_t`, at its address: how many passes were begun, the channel of the next one,
the frame for it, and the frame that it was made of in the end. -/
structure PpData where
  addr : ℕ
  reprocCount : ℕ := 0
  ppChannelIndex : ℕ := 0
  srcFrame : Option SuperBuf := none
  reprocFrameRelease : Bool := false
  srcReprocFrame : Option SuperBuf := none
  deriving DecidableEq, Repr

/-- `qcamera_jpeg_data_t`, at its address. The job id is written after the job is queued, and is
kept apart. -/
structure JpegData where
  addr : ℕ
  srcFrame : Option SuperBuf := none
  srcReprocFrame : Option SuperBuf := none
  reprocFrameRelease : Bool := false
  deriving DecidableEq, Repr

/-- The super buffers of a job. The two frames are one before the first pass is done. -/
def PpData.owns (job : PpData) : List SuperBuf :=
  job.srcFrame.toList ++
    if job.srcReprocFrame = job.srcFrame then [] else job.srcReprocFrame.toList

def JpegData.owns (job : JpegData) : List SuperBuf :=
  job.srcReprocFrame.toList ++ job.srcFrame.toList

/-- Who owns super buffers: a job, or an entry that is a super buffer itself. -/
inductive Owner
  | pp (job : PpData)
  | jpeg (job : JpegData)
  | buf (b : SuperBuf)
  deriving DecidableEq, Repr

def Owner.bufs : Owner → List SuperBuf
  | .pp job => job.owns
  | .jpeg job => job.owns
  | .buf b => [b]

def Owner.jobs : Owner → List ℕ
  | .pp job => [job.addr]
  | .jpeg job => [job.addr]
  | .buf _ => []

def camPpChannelMax : ℕ := 8

/-! ## Queues -/

/-- `enqueue`: `node` tells whether there is memory for the node. -/
def enqueue {α : Type} (q : Queue α) (a : α) (node : Bool) : Option (Queue α) :=
  if q.active && node then some { q with items := q.items ++ [a] } else none

def peek {α : Type} (q : Queue α) : Option α := if q.active then q.items.head? else none

/-- `flushNodes`: what is left in the queue. -/
def flushNodes {α : Type} (q : Queue α) (match_fn : α → Bool) : Queue α :=
  if q.active then { q with items := q.items.filter fun a => !match_fn a } else q

/-- The elements that `flushNodes` releases. -/
def flushedNodes {α : Type} (q : Queue α) (match_fn : α → Bool) : List α :=
  if q.active then q.items.filter match_fn else []

/-- Where the data thread is: between commands, or in one of the parts of `DO_NEXT_JOB`. -/
inductive Pc
  | idle
  | jpeg
  | encode (job : JpegData)
  | raw
  | image (b : SuperBuf)
  | reprocess
  | doReprocess (job : PpData)
  deriving DecidableEq, Repr

def Pc.image? : Pc → Option SuperBuf
  | .image b => some b
  | _ => none

/-- The post-processor with its surroundings.

`landing` is what threads have taken from a queue and are about to queue again, `notifications` are
the frames of data notifications that wait, and `channels` are the handles of the channels that
there are. The record is of the super buffers that came in, that are sources of a regular capture,
whose buffers were returned, and whose memory was freed, and of the jobs that were made and freed.
-/
structure PostProcessor where
  inputPPQ : Queue PpData := {}
  ongoingPPQ : Queue PpData := {}
  inputJpegQ : Queue JpegData := {}
  ongoingJpegQ : Queue JpegData := {}
  inputRawQ : Queue SuperBuf := {}
  isActive : Bool := false
  pc : Pc := .idle
  bufCountPPQ : ℕ := 0
  landing : List Owner := []
  notifications : List SuperBuf := []
  jobId : ℕ → ℕ := fun _ => 0
  channels : List ℕ := []
  handed : List SuperBuf := []
  regular : List SuperBuf := []
  returned : List SuperBuf := []
  freed : List SuperBuf := []
  mallocs : List ℕ := []
  freedJobs : List ℕ := []

/-! ## What is released -/

namespace PostProcessor

/-- `releaseSuperBuf`: `bufDone` of the channel, if it is found. -/
def releaseSuperBuf (s : PostProcessor) (b : SuperBuf) : PostProcessor :=
  if b.chId ∈ s.channels then { s with returned := s.returned ++ [b] } else s

def free (s : PostProcessor) (b : SuperBuf) : PostProcessor := { s with freed := s.freed ++ [b] }

def freeJob (s : PostProcessor) (addr : ℕ) : PostProcessor :=
  { s with freedJobs := s.freedJobs ++ [addr] }

def releaseOngoingPPData (s : PostProcessor) (job : PpData) : PostProcessor :=
  let s := match job.srcFrame with
    | some b => (if job.reprocFrameRelease then s else s.releaseSuperBuf b).free b
    | none => s
  let srcReprocFrame :=
    if job.srcFrame.isSome ∧ job.srcFrame = job.srcReprocFrame then none else job.srcReprocFrame
  match srcReprocFrame with
  | some b => (s.releaseSuperBuf b).free b
  | none => s

def releaseJpegJobData (s : PostProcessor) (job : JpegData) : PostProcessor :=
  let s := match job.srcReprocFrame with
    | some b => (if job.reprocFrameRelease then s else s.releaseSuperBuf b).free b
    | none => s
  match job.srcFrame with
  | some b => (s.releaseSuperBuf b).free b
  | none => s

def dropPP (s : PostProcessor) (job : PpData) : PostProcessor :=
  (s.releaseOngoingPPData job).freeJob job.addr

def dropJpeg (s : PostProcessor) (job : JpegData) : PostProcessor :=
  (s.releaseJpegJobData job).freeJob job.addr

def dropBuf (s : PostProcessor) (b : SuperBuf) : PostProcessor := (s.releaseSuperBuf b).free b

/-! ## What comes in -/

def handIn (s : PostProcessor) (b : SuperBuf) : PostProcessor := { s with handed := s.handed ++ [b] }

/-- `malloc` of a job. -/
def malloc (s : PostProcessor) (addr : ℕ) : PostProcessor :=
  { s with mallocs := s.mallocs ++ [addr] }

/-- A raw frame is queued, or released. -/
def queueRaw (s : PostProcessor) (b : SuperBuf) (node : Bool) : PostProcessor :=
  match enqueue s.inputRawQ b node with
  | some q => { s with inputRawQ := q }
  | none => s.dropBuf b

/-- A JPEG job is queued, or released. -/
def queueJpeg (s : PostProcessor) (job : JpegData) (node : Bool) : PostProcessor :=
  match enqueue s.inputJpegQ job node with
  | some q => { s with inputJpegQ := q }
  | none => s.dropJpeg job

def processRawData (s : PostProcessor) (b : SuperBuf) (node : Bool) : PostProcessor :=
  (s.handIn b).queueRaw b node

end PostProcessor

/-- What is to be done with a frame: it is reprocessed, for a regular capture or not, or it is a raw
image, or it is encoded. -/
inductive Mode
  | reprocess (regular : Bool)
  | raw
  | jpeg
  deriving DecidableEq, Repr

namespace PostProcessor

/-- `processData`. Where there is no memory for a job, the frame is left to the caller. -/
def processData (s : PostProcessor) (frame : SuperBuf) (mode : Mode) (malloc : Option ℕ)
    (node : Bool) : PostProcessor :=
  match mode, malloc with
  | .raw, _ => s.processRawData frame node
  | .reprocess regular, some addr =>
    let job : PpData := {
      addr := addr
      srcFrame := some frame
      srcReprocFrame := some frame
      reprocFrameRelease := regular }
    let s := (s.handIn frame).malloc addr
    let s := if regular then { s with regular := s.regular ++ [frame] } else s
    match enqueue s.inputPPQ job node with
    | some q => { s with inputPPQ := q }
    | none => (s.dropBuf frame).freeJob addr
  | .jpeg, some addr =>
    ((s.handIn frame).malloc addr).queueJpeg { addr := addr, srcFrame := some frame } node
  | _, none => s

end PostProcessor

/-- What decides on a reprocessed frame: whether super buffers are matched, whether the picture
format is NV16 or NV21, how many passes there are, whether the next pass is the next channel's, and
whether the frame's channel is looked for (for Quadra CFA). -/
structure Pass where
  needSuperBufMatch : Bool
  rawFormat : Bool
  reprocCount : ℕ
  nextChannel : Bool
  quadraCfa : Bool
  deriving DecidableEq, Repr

namespace PostProcessor

/-- The frame of the pass before is not needed any more. -/
def releaseInput (s : PostProcessor) (job : PpData) : PpData × PostProcessor :=
  if 1 < job.reprocCount then
    ({ job with srcFrame := none }, match job.srcFrame with
      | some b => s.dropBuf b
      | none => s)
  else (job, s)

/-- `processPPData`, up to where something is queued: the first ongoing job is taken. Where there is
none, or it has not both frames, and where there is no memory or no channel, what was taken is left.
-/
def processPPData (s : PostProcessor) (frame : SuperBuf) (pass : Pass) (malloc : Option ℕ) :
    PostProcessor :=
  let s := s.handIn frame
  match s.ongoingPPQ.dequeue with
  | (none, _) => s
  | (some job, q) =>
    let s := { s with ongoingPPQ := q }
    if !pass.needSuperBufMatch && (job.srcFrame.isNone || job.srcReprocFrame.isNone) then s
    else if !pass.needSuperBufMatch && pass.rawFormat then
      let s := s.dropPP job
      { s with landing := s.landing ++ [.buf frame] }
    else
      let (job, s) := s.releaseInput job
      if job.reprocCount < pass.reprocCount then
        let job := { job with
          srcFrame := some frame
          ppChannelIndex := if pass.nextChannel then job.ppChannelIndex + 1 else job.ppChannelIndex }
        { s with landing := s.landing ++ [.pp job] }
      else match malloc with
      | none => s
      | some addr =>
        let s := s.malloc addr
        if pass.quadraCfa && frame.chId ∉ s.channels then s
        else
          let jpegJob : JpegData := {
            addr := addr
            srcFrame := some frame
            srcReprocFrame := job.srcReprocFrame
            reprocFrameRelease := job.reprocFrameRelease }
          let s := s.freeJob job.addr
          { s with landing := s.landing ++ [.jpeg jpegJob] }

/-- The rest of `processPPData`: what is about to be queued is queued, or released. -/
def land (s : PostProcessor) (o : Owner) (node : Bool) : Option PostProcessor :=
  if o ∈ s.landing then
    let s := { s with landing := s.landing.erase o }
    match o with
    | .pp job =>
      match enqueue s.inputPPQ job node with
      | some q => some { s with inputPPQ := q }
      | none => some (s.dropPP job)
    | .jpeg job => some (s.queueJpeg job node)
    | .buf b => some (s.queueRaw b node)
  else none

/-! ## The JPEG event, and notifications -/

/-- `m_ongoingJpegQ.flushNodes(matchJobId, ..)`, by `processJpegEvt` or by the thread that saves. -/
def jpegEvent (s : PostProcessor) (jobId : ℕ) : PostProcessor :=
  let match_fn := fun job : JpegData => s.jobId job.addr == jobId
  (flushedNodes s.ongoingJpegQ match_fn).foldl dropJpeg
    { s with ongoingJpegQ := flushNodes s.ongoingJpegQ match_fn }

/-- `releaseSaveJobData`: `findJpegJobByJobId` looks at the job id only for 0. -/
def releaseSaveJobData (s : PostProcessor) (jobId : ℕ) : PostProcessor :=
  if jobId = 0 then s
  else match s.ongoingJpegQ.dequeue with
  | (none, _) => s
  | (some job, q) => { s with ongoingJpegQ := q }.dropJpeg job

/-- `releaseNotifyData`, after the callback or where notifications are flushed. -/
def releaseNotifyData (s : PostProcessor) (b : SuperBuf) : Option PostProcessor :=
  if b ∈ s.notifications then
    some ({ s with notifications := s.notifications.erase b }.dropBuf b)
  else none

/-! ## The data thread -/

def startDataProc (s : PostProcessor) : PostProcessor :=
  { s with
    isActive := true
    ongoingPPQ := s.ongoingPPQ.init
    inputJpegQ := s.inputJpegQ.init
    inputPPQ := s.inputPPQ.init
    inputRawQ := s.inputRawQ.init }

/-- The ongoing encodings are ended. -/
def endEncodings (s : PostProcessor) : PostProcessor :=
  s.ongoingJpegQ.items.foldl dropJpeg
    { s with isActive := false, ongoingJpegQ := { s.ongoingJpegQ with items := [] } }

/-- `m_ongoingPPQ.flush`. -/
def flushOngoingPPQ (s : PostProcessor) : PostProcessor :=
  s.ongoingPPQ.flushed.foldl dropPP { s with ongoingPPQ := s.ongoingPPQ.flush }

/-- `m_inputJpegQ.flush`. -/
def flushInputJpegQ (s : PostProcessor) : PostProcessor :=
  s.inputJpegQ.flushed.foldl dropJpeg { s with inputJpegQ := s.inputJpegQ.flush }

/-- `m_inputPPQ.flush`. -/
def flushInputPPQ (s : PostProcessor) : PostProcessor :=
  s.inputPPQ.flushed.foldl dropPP { s with inputPPQ := s.inputPPQ.flush }

/-- `m_inputRawQ.flush`. -/
def flushInputRawQ (s : PostProcessor) : PostProcessor :=
  s.inputRawQ.flushed.foldl dropBuf { s with inputRawQ := s.inputRawQ.flush }

/-- `CAMERA_CMD_TYPE_STOP_DATA_PROC`: the ongoing encodings are ended, and the queues flushed. -/
def stopDataProc (s : PostProcessor) : PostProcessor :=
  s.endEncodings.flushOngoingPPQ.flushInputJpegQ.flushInputPPQ.flushInputRawQ

/-- A JPEG job is given back. -/
def giveBackJpeg (s : PostProcessor) : PostProcessor :=
  match s.inputJpegQ.dequeue with
  | (none, _) => s
  | (some job, q) => { s with inputJpegQ := q }.dropJpeg job

/-- A raw frame is given back. -/
def giveBackRaw (s : PostProcessor) : PostProcessor :=
  match s.inputRawQ.dequeue with
  | (none, _) => s
  | (some b, q) => { s with inputRawQ := q }.dropBuf b

/-- `CAMERA_CMD_TYPE_DO_NEXT_JOB`, while not active: a JPEG job and a raw frame are given back, and
the input queue is flushed. -/
def giveBack (s : PostProcessor) : PostProcessor := s.giveBackJpeg.giveBackRaw.flushInputPPQ

def doNextJob (s : PostProcessor) : PostProcessor :=
  if s.isActive then { s with pc := .jpeg } else s.giveBack

/-- The next JPEG job is ongoing. -/
def takeJpeg (s : PostProcessor) (node : Bool) : PostProcessor :=
  match s.inputJpegQ.dequeue with
  | (none, _) => { s with pc := .raw }
  | (some job, q) =>
    let s := { s with inputJpegQ := q }
    match enqueue s.ongoingJpegQ job node with
    | some q => { s with ongoingJpegQ := q, pc := .encode job }
    | none => { s with pc := .raw }.dropJpeg job

/-- `encodeData` started the job under an id, or failed: then the last ongoing job is taken out, and
this one released and freed. -/
def encodeData (s : PostProcessor) (job : JpegData) (jobId : Option ℕ) : PostProcessor :=
  let s := { s with pc := .raw }
  match jobId with
  | some jobId => { s with jobId := Function.update s.jobId job.addr jobId }
  | none => { s with ongoingJpegQ := s.ongoingJpegQ.dequeueLast }.dropJpeg job

/-- The next raw frame is taken. -/
def takeRaw (s : PostProcessor) : PostProcessor :=
  match s.inputRawQ.dequeue with
  | (none, _) => { s with pc := .reprocess }
  | (some b, q) => { s with inputRawQ := q, pc := .image b }

end PostProcessor

/-- What decides on a raw image: whether its buffer is found and has a memory object, whether its
channel is a ZSL channel and not the first reprocess channel, whether there is memory for the image,
whether it is of a snapshot stream, whether a raw image is waited for within the HAL, whether the
application takes compressed images, and whether there is memory for a notification and it is
queued. -/
structure RawImage where
  frame : Bool
  memObj : Bool
  zslChannelUsed : Bool
  rawMem : Bool
  snapshot : Bool
  intRawEvtPending : Bool
  dataCb : Bool
  notifyMem : Bool
  notified : Bool
  deriving DecidableEq, Repr

namespace PostProcessor

/-- `sendDataNotify`, with the frame or without it. What cannot be queued is released. -/
def sendDataNotify (s : PostProcessor) (frame : Option SuperBuf) (mem notified : Bool) :
    Bool × PostProcessor :=
  if !mem then (false, s)
  else if notified then (true, { s with notifications := s.notifications ++ frame.toList })
  else (false, match frame with
    | some b => s.dropBuf b
    | none => s)

def processRawImageImpl (s : PostProcessor) (b : SuperBuf) (image : RawImage) :
    Bool × PostProcessor :=
  if b.chId ∉ s.channels then (false, s)
  else if !image.frame then (false, s)
  else if !image.memObj || !image.rawMem then (false, s)
  else if !image.snapshot && image.intRawEvtPending then (true, s)
  else if image.dataCb then
    s.sendDataNotify (if image.zslChannelUsed then some b else none) image.notifyMem image.notified
  else (true, s)

/-- A raw frame is processed; if that fails, it is released and freed. -/
def rawImage (s : PostProcessor) (b : SuperBuf) (image : RawImage) : PostProcessor :=
  let (ok, s) := { s with pc := .reprocess }.processRawImageImpl b image
  if ok then s else s.dropBuf b

end PostProcessor

/-- What decides on a reprocess: whether the channel has buffers left, how many reprocess channels
there are and whether the one of this pass is there, whether the capture is a regular one, and how
many frames make an output and how many outputs there are then. `extra` are the allocations of the
jobs that are added: of the job, and of its node. -/
structure Reprocess where
  validated : Bool
  ppChannelCount : ℕ
  channel : Bool
  regular : Bool
  node : Bool
  numberIn : ℕ
  numberOut : ℕ
  extra : List (Option ℕ × Bool)
  deriving DecidableEq, Repr

namespace PostProcessor

/-- The jobs that are added for further outputs; whether the reprocess goes on. -/
def addExtra (reprocCount : ℕ) : List (Option ℕ × Bool) → PostProcessor → Bool × PostProcessor
  | [], s => (true, s)
  | (none, _) :: _, s => (true, s)
  | (some addr, node) :: rest, s =>
    let job : PpData := { addr := addr, reprocCount := reprocCount }
    let s := s.malloc addr
    match enqueue s.ongoingPPQ job node with
    | some q => addExtra reprocCount rest { s with ongoingPPQ := q }
    | none => (false, s.dropPP job)

/-- `doReprocess`, up to where the frame is handed to the channel: the job is ongoing. -/
def takeReprocess (s : PostProcessor) (r : Reprocess) : PostProcessor :=
  let s := { s with pc := .idle }
  if ((peek s.inputPPQ).bind PpData.srcFrame).isNone || !r.validated then s
  else match s.inputPPQ.dequeue with
  | (none, _) => s
  | (some job, q) =>
    let s := { s with inputPPQ := q }
    if job.srcFrame.isNone || job.srcReprocFrame.isNone then s
    else if camPpChannelMax ≤ r.ppChannelCount then s
    else if r.channel then
      let job := { job with reprocCount := job.reprocCount + 1 }
      let s := { s with bufCountPPQ := s.bufCountPPQ + 1 }
      match enqueue s.ongoingPPQ job r.node with
      | none => s.dropPP job
      | some q =>
        let s := { s with ongoingPPQ := q }
        if !r.regular && s.bufCountPPQ % r.numberIn = 0 then
          let (goesOn, s) := addExtra job.reprocCount r.extra s
          if goesOn then { s with pc := .doReprocess job } else s
        else { s with pc := .doReprocess job }
    else s.dropPP job

/-- The rest of `doReprocess`: `doReprocessOffline` or `doReprocess` of the channel. If that fails,
the job is released and freed. -/
def doReprocess (s : PostProcessor) (job : PpData) (ok : Bool) : PostProcessor :=
  let s := { s with pc := .idle }
  if ok then s else s.dropPP job

end PostProcessor

/-- What the threads do. -/
inductive PostOp
  | addChannel (chId : ℕ)
  | delChannel (chId : ℕ)
  | processData (frame : SuperBuf) (mode : Mode) (malloc : Option ℕ) (node : Bool)
  | processRawData (frame : SuperBuf) (node : Bool)
  | processPPData (frame : SuperBuf) (pass : Pass) (malloc : Option ℕ)
  | land (o : Owner) (node : Bool)
  | jpegEvent (jobId : ℕ)
  | releaseSaveJobData (jobId : ℕ)
  | releaseNotifyData (b : SuperBuf)
  | startDataProc
  | stopDataProc
  | doNextJob
  | takeJpeg (node : Bool)
  | encodeData (jobId : Option ℕ)
  | takeRaw
  | rawImage (image : RawImage)
  | takeReprocess (r : Reprocess)
  | doReprocess (ok : Bool)
  deriving DecidableEq, Repr

namespace PostOp

/-- What a step does; none where it cannot be taken. -/
def exec (s : PostProcessor) : PostOp → Option PostProcessor
  | .addChannel chId => some { s with channels := chId :: s.channels }
  | .delChannel chId => some { s with channels := s.channels.filter (· ≠ chId) }
  | .processData frame mode malloc node => some (s.processData frame mode malloc node)
  | .processRawData frame node => some (s.processRawData frame node)
  | .processPPData frame pass malloc => some (s.processPPData frame pass malloc)
  | .land o node => s.land o node
  | .jpegEvent jobId => some (s.jpegEvent jobId)
  | .releaseSaveJobData jobId => some (s.releaseSaveJobData jobId)
  | .releaseNotifyData b => s.releaseNotifyData b
  | .startDataProc => if s.pc = .idle then some s.startDataProc else none
  | .stopDataProc => if s.pc = .idle then some s.stopDataProc else none
  | .doNextJob => if s.pc = .idle then some s.doNextJob else none
  | .takeJpeg node => if s.pc = .jpeg then some (s.takeJpeg node) else none
  | .encodeData jobId =>
    match s.pc with
    | .encode job => some (s.encodeData job jobId)
    | _ => none
  | .takeRaw => if s.pc = .raw then some s.takeRaw else none
  | .rawImage image =>
    match s.pc with
    | .image b => some (s.rawImage b image)
    | _ => none
  | .takeReprocess r => if s.pc = .reprocess then some (s.takeReprocess r) else none
  | .doReprocess ok =>
    match s.pc with
    | .doReprocess job => some (s.doReprocess job ok)
    | _ => none

/-- The addresses that `malloc` returns for jobs. -/
def jobMallocs : PostOp → List ℕ
  | .processData _ _ malloc _ | .processPPData _ _ malloc => malloc.toList
  | .takeReprocess r => r.extra.filterMap Prod.fst
  | _ => []

def frames : PostOp → List SuperBuf
  | .processData frame _ _ _ | .processRawData frame _ | .processPPData frame _ _ => [frame]
  | _ => []

/-- What `malloc` returns is new. Jobs are added for the outputs that are more than the frames. -/
structure Fresh (op : PostOp) (s : PostProcessor) : Prop where
  jobs : op.jobMallocs.Nodup ∧ ∀ addr ∈ op.jobMallocs, addr ∉ s.mallocs
  frames : ∀ b ∈ op.frames, b.addr ∉ s.handed.map SuperBuf.addr
  extra : ∀ r, op = .takeReprocess r → r.extra.length = r.numberOut - r.numberIn

def Step (op : PostOp) (s t : PostProcessor) : Prop := op.Fresh s ∧ op.exec s = some t

end PostOp

end Hal1Post
