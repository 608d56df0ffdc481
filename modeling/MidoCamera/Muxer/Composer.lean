import MidoCamera.PostProc.Types
import MidoCamera.Util.CmdThread

/-!
# The muxer

Two cameras deliver their JPEGs to the muxer, each from a thread of its own. While MPO is enabled
the muxer puts them into a queue for each camera, and a thread of its own takes one from each,
composes the two, and releases them. Otherwise a JPEG is delivered and released at once. The queues
are turned on when a picture is taken, and flushed, which turns them off, when it is cancelled and
when the preview stops.

A step is what is done under the lock of a queue, or between two such. A JPEG has the number of its
callback as its token. What was composed and released is recorded.
-/

namespace Muxer

open Loop SyncCmd
open PostProc (Queue)

/-- `cam_sync_type_t`. -/
inductive CamSyncType
  | main
  | aux
  deriving DecidableEq, Repr

/-- `cam_compose_jpeg_info_t`, and the token of the JPEG. `releaseCb` and `releaseData` say whether
there are these. -/
structure JpegInfo where
  token : ℕ
  frameIdx : ℕ
  releaseCb : Bool
  releaseData : Bool
  deriving DecidableEq, Repr

/-- Where the composing thread is: at its command, in the loop of `DO_NEXT_JOB`, in `composeMpo`
with its two JPEGs, or releasing what it took. -/
inductive Pc
  | idle
  | exited
  | isMainEmpty
  | isAuxEmpty
  | dequeueMain
  | dequeueAux (main : JpegInfo)
  | getMemory (main aux : JpegInfo)
  | compose (main aux : JpegInfo)
  | deliver (main aux : JpegInfo)
  | releaseMain (main : JpegInfo) (aux : Option JpegInfo)
  | releaseAux (aux : JpegInfo)
  deriving DecidableEq, Repr

/-- The JPEGs that the thread has. -/
def Pc.held : Pc → List JpegInfo
  | .idle | .exited | .isMainEmpty | .isAuxEmpty | .dequeueMain => []
  | .dequeueAux main => [main]
  | .getMemory main aux | .compose main aux | .deliver main aux => [main, aux]
  | .releaseMain main aux => main :: aux.toList
  | .releaseAux aux => [aux]

/-- `QCameraMuxer`, as far as it composes. `isActive` is the variable of the routine. A memory of
the memory callback is a number. Of the record, `handed` has the JPEGs of all callbacks, `released`
those whose release callback was called, `composed` the arguments of `composeMpo`, and `releasedMem`
the memories that were released. -/
structure QCameraMuxer where
  mainJpegQ : Queue JpegInfo := {}
  auxJpegQ : Queue JpegInfo := {}
  cmdQueue : List CameraCmdType := []
  isActive : Bool := false
  pc : Pc := .idle
  relCamMpoJpeg : Option ℕ := none
  nextMem : ℕ := 0
  handed : List JpegInfo := []
  released : List JpegInfo := []
  composed : List (JpegInfo × JpegInfo) := []
  releasedMem : List ℕ := []
  deriving DecidableEq, Repr

namespace QCameraMuxer

def release (s : QCameraMuxer) (info : JpegInfo) : QCameraMuxer :=
  { s with released := s.released ++ if info.releaseCb then [info] else [] }

def sendCmd (s : QCameraMuxer) (cmd : CameraCmdType) (malloc : Bool) : QCameraMuxer :=
  { s with cmdQueue := s.cmdQueue ++ if malloc then [cmd] else [] }

def queue (s : QCameraMuxer) : CamSyncType → Queue JpegInfo
  | .main => s.mainJpegQ
  | .aux => s.auxJpegQ

/-- A camera's queue is written. -/
def setQueue (s : QCameraMuxer) (camType : CamSyncType) (q : Queue JpegInfo) : QCameraMuxer :=
  match camType with
  | .main => { s with mainJpegQ := q }
  | .aux => { s with auxJpegQ := q }

/-- What `storeJpeg` meets: whether MPO is enabled, whether there is memory for the JPEG's entry and
for the node of the queue, and whether the command is sent. It is not where there is no memory for
it, or the queue is empty again. -/
structure Store where
  mpoEnabled : Bool
  malloc : Bool
  node : Bool
  cmd : Bool
  deriving DecidableEq, Repr

/-- `storeJpeg`. While MPO is off the JPEG is delivered, if it is the main camera's, and released.
-/
def storeJpeg (s : QCameraMuxer) (camType : CamSyncType) (info : JpegInfo) (m : Store) :
    QCameraMuxer :=
  if !m.mpoEnabled then s.release info
  else if !m.malloc then s
  else if m.node && (s.queue camType).active then
    (s.setQueue camType ((s.queue camType).enqueue info)).sendCmd .doNextJob m.cmd
  else s.release info

/-- `jpeg_data_callback`. There may be no data. -/
def jpegDataCallback (s : QCameraMuxer) (camType : CamSyncType) (frameIdx : ℕ)
    (data releaseCb releaseData : Bool) (m : Store) : QCameraMuxer :=
  let info : JpegInfo := ⟨s.handed.length, frameIdx, releaseCb, releaseData⟩
  let s := { s with handed := s.handed ++ [info] }
  if data then s.storeJpeg camType info m else s

/-- `releaseJpegInfo`, at the elements that a flush takes out. -/
def releaseJpegInfo (infos : List JpegInfo) : List JpegInfo :=
  infos.filter fun info => info.releaseCb && info.releaseData

/-- `flush` of a camera's queue. -/
def flush (s : QCameraMuxer) (camType : CamSyncType) : QCameraMuxer :=
  { s.setQueue camType (s.queue camType).flush with
    released := s.released ++ releaseJpegInfo (s.queue camType).flushed }

def releaseMpo (s : QCameraMuxer) : QCameraMuxer :=
  { s with relCamMpoJpeg := none, releasedMem := s.releasedMem ++ s.relCamMpoJpeg.toList }

/-! ## The thread -/

/-- The thread takes a command. -/
def getCmd (s : QCameraMuxer) (cmd : CameraCmdType) (rest : List CameraCmdType) : QCameraMuxer :=
  let s := { s with cmdQueue := rest }
  match cmd with
  | .startDataProc => { s with isActive := true }
  | .stopDataProc => { s with isActive := false }
  | .doNextJob => if s.isActive then { s with pc := .isMainEmpty } else s
  | .exit => { s with pc := .exited }
  | .none => s

/-- The thread goes on, where nothing but the muxer decides how. `aux_jpeg_node` is NULL where the
loop is entered. -/
def composeNext (s : QCameraMuxer) : Option QCameraMuxer :=
  match s.pc with
  | .isMainEmpty => some { s with pc := if s.mainJpegQ.isEmpty then .idle else .isAuxEmpty }
  | .isAuxEmpty => some { s with pc := if s.auxJpegQ.isEmpty then .idle else .dequeueMain }
  | .dequeueMain =>
    match s.mainJpegQ.dequeue with
    | (some main, q) => some { s with mainJpegQ := q, pc := .dequeueAux main }
    -- the queue was flushed meanwhile
    | (none, q) => some { s with mainJpegQ := q, pc := .isMainEmpty }
  | .dequeueAux main =>
    match s.auxJpegQ.dequeue with
    | (some aux, q) => some { s with
        auxJpegQ := q, pc := .getMemory main aux, composed := s.composed ++ [(main, aux)] }
    | (none, q) => some { s with auxJpegQ := q, pc := .releaseMain main none }
  | .deliver main aux => some { s.releaseMpo with pc := .releaseMain main (some aux) }
  | .releaseMain main none => some { s.release main with pc := .isMainEmpty }
  | .releaseMain main (some aux) => some { s.release main with pc := .releaseAux aux }
  | .releaseAux aux => some { s.release aux with pc := .isMainEmpty }
  | .idle | .exited | .getMemory _ _ | .compose _ _ => none

/-- `composeMpo`, up to the memory callback. Its result is stored whatever it is. -/
def getMemory (s : QCameraMuxer) (main aux : JpegInfo) (memory : Bool) : QCameraMuxer :=
  if memory then
    { s with relCamMpoJpeg := some s.nextMem, nextMem := s.nextMem + 1, pc := .compose main aux }
  else { s with relCamMpoJpeg := none, pc := .releaseMain main (some aux) }

/-- `composeMpo`, after `compose_mpo`. -/
def composeMpo (s : QCameraMuxer) (main aux : JpegInfo) (rc : ℤ) : QCameraMuxer :=
  { s with pc := if rc ≠ 0 then .releaseMain main (some aux) else .deliver main aux }

end QCameraMuxer

/-- What the cameras' threads, the application's and the composing thread do. `destroy` is the end
of the muxer, where the memory that is left is released. -/
inductive Op
  | jpegDataCallback (camType : CamSyncType) (frameIdx : ℕ) (data releaseCb releaseData : Bool)
      (m : QCameraMuxer.Store)
  | init (camType : CamSyncType)
  | flush (camType : CamSyncType)
  | send (cmd : CameraCmdType) (malloc : Bool)
  | destroy
  | getCmd
  | next
  | getMemory (memory : Bool)
  | composeMpo (rc : ℤ)
  deriving DecidableEq, Repr

/-- What a step does; none where it cannot be taken. -/
def Op.exec (s : QCameraMuxer) : Op → Option QCameraMuxer
  | .jpegDataCallback camType frameIdx data releaseCb releaseData m =>
    some (s.jpegDataCallback camType frameIdx data releaseCb releaseData m)
  | .init camType => some (s.setQueue camType (s.queue camType).init)
  | .flush camType => some (s.flush camType)
  | .send cmd malloc => some (s.sendCmd cmd malloc)
  | .destroy => some s.releaseMpo
  | .getCmd =>
    match s.pc, s.cmdQueue with
    | .idle, cmd :: rest => some (s.getCmd cmd rest)
    | _, _ => none
  | .next => s.composeNext
  | .getMemory memory =>
    match s.pc with
    | .getMemory main aux => some (s.getMemory main aux memory)
    | _ => none
  | .composeMpo rc =>
    match s.pc with
    | .compose main aux => some (s.composeMpo main aux rc)
    | _ => none

def Op.Step (op : Op) (s t : QCameraMuxer) : Prop := op.exec s = some t

/-! ## Outcomes -/

variable {s t : QCameraMuxer} {op : Op}

/-- The main JPEG that waits in the thread for its auxiliary one. -/
def Pc.waiting : Pc → List JpegInfo
  | .dequeueAux main => [main]
  | _ => []

/-- What a step does to the JPEGs and the memories. A step that only moves the thread, or is about
commands, is `moved`. -/
inductive Op.Outcome (s : QCameraMuxer) : Op → QCameraMuxer → Prop
  | dropped {camType : CamSyncType} {frameIdx : ℕ} {data releaseCb releaseData : Bool}
      {m : QCameraMuxer.Store} (why : data = false ∨ m.mpoEnabled = true ∧ m.malloc = false) :
      Outcome s (.jpegDataCallback camType frameIdx data releaseCb releaseData m) { s with
        handed := s.handed ++ [⟨s.handed.length, frameIdx, releaseCb, releaseData⟩] }
  | released {camType : CamSyncType} {frameIdx : ℕ} {releaseCb releaseData : Bool}
      {m : QCameraMuxer.Store} :
      Outcome s (.jpegDataCallback camType frameIdx true releaseCb releaseData m) { s with
        handed := s.handed ++ [⟨s.handed.length, frameIdx, releaseCb, releaseData⟩]
        released := s.released ++
          if releaseCb then [⟨s.handed.length, frameIdx, releaseCb, releaseData⟩] else [] }
  | storedMain {frameIdx : ℕ} {releaseCb releaseData : Bool} {m : QCameraMuxer.Store}
      (hm : m.mpoEnabled = true ∧ m.malloc = true ∧ m.node = true)
      (active : s.mainJpegQ.active = true) :
      Outcome s (.jpegDataCallback .main frameIdx true releaseCb releaseData m) { s with
        handed := s.handed ++ [⟨s.handed.length, frameIdx, releaseCb, releaseData⟩]
        mainJpegQ := { s.mainJpegQ with
          items := s.mainJpegQ.items ++ [⟨s.handed.length, frameIdx, releaseCb, releaseData⟩] }
        cmdQueue := s.cmdQueue ++ if m.cmd then [.doNextJob] else [] }
  | storedAux {frameIdx : ℕ} {releaseCb releaseData : Bool} {m : QCameraMuxer.Store}
      (hm : m.mpoEnabled = true ∧ m.malloc = true ∧ m.node = true)
      (active : s.auxJpegQ.active = true) :
      Outcome s (.jpegDataCallback .aux frameIdx true releaseCb releaseData m) { s with
        handed := s.handed ++ [⟨s.handed.length, frameIdx, releaseCb, releaseData⟩]
        auxJpegQ := { s.auxJpegQ with
          items := s.auxJpegQ.items ++ [⟨s.handed.length, frameIdx, releaseCb, releaseData⟩] }
        cmdQueue := s.cmdQueue ++ if m.cmd then [.doNextJob] else [] }
  | init {camType : CamSyncType} :
      Outcome s (.init camType) (s.setQueue camType (s.queue camType).init)
  | flush {camType : CamSyncType} : Outcome s (.flush camType) (s.flush camType)
  | destroy : Outcome s .destroy s.releaseMpo
  | moved {op : Op} {cmdQueue : List CameraCmdType} {isActive : Bool} {pc : Pc}
      (held : pc.held = s.pc.held) (waiting : pc.waiting = s.pc.waiting) :
      Outcome s op { s with cmdQueue := cmdQueue, isActive := isActive, pc := pc }
  | dequeueMain {main : JpegInfo} {q : Queue JpegInfo} (pc : s.pc = .dequeueMain)
      (items : s.mainJpegQ.items = main :: q.items) (active : q.active = s.mainJpegQ.active) :
      Outcome s .next { s with mainJpegQ := q, pc := .dequeueAux main }
  | dequeueAux {main aux : JpegInfo} {q : Queue JpegInfo} (pc : s.pc = .dequeueAux main)
      (items : s.auxJpegQ.items = aux :: q.items) (active : q.active = s.auxJpegQ.active) :
      Outcome s .next { s with
        auxJpegQ := q
        pc := .getMemory main aux
        composed := s.composed ++ [(main, aux)] }
  | noAux {main : JpegInfo} (pc : s.pc = .dequeueAux main)
      (empty : s.auxJpegQ.active = true → s.auxJpegQ.items = []) :
      Outcome s .next { s with pc := .releaseMain main none }
  | memory {main aux : JpegInfo} (pc : s.pc = .getMemory main aux) :
      Outcome s (.getMemory true) { s with
        relCamMpoJpeg := some s.nextMem, nextMem := s.nextMem + 1, pc := .compose main aux }
  | noMemory {main aux : JpegInfo} (pc : s.pc = .getMemory main aux) :
      Outcome s (.getMemory false) { s with
        relCamMpoJpeg := none, pc := .releaseMain main (some aux) }
  | deliver {main aux : JpegInfo} (pc : s.pc = .deliver main aux) :
      Outcome s .next { s.releaseMpo with pc := .releaseMain main (some aux) }
  | release {info : JpegInfo} {pc : Pc} (held : s.pc.held = info :: pc.held)
      (waiting : s.pc.waiting = []) (waiting' : pc.waiting = []) :
      Outcome s .next { s.release info with pc := pc }

theorem QCameraMuxer.jpegDataCallback_outcome (s : QCameraMuxer) (camType : CamSyncType) (frameIdx : ℕ)
    (data releaseCb releaseData : Bool) (m : QCameraMuxer.Store) :
    Op.Outcome s (.jpegDataCallback camType frameIdx data releaseCb releaseData m)
      (s.jpegDataCallback camType frameIdx data releaseCb releaseData m) := by
  unfold jpegDataCallback
  rcases data with _ | _
  · exact .dropped (.inl rfl)
  obtain ⟨mpoEnabled, malloc, node, cmd⟩ := m
  rcases mpoEnabled with _ | _
  · exact .released
  rcases malloc with _ | _
  · exact .dropped (.inr ⟨rfl, rfl⟩)
  rcases node with _ | _
  · exact .released
  -- the queue takes the JPEG, or it is off
  rcases s with ⟨⟨mainItems, mainActive⟩, ⟨auxItems, auxActive⟩⟩
  rcases camType with _ | _
  · rcases mainActive with _ | _
    · exact .released
    · exact .storedMain (m := ⟨true, true, true, cmd⟩) ⟨rfl, rfl, rfl⟩ rfl
  · rcases auxActive with _ | _
    · exact .released
    · exact .storedAux (m := ⟨true, true, true, cmd⟩) ⟨rfl, rfl, rfl⟩ rfl

theorem QCameraMuxer.getCmd_outcome {cmd : CameraCmdType} {rest : List CameraCmdType}
    (hpc : s.pc = .idle) : Op.Outcome s .getCmd (s.getCmd cmd rest) := by
  rcases s with ⟨mainJpegQ, auxJpegQ, cmdQueue, isActive, pc⟩
  cases hpc
  rcases cmd with _ | _ | _ | _ | _
  · exact .moved rfl rfl
  · exact .moved rfl rfl
  · exact .moved rfl rfl
  · rcases isActive with _ | _
    · exact .moved rfl rfl
    · exact .moved rfl rfl
  · exact .moved rfl rfl

theorem QCameraMuxer.composeNext_outcome (h : s.composeNext = some t) : Op.Outcome s .next t := by
  unfold composeNext at h
  rcases hpc : s.pc with _ | _ | _ | _ | _ | main | _ | _ | ⟨main, aux⟩ | ⟨main, _ | aux⟩ | aux <;>
    simp only [hpc] at h <;> try cases h
  · exact .moved (by split <;> simp [hpc, Pc.held]) (by split <;> simp [hpc, Pc.waiting])
  · exact .moved (by split <;> simp [hpc, Pc.held]) (by split <;> simp [hpc, Pc.waiting])
  · rcases hq : s.mainJpegQ.dequeue with ⟨_ | main, q⟩ <;> simp only [hq] at h <;> cases h
    · obtain ⟨rfl, -⟩ := Queue.dequeue_none hq
      exact .moved (by simp [hpc, Pc.held]) (by simp [hpc, Pc.waiting])
    · obtain ⟨hactive, hitems, hactive'⟩ := Queue.dequeue_some hq
      exact .dequeueMain hpc hitems (hactive'.trans hactive.symm)
  · rcases hq : s.auxJpegQ.dequeue with ⟨_ | aux, q⟩ <;> simp only [hq] at h <;> cases h
    · obtain ⟨rfl, hempty⟩ := Queue.dequeue_none hq
      exact .noAux hpc hempty
    · obtain ⟨hactive, hitems, hactive'⟩ := Queue.dequeue_some hq
      exact .dequeueAux hpc hitems (hactive'.trans hactive.symm)
  · exact .deliver hpc
  · exact .release (by simp [hpc, Pc.held]) (by simp [hpc, Pc.waiting]) rfl
  · exact .release (by simp [hpc, Pc.held]) (by simp [hpc, Pc.waiting]) rfl
  · exact .release (by simp [hpc, Pc.held]) (by simp [hpc, Pc.waiting]) rfl

theorem Op.outcome (h : op.Step s t) : Outcome s op t := by
  rcases op with ⟨camType, frameIdx, data, releaseCb, releaseData, m⟩ | camType | camType |
    ⟨cmd, malloc⟩ | _ | _ | _ | memory | rc
  · cases h
    exact s.jpegDataCallback_outcome camType frameIdx data releaseCb releaseData m
  · cases h
    exact .init
  · cases h
    exact .flush
  · cases h
    exact .moved rfl rfl
  · cases h
    exact .destroy
  · simp only [Op.Step, Op.exec] at h
    rcases hpc : s.pc <;> simp only [hpc] at h <;> try cases h
    rcases hcmds : s.cmdQueue with _ | ⟨cmd, rest⟩ <;> simp only [hcmds] at h <;> cases h
    exact s.getCmd_outcome hpc
  · exact QCameraMuxer.composeNext_outcome h
  · simp only [Op.Step, Op.exec] at h
    rcases hpc : s.pc <;> simp only [hpc] at h <;> try cases h
    rcases memory with _ | _
    · exact .noMemory hpc
    · exact .memory hpc
  · simp only [Op.Step, Op.exec] at h
    rcases hpc : s.pc <;> simp only [hpc] at h <;> try cases h
    exact .moved (by split <;> simp [hpc, Pc.held]) (by split <;> simp [hpc, Pc.waiting])

end Muxer
