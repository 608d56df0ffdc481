import MidoCamera.Jpeg.Types
import MidoCamera.Stack.Handles

/-!
# Clients and sessions of the JPEG object

The calls that create and destroy clients and sessions. They are made under `g_intf_lock`, one at a
time, and each is one step; those that take `job_lock` wait for the job manager to release it.

`mm_jpeg_close` zeroes the slot of the client with its sessions. It aborts the sessions that are
active, but does not destroy them as `mm_jpeg_destroy_session` does.
-/

namespace MmJpeg

open Loop

/-- `mm_jpeg_util_generate_handler`, written as that of the camera stack. -/
def generateHandler (index count : ℕ) : ℕ × ℕ := MmCamera.generateHandler index count

def getIndexByHandler (handler : ℕ) : ℕ := handler &&& 0xff

/-- What OMX answers for a session that is created: whether `OMX_GetHandle` succeeds, and whether
`mm_jpeg_session_configure` does. -/
structure SessionOutcome where
  handle : Bool := true
  configure : Bool := true
  deriving DecidableEq, Repr

namespace JpegObj

/-- `mm_jpeg_init`, where it succeeds: a work buffer is there from the start, unless the buffers of
reprocessing are reused. -/
def init (concurrent : ℕ) (reuse : Bool) : JpegObj :=
  { concurrent := concurrent
    reuseReprocBuffer := reuse
    workBufCnt := if reuse then 0 else 1 }

/-! ## Clients -/

/-- The slots of sessions of a client are zeroed. -/
def zeroSessions (s : JpegObj) (idx : ℕ) : JpegObj :=
  { s with session := fun r =>
      if r.clientIdx = idx ∧ r.sessionIdx < maxSession then {} else s.session r }

/-- `mm_jpeg_new_client`, after the generation `count` of handles: the handle, or 0. -/
def newClient (s : JpegObj) (count : ℕ) : ℕ × JpegObj :=
  if (maxJpegClientNum : ℤ) ≤ s.numClients then (0, s)
  else
    match (List.range maxJpegClientNum).find? fun idx => !(s.client idx).isUsed with
    | some idx =>
      let clientHdl := (generateHandler idx count).1
      let s := s.zeroSessions idx
      (clientHdl, { s with
        client := Function.update s.client idx ⟨true, clientHdl⟩
        numClients := s.numClients + 1 })
    | none => (0, s)

/-- `mm_jpeg_session_abort`, with the sessions linked after it. `sent` says whether the component of
a session takes `OMX_SendCommand`. -/
def sessionAbort (s : JpegObj) (sent : SessionPtr → Bool) : ℕ → SessionPtr → JpegObj
  | 0, _ => s
  | fuel + 1, r =>
    let p := s.session r
    if p.abortState ≠ .none then s
    else if p.encoding && !sent r then s.setSession r { p with abortState := .init }
    else
      let s := s.setSession r { p with abortState := .done }
      match p.nextSession with
      | some next => s.sessionAbort sent fuel next
      | none => s

/-- The sessions of a client and their number bound every chain of sessions. -/
def fuel : ℕ := maxSession * maxJpegClientNum

/-- All jobs of a session id are taken off both queues. -/
def removeJobs (s : JpegObj) (sessionId : ℕ) : JpegObj :=
  let hit : JobNode → Bool := fun j => j.encodeJob.sessionId == sessionId
  { s with
    todo := s.todo.filter fun j => !hit j
    ongoing := s.ongoing.filter fun j => !hit j
    removed := s.removed ++ ((s.todo.filter hit).map JobNode.number ++
      (s.ongoing.filter hit).map JobNode.number) }

def destroySessionUnlocked (s : JpegObj) (sent : SessionPtr → Bool) (r : SessionPtr) : JpegObj :=
  (s.removeJobs (s.session r).sessionId).sessionAbort sent fuel r

/-- The sessions of a client that are active are aborted. -/
def abortSessions (s : JpegObj) (clntIdx : ℕ) (sent : SessionPtr → Bool) : JpegObj :=
  (List.range maxSession).foldl (fun s i =>
    if (s.session ⟨clntIdx, i⟩).active then s.destroySessionUnlocked sent ⟨clntIdx, i⟩ else s) s

/-- `mm_jpeg_close`: the return code, and what it leaves. -/
def close (s : JpegObj) (clientHdl : ℕ) (sent : SessionPtr → Bool) : ℤ × JpegObj :=
  let clntIdx := getIndexByHandler clientHdl
  if maxJpegClientNum ≤ clntIdx then (-1, s)
  else
    let s := (s.abortSessions clntIdx sent).zeroSessions clntIdx
    (0, { s with client := Function.update s.client clntIdx {} })

/-! ## Sessions -/

/-- `mm_jpeg_alloc_workbuffer`: the return code, which is the index of the buffer it allocated last,
and the number of buffers there are. -/
def allocWorkbuffer (s : JpegObj) (workBufsNeed : ℕ) (ok : Bool) : ℤ × JpegObj :=
  if s.workBufCnt < workBufsNeed then
    if ok then ((workBufsNeed - 1 : ℕ), { s with workBufCnt := workBufsNeed })
    else (-1, { s with workBufCnt := 0 })
  else (0, s)

def getNewSessionIdx (s : JpegObj) (clntIdx : ℕ) : Option SessionPtr :=
  ((List.range maxSession).find? fun i => !(s.session ⟨clntIdx, i⟩).active).map fun i => ⟨clntIdx, i⟩

/-- `mm_jpeg_session_create`: whether `OMX_GetHandle` succeeds is given. -/
def sessionCreate (s : JpegObj) (r : SessionPtr) (ok : Bool) : JpegObj :=
  let p := { s.session r with
    abortState := .none
    config := false
    autoOutBuf := false
    omxHandle := ok
    filling := false
    job := 0 }
  let s := s.setSession r p
  if ok then { s with numSessions := (s.numSessions + 1) % 2 ^ 32 } else s

/-- The session at an entry gets its id and its queues, and is queued as idle. -/
def nameSession (s : JpegObj) (r : SessionPtr) (q : ℕ) (mem : Mem) : Option JpegObj :=
  let sessionId := (jobIdMagicval <<< 24) ||| (r.sessionIdx <<< 8) ||| r.clientIdx
  let s := s.setSession r { s.session r with
    sessionId := sessionId
    sessionHandleQ := some q
    outBufQ := some q }
  s.enqHandle (some q) r mem.handle

/-- The session is configured if no session is. -/
def configureFirst (s : JpegObj) (r : SessionPtr) (ok : Bool) : Bool × JpegObj :=
  if (s.session r).config = false ∧ s.inprogress = none then
    if ok then
      (true, { s.setSession r { s.session r with config := true } with inprogress := some r })
    else (false, s)
  else (true, s)

/-- A session is linked behind the one before it. -/
def link (s : JpegObj) (prev : Option SessionPtr) (r : SessionPtr) : JpegObj :=
  match prev with
  | some p => s.setSession p { s.session p with nextSession := some r }
  | none => s

/-- The entry of a session is taken, linked, and gets the parameters. -/
def takeEntry (s : JpegObj) (prev : Option SessionPtr) (r : SessionPtr) (params : EncodeParams) :
    JpegObj :=
  let s := s.setSession r { s.session r with active := true, nextSession := none, params := params }
  s.link prev r

/-- The loop of `mm_jpeg_create_session` over the sessions of the group, the first of which gives
the id that is returned. The return code is 0 also where the loop ends before all sessions are
created, unless it is `mm_jpeg_session_configure` that fails. -/
def createLoop (clntIdx : ℕ) (params : EncodeParams) (q : ℕ) (mem : Mem)
    (out : ℕ → SessionOutcome) : ℕ → ℕ → Option SessionPtr → ℕ → JpegObj →
      Option (Bool × ℕ × JpegObj)
  | 0, _, _, id, s => do
    -- the loop is through: the output buffers are queued
    let l := if mem.out then (List.range params.numDstBufs).map (· + 1) else []
    some (true, id, { s with outBufQs := Function.update s.outBufQs q (some l) })
  | n + 1, i, prev, id, s =>
    match s.getNewSessionIdx clntIdx with
    | none => some (true, id, s)
    | some r =>
      let s := (s.takeEntry prev r params).sessionCreate r (out i).handle
      if (out i).handle then do
        let s ← s.nameSession r q mem
        let id := if id = 0 then (s.session r).sessionId else id
        let (ok, s) := s.configureFirst r (out i).configure
        if ok then s.createLoop clntIdx params q mem out n (i + 1) (some r) id
        else some (false, id, s)
      else some (true, id, s.setSession r { s.session r with active := false })

/-- The two queues of a group are allocated and initialized. -/
def newQueues (s : JpegObj) : JpegObj :=
  { s with
    handleQs := Function.update s.handleQs s.nextQ (some [])
    outBufQs := Function.update s.outBufQs s.nextQ (some [])
    nextQ := s.nextQ + 1 }

/-- The work buffers of a group: the return code, and what it leaves. -/
def groupWorkbuffer (s : JpegObj) (n : ℕ) (ok : Bool) : ℤ × JpegObj :=
  if s.reuseReprocBuffer then (0, s) else s.allocWorkbuffer (min n s.concurrent) ok

/-- `mm_jpeg_create_session`, once its arguments are in order. A group has been created when the
return code is 0 and the session id is not. -/
def createGroup (s : JpegObj) (clntIdx : ℕ) (params : EncodeParams) (mem : Mem)
    (out : ℕ → SessionOutcome) : Option JpegObj := do
  let n := if params.burstMode then s.concurrent else 1
  let (rc, s) := s.groupWorkbuffer n mem.work
  if rc = -1 ∨ mem.node = false then some s
  else
    let q := s.nextQ
    let (ok, id, s) ← s.newQueues.createLoop clntIdx params q mem out n 0 none 0
    some (if ok && id ≠ 0 then { s with groups := (q, params.numDstBufs) :: s.groups } else s)

def createSession (s : JpegObj) (clientHdl : ℕ) (params : EncodeParams) (mem : Mem)
    (out : ℕ → SessionOutcome) : Option JpegObj :=
  let clntIdx := getIndexByHandler clientHdl
  if maxBuf < params.numSrcBufs ∨ maxBuf < params.numDstBufs then some s
  else if maxJpegClientNum ≤ clntIdx then some s
  else s.createGroup clntIdx params mem out

/-- The sessions from one on, along the links. -/
def chain (s : JpegObj) : ℕ → SessionPtr → List SessionPtr
  | 0, _ => []
  | fuel + 1, r =>
    r :: match (s.session r).nextSession with
      | some next => s.chain fuel next
      | none => []

/-- `mm_jpeg_session_destroy` of one session. -/
def sessionDestroyOne (s : JpegObj) (r : SessionPtr) : JpegObj :=
  let s := { s.setSession r { s.session r with config := false, omxHandle := false } with
    inprogress := if s.inprogress = some r then none else s.inprogress }
  { s with numSessions := (s.numSessions + 2 ^ 32 - 1) % 2 ^ 32 }

/-- `mm_jpeg_session_destroy`, with the sessions linked after it: a session without a handle ends
it. -/
def sessionDestroy (s : JpegObj) : List SessionPtr → JpegObj
  | [] => s
  | r :: rest => if (s.session r).omxHandle then (s.sessionDestroyOne r).sessionDestroy rest else s

/-- `mm_jpeg_remove_session_idx`, for each session of a chain. -/
def removeSessionIdx (s : JpegObj) : List SessionPtr → JpegObj
  | [] => s
  | r :: rest =>
    let a := sessionAt (s.session r).sessionId
    (s.setSession a { s.session a with active := false }).removeSessionIdx rest

/-- The sessions from one on are aborted, destroyed and removed. -/
def tearDown (s : JpegObj) (r : SessionPtr) (sent : SessionPtr → Bool) : JpegObj :=
  let s := s.destroySessionUnlocked sent r
  (s.sessionDestroy (s.chain fuel r)).removeSessionIdx (s.chain fuel r)

/-- The queues of a group are emptied and freed, and the manager is woken up. Without its queues,
the call crashes. -/
def freeQueues (s : JpegObj) (r : SessionPtr) : Option JpegObj := do
  let q ← (s.session r).sessionHandleQ
  let _ ← s.handleQs q
  let q' ← (s.session r).outBufQ
  let _ ← s.outBufQs q'
  let s := { s with
    handleQs := Function.update s.handleQs q none
    outBufQs := Function.update s.outBufQs q' none
    groups := s.groups.filter fun g => g.1 ≠ q
    jobSem := s.jobSem + 1 }
  some (s.setSession r { s.session r with sessionHandleQ := none, outBufQ := none })

def destroySession (s : JpegObj) (r : SessionPtr) (sent : SessionPtr → Bool) : Option JpegObj :=
  (s.tearDown r sent).freeQueues r

def destroySessionById (s : JpegObj) (sessionId : ℕ) (sent : SessionPtr → Bool) : Option JpegObj :=
  match getSession sessionId with
  | some r => s.destroySession r sent
  | none => some s

end JpegObj

end MmJpeg
