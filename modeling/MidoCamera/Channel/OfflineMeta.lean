import Mathlib.Data.List.Find
import MidoCamera.PostProc.Buffers
import MidoCamera.Channel.StreamMem
import MidoCamera.Library.StampedPool

/-!
# The metadata buffers of input reprocessing

A request with an input buffer takes a metadata buffer from the free list of the channel, and marks it
with its frame number. The buffer goes with the request through the post-processor, and when the
reprocessed frame, or its JPEG, is given back, the buffer that has the mark is put into the list again.
A request that is dropped on its way, or completed under the number of another one, keeps its buffer.
-/

namespace PostProc

open Loop List PostProcessor Queue
open StreamBufs (StreamMem)

/-- Where the request thread is with a request. -/
inductive Requesting
  | idle
  | set (frame : FwkInput)
  | process (frame : FwkInput)
  deriving DecidableEq

/-- A channel: its post-processor, `mOfflineMetaMemory` with its free list, `mMemory`, where the
request thread is, and the frame numbers that were requested. -/
structure InputChannel where
  post : PostProcessor
  offlineMeta : StreamMem
  freeOfflineMeta : List ℕ
  memory : StreamMem
  request : Requesting := .idle
  used : List ℕ := []

/-- What the request thread does, and what the threads of the post-processor do. -/
inductive InputOp
  | begin (frame : FwkInput) (outBufIndex : Option ℕ)
  | setFwkInputPPData (ok : Bool)
  | processData (malloc : Option ℕ)
  | post (op : PostOp)

/-- `queueJpegSetting`, of the picture channel: there is an output buffer for the JPEG settings. -/
def PostProcessor.queueJpegSetting (s : PostProcessor) (outBufIndex : Option ℕ) (frameNumber : ℕ) :
    PostProcessor :=
  match outBufIndex with
  | some index => s.processJpegSettingData ⟨index, frameNumber⟩
  | none => s

namespace InputChannel

/-- `setFwkInputPPData`; `ok` is that of the input buffer. `getBufDef` fails if nothing is allocated.
-/
def setFwkInputPPData (c : InputChannel) (frame : FwkInput) (ok : Bool) : InputChannel :=
  if ok then
    match c.freeOfflineMeta with
    | [] => { c with request := .idle }
    | metaBufIdx :: rest =>
      { c with
        freeOfflineMeta := rest
        offlineMeta := (c.offlineMeta.markFrameNumber metaBufIdx (.ofNat frame.frameNumber)).1
        request := if c.offlineMeta.heap.bufferCount = 0 then .idle else .process frame }
  else { c with request := .idle }

/-- `releaseOfflineMemory`, of the metadata. -/
def releaseOfflineMemory (c : InputChannel) (resultFrameNumber : UInt32) : InputChannel :=
  match c.offlineMeta.getHeapBufferIndex resultFrameNumber with
  | some metaBufIndex => { c with freeOfflineMeta := c.freeOfflineMeta ++ [metaBufIndex] }
  | none => c

/-- `reprocessCbRoutine` of the YUV channel: not if a heap buffer was the input. -/
def reprocessCbRoutine (c : InputChannel) (resultFrameNumber : UInt32) : InputChannel :=
  if c.memory.getHeapBufferIndex resultFrameNumber = none then
    c.releaseOfflineMemory resultFrameNumber
  else c

/-- `jpegEvtHandle` of the picture channel: the number is that of the output buffer, which the request
of the settings has marked. -/
def jpegEvtHandle (c : InputChannel) (job : JpegData) : InputChannel :=
  if job.fwkFrame.isSome || job.fwkSrcBuffer.isSome then
    c.releaseOfflineMemory (.ofNat job.jpegSettings.request)
  else c

/-- What the channel does when the post-processor has a result. -/
def complete (c : InputChannel) : PostOp → InputChannel
  | .processed .. =>
    match c.post.reproc with
    | none => c
    | some r =>
      if r.reprocessType = .jpeg then c
      else match r.submitted with
        | [] => c
        | n :: _ => c.reprocessCbRoutine (.ofNat n)
  | .jpegDone addr =>
    match c.post.completing.find? fun x => x.job.addr == addr with
    | none => c
    | some x => c.jpegEvtHandle x.job
  | _ => c

end InputChannel

/-- What is done for frames of the camera, and to start, stop and flush. -/
def PostOp.ofCamera : PostOp → Bool
  | .queueBuf .. | .streamCb .. | .input .. | .metadata _ | .ppReproc .. | .flushTake | .flushRelease
  | .start .. | .stop | .stopChannel => true
  | _ => false

def PostOp.ofRequest : PostOp → Bool
  | .jpegSetting _ | .fwkInput .. => true
  | _ => false

/-- **The steps.** The frame numbers of the requests are distinct. -/
def InputOp.exec (c : InputChannel) : InputOp → Option InputChannel
  | .begin frame outBufIndex =>
    if c.request = .idle ∧ frame.frameNumber ∉ c.used ∧ frame.frameNumber < 2 ^ 32 then
      some { c with
        request := .set frame
        used := c.used ++ [frame.frameNumber]
        post := c.post.queueJpegSetting outBufIndex frame.frameNumber }
    else none
  | .setFwkInputPPData ok =>
    match c.request with
    | .set frame => some (c.setFwkInputPPData frame ok)
    | _ => none
  | .processData malloc =>
    match c.request with
    | .process frame => some { c with post := c.post.processFwk frame malloc, request := .idle }
    | _ => none
  | .post op =>
    if op.ofCamera || op.ofRequest then none
    else (op.exec c.post).map fun post => { c.complete op with post := post }

/-- A channel that is started, with its metadata buffers allocated. -/
def InputChannel.start (reprocessType : Option ReprocessType) (count : ℕ) (memory : StreamMem) :
    InputChannel where
  post := .started reprocessType
  offlineMeta :=
    { maxHeapBuffers := count
      heap := { bufferCount := count, memInfo := fun i => ⟨0, 0, i < count⟩ } }
  freeOfflineMeta := List.range count
  memory := memory

/-! ## What is to be conserved -/

def JpegData.fwk (job : JpegData) : Option FwkInput := job.fwkFrame <|> job.fwkSrcBuffer

/-- The requests whose frames a post-processing job, or a JPEG job, is of. -/
def PpData.fwkNumbers (job : PpData) : List ℕ := job.fwkSrcFrame.toList.map FwkInput.frameNumber

def JpegData.fwkNumbers (job : JpegData) : List ℕ := job.fwk.toList.map FwkInput.frameNumber

/-- The requests whose frames the post-processor has. -/
def PostProcessor.fwkNumbers (s : PostProcessor) : List ℕ :=
  s.inputFWKPPQ.items.map FwkInput.frameNumber ++ s.ongoingPPQ.items.flatMap PpData.fwkNumbers ++
    s.landing.flatMap JpegData.fwkNumbers ++ s.inputJpegQ.items.flatMap JpegData.fwkNumbers ++
    s.ongoingJpegQ.items.flatMap JpegData.fwkNumbers ++
    s.completing.flatMap fun x => x.job.fwkNumbers

/-- The request that has a metadata buffer and is not yet with the post-processor. -/
def Requesting.numbers : Requesting → List ℕ
  | .process frame => [frame.frameNumber]
  | .idle | .set _ => []

def InputChannel.underWay (c : InputChannel) : List ℕ := c.request.numbers ++ c.post.fwkNumbers

def frameMark (n : ℕ) : Int32 := (UInt32.ofNat n).toInt32

def InputChannel.Assigned (c : InputChannel) (i n : ℕ) : Prop :=
  c.offlineMeta.heap.currentFrameNumbers i = frameMark n

/-- **The metadata buffers are conserved**: each is in the free list once, or assigned to one request
that is under way; each of these has one; and so the list is empty only if as many requests are under
way as there are buffers. -/
structure InputChannel.Conserved (c : InputChannel) (count : ℕ) : Prop where
  free : c.freeOfflineMeta.Nodup ∧ ∀ i ∈ c.freeOfflineMeta, i < count
  assigned : ∀ i < count, i ∉ c.freeOfflineMeta → ∃! n, n ∈ c.underWay ∧ c.Assigned i n
  request : ∀ n ∈ c.underWay, ∃! i, (i < count ∧ i ∉ c.freeOfflineMeta) ∧ c.Assigned i n
  distinct : c.underWay.Nodup
  length : c.freeOfflineMeta.length + c.underWay.length = count

/-- **No request is dropped**, or completed under another number: there is memory, there are settings
and there is a reprocess channel, the reprocess is submitted and the encoding started, and a job has
the settings of its own request; and no heap buffer has the number of a request whose reprocess is
completed. -/
def InputOp.Keeps (c : InputChannel) : InputOp → Prop
  | .begin .. | .setFwkInputPPData _ => True
  | .processData malloc => ∀ frame, c.request = .process frame → needsReprocess frame = false →
    malloc.isSome ∧ c.post.jpegSettingsQ.items ≠ []
  | .post (.takeFwk malloc) => c.post.inputFWKPPQ.items ≠ [] → malloc.isSome ∧ c.post.reproc.isSome
  | .post (.fwkReproc out) => out = .submitted
  | .post (.processed _ malloc) => ∀ r ∈ c.post.reproc,
    if r.reprocessType = .jpeg then
      malloc.isSome ∧ ∀ job ∈ c.post.ongoingPPQ.items.head?, job.jpegSettings.isSome
    else ∀ n ∈ r.submitted.head?, c.memory.getHeapBufferIndex (.ofNat n) = none
  | .post .encodeFailed => False
  | .post (.jpegDone addr) =>
    ∀ x ∈ c.post.completing.find? (fun x => x.job.addr == addr),
      ∀ frame ∈ x.job.fwk, x.job.jpegSettings.request = frame.frameNumber
  | .post _ => True

/-! ## The post-processor at work -/

/-- A post-processor is at work, with frames of the framework only. -/
structure Working (s : PostProcessor) : Prop where
  control : Control s
  ordered : Ordered s
  active : s.isActive = true
  idle : s.ctl = .idle
  camera : s.inputPPQ.items = []
  jobs : ∀ job ∈ s.ongoingPPQ.items, job.srcFrame = none ∧ job.fwkSrcFrame.isSome

namespace Working

variable {s t : PostProcessor} {op : PostOp}

theorem started (reprocessType : Option ReprocessType) : Working (.started reprocessType) where
  control := started_control reprocessType
  ordered := started_ordered reprocessType
  active := rfl
  idle := rfl
  camera := rfl
  jobs := nofun

theorem notTaken (hs : Working s) {r : Reproc} {request : ℕ} {rest : List ℕ}
    (channel : s.reproc = some r) (submitted : r.submitted = request :: rest)
    (ongoing : s.ongoingPPQ.dequeue.1 = none) : False := by
  have hsub := (submitted_some channel).trans submitted
  have hoff := hs.ordered.notTaken hs.control hsub ongoing
  exact absurd (hs.active.symm.trans hoff) nofun

theorem step (hs : Working s) (hop : op.ofCamera = false) (h : op.exec s = some t) : Working t := by
  have hcontrol := hs.control.step h
  have hordered := hs.ordered.step hs.control h fun out hout => by
    rw [hout] at hop
    cases hop
  cases PostOp.outcome h with
  | queueFree | queueNew | streamCb | input | metadata | flushTake | flushRelease | startNoReproc
  | startReproc | startFailed | stop | stopChannel | ppReprocNone | ppReproc | ppReprocFailed
  | overrideFailed => cases hop
  | startDataProc _ hcmds =>
    have := hs.control.starting_of_mem (by simp [hcmds])
    simp [hs.idle] at this
  | stopDataProc _ hcmds =>
    have := hs.control.stopping_of_mem (by simp [hcmds])
    simp [hs.idle] at this
  | giveBack _ _ hoff => simp [hs.active] at hoff
  | pairNoJob _ hpp => exact absurd hs.camera hpp
  | pairReproc _ hq | pairJpeg _ hq | pairCleaned _ _ hq =>
    have := (dequeue_some hq).2.1
    simp [hs.camera] at this
  | processedLost _ _ _ _ hq | processedJob _ _ _ _ hq | reprocessedJob _ _ _ hq =>
    refine ⟨hcontrol, hordered, hs.active, hs.idle, hs.camera, fun job hjob => hs.jobs job ?_⟩
    rw [(dequeue_some hq).2.1]
    exact mem_cons_of_mem _ hjob
  | takeFwk _ _ _ hjob =>
    refine ⟨hcontrol, hordered, hs.active, hs.idle, hs.camera, fun job hmem => ?_⟩
    rcases mem_enqueue hmem with hmem | rfl
    · exact hs.jobs job hmem
    · rw [hjob]
      exact ⟨rfl, rfl⟩
  | fwkReprocFailed =>
    exact ⟨hcontrol, hordered, hs.active, hs.idle, hs.camera,
      fun job hmem => hs.jobs job (mem_dequeueLast hmem)⟩
  | _ => exact ⟨hcontrol, hordered, hs.active, hs.idle, hs.camera, hs.jobs⟩

end Working

/-! ## The requests under way -/

/-- The requests that a step completes. -/
def PostProcessor.completes (s : PostProcessor) : PostOp → List ℕ
  | .processed .. =>
    match s.reproc with
    | none => []
    | some r => if r.reprocessType = .jpeg then [] else r.submitted.take 1
  | .jpegDone addr =>
    match s.completing.find? fun x => x.job.addr == addr with
    | none => []
    | some x => x.job.fwkNumbers
  | _ => []

theorem PostProcessor.count_fwkNumbers (s : PostProcessor) (n : ℕ) :
    s.fwkNumbers.count n = tally (fun frame => [frame.frameNumber]) n s.inputFWKPPQ.items +
      tally PpData.fwkNumbers n s.ongoingPPQ.items + tally JpegData.fwkNumbers n s.landing +
      tally JpegData.fwkNumbers n s.inputJpegQ.items +
      tally JpegData.fwkNumbers n s.ongoingJpegQ.items +
      tally (fun x => x.job.fwkNumbers) n s.completing := by
  simp only [fwkNumbers, count_append, tally_map]
  rfl

theorem JpegData.fwkNumbers_jpegJob (job : PpData) (frame : SuperBuf) (x : JpegSettings) (addr : ℕ) :
    (PostProcessor.jpegJob job frame x addr).fwkNumbers = job.fwkNumbers := by
  simp [fwkNumbers, fwk, jpegJob, PpData.fwkNumbers]

/-- **The requests that are under way are those that were, but for the ones that are completed.** -/
theorem Working.fwkNumbers_step {c : InputChannel} {op : PostOp} {t : PostProcessor}
    (hs : Working c.post) (hcamera : op.ofCamera = false) (hrequest : op.ofRequest = false)
    (keeps : (InputOp.post op).Keeps c) (h : op.exec c.post = some t) (n : ℕ) :
    t.fwkNumbers.count n + (c.post.completes op).count n = c.post.fwkNumbers.count n := by
  have hon := hs.control.on hs.active
  simp only [count_fwkNumbers]
  cases PostOp.outcome h with
  | queueFree | queueNew | streamCb | input | metadata | flushTake | flushRelease | startNoReproc
  | startReproc | startFailed | stop | stopChannel | ppReprocNone | ppReproc | ppReprocFailed
  | overrideFailed => cases hcamera
  | jpegSetting | fwkWaits | fwkNoSettings | fwkNoMemory | fwkJob => cases hrequest
  | startDataProc _ hcmds =>
    have := hs.control.starting_of_mem (by simp [hcmds])
    simp [hs.idle] at this
  | stopDataProc _ hcmds =>
    have := hs.control.stopping_of_mem (by simp [hcmds])
    simp [hs.idle] at this
  | giveBack _ _ hoff => simp [hs.active] at hoff
  | pairNoJob _ hpp => exact absurd hs.camera hpp
  | pairReproc _ hq | pairJpeg _ hq | pairCleaned _ _ hq =>
    have := (dequeue_some hq).2.1
    simp [hs.camera] at this
  | callbackNone | send | doNextJob | noJpeg | startJob | storeJobId | noFwk | noPair | fwkReproc
  | fwkReprocNone | ppDone => rfl
  | processedNone hr _ _ hsub hnone | reprocessedNone hr _ hsub hnone =>
    exact (hs.notTaken hr hsub hnone).elim
  | processedLost hr htype _ _ hq hlost =>
    obtain ⟨hmalloc, hsettings⟩ := if_pos htype ▸ keeps _ hr
    have hitems := (dequeue_some hq).2.1
    have hx := hsettings _ (by rw [hitems]; rfl)
    have hfwk := (hs.jobs _ (by rw [hitems]; exact mem_cons_self)).2
    rcases hlost with ⟨-, hnone⟩ | hnone | hnone <;> simp [hnone] at hmalloc hx hfwk
  | @processedJob r addr idx request a _ _ job x _ hr htype _ _ hq =>
    have htaken := tally_dequeue PpData.fwkNumbers n hq
    have hsame := JpegData.fwkNumbers_jpegJob job ⟨addr, .reprocessed, idx, request⟩ x a
    have hnone : c.post.completes (.processed addr (some a)) = [] := by
      simp [completes, hr, htype]
    simp only [htaken, hnone, tally_append, tally_cons, tally_nil, hsame, count_nil]
    omega
  | @reprocessedJob r addr request malloc rest job _ hr htype hsub hq =>
    have htaken := tally_dequeue PpData.fwkNumbers n hq
    -- the result is the first ongoing job's
    have hsub' := (submitted_some hr).trans hsub
    have hfirst := (hs.ordered.taken hs.control hsub' hq).1
    obtain ⟨hframe, hfwk⟩ := hs.jobs job (by
      rw [(dequeue_some hq).2.1]
      exact mem_cons_self)
    obtain ⟨frame, hfwk⟩ := Option.isSome_iff_exists.mp hfwk
    have hnumber : job.fwkNumbers = [request] := by
      rw [← hfirst]
      simp [PpData.fwkNumbers, PpData.request, hframe, hfwk]
    have hdone : c.post.completes (.processed addr malloc) = [request] := by
      simp [completes, hr, htype, hsub]
    simp only [htaken, hdone, hnumber]
    omega
  | @land addr job find =>
    have htaken := tally_takeOut (f := JpegData.fwkNumbers) (k := n) find
    have hin := tally_enqueue JpegData.fwkNumbers n hon.2.2.2.2 job
    have hnone : c.post.completes (.land addr) = [] := rfl
    simp only [hin, hnone, count_nil]
    omega
  | @callback jobId addr job q _ hq =>
    have htaken := tally_dequeue JpegData.fwkNumbers n hq
    have hnone : c.post.completes (.jpegCallback jobId) = [] := rfl
    simp only [htaken, hnone, tally_append, tally_cons, tally_nil, count_nil]
    omega
  | @jpegDone addr x find =>
    have htaken := tally_takeOut (f := fun x : Completion => x.job.fwkNumbers) (k := n) find
    have hdone : c.post.completes (.jpegDone addr) = x.job.fwkNumbers := by
      simp [completes, find]
    simp only [hdone]
    omega
  | @takeJpeg job _ _ _ hq =>
    have htaken := tally_dequeue JpegData.fwkNumbers n hq
    have hin := tally_enqueue JpegData.fwkNumbers n hs.control.always.1 job
    have hnone : c.post.completes .takeJpeg = [] := rfl
    simp only [htaken, hin, hnone, count_nil]
    omega
  | encodeFailed => exact keeps.elim
  | fwkNoJob _ hq =>
    have hmalloc := (keeps (by simp [(dequeue_some hq).2.1])).1
    cases hmalloc
  | fwkNoChannel _ hq hr =>
    have hchannel := (keeps (by simp [(dequeue_some hq).2.1])).2
    simp [hr] at hchannel
  | @takeFwk frame _ addr _ job _ hq _ hjob =>
    have htaken := tally_dequeue (fun frame : FwkInput => [frame.frameNumber]) n hq
    have hin := tally_enqueue PpData.fwkNumbers n hon.2.2.2.1 job
    have hnumber : job.fwkNumbers = [frame.frameNumber] := by rw [hjob]; rfl
    have hnone : c.post.completes (.takeFwk (some addr)) = [] := rfl
    simp only [htaken, hin, hnumber, hnone, count_nil]
    omega
  | fwkReprocFailed _ _ hout => exact absurd keeps hout

theorem Working.queueJpegSetting {s : PostProcessor} (hs : Working s) (outBufIndex : Option ℕ)
    (frameNumber : ℕ) : Working (s.queueJpegSetting outBufIndex frameNumber) ∧
      (s.queueJpegSetting outBufIndex frameNumber).fwkNumbers = s.fwkNumbers := by
  rcases outBufIndex with _ | index
  · exact ⟨hs, rfl⟩
  · have hexec : PostOp.exec s (.jpegSetting ⟨index, frameNumber⟩) =
        some (s.processJpegSettingData ⟨index, frameNumber⟩) := rfl
    exact ⟨hs.step rfl hexec, rfl⟩

theorem Working.fwkNumbers_processFwk {s : PostProcessor} (hs : Working s) {frame : FwkInput}
    {malloc : Option ℕ} (keeps : needsReprocess frame = false →
      malloc.isSome ∧ s.jpegSettingsQ.items ≠ []) :
    (s.processFwk frame malloc).fwkNumbers.Perm (frame.frameNumber :: s.fwkNumbers) := by
  have hon := hs.control.on hs.active
  refine perm_iff_count.mpr fun n => ?_
  have hexec : PostOp.exec s (.fwkInput frame malloc) = some (s.processFwk frame malloc) := rfl
  generalize s.processFwk frame malloc = t at hexec ⊢
  rw [← singleton_append, count_append]
  simp only [count_fwkNumbers]
  cases PostOp.outcome hexec with
  | fwkWaits =>
    have hin := tally_enqueue (fun frame : FwkInput => [frame.frameNumber]) n hon.2.1 frame
    simp only [hin]
    omega
  | fwkNoSettings hre hnone =>
    obtain ⟨x, q, hq⟩ := dequeue_of_ne hs.control.always.2 (keeps hre).2
    simp [hq] at hnone
  | fwkNoMemory hre => exact absurd (keeps hre).1 Bool.false_ne_true
  | fwkJob =>
    have hnumber (addr : ℕ) (x : JpegSettings) :
        ({ addr := addr, fwkFrame := some frame, jpegSettings := x } : JpegData).fwkNumbers =
          [frame.frameNumber] := rfl
    simp only [tally_append, tally_cons, tally_nil, hnumber]
    omega

theorem frameMark_injective {n k : ℕ} (hn : n < 2 ^ 32) (hk : k < 2 ^ 32)
    (h : frameMark n = frameMark k) : n = k := by
  have heq : n % 2 ^ 32 = k % 2 ^ 32 := congrArg (fun x : Int32 => x.toUInt32.toNat) h
  rwa [Nat.mod_eq_of_lt hn, Nat.mod_eq_of_lt hk] at heq

/-- The metadata buffers that are not free have the marks of the requests under way; a request that
is about to take one has a number that no buffer was marked with. -/
def InputChannel.Marked (c : InputChannel) (count : ℕ) : Prop :=
  ∃ (touched : ℕ) (released old : List ℕ), c.freeOfflineMeta = freeMembers count touched released ∧
    Stamped count touched released c.offlineMeta.heap.currentFrameNumbers (old.map frameMark)
      (c.underWay.map frameMark) ∧ (∀ n ∈ old, n ∈ c.used) ∧
    ∀ frame, c.request = .set frame → frame.frameNumber ∈ c.used ∧ frame.frameNumber ∉ old

/-- What every step keeps. -/
structure InputChannel.Kept (c : InputChannel) (count : ℕ) : Prop where
  working : Working c.post
  heaps : c.offlineMeta.maxHeapBuffers = count
  allocated : c.offlineMeta.heap.bufferCount = count
  handles : ∀ i < count, (c.offlineMeta.heap.memInfo i).handle = true
  used : ∀ n ∈ c.used, n < 2 ^ 32
  marked : c.Marked count

namespace InputChannel

variable {c : InputChannel} {count : ℕ}

theorem Kept.dropped (h : c.Kept count) {frame : FwkInput} (hset : c.request = .set frame) :
    ({ c with request := .idle } : InputChannel).Kept count := by
  obtain ⟨touched, released, old, hfree, hpool, hold, -⟩ := h.marked
  have hunder : ({ c with request := .idle } : InputChannel).underWay = c.underWay := by
    rw [underWay, underWay, hset]
    rfl
  exact ⟨h.working, h.heaps, h.allocated, h.handles, h.used, touched, released, old, hfree,
    hunder ▸ hpool, hold, nofun⟩

theorem Kept.setFwkInputPPData (h : c.Kept count) {frame : FwkInput} (hset : c.request = .set frame)
    (ok : Bool) : (c.setFwkInputPPData frame ok).Kept count := by
  unfold InputChannel.setFwkInputPPData
  split
  case isFalse => exact h.dropped hset
  split
  case h_1 => exact h.dropped hset
  next metaBufIdx rest hcons =>
  obtain ⟨touched, released, old, hfree, hpool, hold, hreq⟩ := h.marked
  obtain ⟨hused, hnew⟩ := hreq frame hset
  have hi : metaBufIdx < count := hpool.free_lt (hfree ▸ hcons ▸ mem_cons_self)
  have hmark : c.offlineMeta.markFrameNumber metaBufIdx (.ofNat frame.frameNumber) =
      ({ c.offlineMeta with
        heap :=
          { c.offlineMeta.heap with
            currentFrameNumbers := Function.update c.offlineMeta.heap.currentFrameNumbers metaBufIdx
              (frameMark frame.frameNumber) } }, .NO_ERROR) := by
    simp [StreamMem.markFrameNumber, StreamBufs.Memory.mark, h.heaps, h.allocated, hi,
      h.handles metaBufIdx hi, frameMark]
  have hkey : frameMark frame.frameNumber ∉ old.map frameMark := by
    intro hmem
    obtain ⟨n, hn, heq⟩ := mem_map.mp hmem
    rw [frameMark_injective (h.used n (hold n hn)) (h.used _ hused) heq] at hn
    exact hnew hn
  obtain ⟨touched', released', hfree', hpool'⟩ := hpool.take hkey (hfree.symm.trans hcons)
  have hcount : c.offlineMeta.heap.bufferCount ≠ 0 := by
    rw [h.allocated]
    omega
  rw [hmark, if_neg hcount]
  refine ⟨h.working, h.heaps, h.allocated, h.handles, h.used, touched', released',
    old ++ [frame.frameNumber], hfree'.symm, ?_, fun n hn => ?_, nofun⟩
  · rw [map_append]
    refine hpool'.perm ?_
    simp only [underWay, hset, Requesting.numbers, nil_append]
    exact perm_append_comm
  · rcases mem_append.mp hn with hn | hn
    · exact hold n hn
    · exact mem_singleton.mp hn ▸ hused

/-- **The buffer of a request that is under way is found by its mark, and is free again.** -/
theorem Kept.releaseOfflineMemory (h : c.Kept count) {n : ℕ} {post : PostProcessor}
    (hpost : Working post) (hleft : c.underWay.Perm (n :: (c.request.numbers ++ post.fwkNumbers))) :
    ({ c.releaseOfflineMemory (.ofNat n) with post := post } : InputChannel).Kept count := by
  obtain ⟨touched, released, old, hfree, hpool, hold, hreq⟩ := h.marked
  have hkeys := hleft.map frameMark
  obtain ⟨i, hi, hnot, hmark, hfind⟩ := (hpool.perm hkeys).find mem_cons_self
  have hindex : c.offlineMeta.getHeapBufferIndex (.ofNat n) = some i := by
    rw [StreamMem.getHeapBufferIndex, h.allocated, ← hfind]
    refine find?_congr fun j hj => ?_
    rw [h.handles j (mem_range.mp hj), Bool.true_and]
    rfl
  have hgone : c.releaseOfflineMemory (.ofNat n) =
      { c with freeOfflineMeta := c.freeOfflineMeta ++ [i] } := by
    rw [InputChannel.releaseOfflineMemory, hindex]
  rw [map_cons, ← hmark] at hkeys
  rw [hgone]
  refine ⟨hpost, h.heaps, h.allocated, h.handles, h.used, touched, released ++ [i], old, ?_,
    hpool.release hkeys hi hnot, hold, hreq⟩
  rw [hfree, freeMembers, freeMembers, append_assoc]

theorem jpegEvtHandle_eq (job : JpegData) : c.jpegEvtHandle job =
    if job.fwk.isSome then c.releaseOfflineMemory (.ofNat job.jpegSettings.request) else c := by
  rcases hframe : job.fwkFrame with _ | frame <;> simp [jpegEvtHandle, JpegData.fwk, hframe]

theorem completes_cases (s : PostProcessor) (op : PostOp) :
    s.completes op = [] ∨ ∃ n, s.completes op = [n] := by
  unfold completes
  split
  · split
    · exact .inl rfl
    next r _ =>
    split
    · exact .inl rfl
    · rcases r.submitted with _ | ⟨n, rest⟩
      · exact .inl rfl
      · exact .inr ⟨n, rfl⟩
  · split
    · exact .inl rfl
    next x _ =>
    rcases hfwk : x.job.fwk with _ | frame
    · exact .inl (by simp [JpegData.fwkNumbers, hfwk])
    · exact .inr ⟨frame.frameNumber, by simp [JpegData.fwkNumbers, hfwk]⟩
  · exact .inl rfl

/-- **The buffer of a request that is completed is released**, as the request is completed under its
own number. -/
theorem complete_eq {op : PostOp} (keeps : (InputOp.post op).Keeps c) :
    c.complete op = (c.post.completes op).foldl (fun c n => c.releaseOfflineMemory (.ofNat n)) c := by
  cases op with
  | processed addr malloc =>
    rcases hr : c.post.reproc with _ | r
    · simp [complete, completes, hr]
    have hkeeps := keeps r hr
    by_cases htype : r.reprocessType = .jpeg
    · simp [complete, completes, hr, htype]
    rw [if_neg htype] at hkeeps
    rcases hsub : r.submitted with _ | ⟨n, rest⟩
    · simp [complete, completes, hr, htype, hsub]
    have hmemory := hkeeps n (by rw [hsub]; rfl)
    simp [complete, completes, hr, htype, hsub, reprocessCbRoutine, hmemory]
  | jpegDone addr =>
    rcases hfind : c.post.completing.find? (fun x => x.job.addr == addr) with _ | x
    · simp [complete, completes, hfind]
    have hkeeps := keeps x hfind
    have hcomplete : c.complete (.jpegDone addr) = c.jpegEvtHandle x.job := by
      simp [complete, hfind]
    have hdone : c.post.completes (.jpegDone addr) = x.job.fwkNumbers := by
      simp [completes, hfind]
    rw [hcomplete, hdone, jpegEvtHandle_eq]
    rcases hfwk : x.job.fwk with _ | frame
    · simp [JpegData.fwkNumbers, hfwk]
    · have hnumber := hkeeps frame hfwk
      simp [JpegData.fwkNumbers, hfwk, hnumber]
  | _ => rfl

theorem Kept.post (h : c.Kept count) {op : PostOp} {post : PostProcessor}
    (hcamera : op.ofCamera = false) (hrequest : op.ofRequest = false)
    (keeps : (InputOp.post op).Keeps c) (hexec : op.exec c.post = some post) :
    ({ c.complete op with post := post } : InputChannel).Kept count := by
  have hworking := h.working.step hcamera hexec
  have hcount := h.working.fwkNumbers_step hcamera hrequest keeps hexec
  have hperm : (post.fwkNumbers ++ c.post.completes op).Perm c.post.fwkNumbers :=
    perm_iff_count.mpr fun n => (count_append ..).trans (hcount n)
  rw [complete_eq keeps]
  rcases completes_cases c.post op with hnone | ⟨n, hdone⟩
  · rw [hnone, append_nil] at hperm
    rw [hnone]
    obtain ⟨touched, released, old, hfree, hpool, hold, hreq⟩ := h.marked
    exact ⟨hworking, h.heaps, h.allocated, h.handles, h.used, touched, released, old, hfree,
      hpool.perm ((hperm.symm.append_left _).map _), hold, hreq⟩
  · rw [hdone] at hperm ⊢
    have hleft : (n :: post.fwkNumbers).Perm c.post.fwkNumbers := perm_append_comm.trans hperm
    exact h.releaseOfflineMemory hworking ((hleft.symm.append_left _).trans perm_middle)

/-- **Every step that drops no request keeps the buffers.** -/
theorem Kept.step {op : InputOp} {t : InputChannel} (h : c.Kept count) (keeps : op.Keeps c)
    (hexec : op.exec c = some t) : t.Kept count := by
  cases op with
  | begin frame outBufIndex =>
    simp only [InputOp.exec] at hexec
    split at hexec
    case isFalse => cases hexec
    next hbegin =>
    obtain ⟨hidle, hnew, hlt⟩ := hbegin
    cases hexec
    obtain ⟨touched, released, old, hfree, hpool, hold, -⟩ := h.marked
    -- the settings are not with any frame yet
    obtain ⟨hpost, hsame⟩ := h.working.queueJpegSetting outBufIndex frame.frameNumber
    refine ⟨hpost, h.heaps, h.allocated, h.handles, fun n hn => ?_, touched, released, old, hfree,
      ?_, fun n hn => mem_append_left _ (hold n hn), fun frame' hset => ?_⟩
    · rcases mem_append.mp hn with hn | hn
      · exact h.used n hn
      · exact mem_singleton.mp hn ▸ hlt
    · rw [underWay, hidle] at hpool
      rw [underWay, hsame]
      exact hpool
    · cases hset
      exact ⟨mem_append_right _ (mem_singleton_self _), fun hmem => hnew (hold _ hmem)⟩
  | setFwkInputPPData ok =>
    simp only [InputOp.exec] at hexec
    split at hexec
    case h_2 => cases hexec
    next frame hset =>
    cases hexec
    exact h.setFwkInputPPData hset ok
  | processData malloc =>
    simp only [InputOp.exec] at hexec
    split at hexec
    case h_2 => cases hexec
    next frame hprocess =>
    cases hexec
    have hpost : PostOp.exec c.post (.fwkInput frame malloc) = some (c.post.processFwk frame malloc) :=
      rfl
    have hperm := h.working.fwkNumbers_processFwk (keeps frame hprocess)
    obtain ⟨touched, released, old, hfree, hpool, hold, -⟩ := h.marked
    refine ⟨h.working.step rfl hpost, h.heaps, h.allocated, h.handles,
      h.used, touched, released, old, hfree, hpool.perm ?_, hold, nofun⟩
    rw [underWay, hprocess]
    exact (hperm.symm).map frameMark
  | post op =>
    simp only [InputOp.exec] at hexec
    split at hexec
    case isTrue => cases hexec
    next hthread =>
    rw [Bool.not_eq_true, Bool.or_eq_false_iff] at hthread
    obtain ⟨post, hpost, rfl⟩ := Option.map_eq_some_iff.mp hexec
    exact h.post hthread.1 hthread.2 keeps hpost

/-- **What is kept says that the buffers are conserved.** -/
theorem Kept.conserved (h : c.Kept count) : c.Conserved count := by
  obtain ⟨touched, released, old, hfree, hpool, -, -⟩ := h.marked
  have hinj := inj_on_of_nodup_map hpool.keysNodup
  refine ⟨⟨hfree ▸ hpool.free_nodup, fun i hi => hpool.free_lt (hfree ▸ hi)⟩, fun i hi hnot => ?_,
    fun n hn => ?_, hpool.keysNodup.of_map, ?_⟩
  · obtain ⟨hlt, hrel⟩ := Stamped.of_not_free hi (hfree ▸ hnot)
    obtain ⟨n, hn, hmark⟩ := mem_map.mp (hpool.taken i hlt hrel)
    exact ⟨n, ⟨hn, hmark.symm⟩, fun k hk => hinj hk.1 hn (hk.2.symm.trans hmark.symm)⟩
  · obtain ⟨i, hlt, hrel, hmark⟩ := hpool.marked _ (mem_map_of_mem hn)
    refine ⟨i, ⟨⟨hlt.trans_le hpool.le, hfree ▸ Stamped.not_free hlt hrel⟩, hmark⟩, fun j hj => ?_⟩
    obtain ⟨⟨hj, hnot⟩, hmark'⟩ := hj
    obtain ⟨hlt', hrel'⟩ := Stamped.of_not_free hj (hfree ▸ hnot)
    exact hpool.single j hlt' hrel' i hlt hrel (hmark'.trans hmark.symm)
  · have hlength := hpool.length
    rwa [length_map, ← hfree] at hlength

theorem start_kept (reprocessType : Option ReprocessType) (count : ℕ) (memory : StreamMem) :
    (start reprocessType count memory).Kept count where
  working := .started reprocessType
  heaps := rfl
  allocated := rfl
  handles i hi := decide_eq_true hi
  used := nofun
  marked := ⟨0, [], [], by simp [start, freeMembers, range_eq_range'], .empty count _, nofun, nofun⟩

end InputChannel

/-- **The metadata buffers are conserved** in every run of steps that drop no request and complete
none under another number: each is free once, or assigned to one request that is under way. -/
theorem meta_conserved {reprocessType : Option ReprocessType} {count : ℕ} {memory : StreamMem}
    {ops : List InputOp} {c : InputChannel}
    (run : Run (fun (op : InputOp) c t => op.Keeps c ∧ op.exec c = some t) ops
      (.start reprocessType count memory) c) : c.Conserved count := by
  have hkept : c.Kept count :=
    run.invariant (I := (InputChannel.Kept · count)) (fun _ _ _ hstep h => h.step hstep.1 hstep.2)
      (InputChannel.start_kept reprocessType count memory)
  exact hkept.conserved

def reprocessed (frameNumber : ℕ) : FwkInput := ⟨0, frameNumber, .yuv, some 1, none, none⟩

/-- Two requests take both buffers, and the first is completed. -/
theorem meta_conserved_two : ∃ ops c, Run (fun (op : InputOp) c t => op.exec c = some t) ops
    (.start (some .yuv) 2 { maxHeapBuffers := 0 }) c ∧ c.Conserved 2 ∧ c.freeOfflineMeta = [0] ∧
      c.underWay = [6] := by
  obtain ⟨ops, c, hrun, hfree, hunder⟩ : ∃ ops c,
      Run (fun (op : InputOp) c t => op.Keeps c ∧ op.exec c = some t) ops
        (.start (some .yuv) 2 { maxHeapBuffers := 0 }) c ∧ c.freeOfflineMeta = [0] ∧
        c.underWay = [6] := by
    refine ⟨[.begin (reprocessed 5) none, .setFwkInputPPData true, .processData none,
      .begin (reprocessed 6) none, .setFwkInputPPData true, .processData none, .post .send,
      .post .getCmd, .post .takeJpeg, .post (.takeFwk (some 1)), .post (.fwkReproc .submitted),
      .post (.processed 2 none)], _, .cons ⟨trivial, rfl⟩ <| .cons ⟨trivial, rfl⟩ <|
      .cons ⟨?_, rfl⟩ <| .cons ⟨trivial, rfl⟩ <| .cons ⟨trivial, rfl⟩ <| .cons ⟨?_, rfl⟩ <|
      .cons ⟨trivial, rfl⟩ <| .cons ⟨trivial, rfl⟩ <| .cons ⟨trivial, rfl⟩ <|
      .cons ⟨fun _ => ⟨rfl, rfl⟩, rfl⟩ <| .cons ⟨rfl, rfl⟩ <| .cons ⟨?_, rfl⟩ <| .nil _, rfl, rfl⟩
    · rintro frame ⟨⟩ hneeds
      cases hneeds
    · rintro frame ⟨⟩ hneeds
      cases hneeds
    · rintro r ⟨⟩ n hn
      rfl
  exact ⟨ops, c, hrun.mono fun _ _ _ _ hstep => hstep.2, meta_conserved hrun, hfree, hunder⟩

/-- The reprocess of the only request fails: it is dropped with its buffer. -/
theorem meta_lost : ∃ ops c, Run (fun (op : InputOp) c t => op.exec c = some t) ops
    (.start (some .yuv) 1 { maxHeapBuffers := 0 }) c ∧ c.freeOfflineMeta = [] ∧ c.underWay = [] ∧
      ¬ c.Conserved 1 := by
  obtain ⟨c, hc, hfree, hunder⟩ : ∃ c, execAll InputOp.exec
      (.start (some .yuv) 1 { maxHeapBuffers := 0 })
      [.begin (reprocessed 5) none, .setFwkInputPPData true, .processData none, .post .send,
        .post .getCmd, .post .takeJpeg, .post (.takeFwk (some 1)), .post (.fwkReproc .failed)] =
        some c ∧ c.freeOfflineMeta = [] ∧ c.underWay = [] := ⟨_, rfl, rfl, rfl⟩
  refine ⟨_, c, Run.of_execAll hc, hfree, hunder, fun h => ?_⟩
  have hlength := h.length
  rw [hfree, hunder] at hlength
  cases hlength

end PostProc
