import MidoCamera.PostProc.Processor

/-!
# What the post-processor's steps do

What releasing a job does to the state is one record, whichever of its parts are there. The loops of
the stop command add up what they release.
-/

namespace PostProc

open Loop List

/-! ## Releases -/

def Reproc.regain (r : Reproc) (job : JpegData) : Reproc :=
  { r with freeBufferList := r.freeBufferList ++ job.srcFrame.toList.map SuperBuf.bufIdx }

/-- The buffers that `releaseJpegJobData` returns. -/
def JpegData.returns (job : JpegData) (reproc : Option Reproc) : List SuperBuf :=
  (if reproc.isSome then job.srcFrame.toList else []) ++
    if job.fwkSrcBuffer.isSome then [] else job.srcMetadata.toList

/-- The metadata that `releasePPJobData` returns. -/
def PpData.returns (job : PpData) : List SuperBuf :=
  if job.srcFrame.isSome then job.srcMetadata.toList else []

namespace PostProcessor

theorem releaseJpegJobData_eq (s : PostProcessor) (job : JpegData) :
    s.releaseJpegJobData job = { s with
      reproc := s.reproc.map fun r => r.regain job
      returned := s.returned ++ job.returns s.reproc
      freed := s.freed ++ job.frees
      owed := s.owed + 1 } := by
  rcases hr : s.reproc with _ | r <;> rcases hf : job.fwkSrcBuffer with _ | f <;>
    simp [releaseJpegJobData, free, reprocBufDone, metadataBufDone, owe, JpegData.returns,
      JpegData.frees, Reproc.regain, hr, hf]

theorem releasePPJobData_eq (s : PostProcessor) (job : PpData) :
    s.releasePPJobData job = { s with
      returned := s.returned ++ job.returns
      freed := s.freed ++ job.frees
      owed := s.owed + 1 } := by
  rcases hf : job.srcFrame with _ | b <;>
    simp [releasePPJobData, free, metadataBufDone, owe, PpData.returns, PpData.frees, hf]

theorem releaseOngoingPPData_eq (s : PostProcessor) (job : PpData) :
    s.releaseOngoingPPData job = { s with
      streamQueued := s.streamQueued ++ job.srcFrame.toList.map fun b => (b.bufIdx, none)
      returned := s.returned ++ (job.srcFrame.toList ++ job.returns)
      freed := s.freed ++ job.frees
      owed := s.owed + 1 } := by
  rcases hf : job.srcFrame with _ | b <;>
    simp [releaseOngoingPPData, releasePPJobData_eq, releaseSuperBuf, hf]

def cleaned (buf : Option PpBuffer) (metaBuffer : Option SuperBuf) : List SuperBuf :=
  buf.toList.map PpBuffer.input ++ metaBuffer.toList

theorem cleanUp_eq (s : PostProcessor) (addr : Option ℕ) (buf : Option PpBuffer)
    (metaBuffer : Option SuperBuf) : s.cleanUp addr buf metaBuffer = { s with
      streamQueued := s.streamQueued ++ buf.toList.map fun b => (b.input.bufIdx, none)
      returned := s.returned ++ cleaned buf metaBuffer
      freed := s.freed ++ cleaned buf metaBuffer
      freedJobs := s.freedJobs ++ addr.toList } := by
  rcases addr with _ | addr <;> rcases buf with _ | buf <;> rcases metaBuffer with _ | b <;>
    simp [cleanUp, cleaned, freeJob, releasePPInputData, releaseSuperBuf, free, releaseMetadata,
      metadataBufDone]

theorem dropJpeg_eq (s : PostProcessor) (job : JpegData) : s.dropJpeg job = { s with
    reproc := s.reproc.map fun r => r.regain job
    returned := s.returned ++ job.returns s.reproc
    freed := s.freed ++ job.frees
    owed := s.owed + 1
    freedJobs := s.freedJobs ++ [job.addr] } := by
  simp [dropJpeg, releaseJpegJobData_eq, freeJob]

theorem abandon_eq (s : PostProcessor) (job : JpegData) : s.abandon job = { s.dropJpeg job with
    running := s.running.filter fun x => x.1 ≠ s.jobId job.addr } := by
  simp [abandon, abortJob, dropJpeg, releaseJpegJobData_eq, freeJob]

theorem dropPP_eq (s : PostProcessor) (job : PpData) : s.dropPP job = { s with
    streamQueued := s.streamQueued ++ job.srcFrame.toList.map fun b => (b.bufIdx, none)
    returned := s.returned ++ (job.srcFrame.toList ++ job.returns)
    freed := s.freed ++ job.frees
    owed := s.owed + 1
    freedJobs := s.freedJobs ++ [job.addr] } := by
  simp [dropPP, releaseOngoingPPData_eq, freeJob]

/-! ## What comes in -/

theorem processInput_eq (s : PostProcessor) (b : SuperBuf) (n : ℕ) : s.processInput b n = { s with
    inputPPQ := s.inputPPQ.enqueue ⟨b, n⟩
    handed := s.handed ++ [b]
    owed := if s.inputMetaQ.isEmpty then s.owed else s.owed + 1 } := by
  rcases h : s.inputMetaQ.isEmpty with _ | _ <;> simp [processInput, owe, h]

theorem processPPMetadata_eq (s : PostProcessor) (b : SuperBuf) : s.processPPMetadata b = { s with
    inputMetaQ := s.inputMetaQ.enqueue b
    handed := s.handed ++ [b]
    owed := if s.inputPPQ.isEmpty then s.owed else s.owed + 1 } := by
  rcases h : s.inputPPQ.isEmpty with _ | _ <;> simp [processPPMetadata, owe, h]

/-! ## `processPPData` -/

/-- `processPPData` up to where the JPEG job is queued: there is no ongoing job; or there is one and
it is lost, as it lacks frames or settings or there is no memory; or a JPEG job is made of it. -/
theorem takeProcessed_cases {s t : PostProcessor} {frame : SuperBuf} {malloc : Option ℕ}
    {made : Option JpegData} (h : s.takeProcessed frame malloc = (made, t)) :
    (made = none ∧ t = s ∧ s.ongoingPPQ.dequeue.1 = none) ∨
    (∃ job q, s.ongoingPPQ.dequeue = (some job, q) ∧
      ((made = none ∧ t = { s with ongoingPPQ := q } ∧
          ((job.srcFrame = none ∧ job.fwkSrcFrame = none) ∨ job.jpegSettings = none ∨
            malloc = none)) ∨
       ∃ x addr, job.jpegSettings = some x ∧ malloc = some addr ∧
         ¬(job.srcFrame = none ∧ job.fwkSrcFrame = none) ∧
         made = some (jpegJob job frame x addr) ∧
         t = { s with
          ongoingPPQ := q
          mallocs := s.mallocs ++ [addr]
          freedJobs := s.freedJobs ++ [job.addr] })) := by
  unfold takeProcessed at h
  rcases hq : s.ongoingPPQ.dequeue with ⟨_ | job, q⟩
  · simp only [hq] at h
    cases h
    exact .inl ⟨rfl, rfl, rfl⟩
  · simp only [hq] at h
    refine .inr ⟨job, q, rfl, ?_⟩
    by_cases hframes : job.srcFrame = none ∧ job.fwkSrcFrame = none
    · rw [if_pos hframes] at h
      cases h
      exact .inl ⟨rfl, rfl, .inl hframes⟩
    · rw [if_neg hframes] at h
      rcases hx : job.jpegSettings with _ | x <;> simp only [hx] at h
      · cases h
        exact .inl ⟨rfl, rfl, .inr (.inl rfl)⟩
      · rcases malloc with _ | addr <;> simp only at h
        · cases h
          exact .inl ⟨rfl, rfl, .inr (.inr rfl)⟩
        · cases h
          exact .inr ⟨x, addr, rfl, rfl, hframes, rfl, rfl⟩

/-! ## The data thread -/

variable {s : PostProcessor}

theorem encodeFailed_eq (s : PostProcessor) (job : JpegData) :
    s.encodeFailed job = { s.dropJpeg job with
      ongoingJpegQ := s.ongoingJpegQ.dequeueLast
      pc := .fwk } := by
  simp [encodeFailed, dropJpeg, releaseJpegJobData_eq, freeJob]

/-- What is taken for a frame of the camera: a frame, metadata and settings. -/
def tookPair (s : PostProcessor) (malloc : Option ℕ) : PostProcessor :=
  { s with
    inputPPQ := s.inputPPQ.dequeue.2
    inputMetaQ := s.inputMetaQ.dequeue.2
    jpegSettingsQ := s.jpegSettingsQ.dequeue.2
    mallocs := s.mallocs ++ malloc.toList
    pc := .idle }

/-- The job of a frame of the camera. -/
def pairJob (s : PostProcessor) (addr : ℕ) (buf : PpBuffer) (b : SuperBuf) : PpData :=
  { addr := addr
    srcFrame := some buf.input
    srcMetadata := some b
    jpegSettings := s.jpegSettingsQ.dequeue.1 }

/-! ## Start and stop -/

theorem foldl_dropJpeg (jobs : List JpegData) (s : PostProcessor) : jobs.foldl dropJpeg s = { s with
    reproc := s.reproc.map fun r => jobs.foldl Reproc.regain r
    returned := s.returned ++ jobs.flatMap fun job => job.returns s.reproc
    freed := s.freed ++ jobs.flatMap JpegData.frees
    owed := s.owed + jobs.length
    freedJobs := s.freedJobs ++ jobs.map JpegData.addr } := by
  induction jobs generalizing s with
  | nil => simp
  | cons job jobs ih =>
    have hreturns : ∀ job' : JpegData, job'.returns (s.reproc.map fun r => r.regain job) =
        job'.returns s.reproc := fun job' => by simp [JpegData.returns]
    rw [foldl_cons, ih, dropJpeg_eq]
    simp [hreturns, Function.comp_def]
    omega

theorem foldl_abandon (jobs : List JpegData) (s : PostProcessor) :
    jobs.foldl abandon s = { jobs.foldl dropJpeg s with
      running := s.running.filter fun x => jobs.all fun job => x.1 ≠ s.jobId job.addr } := by
  induction jobs generalizing s with
  | nil => simp
  | cons job jobs ih =>
    rw [foldl_cons, foldl_cons, ih, abandon_eq, dropJpeg_eq, foldl_dropJpeg, foldl_dropJpeg]
    simp [filter_filter, Bool.and_comm]

theorem foldl_dropPP (jobs : List PpData) (s : PostProcessor) : jobs.foldl dropPP s = { s with
    streamQueued := s.streamQueued ++
      jobs.flatMap fun job => job.srcFrame.toList.map fun b => (b.bufIdx, none)
    returned := s.returned ++ jobs.flatMap fun job => job.srcFrame.toList ++ job.returns
    freed := s.freed ++ jobs.flatMap PpData.frees
    owed := s.owed + jobs.length
    freedJobs := s.freedJobs ++ jobs.map PpData.addr } := by
  induction jobs generalizing s with
  | nil => simp
  | cons job jobs ih =>
    rw [foldl_cons, ih, dropPP_eq]
    simp
    omega

theorem foldl_releasePPInputData (bufs : List PpBuffer) (s : PostProcessor) :
    bufs.foldl releasePPInputData s = { s with
      streamQueued := s.streamQueued ++ bufs.map fun b => (b.input.bufIdx, none)
      returned := s.returned ++ bufs.map PpBuffer.input
      freed := s.freed ++ bufs.map PpBuffer.input } := by
  induction bufs generalizing s with
  | nil => simp
  | cons buf bufs ih =>
    rw [foldl_cons, ih]
    simp [releasePPInputData, releaseSuperBuf, free]

theorem foldl_releaseMetadata (bs : List SuperBuf) (s : PostProcessor) :
    bs.foldl releaseMetadata s = { s with
      returned := s.returned ++ bs
      freed := s.freed ++ bs } := by
  induction bs generalizing s with
  | nil => simp
  | cons b bs ih =>
    rw [foldl_cons, ih]
    simp [releaseMetadata, metadataBufDone, free]

def endedJpeg (s : PostProcessor) : List JpegData := s.ongoingJpegQ.items ++ s.inputJpegQ.flushed

/-- What the stop command returns. -/
def stopReturns (s : PostProcessor) : List SuperBuf :=
  (s.ongoingJpegQ.items.flatMap fun job => job.returns s.reproc) ++
    (s.ongoingPPQ.flushed.flatMap fun job => job.srcFrame.toList ++ job.returns) ++
    (s.inputJpegQ.flushed.flatMap fun job => job.returns s.reproc) ++
    s.inputPPQ.flushed.map PpBuffer.input ++ s.inputMetaQ.flushed

/-- What the stop command frees. -/
def stopFrees (s : PostProcessor) : List SuperBuf :=
  s.ongoingJpegQ.items.flatMap JpegData.frees ++ s.ongoingPPQ.flushed.flatMap PpData.frees ++
    s.inputJpegQ.flushed.flatMap JpegData.frees ++ s.inputPPQ.flushed.map PpBuffer.input ++
    s.inputMetaQ.flushed

/-- **The stop command** ends every job and returns what waits. -/
theorem stopDataProc_eq (s : PostProcessor) : s.stopDataProc = { s with
    isActive := false
    ongoingJpegQ := { s.ongoingJpegQ with items := [] }
    ongoingPPQ := s.ongoingPPQ.flush
    inputJpegQ := s.inputJpegQ.flush
    inputPPQ := s.inputPPQ.flush
    inputFWKPPQ := s.inputFWKPPQ.flush
    inputMetaQ := s.inputMetaQ.flush
    ctl := .stopped
    running := s.running.filter fun x => s.ongoingJpegQ.items.all fun job => x.1 ≠ s.jobId job.addr
    reproc := s.reproc.map fun r => s.endedJpeg.foldl Reproc.regain r
    streamQueued := s.streamQueued ++
      (s.ongoingPPQ.flushed.flatMap fun job => job.srcFrame.toList.map fun b => (b.bufIdx, none)) ++
      s.inputPPQ.flushed.map fun b => (b.input.bufIdx, none)
    returned := s.returned ++ s.stopReturns
    freed := s.freed ++ s.stopFrees
    owed := s.owed + s.ongoingJpegQ.items.length + s.ongoingPPQ.flushed.length +
      s.inputJpegQ.flushed.length
    freedJobs := s.freedJobs ++ s.ongoingJpegQ.items.map JpegData.addr ++
      s.ongoingPPQ.flushed.map PpData.addr ++ s.inputJpegQ.flushed.map JpegData.addr } := by
  have hreturns : ∀ job : JpegData,
      job.returns (s.reproc.map fun r => s.ongoingJpegQ.items.foldl Reproc.regain r) =
        job.returns s.reproc := fun job => by simp [JpegData.returns]
  simp only [stopDataProc, foldl_abandon, foldl_dropPP, foldl_dropJpeg, foldl_releasePPInputData,
    foldl_releaseMetadata, hreturns, stopReturns, stopFrees, endedJpeg, foldl_append,
    append_assoc, Option.map_map, Function.comp_def]

theorem giveBack_off (jpeg : s.inputJpegQ.active = false) (pp : s.inputPPQ.active = false)
    (metadata : s.inputMetaQ.active = false) (fwk : s.inputFWKPPQ.active = false) :
    s.giveBack = s := by
  have hjpeg : s.inputJpegQ.dequeue = (none, s.inputJpegQ) := by simp [Queue.dequeue, jpeg]
  have hpp : s.inputPPQ.dequeue = (none, s.inputPPQ) := by simp [Queue.dequeue, pp]
  have hmeta : s.inputMetaQ.dequeue = (none, s.inputMetaQ) := by simp [Queue.dequeue, metadata]
  have hfwk : s.inputFWKPPQ.dequeue = (none, s.inputFWKPPQ) := by simp [Queue.dequeue, fwk]
  simp only [giveBack, hjpeg, hpp, hmeta, hfwk]

end PostProcessor

end PostProc
