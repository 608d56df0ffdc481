import MidoCamera.PostProc.Effects

/-!
# The outcomes of the post-processor's steps

A step of the post-processor has one of a few outcomes, and each is a record of what it changes. The
invariants of the post-processor are proved outcome by outcome.
-/

namespace PostProc

open Loop PostProcessor

/-- What a step of the post-processor does, outcome by outcome. -/
inductive PostOp.Outcome (s : PostProcessor) : PostOp → PostProcessor → Prop
  | jpegSetting (x : JpegSettings) :
      Outcome s (.jpegSetting x) { s with jpegSettingsQ := s.jpegSettingsQ.enqueue x }
  | queueFree {request : ℕ} {allocateOne : Bool} {bufIdx : ℕ} {rest : List ℕ}
      (free : s.streamFree = bufIdx :: rest) :
      Outcome s (.queueBuf request allocateOne) { s with
        streamFree := rest, streamQueued := s.streamQueued ++ [(bufIdx, some request)] }
  | queueNew {request : ℕ} (free : s.streamFree = []) :
      Outcome s (.queueBuf request true) { s with
        streamAllocated := s.streamAllocated + 1
        streamQueued := s.streamQueued ++ [(s.streamAllocated, some request)] }
  | streamCb {addr content bufIdx : ℕ} {request : Option ℕ} {rest : List (ℕ × Option ℕ)}
      (queued : s.streamQueued = (bufIdx, request) :: rest) (owed : ℕ) :
      Outcome s (.streamCb addr content) { s with
        streamQueued := rest
        inputPPQ := s.inputPPQ.enqueue ⟨⟨addr, .frame, bufIdx, request.getD content⟩, 0⟩
        handed := s.handed ++ [⟨addr, .frame, bufIdx, request.getD content⟩]
        owed := owed }
  | input {b : SuperBuf} {frameNumber : ℕ} (kind : b.kind = .frame) (owed : ℕ) :
      Outcome s (.input b frameNumber) { s with
        inputPPQ := s.inputPPQ.enqueue ⟨b, frameNumber⟩
        handed := s.handed ++ [b]
        owed := owed }
  | metadata {b : SuperBuf} (kind : b.kind = .metadata) (owed : ℕ) :
      Outcome s (.metadata b) { s with
        inputMetaQ := s.inputMetaQ.enqueue b
        handed := s.handed ++ [b]
        owed := owed }
  | fwkWaits {frame : FwkInput} {malloc : Option ℕ} (reprocess : needsReprocess frame = true) :
      Outcome s (.fwkInput frame malloc) { s with
        inputFWKPPQ := s.inputFWKPPQ.enqueue frame, owed := s.owed + 1 }
  | fwkNoSettings {frame : FwkInput} {malloc : Option ℕ} (reprocess : needsReprocess frame = false)
      (settings : s.jpegSettingsQ.dequeue.1 = none) : Outcome s (.fwkInput frame malloc) s
  | fwkNoMemory {frame : FwkInput} {x : JpegSettings} {q : Queue JpegSettings}
      (reprocess : needsReprocess frame = false) (settings : s.jpegSettingsQ.dequeue = (some x, q)) :
      Outcome s (.fwkInput frame none) { s with jpegSettingsQ := q }
  | fwkJob {frame : FwkInput} {addr : ℕ} {x : JpegSettings} {q : Queue JpegSettings}
      (reprocess : needsReprocess frame = false) (settings : s.jpegSettingsQ.dequeue = (some x, q)) :
      Outcome s (.fwkInput frame (some addr)) { s with
        jpegSettingsQ := q
        mallocs := s.mallocs ++ [addr]
        landing := s.landing ++ [{ addr := addr, fwkFrame := some frame, jpegSettings := x }] }
  | processedNone {r : Reproc} {addr idx request : ℕ} {malloc : Option ℕ} {queued rest : List ℕ}
      (channel : s.reproc = some r) (type : r.reprocessType = .jpeg) (hq : r.queued = idx :: queued)
      (hs : r.submitted = request :: rest) (ongoing : s.ongoingPPQ.dequeue.1 = none) :
      Outcome s (.processed addr malloc) { s with
        reproc := some { r with queued := queued, submitted := rest }
        handed := s.handed ++ [⟨addr, .reprocessed, idx, request⟩] }
  | processedLost {r : Reproc} {addr idx request : ℕ} {malloc : Option ℕ} {queued rest : List ℕ}
      {job : PpData} {q : Queue PpData} (channel : s.reproc = some r)
      (type : r.reprocessType = .jpeg) (hq : r.queued = idx :: queued)
      (hs : r.submitted = request :: rest) (ongoing : s.ongoingPPQ.dequeue = (some job, q))
      (lost : (job.srcFrame = none ∧ job.fwkSrcFrame = none) ∨ job.jpegSettings = none ∨
        malloc = none) :
      Outcome s (.processed addr malloc) { s with
        reproc := some { r with queued := queued, submitted := rest }
        handed := s.handed ++ [⟨addr, .reprocessed, idx, request⟩]
        ongoingPPQ := q }
  | processedJob {r : Reproc} {addr idx request a : ℕ} {queued rest : List ℕ} {job : PpData}
      {x : JpegSettings} {q : Queue PpData} (channel : s.reproc = some r)
      (type : r.reprocessType = .jpeg) (hq : r.queued = idx :: queued)
      (hs : r.submitted = request :: rest) (ongoing : s.ongoingPPQ.dequeue = (some job, q))
      (settings : job.jpegSettings = some x)
      (frames : ¬(job.srcFrame = none ∧ job.fwkSrcFrame = none)) :
      Outcome s (.processed addr (some a)) { s with
        reproc := some { r with queued := queued, submitted := rest }
        handed := s.handed ++ [⟨addr, .reprocessed, idx, request⟩]
        ongoingPPQ := q
        mallocs := s.mallocs ++ [a]
        freedJobs := s.freedJobs ++ [job.addr]
        landing := s.landing ++ [PostProcessor.jpegJob job ⟨addr, .reprocessed, idx, request⟩ x a] }
  | reprocessedNone {r : Reproc} {addr request : ℕ} {malloc : Option ℕ} {rest : List ℕ}
      (channel : s.reproc = some r) (type : r.reprocessType ≠ .jpeg)
      (hs : r.submitted = request :: rest) (ongoing : s.ongoingPPQ.dequeue.1 = none) :
      Outcome s (.processed addr malloc) { s with reproc := some { r with submitted := rest } }
  | reprocessedJob {r : Reproc} {addr request : ℕ} {malloc : Option ℕ} {rest : List ℕ}
      {job : PpData} {q : Queue PpData} (channel : s.reproc = some r)
      (type : r.reprocessType ≠ .jpeg) (hs : r.submitted = request :: rest)
      (ongoing : s.ongoingPPQ.dequeue = (some job, q)) :
      Outcome s (.processed addr malloc) { s with
        reproc := some { r with submitted := rest }
        ongoingPPQ := q
        returned := s.returned ++ job.srcFrame.toList
        ppCompleting := s.ppCompleting ++ [job] }
  | land {addr : ℕ} {job : JpegData}
      (find : s.landing.find? (fun job => job.addr == addr) = some job) :
      Outcome s (.land addr) { s with
        landing := takeOut JpegData.addr addr s.landing
        inputJpegQ := s.inputJpegQ.enqueue job
        owed := s.owed + 1 }
  | ppDone {addr : ℕ} {job : PpData}
      (find : s.ppCompleting.find? (fun job => job.addr == addr) = some job) :
      Outcome s (.ppDone addr) { s with
        ppCompleting := takeOut PpData.addr addr s.ppCompleting
        returned := s.returned ++ job.returns
        freed := s.freed ++ job.frees
        owed := s.owed + 1
        freedJobs := s.freedJobs ++ [job.addr] }
  | callbackNone {jobId addr : ℕ} (runs : (jobId, addr) ∈ s.running)
      (ongoing : jobId = 0 ∨ s.ongoingJpegQ.dequeue.1 = none) :
      Outcome s (.jpegCallback jobId) { s with
        running := s.running.filter fun x => x.1 ≠ jobId }
  | callback {jobId addr : ℕ} {job : JpegData} {q : Queue JpegData}
      (runs : (jobId, addr) ∈ s.running) (ongoing : s.ongoingJpegQ.dequeue = (some job, q)) :
      Outcome s (.jpegCallback jobId) { s with
        running := s.running.filter fun x => x.1 ≠ jobId
        ongoingJpegQ := q
        completing := s.completing ++ [⟨jobId, addr, job⟩] }
  | jpegDone {addr : ℕ} {c : Completion}
      (find : s.completing.find? (fun c => c.job.addr == addr) = some c) :
      Outcome s (.jpegDone addr) { s with
        completing := takeOut (fun c => c.job.addr) addr s.completing
        streamFree := s.streamFree ++ c.job.snapshot.toList.map SuperBuf.bufIdx
        reproc := s.reproc.map fun r => r.regain c.job
        returned := s.returned ++ c.job.snapshot.toList ++ c.job.returns s.reproc
        freed := s.freed ++ c.job.frees
        owed := s.owed + 1
        freedJobs := s.freedJobs ++ [c.job.addr] }
  | flushTake {job : JpegData} {q : Queue JpegData} (flushing : s.flushing = none)
      (ongoing : s.ongoingJpegQ.dequeue = (some job, q)) :
      Outcome s .flushTake { s with ongoingJpegQ := q, flushing := some job }
  | flushRelease {job : JpegData} (flushing : s.flushing = some job) :
      Outcome s .flushRelease { s with
        flushing := none
        running := s.running.filter fun x => x.1 ≠ s.jobId job.addr
        reproc := s.reproc.map fun r => r.regain job
        returned := s.returned ++ job.returns s.reproc
        freed := s.freed ++ job.frees
        owed := s.owed + 1
        freedJobs := s.freedJobs ++ [job.addr] }
  | send (owed : 0 < s.owed) :
      Outcome s .send { s with owed := s.owed - 1, cmds := s.cmds ++ [.doNextJob] }
  | startNoReproc {ok : Bool} (ctl : s.ctl = .idle) (notStarted : s.postProcStarted = false) :
      Outcome s (.start .none ok) { s with
        postProcStarted := true, cmds := s.cmds ++ [.startDataProc], ctl := .starting }
  | startReproc {reprocessType : ReprocessType} (ctl : s.ctl = .idle)
      (notStarted : s.postProcStarted = false) (type : reprocessType ≠ .none) :
      Outcome s (.start reprocessType true) { s with
        postProcStarted := true
        reproc := some { reprocessType := reprocessType }
        cmds := s.cmds ++ [.startDataProc]
        ctl := .starting }
  | startFailed {reprocessType : ReprocessType} (ctl : s.ctl = .idle)
      (notStarted : s.postProcStarted = false) (type : reprocessType ≠ .none) :
      Outcome s (.start reprocessType false) { s with postProcStarted := true, reproc := none }
  | stop (ctl : s.ctl = .idle) :
      Outcome s .stop { s with cmds := .stopDataProc :: s.cmds, ctl := .stopping }
  | stopChannel (ctl : s.ctl = .stopped) :
      Outcome s .stopChannel { s with reproc := none, ctl := .idle, postProcStarted := false }
  | startDataProc {rest : List Cmd} (pc : s.pc = .idle) (cmds : s.cmds = .startDataProc :: rest) :
      Outcome s .getCmd { s with cmds := rest }.startDataProc
  | stopDataProc {rest : List Cmd} (pc : s.pc = .idle) (cmds : s.cmds = .stopDataProc :: rest) :
      Outcome s .getCmd { s with cmds := rest }.stopDataProc
  | doNextJob {rest : List Cmd} (pc : s.pc = .idle) (cmds : s.cmds = .doNextJob :: rest)
      (isActive : s.isActive = true) : Outcome s .getCmd { s with cmds := rest, pc := .jpeg }
  | giveBack {rest : List Cmd} (pc : s.pc = .idle) (cmds : s.cmds = .doNextJob :: rest)
      (isActive : s.isActive = false) : Outcome s .getCmd { s with cmds := rest }.giveBack
  | noJpeg (pc : s.pc = .jpeg)
      (none : s.ongoingJpegQ.items ≠ [] ∨ s.inputJpegQ.dequeue.1 = none) :
      Outcome s .takeJpeg { s with pc := .fwk }
  | takeJpeg {job : JpegData} {q : Queue JpegData} (pc : s.pc = .jpeg)
      (ongoing : s.ongoingJpegQ.items = []) (waits : s.inputJpegQ.dequeue = (some job, q)) :
      Outcome s .takeJpeg { s with
        inputJpegQ := q
        ongoingJpegQ := s.ongoingJpegQ.enqueue job
        pc := .encode job }
  | encodeFailed {job : JpegData} (pc : s.pc = .encode job) :
      Outcome s .encodeFailed { s with
        ongoingJpegQ := s.ongoingJpegQ.dequeueLast
        pc := .fwk
        reproc := s.reproc.map fun r => r.regain job
        returned := s.returned ++ job.returns s.reproc
        freed := s.freed ++ job.frees
        owed := s.owed + 1
        freedJobs := s.freedJobs ++ [job.addr] }
  | startJob {job : JpegData} {jobId : ℕ} (pc : s.pc = .encode job) (hid : jobId ≠ 0) :
      Outcome s (.startJob jobId) { s with
        running := s.running ++ [(jobId, job.addr)], pc := .started job jobId }
  | storeJobId {job : JpegData} {jobId : ℕ} (pc : s.pc = .started job jobId) :
      Outcome s .storeJobId { s with
        jobId := Function.update s.jobId job.addr jobId, pc := .fwk }
  | noFwk {malloc : Option ℕ} (pc : s.pc = .fwk) (none : s.inputFWKPPQ.dequeue.1 = none) :
      Outcome s (.takeFwk malloc) { s with pc := .pp }
  | fwkNoJob {frame : FwkInput} {q : Queue FwkInput} (pc : s.pc = .fwk)
      (waits : s.inputFWKPPQ.dequeue = (some frame, q)) :
      Outcome s (.takeFwk none) { s with
        inputFWKPPQ := q, jpegSettingsQ := s.jpegSettingsQ.dequeue.2, pc := .pp }
  | fwkNoChannel {frame : FwkInput} {q : Queue FwkInput} {addr : ℕ} (pc : s.pc = .fwk)
      (waits : s.inputFWKPPQ.dequeue = (some frame, q)) (channel : s.reproc = none) :
      Outcome s (.takeFwk (some addr)) { s with
        inputFWKPPQ := q
        jpegSettingsQ := s.jpegSettingsQ.dequeue.2
        mallocs := s.mallocs ++ [addr]
        freedJobs := s.freedJobs ++ [addr]
        pc := .pp }
  | takeFwk {frame : FwkInput} {q : Queue FwkInput} {addr : ℕ} {r : Reproc} {job : PpData}
      (pc : s.pc = .fwk) (waits : s.inputFWKPPQ.dequeue = (some frame, q))
      (channel : s.reproc = some r) (hjob : job =
        { addr := addr, fwkSrcFrame := some frame, jpegSettings := s.jpegSettingsQ.dequeue.1 }) :
      Outcome s (.takeFwk (some addr)) { s with
        inputFWKPPQ := q
        jpegSettingsQ := s.jpegSettingsQ.dequeue.2
        mallocs := s.mallocs ++ [addr]
        ongoingPPQ := s.ongoingPPQ.enqueue job
        pc := .fwkReproc job frame }
  | fwkReprocNone {job : PpData} {frame : FwkInput} {out : Offline} (pc : s.pc = .fwkReproc job frame)
      (channel : s.reproc = none) : Outcome s (.fwkReproc out) { s with pc := .pp }
  | fwkReproc {job : PpData} {frame : FwkInput} {r : Reproc} (pc : s.pc = .fwkReproc job frame)
      (channel : s.reproc = some r) :
      Outcome s (.fwkReproc .submitted) { s with
        reproc := some (r.doReprocessOffline frame.frameNumber .submitted).2, pc := .pp }
  | fwkReprocFailed {job : PpData} {frame : FwkInput} {out : Offline} {r : Reproc}
      (pc : s.pc = .fwkReproc job frame) (channel : s.reproc = some r) (failed : out ≠ .submitted) :
      Outcome s (.fwkReproc out) { s with
        reproc := some (r.doReprocessOffline frame.frameNumber out).2
        pc := .pp
        ongoingPPQ := s.ongoingPPQ.dequeueLast
        freedJobs := s.freedJobs ++ [job.addr] }
  | noPair {malloc jpegMalloc : Option ℕ} (pc : s.pc = .pp)
      (none : s.inputPPQ.items = [] ∨ s.inputMetaQ.items = []) :
      Outcome s (.takePP malloc jpegMalloc) { s with pc := .idle }
  | pairNoJob {malloc jpegMalloc : Option ℕ} (pc : s.pc = .pp) (waits : s.inputPPQ.items ≠ [])
      (waitsMeta : s.inputMetaQ.items ≠ [])
      (lost : malloc = none ∨ s.inputMetaQ.dequeue.1 = none ∨ s.inputPPQ.dequeue.1 = none) :
      Outcome s (.takePP malloc jpegMalloc)
        ((s.tookPair malloc).cleanUp malloc s.inputPPQ.dequeue.1 s.inputMetaQ.dequeue.1)
  | pairReproc {addr : ℕ} {jpegMalloc : Option ℕ} {b : SuperBuf} {buf : PpBuffer} {r : Reproc}
      {pq : Queue PpBuffer} {mq : Queue SuperBuf} (pc : s.pc = .pp)
      (waits : s.inputPPQ.dequeue = (some buf, pq)) (waitsMeta : s.inputMetaQ.dequeue = (some b, mq))
      (channel : s.reproc = some r) :
      Outcome s (.takePP (some addr) jpegMalloc) { s with
        inputPPQ := pq
        inputMetaQ := mq
        jpegSettingsQ := s.jpegSettingsQ.dequeue.2
        mallocs := s.mallocs ++ [addr]
        ongoingPPQ := s.ongoingPPQ.enqueue (s.pairJob addr buf b)
        pc := .ppReproc (s.pairJob addr buf b) buf }
  | pairJpeg {addr a : ℕ} {b : SuperBuf} {buf : PpBuffer} {pq : Queue PpBuffer}
      {mq : Queue SuperBuf} {job : PpData} {q : Queue PpData} {x : JpegSettings} (pc : s.pc = .pp)
      (waits : s.inputPPQ.dequeue = (some buf, pq)) (waitsMeta : s.inputMetaQ.dequeue = (some b, mq))
      (channel : s.reproc = none)
      (ongoing : (s.ongoingPPQ.enqueue (s.pairJob addr buf b)).dequeue = (some job, q))
      (settings : job.jpegSettings = some x)
      (frames : ¬(job.srcFrame = none ∧ job.fwkSrcFrame = none)) :
      Outcome s (.takePP (some addr) (some a)) { s with
        inputPPQ := pq
        inputMetaQ := mq
        jpegSettingsQ := s.jpegSettingsQ.dequeue.2
        mallocs := s.mallocs ++ [addr, a]
        ongoingPPQ := q
        freedJobs := s.freedJobs ++ [job.addr]
        inputJpegQ := s.inputJpegQ.enqueue (PostProcessor.jpegJob job buf.input x a)
        owed := s.owed + 1
        pc := .idle }
  | pairCleaned {addr : ℕ} (jpegMalloc : Option ℕ) {b : SuperBuf} {buf : PpBuffer}
      {pq : Queue PpBuffer} {mq : Queue SuperBuf} (pc : s.pc = .pp)
      (waits : s.inputPPQ.dequeue = (some buf, pq)) (waitsMeta : s.inputMetaQ.dequeue = (some b, mq))
      (channel : s.reproc = none)
      (lost : ∀ job, (s.ongoingPPQ.enqueue (s.pairJob addr buf b)).dequeue.1 = some job →
        (job.srcFrame = none ∧ job.fwkSrcFrame = none) ∨ job.jpegSettings = none ∨
          jpegMalloc = none) :
      Outcome s (.takePP (some addr) jpegMalloc) { s with
        inputPPQ := pq
        inputMetaQ := mq
        jpegSettingsQ := s.jpegSettingsQ.dequeue.2
        mallocs := s.mallocs ++ [addr]
        ongoingPPQ := (s.ongoingPPQ.enqueue (s.pairJob addr buf b)).dequeue.2
        streamQueued := s.streamQueued ++ [(buf.input.bufIdx, none)]
        returned := s.returned ++ [buf.input, b]
        freed := s.freed ++ [buf.input, b]
        freedJobs := s.freedJobs ++ [addr]
        pc := .idle }
  | ppReprocNone {job : PpData} {buf : PpBuffer} {overridden : Bool} {out : Offline}
      (pc : s.pc = .ppReproc job buf) (channel : s.reproc = none) :
      Outcome s (.ppReproc overridden out) { s with pc := .idle }
  | ppReproc {job : PpData} {buf : PpBuffer} {r : Reproc} (pc : s.pc = .ppReproc job buf)
      (channel : s.reproc = some r) :
      Outcome s (.ppReproc true .submitted) { s with
        reproc := some (r.doReprocessOffline buf.input.request .submitted).2, pc := .idle }
  | ppReprocFailed {job : PpData} {buf : PpBuffer} {out : Offline} {r : Reproc}
      (pc : s.pc = .ppReproc job buf) (channel : s.reproc = some r) (failed : out ≠ .submitted) :
      Outcome s (.ppReproc true out) { s with
        reproc := some (r.doReprocessOffline buf.input.request out).2
        pc := .idle
        ongoingPPQ := s.ongoingPPQ.dequeueLast
        streamQueued := s.streamQueued ++ [(buf.input.bufIdx, none)]
        returned := s.returned ++ (buf.input :: job.srcMetadata.toList)
        freed := s.freed ++ (buf.input :: job.srcMetadata.toList)
        freedJobs := s.freedJobs ++ [job.addr] }
  | overrideFailed {job : PpData} {buf : PpBuffer} {out : Offline} {r : Reproc}
      (pc : s.pc = .ppReproc job buf) (channel : s.reproc = some r) :
      Outcome s (.ppReproc false out) { s with
        pc := .idle
        streamQueued := s.streamQueued ++ [(buf.input.bufIdx, none)]
        returned := s.returned ++ (buf.input :: job.srcMetadata.toList)
        freed := s.freed ++ (buf.input :: job.srcMetadata.toList)
        freedJobs := s.freedJobs ++ [job.addr] }

namespace PostOp

variable {s t : PostProcessor}

private theorem processed_outcome {addr : ℕ} {malloc : Option ℕ}
    (h : exec s (.processed addr malloc) = some t) : Outcome s (.processed addr malloc) t := by
  obtain ⟨r, hr, h⟩ := Option.bind_eq_some_iff.mp h
  split at h
  · next htype =>
    unfold PostProcessor.processed at h
    split at h
    · next idx queued request rest hq hs =>
      simp only at h
      split at h
      · next u hmade =>
        cases h
        rcases takeProcessed_cases hmade with
          ⟨-, rfl, hnone⟩ | ⟨job, q, hdeq, ⟨-, rfl, hlost⟩ | ⟨x, a, -, -, -, hsome, -⟩⟩
        · exact .processedNone hr htype hq hs hnone
        · exact .processedLost hr htype hq hs hdeq hlost
        · cases hsome
      · next jpegJob u hmade =>
        cases h
        rcases takeProcessed_cases hmade with
          ⟨hnone, -, -⟩ | ⟨job, q, hdeq, ⟨hnone, -, -⟩ | ⟨x, a, hx, rfl, hframes, hsome, rfl⟩⟩
        · cases hnone
        · cases hnone
        · cases hsome
          exact .processedJob hr htype hq hs hdeq hx hframes
    · cases h
  · next htype =>
    unfold reprocessed at h
    split at h
    · cases h
    next request rest hs =>
    rcases hq : s.ongoingPPQ.dequeue with ⟨_ | job, q⟩ <;> simp only [hq] at h <;> cases h
    · exact .reprocessedNone hr htype hs (by rw [hq])
    · exact .reprocessedJob hr htype hs hq

private theorem fwkInput_outcome (frame : FwkInput) (malloc : Option ℕ) :
    Outcome s (.fwkInput frame malloc) (s.processFwk frame malloc) := by
  unfold processFwk
  split
  · next hre => exact .fwkWaits hre
  · next hre =>
    rw [Bool.not_eq_true] at hre
    rcases hq : s.jpegSettingsQ.dequeue with ⟨_ | x, q⟩
    · exact .fwkNoSettings hre (by rw [hq])
    · rcases malloc with _ | addr
      · exact .fwkNoMemory hre hq
      · exact .fwkJob hre hq

private theorem jpegCallback_outcome {jobId : ℕ} (h : s.jpegCallback jobId = some t) :
    Outcome s (.jpegCallback jobId) t := by
  unfold PostProcessor.jpegCallback at h
  rcases hrun : s.running.find? fun x => x.1 == jobId with _ | ⟨id, addr⟩
  · simp [hrun] at h
  have hid : id = jobId := by simpa using List.find?_some hrun
  subst hid
  have hruns := List.mem_of_find?_eq_some hrun
  simp only [hrun, findJpegJobByJobId] at h
  by_cases h0 : id = 0
  · simp only [if_pos h0] at h
    cases h
    exact .callbackNone hruns (.inl h0)
  · simp only [if_neg h0] at h
    rcases hq : s.ongoingJpegQ.dequeue with ⟨_ | job, q⟩ <;> simp only [hq] at h <;> cases h
    · obtain ⟨rfl, -⟩ := Queue.dequeue_none hq
      exact .callbackNone hruns (.inr (by rw [hq]))
    · exact .callback hruns hq

private theorem start_outcome {reprocessType : ReprocessType} {ok : Bool}
    (h : s.start reprocessType ok = some t) : Outcome s (.start reprocessType ok) t := by
  unfold PostProcessor.start at h
  split at h
  · next hctl =>
    by_cases htype : reprocessType = .none
    · rw [if_pos htype] at h
      cases h
      subst htype
      exact .startNoReproc hctl.1 hctl.2
    · rw [if_neg htype] at h
      rcases ok with _ | _ <;> cases h
      · exact .startFailed hctl.1 hctl.2 htype
      · exact .startReproc hctl.1 hctl.2 htype
  · cases h

private theorem getCmd_outcome (h : s.getCmd = some t) : Outcome s .getCmd t := by
  unfold PostProcessor.getCmd at h
  split at h
  · next rest hpc hcmds =>
    cases h
    exact .startDataProc hpc hcmds
  · next rest hpc hcmds =>
    cases h
    exact .stopDataProc hpc hcmds
  · next rest hpc hcmds =>
    cases h
    split
    · next hactive => exact .doNextJob hpc hcmds hactive
    · next hactive => exact .giveBack hpc hcmds (Bool.not_eq_true _ ▸ hactive)
  · cases h

private theorem takeJpeg_outcome (hpc : s.pc = .jpeg) : Outcome s .takeJpeg s.takeJpeg := by
  unfold PostProcessor.takeJpeg
  split
  · next hongoing =>
    have hitems : s.ongoingJpegQ.items = [] := List.isEmpty_iff.mp hongoing
    split
    · next hq => exact .noJpeg hpc (.inr (by rw [hq]))
    · next hq => exact .takeJpeg hpc hitems hq
  · next hongoing => exact .noJpeg hpc (.inl fun hnil => hongoing (List.isEmpty_iff.mpr hnil))

private theorem takeFwk_outcome (malloc : Option ℕ) (hpc : s.pc = .fwk) :
    Outcome s (.takeFwk malloc) (s.takeFwk malloc) := by
  unfold PostProcessor.takeFwk
  split
  · next hq => exact .noFwk hpc (by rw [hq])
  next frame q hq =>
  rcases malloc with _ | addr
  · exact .fwkNoJob hpc hq
  · simp only
    split
    · next hr => exact .fwkNoChannel hpc hq hr
    · next r hr => exact .takeFwk hpc hq hr rfl

private theorem fwkReproc_outcome {job : PpData} {frame : FwkInput} (out : Offline)
    (hpc : s.pc = .fwkReproc job frame) :
    Outcome s (.fwkReproc out) (s.fwkReproc job frame out) := by
  unfold PostProcessor.fwkReproc
  split
  · next hr => exact .fwkReprocNone hpc hr
  · next r hr =>
    rcases out with _ | _ | _ | _
    · exact .fwkReprocFailed hpc hr nofun
    · exact .fwkReprocFailed hpc hr nofun
    · exact .fwkReprocFailed hpc hr nofun
    · exact .fwkReproc hpc hr

private theorem takePP_outcome (malloc jpegMalloc : Option ℕ) (hpc : s.pc = .pp) :
    Outcome s (.takePP malloc jpegMalloc) (s.takePP malloc jpegMalloc) := by
  by_cases hempty : s.inputPPQ.items = [] ∨ s.inputMetaQ.items = []
  · have hif : (s.inputPPQ.isEmpty || s.inputMetaQ.isEmpty) = true := by simpa [Queue.isEmpty]
    rw [PostProcessor.takePP, if_pos hif]
    exact .noPair hpc hempty
  have hif : ¬(s.inputPPQ.isEmpty || s.inputMetaQ.isEmpty) = true := by
    simpa [Queue.isEmpty, not_or] using hempty
  obtain ⟨hpp, hmeta⟩ := not_or.mp hempty
  rw [PostProcessor.takePP, if_neg hif]
  rcases malloc with _ | addr
  · exact .pairNoJob hpc hpp hmeta (.inl rfl)
  rcases hb : s.inputMetaQ.dequeue with ⟨_ | b, mq⟩
  · have hout := @Outcome.pairNoJob s (some addr) jpegMalloc hpc hpp hmeta
      (.inr (.inl (by rw [hb])))
    simpa only [tookPair, hb] using hout
  rcases hbuf : s.inputPPQ.dequeue with ⟨_ | buf, pq⟩
  · have hout := @Outcome.pairNoJob s (some addr) jpegMalloc hpc hpp hmeta
      (.inr (.inr (by rw [hbuf])))
    simpa only [tookPair, hb, hbuf] using hout
  -- one of each is taken
  simp only
  split
  · next r hr => exact .pairReproc hpc hbuf hb hr
  next hr =>
  split
  · next jpegJob v hv =>
    -- the JPEG job is made of the first ongoing job
    rcases takeProcessed_cases hv with
      ⟨hnone, -, -⟩ | ⟨j, q, hdeq, ⟨hnone, -, -⟩ | ⟨x, a, hx, rfl, hframes, hmade, rfl⟩⟩
    · cases hnone
    · cases hnone
    · cases hmade
      simpa only [queueJpeg, owe, List.append_assoc, List.cons_append,
        List.nil_append, Option.toList_some] using
        Outcome.pairJpeg hpc hbuf hb hr hdeq hx hframes
  · next v hv =>
    rw [cleanUp_eq]
    rcases takeProcessed_cases hv with
      ⟨-, rfl, hnone⟩ | ⟨j, q, hdeq, ⟨-, rfl, hlost⟩ | ⟨x, a, hx, ha, hframes, hmade, -⟩⟩
    · -- a queue that is off gives nothing and stays
      have hnone' : (s.ongoingPPQ.enqueue (s.pairJob addr buf b)).dequeue.1 = none := hnone
      have hstay : (s.ongoingPPQ.enqueue (s.pairJob addr buf b)).dequeue.2 =
          s.ongoingPPQ.enqueue (s.pairJob addr buf b) :=
        (Queue.dequeue_none (Prod.ext hnone' rfl)).1
      have hout := Outcome.pairCleaned jpegMalloc hpc hbuf hb hr
        fun job hjob => by cases hnone'.symm.trans hjob
      simp only [hstay] at hout
      exact hout
    · have hdeq' : (s.ongoingPPQ.enqueue (s.pairJob addr buf b)).dequeue = (some j, q) := hdeq
      have hout := Outcome.pairCleaned jpegMalloc hpc hbuf hb hr fun job hjob => (by
          rw [hdeq'] at hjob
          cases hjob
          exact hlost)
      rw [hdeq'] at hout
      exact hout
    · cases hmade

private theorem ppReproc_outcome {job : PpData} {buf : PpBuffer} (overridden : Bool) (out : Offline)
    (hpc : s.pc = .ppReproc job buf) :
    Outcome s (.ppReproc overridden out) (s.ppReproc job buf overridden out) := by
  unfold PostProcessor.ppReproc
  simp only
  split
  · next hr => exact .ppReprocNone hpc hr
  next r hr =>
  rcases overridden with _ | _
  · rw [if_neg Bool.false_ne_true, cleanUp_eq]
    exact .overrideFailed hpc hr
  · rw [if_pos rfl]
    rcases out with _ | _ | _ | _
    case submitted => exact .ppReproc hpc hr
    all_goals
      simp only [Reproc.doReprocessOffline, Bool.false_eq_true, if_false, cleanUp_eq]
      exact .ppReprocFailed hpc hr nofun

theorem outcome {op : PostOp} (h : op.exec s = some t) : Outcome s op t := by
  rcases op with x | ⟨request, allocateOne⟩ | ⟨addr, content⟩ | ⟨b, n⟩ | b | ⟨frame, malloc⟩ |
    ⟨addr, malloc⟩ | addr | addr | jobId | addr | _ | _ | _ | ⟨ty, ok⟩ | _ | _ | _ | _ | _ | jobId |
    _ | malloc | out | ⟨malloc, jpegMalloc⟩ | ⟨overridden, out⟩
  -- each case unfolds one operation, or takes the cases of its own lemma
  case processed => exact processed_outcome h
  all_goals simp only [PostOp.exec] at h
  case jpegSetting =>
    cases h
    exact .jpegSetting x
  case queueBuf =>
    unfold PostProcessor.queueBuf at h
    split at h
    · next hfree =>
      cases h
      exact .queueFree hfree
    · next hfree =>
      split at h <;> cases h
      next hallocate =>
      subst hallocate
      exact .queueNew hfree
  case streamCb =>
    unfold PostProcessor.streamCb at h
    split at h <;> cases h
    next hqueued =>
    rw [processInput_eq]
    exact .streamCb hqueued _
  case input =>
    split at h <;> cases h
    next hkind =>
    rw [processInput_eq]
    exact .input hkind _
  case metadata =>
    split at h <;> cases h
    next hkind =>
    rw [processPPMetadata_eq]
    exact .metadata hkind _
  case fwkInput =>
    cases h
    exact fwkInput_outcome frame malloc
  case land =>
    unfold PostProcessor.land at h
    split at h <;> cases h
    next job hfind => exact .land hfind

  case ppDone =>
    unfold PostProcessor.ppDone at h
    split at h <;> cases h
    next job hfind =>
    rw [releasePPJobData_eq]
    exact .ppDone hfind

  case jpegCallback =>
    exact jpegCallback_outcome h

  case jpegDone =>
    unfold PostProcessor.jpegDone at h
    split at h <;> cases h
    next c hfind =>
    rw [releaseJpegJobData_eq]
    exact .jpegDone hfind

  case flushTake =>
    unfold PostProcessor.flushTake at h
    split at h <;> cases h
    next hnone hq => exact .flushTake hnone hq

  case flushRelease =>
    obtain ⟨job, hjob, rfl⟩ := Option.map_eq_some_iff.mp h
    rw [abandon_eq, dropJpeg_eq]
    exact .flushRelease hjob

  case send =>
    split at h <;> cases h
    next howed => exact .send howed
  case start =>
    exact start_outcome h

  case stop =>
    unfold PostProcessor.stop at h
    split at h <;> cases h
    next hctl => exact .stop hctl
  case stopChannel =>
    unfold PostProcessor.stopChannel at h
    split at h <;> cases h
    next hctl => exact .stopChannel hctl
  case getCmd =>
    exact getCmd_outcome h

  case takeJpeg =>
    split at h <;> cases h
    next hpc => exact takeJpeg_outcome hpc

  case encodeFailed =>
    split at h <;> cases h
    next job hpc =>
    rw [encodeFailed_eq, dropJpeg_eq]
    exact .encodeFailed hpc
  case startJob =>
    split at h
    · next job hpc =>
      split at h <;> cases h
      next hid => exact .startJob hpc hid
    · cases h
  case storeJobId =>
    split at h <;> cases h
    next job jobId hpc => exact .storeJobId hpc
  case takeFwk =>
    split at h <;> cases h
    next hpc => exact takeFwk_outcome malloc hpc

  case fwkReproc =>
    split at h <;> cases h
    next job frame hpc => exact fwkReproc_outcome out hpc

  case takePP =>
    split at h <;> cases h
    next hpc => exact takePP_outcome malloc jpegMalloc hpc
  case ppReproc =>
    split at h <;> cases h
    next job buf hpc => exact ppReproc_outcome overridden out hpc

end PostOp

end PostProc
