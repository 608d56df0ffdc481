import MidoCamera.PostProc.Control
import MidoCamera.Library.Allocation

/-!
# The JPEG callback and its job

At most one JPEG job is ongoing, and so the callback takes the first ongoing job, whatever its id.
This job is the one that was started, unless `flush` took that and another one is ongoing by then.
The data thread still writes the id into the job when the encoder runs; `flush` reads it, and a
callback or a `flush` that is quicker than the data thread frees the job before.
-/

namespace PostProc

open Loop List PostOp PostProcessor Queue

variable {job : JpegData} {q : Queue JpegData}

/-- The job that the data thread has in its hands on the way to the encoder. -/
def Pc.encoding : Pc → Option JpegData
  | .encode job | .started job _ => some job
  | _ => none

/-- The post-processor, with the ids under which jobs were started and the ids that were aborted. -/
structure Encodings where
  post : PostProcessor
  started : List (ℕ × ℕ) := []
  aborted : List (ℕ × ℕ) := []

/-- The id that `start_job` gives, and the job that it gives it for. -/
def PostOp.given (s : PostProcessor) : PostOp → List (ℕ × ℕ)
  | .startJob jobId => s.pc.encoding.toList.map fun job => (jobId, job.addr)
  | _ => []

/-- The ids that are passed to `abort_job`, each with the job that it was read from. -/
def PostOp.aborts (s : PostProcessor) : PostOp → List (ℕ × ℕ)
  | .flushRelease => s.flushing.toList.map fun job => (s.jobId job.addr, job.addr)
  | .getCmd =>
    if s.cmds.head? = some .stopDataProc then
      s.ongoingJpegQ.items.map fun job => (s.jobId job.addr, job.addr)
    else []
  | _ => []

/-- No callback and no `flush` is quicker than the data thread: a job is not released while the data
thread has it in its hands, nor failed while `flush` has; and while `flush` has a job that still
runs, no other is ongoing when its callback comes. -/
def PostOp.InTime (s : PostProcessor) : PostOp → Prop
  | .jpegCallback jobId => ∀ job ∈ s.flushing, (jobId, job.addr) ∈ s.running → s.ongoingJpegQ.items = []
  | .jpegDone addr => ∀ job ∈ s.pc.encoding, job.addr ≠ addr
  | .flushRelease | .encodeFailed => ∀ job ∈ s.pc.encoding, ∀ f ∈ s.flushing, f.addr ≠ job.addr
  | _ => True

/-- A step, with what it gives and aborts. -/
structure Encodings.Step (op : PostOp) (s t : Encodings) : Prop where
  step : op.Step s.post t.post
  started : t.started = s.started ++ op.given s.post
  aborted : t.aborted = s.aborted ++ op.aborts s.post

def Encodings.Proper (op : PostOp) (s t : Encodings) : Prop := op.InTime s.post ∧ Step op s t

def Encodings.next (s : Encodings) (op : PostOp) (u : PostProcessor) : Encodings :=
  ⟨u, s.started ++ op.given s.post, s.aborted ++ op.aborts s.post⟩

theorem Encodings.Step.of_exec {op : PostOp} {s : Encodings} {u : PostProcessor}
    (fresh : op.Fresh s.post) (h : op.exec s.post = some u) : Step op s (s.next op u) :=
  ⟨⟨fresh, h⟩, rfl, rfl⟩

def Encodings.begin (reprocessType : Option ReprocessType) : Encodings :=
  { post := .started reprocessType }

namespace PostProcessor

/-- The JPEG jobs that somebody has or that are in a queue. -/
def jpegAddrs (s : PostProcessor) : List ℕ :=
  s.landing.map JpegData.addr ++ s.inputJpegQ.items.map JpegData.addr ++
    s.ongoingJpegQ.items.map JpegData.addr ++ s.completing.map (fun c => c.job.addr) ++
    s.flushing.toList.map JpegData.addr

/-- The post-processing jobs that somebody has or that are in a queue. -/
def ppJobs (s : PostProcessor) : List PpData :=
  s.ongoingPPQ.items ++ s.ppCompleting ++ s.pc.ppJob.toList

def ppAddrs (s : PostProcessor) : List ℕ := s.ppJobs.map PpData.addr

end PostProcessor

/-- The job that a callback took is the one that was started under its id; an id that was aborted
was given for that job; and no JPEG job that somebody has is freed. -/
structure Encodings.Sound (s : Encodings) : Prop where
  completes : ∀ c ∈ s.post.completing, c.job.addr = c.startedJob
  aborts : ∀ x ∈ s.aborted, x ∈ s.started
  queued : ∀ addr ∈ s.post.jpegAddrs, addr ∉ s.post.freedJobs
  encoding : ∀ job ∈ s.post.pc.encoding, job.addr ∉ s.post.freedJobs

/-! ## The ongoing job -/

/-- What is ongoing, with the data thread, with `flush` and with the encoder. -/
structure Slot (s : Encodings) : Prop where
  single : s.post.ongoingJpegQ.items.length ≤ 1
  mine : ∀ job ∈ s.post.pc.encoding, ∀ j ∈ s.post.ongoingJpegQ.items, j = job
  encode : ∀ job, s.post.pc = .encode job →
    (job ∈ s.post.ongoingJpegQ.items ∨ job ∈ s.post.flushing) ∧
      ∀ x ∈ s.post.running, x.2 ≠ job.addr
  begun : ∀ job jobId, s.post.pc = .started job jobId →
    (job ∈ s.post.ongoingJpegQ.items ∨ job ∈ s.post.flushing ∨
      ∃ c ∈ s.post.completing, c.job = job) ∧
      (jobId, job.addr) ∈ s.started ∧ ∀ x ∈ s.post.running, x.2 = job.addr → x.1 = jobId
  running : ∀ x ∈ s.post.running,
    (∃ j ∈ s.post.ongoingJpegQ.items, j.addr = x.2) ∨ ∃ j ∈ s.post.flushing, j.addr = x.2
  ids : ∀ x ∈ s.post.running, s.post.jobId x.2 = x.1 ∨ ∃ job ∈ s.post.pc.encoding, job.addr = x.2
  once : (s.post.running.map Prod.snd).Nodup
  stored : ∀ j, j ∈ s.post.ongoingJpegQ.items ∨ j ∈ s.post.flushing →
    j ∈ s.post.pc.encoding ∨ (s.post.jobId j.addr, j.addr) ∈ s.started
  completes : ∀ c ∈ s.post.completing, c.job.addr = c.startedJob
  aborts : ∀ x ∈ s.aborted, x ∈ s.started

/-- The invariant: the control, the jobs' addresses and the ongoing job. -/
structure Kept (s : Encodings) : Prop where
  control : Control s.post
  jobs : Allocated s.post.jpegAddrs s.post.ppAddrs s.post.freedJobs s.post.mallocs
  slot : Slot s

variable {s t : Encodings}

theorem Encodings.begin_kept (reprocessType : Option ReprocessType) : Kept (.begin reprocessType) where
  control := started_control reprocessType
  jobs := .nil _
  slot := by
    constructor <;> simp [Encodings.begin, PostProcessor.started, PostProcessor.active, Pc.encoding]

theorem Slot.taken (hs : Slot s) (ongoing : s.post.ongoingJpegQ.dequeue = (some job, q)) :
    s.post.ongoingJpegQ.items = [job] ∧ q.items = [] := by
  obtain ⟨-, hitems, -⟩ := dequeue_some ongoing
  have hsingle := hs.single
  rw [hitems, length_cons] at hsingle
  have hnil : q.items = [] := length_eq_zero_iff.mp (by omega)
  exact ⟨hnil ▸ hitems, hnil⟩

namespace Slot

variable {u : PostProcessor}

theorem mono (hs : Slot s) (ongoing : u.ongoingJpegQ = s.post.ongoingJpegQ)
    (flushing : u.flushing = s.post.flushing) (completing : u.completing = s.post.completing)
    (running : u.running = s.post.running) (jobId : u.jobId = s.post.jobId)
    (pc : u.pc = s.post.pc ∨ u.pc.encoding = none ∧ s.post.pc.encoding = none) :
    Slot { s with post := u } := by
  have hpc : u.pc.encoding = s.post.pc.encoding := by
    rcases pc with pc | ⟨h, h'⟩
    · rw [pc]
    · rw [h, h']
  have hback : ∀ {pc' : Pc}, pc'.encoding.isSome → u.pc = pc' → s.post.pc = pc' := fun hsome h => by
    rcases pc with pc | ⟨hnone, -⟩
    · exact pc ▸ h
    · rw [h] at hnone
      simp [hnone] at hsome
  refine ⟨?_, ?_, fun job h => ?_, fun job id h => ?_, ?_, ?_, ?_, ?_, ?_, hs.aborts⟩ <;>
    simp only [ongoing, flushing, completing, running, jobId, hpc]
  · exact hs.single
  · exact hs.mine
  · exact hs.encode job (hback rfl h)
  · exact hs.begun job _ (hback rfl h)
  · exact hs.running
  · exact hs.ids
  · exact hs.once
  · exact hs.stored
  · exact hs.completes

theorem callbackNone (hs : Slot s) (jobId : ℕ) : Slot { s with
    post := { s.post with running := s.post.running.filter fun x => x.1 ≠ jobId } } where
  single := hs.single
  mine := hs.mine
  encode job h := ⟨(hs.encode job h).1, fun x hx => (hs.encode job h).2 x (mem_of_mem_filter hx)⟩
  begun job jobId h := ⟨(hs.begun job jobId h).1, (hs.begun job jobId h).2.1,
    fun x hx => (hs.begun job jobId h).2.2 x (mem_of_mem_filter hx)⟩
  running x hx := hs.running x (mem_of_mem_filter hx)
  ids x hx := hs.ids x (mem_of_mem_filter hx)
  once := hs.once.sublist (filter_sublist.map Prod.snd)
  stored := hs.stored
  completes := hs.completes
  aborts := hs.aborts

/-- **The callback takes the job that was started.** -/
theorem callback (hs : Slot s) {jobId addr : ℕ}
    (runs : (jobId, addr) ∈ s.post.running) (ongoing : s.post.ongoingJpegQ.dequeue = (some job, q))
    (inTime : PostOp.InTime s.post (.jpegCallback jobId)) : Slot { s with post := { s.post with
      running := s.post.running.filter fun x => x.1 ≠ jobId
      ongoingJpegQ := q
      completing := s.post.completing ++ [⟨jobId, addr, job⟩] } } := by
  obtain ⟨hitems, hnil⟩ := hs.taken ongoing
  -- a job that `flush` has would leave none ongoing
  have haddr : job.addr = addr := by
    rcases hs.running _ runs with ⟨j, hj, haddr⟩ | ⟨j, hj, haddr⟩
    · rw [hitems, mem_singleton] at hj
      exact hj ▸ haddr
    · have hnone := inTime j hj (haddr ▸ runs)
      rw [hitems] at hnone
      cases hnone
  have hother : ∀ x ∈ s.post.running, x.1 ≠ jobId → x.2 ≠ addr := fun x hx hne heq =>
    hne (congrArg Prod.fst (inj_on_of_nodup_map hs.once hx runs heq))
  refine ⟨by simp [hnil], by simp [hnil], fun job' h => ?_, fun job' id h => ?_, fun x hx => ?_,
    fun x hx => hs.ids x (mem_of_mem_filter hx), hs.once.sublist (filter_sublist.map _),
    fun j hj => ?_, fun c hc => ?_, hs.aborts⟩
  · obtain ⟨hhas, hfree⟩ := hs.encode job' h
    refine ⟨.inr (hhas.resolve_left fun hin => ?_), fun x hx => hfree x (mem_of_mem_filter hx)⟩
    rw [hitems, mem_singleton] at hin
    exact hfree _ runs (hin ▸ haddr.symm)
  · obtain ⟨hhas, hgiven, hid⟩ := hs.begun job' id h
    refine ⟨?_, hgiven, fun x hx => hid x (mem_of_mem_filter hx)⟩
    rcases hhas with hin | hin | ⟨c, hc, hin⟩
    · rw [hitems, mem_singleton] at hin
      exact .inr (.inr ⟨_, mem_append_right _ (mem_singleton_self _), hin.symm⟩)
    · exact .inr (.inl hin)
    · exact .inr (.inr ⟨c, mem_append_left _ hc, hin⟩)
  · rw [mem_filter, decide_eq_true_iff] at hx
    refine .inr ((hs.running x hx.1).resolve_left ?_)
    rintro ⟨j, hj, hjx⟩
    rw [hitems, mem_singleton] at hj
    exact hother x hx.1 hx.2 (hjx ▸ hj ▸ haddr)
  · refine hs.stored j (.inr (hj.resolve_left ?_))
    simp [hnil]
  · rcases mem_append.mp hc with hc | hc
    · exact hs.completes c hc
    · rw [mem_singleton.mp hc]
      exact haddr

theorem jpegDone (hs : Slot s) {addr : ℕ} (ongoing : u.ongoingJpegQ = s.post.ongoingJpegQ)
    (flushing : u.flushing = s.post.flushing)
    (completing : u.completing = takeOut (fun c => c.job.addr) addr s.post.completing)
    (running : u.running = s.post.running) (jobId : u.jobId = s.post.jobId)
    (pc : u.pc = s.post.pc) (inTime : PostOp.InTime s.post (.jpegDone addr)) :
    Slot { s with post := u } := by
  have hcompletes : ∀ c ∈ u.completing, c.job.addr = c.startedJob := fun c hc =>
    hs.completes c ((takeOut_sublist _ _ _).subset (completing ▸ hc))
  refine ⟨?_, ?_, ?_, ?_, ?_, ?_, ?_, ?_, hcompletes, hs.aborts⟩ <;>
    simp only [ongoing, flushing, running, jobId, pc]
  · exact hs.single
  · exact hs.mine
  · exact hs.encode
  · intro job id h
    obtain ⟨hhas, hrest⟩ := hs.begun job id h
    refine ⟨hhas.imp_right fun hhas => hhas.imp_right fun ⟨c, hc, hjob⟩ => ⟨c, ?_, hjob⟩, hrest⟩
    have hne : c.job.addr ≠ addr := hjob ▸ inTime job (by rw [h]; rfl)
    rw [completing]
    exact (mem_eraseP_of_neg (by simpa using hne)).mpr hc
  · exact hs.running
  · exact hs.ids
  · exact hs.once
  · exact hs.stored

theorem flushTake (hs : Slot s)
    (flushing : s.post.flushing = none) (ongoing : s.post.ongoingJpegQ.dequeue = (some job, q)) :
    Slot { s with post := { s.post with ongoingJpegQ := q, flushing := some job } } := by
  obtain ⟨hitems, hnil⟩ := hs.taken ongoing
  -- what was ongoing is what `flush` has now
  have hmoves : ∀ {j : JpegData}, j ∈ s.post.ongoingJpegQ.items ∨ j ∈ s.post.flushing → j = job :=
    fun {j} hj => by
      rw [hitems, flushing] at hj
      simpa using hj
  refine ⟨by simp [hnil], by simp [hnil], fun job' h => ?_, fun job' id h => ?_, fun x hx => ?_,
    hs.ids, hs.once, fun j hj => ?_, hs.completes, hs.aborts⟩
  · obtain ⟨hhas, hfree⟩ := hs.encode job' h
    exact ⟨.inr (by simp [hmoves hhas]), hfree⟩
  · obtain ⟨hhas, hrest⟩ := hs.begun job' id h
    refine ⟨?_, hrest⟩
    rcases hhas with hin | hin | hin
    · exact .inr (.inl (by simp [hmoves (.inl hin)]))
    · exact .inr (.inl (by simp [hmoves (.inr hin)]))
    · exact .inr (.inr hin)
  · rcases hs.running x hx with ⟨j, hj, hjx⟩ | ⟨j, hj, hjx⟩
    · exact .inr ⟨j, by simp [hmoves (.inl hj)], hjx⟩
    · exact .inr ⟨j, by simp [hmoves (.inr hj)], hjx⟩
  · refine hs.stored j ?_
    simp only [hnil, not_mem_nil, Option.mem_some_iff, false_or] at hj
    exact .inl (by simp [hitems, hj])

theorem flushRelease (hs : Slot s) (flushing : s.post.flushing = some job)
    (hongoing : u.ongoingJpegQ = s.post.ongoingJpegQ) (hflushing : u.flushing = none)
    (completing : u.completing = s.post.completing)
    (running : u.running = s.post.running.filter fun x => x.1 ≠ s.post.jobId job.addr)
    (jobId : u.jobId = s.post.jobId) (pc : u.pc = s.post.pc)
    (inTime : PostOp.InTime s.post .flushRelease) :
    Slot { s with
      post := u
      aborted := s.aborted ++ [(s.post.jobId job.addr, job.addr)] } := by
  have hmine : ∀ job' ∈ s.post.pc.encoding, job.addr ≠ job'.addr := fun job' h =>
    inTime job' h job flushing
  have hnot : ∀ job' ∈ s.post.pc.encoding, job' ∉ s.post.flushing := fun job' h hin => by
    rw [flushing, Option.mem_some_iff] at hin
    exact hmine job' h (by rw [hin])
  refine ⟨?_, ?_, fun job' h => ?_, fun job' id h => ?_, fun x hx => ?_, fun x hx => ?_, ?_,
    fun j hj => ?_, ?_, fun x hx => ?_⟩ <;> simp only [hongoing, hflushing, completing, jobId, pc]
  · exact hs.single
  · exact hs.mine
  · have h' : s.post.pc = .encode job' := pc ▸ h
    obtain ⟨hhas, hfree⟩ := hs.encode job' h'
    refine ⟨.inl (hhas.resolve_right (hnot job' (by rw [h']; rfl))), fun x hx => ?_⟩
    rw [running] at hx
    exact hfree x (mem_of_mem_filter hx)
  · have h' : s.post.pc = .started job' id := pc ▸ h
    obtain ⟨hhas, hgiven, hid⟩ := hs.begun job' id h'
    refine ⟨hhas.imp_right fun hhas => .inr (hhas.resolve_left (hnot job' (by rw [h']; rfl))),
      hgiven, fun x hx => ?_⟩
    rw [running] at hx
    exact hid x (mem_of_mem_filter hx)
  · -- the encodings of the job are stopped
    rw [running, mem_filter, decide_eq_true_iff] at hx
    refine .inl ((hs.running x hx.1).resolve_right ?_)
    rintro ⟨j, hj, hjx⟩
    rw [flushing, Option.mem_some_iff] at hj
    rcases hs.ids x hx.1 with hid | ⟨job', hjob', haddr⟩
    · exact hx.2 (by rw [← hid, ← hjx, hj])
    · exact hmine job' hjob' (by rw [haddr, ← hjx, hj])
  · rw [running] at hx
    exact hs.ids x (mem_of_mem_filter hx)
  · rw [running]
    exact hs.once.sublist (filter_sublist.map _)
  · refine hs.stored j ?_
    rw [hongoing, hflushing] at hj
    exact .inl (hj.resolve_right (by simp))
  · exact hs.completes
  · rcases mem_append.mp hx with hx | hx
    · exact hs.aborts x hx
    · rw [mem_singleton.mp hx]
      refine (hs.stored job (.inr flushing)).resolve_left fun h => ?_
      exact hmine job h rfl

theorem takeJpeg (hs : Slot s) (hpc : s.post.pc = .jpeg)
    (none : s.post.ongoingJpegQ.items = []) (on : s.post.ongoingJpegQ.active = true)
    (fresh : ∀ j ∈ s.post.flushing, j.addr ≠ job.addr)
    (ongoing : u.ongoingJpegQ = s.post.ongoingJpegQ.enqueue job)
    (flushing : u.flushing = s.post.flushing) (completing : u.completing = s.post.completing)
    (running : u.running = s.post.running) (jobId : u.jobId = s.post.jobId)
    (pc : u.pc = .encode job) : Slot { s with post := u } := by
  have hitems : u.ongoingJpegQ.items = [job] := by rw [ongoing, enqueue_active on, none]; rfl
  have hflushed : ∀ x ∈ s.post.running, ∃ j ∈ s.post.flushing, j.addr = x.2 := fun x hx =>
    (hs.running x hx).resolve_left (by simp [none])
  refine ⟨?_, ?_, fun job' h => ?_, fun job' id h => ?_, fun x hx => ?_, fun x hx => ?_, ?_,
    fun j hj => ?_, ?_, hs.aborts⟩
  · simp [hitems]
  · simp [hitems, pc, Pc.encoding]
  · obtain rfl : job = job' := by simpa [pc] using h
    refine ⟨.inl (by simp [hitems]), fun x hx => ?_⟩
    rw [running] at hx
    obtain ⟨j, hj, hjx⟩ := hflushed x hx
    exact hjx ▸ fresh j hj
  · simp [pc] at h
  · rw [running] at hx
    rw [flushing]
    exact .inr (hflushed x hx)
  · rw [running] at hx
    rw [jobId]
    refine .inl ((hs.ids x hx).resolve_right ?_)
    rintro ⟨job', hjob', -⟩
    simp [hpc, Pc.encoding] at hjob'
  · rw [running]
    exact hs.once
  · simp only [hitems, mem_singleton, flushing, pc, Pc.encoding, Option.mem_some_iff, jobId] at hj ⊢
    refine hj.imp (fun h => h.symm) fun hj => ?_
    refine (hs.stored j (.inr hj)).resolve_left ?_
    simp [hpc, Pc.encoding]
  · rw [completing]
    exact hs.completes

theorem alone (hs : Slot s) (hpc : s.post.pc = .encode job)
    (inTime : PostOp.InTime s.post .encodeFailed) : s.post.ongoingJpegQ.items = [job] := by
  have hnot : job ∉ s.post.flushing := fun h => inTime job (by rw [hpc]; rfl) job h rfl
  have hin := (hs.encode job hpc).1.resolve_right hnot
  have hsingle := hs.single
  rcases h : s.post.ongoingJpegQ.items with _ | ⟨j, _ | ⟨j', js⟩⟩
  · simp [h] at hin
  · rw [h, mem_singleton] at hin
    rw [hin]
  · simp [h] at hsingle

theorem encodeFailed (hs : Slot s) (hpc : s.post.pc = .encode job)
    (on : s.post.ongoingJpegQ.active = true)
    (ongoing : u.ongoingJpegQ = s.post.ongoingJpegQ.dequeueLast)
    (flushing : u.flushing = s.post.flushing) (completing : u.completing = s.post.completing)
    (running : u.running = s.post.running) (jobId : u.jobId = s.post.jobId) (pc : u.pc = .fwk)
    (inTime : PostOp.InTime s.post .encodeFailed) :
    Slot { s with post := u } := by
  obtain ⟨-, hfree⟩ := hs.encode job hpc
  have hnot : job ∉ s.post.flushing := fun h => inTime job (by rw [hpc]; rfl) job h rfl
  have hitems := hs.alone hpc inTime
  have hnil : u.ongoingJpegQ.items = [] := by
    rw [ongoing, dequeueLast, if_pos on, hitems]
    rfl
  have hflushed : ∀ x ∈ s.post.running, ∃ j ∈ s.post.flushing, j.addr = x.2 := fun x hx => by
    refine (hs.running x hx).resolve_left ?_
    rintro ⟨j, hj, hjx⟩
    rw [hitems, mem_singleton] at hj
    exact hfree x hx (hj ▸ hjx.symm)
  refine ⟨?_, ?_, ?_, ?_, fun x hx => ?_, fun x hx => ?_, ?_, fun j hj => ?_, ?_, hs.aborts⟩
  · simp [hnil]
  · simp [pc, Pc.encoding]
  · simp [pc]
  · simp [pc]
  · rw [running] at hx
    rw [flushing]
    exact .inr (hflushed x hx)
  · rw [running] at hx
    rw [jobId]
    refine .inl ((hs.ids x hx).resolve_right ?_)
    rintro ⟨job', hjob', haddr⟩
    simp only [hpc, Pc.encoding, Option.mem_some_iff] at hjob'
    exact hfree x hx (hjob' ▸ haddr.symm)
  · rw [running]
    exact hs.once
  · simp only [hnil, not_mem_nil, false_or, flushing] at hj
    rw [jobId]
    refine .inr ((hs.stored j (.inr hj)).resolve_left ?_)
    rintro h
    rw [hpc] at h
    simp only [Pc.encoding, Option.mem_some_iff] at h
    exact hnot (h ▸ hj)
  · rw [completing]
    exact hs.completes

theorem startJob (hs : Slot s) (hpc : s.post.pc = .encode job) (jobId : ℕ) :
    Slot { s with
      post := { s.post with
        running := s.post.running ++ [(jobId, job.addr)], pc := .started job jobId }
      started := s.started ++ [(jobId, job.addr)] } := by
  obtain ⟨hhas, hfree⟩ := hs.encode job hpc
  have hsame : (Pc.started job jobId).encoding = s.post.pc.encoding := by rw [hpc]; rfl
  refine ⟨hs.single, hsame ▸ hs.mine, (fun _ h => by cases h), fun job' id h => ?_, fun x hx => ?_,
    fun x hx => ?_, ?_, fun j hj => ?_, hs.completes, fun x hx => mem_append_left _ (hs.aborts x hx)⟩
  · cases h
    refine ⟨hhas.imp_right .inl, mem_append_right _ (mem_singleton_self _), fun x hx hxj => ?_⟩
    rcases mem_append.mp hx with hx | hx
    · exact absurd hxj (hfree x hx)
    · rw [mem_singleton.mp hx]
  · rcases mem_append.mp hx with hx | hx
    · exact hs.running x hx
    · rw [mem_singleton.mp hx]
      exact hhas.imp (fun h => ⟨job, h, rfl⟩) fun h => ⟨job, h, rfl⟩
  · rcases mem_append.mp hx with hx | hx
    · exact (hs.ids x hx).imp_right fun ⟨job', h, haddr⟩ => ⟨job', hsame ▸ h, haddr⟩
    · rw [mem_singleton.mp hx]
      exact .inr ⟨job, rfl, rfl⟩
  · rw [map_append, map_singleton, nodup_append]
    refine ⟨hs.once, nodup_singleton _, fun a ha b hb => ?_⟩
    obtain ⟨x, hx, rfl⟩ := mem_map.mp ha
    rw [mem_singleton.mp hb]
    exact hfree x hx
  · exact (hs.stored j hj).imp (fun h => hsame ▸ h) fun h => mem_append_left _ h

theorem storeJobId (hs : Slot s) {jobId : ℕ}
    (hpc : s.post.pc = .started job jobId) : Slot { s with post := { s.post with
      jobId := Function.update s.post.jobId job.addr jobId, pc := .fwk } } := by
  obtain ⟨hhas, hgiven, hid⟩ := hs.begun job jobId hpc
  have hencoding : s.post.pc.encoding = some job := by rw [hpc]; rfl
  refine ⟨hs.single, (fun _ h => by cases h), (fun _ h => by cases h), (fun _ _ h => by cases h),
    hs.running, fun x hx => .inl ?_, hs.once,
    fun j hj => .inr ?_, hs.completes, hs.aborts⟩
  · show Function.update s.post.jobId job.addr jobId x.2 = x.1
    by_cases hx' : x.2 = job.addr
    · rw [hx', Function.update_self, hid x hx hx']
    · rw [Function.update_of_ne hx']
      refine (hs.ids x hx).resolve_right ?_
      rintro ⟨job', hjob', haddr⟩
      rw [hencoding, Option.mem_some_iff] at hjob'
      exact hx' (hjob' ▸ haddr.symm)
  · show (Function.update s.post.jobId job.addr jobId j.addr, j.addr) ∈ s.started
    by_cases hj' : j.addr = job.addr
    · rw [hj', Function.update_self]
      exact hgiven
    · rw [Function.update_of_ne hj']
      refine (hs.stored j hj).resolve_left fun h => ?_
      rw [hencoding, Option.mem_some_iff] at h
      exact hj' (by rw [h])

theorem stopDataProc (hs : Slot s) (hpc : s.post.pc = .idle)
    (ongoing : u.ongoingJpegQ.items = []) (flushing : u.flushing = s.post.flushing)
    (completing : u.completing = s.post.completing)
    (running : u.running = s.post.running.filter fun x =>
      s.post.ongoingJpegQ.items.all fun job => x.1 ≠ s.post.jobId job.addr)
    (jobId : u.jobId = s.post.jobId) (pc : u.pc = s.post.pc) :
    Slot { s with
      post := u
      aborted := s.aborted ++
        s.post.ongoingJpegQ.items.map fun job => (s.post.jobId job.addr, job.addr) } := by
  have hids : ∀ x ∈ s.post.running, s.post.jobId x.2 = x.1 := fun x hx => by
    refine (hs.ids x hx).resolve_right ?_
    rintro ⟨job, hjob, -⟩
    simp [hpc, Pc.encoding] at hjob
  have hstored : ∀ j, j ∈ s.post.ongoingJpegQ.items ∨ j ∈ s.post.flushing →
      (s.post.jobId j.addr, j.addr) ∈ s.started := fun j hj => by
    refine (hs.stored j hj).resolve_left ?_
    simp [hpc, Pc.encoding]
  refine ⟨by simp [ongoing], by simp [ongoing], by simp [pc, hpc], by simp [pc, hpc], fun x hx => ?_,
    fun x hx => ?_, ?_, fun j hj => ?_, ?_, fun x hx => ?_⟩
  · rw [running, mem_filter] at hx
    rw [flushing]
    refine .inr ((hs.running x hx.1).resolve_left ?_)
    rintro ⟨j, hj, hjx⟩
    have hne := of_decide_eq_true (all_eq_true.mp hx.2 j hj)
    exact hne (by rw [hjx, hids x hx.1])
  · rw [running] at hx
    rw [jobId]
    exact .inl (hids x (mem_of_mem_filter hx))
  · rw [running]
    exact hs.once.sublist (filter_sublist.map _)
  · rw [flushing] at hj
    rw [jobId]
    exact .inr (hstored j (.inr (hj.resolve_left (by simp [ongoing]))))
  · rw [completing]
    exact hs.completes
  · rcases mem_append.mp hx with hx | hx
    · exact hs.aborts x hx
    · obtain ⟨j, hj, rfl⟩ := mem_map.mp hx
      exact hstored j (.inl hj)

end Slot

/-! ## The jobs' addresses -/

namespace Kept

variable {u : PostProcessor}

theorem idle (hs : Kept s) (jpeg : u.jpegAddrs = s.post.jpegAddrs) (pp : u.ppJobs ⊆ s.post.ppJobs)
    (freed : ∀ a ∈ u.freedJobs, a ∈ s.post.freedJobs ∨ a ∈ s.post.ppAddrs)
    (mallocs : u.mallocs = s.post.mallocs) :
    Allocated u.jpegAddrs u.ppAddrs u.freedJobs u.mallocs :=
  hs.jobs.shift [] (fun a => by simp [jpeg]) (fun _ ha => .inl (map_subset PpData.addr pp ha))
    (fun a ha => (freed a ha).imp_right .inr) fun _ ha => mallocs ▸ ha

theorem newPP (hs : Kept s) {addr : ℕ} (hfresh : addr ∉ s.post.mallocs)
    (jpeg : u.jpegAddrs = s.post.jpegAddrs)
    (pp : ∀ job ∈ u.ppJobs, job ∈ s.post.ppJobs ∨ job.addr = addr)
    (freed : ∀ a ∈ u.freedJobs, a ∈ s.post.freedJobs ∨ a ∈ s.post.ppAddrs ∨ a = addr)
    (mallocs : u.mallocs = s.post.mallocs ++ [addr]) :
    Allocated u.jpegAddrs u.ppAddrs u.freedJobs u.mallocs :=
  hs.jobs.advance [] [] [addr] (fun a => by simp [jpeg]) (fun a ha => by
      obtain ⟨job, hjob, rfl⟩ := mem_map.mp ha
      exact (pp job hjob).imp (mem_map_of_mem ·) fun h => .inr (by simp [h]))
    (fun a ha => by
      rcases freed a ha with h | h | h
      · exact .inl h
      · exact .inr (.inr (.inl h))
      · exact .inr (.inr (.inr (by simp [h]))))
    (by simp) (by simpa using hfresh) fun a ha => by simpa [mallocs] using ha

theorem release (hs : Kept s) (left : List ℕ)
    (jpeg : ∀ a, u.jpegAddrs.count a + left.count a ≤ s.post.jpegAddrs.count a)
    (pp : u.ppJobs ⊆ s.post.ppJobs)
    (freed : ∀ a ∈ u.freedJobs, a ∈ s.post.freedJobs ∨ a ∈ left ∨ a ∈ s.post.ppAddrs)
    (mallocs : u.mallocs = s.post.mallocs) :
    Allocated u.jpegAddrs u.ppAddrs u.freedJobs u.mallocs :=
  hs.jobs.shift left jpeg (fun _ ha => .inl (map_subset PpData.addr pp ha)) freed
    fun _ ha => mallocs ▸ ha

theorem count_jpegAddrs (p : PostProcessor) (a : ℕ) : p.jpegAddrs.count a =
    (p.landing.map JpegData.addr).count a + (p.inputJpegQ.items.map JpegData.addr).count a +
      (p.ongoingJpegQ.items.map JpegData.addr).count a +
      (p.completing.map fun c => c.job.addr).count a +
      (p.flushing.toList.map JpegData.addr).count a := by
  simp only [jpegAddrs, count_append]

theorem mem_ppJobs {p : PostProcessor} {job : PpData} : job ∈ p.ppJobs ↔
    job ∈ p.ongoingPPQ.items ∨ job ∈ p.ppCompleting ∨ job ∈ p.pc.ppJob := by
  simp only [ppJobs, mem_append, Option.mem_toList, Option.mem_def, or_assoc]

theorem mem_ppAddrs {p : PostProcessor} {job : PpData} (h : job ∈ p.ppJobs) : job.addr ∈ p.ppAddrs :=
  mem_map_of_mem h

theorem freed_append {l : List ℕ} {P : ℕ → Prop} {b : ℕ} (hb : P b) :
    ∀ a ∈ l ++ [b], a ∈ l ∨ P a := fun a ha => by
  rcases mem_append.mp ha with ha | ha
  · exact .inl ha
  · exact .inr (mem_singleton.mp ha ▸ hb)

/-- **The addresses of jobs.** Every step leaves the JPEG jobs that somebody has alive. -/
theorem jobs_step (hs : Kept s) {op : PostOp} (h : op.exec s.post = some u) (fresh : op.Fresh s.post)
    (inTime : op.InTime s.post) : Allocated u.jpegAddrs u.ppAddrs u.freedJobs u.mallocs := by
  have hfreed : ∀ a ∈ s.post.freedJobs, a ∈ s.post.freedJobs ∨ a ∈ s.post.ppAddrs := fun a ha => .inl ha
  have hc := hs.control
  -- a job leaves its place for the data thread
  have hpp : ∀ {pc : Pc}, pc.ppJob = none → s.post.ongoingPPQ.items ++ s.post.ppCompleting ++
      pc.ppJob.toList ⊆ s.post.ppJobs := fun {pc} hpc job hjob => by
    simp only [hpc, Option.toList_none, append_nil, mem_append] at hjob
    rw [mem_ppJobs]
    exact hjob.imp_right .inl
  cases outcome h with
  | jpegSetting | queueFree | queueNew | streamCb | input | metadata | fwkWaits | fwkNoSettings
  | fwkNoMemory | processedNone | reprocessedNone | callbackNone | send | startNoReproc
  | startReproc | startFailed | stop | stopChannel | startDataProc =>
    exact hs.idle rfl (List.Subset.refl _) hfreed rfl
  | doNextJob | noJpeg | startJob | storeJobId | noFwk | fwkNoJob | fwkReprocNone | fwkReproc
  | noPair | ppReprocNone | ppReproc => exact hs.idle rfl (hpp rfl) hfreed rfl
  | fwkJob =>
    -- the new job is a JPEG job
    have hfresh := fresh.jobs
    simp only [jobMallocs, Option.toList_some, mem_singleton, forall_eq] at hfresh
    refine hs.jobs.advance [] [_] [] (fun a => ?_) (fun a ha => .inl ha) (fun a ha => .inl ha)
      (by simp) (by simpa using hfresh.2) fun a ha => by simpa using ha
    simp only [count_jpegAddrs, map_append, count_append, map_singleton, count_nil]
    omega
  | processedLost _ _ _ _ hq =>
    refine hs.idle rfl (fun job hjob => ?_) hfreed rfl
    rw [mem_ppJobs] at hjob ⊢
    exact hjob.imp_left fun h => (dequeue_some hq).2.1 ▸ mem_cons_of_mem _ h
  | reprocessedJob _ _ _ hq =>
    refine hs.idle rfl (fun job hjob => ?_) hfreed rfl
    have hitems := (dequeue_some hq).2.1
    simp only [mem_ppJobs, hitems, mem_append, mem_cons] at hjob ⊢
    tauto
  | processedJob _ _ _ _ hq =>
    -- the post-processing job is freed, and the JPEG job is new
    have hitems := (dequeue_some hq).2.1
    have hfresh := fresh.jobs
    simp only [jobMallocs, Option.toList_some, mem_singleton, forall_eq] at hfresh
    refine hs.jobs.advance [] [_] [] (fun a => ?_) (fun a ha => .inl ?_) (fun a ha => ?_)
      (by simp) (by simpa using hfresh.2) fun a ha => by simpa using ha
    · simp only [count_jpegAddrs, map_append, count_append, map_singleton, count_nil, jpegJob]
      omega
    · refine map_subset PpData.addr (fun job hjob => ?_) ha
      rw [mem_ppJobs] at hjob ⊢
      exact hjob.imp_left fun h => hitems ▸ mem_cons_of_mem _ h
    · rcases mem_append.mp ha with ha | ha
      · exact .inl ha
      · rw [mem_singleton.mp ha]
        exact .inr (.inr (.inl (mem_ppAddrs (mem_ppJobs.mpr (.inl (hitems ▸ mem_cons_self))))))
  | @land addr job hfind =>
    refine hs.release [] (fun a => ?_) (List.Subset.refl _) (fun a ha => .inl ha) rfl
    have htake := count_map_takeOut (k := a) JpegData.addr hfind
    have hqueue := s.post.inputJpegQ.count_enqueue job JpegData.addr a
    simp only [count_jpegAddrs, count_nil]
    omega
  | ppDone hfind =>
    refine hs.idle rfl (fun job hjob => ?_) (freed_append ?_) rfl
    · rw [mem_ppJobs] at hjob ⊢
      exact hjob.imp_right fun h => h.imp_left fun h => (takeOut_sublist _ _ _).subset h
    · exact mem_ppAddrs (mem_ppJobs.mpr (.inr (.inl (mem_of_find?_eq_some hfind))))
  | callback _ hq =>
    refine hs.release [] (fun a => ?_) (List.Subset.refl _) (fun a ha => .inl ha) rfl
    obtain ⟨hitems, hnil⟩ := hs.slot.taken hq
    simp only [count_jpegAddrs, hitems, hnil, map_append, count_append, map_cons,
      map_nil, count_nil]
    omega
  | flushTake hnone hq =>
    refine hs.release [] (fun a => ?_) (List.Subset.refl _) (fun a ha => .inl ha) rfl
    obtain ⟨hitems, hnil⟩ := hs.slot.taken hq
    simp only [count_jpegAddrs, hitems, hnil, hnone, Option.toList_some, Option.toList_none,
      map_cons, map_nil, count_nil]
    omega
  | @jpegDone addr c hfind =>
    refine hs.release [c.job.addr] (fun a => ?_) (List.Subset.refl _)
      (freed_append (.inl (mem_singleton_self _))) rfl
    have htake := count_map_takeOut (k := a) (fun c : Completion => c.job.addr) hfind
    simp only [count_jpegAddrs]
    omega
  | @flushRelease job hsome =>
    refine hs.release [job.addr] (fun a => ?_) (List.Subset.refl _)
      (freed_append (.inl (mem_singleton_self _))) rfl
    simp only [count_jpegAddrs, hsome, Option.toList_some, Option.toList_none, map_cons,
      map_nil, count_nil]
    omega
  | @encodeFailed job hpc =>
    have hitems := hs.slot.alone hpc inTime
    refine hs.release [job.addr] (fun a => ?_) (hpp rfl)
      (freed_append (.inl (mem_singleton_self _))) rfl
    simp only [count_jpegAddrs, dequeueLast, if_pos hc.always.1, hitems, map_cons,
      map_nil, dropLast_singleton, count_nil]
    omega
  | stopDataProc hpc =>
    rw [stopDataProc_eq]
    refine hs.release (s.post.ongoingJpegQ.items.map JpegData.addr ++
      s.post.inputJpegQ.flushed.map JpegData.addr) (fun a => ?_) (fun job hjob => ?_)
      (fun a ha => ?_) rfl
    · have hflush := s.post.inputJpegQ.count_flush JpegData.addr a
      simp only [count_jpegAddrs, count_append, map_nil, count_nil]
      omega
    · rw [mem_ppJobs] at hjob ⊢
      exact hjob.imp_left mem_flush
    · simp only [append_assoc, mem_append] at ha ⊢
      rcases ha with ha | ha | ha | ha
      · exact .inl ha
      · exact .inr (.inl (.inl ha))
      · -- a post-processing job that was ongoing
        obtain ⟨job, hjob, rfl⟩ := mem_map.mp ha
        refine .inr (.inr (mem_ppAddrs (mem_ppJobs.mpr (.inl ?_))))
        unfold flushed at hjob
        split at hjob
        · exact hjob
        · cases hjob
      · exact .inr (.inl (.inr ha))
  | @giveBack rest _ _ hoff =>
    rw [hc.giveBack_eq hoff]
    exact hs.idle rfl (List.Subset.refl _) hfreed rfl
  | @takeJpeg job q hpc hnone hq =>
    refine hs.release [] (fun a => ?_) (hpp rfl) (fun a ha => .inl ha) rfl
    have hitems := (dequeue_some hq).2.1
    have hqueue := s.post.ongoingJpegQ.count_enqueue job JpegData.addr a
    simp only [count_jpegAddrs, hitems, map_cons, count_nil] at hqueue ⊢
    rw [count_cons]
    rw [count_singleton] at hqueue
    omega
  | fwkNoChannel =>
    have hfresh := fresh.jobs
    simp only [jobMallocs, Option.toList_some, mem_singleton, forall_eq] at hfresh
    exact hs.newPP hfresh.2 rfl (fun job hjob => .inl (hpp rfl hjob)) (freed_append (.inr rfl)) rfl
  | takeFwk hpc _ _ hjob =>
    have hfresh := fresh.jobs
    simp only [jobMallocs, Option.toList_some, mem_singleton, forall_eq] at hfresh
    refine hs.newPP hfresh.2 rfl (fun job h => ?_) (fun a ha => .inl ha) rfl
    rw [mem_ppJobs] at h
    rcases h with h | h | h
    · rcases mem_enqueue h with h | rfl
      · exact .inl (mem_ppJobs.mpr (.inl h))
      · exact .inr (by rw [hjob])
    · exact .inl (mem_ppJobs.mpr (.inr (.inl h)))
    · simp only [Pc.ppJob, Option.mem_some_iff] at h
      exact .inr (by rw [← h, hjob])
  | fwkReprocFailed hpc | ppReprocFailed hpc =>
    refine hs.idle rfl (fun job hjob => ?_) (freed_append ?_) rfl
    · rw [mem_ppJobs] at hjob ⊢
      exact hjob.imp mem_dequeueLast fun h => .inl (h.resolve_right (by simp [Pc.ppJob]))
    · exact mem_ppAddrs (mem_ppJobs.mpr (.inr (.inr (by rw [hpc]; rfl))))
  | overrideFailed hpc =>
    refine hs.idle rfl (hpp rfl) (freed_append ?_) rfl
    exact mem_ppAddrs (mem_ppJobs.mpr (.inr (.inr (by rw [hpc]; rfl))))
  | @pairNoJob malloc jpegMalloc =>
    rw [cleanUp_eq]
    rcases malloc with _ | addr
    · refine hs.idle rfl (hpp rfl) (fun a ha => .inl ?_) ?_
      · simpa [tookPair] using ha
      · simp [tookPair]
    · have hfresh := fresh.jobs.2 addr (by simp [jobMallocs])
      exact hs.newPP hfresh rfl (fun job hjob => .inl (hpp rfl hjob)) (freed_append (.inr rfl)) rfl
  | @pairReproc addr =>
    have hfresh := fresh.jobs.2 addr (by simp [jobMallocs])
    refine hs.newPP hfresh rfl (fun job h => ?_) (fun a ha => .inl ha) rfl
    rw [mem_ppJobs] at h
    rcases h with h | h | h
    · rcases mem_enqueue h with h | rfl
      · exact .inl (mem_ppJobs.mpr (.inl h))
      · exact .inr rfl
    · exact .inl (mem_ppJobs.mpr (.inr (.inl h)))
    · simp only [Pc.ppJob, Option.mem_some_iff] at h
      exact .inr (by rw [← h]; rfl)
  | @pairCleaned addr =>
    have hfresh := fresh.jobs.2 addr (by simp [jobMallocs])
    refine hs.newPP hfresh rfl (fun job h => ?_) (freed_append (.inr rfl)) rfl
    rw [mem_ppJobs] at h
    rcases h with h | h | h
    · rcases mem_enqueue (mem_dequeue h) with h | rfl
      · exact .inl (mem_ppJobs.mpr (.inl h))
      · exact .inr rfl
    · exact .inl (mem_ppJobs.mpr (.inr (.inl h)))
    · simp [Pc.ppJob] at h
  | @pairJpeg addr a b buf pq mq job q x hpc hwaits hmeta hr hdeq =>
    -- two jobs come: one is freed at once, the other is queued
    have hfresh := fresh.jobs
    simp only [jobMallocs, Option.toList_some] at hfresh
    have hitems := (dequeue_some hdeq).2.1
    have hof : ∀ job' ∈ job :: q.items, job' ∈ s.post.ongoingPPQ.items ∨ job'.addr = addr :=
      fun job' h => (mem_enqueue (hitems ▸ h)).imp_right fun h => by rw [h]; rfl
    refine hs.jobs.advance [] [a] [addr] (fun k => ?_) (fun k hk => ?_) (fun k hk => ?_)
      (by simpa [and_comm, eq_comm] using hfresh.1) (fun k hk => hfresh.2 k ?_) fun k hk => ?_
    · have hqueue := s.post.inputJpegQ.count_enqueue (jpegJob job buf.input x a) JpegData.addr k
      simp only [count_jpegAddrs, count_nil, jpegJob] at hqueue ⊢
      omega
    · obtain ⟨job', hjob', rfl⟩ := mem_map.mp hk
      rw [mem_ppJobs] at hjob'
      rcases hjob' with h | h | h
      · refine (hof job' (mem_cons_of_mem _ h)).imp (fun h => ?_) fun h => .inr (by simp [h])
        exact mem_ppAddrs (mem_ppJobs.mpr (.inl h))
      · exact .inl (mem_ppAddrs (mem_ppJobs.mpr (.inr (.inl h))))
      · simp [Pc.ppJob] at h
    · rcases mem_append.mp hk with hk | hk
      · exact .inl hk
      · rw [mem_singleton.mp hk]
        rcases hof job mem_cons_self with h | h
        · exact .inr (.inr (.inl (mem_ppAddrs (mem_ppJobs.mpr (.inl h)))))
        · exact .inr (.inr (.inr (by simp [h])))
    · simp only [cons_append, nil_append, mem_cons, not_mem_nil, or_false] at hk ⊢
      exact hk.symm
    · simp only [mem_append, mem_cons, not_mem_nil, or_false] at hk ⊢
      tauto

/-- **Every step that is in time** keeps the invariant. -/
theorem step (hs : Kept s) {op : PostOp} (h : Encodings.Proper op s t) : Kept t := by
  obtain ⟨inTime, ⟨fresh, hexec⟩, hstarted, haborted⟩ := h
  rcases t with ⟨u, started, aborted⟩
  dsimp only at hexec hstarted haborted
  subst hstarted haborted
  refine ⟨hs.control.step hexec, hs.jobs_step hexec fresh inTime, ?_⟩
  have hslot := hs.slot
  have hc := hs.control
  cases outcome hexec with
  | jpegSetting | queueFree | queueNew | streamCb | input | metadata | fwkWaits | fwkNoSettings
  | fwkNoMemory | fwkJob | processedNone | processedLost | processedJob | reprocessedNone
  | reprocessedJob | land | ppDone | send | startNoReproc | startReproc | startFailed | stop
  | stopChannel =>
    simp only [given, aborts, append_nil]
    exact hslot.mono rfl rfl rfl rfl rfl (.inl rfl)
  | noJpeg hpc | noFwk hpc | fwkNoJob hpc | fwkNoChannel hpc | takeFwk hpc | fwkReprocNone hpc
  | fwkReproc hpc | fwkReprocFailed hpc | noPair hpc | pairReproc hpc | pairJpeg hpc
  | pairCleaned _ hpc | ppReprocNone hpc | ppReproc hpc | ppReprocFailed hpc | overrideFailed hpc =>
    simp only [given, aborts, append_nil]
    exact hslot.mono rfl rfl rfl rfl rfl (.inr ⟨rfl, by rw [hpc]; rfl⟩)
  | pairNoJob hpc =>
    simp only [given, aborts, append_nil]
    rw [cleanUp_eq]
    exact hslot.mono rfl rfl rfl rfl rfl (.inr ⟨rfl, by rw [hpc]; rfl⟩)
  | callbackNone =>
    simp only [given, aborts, append_nil]
    exact hslot.callbackNone _
  | callback hruns hq =>
    simp only [given, aborts, append_nil]
    exact hslot.callback hruns hq inTime
  | jpegDone =>
    simp only [given, aborts, append_nil]
    exact hslot.jpegDone rfl rfl rfl rfl rfl rfl inTime
  | flushTake hnone hq =>
    simp only [given, aborts, append_nil]
    exact hslot.flushTake hnone hq
  | flushRelease hsome =>
    simp only [given, aborts, append_nil, hsome, Option.toList_some, map_cons, map_nil]
    exact hslot.flushRelease hsome rfl rfl rfl rfl rfl rfl inTime
  | startDataProc hpc hcmds =>
    simp only [given, aborts, append_nil, hcmds, head?_cons,
      Option.some.injEq, reduceCtorEq, if_false]
    exact hslot.mono rfl rfl rfl rfl rfl (.inl rfl)
  | stopDataProc hpc hcmds =>
    simp only [given, aborts, append_nil, hcmds, head?_cons, if_true]
    rw [stopDataProc_eq]
    exact hslot.stopDataProc hpc rfl rfl rfl rfl rfl rfl
  | doNextJob hpc hcmds =>
    simp only [given, aborts, append_nil, hcmds, head?_cons,
      Option.some.injEq, reduceCtorEq, if_false]
    exact hslot.mono rfl rfl rfl rfl rfl (.inr ⟨rfl, by rw [hpc]; rfl⟩)
  | @giveBack rest hpc hcmds hoff =>
    simp only [given, aborts, append_nil, hcmds, head?_cons,
      Option.some.injEq, reduceCtorEq, if_false]
    rw [hc.giveBack_eq hoff]
    exact hslot.mono rfl rfl rfl rfl rfl (.inl rfl)
  | @takeJpeg job q hpc hnone hq =>
    simp only [given, aborts, append_nil]
    refine hslot.takeJpeg hpc hnone hc.always.1 (fun j hj haddr => ?_) rfl rfl rfl rfl rfl rfl
    -- a job that waits is not the one that `flush` has
    have hdistinct := hs.jobs.distinct job.addr
    have hitems := (dequeue_some hq).2.1
    rw [Option.mem_def] at hj
    simp only [count_jpegAddrs, hitems, hj, Option.toList_some, map_cons, map_nil, haddr,
      count_cons_self] at hdistinct
    omega
  | encodeFailed hpc =>
    simp only [given, aborts, append_nil]
    exact hslot.encodeFailed hpc hc.always.1 rfl rfl rfl rfl rfl rfl inTime
  | startJob hpc =>
    simp only [given, aborts, append_nil, hpc, Pc.encoding, Option.toList_some, map_cons, map_nil]
    exact hslot.startJob hpc _
  | storeJobId hpc =>
    simp only [given, aborts, append_nil]
    exact hslot.storeJobId hpc

theorem sound (hs : Kept s) : s.Sound where
  completes := hs.slot.completes
  aborts := hs.slot.aborts
  queued addr h := (hs.jobs.live addr h).2
  encoding job h := by
    -- the job is in the queue, or `flush` or the callback has it
    have hhas : job ∈ s.post.ongoingJpegQ.items ∨ job ∈ s.post.flushing ∨
        ∃ c ∈ s.post.completing, c.job = job := by
      rcases hpc : s.post.pc <;> rw [hpc] at h <;> cases h
      · exact (hs.slot.encode job hpc).1.imp_right .inl
      · exact (hs.slot.begun job _ hpc).1
    refine (hs.jobs.live job.addr ?_).2
    simp only [jpegAddrs, mem_append, mem_map, Option.mem_toList]
    rcases hhas with h | h | ⟨c, hc, h⟩
    · exact .inl (.inl (.inr ⟨job, h, rfl⟩))
    · exact .inr ⟨job, h, rfl⟩
    · exact .inl (.inr ⟨c, hc, by rw [h]⟩)

end Kept

/-- **The JPEG callback reaches its own job.** Where no callback and no `flush` is quicker than the
data thread, a callback takes the job that was started under its id, the ids that are aborted were
given for the job that they are read from, and no JPEG job that a thread or a queue has is freed. -/
theorem jpeg_completion_sound {reprocessType : Option ReprocessType} {ops : List PostOp}
    {s : Encodings} (h : Run Encodings.Proper ops (.begin reprocessType) s) : s.Sound :=
  (h.invariant (fun _ _ _ hstep hs => Kept.step hs hstep)
    (Encodings.begin_kept reprocessType)).sound

/-- A frame of the framework is encoded, and its callback comes when its id is stored. -/
theorem jpeg_completion_sound_fwk :
    ∃ ops s, Run Encodings.Proper ops (.begin none) s ∧ s.started = [(1, 20)] ∧
      s.post.freedJobs = [20] ∧ s.Sound := by
  obtain ⟨s, hrun, hstarted, hfreed⟩ : ∃ s, Run Encodings.Proper
      [.jpegSetting ⟨5, 0⟩, .fwkInput ⟨90, 0, .none, none, none, none⟩ (some 20), .land 20, .send,
        .getCmd, .takeJpeg, .startJob 1, .storeJobId, .jpegCallback 1, .jpegDone 20]
      (.begin none) s ∧ s.started = [(1, 20)] ∧ s.post.freedJobs = [20] := by
    refine ⟨_, .cons ⟨trivial, .of_exec (.of_nothing rfl rfl nofun) rfl⟩
      (.cons ⟨trivial, .of_exec ⟨?_, ?_, ?_⟩ rfl⟩
      (.cons ⟨trivial, .of_exec (.of_nothing rfl rfl nofun) rfl⟩
      (.cons ⟨trivial, .of_exec (.of_nothing rfl rfl nofun) rfl⟩
      (.cons ⟨trivial, .of_exec (.of_nothing rfl rfl nofun) rfl⟩
      (.cons ⟨trivial, .of_exec (.of_nothing rfl rfl nofun) rfl⟩
      (.cons ⟨trivial, .of_exec ⟨?_, ?_, ?_⟩ rfl⟩
      (.cons ⟨trivial, .of_exec (.of_nothing rfl rfl nofun) rfl⟩
      (.cons ⟨?_, .of_exec (.of_nothing rfl rfl nofun) rfl⟩
      (.one ⟨?_, .of_exec (.of_nothing rfl rfl nofun) rfl⟩))))))))), rfl, rfl⟩
    · exact ⟨nodup_singleton _, fun _ _ => not_mem_nil⟩
    · exact fun _ h => absurd h not_mem_nil
    · exact nofun
    · exact ⟨nodup_nil, fun _ h => absurd h not_mem_nil⟩
    · exact fun _ h => absurd h not_mem_nil
    · exact fun _ _ _ h => absurd h not_mem_nil
    · -- `flush` has no job
      exact fun _ h => by cases h
    · -- the data thread has none either
      exact fun _ h => by cases h
  exact ⟨_, s, hrun, hstarted, hfreed, jpeg_completion_sound hrun⟩

/-- The callback comes and is done before the data thread has stored the id: it will write into a
freed job. And `flush` takes the job before it is started: it aborts the id 0, and the data thread
starts a freed job. -/
theorem jpeg_completion_unsound :
    (∃ ops s, Run Encodings.Step ops (.begin none) s ∧ ∃ job,
      s.post.pc = .started job 1 ∧ job.addr ∈ s.post.freedJobs) ∧
    (∃ ops s, Run Encodings.Step ops (.begin none) s ∧ (0, 20) ∈ s.aborted ∧ s.started = [] ∧
      ∃ job, s.post.pc = .encode job ∧ job.addr ∈ s.post.freedJobs) := by
  have hmalloc : (fwkInput ⟨90, 0, .none, none, none, none⟩ (some 20)).Fresh
      ({ jpegSettingsQ := { items := [⟨5, 0⟩] }, isActive := true, postProcStarted := true } :
        PostProcessor) :=
    ⟨⟨nodup_singleton _, fun _ _ => not_mem_nil⟩, fun _ h => absurd h not_mem_nil, nofun⟩
  constructor
  · refine ⟨[.jpegSetting ⟨5, 0⟩, .fwkInput ⟨90, 0, .none, none, none, none⟩ (some 20), .land 20,
      .send, .getCmd, .takeJpeg, .startJob 1, .jpegCallback 1, .jpegDone 20], _,
      .cons (.of_exec (.of_nothing rfl rfl nofun) rfl) (.cons (.of_exec hmalloc rfl)
      (.cons (.of_exec (.of_nothing rfl rfl nofun) rfl) (.cons (.of_exec (.of_nothing rfl rfl nofun) rfl)
      (.cons (.of_exec (.of_nothing rfl rfl nofun) rfl) (.cons (.of_exec (.of_nothing rfl rfl nofun) rfl)
      (.cons (.of_exec ⟨?_, ?_, ?_⟩ rfl) (.cons (.of_exec (.of_nothing rfl rfl nofun) rfl)
      (.one (.of_exec (.of_nothing rfl rfl nofun) rfl))))))))), _, rfl, mem_singleton_self _⟩
    · exact ⟨nodup_nil, fun _ h => absurd h not_mem_nil⟩
    · exact fun _ h => absurd h not_mem_nil
    · exact fun _ _ _ h => absurd h not_mem_nil
  · exact ⟨[.jpegSetting ⟨5, 0⟩, .fwkInput ⟨90, 0, .none, none, none, none⟩ (some 20), .land 20,
      .send, .getCmd, .takeJpeg, .flushTake, .flushRelease], _,
      .cons (.of_exec (.of_nothing rfl rfl nofun) rfl) (.cons (.of_exec hmalloc rfl)
      (.cons (.of_exec (.of_nothing rfl rfl nofun) rfl) (.cons (.of_exec (.of_nothing rfl rfl nofun) rfl)
      (.cons (.of_exec (.of_nothing rfl rfl nofun) rfl) (.cons (.of_exec (.of_nothing rfl rfl nofun) rfl)
      (.cons (.of_exec (.of_nothing rfl rfl nofun) rfl)
      (.one (.of_exec (.of_nothing rfl rfl nofun) rfl)))))))), mem_singleton_self _, rfl, _, rfl,
      mem_singleton_self _⟩

end PostProc
