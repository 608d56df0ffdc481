import MidoCamera.PostProc.Buffers
import MidoCamera.PostProc.Completion

/-!
# Who owns the camera's buffers

A frame of the camera and its metadata are each handed to the post-processor once. From then on the
buffer is in one input queue or belongs to one job, and it leaves by being returned and freed, both
once. `releaseJpegJobData` frees the frame that a JPEG job was made of and returns its metadata
only, so the frame's buffer is returned by nobody where the job is not encoded. A failure of
`overrideMetadata` frees a job that is left in its queue. What `processPPData` takes from its queue
and does not pass on is lost.
-/

namespace PostProc

open Loop List PostProcessor JpegData Queue

variable {job : JpegData} {reproc : Bool}

namespace PostProcessor

/-- The camera's buffers that were handed in. A result of the reprocess stream is not one of them.
-/
def handedIn (s : PostProcessor) : List SuperBuf := s.handed.filter fun b => b.kind ≠ .reprocessed

/-- The jobs that are in a queue, or with the thread that made or took them. -/
def jobAddrs (s : PostProcessor) : List ℕ :=
  s.ongoingPPQ.items.map PpData.addr ++ s.ppCompleting.map PpData.addr ++ s.jpegAddrs

/-- The frames that were returned with the result of their reprocess, and that are not freed yet. -/
def returnedEarly (s : PostProcessor) : List SuperBuf :=
  s.ppCompleting.flatMap fun job => job.srcFrame.toList

end PostProcessor

/-- Each buffer that was handed in is in one input queue or is one job's, or was freed, once; it was
returned once if it was freed. No job is in two queues, no job that is in a queue was freed, and
none was freed twice. -/
structure Conserved (s : PostProcessor) : Prop where
  owned : ∀ b ∈ s.handedIn, s.heldBufs.count b + s.freed.count b = 1
  returned : ∀ b ∈ s.handedIn, s.returned.count b = s.freed.count b + s.returnedEarly.count b
  queued : s.jobAddrs.Nodup
  live : ∀ addr ∈ s.jobAddrs, addr ∉ s.freedJobs
  once : s.freedJobs.Nodup

def JpegData.OfCamera (job : JpegData) : Prop := ∃ b ∈ job.owns, b.kind ≠ .reprocessed

/-- `releaseJpegJobData` returns what it frees: the job was made of no frame of the camera, and its
frame is not the camera's or there is a channel to return it to. -/
def JpegData.GivesBack (job : JpegData) (reproc : Option Reproc) : Prop :=
  job.srcReprocFrame = none ∧ ∀ b ∈ job.srcFrame, b.kind = .frame → reproc.isSome

/-- What a step must not meet. What is handed in finds its queue on, and a job with a buffer of the
camera finds settings, memory and its queue on; metadata are overridden; an encoding that fails is
still the ongoing one; a JPEG job that is released without its callback gives back what it has, and
one that is released by it has no frame that would be returned a second time. -/
def PostOp.Orderly (s : PostProcessor) : PostOp → Prop
  | .streamCb _ _ | .input _ _ => s.inputPPQ.active = true
  | .metadata _ => s.inputMetaQ.active = true
  | .processed _ malloc => ∀ r ∈ s.reproc, r.reprocessType = .jpeg →
    ∀ job ∈ s.ongoingPPQ.dequeue.1, job.owns ≠ [] → job.jpegSettings.isSome ∧ malloc.isSome
  | .land addr => ∀ job ∈ s.landing.find? fun job => job.addr == addr,
    job.OfCamera → s.inputJpegQ.active = true
  | .jpegDone addr => ∀ c ∈ s.completing.find? fun c => c.job.addr == addr,
    ∀ b ∈ c.job.srcFrame, b.kind = .frame → s.reproc = none
  | .flushRelease => ∀ job ∈ s.flushing, job.GivesBack s.reproc
  | .encodeFailed => ∀ job, s.pc = .encode job →
    s.ongoingJpegQ.items = [job] ∧ job.GivesBack s.reproc
  | .getCmd => s.pc = .idle → s.cmds.head? = some .stopDataProc →
    ∀ job, job ∈ s.ongoingJpegQ.items ∨ job ∈ s.inputJpegQ.flushed → job.GivesBack s.reproc
  | .ppReproc overridden _ => overridden = true
  | _ => True

def PostOp.OrderlyStep (op : PostOp) (s t : PostProcessor) : Prop := op.Orderly s ∧ op.Step s t

/-- The job that the data thread passes to the encoder is the ongoing one, the only one; or another
thread took it and has it, or has freed it. -/
structure Passed (s : PostProcessor) : Prop where
  single : s.ongoingJpegQ.items.length ≤ 1
  mine : ∀ job, s.pc = .encode job → s.ongoingJpegQ.items = [job] ∨ s.ongoingJpegQ.items = [] ∧
    ((∃ c ∈ s.completing, c.job.addr = job.addr) ∨ (∃ j ∈ s.flushing, j.addr = job.addr) ∨
      job.addr ∈ s.freedJobs)

/-- The invariant: the camera's buffers are counted, and so are the jobs. -/
structure Accounted (s : PostProcessor) : Prop where
  control : Control s
  ordered : Ordered s
  shapes : Shapes (fun _ => True) s
  passed : Passed s
  handed : (s.handed.map SuperBuf.addr).Nodup
  held : ∀ b, b.kind ≠ .reprocessed →
    s.heldBufs.count b + s.freed.count b = s.handed.count b
  returned : ∀ b, b.kind ≠ .reprocessed →
    s.returned.count b = s.freed.count b + s.returnedEarly.count b
  mallocs : s.mallocs.Nodup
  jobs : ∀ addr, s.jobAddrs.count addr + s.freedJobs.count addr ≤ s.mallocs.count addr

variable {R : Bool → Prop} {s t : PostProcessor} {op : PostOp} {b : SuperBuf}

/-! ## What a JPEG job frees and returns -/

theorem JpegData.Shaped.count_frees (h : job.Shaped reproc)
    (b : SuperBuf) : job.frees.count b = job.srcReprocFrame.toList.count b +
      job.srcFrame.toList.count b + job.srcMetadata.toList.count b := by
  rw [frees, count_append, count_append]
  rcases hfwk : job.fwkSrcBuffer with _ | frame
  · rfl
  · rw [h.fwk (by rw [hfwk]; rfl)]
    rfl

theorem JpegData.Shaped.count_returns (h : job.Shaped reproc)
    (channel : Option Reproc) (b : SuperBuf) : (job.returns channel).count b =
      (if channel.isSome then job.srcFrame.toList.count b else 0) +
        job.srcMetadata.toList.count b := by
  rw [returns, count_append]
  congr 1
  · split <;> rfl
  · rcases hfwk : job.fwkSrcBuffer with _ | frame
    · rfl
    · rw [h.fwk (by rw [hfwk]; rfl)]
      rfl

theorem JpegData.Shaped.kind_of_mem (h : job.Shaped reproc)
    (hmem : b ∈ job.srcFrame) (hb : b.kind ≠ .reprocessed) : b.kind = .frame := by
  have hkind := h.frame b hmem
  rcases reproc with _ | _
  · exact hkind
  · exact absurd hkind hb

/-- **A job that gives back what it has** returns what it frees of the camera. -/
theorem JpegData.Shaped.gives_iff (h : job.Shaped reproc)
    (channel : Option Reproc) : job.GivesBack channel ↔
      ∀ b, b.kind ≠ .reprocessed → (job.returns channel).count b = job.frees.count b := by
  constructor
  · rintro ⟨hsource, hframe⟩ b hb
    rw [h.count_returns, h.count_frees, hsource]
    split
    · simp
    · next hnone =>
      have hzero : job.srcFrame.toList.count b = 0 := count_eq_zero.mpr fun hmem =>
        hnone (hframe b (Option.mem_toList.mp hmem) (h.kind_of_mem (Option.mem_toList.mp hmem) hb))
      simp [hzero]
  · intro heq
    constructor
    · refine Option.eq_none_iff_forall_not_mem.mpr fun b hb => ?_
      have hkind := (h.source b hb).2
      have hcount := heq b (by rw [hkind]; nofun)
      have hpos : 0 < job.srcReprocFrame.toList.count b :=
        count_pos_iff.mpr (Option.mem_toList.mpr hb)
      rw [h.count_returns, h.count_frees] at hcount
      split at hcount <;> omega
    · intro b hb hkind
      by_contra hnone
      have hcount := heq b (by rw [hkind]; nofun)
      have hpos : 0 < job.srcFrame.toList.count b :=
        count_pos_iff.mpr (Option.mem_toList.mpr hb)
      rw [h.count_returns, h.count_frees, if_neg hnone] at hcount
      omega

/-- The JPEG callback returns the frame of the snapshot stream, and then the job what it returns:
that is what is freed, unless the frame is returned a second time. -/
theorem JpegData.Shaped.count_snapshot (h : job.Shaped reproc)
    (channel : Option Reproc) (hb : b.kind ≠ .reprocessed) :
    job.snapshot.toList.count b + (job.returns channel).count b = job.frees.count b +
      if channel.isSome then job.srcFrame.toList.count b else 0 := by
  have hsnapshot : job.snapshot.toList.count b =
      job.srcReprocFrame.toList.count b + job.srcFrame.toList.count b := by
    rcases hsource : job.srcReprocFrame with _ | c
    · rcases hframe : job.srcFrame with _ | c
      · simp [snapshot, hsource, hframe]
      · by_cases hc : c.kind = .frame
        · simp [snapshot, hsource, hframe, hc, Option.filter]
        · have hne : c ≠ b := fun hcb => hc (h.kind_of_mem (hframe ▸ Option.mem_some_self c) (hcb ▸ hb))
          simp [snapshot, hsource, hframe, hc, Option.filter, hne]
    · have hkind := (h.source c hsource).2
      have hframe : job.srcFrame.toList.count b = 0 := by
        refine count_eq_zero.mpr fun hmem => hb ?_
        have hown := h.frame b (Option.mem_toList.mp hmem)
        rwa [(h.source c hsource).1] at hown
      simp [snapshot, hsource, hkind, Option.filter, hframe]
  rw [hsnapshot, h.count_returns, h.count_frees]
  omega

/-! ## The buffers that are held -/

theorem tally_self (b : SuperBuf) (l : List SuperBuf) : tally (fun b => [b]) b l = l.count b := by
  rw [tally, flatMap_singleton']

theorem count_reprocessed (hb : b.kind ≠ .reprocessed) (addr bufIdx request : ℕ) :
    [(⟨addr, .reprocessed, bufIdx, request⟩ : SuperBuf)].count b = 0 :=
  count_eq_zero.mpr fun hmem => hb (by rw [mem_singleton.mp hmem])

theorem JpegData.count_stands_eq_zero (h : ¬job.OfCamera)
    (hb : b.kind ≠ .reprocessed) : (job.stands fun b => [b]).count b = 0 := by
  rw [stands, flatMap_singleton']
  exact count_eq_zero.mpr fun hmem => h ⟨b, hmem, hb⟩

/-- **An orderly step is balanced** on the camera's buffers. -/
theorem PostOp.Orderly.balanced (hs : Shapes R s) (hc : Control s) (ho : Ordered s)
    (orderly : op.Orderly s) (h : op.exec s = some t) (hb : b.kind ≠ .reprocessed) :
    Balanced (fun b => [b]) b s t := by
  by_cases tidy : op.Tidy s
  · exact PostOp.balanced hs hc ho tidy h _ b
  · -- what is not tidy has no buffer of the camera
    cases PostOp.outcome h with
    | streamCb | input | metadata | overrideFailed | ppReprocNone | ppReproc | ppReprocFailed =>
      exact absurd orderly tidy
    | encodeFailed => exact absurd (fun job hpc => (orderly job hpc).1) tidy
    | processedNone =>
      simp only [Balanced, tally_heldBufs, tally_append, tally_cons, tally_nil,
        count_reprocessed hb, add_zero]
    | @processedLost r _ _ _ malloc _ _ job q hr htype _ _ hq hlost =>
      have htaken := tally_dequeue (PpData.stands fun b => [b]) b hq
      have hnone : job.owns = [] := by
        by_contra hne
        obtain ⟨hsettings, hmalloc⟩ := orderly r hr htype job (by rw [hq]; rfl) hne
        rcases hlost with hframes | hnone | hnone
        · exact (hs.jobs job (.inl (Shapes.taken hq).1)).some hframes
        · simp [hnone] at hsettings
        · simp [hnone] at hmalloc
      have hstands : (job.stands fun b => [b]).count b = 0 := by simp [PpData.stands, hnone]
      simp only [Balanced, tally_heldBufs, tally_append, tally_cons, tally_nil,
        count_reprocessed hb, htaken, hstands]
      omega
    | processedJob hr htype _ _ hq hsettings =>
      refine absurd (fun r' hr' _ => ?_) tidy
      rw [hq]
      exact ⟨rfl, _, rfl, by rw [hsettings]; rfl⟩
    | reprocessedNone hr htype | reprocessedJob hr htype =>
      refine absurd (fun r' hr' htype' => absurd htype' ?_) tidy
      cases hr.symm.trans hr'
      exact htype
    | @land addr job find =>
      have htaken := tally_takeOut (f := stands fun b => [b]) (k := b) find
      have hzero : (job.stands fun b => [b]).count b = 0 :=
        count_stands_eq_zero (fun hof => tidy (orderly job find hof)) hb
      have hoff : s.inputJpegQ.enqueue job = s.inputJpegQ :=
        enqueue_inactive (Bool.not_eq_true _ ▸ tidy) job
      simp only [Balanced, tally_heldBufs, hoff]
      omega
    | _ => exact absurd trivial tidy

/-! ## The buffers that are returned -/

/-- From one state to another, what is freed is returned, then or before. -/
def Discharged (b : SuperBuf) (s t : PostProcessor) : Prop :=
  t.returned.count b + s.freed.count b + s.returnedEarly.count b =
    s.returned.count b + t.freed.count b + t.returnedEarly.count b

theorem PostProcessor.count_stop (s : PostProcessor) (b : SuperBuf) :
    s.stopReturns.count b + tally JpegData.frees b s.endedJpeg =
      s.stopFrees.count b + tally (fun job => job.returns s.reproc) b s.endedJpeg := by
  have hpp : (s.ongoingPPQ.flushed.flatMap fun job => job.srcFrame.toList ++ job.returns) =
      s.ongoingPPQ.flushed.flatMap PpData.frees := rfl
  rw [stopReturns, stopFrees, hpp, endedJpeg, tally_append, tally_append]
  simp only [count_append, tally]
  omega

theorem Shapes.mem_ended (h : job ∈ s.endedJpeg) : job ∈ s.jpegJobs := by
  simp only [endedJpeg, mem_append, jpegJobs] at h ⊢
  exact .inl (.inl (h.symm.imp (fun h => .inr (Shapes.mem_flushed h)) id))

/-- **The stop command** returns what it frees of the camera, if each of its JPEG jobs gives back.
-/
theorem Shapes.stop_eq (hs : Shapes R s) (gives : ∀ job ∈ s.endedJpeg, job.GivesBack s.reproc)
    (hb : b.kind ≠ .reprocessed) : s.stopReturns.count b = s.stopFrees.count b := by
  have heq : ∀ job ∈ s.endedJpeg, (job.returns s.reproc).count b = job.frees.count b :=
    fun job hjob => by
      obtain ⟨_, -, hshaped⟩ := hs.jpegs job (mem_ended hjob)
      exact (hshaped.gives_iff s.reproc).mp (gives job hjob) b hb
  have hboth := (tally_mono fun job hjob => (heq job hjob).le).antisymm
    (tally_mono fun job hjob => (heq job hjob).ge)
  have hstop := s.count_stop b
  omega

/-- **An orderly step settles** the camera's buffers. -/
theorem PostOp.Orderly.discharged (hs : Shapes R s) (hc : Control s) (orderly : op.Orderly s)
    (h : op.exec s = some t) (hb : b.kind ≠ .reprocessed) : Discharged b s t := by
  cases PostOp.outcome h with
  | jpegSetting | queueFree | queueNew | streamCb | input | metadata | fwkWaits | fwkNoSettings
  | fwkNoMemory | fwkJob | processedNone | processedLost | processedJob | reprocessedNone | land
  | callbackNone | callback | flushTake | send | startNoReproc | startReproc | startFailed | stop
  | stopChannel | startDataProc | doNextJob | noJpeg | takeJpeg | startJob | storeJobId | noFwk
  | fwkNoJob | fwkNoChannel | takeFwk | fwkReprocNone | fwkReproc | fwkReprocFailed | noPair
  | pairReproc | pairJpeg | ppReprocNone | ppReproc => rfl
  | overrideFailed => cases orderly
  | giveBack _ _ hoff =>
    rw [hc.giveBack_eq hoff]
    rfl
  | ppReprocFailed | pairCleaned =>
    simp only [Discharged, returnedEarly, count_append]
    omega
  | pairNoJob =>
    simp only [cleanUp_eq, tookPair, Discharged, returnedEarly, count_append]
    omega
  | reprocessedJob =>
    simp only [Discharged, returnedEarly, count_append, flatMap_append, flatMap_singleton]
    omega
  | @ppDone addr job find =>
    have htaken := tally_takeOut (f := fun job : PpData => job.srcFrame.toList) (k := b) find
    have hfrees : job.frees = job.srcFrame.toList ++ job.returns := rfl
    simp only [tally] at htaken
    simp only [Discharged, returnedEarly, count_append, hfrees]
    omega
  | @jpegDone addr c find =>
    have hmem : c.job ∈ s.jpegJobs := by
      have hc := mem_map_of_mem (f := Completion.job) (mem_of_find?_eq_some find)
      simp [jpegJobs, hc]
    obtain ⟨_, -, hshaped⟩ := hs.jpegs _ hmem
    have hcount := hshaped.count_snapshot s.reproc hb
    -- a frame of the camera is not returned a second time
    have hzero : (if s.reproc.isSome then c.job.srcFrame.toList.count b else 0) = 0 := by
      split
      · next hsome =>
        refine count_eq_zero.mpr fun hmem => ?_
        have hframe := Option.mem_toList.mp hmem
        have hnone := orderly c find b hframe (hshaped.kind_of_mem hframe hb)
        simp [hnone] at hsome
      · rfl
    simp only [Discharged, returnedEarly, count_append]
    omega
  | @flushRelease job hjob =>
    have hmem : job ∈ s.jpegJobs := by simp [jpegJobs, hjob]
    obtain ⟨_, -, hshaped⟩ := hs.jpegs _ hmem
    have hcount := (hshaped.gives_iff s.reproc).mp (orderly job hjob) b hb
    simp only [Discharged, returnedEarly, count_append]
    omega
  | @encodeFailed job hpc =>
    obtain ⟨hitems, hgives⟩ := orderly job hpc
    have hmem : job ∈ s.jpegJobs := by simp [jpegJobs, hitems]
    obtain ⟨_, -, hshaped⟩ := hs.jpegs _ hmem
    have hcount := (hshaped.gives_iff s.reproc).mp hgives b hb
    simp only [Discharged, returnedEarly, count_append]
    omega
  | stopDataProc hpc hcmds =>
    have hgives := orderly hpc (by rw [hcmds]; rfl)
    have hstop := hs.stop_eq (fun job hjob => hgives job (mem_append.mp hjob)) hb
    rw [stopDataProc_eq]
    simp only [stopReturns, stopFrees] at hstop
    simp only [Discharged, returnedEarly, stopReturns, stopFrees]
    simp only [count_append] at hstop ⊢
    omega

theorem PostProcessor.count_jobAddrs (s : PostProcessor) (addr : ℕ) : s.jobAddrs.count addr =
    (s.ongoingPPQ.items.map PpData.addr).count addr + (s.ppCompleting.map PpData.addr).count addr +
      ((s.landing.map JpegData.addr).count addr + (s.inputJpegQ.items.map JpegData.addr).count addr +
        (s.ongoingJpegQ.items.map JpegData.addr).count addr +
        (s.completing.map fun c => c.job.addr).count addr +
        (s.flushing.toList.map JpegData.addr).count addr) := by
  rw [jobAddrs, count_append, count_append, Kept.count_jpegAddrs]

theorem Queue.count_dequeue {α : Type} (f : α → ℕ) (k : ℕ) {q q' : Queue α} {a : α}
    (h : q.dequeue = (some a, q')) :
    (q.items.map f).count k = [f a].count k + (q'.items.map f).count k := by
  rw [← tally_map, ← tally_map]
  exact tally_dequeue _ k h

theorem Ordered.count_dequeueLast (ho : Ordered s) (hc : Control s) {job : PpData}
    (hpc : s.pc.ppJob = some job) (addr : ℕ) :
    (s.ongoingPPQ.dequeueLast.items.map PpData.addr).count addr + [job.addr].count addr =
      (s.ongoingPPQ.items.map PpData.addr).count addr := by
  have hactive := hc.active_of_pc fun hidle => by simp [hidle, Pc.ppJob] at hpc
  have hlast := tally_dequeueLast (fun job : PpData => [job.addr]) addr
    (hc.on hactive).2.2.2.1 (ho.held job hpc)
  rwa [tally_map, tally_map] at hlast

/-- **The jobs of an orderly step**: one that leaves its queue is freed once, or lost; one that
comes is new. -/
theorem PostOp.Orderly.jobs (hc : Control s) (ho : Ordered s) (orderly : op.Orderly s)
    (h : op.exec s = some t) (addr : ℕ)
    (hs : s.jobAddrs.count addr + s.freedJobs.count addr ≤ s.mallocs.count addr) :
    t.jobAddrs.count addr + t.freedJobs.count addr ≤ t.mallocs.count addr := by
  -- an address is looked for place by place; the rest is counting
  simp only [count_jobAddrs] at hs ⊢
  cases PostOp.outcome h with
  | jpegSetting | queueFree | queueNew | streamCb | input | metadata | fwkWaits | fwkNoSettings
  | fwkNoMemory | processedNone | reprocessedNone | callbackNone | send | startNoReproc | startReproc
  | startFailed | stop | stopChannel | startDataProc | doNextJob | noJpeg | startJob | storeJobId
  | noFwk | fwkNoJob | fwkReprocNone | fwkReproc | noPair | ppReprocNone | ppReproc => exact hs
  | overrideFailed => cases orderly
  | giveBack _ _ hoff =>
    rw [hc.giveBack_eq hoff]
    exact hs
  | fwkJob | fwkNoChannel =>
    simp only [map_append, map_singleton, count_append]
    omega
  | processedLost _ _ _ _ hq =>
    have htaken := count_dequeue PpData.addr addr hq
    simp only
    omega
  | processedJob _ _ _ _ hq | reprocessedJob _ _ _ hq =>
    have htaken := count_dequeue PpData.addr addr hq
    simp only [map_append, map_singleton, count_append, jpegJob]
    omega
  | @land a job find =>
    have htake := count_map_takeOut (k := addr) JpegData.addr find
    have hqueue := s.inputJpegQ.count_enqueue job JpegData.addr addr
    simp only
    omega
  | ppDone find =>
    have htake := count_map_takeOut (k := addr) PpData.addr find
    simp only [count_append]
    omega
  | jpegDone find =>
    have htake := count_map_takeOut (k := addr) (fun c : Completion => c.job.addr) find
    simp only [count_append]
    omega
  | callback _ hq =>
    have htaken := count_dequeue JpegData.addr addr hq
    simp only [map_append, map_singleton, count_append]
    omega
  | flushTake hnone hq =>
    have htaken := count_dequeue JpegData.addr addr hq
    simp only [hnone, Option.toList_none, map_nil, count_nil] at hs
    simp only [Option.toList_some, map_singleton]
    omega
  | flushRelease hsome =>
    rw [hsome] at hs
    simp only [Option.toList_some, map_singleton] at hs
    simp only [Option.toList_none, map_nil, count_nil, count_append]
    omega
  | @encodeFailed job hpc =>
    -- the job that is freed is the only ongoing one
    rw [(orderly job hpc).1, map_singleton] at hs
    simp only [dequeueLast, if_pos hc.always.1, (orderly job hpc).1, dropLast_singleton,
      map_nil, count_nil, count_append]
    omega
  | stopDataProc =>
    have hpp := s.ongoingPPQ.count_flush PpData.addr addr
    have hjpeg := s.inputJpegQ.count_flush JpegData.addr addr
    rw [stopDataProc_eq]
    simp only [count_append, map_nil, count_nil]
    omega
  | @takeJpeg job q _ _ hq =>
    have hqueue := s.ongoingJpegQ.count_enqueue job JpegData.addr addr
    have htaken := count_dequeue JpegData.addr addr hq
    simp only
    omega
  | @takeFwk _ _ a _ job _ _ _ hjob =>
    have hqueue := s.ongoingPPQ.count_enqueue job PpData.addr addr
    have haddr : job.addr = a := by rw [hjob]
    rw [haddr] at hqueue
    simp only [count_append]
    omega
  | fwkReprocFailed hpc | ppReprocFailed hpc =>
    -- the job that is freed is the last ongoing one
    have hlast := ho.count_dequeueLast hc (by rw [hpc]; rfl) addr
    simp only [count_append]
    omega
  | @pairNoJob malloc =>
    simp only [cleanUp_eq, tookPair, count_append]
    omega
  | @pairReproc a _ b buf =>
    have hqueue := s.ongoingPPQ.count_enqueue (s.pairJob a buf b) PpData.addr addr
    simp only [count_append]
    simp only [pairJob] at hqueue ⊢
    omega
  | @pairCleaned a _ b buf _ _ hpc _ _ hr =>
    have halone := ho.alone_dequeue hc (by simp [hpc]) (by rw [hpc]; rfl) hr (s.pairJob a buf b)
    simp only [halone, map_nil, count_nil, count_append]
    omega
  | @pairJpeg a a' b buf _ _ job _ x hpc _ _ hr hj =>
    -- the pair's job is freed at once, and the JPEG job takes its place
    obtain ⟨rfl, hnil⟩ := ho.alone hc (by simp [hpc]) (by rw [hpc]; rfl) hr hj
    have hqueue := s.inputJpegQ.count_enqueue
      (jpegJob (s.pairJob a buf b) buf.input x a') JpegData.addr addr
    have hboth : ([a] ++ [a']).count addr = [a].count addr + [a'].count addr := count_append
    rw [singleton_append] at hboth
    simp only [hnil, map_nil, count_nil, count_append]
    simp only [pairJob, jpegJob] at hqueue ⊢
    omega

/-! ## The job that is passed to the encoder -/

namespace Passed

theorem mono (hs : Passed s) (ongoing : t.ongoingJpegQ = s.ongoingJpegQ)
    (completing : t.completing = s.completing) (flushing : t.flushing = s.flushing)
    (freed : s.freedJobs ⊆ t.freedJobs) (pc : ∀ job, t.pc = .encode job → s.pc = .encode job) :
    Passed t where
  single := ongoing ▸ hs.single
  mine job h := by
    rw [ongoing, completing, flushing]
    exact (hs.mine job (pc job h)).imp_right fun h => h.imp_right fun h => h.imp_right fun h =>
      h.imp_right fun h => freed h

theorem of_ne (single : t.ongoingJpegQ.items.length ≤ 1) (pc : ∀ job, t.pc ≠ .encode job) :
    Passed t where
  single := single
  mine job h := absurd h (pc job)

theorem taken (hs : Passed s) {q : Queue JpegData}
    (ongoing : s.ongoingJpegQ.dequeue = (some job, q)) :
    q.items = [] ∧ ∀ job', s.pc = .encode job' → job' = job := by
  have hitems := (dequeue_some ongoing).2.1
  have hsingle := hs.single
  rw [hitems, length_cons] at hsingle
  refine ⟨length_eq_zero_iff.mp (by omega), fun job' h => ?_⟩
  rcases hs.mine job' h with hmine | ⟨hnil, -⟩
  · rw [hitems] at hmine
    exact (cons.inj hmine).1.symm
  · rw [hitems] at hnil
    cases hnil

/-- **The job that is passed is followed by every step.** -/
theorem step (hs : Passed s) (hc : Control s) (h : op.exec s = some t) : Passed t := by
  have hself : s.freedJobs ⊆ s.freedJobs := List.Subset.refl _
  have hmore : ∀ addrs, s.freedJobs ⊆ s.freedJobs ++ addrs := fun addrs =>
    subset_append_left _ addrs
  -- while a job is passed on, the data thread does nothing else
  cases PostOp.outcome h with
  | jpegSetting | queueFree | queueNew | streamCb | input | metadata | fwkWaits | fwkNoSettings
  | fwkNoMemory | fwkJob | processedNone | processedLost | reprocessedNone | reprocessedJob | land
  | callbackNone | send | startNoReproc | startReproc | startFailed | stop | stopChannel
  | startDataProc => exact hs.mono rfl rfl rfl hself fun _ h => h
  | processedJob | ppDone => exact hs.mono rfl rfl rfl (hmore _) fun _ h => h
  | giveBack _ _ hoff =>
    rw [hc.giveBack_eq hoff]
    exact hs.mono rfl rfl rfl hself fun _ h => h
  | doNextJob | noJpeg | startJob | storeJobId | noFwk | fwkNoJob | fwkNoChannel | takeFwk
  | fwkReprocNone | fwkReproc | fwkReprocFailed | noPair | pairReproc | pairJpeg | pairCleaned
  | ppReprocNone | ppReproc | ppReprocFailed | overrideFailed =>
    exact .of_ne hs.single fun _ h => by cases h
  | pairNoJob =>
    rw [cleanUp_eq]
    exact .of_ne hs.single fun _ h => by cases h
  | callback _ hq =>
    obtain ⟨hnil, hjob⟩ := hs.taken hq
    refine ⟨by simp [hnil], fun job' h => .inr ⟨hnil, .inl ⟨_,
      mem_append_right _ (mem_singleton_self _), ?_⟩⟩⟩
    exact congrArg JpegData.addr (hjob job' h).symm
  | flushTake _ hq =>
    obtain ⟨hnil, hjob⟩ := hs.taken hq
    refine ⟨by simp [hnil], fun job' h => .inr ⟨hnil, .inr (.inl ⟨_, rfl, ?_⟩)⟩⟩
    exact congrArg JpegData.addr (hjob job' h).symm
  | @jpegDone addr c find =>
    refine ⟨hs.single, fun job h => (hs.mine job h).imp_right fun h => h.imp_right fun h => ?_⟩
    rcases h with ⟨d, hd, haddr⟩ | h | h
    · by_cases hthis : job.addr = addr
      · -- the job is freed
        have hfound := find?_some find
        rw [beq_iff_eq] at hfound
        exact .inr (.inr (by simp [hfound, hthis]))
      · refine .inl ⟨d, ?_, haddr⟩
        exact (mem_eraseP_of_neg (by simpa [haddr] using hthis)).mpr hd
    · exact .inr (.inl h)
    · exact .inr (.inr (hmore _ h))
  | @flushRelease job' hsome =>
    refine ⟨hs.single, fun job h => (hs.mine job h).imp_right fun h => h.imp_right fun h => ?_⟩
    rcases h with h | ⟨j, hj, haddr⟩ | h
    · exact .inl h
    · rw [hsome, Option.mem_some_iff] at hj
      exact .inr (.inr (by simp [← haddr, hj]))
    · exact .inr (.inr (hmore _ h))
  | stopDataProc hpc =>
    rw [stopDataProc_eq]
    exact .of_ne (Nat.zero_le 1) fun job => by simp [hpc]
  | @takeJpeg job q _ hnone =>
    have hitems : (s.ongoingJpegQ.enqueue job).items = [job] := by
      rw [enqueue_active hc.always.1, hnone]
      rfl
    refine ⟨by simp [hitems], fun job' h => .inl ?_⟩
    cases h
    exact hitems
  | encodeFailed =>
    refine .of_ne ?_ fun _ h => by cases h
    have hlength := hs.single
    simp only [dequeueLast, if_pos hc.always.1, length_dropLast]
    omega

end Passed

theorem PostOp.handed_step (hc : Control s) (h : op.exec s = some t) :
    t.handed = s.handed ∨ ∃ b : SuperBuf, t.handed = s.handed ++ [b] ∧ b.addr ∈ op.bufMallocs := by
  cases PostOp.outcome h with
  | streamCb | input | metadata | processedNone | processedLost | processedJob =>
    exact .inr ⟨_, rfl, mem_singleton_self _⟩
  | pairNoJob =>
    rw [cleanUp_eq]
    exact .inl rfl
  | giveBack _ _ hoff =>
    rw [hc.giveBack_eq hoff]
    exact .inl rfl
  | stopDataProc =>
    rw [stopDataProc_eq]
    exact .inl rfl
  | _ => exact .inl rfl

theorem PostOp.mallocs_step (hc : Control s) (h : op.exec s = some t) :
    ∃ addrs, t.mallocs = s.mallocs ++ addrs ∧ addrs.Sublist op.jobMallocs := by
  have hnone : ∀ l : List ℕ, ∃ addrs, s.mallocs = s.mallocs ++ addrs ∧ addrs.Sublist l := fun l =>
    ⟨[], (append_nil _).symm, nil_sublist _⟩
  cases PostOp.outcome h with
  | fwkJob | processedJob | fwkNoChannel | takeFwk | pairJpeg => exact ⟨_, rfl, Sublist.refl _⟩
  | pairNoJob =>
    rw [cleanUp_eq]
    exact ⟨_, rfl, sublist_append_left _ _⟩
  | pairReproc | pairCleaned => exact ⟨[_], rfl, sublist_append_left _ _⟩
  | giveBack _ _ hoff =>
    rw [hc.giveBack_eq hoff]
    exact hnone _
  | stopDataProc =>
    rw [stopDataProc_eq]
    exact hnone _
  | _ => exact hnone _

namespace Accounted

theorem step (hs : Accounted s) (h : op.OrderlyStep s t) : Accounted t := by
  obtain ⟨orderly, fresh, hexec⟩ := h
  have hoverride : ∀ out, op ≠ .ppReproc false out := by
    rintro out rfl
    cases orderly
  refine ⟨hs.control.step hexec, hs.ordered.step hs.control hexec hoverride,
    hs.shapes.step hs.control hs.ordered trivial hexec, hs.passed.step hs.control hexec, ?_,
    fun b hb => ?_, fun b hb => ?_, ?_, fun addr => ?_⟩
  · rcases PostOp.handed_step hs.control hexec with heq | ⟨b, heq, hmem⟩
    · exact heq ▸ hs.handed
    · rw [heq, map_append, map_singleton, nodup_append]
      refine ⟨hs.handed, nodup_singleton _, fun a ha c hc hac => ?_⟩
      rw [mem_singleton.mp hc] at hac
      exact fresh.bufs _ hmem (hac ▸ ha)
  · have hbalanced := orderly.balanced hs.shapes hs.control hs.ordered hexec hb
    have hheld := hs.held b hb
    simp only [Balanced, tally_self] at hbalanced
    omega
  · have hdischarged := orderly.discharged hs.shapes hs.control hexec hb
    have hreturned := hs.returned b hb
    rw [Discharged] at hdischarged
    omega
  · obtain ⟨addrs, heq, hsub⟩ := PostOp.mallocs_step hs.control hexec
    rw [heq, nodup_append]
    refine ⟨hs.mallocs, hsub.nodup fresh.jobs.1, fun a ha c hc hac => ?_⟩
    exact fresh.jobs.2 c (hsub.subset hc) (hac ▸ ha)
  · exact orderly.jobs hs.control hs.ordered hexec addr (hs.jobs addr)

theorem count_handed (hs : Accounted s) (b : SuperBuf) : s.handed.count b ≤ 1 :=
  nodup_iff_count_le_one.mp hs.handed.of_map b

theorem conserved (hs : Accounted s) : Conserved s := by
  have hle : ∀ addr, s.jobAddrs.count addr + s.freedJobs.count addr ≤ 1 := fun addr =>
    (hs.jobs addr).trans (nodup_iff_count_le_one.mp hs.mallocs addr)
  refine ⟨fun b hb => ?_, fun b hb => ?_, ?_, fun addr hq hf => ?_, ?_⟩
  · obtain ⟨hmem, hkind⟩ := mem_filter.mp hb
    rw [hs.held b (by simpa using hkind)]
    exact count_eq_one_of_mem hs.handed.of_map hmem
  · exact hs.returned b (by simpa using (mem_filter.mp hb).2)
  · exact nodup_iff_count_le_one.mpr fun addr => (Nat.le_add_right _ _).trans (hle addr)
  · have hqueued := count_pos_iff.mpr hq
    have hfreed := count_pos_iff.mpr hf
    have := hle addr
    omega
  · exact nodup_iff_count_le_one.mpr fun addr => (Nat.le_add_left _ _).trans (hle addr)

end Accounted

namespace Accounted

theorem handed_of_held (hs : Accounted s) (hb : b.kind ≠ .reprocessed) (held : b ∈ s.heldBufs) :
    b ∈ s.handed := by
  have hpos := count_pos_iff.mpr held
  have hheld := hs.held b hb
  exact count_pos_iff.mp (by omega)

theorem mem_handedIn (hb : b.kind ≠ .reprocessed) (h : b ∈ s.handed) : b ∈ s.handedIn :=
  mem_filter.mpr ⟨h, by simpa using hb⟩

theorem kept (hs : Accounted s) (ht : Conserved t) (hb : b.kind ≠ .reprocessed)
    (handed : s.handed ⊆ t.handed) (freed : t.freed = s.freed) :
    s.heldBufs.count b ≤ t.heldBufs.count b := by
  have hheld := hs.held b hb
  have hone := hs.count_handed b
  by_cases hmem : b ∈ s.handed
  · have howned := ht.owned b (mem_handedIn hb (handed hmem))
    rw [freed] at howned
    omega
  · have hzero := count_eq_zero.mpr hmem
    omega

theorem discharged (hs : Accounted s) (ht : Conserved t) (hb : b.kind ≠ .reprocessed)
    (held : b ∈ s.heldBufs) (handed : t.handed = s.handed) : Discharged b s t := by
  have hmem := handed ▸ hs.handed_of_held hb held
  have hreturned := ht.returned b (mem_handedIn hb hmem)
  have hbefore := hs.returned b hb
  rw [Discharged]
  omega

end Accounted

end PostProc
