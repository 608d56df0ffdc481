import MidoCamera.PostProc.Outcomes

/-!
# The order of the post-processor's jobs

Starting and stopping are waited for, so that at most one of their commands is there. While the
post-processor is not active its queues are off and empty. While it is active, its ongoing
post-processing jobs are those whose results are to come, in the order in which they were handed to
the reprocess channel, and last the one that the data thread is about to hand over. This rests on
`overrideMetadata`: where it fails, its job is freed and stays in the queue.
-/

namespace PostProc

open Loop List PostProcessor

variable {job : PpData} {q : Queue PpData}

/-- The post-processing job that the data thread is about to hand to the reprocess channel. -/
def Pc.ppJob : Pc → Option PpData
  | .fwkReproc job _ | .ppReproc job _ => some job
  | _ => none

/-- The request whose frame a post-processing job has. -/
def PpData.request (job : PpData) : ℕ :=
  match job.srcFrame, job.fwkSrcFrame with
  | some b, _ => b.request
  | none, some frame => frame.frameNumber
  | none, none => 0

def PostProcessor.submitted (s : PostProcessor) : List ℕ :=
  match s.reproc with
  | some r => r.submitted
  | none => []

/-- A post-processor that is started, with a reprocess channel of a type or none. -/
def PostProcessor.started (reprocessType : Option ReprocessType) : PostProcessor :=
  .active (reprocessType.map fun type => { reprocessType := type })

/-- Whether five queues are on. -/
def PostProcessor.QueuesOn (s : PostProcessor) : Prop :=
  s.inputPPQ.active = true ∧ s.inputFWKPPQ.active = true ∧ s.inputMetaQ.active = true ∧
    s.ongoingPPQ.active = true ∧ s.inputJpegQ.active = true

/-- Whether five queues are off and empty. -/
def PostProcessor.QueuesOff (s : PostProcessor) : Prop :=
  s.inputPPQ = ⟨[], false⟩ ∧ s.inputFWKPPQ = ⟨[], false⟩ ∧ s.inputMetaQ = ⟨[], false⟩ ∧
    s.ongoingPPQ = ⟨[], false⟩ ∧ s.inputJpegQ = ⟨[], false⟩

/-- How the commands to start and to stop, the queues and the reprocess channel go together. -/
structure Control (s : PostProcessor) : Prop where
  starts : s.cmds.count .startDataProc = if s.ctl = .starting then 1 else 0
  stops : s.cmds.count .stopDataProc = if s.ctl = .stopping then 1 else 0
  stopped : s.ctl = .stopped → s.isActive = false
  starting : s.ctl = .starting → s.isActive = false ∧ s.postProcStarted = true
  notStarted : s.postProcStarted = false → s.isActive = false
  off : s.isActive = false → s.pc = .idle ∧ s.QueuesOff
  on : s.isActive = true → s.QueuesOn
  always : s.ongoingJpegQ.active = true ∧ s.jpegSettingsQ.active = true
  held : s.pc.ppJob.isSome → s.reproc.isSome

/-- The ongoing post-processing jobs are those whose results are to come, and last the one that the
data thread is about to hand over. -/
structure Ordered (s : PostProcessor) : Prop where
  requests : s.isActive = true →
    s.ongoingPPQ.items.map PpData.request = s.submitted ++ s.pc.ppJob.toList.map PpData.request
  starting : s.ctl = .starting ∨ s.postProcStarted = false → s.submitted = []
  held : ∀ job ∈ s.pc.ppJob, s.ongoingPPQ.items.getLast? = some job
  fwk : ∀ job frame, s.pc = .fwkReproc job frame →
    job.srcFrame = none ∧ job.fwkSrcFrame = some frame ∧ job.srcMetadata = none
  pp : ∀ job buf, s.pc = .ppReproc job buf →
    job.srcFrame = some buf.input ∧ job.fwkSrcFrame = none ∧ job.srcMetadata.isSome

theorem PostProcessor.started_control (reprocessType : Option ReprocessType) :
    Control (.started reprocessType) := by
  constructor <;> simp [started, active, QueuesOn, Pc.ppJob]

theorem PostProcessor.started_ordered (reprocessType : Option ReprocessType) :
    Ordered (.started reprocessType) := by
  constructor <;> rcases reprocessType with _ | type <;> simp [started, active, submitted, Pc.ppJob]

variable {s t : PostProcessor} {op : PostOp}

/-! ## Commands, queues and the reprocess channel -/

namespace Control

theorem mono (hs : Control s) (isActive : t.isActive = s.isActive) (ctl : t.ctl = s.ctl)
    (cmds : t.cmds = s.cmds) (postProcStarted : t.postProcStarted = s.postProcStarted)
    (pp : s.inputPPQ.Keeps t.inputPPQ) (fwk : s.inputFWKPPQ.Keeps t.inputFWKPPQ)
    (metadata : s.inputMetaQ.Keeps t.inputMetaQ) (ppq : s.ongoingPPQ.Keeps t.ongoingPPQ)
    (jpeg : s.inputJpegQ.Keeps t.inputJpegQ) (ongoing : s.ongoingJpegQ.Keeps t.ongoingJpegQ)
    (settings : s.jpegSettingsQ.Keeps t.jpegSettingsQ) (pc : t.pc = s.pc ∨ s.isActive = true)
    (held : t.pc.ppJob.isSome → t.reproc.isSome) : Control t where
  starts := by rw [cmds, ctl, hs.starts]
  stops := by rw [cmds, ctl, hs.stops]
  stopped h := isActive.trans (hs.stopped (ctl ▸ h))
  starting h := ⟨isActive.trans (hs.starting (ctl ▸ h)).1,
    postProcStarted.trans (hs.starting (ctl ▸ h)).2⟩
  notStarted h := isActive.trans (hs.notStarted (postProcStarted ▸ h))
  off h := by
    have hoff : s.isActive = false := isActive ▸ h
    obtain ⟨hpc, h₁, h₂, h₃, h₄, h₅⟩ := hs.off hoff
    refine ⟨?_, (pp.off (by rw [h₁])).trans h₁, (fwk.off (by rw [h₂])).trans h₂,
      (metadata.off (by rw [h₃])).trans h₃, (ppq.off (by rw [h₄])).trans h₄,
      (jpeg.off (by rw [h₅])).trans h₅⟩
    rcases pc with pc | pc
    · exact pc.trans hpc
    · simp [pc] at hoff
  on h := by
    obtain ⟨h₁, h₂, h₃, h₄, h₅⟩ := hs.on (isActive ▸ h)
    exact ⟨pp.active.trans h₁, fwk.active.trans h₂, metadata.active.trans h₃, ppq.active.trans h₄,
      jpeg.active.trans h₅⟩
  always := ⟨ongoing.active.trans hs.always.1, settings.active.trans hs.always.2⟩
  held := held

theorem active_of_pc (hs : Control s) (hpc : s.pc ≠ .idle) : s.isActive = true := by
  rcases h : s.isActive with _ | _
  · exact absurd (hs.off h).1 hpc
  · rfl

theorem starting_of_mem (hs : Control s) (h : .startDataProc ∈ s.cmds) : s.ctl = .starting := by
  have hpos := count_pos_iff.mpr h
  rw [hs.starts] at hpos
  by_contra hne
  simp [hne] at hpos

theorem stopping_of_mem (hs : Control s) (h : .stopDataProc ∈ s.cmds) : s.ctl = .stopping := by
  have hpos := count_pos_iff.mpr h
  rw [hs.stops] at hpos
  by_contra hne
  simp [hne] at hpos

theorem giveBack_eq (hs : Control s) (hoff : s.isActive = false) (rest : List Cmd) :
    ({ s with cmds := rest } : PostProcessor).giveBack = { s with cmds := rest } := by
  obtain ⟨-, hpp, hfwk, hmeta, -, hjpeg⟩ := hs.off hoff
  exact giveBack_off (by rw [hjpeg]) (by rw [hpp]) (by rw [hmeta]) (by rw [hfwk])

theorem startDataProc (hs : Control s) {rest : List Cmd} (hpc : s.pc = .idle)
    (hcmds : s.cmds = .startDataProc :: rest) :
    Control ({ s with cmds := rest } : PostProcessor).startDataProc := by
  have hctl : s.ctl = .starting := hs.starting_of_mem (by simp [hcmds])
  have hstarts := hs.starts
  have hstops := hs.stops
  simp only [hcmds, hctl, count_cons_self] at hstarts hstops
  obtain ⟨-, hstarted⟩ := hs.starting hctl
  refine ⟨?_, ?_, nofun, nofun, fun h => ?_, nofun, fun _ => ⟨rfl, rfl, rfl, rfl, rfl⟩, hs.always,
    fun h => ?_⟩
  · simp only [PostProcessor.startDataProc, reduceCtorEq, if_false]
    simpa using hstarts
  · simpa [PostProcessor.startDataProc] using hstops
  · exact absurd (h.symm.trans hstarted) Bool.false_ne_true
  · simp [PostProcessor.startDataProc, hpc, Pc.ppJob] at h

theorem stopDataProc (hs : Control s) {rest : List Cmd} (hpc : s.pc = .idle)
    (hcmds : s.cmds = .stopDataProc :: rest) :
    Control ({ s with cmds := rest } : PostProcessor).stopDataProc := by
  have hctl : s.ctl = .stopping := hs.stopping_of_mem (by simp [hcmds])
  have hstarts := hs.starts
  have hstops := hs.stops
  simp only [hcmds, hctl, count_cons_self] at hstarts hstops
  have hflush : s.QueuesOff ∨ s.QueuesOn := by
    rcases h : s.isActive with _ | _
    · exact .inl (hs.off h).2
    · exact .inr (hs.on h)
  rw [stopDataProc_eq]
  refine ⟨?_, ?_, fun _ => rfl, nofun, fun _ => rfl, fun _ => ⟨hpc, ?_⟩, nofun, hs.always,
    fun h => ?_⟩
  · simpa using hstarts
  · simpa using hstops
  · -- each queue is flushed, or is off already
    rcases hflush with ⟨h₁, h₂, h₃, h₄, h₅⟩ | ⟨h₁, h₂, h₃, h₄, h₅⟩
    · simp [PostProcessor.QueuesOff, Queue.flush, h₁, h₂, h₃, h₄, h₅]
    · simp [PostProcessor.QueuesOff, Queue.flush, h₁, h₂, h₃, h₄, h₅]
  · simp [hpc, Pc.ppJob] at h

theorem step (hs : Control s) (h : op.exec s = some t) : Control t := by
  -- from here on each outcome says which queues it changes, and how
  have hheld := hs.held
  cases PostOp.outcome h with
  | jpegSetting =>
    exact hs.mono rfl rfl rfl rfl (.refl _) (.refl _) (.refl _) (.refl _) (.refl _)
      (.refl _) (.enqueue _ _) (.inl rfl) hheld
  | streamCb | input =>
    exact hs.mono rfl rfl rfl rfl (.enqueue _ _) (.refl _) (.refl _) (.refl _)
      (.refl _) (.refl _) (.refl _) (.inl rfl) hheld
  | metadata =>
    exact hs.mono rfl rfl rfl rfl (.refl _) (.refl _) (.enqueue _ _) (.refl _) (.refl _)
      (.refl _) (.refl _) (.inl rfl) hheld
  | fwkWaits =>
    exact hs.mono rfl rfl rfl rfl (.refl _) (.enqueue _ _) (.refl _) (.refl _) (.refl _)
      (.refl _) (.refl _) (.inl rfl) hheld
  | fwkNoSettings => exact hs
  | fwkNoMemory _ hq | fwkJob _ hq =>
    exact hs.mono rfl rfl rfl rfl (.refl _) (.refl _) (.refl _)
      (.refl _) (.refl _) (.refl _) (.taken hq) (.inl rfl) hheld
  | processedLost _ _ _ _ hq | processedJob _ _ _ _ hq =>
    exact hs.mono rfl rfl rfl rfl (.refl _)
      (.refl _) (.refl _) (.taken hq) (.refl _) (.refl _) (.refl _) (.inl rfl) fun _ => rfl
  | reprocessedJob _ _ _ hq =>
    exact hs.mono rfl rfl rfl rfl (.refl _) (.refl _) (.refl _) (.taken hq)
      (.refl _) (.refl _) (.refl _) (.inl rfl) fun _ => rfl
  | processedNone | reprocessedNone =>
    exact hs.mono rfl rfl rfl rfl (.refl _) (.refl _) (.refl _)
      (.refl _) (.refl _) (.refl _) (.refl _) (.inl rfl) fun _ => rfl
  | land =>
    exact hs.mono rfl rfl rfl rfl (.refl _) (.refl _) (.refl _) (.refl _) (.enqueue _ _)
      (.refl _) (.refl _) (.inl rfl) hheld
  | callback _ hq | flushTake _ hq =>
    exact hs.mono rfl rfl rfl rfl (.refl _) (.refl _) (.refl _)
      (.refl _) (.refl _) (.taken hq) (.refl _) (.inl rfl) hheld
  | queueFree | queueNew | ppDone | callbackNone =>
    exact hs.mono rfl rfl rfl rfl (.refl _) (.refl _)
      (.refl _) (.refl _) (.refl _) (.refl _) (.refl _) (.inl rfl) hheld
  | jpegDone | flushRelease =>
    exact hs.mono rfl rfl rfl rfl (.refl _) (.refl _) (.refl _) (.refl _)
      (.refl _) (.refl _) (.refl _) (.inl rfl) (by simpa using hheld)
  | send =>
    exact ⟨by simpa [count_append] using hs.starts, by simpa [count_append] using hs.stops,
      hs.stopped, hs.starting, hs.notStarted, hs.off, hs.on, hs.always, hheld⟩
  | startNoReproc hctl hnot | startReproc hctl hnot _ =>
    -- the data thread learns of the start from the command that is queued now
    have hstarts := hs.starts
    have hstops := hs.stops
    simp only [hctl, reduceCtorEq, if_false] at hstarts hstops
    have hoff := hs.notStarted hnot
    refine ⟨by simp [count_append, hstarts], by simpa [count_append] using hstops, nofun,
      fun _ => ⟨hoff, rfl⟩, fun _ => hoff, hs.off, hs.on, hs.always, fun h => ?_⟩
    simp [(hs.off hoff).1, Pc.ppJob] at h
  | startFailed hctl hnot =>
    have hoff := hs.notStarted hnot
    refine ⟨hs.starts, hs.stops, hs.stopped, fun h => absurd (hctl.symm.trans h) nofun, fun _ => hoff,
      hs.off, hs.on, hs.always, fun h => ?_⟩
    simp [(hs.off hoff).1, Pc.ppJob] at h
  | stop hctl =>
    have hstarts := hs.starts
    have hstops := hs.stops
    simp only [hctl, reduceCtorEq, if_false] at hstarts hstops
    exact ⟨by simpa using hstarts, by simpa using hstops, nofun, nofun, hs.notStarted, hs.off, hs.on,
      hs.always, hheld⟩
  | stopChannel hctl =>
    have hstarts := hs.starts
    have hstops := hs.stops
    simp only [hctl, reduceCtorEq, if_false] at hstarts hstops
    -- the stop command is done: the queues are off already
    have hoff := hs.stopped hctl
    refine ⟨by simpa using hstarts, by simpa using hstops, nofun, nofun, fun _ => hoff, hs.off, hs.on,
      hs.always, fun h => ?_⟩
    simp [(hs.off hoff).1, Pc.ppJob] at h
  | startDataProc hpc hcmds => exact hs.startDataProc hpc hcmds
  | stopDataProc hpc hcmds => exact hs.stopDataProc hpc hcmds
  | @doNextJob rest hpc hcmds hactive =>
    have hstarts := hs.starts
    have hstops := hs.stops
    rw [hcmds] at hstarts hstops
    exact ⟨by simpa using hstarts, by simpa using hstops, hs.stopped, hs.starting, hs.notStarted,
      fun h => absurd (hactive.symm.trans h) nofun, hs.on, hs.always, nofun⟩
  | @giveBack rest hpc hcmds hoff =>
    have hstarts := hs.starts
    have hstops := hs.stops
    rw [hcmds] at hstarts hstops
    have hrest : Control { s with cmds := rest } :=
      ⟨by simpa using hstarts, by simpa using hstops, hs.stopped, hs.starting, hs.notStarted, hs.off,
        hs.on, hs.always, hheld⟩
    rw [hs.giveBack_eq hoff]
    exact hrest
  | noJpeg hpc | startJob hpc | storeJobId hpc | noFwk hpc | fwkReprocNone hpc | noPair hpc
  | ppReprocNone hpc =>
    exact hs.mono rfl rfl rfl rfl (.refl _) (.refl _) (.refl _) (.refl _) (.refl _) (.refl _) (.refl _)
      (.inr (hs.active_of_pc (by simp [hpc]))) (nofun)
  | takeJpeg hpc _ hq =>
    exact hs.mono rfl rfl rfl rfl (.refl _) (.refl _) (.refl _) (.refl _)
      (.taken hq) (.enqueue _ _) (.refl _) (.inr (hs.active_of_pc (by simp [hpc]))) (nofun)
  | encodeFailed hpc =>
    exact hs.mono rfl rfl rfl rfl (.refl _) (.refl _) (.refl _) (.refl _) (.refl _)
      (.dequeueLast _) (.refl _) (.inr (hs.active_of_pc (by simp [hpc]))) (nofun)
  | fwkNoJob hpc hq | fwkNoChannel hpc hq _ =>
    exact hs.mono rfl rfl rfl rfl (.refl _) (.taken hq)
      (.refl _) (.refl _) (.refl _) (.refl _) (.dequeue _) (.inr (hs.active_of_pc (by simp [hpc]))) (nofun)
  | takeFwk hpc hq hr =>
    exact hs.mono rfl rfl rfl rfl (.refl _) (.taken hq) (.refl _) (.enqueue _ _)
      (.refl _) (.refl _) (.dequeue _) (.inr (hs.active_of_pc (by simp [hpc]))) fun _ => by simp [hr]
  | fwkReproc hpc | ppReproc hpc | overrideFailed hpc =>
    exact hs.mono rfl rfl rfl rfl (.refl _)
      (.refl _) (.refl _) (.refl _) (.refl _) (.refl _) (.refl _)
      (.inr (hs.active_of_pc (by simp [hpc]))) (nofun)
  | fwkReprocFailed hpc | ppReprocFailed hpc =>
    exact hs.mono rfl rfl rfl rfl (.refl _) (.refl _)
      (.refl _) (.dequeueLast _) (.refl _) (.refl _) (.refl _)
      (.inr (hs.active_of_pc (by simp [hpc]))) (nofun)
  | pairNoJob hpc =>
    rw [cleanUp_eq]
    exact hs.mono rfl rfl rfl rfl (.dequeue _) (.refl _) (.dequeue _) (.refl _) (.refl _) (.refl _)
      (.dequeue _) (.inr (hs.active_of_pc (by simp [hpc]))) (nofun)
  | pairReproc hpc hq hm hr =>
    exact hs.mono rfl rfl rfl rfl (.taken hq) (.refl _) (.taken hm)
      (.enqueue _ _) (.refl _) (.refl _) (.dequeue _) (.inr (hs.active_of_pc (by simp [hpc])))
      fun _ => by simp [hr]
  | pairJpeg hpc hq hm _ hj =>
    exact hs.mono rfl rfl rfl rfl (.taken hq) (.refl _) (.taken hm)
      ((Queue.Keeps.enqueue _ _).trans (.taken hj)) (.enqueue _ _) (.refl _) (.dequeue _)
      (.inr (hs.active_of_pc (by simp [hpc]))) (nofun)
  | pairCleaned _ hpc hq hm =>
    exact hs.mono rfl rfl rfl rfl (.taken hq) (.refl _) (.taken hm)
      ((Queue.Keeps.enqueue _ _).trans (.dequeue _)) (.refl _) (.refl _) (.dequeue _)
      (.inr (hs.active_of_pc (by simp [hpc]))) (nofun)

end Control

/-! ## The order of the jobs -/

theorem Reproc.submitted_doReprocessOffline (r : Reproc) (request : ℕ) :
    (r.doReprocessOffline request .submitted).2.submitted = r.submitted ++ [request] := by
  unfold Reproc.doReprocessOffline
  split
  · rcases h : r.freeBufferList with _ | ⟨idx, rest⟩ <;> simp [Reproc.takeBuf, h]
  · rfl

theorem Reproc.submitted_failed (r : Reproc) (request : ℕ) {out : Offline} (h : out ≠ .submitted) :
    (r.doReprocessOffline request out).2.submitted = r.submitted := by
  unfold Reproc.doReprocessOffline
  rcases out with _ | _ | _ | _ <;> split <;> rcases hf : r.freeBufferList with _ | ⟨idx, rest⟩ <;>
    simp [Reproc.takeBuf, hf] at h ⊢

theorem Reproc.submitted_regain (r : Reproc) (job : JpegData) : (r.regain job).submitted = r.submitted :=
  rfl

theorem Reproc.submitted_foldl (jobs : List JpegData) (r : Reproc) :
    (jobs.foldl Reproc.regain r).submitted = r.submitted := by
  induction jobs generalizing r with
  | nil => rfl
  | cons job jobs ih => rw [foldl_cons, ih, submitted_regain]

theorem PostProcessor.submitted_some {r : Reproc} (h : s.reproc = some r) :
    s.submitted = r.submitted := by
  simp [submitted, h]

theorem PostProcessor.submitted_map {f : Reproc → Reproc} (hf : ∀ r, (f r).submitted = r.submitted)
    (h : t.reproc = s.reproc.map f) : t.submitted = s.submitted := by
  rcases hr : s.reproc with _ | r <;> simp [submitted, h, hr, hf]

namespace Ordered

theorem mono (hs : Ordered s) (isActive : t.isActive = s.isActive) (ctl : t.ctl = s.ctl)
    (postProcStarted : t.postProcStarted = s.postProcStarted) (submitted : t.submitted = s.submitted)
    (ppq : t.ongoingPPQ = s.ongoingPPQ)
    (pc : t.pc = s.pc ∨ t.pc.ppJob = none ∧ s.pc.ppJob = none) : Ordered t := by
  have hjob : t.pc.ppJob = s.pc.ppJob := by
    rcases pc with pc | ⟨ht, hs⟩
    · rw [pc]
    · rw [ht, hs]
  refine ⟨fun h => ?_, fun h => ?_, fun job h => ?_, fun job frame h => ?_, fun job buf h => ?_⟩
  · rw [ppq, submitted, hjob]
    exact hs.requests (isActive ▸ h)
  · rw [submitted]
    exact hs.starting (by rwa [ctl, postProcStarted] at h)
  · rw [ppq]
    exact hs.held job (hjob ▸ h)
  · rcases pc with pc | ⟨ht, -⟩
    · exact hs.fwk job frame (pc ▸ h)
    · simp [h, Pc.ppJob] at ht
  · rcases pc with pc | ⟨ht, -⟩
    · exact hs.pp job buf (pc ▸ h)
    · simp [h, Pc.ppJob] at ht

theorem of_unheld (requests : t.isActive = true → t.ongoingPPQ.items.map PpData.request = t.submitted)
    (starting : t.ctl = .starting ∨ t.postProcStarted = false → t.submitted = [])
    (pc : t.pc.ppJob = none) : Ordered t := by
  refine ⟨fun h => ?_, starting, ?_, fun job frame h => ?_, fun job buf h => ?_⟩
  · rw [pc, requests h, Option.toList_none, map_nil, append_nil]
  · rw [pc]
    exact fun held h => absurd h (Option.not_mem_none held)
  · simp [h, Pc.ppJob] at pc
  · simp [h, Pc.ppJob] at pc

theorem active_of_taken (hc : Control s)
    (ongoing : s.ongoingPPQ.dequeue = (some job, q)) : s.isActive = true := by
  rcases h : s.isActive with _ | _
  · have hoff := (hc.off h).2.2.2.2.1
    simp [Queue.dequeue, hoff] at ongoing
  · rfl

/-- **A result comes for the first ongoing job.** -/
theorem taken (hs : Ordered s) (hc : Control s) {request : ℕ} {rest : List ℕ}
    (submitted : s.submitted = request :: rest)
    (ongoing : s.ongoingPPQ.dequeue = (some job, q)) : job.request = request ∧
      ∀ t : PostProcessor, t.ctl = s.ctl → t.postProcStarted = s.postProcStarted →
        t.submitted = rest → t.ongoingPPQ = q → t.pc = s.pc → Ordered t := by
  have hactive := active_of_taken hc ongoing
  have hrequests := hs.requests hactive
  obtain ⟨-, hitems, -⟩ := Queue.dequeue_some ongoing
  rw [hitems, submitted, map_cons, cons_append, cons.injEq] at hrequests
  refine ⟨hrequests.1, fun t ctl started hsub ppq pc => ⟨fun _ => ?_, fun h => ?_,
    fun held h => ?_, fun held frame h => hs.fwk held frame (pc ▸ h),
    fun held buf h => hs.pp held buf (pc ▸ h)⟩⟩
  · rw [ppq, hsub, pc, hrequests.2]
  · rw [ctl, started] at h
    have := hs.starting h
    rw [submitted] at this
    cases this
  · -- the job that is held is not the first
    rw [pc] at h
    have hlast := hs.held held h
    have hne : q.items ≠ [] := by
      rintro hnil
      rw [hnil, Option.mem_def.mp h] at hrequests
      simp at hrequests
    rw [hitems, getLast?_cons, Option.some.injEq] at hlast
    rw [ppq, ← hlast, getLast?_eq_some_getLast hne]
    simp

theorem notTaken (hs : Ordered s) (hc : Control s) {request : ℕ} {rest : List ℕ}
    (submitted : s.submitted = request :: rest) (ongoing : s.ongoingPPQ.dequeue.1 = none) :
    s.isActive = false := by
  by_contra h
  rw [Bool.not_eq_false] at h
  have hrequests := hs.requests h
  have hon := (hc.on h).2.2.2.1
  rw [Queue.dequeue, if_pos hon, head?_eq_none_iff] at ongoing
  rw [ongoing, submitted] at hrequests
  cases hrequests

theorem hold (hs : Ordered s) (hc : Control s) (hactive : s.isActive = true)
    (hpc : s.pc.ppJob = none) (ctl : t.ctl = s.ctl)
    (postProcStarted : t.postProcStarted = s.postProcStarted) (submitted : t.submitted = s.submitted)
    (ppq : t.ongoingPPQ = s.ongoingPPQ.enqueue job) (pc : t.pc.ppJob = some job)
    (fwk : ∀ frame, t.pc = .fwkReproc job frame →
      job.srcFrame = none ∧ job.fwkSrcFrame = some frame ∧ job.srcMetadata = none)
    (pp : ∀ buf, t.pc = .ppReproc job buf →
      job.srcFrame = some buf.input ∧ job.fwkSrcFrame = none ∧ job.srcMetadata.isSome) :
    Ordered t := by
  have hq := Queue.enqueue_active (hc.on hactive).2.2.2.1 job
  have hrequests := hs.requests hactive
  rw [hpc, Option.toList_none, map_nil, append_nil] at hrequests
  refine ⟨fun _ => ?_, fun h => ?_, fun held h => ?_, fun held frame h => ?_, fun held buf h => ?_⟩
  · rw [ppq, hq, submitted, pc, map_append, hrequests, Option.toList_some]
  · rw [submitted]
    exact hs.starting (by rwa [ctl, postProcStarted] at h)
  · rw [pc, Option.mem_some_iff] at h
    rw [ppq, hq, h, getLast?_concat]
  · have hheld : held = job := by simpa [h, Pc.ppJob] using pc
    subst hheld
    exact fwk frame h
  · have hheld : held = job := by simpa [h, Pc.ppJob] using pc
    subst hheld
    exact pp buf h

theorem handOver (hs : Ordered s) (hc : Control s) (hpc : s.pc.ppJob = some job)
    (ctl : t.ctl = s.ctl) (postProcStarted : t.postProcStarted = s.postProcStarted)
    (submitted : t.submitted = s.submitted ++ [job.request]) (ppq : t.ongoingPPQ = s.ongoingPPQ)
    (pc : t.pc.ppJob = none) : Ordered t := by
  have hactive : s.isActive = true := hc.active_of_pc (by rintro h; simp [h, Pc.ppJob] at hpc)
  have hrequests := hs.requests hactive
  rw [hpc] at hrequests
  refine of_unheld (fun _ => ?_) (fun h => ?_) pc
  · rw [ppq, submitted, hrequests]
    rfl
  · rw [ctl, postProcStarted] at h
    rcases h with h | h
    · exact absurd (hactive.symm.trans (hc.starting h).1) nofun
    · exact absurd (hactive.symm.trans (hc.notStarted h)) nofun

theorem drop (hs : Ordered s) (hc : Control s) (hpc : s.pc.ppJob = some job) (ctl : t.ctl = s.ctl)
    (postProcStarted : t.postProcStarted = s.postProcStarted) (submitted : t.submitted = s.submitted)
    (ppq : t.ongoingPPQ = s.ongoingPPQ.dequeueLast) (pc : t.pc.ppJob = none) : Ordered t := by
  have hactive : s.isActive = true := hc.active_of_pc (by rintro h; simp [h, Pc.ppJob] at hpc)
  have hrequests := hs.requests hactive
  have hon := (hc.on hactive).2.2.2.1
  rw [hpc] at hrequests
  refine of_unheld (fun _ => ?_) (fun h => ?_) pc
  · rw [ppq, submitted, Queue.dequeueLast, if_pos hon, map_dropLast, hrequests,
      Option.toList_some, map_singleton, dropLast_concat]
  · rw [submitted]
    exact hs.starting (by rwa [ctl, postProcStarted] at h)

theorem alone_dequeue (hs : Ordered s) (hc : Control s) (hidle : s.pc ≠ .idle)
    (hpc : s.pc.ppJob = none) (hr : s.reproc = none) (job : PpData) :
    (s.ongoingPPQ.enqueue job).dequeue = (some job, ⟨[], true⟩) := by
  have hactive := hc.active_of_pc hidle
  have hon := (hc.on hactive).2.2.2.1
  have hrequests := hs.requests hactive
  rw [hpc, submitted, hr] at hrequests
  rw [Queue.enqueue_active hon, map_eq_nil_iff.mp hrequests, Queue.dequeue, if_pos hon]
  simp [hon]

theorem alone (hs : Ordered s) (hc : Control s) (hidle : s.pc ≠ .idle) (hpc : s.pc.ppJob = none)
    (hr : s.reproc = none) {job' : PpData}
    (h : (s.ongoingPPQ.enqueue job).dequeue = (some job', q)) : job' = job ∧ q.items = [] := by
  rw [hs.alone_dequeue hc hidle hpc hr job, Prod.mk.injEq, Option.some.injEq] at h
  exact ⟨h.1.symm, by rw [← h.2]⟩

/-- **The order is kept by every step**, but for a failure of `overrideMetadata`. -/
theorem step (hs : Ordered s) (hc : Control s) (h : op.exec s = some t)
    (hop : ∀ out, op ≠ .ppReproc false out) : Ordered t := by
  cases PostOp.outcome h with
  | jpegSetting | queueFree | queueNew | streamCb | input | metadata | fwkWaits | fwkNoSettings
  | fwkNoMemory | fwkJob | land | ppDone | callbackNone | callback | flushTake | send =>
    exact hs.mono rfl rfl rfl rfl rfl (.inl rfl)
  | jpegDone | flushRelease =>
    exact hs.mono rfl rfl rfl (submitted_map (fun r => r.submitted_regain _) rfl) rfl (.inl rfl)
  | encodeFailed hpc =>
    exact hs.mono rfl rfl rfl (submitted_map (fun r => r.submitted_regain _) rfl) rfl
      (.inr ⟨rfl, by rw [hpc]; rfl⟩)
  | processedLost hr _ _ hsub hq | processedJob hr _ _ hsub hq | reprocessedJob hr _ hsub hq =>
    -- a result comes for the request that was submitted first
    have hsub' := (submitted_some hr).trans hsub
    exact (hs.taken hc hsub' hq).2 _ rfl rfl rfl rfl rfl
  | processedNone hr _ _ hsub hq | reprocessedNone hr _ hsub hq =>
    -- no job is ongoing, which is so only while the post-processor is off
    have hsub' := (submitted_some hr).trans hsub
    have hoff := hs.notTaken hc hsub' hq
    refine of_unheld (fun h => absurd (h.symm.trans hoff) nofun) (fun h => ?_)
      (by rw [(hc.off hoff).1]; rfl)
    rw [hs.starting h] at hsub'
    cases hsub'
  | startNoReproc hctl hnot =>
    have hoff := hc.notStarted hnot
    exact of_unheld (fun h => absurd (h.symm.trans hoff) nofun) (fun _ => hs.starting (.inr hnot))
      (by rw [(hc.off hoff).1]; rfl)
  | startReproc hctl hnot | startFailed hctl hnot =>
    have hoff := hc.notStarted hnot
    exact of_unheld (fun h => absurd (h.symm.trans hoff) nofun) (fun _ => rfl)
      (by rw [(hc.off hoff).1]; rfl)
  | stop hctl =>
    refine ⟨hs.requests, fun h => hs.starting (h.imp_left nofun), hs.held, hs.fwk, hs.pp⟩
  | stopChannel hctl =>
    have hoff := hc.stopped hctl
    exact of_unheld (fun h => absurd (h.symm.trans hoff) nofun) (fun _ => rfl)
      (by rw [(hc.off hoff).1]; rfl)
  | startDataProc hpc hcmds =>
    -- nothing is submitted between the start and its command
    have hctl : s.ctl = .starting := hc.starting_of_mem (by simp [hcmds])
    have hsub := hs.starting (.inl hctl)
    have hempty := (hc.off (hc.starting hctl).1).2.2.2.2.1
    refine of_unheld (fun _ => ?_) (fun _ => hsub) (by simp [PostProcessor.startDataProc, hpc, Pc.ppJob])
    simp only [PostProcessor.startDataProc, Queue.init, hempty, map_nil]
    exact hsub.symm
  | stopDataProc hpc hcmds =>
    rw [stopDataProc_eq]
    -- what is given back to the channel was not submitted
    have hctl : s.ctl = .stopping := hc.stopping_of_mem (by simp [hcmds])
    refine of_unheld nofun (fun h => ?_) (by rw [hpc]; rfl)
    refine (submitted_map (Reproc.submitted_foldl _) rfl).trans (hs.starting ?_)
    exact h.imp_left nofun
  | doNextJob hpc | noJpeg hpc | takeJpeg hpc | startJob hpc | storeJobId hpc | noFwk hpc
  | fwkNoJob hpc | fwkNoChannel hpc | noPair hpc =>
    exact hs.mono rfl rfl rfl rfl rfl (.inr ⟨rfl, by rw [hpc]; rfl⟩)
  | @giveBack rest hpc hcmds hoff =>
    rw [hc.giveBack_eq hoff]
    exact hs.mono rfl rfl rfl rfl rfl (.inl rfl)
  | pairNoJob hpc =>
    rw [cleanUp_eq]
    exact hs.mono rfl rfl rfl rfl rfl (.inr ⟨rfl, by rw [hpc]; rfl⟩)
  | takeFwk hpc hq hr hjob =>
    refine hs.hold hc (hc.active_of_pc (by simp [hpc])) (by rw [hpc]; rfl) rfl rfl rfl rfl rfl
      (fun frame h => ?_) nofun
    cases h
    rw [hjob]
    exact ⟨rfl, rfl, rfl⟩
  | fwkReproc hpc hr =>
    have hfwk := hs.fwk _ _ hpc
    refine hs.handOver hc (by rw [hpc]; rfl) rfl rfl ?_ rfl rfl
    rw [submitted_some rfl, Reproc.submitted_doReprocessOffline,
      submitted_some hr, PpData.request, hfwk.1, hfwk.2.1]
  | fwkReprocFailed hpc hr hout | ppReprocFailed hpc hr hout =>
    refine hs.drop hc (by rw [hpc]; rfl) rfl rfl ?_ rfl rfl
    rw [submitted_some rfl, Reproc.submitted_failed _ _ hout, submitted_some hr]
  | fwkReprocNone hpc hr | ppReprocNone hpc hr =>
    have hheld := hc.held (by rw [hpc]; rfl)
    simp [hr] at hheld
  | pairReproc hpc hq hm hr =>
    refine hs.hold hc (hc.active_of_pc (by simp [hpc])) (by rw [hpc]; rfl) rfl rfl rfl rfl rfl
      nofun (fun buf h => ?_)
    cases h
    exact ⟨rfl, rfl, rfl⟩
  | ppReproc hpc hr =>
    have hpp := hs.pp _ _ hpc
    refine hs.handOver hc (by rw [hpc]; rfl) rfl rfl ?_ rfl rfl
    rw [submitted_some rfl, Reproc.submitted_doReprocessOffline,
      submitted_some hr, PpData.request, hpp.1]
  | pairJpeg hpc hq hm hr hj =>
    -- without a reprocess channel the job that was queued is the one that is taken
    have hsub : s.submitted = [] := by simp [submitted, hr]
    obtain ⟨-, hitems⟩ := hs.alone hc (by simp [hpc]) (by rw [hpc]; rfl) hr hj
    exact of_unheld (fun _ => by rw [hitems]; exact hsub.symm) (fun _ => hsub) rfl
  | pairCleaned _ hpc hq hm hr =>
    have hsub : s.submitted = [] := by simp [submitted, hr]
    rw [hs.alone_dequeue hc (by simp [hpc]) (by rw [hpc]; rfl) hr]
    exact of_unheld (fun _ => hsub.symm) (fun _ => hsub) rfl
  | overrideFailed => exact absurd rfl (hop _)

end Ordered

/-- **Results come for the oldest job**: the ongoing jobs are in the order in which their reprocess
was submitted, unless the metadata of one could not be overridden. -/
theorem reprocess_in_order {reprocessType : Option ReprocessType} {ops : List PostOp}
    (h : Run (fun op s t => (∀ out, op ≠ .ppReproc false out) ∧ op.exec s = some t) ops
      (.started reprocessType) s) : Ordered s :=
  (h.invariant (I := fun s => Control s ∧ Ordered s)
    (fun _ _ _ hstep hs => ⟨hs.1.step hstep.2, hs.2.step hs.1 hstep.2 hstep.1⟩)
    ⟨started_control reprocessType, started_ordered reprocessType⟩).2

/-- A reprocess is submitted. -/
theorem reprocess_in_order_one : ∃ s, Ordered s ∧ s.submitted = [7] := by
  obtain ⟨s, hs, hone⟩ : ∃ s, execAll PostOp.exec (.started (some .jpeg)) [.input ⟨10, .frame, 0, 7⟩ 7,
    .metadata ⟨11, .metadata, 0, 7⟩, .send, .getCmd, .takeJpeg, .takeFwk none,
    .takePP (some 20) none, .ppReproc true .submitted] = some s ∧ s.submitted = [7] := ⟨_, rfl, rfl⟩
  refine ⟨s, reprocess_in_order ((Run.of_execAll hs).mono fun op hop s t h => ⟨?_, h⟩), hone⟩
  revert op
  simp

end PostProc
