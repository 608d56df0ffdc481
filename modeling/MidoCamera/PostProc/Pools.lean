import MidoCamera.PostProc.Buffers

/-!
# The pools of heap buffers

The snapshot stream's heap buffers and those of the reprocess stream come from pools that grow when
no buffer is free. A buffer of the snapshot stream is taken for a request, comes back filled, goes
with its frame from job to job, and is put back when the JPEG callback is done. A buffer of the
reprocess stream is taken where a frame is handed over, and put back where the JPEG job is released.
A job that fails does neither: the frame's buffer is queued to the stream again, for no request, or
is forgotten with its frame.
-/

namespace PostProc

open Loop List PostProcessor PostProc.Reproc Option

def slot (kind : BufKind) (b : SuperBuf) : List ℕ := if b.kind = kind then [b.bufIdx] else []

/-- Every buffer that was allocated is in one place: free, with its stream for a request, or with a
frame that waits or that a job has. The reprocess stream has a buffer for each result to come. -/
structure Pooled (s : PostProcessor) : Prop where
  frames : ∀ k, s.streamFree.count k + (s.streamQueued.map Prod.fst).count k +
    tally (slot .frame) k s.heldBufs = if k < s.streamAllocated then 1 else 0
  requested : ∀ e ∈ s.streamQueued, e.2.isSome
  reprocessed : ∀ r ∈ s.reproc, ∀ k, r.freeBufferList.count k + r.queued.count k +
    tally (slot .reprocessed) k s.heldBufs = if k < r.allocated then 1 else 0
  submitted : ∀ r ∈ s.reproc, r.queued.length = r.submitted.length

/-- What a picture channel's threads do while it is at work: it is neither started, stopped nor
flushed, and its frames are those of its stream. -/
def PostOp.Captures : PostOp → Prop
  | .input _ _ | .flushTake | .flushRelease | .start _ _ | .stop | .stopChannel => False
  | _ => True

/-- The job that the data thread is about to pass to the encoder. -/
def Pc.toEncode : Pc → Option JpegData
  | .encode job => some job
  | _ => none

/-- The post-processor of a picture channel that is started, with a reprocess channel for the JPEG
encoder or none. -/
def PostProcessor.picture (channel : Bool) : PostProcessor :=
  .started (if channel then some .jpeg else none)

/-- Nothing fails that has a buffer: there is memory and there are settings, metadata are
overridden, a frame is handed over or no buffer was taken for it, and an encoding that fails has
none of the snapshot stream's. -/
def PostOp.Succeeds (s : PostProcessor) : PostOp → Prop
  | .processed _ malloc =>
    malloc.isSome ∧ ∀ job ∈ s.ongoingPPQ.items.head?, job.jpegSettings.isSome
  | .encodeFailed => ∀ job ∈ s.pc.toEncode, job.snapshot = none
  | .fwkReproc out => out = .submitted ∨ out = .failed
  | .takePP malloc jpegMalloc => s.inputPPQ.items ≠ [] → s.inputMetaQ.items ≠ [] →
    malloc.isSome ∧ (s.reproc = none → jpegMalloc.isSome ∧ s.jpegSettingsQ.items ≠ [])
  | .ppReproc overridden out => overridden = true ∧ out = .submitted
  | _ => True

/-- A picture channel is at work. -/
structure AtWork (channel : Bool) (s : PostProcessor) : Prop where
  active : s.isActive = true
  idle : s.ctl = .idle
  reproc : s.reproc.isSome = channel
  type : ∀ r ∈ s.reproc, r.reprocessType = .jpeg
  completing : s.ppCompleting = []

/-- One JPEG job is ongoing at most, and its encoding runs at most. -/
structure Single (s : PostProcessor) : Prop where
  ongoing : s.ongoingJpegQ.items.length ≤ 1
  running : s.running.length ≤ 1
  waits : ∀ job, s.pc = .encode job → s.ongoingJpegQ.items = [job] ∧ s.running = []
  runs : s.running ≠ [] → s.ongoingJpegQ.items ≠ []

/-- The invariant of a picture channel at work. -/
structure Pool (channel : Bool) (s : PostProcessor) : Prop where
  control : Control s
  ordered : Ordered s
  work : AtWork channel s
  shapes : Shapes (· = channel) s
  single : Single s
  pooled : Pooled s

variable {channel : Bool} {s t : PostProcessor} {op : PostOp}

/-! ## The jobs and their buffers -/

theorem slot_of {kind : BufKind} {b : SuperBuf} (h : b.kind = kind) : slot kind b = [b.bufIdx] :=
  if_pos h

theorem slot_other {kind : BufKind} {b : SuperBuf} (h : b.kind ≠ kind) : slot kind b = [] :=
  if_neg h

theorem tally_slot {kind : BufKind} {l : List SuperBuf} (h : ∀ b ∈ l, b.kind = kind) (k : ℕ) :
    tally (slot kind) k l = (l.map SuperBuf.bufIdx).count k := by
  rw [← tally_map]
  exact tally_congr fun b hb => slot_of (h b hb)

theorem tally_slot_other {kind : BufKind} {l : List SuperBuf} (h : ∀ b ∈ l, b.kind ≠ kind) (k : ℕ) :
    tally (slot kind) k l = 0 := by
  refine tally_eq_zero_iff.mpr fun b hb => ?_
  rw [slot_other (h b hb)]
  exact not_mem_nil

theorem JpegData.Shaped.count_frame {reproc : Bool} {job : JpegData} (h : job.Shaped reproc) (k : ℕ) :
    (job.stands (slot .frame)).count k = (job.snapshot.toList.map SuperBuf.bufIdx).count k := by
  have hmeta : tally (slot .frame) k job.srcMetadata.toList = 0 :=
    tally_slot_other (fun b hb => by rw [h.metadata b (mem_toList.mp hb)]; decide) k
  rw [JpegData.count_stands, hmeta]
  rcases reproc with _ | _
  · -- the frame is the job's own
    have hsource : job.srcReprocFrame = none :=
      eq_none_iff_forall_not_mem.mpr fun b hb => absurd (h.source b hb).1 Bool.false_ne_true
    rcases hframe : job.srcFrame with _ | b
    · simp [JpegData.snapshot, hsource, hframe]
    · have hkind : b.kind = .frame := h.frame b hframe
      simp [JpegData.snapshot, hsource, hframe, hkind, slot, Option.filter]
  · -- the frame is what it was made of
    have hframe : tally (slot .frame) k job.srcFrame.toList = 0 :=
      tally_slot_other (fun b hb => by rw [h.frame b (mem_toList.mp hb)]; decide) k
    rw [hframe]
    rcases hsource : job.srcReprocFrame with _ | b
    · rcases hown : job.srcFrame with _ | b
      · simp [JpegData.snapshot, hsource, hown]
      · have hkind : b.kind = .reprocessed := h.frame b hown
        simp [JpegData.snapshot, hsource, hown, hkind, Option.filter]
    · have hkind : b.kind = .frame := (h.source b hsource).2
      simp [JpegData.snapshot, hsource, hkind, slot, Option.filter]

theorem JpegData.Shaped.count_reprocessed {job : JpegData} (h : job.Shaped true) (k : ℕ) :
    (job.stands (slot .reprocessed)).count k =
      (job.srcFrame.toList.map SuperBuf.bufIdx).count k := by
  have hmeta : tally (slot .reprocessed) k job.srcMetadata.toList = 0 :=
    tally_slot_other (fun b hb => by rw [h.metadata b (mem_toList.mp hb)]; nofun) k
  have hsource : tally (slot .reprocessed) k job.srcReprocFrame.toList = 0 :=
    tally_slot_other (fun b hb => by rw [(h.source b (mem_toList.mp hb)).2]; nofun) k
  have hframe : tally (slot .reprocessed) k job.srcFrame.toList =
      (job.srcFrame.toList.map SuperBuf.bufIdx).count k :=
    tally_slot (fun b hb => h.frame b (mem_toList.mp hb)) k
  rw [JpegData.count_stands, hmeta, hsource, hframe, Nat.add_zero]


theorem Reproc.type_doReprocessOffline (r : Reproc) (request : ℕ) (out : Offline) :
    (r.doReprocessOffline request out).2.reprocessType = r.reprocessType := by
  unfold doReprocessOffline
  rcases out with _ | _ | _ | _ <;> rcases hfree : r.freeBufferList with _ | ⟨idx, rest⟩ <;> split <;>
    simp [takeBuf, hfree]

theorem AtWork.step (hs : AtWork channel s) (hc : Control s) (hop : op.Captures)
    (h : op.exec s = some t) : AtWork channel t := by
  cases PostOp.outcome h with
  | input | flushTake | flushRelease | startNoReproc | startReproc | startFailed | stop
  | stopChannel => cases hop
  | startDataProc _ hcmds =>
    have := hc.starting_of_mem (by simp [hcmds])
    simp [hs.idle] at this
  | stopDataProc _ hcmds =>
    have := hc.stopping_of_mem (by simp [hcmds])
    simp [hs.idle] at this
  | giveBack _ _ hoff => simp [hs.active] at hoff
  | reprocessedNone hr htype | reprocessedJob hr htype => exact absurd (hs.type _ hr) htype
  | ppDone find => simp [hs.completing] at find
  | pairNoJob =>
    rw [cleanUp_eq]
    exact ⟨hs.active, hs.idle, hs.reproc, hs.type, hs.completing⟩
  | processedNone hr htype | processedLost hr htype | processedJob hr htype =>
    refine ⟨hs.active, hs.idle, ?_, fun r h => ?_, hs.completing⟩
    · rw [← hs.reproc, hr]
      rfl
    · cases h
      exact htype
  | jpegDone | encodeFailed =>
    refine ⟨hs.active, hs.idle, by simpa using hs.reproc, fun r h => ?_, hs.completing⟩
    obtain ⟨r', hr', rfl⟩ := map_eq_some_iff.mp h
    exact hs.type r' hr'
  | fwkReproc _ hr | fwkReprocFailed _ hr | ppReproc _ hr | ppReprocFailed _ hr =>
    refine ⟨hs.active, hs.idle, ?_, fun r h => ?_, hs.completing⟩
    · rw [← hs.reproc, hr]
      rfl
    · cases h
      rw [type_doReprocessOffline]
      exact hs.type _ hr
  | _ => exact ⟨hs.active, hs.idle, hs.reproc, hs.type, hs.completing⟩

namespace Single

theorem mono (hs : Single s) (ongoing : t.ongoingJpegQ = s.ongoingJpegQ)
    (running : t.running = s.running) (pc : ∀ job, t.pc = .encode job → s.pc = .encode job) :
    Single t where
  ongoing := ongoing ▸ hs.ongoing
  running := running ▸ hs.running
  waits job h := ongoing ▸ running ▸ hs.waits job (pc job h)
  runs := ongoing ▸ running ▸ hs.runs

theorem called (hs : Single s) {x : ℕ × ℕ} (h : x ∈ s.running) :
    (s.running.filter fun y => y.1 ≠ x.1) = [] := by
  have hrunning := hs.running
  rcases hl : s.running with _ | ⟨y, l⟩
  · simp [hl] at h
  · rw [hl, length_cons] at hrunning
    obtain rfl : l = [] := length_eq_zero_iff.mp (by omega)
    rw [hl, mem_singleton] at h
    simp [h]

theorem step (hs : Single s) (hc : Control s) (hw : AtWork channel s) (hop : op.Captures)
    (h : op.exec s = some t) : Single t := by
  cases PostOp.outcome h with
  | flushTake | flushRelease => cases hop
  | callbackNone hruns =>
    have hnone := hs.called hruns
    have hlength := (congrArg length hnone).le.trans (Nat.zero_le 1)
    refine ⟨hs.ongoing, hlength, fun job hpc => ⟨(hs.waits job hpc).1, hnone⟩, fun hne => ?_⟩
    exact absurd hnone hne
  | @callback jobId addr job q hruns hq =>
    have hnone := hs.called hruns
    have hongoing := hs.ongoing
    rw [(Queue.dequeue_some hq).2.1, length_cons] at hongoing
    have hlength := (congrArg length hnone).le.trans (Nat.zero_le 1)
    refine ⟨by simp only; omega, hlength, fun job hpc => ?_, fun hne => absurd hnone hne⟩
    rw [(hs.waits job hpc).2] at hruns
    cases hruns
  | stopDataProc _ hcmds =>
    have := hc.stopping_of_mem (by simp [hcmds])
    simp [hw.idle] at this
  | giveBack _ _ hoff => simp [hw.active] at hoff
  | doNextJob | noJpeg | storeJobId | noFwk | fwkNoJob | fwkNoChannel | takeFwk | fwkReproc
  | fwkReprocNone | fwkReprocFailed | noPair | pairReproc | pairCleaned | pairJpeg | ppReproc
  | ppReprocNone | ppReprocFailed | overrideFailed =>
    exact hs.mono rfl rfl fun _ h => by cases h
  | pairNoJob =>
    rw [cleanUp_eq]
    exact hs.mono rfl rfl fun _ h => by cases h
  | @takeJpeg job q hpc hnil hq =>
    have hnone : s.running = [] := by
      by_contra hne
      exact hs.runs hne hnil
    have hongoing : (s.ongoingJpegQ.enqueue job).items = [job] := by
      rw [Queue.enqueue_active hc.always.1, hnil]
      rfl
    refine ⟨by simp [hongoing], by simp [hnone], fun job' h => ?_, fun hne => absurd hnone hne⟩
    cases h
    exact ⟨hongoing, hnone⟩
  | @encodeFailed job hpc =>
    obtain ⟨hongoing, hnone⟩ := hs.waits job hpc
    refine ⟨?_, by simp [hnone], (fun _ h => by cases h), fun hne => absurd hnone hne⟩
    simp [Queue.dequeueLast, hc.always.1, hongoing]
  | @startJob job jobId hpc =>
    obtain ⟨hongoing, hnone⟩ := hs.waits job hpc
    exact ⟨hs.ongoing, by simp [hnone], (fun _ h => by cases h), fun _ => by simp [hongoing]⟩
  | _ => exact hs.mono rfl rfl fun _ h => h

end Single

namespace Pooled

theorem of_held {held : BufKind → ℕ → ℕ} (hheld : ∀ kind k, tally (slot kind) k t.heldBufs = held kind k)
    (frames : ∀ k, t.streamFree.count k + (t.streamQueued.map Prod.fst).count k + held .frame k =
      if k < t.streamAllocated then 1 else 0)
    (requested : ∀ e ∈ t.streamQueued, e.2.isSome)
    (reprocessed : ∀ r ∈ t.reproc, ∀ k, r.freeBufferList.count k + r.queued.count k +
      held .reprocessed k = if k < r.allocated then 1 else 0)
    (submitted : ∀ r ∈ t.reproc, r.queued.length = r.submitted.length) : Pooled t where
  frames k := by rw [hheld, frames]
  requested := requested
  reprocessed r hr k := by rw [hheld, reprocessed r hr]
  submitted := submitted

theorem keep (hs : Pooled s) (balanced : ∀ kind k, Balanced (slot kind) k s t)
    (handed : t.handed = s.handed) (freed : t.freed = s.freed) (free : t.streamFree = s.streamFree)
    (queued : t.streamQueued = s.streamQueued) (allocated : t.streamAllocated = s.streamAllocated)
    (reproc : t.reproc = s.reproc) : Pooled t := by
  have hheld (kind : BufKind) (k : ℕ) :
      tally (slot kind) k t.heldBufs = tally (slot kind) k s.heldBufs := by
    have h := balanced kind k
    rw [Balanced, handed, freed] at h
    omega
  refine ⟨fun k => ?_, queued ▸ hs.requested, fun r h k => ?_, reproc ▸ hs.submitted⟩
  · rw [free, queued, allocated, hheld]
    exact hs.frames k
  · rw [hheld]
    exact hs.reprocessed r (reproc ▸ h) k

/-- **A buffer of the reprocess stream is taken**, a free one or a new one. -/
theorem submit (hs : Pooled s) {r : Reproc} (hr : s.reproc = some r) (htype : r.reprocessType = .jpeg)
    (request : ℕ) (free : t.streamFree = s.streamFree) (queued : t.streamQueued = s.streamQueued)
    (allocated : t.streamAllocated = s.streamAllocated) (held : t.heldBufs = s.heldBufs)
    (reproc : t.reproc = some (r.doReprocessOffline request .submitted).2) : Pooled t := by
  have hlength := hs.submitted r hr
  have hpool := hs.reprocessed r hr
  refine ⟨fun k => ?_, queued ▸ hs.requested, fun r' h => ?_, fun r' h => ?_⟩
  · rw [free, queued, allocated, held]
    exact hs.frames k
  all_goals
    rw [reproc] at h
    cases h
    rcases hfree : r.freeBufferList with _ | ⟨idx, rest⟩
  · -- a new one
    intro k
    have hk := hpool k
    simp only [hfree, count_nil] at hk
    simp only [held, doReprocessOffline, htype, if_true, takeBuf, hfree, count_nil,
      count_append, count_singleton, beq_iff_eq]
    split_ifs at hk ⊢ <;> omega
  · intro k
    have hk := hpool k
    simp only [hfree, count_cons] at hk
    simp only [held, doReprocessOffline, htype, if_true, takeBuf, hfree,
      count_append, count_singleton]
    omega
  · simp [doReprocessOffline, htype, takeBuf, hfree, hlength]
  · simp [doReprocessOffline, htype, takeBuf, hfree, hlength]

end Pooled

namespace Pool

theorem shaped (hs : Pool channel s) {job : JpegData} (h : job ∈ s.jpegJobs) :
    job.Shaped channel := by
  obtain ⟨_, rfl, hjob⟩ := hs.shapes.jpegs job h
  exact hjob

theorem channel_eq (hs : Pool channel s) {r : Reproc} (hr : s.reproc = some r) : channel = true := by
  rw [← hs.work.reproc, hr]
  rfl

theorem tidy (hs : Pool channel s) (hop : op.Captures) (hsucc : op.Succeeds s)
    (h : op.exec s = some t) : op.Tidy s := by
  obtain ⟨hpp, -, hmeta, -, hjpeg⟩ := hs.control.on hs.work.active
  cases op with
  | streamCb | input => exact hpp
  | metadata => exact hmeta
  | land => exact hjpeg
  | encodeFailed => exact fun job hpc => (hs.single.waits job hpc).1
  | ppReproc => exact hsucc.1
  | processed =>
    refine fun r hr htype => ⟨hsucc.1, ?_⟩
    cases PostOp.outcome h with
    | processedNone hr _ _ hsub hq =>
      have hoff := hs.ordered.notTaken hs.control ((submitted_some hr).trans hsub) hq
      simp [hs.work.active] at hoff
    | processedLost _ _ _ _ hq | processedJob _ _ _ _ hq =>
      exact ⟨_, by rw [hq]; rfl, hsucc.2 _ (by rw [(Queue.dequeue_some hq).2.1]; rfl)⟩
    | reprocessedNone hr htype | reprocessedJob hr htype => exact absurd (hs.work.type _ hr) htype
  | _ => trivial

theorem pooled_step (hs : Pool channel s) (hop : op.Captures) (hsucc : op.Succeeds s)
    (h : op.exec s = some t) : Pooled t := by
  have hbalanced (kind : BufKind) (k : ℕ) : Balanced (slot kind) k s t :=
    PostOp.balanced hs.shapes hs.control hs.ordered (hs.tidy hop hsucc h) h _ k
  have hp := hs.pooled
  obtain ⟨held, hheld⟩ : ∃ held : BufKind → ℕ → ℕ,
      ∀ kind k, tally (slot kind) k t.heldBufs = held kind k := ⟨_, fun _ _ => rfl⟩
  have hbal (kind : BufKind) (k : ℕ) : held kind k + tally (slot kind) k t.freed +
      tally (slot kind) k s.handed = tally (slot kind) k s.heldBufs + tally (slot kind) k s.freed +
        tally (slot kind) k t.handed := by
    rw [← hheld]
    exact hbalanced kind k
  cases PostOp.outcome h with
  | input | flushTake | flushRelease | startNoReproc | startReproc | startFailed | stop
  | stopChannel => cases hop
  | startDataProc _ hcmds =>
    have := hs.control.starting_of_mem (by simp [hcmds])
    simp [hs.work.idle] at this
  | stopDataProc _ hcmds =>
    have := hs.control.stopping_of_mem (by simp [hcmds])
    simp [hs.work.idle] at this
  | giveBack _ _ hoff => simp [hs.work.active] at hoff
  | jpegSetting | fwkWaits | fwkNoSettings | fwkNoMemory | fwkJob | land | callbackNone | callback
  | send | doNextJob | noJpeg | takeJpeg | startJob | storeJobId | noFwk | fwkNoJob | fwkNoChannel
  | takeFwk | noPair | pairReproc | pairJpeg =>
    exact hp.keep hbalanced rfl rfl rfl rfl rfl rfl
  | fwkReprocNone hpc hr | ppReprocNone hpc hr =>
    have hheld := hs.control.held (by rw [hpc]; rfl)
    simp [hr] at hheld
  | reprocessedNone hr htype | reprocessedJob hr htype => exact absurd (hs.work.type _ hr) htype
  | ppDone find => simp [hs.work.completing] at find
  | queueFree hfree =>
    refine .of_held (fun _ _ => rfl) (fun k => ?_) (fun e h => ?_) hp.reprocessed hp.submitted
    · have hk := hp.frames k
      rw [hfree, count_cons] at hk
      rw [map_append, count_append, map_singleton, count_singleton]
      exact Eq.trans (by ac_rfl) hk
    · rcases mem_append.mp h with h | h
      · exact hp.requested e h
      · rw [mem_singleton.mp h]
        rfl
  | queueNew hfree =>
    refine .of_held hheld (fun k => ?_) (fun e h => ?_) (fun r hr k => ?_) hp.submitted
    · have hk := hp.frames k
      have hin := hbal .frame k
      dsimp only at hin
      rw [hfree, count_nil] at hk
      simp only [hfree, count_nil, map_append, count_append, map_singleton,
        count_singleton, beq_iff_eq]
      split_ifs at hk ⊢ <;> omega
    · rcases mem_append.mp h with h | h
      · exact hp.requested e h
      · rw [mem_singleton.mp h]
        rfl
    · have hk := hp.reprocessed r hr k
      have hin := hbal .reprocessed k
      dsimp only at hin
      omega
  | streamCb hqueued =>
    refine .of_held hheld (fun k => ?_) (fun e h => hp.requested e (hqueued ▸ mem_cons_of_mem _ h))
      (fun r hr k => ?_) hp.submitted
    · have hk := hp.frames k
      have hin := hbal .frame k
      simp only [tally_append, tally_cons, tally_nil, slot_of, count_singleton] at hin
      simp only [hqueued, map_cons, count_cons] at hk
      simp only
      omega
    · have hk := hp.reprocessed r hr k
      have hin := hbal .reprocessed k
      simp only [tally_append, tally_cons, tally_nil, slot, reduceCtorEq, if_false, count_nil]
        at hin
      omega
  | metadata hkind =>
    have hin (kind : BufKind) (hne : kind ≠ .metadata) (k : ℕ) :
        held kind k = tally (slot kind) k s.heldBufs := by
      have hk := hbal kind k
      simp only [tally_append, tally_cons, tally_nil, slot_other (hkind ▸ hne.symm), count_nil]
        at hk
      omega
    refine .of_held hheld (fun k => ?_) hp.requested (fun r hr k => ?_) hp.submitted
    · rw [hin .frame (by decide)]
      exact hp.frames k
    · rw [hin .reprocessed (by decide)]
      exact hp.reprocessed r hr k
  | @processedJob r addr idx request _ _ _ _ _ _ hr htype hq hsub =>
    -- a buffer of the reprocess stream comes back with the result
    have hlength := hp.submitted r hr
    rw [hq, hsub, length_cons, length_cons] at hlength
    refine .of_held hheld (fun k => ?_) hp.requested (fun r' h k => ?_) (fun r' h => ?_)
    · have hk := hp.frames k
      have hin := hbal .frame k
      simp only [tally_append, tally_cons, tally_nil, slot, reduceCtorEq, if_false, count_nil]
        at hin
      simp only
      omega
    · cases h
      have hk := hp.reprocessed r hr k
      have hin := hbal .reprocessed k
      simp only [tally_append, tally_cons, tally_nil, slot_of, count_singleton] at hin
      simp only [hq, count_cons] at hk
      simp only
      omega
    · cases h
      exact Nat.succ.inj hlength
  | processedNone hr _ _ hsub hq =>
    have hoff := hs.ordered.notTaken hs.control ((submitted_some hr).trans hsub) hq
    simp [hs.work.active] at hoff
  | @processedLost _ _ _ _ _ _ _ job _ _ _ _ _ hq hlost =>
    have hhead : job ∈ s.ongoingPPQ.items.head? := by
      rw [(Queue.dequeue_some hq).2.1]
      rfl
    rcases hlost with hframes | hnone | hnone
    · exact absurd hframes (hs.shapes.jobs _ (.inl (Shapes.taken hq).1)).some
    · simpa [hnone] using hsucc.2 _ hhead
    · simpa [hnone] using hsucc.1
  | @jpegDone addr c find =>
    have hjob : c.job.Shaped channel := hs.shaped (by
      have hmem := mem_map_of_mem (f := Completion.job) (mem_of_find?_eq_some find)
      simp [jpegJobs, hmem])
    have hfrees (f : SuperBuf → List ℕ) (k : ℕ) := hjob.tally_frees f k
    refine .of_held hheld (fun k => ?_) hp.requested (fun r h k => ?_) (fun r h => ?_)
    · have hk := hp.frames k
      have hin := hbal .frame k
      simp only [tally_append, hfrees, hjob.count_frame] at hin
      simp only [count_append]
      omega
    all_goals obtain ⟨r, hr, rfl⟩ := map_eq_some_iff.mp h
    · have hk := hp.reprocessed r hr k
      have hin := hbal .reprocessed k
      have hmade : c.job.Shaped true := (hs.channel_eq hr) ▸ hjob
      simp only [tally_append, hfrees, hmade.count_reprocessed] at hin
      refine Eq.trans ?_ hk
      simp only [regain, count_append]
      omega
    · exact hp.submitted r hr
  | @encodeFailed job hpc =>
    have hnone : job.snapshot = none := hsucc job (by rw [hpc]; rfl)
    have hjob : job.Shaped channel := hs.shaped (by
      simp [jpegJobs, (hs.single.waits job hpc).1])
    have hfrees (f : SuperBuf → List ℕ) (k : ℕ) := hjob.tally_frees f k
    refine .of_held hheld (fun k => ?_) hp.requested (fun r h k => ?_) (fun r h => ?_)
    · have hk := hp.frames k
      have hin := hbal .frame k
      simp only [tally_append, hfrees, hjob.count_frame, hnone, toList_none, map_nil,
        count_nil] at hin
      simp only
      omega
    all_goals obtain ⟨r, hr, rfl⟩ := map_eq_some_iff.mp h
    · have hk := hp.reprocessed r hr k
      have hin := hbal .reprocessed k
      have hmade : job.Shaped true := (hs.channel_eq hr) ▸ hjob
      simp only [tally_append, hfrees, hmade.count_reprocessed] at hin
      refine Eq.trans ?_ hk
      simp only [regain, count_append]
      omega
    · exact hp.submitted r hr
  | fwkReproc hpc hr | ppReproc hpc hr =>
    exact hp.submit hr (hs.work.type _ hr) _ rfl rfl rfl rfl rfl
  | fwkReprocFailed hpc hr hout =>
    obtain rfl : _ = Offline.failed := hsucc.resolve_left hout
    exact hp.keep hbalanced rfl rfl rfl rfl rfl hr.symm
  | ppReprocFailed _ _ hout => exact absurd hsucc.2 hout
  | overrideFailed => cases hsucc.1
  | @pairNoJob malloc _ hpc hpp hmeta hlost =>
    -- the queues are on, so that there is one of each
    obtain ⟨honpp, -, honmeta, -⟩ := hs.control.on hs.work.active
    obtain ⟨buf, pq, hbuf⟩ := Queue.dequeue_of_ne honpp hpp
    obtain ⟨b, mq, hb⟩ := Queue.dequeue_of_ne honmeta hmeta
    rcases hlost with rfl | hlost | hlost
    · cases (hsucc hpp hmeta).1
    · simp [hb] at hlost
    · simp [hbuf] at hlost
  | @pairCleaned addr jpegMalloc b buf _ _ hpc hq hm hr hlost =>
    have halone := hs.ordered.alone_dequeue hs.control (by simp [hpc]) (by rw [hpc]; rfl) hr
      (s.pairJob addr buf b)
    obtain ⟨-, hsome⟩ := hsucc (by simp [(Queue.dequeue_some hq).2.1])
      (by simp [(Queue.dequeue_some hm).2.1])
    obtain ⟨hmalloc, hsettings⟩ := hsome hr
    rcases hlost (s.pairJob addr buf b) (by rw [halone]) with hframes | hnone | hnone
    · cases hframes.1
    · obtain ⟨x, q, hx⟩ := Queue.dequeue_of_ne hs.control.always.2 hsettings
      simp [pairJob, hx] at hnone
    · simp [hnone] at hmalloc

/-- **A step that succeeds keeps the invariant.** -/
theorem step (hs : Pool channel s) (hop : op.Captures) (hsucc : op.Succeeds s)
    (h : op.exec s = some t) : Pool channel t where
  control := hs.control.step h
  ordered := hs.ordered.step hs.control h fun out hout => by
    subst hout
    cases hsucc.1
  work := hs.work.step hs.control hop h
  shapes := hs.shapes.step hs.control hs.ordered hs.work.reproc h
  single := hs.single.step hs.control hs.work hop h
  pooled := hs.pooled_step hop hsucc h

theorem not_pooled_of_unrequested {bufIdx : ℕ}
    (h : t.streamQueued = s.streamQueued ++ [(bufIdx, none)]) : ¬Pooled t := fun hp => by
  have hsome := hp.requested (bufIdx, none) (by simp [h])
  cases hsome

/-- **A step that does not succeed breaks the pools.** -/
theorem breaks (hs : Pool channel s) (hop : op.Captures) (h : op.exec s = some t)
    (hp' : Pooled t) : op.Succeeds s := by
  have hp := hs.pooled
  cases PostOp.outcome h with
  | input | flushTake | flushRelease | startNoReproc | startReproc | startFailed | stop
  | stopChannel => cases hop
  | reprocessedNone hr htype | reprocessedJob hr htype => exact absurd (hs.work.type _ hr) htype
  | processedNone hr _ _ hsub hq =>
    have hoff := hs.ordered.notTaken hs.control ((submitted_some hr).trans hsub) hq
    simp [hs.work.active] at hoff
  | @processedJob _ _ _ _ _ _ _ job x _ _ _ _ _ hq hx =>
    refine ⟨rfl, fun job' h => ?_⟩
    rw [(Queue.dequeue_some hq).2.1] at h
    cases h
    rw [hx]
    rfl
  | @processedLost r _ idx _ _ _ _ job q hr _ hqueued _ hq hlost =>
    -- the result's buffer is nowhere
    have hk := hp.reprocessed r hr idx
    have hk' := hp'.reprocessed _ rfl idx
    have htaken := Queue.tally_dequeue (PpData.stands (slot .reprocessed)) idx hq
    simp only [hqueued, count_cons_self] at hk
    simp only [tally_heldBufs] at hk hk'
    omega
  | @encodeFailed job hpc =>
    intro job' h
    rw [hpc] at h
    cases h
    by_contra hne
    -- the snapshot's buffer is nowhere
    obtain ⟨b, hb⟩ := ne_none_iff_exists'.mp hne
    have hwaits := (hs.single.waits job hpc).1
    have hjob : job.Shaped channel := hs.shaped (by simp [jpegJobs, hwaits])
    have hcount := hjob.count_frame b.bufIdx
    have hlast := Queue.tally_dequeueLast (JpegData.stands (slot .frame)) b.bufIdx
      hs.control.always.1 (a := job) (by rw [hwaits]; rfl)
    have hk := hp.frames b.bufIdx
    have hk' := hp'.frames b.bufIdx
    simp only [hb, toList_some, map_singleton, count_singleton_self] at hcount
    simp only [tally_heldBufs] at hk hk'
    omega
  | fwkReproc => exact .inl rfl
  | fwkReprocNone hpc hr | ppReprocNone hpc hr =>
    have hheld := hs.control.held (by rw [hpc]; rfl)
    simp [hr] at hheld
  | @fwkReprocFailed job frame out r hpc hr hout =>
    have htype := hs.work.type r hr
    have hon := hs.control.on hs.work.active
    have hlast (k : ℕ) := Queue.tally_dequeueLast (PpData.stands (slot .reprocessed)) k hon.2.2.2.1
      (hs.ordered.held job (by rw [hpc]; rfl))
    rcases out with _ | _ | _ | _
    · exact .inr rfl
    · -- the buffer that was taken is nowhere
      exfalso
      have hlast := hlast r.takeBuf.1
      have hk := hp.reprocessed r hr r.takeBuf.1
      have hk' := hp'.reprocessed _ rfl r.takeBuf.1
      simp only [tally_heldBufs] at hk hk'
      rcases hfree : r.freeBufferList with _ | ⟨idx, rest⟩ <;>
        simp only [doReprocessOffline, htype, takeBuf, hfree, if_true, count_nil,
          count_cons_self, lt_irrefl, if_false, Nat.lt_succ_self] at hk hk' hlast
      · omega
      · omega
    · -- the buffer that was queued is for no result
      exfalso
      have hlength := hp.submitted r hr
      have hlength' := hp'.submitted _ rfl
      rcases hfree : r.freeBufferList with _ | ⟨idx, rest⟩ <;>
        simp only [doReprocessOffline, htype, takeBuf, hfree, if_true,
          length_append, length_singleton] at hlength' <;>
        omega
    · exact absurd rfl hout
  | ppReproc => exact ⟨rfl, rfl⟩
  | ppReprocFailed | overrideFailed | pairCleaned =>
    exact absurd hp' (not_pooled_of_unrequested rfl)
  | noPair _ hnone =>
    intro hpp hmeta
    rcases hnone with hnone | hnone
    · exact absurd hnone hpp
    · exact absurd hnone hmeta
  | @pairNoJob malloc _ hpc hpp hmeta hlost =>
    obtain ⟨honpp, -, -⟩ := hs.control.on hs.work.active
    obtain ⟨buf, pq, hbuf⟩ := Queue.dequeue_of_ne honpp hpp
    refine absurd hp' (@not_pooled_of_unrequested s _ buf.input.bufIdx ?_)
    rw [cleanUp_eq, hbuf]
    rfl
  | pairReproc _ _ _ hr => exact fun _ _ => ⟨rfl, fun hnone => by simp [hr] at hnone⟩
  | @pairJpeg addr a b buf _ _ job _ x hpc hq hm hr hj hx =>
    refine fun _ _ => ⟨rfl, fun _ => ⟨rfl, fun hnil => ?_⟩⟩
    obtain ⟨rfl, -⟩ := hs.ordered.alone hs.control (by simp [hpc]) (by rw [hpc]; rfl) hr hj
    simp [pairJob, Queue.dequeue, hnil, hs.control.always.2] at hx
  | _ => trivial

end Pool

def PostOp.Succeeded (op : PostOp) (s t : PostProcessor) : Prop :=
  op.Captures ∧ op.Succeeds s ∧ op.Step s t

theorem PostProcessor.picture_pool (channel : Bool) : Pool channel (.picture channel) where
  control := started_control _
  ordered := started_ordered _
  work := by
    rcases channel with _ | _ <;> constructor <;> simp [picture, started, active]
  shapes := by
    constructor <;> simp [picture, started, active, jpegJobs]
  single := by
    constructor <;> simp [picture, started, active]
  pooled := by
    rcases channel with _ | _ <;> constructor <;> simp [picture, started, active, heldBufs]

/-- **One job is encoded at a time** while a picture channel is at work, whatever fails: one job is
ongoing at most, it waits for its encoding or its encoding runs, and no other one does. -/
theorem one_encoding {channel : Bool} {ops : List PostOp}
    (h : Run (fun op s t => op.Captures ∧ op.exec s = some t) ops (.picture channel) s) :
    Single s := by
  have hinv : Control s ∧ AtWork channel s ∧ Single s := by
    refine h.invariant (I := fun s => Control s ∧ AtWork channel s ∧ Single s)
      (fun op s t hstep hs => ?_) ?_
    · obtain ⟨hc, hw, hsingle⟩ := hs
      exact ⟨hc.step hstep.2, hw.step hc hstep.1 hstep.2, hsingle.step hc hw hstep.1 hstep.2⟩
    · exact ⟨started_control _, (picture_pool channel).work, (picture_pool channel).single⟩
  exact hinv.2.2

/-- An encoding runs. -/
theorem one_encoding_runs : ∃ s, Single s ∧ s.running.length = 1 := by
  obtain ⟨s, hrun, hruns⟩ : ∃ s, execAll PostOp.exec (.picture false) [.queueBuf 7 true,
    .streamCb 10 0, .jpegSetting ⟨5, 7⟩, .metadata ⟨11, .metadata, 0, 7⟩, .send, .getCmd, .takeJpeg,
    .takeFwk none, .takePP (some 20) (some 21), .send, .getCmd, .takeJpeg, .startJob 1] = some s ∧
      s.running.length = 1 := ⟨_, rfl, rfl⟩
  refine ⟨s, one_encoding ((Run.of_execAll hrun).mono fun op hop s t h => ⟨?_, h⟩), hruns⟩
  revert op
  simp [PostOp.Captures]

/-- **The pools are conserved where nothing fails that has a buffer**: after every such run each
buffer of a pool is in one place, and a further step keeps it so exactly if it succeeds. -/
theorem pools_conserved {channel : Bool} {ops : List PostOp} {s : PostProcessor}
    (h : Run PostOp.Succeeded ops (.picture channel) s) : Pooled s ∧
      ∀ (op : PostOp) (t : PostProcessor), op.Captures → op.Step s t → (Pooled t ↔ op.Succeeds s) := by
  have hs : Pool channel s := h.invariant
    (fun (op : PostOp) (s t : PostProcessor) hstep hs => hs.step hstep.1 hstep.2.1 hstep.2.2.2)
    (picture_pool channel)
  refine ⟨hs.pooled, fun op t hop hstep => ⟨fun hp => hs.breaks hop hstep.2 hp, fun hsucc => ?_⟩⟩
  exact hs.pooled_step hop hsucc hstep.2

/-- A buffer is taken for a request and comes back filled, and its frame waits. -/
theorem pools_conserved_one : ∃ ops s, Run PostOp.Succeeded ops (.picture true) s ∧
    s.inputPPQ.items.length = 1 ∧ Pooled s ∧
      ∀ (op : PostOp) (t : PostProcessor), op.Captures → op.Step s t →
        (Pooled t ↔ op.Succeeds s) := by
  obtain ⟨s, hrun, hlength⟩ : ∃ s, Run PostOp.Succeeded [.queueBuf 7 true, .streamCb 10 0]
      (.picture true) s ∧ s.inputPPQ.items.length = 1 := by
    refine ⟨_, .cons ⟨trivial, trivial, .of_nothing rfl rfl nofun, rfl⟩
      (.one ⟨trivial, trivial, ⟨⟨nodup_nil, ?_⟩, ?_, nofun⟩, rfl⟩), rfl⟩
    · exact fun _ h => absurd h not_mem_nil
    · exact fun _ _ => not_mem_nil
  exact ⟨_, s, hrun, hlength, pools_conserved hrun⟩

/-- A frame cannot be handed over: its buffer is queued to the stream for no request. And an
encoding fails to start: its frame's buffer is nowhere. -/
theorem pools_lost :
    (∃ ops s, Run (fun (op : PostOp) (s t : PostProcessor) => op.Captures ∧ op.Step s t) ops
      (.picture true) s ∧ (0, none) ∈ s.streamQueued ∧ ¬Pooled s) ∧
    ∃ ops s, Run (fun (op : PostOp) (s t : PostProcessor) => op.Captures ∧ op.Step s t) ops
      (.picture false) s ∧ s.streamAllocated = 1 ∧ s.streamFree = [] ∧ s.streamQueued = [] ∧
        s.heldBufs = [] ∧ ¬Pooled s := by
  constructor
  · refine ⟨[.queueBuf 7 true, .streamCb 10 0, .jpegSetting ⟨5, 7⟩, .metadata ⟨11, .metadata, 0, 7⟩,
      .send, .getCmd, .takeJpeg, .takeFwk none, .takePP (some 20) none, .ppReproc true .failed], _,
      .cons ⟨trivial, .of_nothing rfl rfl nofun, rfl⟩
      (.cons ⟨trivial, .of_buf rfl rfl nofun not_mem_nil, rfl⟩
      (.cons ⟨trivial, .of_nothing rfl rfl nofun, rfl⟩
      (.cons ⟨trivial, .of_buf rfl rfl nofun (by decide), rfl⟩
      (.cons ⟨trivial, .of_nothing rfl rfl nofun, rfl⟩ (.cons ⟨trivial, .of_nothing rfl rfl nofun, rfl⟩
      (.cons ⟨trivial, .of_nothing rfl rfl nofun, rfl⟩ (.cons ⟨trivial, .of_nothing rfl rfl nofun, rfl⟩
      (.cons ⟨trivial, ⟨?_, ?_, nofun⟩, rfl⟩
      (.one ⟨trivial, .of_nothing rfl rfl nofun, rfl⟩))))))))), mem_singleton_self _, fun hp => ?_⟩
    · exact ⟨nodup_singleton _, fun _ _ => not_mem_nil⟩
    · exact fun _ h => absurd h not_mem_nil
    · have hsome := hp.requested (0, none) (mem_singleton_self _)
      cases hsome
  · refine ⟨[.queueBuf 7 true, .streamCb 10 0, .jpegSetting ⟨5, 7⟩, .metadata ⟨11, .metadata, 0, 7⟩,
      .send, .getCmd, .takeJpeg, .takeFwk none, .takePP (some 20) (some 21), .send, .getCmd, .takeJpeg,
      .encodeFailed], _,
      .cons ⟨trivial, .of_nothing rfl rfl nofun, rfl⟩
      (.cons ⟨trivial, .of_buf rfl rfl nofun not_mem_nil, rfl⟩
      (.cons ⟨trivial, .of_nothing rfl rfl nofun, rfl⟩
      (.cons ⟨trivial, .of_buf rfl rfl nofun (by decide), rfl⟩
      (.cons ⟨trivial, .of_nothing rfl rfl nofun, rfl⟩ (.cons ⟨trivial, .of_nothing rfl rfl nofun, rfl⟩
      (.cons ⟨trivial, .of_nothing rfl rfl nofun, rfl⟩ (.cons ⟨trivial, .of_nothing rfl rfl nofun, rfl⟩
      (.cons ⟨trivial, ⟨?_, ?_, nofun⟩, rfl⟩
      (.cons ⟨trivial, .of_nothing rfl rfl nofun, rfl⟩ (.cons ⟨trivial, .of_nothing rfl rfl nofun, rfl⟩
      (.cons ⟨trivial, .of_nothing rfl rfl nofun, rfl⟩
      (.one ⟨trivial, .of_nothing rfl rfl nofun, rfl⟩)))))))))))), rfl, rfl, rfl, rfl, fun hp => ?_⟩
    · exact ⟨by decide, fun _ _ => not_mem_nil⟩
    · exact fun _ h => absurd h not_mem_nil
    · -- the one buffer is in no place
      have hone := hp.frames 0
      cases hone

end PostProc
