import MidoCamera.PostProc.Control

/-!
# What the post-processor's jobs are of

A post-processing job is of a frame of the snapshot stream with its metadata, or of a frame of the
framework. A JPEG job is of a result of the reprocess stream, and then of what that was made of; or
it is of a frame that was not reprocessed.
-/

namespace PostProc

open Loop List PostProcessor

/-- A post-processing job has a frame, of the snapshot stream or of the framework, and metadata only
with the first. -/
structure PpData.Shaped (job : PpData) : Prop where
  frame : ∀ b ∈ job.srcFrame, b.kind = .frame
  metadata : ∀ b ∈ job.srcMetadata, b.kind = .metadata
  some : ¬(job.srcFrame = none ∧ job.fwkSrcFrame = none)
  fwk : job.srcFrame = none ∨ job.fwkSrcFrame.isSome → job.srcMetadata = none

/-- With a reprocess, a JPEG job's frame is the reprocess stream's, and the one that it was made of
may be the snapshot stream's; without one, its frame may be the snapshot stream's. -/
structure JpegData.Shaped (reproc : Bool) (job : JpegData) : Prop where
  frame : ∀ b ∈ job.srcFrame, b.kind = if reproc then .reprocessed else .frame
  source : ∀ b ∈ job.srcReprocFrame, reproc = true ∧ b.kind = .frame
  metadata : ∀ b ∈ job.srcMetadata, b.kind = .metadata
  fwk : job.fwkSrcBuffer.isSome → job.srcMetadata = none

/-- The JPEG jobs on their way. -/
def PostProcessor.jpegJobs (s : PostProcessor) : List JpegData :=
  s.landing ++ s.inputJpegQ.items ++ s.ongoingJpegQ.items ++ s.completing.map Completion.job ++
    s.flushing.toList

/-- What waits and the jobs are of the right buffers. -/
structure Shapes (R : Bool → Prop) (s : PostProcessor) : Prop where
  inputs : ∀ buf ∈ s.inputPPQ.items, buf.input.kind = .frame
  metadata : ∀ b ∈ s.inputMetaQ.items, b.kind = .metadata
  jobs : ∀ job, job ∈ s.ongoingPPQ.items ∨ job ∈ s.ppCompleting → job.Shaped
  jpegs : ∀ job ∈ s.jpegJobs, ∃ reproc, R reproc ∧ job.Shaped reproc

variable {R : Bool → Prop} {s t : PostProcessor} {op : PostOp}

/-! ## The jobs that are made -/

theorem PpData.Shaped.jpegJob {job : PpData} (h : job.Shaped) {frame : SuperBuf}
    (hkind : frame.kind = .reprocessed) (x : JpegSettings) (addr : ℕ) :
    (PostProcessor.jpegJob job frame x addr).Shaped true where
  frame b hb := by
    cases hb
    exact hkind
  source b hb := by
    refine ⟨rfl, ?_⟩
    simp only [PostProcessor.jpegJob, Option.mem_def] at hb
    split at hb
    · cases hb
    · exact h.frame b hb
  metadata := h.metadata
  fwk hsome := h.fwk (.inr hsome)

theorem PostProcessor.pairJob_shaped (s : PostProcessor) (addr : ℕ) {buf : PpBuffer} {b : SuperBuf}
    (hbuf : buf.input.kind = .frame) (hb : b.kind = .metadata) : (s.pairJob addr buf b).Shaped where
  frame c hc := by
    cases hc
    exact hbuf
  metadata c hc := by
    cases hc
    exact hb
  some h := by cases h.1
  fwk h := by cases h <;> contradiction

theorem PostProcessor.jpegJob_pairJob_shaped (s : PostProcessor) (addr a : ℕ) {buf : PpBuffer}
    {b : SuperBuf} (x : JpegSettings) (hbuf : buf.input.kind = .frame) (hb : b.kind = .metadata) :
    (jpegJob (s.pairJob addr buf b) buf.input x a).Shaped false where
  frame c hc := by
    cases hc
    exact hbuf
  source c hc := by simp [jpegJob, pairJob] at hc
  metadata c hc := by
    cases hc
    exact hb
  fwk h := by cases h

namespace Shapes

theorem grow (hs : Shapes R s)
    (inputs : ∀ buf ∈ t.inputPPQ.items, buf ∈ s.inputPPQ.items ∨ buf.input.kind = .frame)
    (metadata : ∀ b ∈ t.inputMetaQ.items, b ∈ s.inputMetaQ.items ∨ b.kind = .metadata)
    (jobs : ∀ job, job ∈ t.ongoingPPQ.items ∨ job ∈ t.ppCompleting →
      (job ∈ s.ongoingPPQ.items ∨ job ∈ s.ppCompleting) ∨ job.Shaped)
    (jpegs : ∀ job ∈ t.jpegJobs, job ∈ s.jpegJobs ∨ ∃ reproc, R reproc ∧ job.Shaped reproc) :
    Shapes R t where
  inputs buf h := (inputs buf h).elim (hs.inputs buf) id
  metadata b h := (metadata b h).elim (hs.metadata b) id
  jobs job h := (jobs job h).elim (hs.jobs job) id
  jpegs job h := (jpegs job h).elim (hs.jpegs job) id

theorem keep (hs : Shapes R s) (inputs : t.inputPPQ.items ⊆ s.inputPPQ.items)
    (metadata : t.inputMetaQ.items ⊆ s.inputMetaQ.items)
    (ongoing : t.ongoingPPQ.items ⊆ s.ongoingPPQ.items)
    (completing : t.ppCompleting ⊆ s.ppCompleting) (jpegs : t.jpegJobs ⊆ s.jpegJobs) : Shapes R t :=
  hs.grow (fun _ h => .inl (inputs h)) (fun _ h => .inl (metadata h))
    (fun _ h => .inl (h.imp (fun h => ongoing h) fun h => completing h)) (fun _ h => .inl (jpegs h))

theorem taken {α : Type} {q q' : Queue α} {a : α} (h : q.dequeue = (some a, q')) :
    a ∈ q.items ∧ q'.items ⊆ q.items := by
  rw [(Queue.dequeue_some h).2.1]
  exact ⟨mem_cons_self, subset_cons_self _ _⟩

theorem flush_subset {α : Type} (q : Queue α) : q.flush.items ⊆ q.items := fun _ => Queue.mem_flush

/-- **The shapes are kept by every step**, if the jobs that are made are of the channel there is. -/
theorem step (hs : Shapes R s) (hc : Control s) (ho : Ordered s) (hR : R s.reproc.isSome)
    (h : op.exec s = some t) : Shapes R t := by
  have hself : ∀ {α : Type} (l : List α), l ⊆ l := fun l => List.Subset.refl l
  cases PostOp.outcome h with
  | jpegSetting | queueFree | queueNew | fwkWaits | fwkNoSettings | fwkNoMemory
  | callbackNone | send | doNextJob | noJpeg | startJob | storeJobId | noFwk | fwkNoJob
  | fwkNoChannel | fwkReprocNone | noPair | ppReprocNone | overrideFailed | fwkReproc | ppReproc
  | processedNone | reprocessedNone | startNoReproc | startReproc | startFailed | stop | stopChannel
  | startDataProc =>
    exact hs.keep (hself _) (hself _) (hself _) (hself _) (hself _)
  | @giveBack _ hpc hcmds hoff =>
    rw [hc.giveBack_eq hoff]
    exact hs.keep (hself _) (hself _) (hself _) (hself _) (hself _)
  | stopDataProc =>
    rw [stopDataProc_eq]
    refine hs.keep (flush_subset _) (flush_subset _) (flush_subset _) (hself _) fun job h => ?_
    simp only [jpegJobs, append_nil, mem_append] at h ⊢
    rcases h with (((h | h) | h) | h)
    · exact .inl (.inl (.inl (.inl h)))
    · exact .inl (.inl (.inl (.inr (Queue.mem_flush h))))
    · exact .inl (.inr h)
    · exact .inr h
  | ppDone =>
    exact hs.keep (hself _) (hself _) (hself _) (takeOut_sublist _ _ _).subset (hself _)
  | streamCb =>
    refine hs.grow (fun buf h => ?_) (fun _ => .inl) (fun _ => .inl) (fun _ => .inl)
    exact (Queue.mem_enqueue h).imp_right fun h => by rw [h]
  | input hkind =>
    refine hs.grow (fun buf h => ?_) (fun _ => .inl) (fun _ => .inl) (fun _ => .inl)
    exact (Queue.mem_enqueue h).imp_right fun h => by rw [h, hkind]
  | metadata hkind =>
    refine hs.grow (fun _ => .inl) (fun b h => ?_) (fun _ => .inl) (fun _ => .inl)
    exact (Queue.mem_enqueue h).imp_right fun h => by rw [h, hkind]
  | fwkJob =>
    refine hs.grow (fun _ => .inl) (fun _ => .inl) (fun _ => .inl) (fun job h => ?_)
    simp only [jpegJobs, mem_append, mem_singleton] at h ⊢
    rcases h with (((((h | rfl) | h) | h) | h) | h)
    · exact .inl (.inl (.inl (.inl (.inl h))))
    · exact .inr ⟨_, hR, nofun, nofun, nofun, nofun⟩
    · exact .inl (.inl (.inl (.inl (.inr h))))
    · exact .inl (.inl (.inl (.inr h)))
    · exact .inl (.inl (.inr h))
    · exact .inl (.inr h)
  | processedLost _ _ _ _ hq => exact hs.keep (hself _) (hself _) (taken hq).2 (hself _) (hself _)
  | reprocessedJob _ _ _ hq =>
    refine hs.grow (fun _ => .inl) (fun _ => .inl) (fun job h => .inl ?_) (fun _ => .inl)
    simp only [mem_append, mem_singleton] at h
    rcases h with h | h | rfl
    · exact .inl ((taken hq).2 h)
    · exact .inr h
    · exact .inl (taken hq).1
  | processedJob hr _ _ _ hq =>
    have hjob := hs.jobs _ (.inl (taken hq).1)
    refine hs.grow (fun _ => .inl) (fun _ => .inl)
      (fun _ h => .inl (h.imp_left fun h => (taken hq).2 h)) (fun job h => ?_)
    simp only [jpegJobs, mem_append, mem_singleton] at h ⊢
    rcases h with (((((h | rfl) | h) | h) | h) | h)
    · exact .inl (.inl (.inl (.inl (.inl h))))
    · rw [hr] at hR
      exact .inr ⟨true, hR, hjob.jpegJob rfl _ _⟩
    · exact .inl (.inl (.inl (.inl (.inr h))))
    · exact .inl (.inl (.inl (.inr h)))
    · exact .inl (.inl (.inr h))
    · exact .inl (.inr h)
  | land find =>
    refine hs.keep (hself _) (hself _) (hself _) (hself _) (fun job h => ?_)
    simp only [jpegJobs, mem_append] at h ⊢
    rcases h with ((((h | h) | h) | h) | h)
    · exact .inl (.inl (.inl (.inl ((takeOut_sublist _ _ _).subset h))))
    · rcases Queue.mem_enqueue h with h | rfl
      · exact .inl (.inl (.inl (.inr h)))
      · exact .inl (.inl (.inl (.inl (mem_of_find?_eq_some find))))
    · exact .inl (.inl (.inr h))
    · exact .inl (.inr h)
    · exact .inr h
  | callback _ hq =>
    refine hs.keep (hself _) (hself _) (hself _) (hself _) (fun job h => ?_)
    simp only [jpegJobs, mem_append, map_append, map_singleton, mem_singleton] at h ⊢
    rcases h with (((h | h) | (h | rfl)) | h)
    · exact .inl (.inl (.inl h))
    · exact .inl (.inl (.inr ((taken hq).2 h)))
    · exact .inl (.inr h)
    · exact .inl (.inl (.inr (taken hq).1))
    · exact .inr h
  | jpegDone =>
    refine hs.keep (hself _) (hself _) (hself _) (hself _) (fun job h => ?_)
    simp only [jpegJobs, mem_append] at h ⊢
    exact h.imp_left fun h => h.imp_right fun h => ((takeOut_sublist _ _ _).map _).subset h
  | flushTake hnone hq =>
    refine hs.keep (hself _) (hself _) (hself _) (hself _) (fun job h => ?_)
    simp only [jpegJobs, mem_append, Option.toList_some, mem_singleton] at h ⊢
    rcases h with (((h | h) | h) | rfl)
    · exact .inl (.inl (.inl h))
    · exact .inl (.inl (.inr ((taken hq).2 h)))
    · exact .inl (.inr h)
    · exact .inl (.inl (.inr (taken hq).1))
  | flushRelease =>
    refine hs.keep (hself _) (hself _) (hself _) (hself _) (fun job h => ?_)
    simp only [jpegJobs, Option.toList_none, append_nil] at h ⊢
    exact mem_append_left _ h
  | takeJpeg _ _ hq =>
    refine hs.keep (hself _) (hself _) (hself _) (hself _) (fun job h => ?_)
    simp only [jpegJobs, mem_append] at h ⊢
    rcases h with ((((h | h) | h) | h) | h)
    · exact .inl (.inl (.inl (.inl h)))
    · exact .inl (.inl (.inl (.inr ((taken hq).2 h))))
    · rcases Queue.mem_enqueue h with h | rfl
      · exact .inl (.inl (.inr h))
      · exact .inl (.inl (.inl (.inr (taken hq).1)))
    · exact .inl (.inr h)
    · exact .inr h
  | encodeFailed =>
    refine hs.keep (hself _) (hself _) (hself _) (hself _) (fun job h => ?_)
    simp only [jpegJobs, mem_append] at h ⊢
    exact h.imp_left fun h => h.imp_left fun h => h.imp_right Queue.mem_dequeueLast
  | takeFwk _ _ hr hjob =>
    refine hs.grow (fun _ => .inl) (fun _ => .inl) (fun job h => ?_) (fun _ => .inl)
    rcases h with h | h
    · rcases Queue.mem_enqueue h with h | rfl
      · exact .inl (.inl h)
      · rw [hjob]
        exact .inr ⟨nofun, nofun, nofun, fun _ => rfl⟩
    · exact .inl (.inr h)
  | fwkReprocFailed | ppReprocFailed =>
    exact hs.keep (hself _) (hself _) (fun _ => Queue.mem_dequeueLast) (hself _) (hself _)
  | pairNoJob =>
    rw [cleanUp_eq]
    exact hs.keep (fun _ => Queue.mem_dequeue) (fun _ => Queue.mem_dequeue) (hself _) (hself _)
      (hself _)
  | pairReproc _ hq hm hr =>
    refine hs.grow (fun _ h => .inl ((taken hq).2 h)) (fun _ h => .inl ((taken hm).2 h))
      (fun job h => ?_) (fun _ => .inl)
    rcases h with h | h
    · rcases Queue.mem_enqueue h with h | rfl
      · exact .inl (.inl h)
      · exact .inr (s.pairJob_shaped _ (hs.inputs _ (taken hq).1) (hs.metadata _ (taken hm).1))
    · exact .inl (.inr h)
  | pairCleaned _ hpc hq hm hr =>
    refine hs.keep (taken hq).2 (taken hm).2 ?_ (hself _) (hself _)
    rw [ho.alone_dequeue hc (by simp [hpc]) (by rw [hpc]; rfl) hr]
    exact nil_subset _
  | pairJpeg hpc hq hm hr hj =>
    -- the only ongoing job is the one that was made of the pair
    obtain ⟨rfl, hnil⟩ := ho.alone hc (by simp [hpc]) (by rw [hpc]; rfl) hr hj
    refine hs.grow (fun _ h => .inl ((taken hq).2 h)) (fun _ h => .inl ((taken hm).2 h))
      (fun job h => ?_) (fun job h => ?_)
    · rw [hnil] at h
      exact .inl (.inr (h.resolve_left not_mem_nil))
    · simp only [jpegJobs, mem_append] at h ⊢
      rcases h with ((((h | h) | h) | h) | h)
      · exact .inl (.inl (.inl (.inl (.inl h))))
      · rcases Queue.mem_enqueue h with h | rfl
        · exact .inl (.inl (.inl (.inl (.inr h))))
        · rw [hr] at hR
          exact .inr ⟨false, hR, s.jpegJob_pairJob_shaped _ _ _ (hs.inputs _ (taken hq).1)
            (hs.metadata _ (taken hm).1)⟩
      · exact .inl (.inl (.inl (.inr h)))
      · exact .inl (.inl (.inr h))
      · exact .inl (.inr h)

end Shapes

end PostProc
