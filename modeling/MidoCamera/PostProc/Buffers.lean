import MidoCamera.PostProc.Shapes

/-!
# The super buffers that the post-processor has

A super buffer is in an input queue, or is a job's own. What is counted of the buffers, such as
their addresses or the indices of a stream's buffers, is counted queue by queue. In every step that
loses nothing, what comes in is held, and what is not held any more is freed.
-/

namespace PostProc

open Loop List PostProcessor Queue JpegData Option

variable {α : Type}

variable {κ : Type} [DecidableEq κ]

/-- The super buffers that are in an input queue or a job's own. -/
def PostProcessor.heldBufs (s : PostProcessor) : List SuperBuf :=
  s.inputPPQ.items.map PpBuffer.input ++ s.inputMetaQ.items ++
    s.ongoingPPQ.items.flatMap PpData.owns ++ s.ppCompleting.flatMap PpData.owns ++
    s.landing.flatMap JpegData.owns ++ s.inputJpegQ.items.flatMap JpegData.owns ++
    s.ongoingJpegQ.items.flatMap JpegData.owns ++
    s.completing.flatMap (fun c => c.job.owns) ++ s.flushing.toList.flatMap JpegData.owns

def PpData.stands (f : SuperBuf → List κ) (job : PpData) : List κ := job.owns.flatMap f

def JpegData.stands (f : SuperBuf → List κ) (job : JpegData) : List κ := job.owns.flatMap f

/-- The super buffers are counted queue by queue. -/
theorem PostProcessor.tally_heldBufs (s : PostProcessor) (f : SuperBuf → List κ) (k : κ) :
    tally f k s.heldBufs = tally (fun buf => f buf.input) k s.inputPPQ.items +
      tally f k s.inputMetaQ.items + tally (PpData.stands f) k s.ongoingPPQ.items +
      tally (PpData.stands f) k s.ppCompleting + tally (JpegData.stands f) k s.landing +
      tally (JpegData.stands f) k s.inputJpegQ.items +
      tally (JpegData.stands f) k s.ongoingJpegQ.items +
      tally (fun c => c.job.stands f) k s.completing +
      tally (JpegData.stands f) k s.flushing.toList := by
  simp only [heldBufs, tally_append, tally_flatMap, tally_map_list]
  rfl

theorem PpData.count_stands (f : SuperBuf → List κ) (k : κ) (job : PpData) :
    (job.stands f).count k = tally f k job.srcFrame.toList + tally f k job.srcMetadata.toList := by
  simp only [stands, owns, flatMap_append, count_append]
  rfl

theorem JpegData.count_stands (f : SuperBuf → List κ) (k : κ) (job : JpegData) :
    (job.stands f).count k = tally f k job.srcFrame.toList + tally f k job.srcReprocFrame.toList +
      tally f k job.srcMetadata.toList := by
  simp only [stands, owns, flatMap_append, count_append]
  rfl

/-- A JPEG job has what its post-processing job had, and the frame that was processed. -/
theorem tally_jpegJob (f : SuperBuf → List κ) (k : κ) (job : PpData) (frame : SuperBuf)
    (x : JpegSettings) (addr : ℕ) (h : job.srcFrame ≠ some frame) :
    ((PostProcessor.jpegJob job frame x addr).stands f).count k =
      (f frame).count k + (job.stands f).count k := by
  simp only [count_stands, PpData.count_stands, jpegJob, if_neg h,
    toList_some, tally_cons, tally_nil]
  omega

theorem tally_jpegJob_own (f : SuperBuf → List κ) (k : κ) (job : PpData) (frame : SuperBuf)
    (x : JpegSettings) (addr : ℕ) (h : job.srcFrame = some frame) :
    ((PostProcessor.jpegJob job frame x addr).stands f).count k = (job.stands f).count k := by
  simp only [count_stands, PpData.count_stands, jpegJob, h, if_true,
    toList_some, toList_none, tally_cons, tally_nil]

theorem Queue.tally_enqueue (f : α → List κ) (k : κ) {q : Queue α} (h : q.active = true)
    (a : α) : tally f k (q.enqueue a).items = tally f k q.items + (f a).count k := by
  rw [enqueue_active h, tally_append, tally_cons, tally_nil, Nat.add_zero]

theorem Queue.tally_dequeue (f : α → List κ) (k : κ) {q q' : Queue α} {a : α}
    (h : q.dequeue = (some a, q')) : tally f k q.items = (f a).count k + tally f k q'.items := by
  rw [(dequeue_some h).2.1, tally_cons]

theorem Queue.dequeue_of_ne {q : Queue α} (h : q.active = true) (hne : q.items ≠ []) :
    ∃ a q', q.dequeue = (some a, q') := by
  rcases hitems : q.items with _ | ⟨a, items⟩
  · exact absurd hitems hne
  · exact ⟨a, _, dequeue_cons h hitems⟩

theorem Queue.tally_dequeueLast (f : α → List κ) (k : κ) {q : Queue α} {a : α}
    (h : q.active = true) (last : q.items.getLast? = some a) :
    tally f k q.dequeueLast.items + (f a).count k = tally f k q.items := by
  have hitems : q.items = q.items.dropLast ++ [a] := by
    obtain ⟨l, hl⟩ := getLast?_eq_some_iff.mp last
    rw [hl, dropLast_concat]
  have hleft : q.dequeueLast.items = q.items.dropLast := by rw [dequeueLast, if_pos h]
  have hall : tally f k q.items = tally f k q.items.dropLast + ((f a).count k + 0) := by
    conv_lhs => rw [hitems]
    rw [tally_append, tally_cons, tally_nil]
  rw [hleft, hall, Nat.add_zero]

theorem Queue.tally_flush (f : α → List κ) (k : κ) (q : Queue α) :
    tally f k q.flush.items + tally f k q.flushed = tally f k q.items := by
  unfold flush flushed
  split <;> simp

theorem PpData.Shaped.tally_frees {job : PpData} (h : job.Shaped) (f : SuperBuf → List κ) (k : κ) :
    tally f k job.frees = (job.stands f).count k := by
  rw [PpData.count_stands, PpData.frees, tally_append]
  rcases hframe : job.srcFrame with _ | b
  · simp [h.fwk (.inl hframe)]
  · simp

theorem JpegData.Shaped.tally_frees {reproc : Bool} {job : JpegData} (h : job.Shaped reproc)
    (f : SuperBuf → List κ) (k : κ) : tally f k job.frees = (job.stands f).count k := by
  rw [count_stands, frees, tally_append, tally_append]
  rcases hfwk : job.fwkSrcBuffer with _ | frame
  · simp only [isSome_none, Bool.false_eq_true, if_false]
    omega
  · simp only [isSome_some, if_true, h.fwk (by rw [hfwk]; rfl), toList_none, tally_nil]
    omega

theorem tally_flatMap_frees {l : List α} {frees : α → List SuperBuf}
    {stands : α → List κ} (f : SuperBuf → List κ) (k : κ)
    (h : ∀ a ∈ l, tally f k (frees a) = (stands a).count k) :
    tally f k (l.flatMap frees) = tally stands k l := by
  induction l with
  | nil => rfl
  | cons a l ih =>
    rw [flatMap_cons, tally_append, tally_cons, h a mem_cons_self,
      ih fun b hb => h b (mem_cons_of_mem a hb)]

/-- From one state to another, what comes in is held, and what is not held any more is freed. -/
def Balanced (f : SuperBuf → List κ) (k : κ) (s t : PostProcessor) : Prop :=
  tally f k t.heldBufs + tally f k t.freed + tally f k s.handed =
    tally f k s.heldBufs + tally f k s.freed + tally f k t.handed

/-- Nothing is lost on its way: what is queued finds its queue on, a result for the JPEG encoder
finds its job with settings, and memory for another one, an encoding that fails is the ongoing one,
and metadata are overridden. -/
def PostOp.Tidy (s : PostProcessor) : PostOp → Prop
  | .streamCb _ _ | .input _ _ => s.inputPPQ.active = true
  | .metadata _ => s.inputMetaQ.active = true
  | .processed _ malloc => ∀ r ∈ s.reproc, r.reprocessType = .jpeg →
    malloc.isSome ∧ ∃ job ∈ s.ongoingPPQ.dequeue.1, job.jpegSettings.isSome
  | .land _ => s.inputJpegQ.active = true
  | .encodeFailed => ∀ job, s.pc = .encode job → s.ongoingJpegQ.items = [job]
  | .ppReproc overridden _ => overridden = true
  | _ => True

variable {R : Bool → Prop} {s t : PostProcessor} {op : PostOp}

namespace Shapes

theorem tally_frees (hs : Shapes R s) {job : JpegData} (h : job ∈ s.jpegJobs)
    (f : SuperBuf → List κ) (k : κ) : tally f k job.frees = (job.stands f).count k := by
  obtain ⟨_, -, hjob⟩ := hs.jpegs job h
  exact hjob.tally_frees f k

theorem mem_flushed {q : Queue α} {a : α} (h : a ∈ q.flushed) : a ∈ q.items := by
  unfold flushed at h
  split at h
  · exact h
  · cases h

theorem tally_stopFrees (hs : Shapes R s) (f : SuperBuf → List κ) (k : κ) :
    tally f k s.stopFrees = tally (JpegData.stands f) k s.ongoingJpegQ.items +
      tally (PpData.stands f) k s.ongoingPPQ.flushed +
      tally (JpegData.stands f) k s.inputJpegQ.flushed +
      tally (fun buf => f buf.input) k s.inputPPQ.flushed + tally f k s.inputMetaQ.flushed := by
  have hongoing : tally f k (s.ongoingJpegQ.items.flatMap frees) =
      tally (stands f) k s.ongoingJpegQ.items :=
    tally_flatMap_frees f k fun job h => hs.tally_frees (by simp [jpegJobs, h]) f k
  have hpp : tally f k (s.ongoingPPQ.flushed.flatMap PpData.frees) =
      tally (PpData.stands f) k s.ongoingPPQ.flushed :=
    tally_flatMap_frees f k fun job h => (hs.jobs job (.inl (mem_flushed h))).tally_frees f k
  have hinput : tally f k (s.inputJpegQ.flushed.flatMap frees) =
      tally (stands f) k s.inputJpegQ.flushed :=
    tally_flatMap_frees f k fun job h =>
      hs.tally_frees (by simp [jpegJobs, mem_flushed h]) f k
  rw [stopFrees, tally_append, tally_append, tally_append, tally_append, hongoing, hpp,
    hinput, tally_map_list]

end Shapes

theorem PostOp.balanced (hs : Shapes R s) (hc : Control s) (ho : Ordered s) (tidy : op.Tidy s)
    (h : op.exec s = some t) (f : SuperBuf → List κ) (k : κ) : Balanced f k s t := by
  cases PostOp.outcome h with
  | jpegSetting | queueFree | queueNew | fwkWaits | fwkNoSettings | fwkNoMemory
  | callbackNone | send | doNextJob | noJpeg | startJob | storeJobId | noFwk | fwkNoJob
  | fwkNoChannel | fwkReprocNone | noPair | ppReprocNone | fwkReproc | ppReproc
  | reprocessedNone | startNoReproc | startReproc | startFailed | stop | stopChannel
  | startDataProc => rfl
  | overrideFailed => cases tidy
  | @giveBack _ _ _ hoff =>
    rw [hc.giveBack_eq hoff]
    rfl
  | streamCb | input =>
    have hin := tally_enqueue (fun buf : PpBuffer => f buf.input) k tidy
    simp only [Balanced, tally_heldBufs, tally_append, tally_cons, tally_nil, hin]
    omega
  | metadata =>
    have hin := tally_enqueue f k tidy
    simp only [Balanced, tally_heldBufs, tally_append, tally_cons, tally_nil, hin]
    omega
  | fwkJob =>
    -- the job has no super buffer
    simp only [Balanced, tally_heldBufs, tally_append, tally_cons, tally_nil,
      count_stands, toList_none, add_zero]
  | processedNone hr htype _ _ hnone =>
    obtain ⟨-, job, hjob, -⟩ := tidy _ hr htype
    rw [hnone] at hjob
    cases hjob
  | processedLost hr htype _ _ hq hlost =>
    obtain ⟨hmalloc, job, hjob, hx⟩ := tidy _ hr htype
    rw [hq] at hjob
    cases hjob
    rcases hlost with hframes | hnone | hnone
    · exact absurd hframes (hs.jobs _ (.inl (Shapes.taken hq).1)).some
    · simp [hnone] at hx
    · simp [hnone] at hmalloc
  | @processedJob _ addr idx request a _ _ job x _ hr _ _ _ hq =>
    have hne : job.srcFrame ≠ some ⟨addr, .reprocessed, idx, request⟩ := fun h => by
      have hkind := (hs.jobs _ (.inl (Shapes.taken hq).1)).frame _ h
      cases hkind
    have htaken := tally_dequeue (PpData.stands f) k hq
    have hmade := tally_jpegJob f k job _ x a hne
    simp only [Balanced, tally_heldBufs, tally_append, tally_cons, tally_nil, htaken, hmade]
    omega
  | reprocessedJob _ _ _ hq =>
    have htaken := tally_dequeue (PpData.stands f) k hq
    simp only [Balanced, tally_heldBufs, tally_append, tally_cons, tally_nil, htaken]
    omega
  | @land addr job find =>
    have htaken := tally_takeOut (f := stands f) (k := k) find
    have hin := tally_enqueue (stands f) k tidy job
    simp only [Balanced, tally_heldBufs, hin]
    omega
  | @ppDone addr job find =>
    have htaken := tally_takeOut (f := PpData.stands f) (k := k) find
    have hfrees := (hs.jobs job (.inr (mem_of_find?_eq_some find))).tally_frees f k
    simp only [Balanced, tally_heldBufs, tally_append, hfrees]
    omega
  | callback _ hq =>
    have htaken := tally_dequeue (stands f) k hq
    simp only [Balanced, tally_heldBufs, tally_append, tally_cons, tally_nil, htaken]
    omega
  | @jpegDone addr c find =>
    have htaken := tally_takeOut (f := fun c : Completion => c.job.stands f) (k := k) find
    have hmem : c.job ∈ s.jpegJobs := by
      have hc := mem_map_of_mem (f := Completion.job) (mem_of_find?_eq_some find)
      simp [jpegJobs, hc]
    have hfrees := hs.tally_frees hmem f k
    simp only [Balanced, tally_heldBufs, tally_append, hfrees]
    omega
  | flushTake hnone hq =>
    have htaken := tally_dequeue (stands f) k hq
    simp only [Balanced, tally_heldBufs, htaken, hnone, toList_none,
      toList_some, tally_cons, tally_nil]
    omega
  | @flushRelease job hjob =>
    have hmem : job ∈ s.jpegJobs := by simp [jpegJobs, hjob]
    have hfrees := hs.tally_frees hmem f k
    simp only [Balanced, tally_heldBufs, tally_append, hfrees, hjob, toList_none,
      toList_some, tally_cons, tally_nil]
    omega
  | stopDataProc =>
    rw [stopDataProc_eq]
    have hfrees := hs.tally_stopFrees f k
    have hppq := s.inputPPQ.tally_flush (fun buf : PpBuffer => f buf.input) k
    have hmeta := s.inputMetaQ.tally_flush f k
    have hongoing := s.ongoingPPQ.tally_flush (PpData.stands f) k
    have hinput := s.inputJpegQ.tally_flush (stands f) k
    simp only [stopFrees] at hfrees
    simp only [Balanced, stopFrees, tally_heldBufs, tally_append, tally_nil, hfrees]
    simp only [tally_append] at hfrees
    omega
  | takeJpeg _ _ hq =>
    have htaken := tally_dequeue (stands f) k hq
    have hin := tally_enqueue (stands f) k hc.always.1
    simp only [Balanced, tally_heldBufs, htaken, hin]
    omega
  | @encodeFailed job hpc =>
    -- the job that fails is the one that is taken out
    have hlast := tally_dequeueLast (stands f) k hc.always.1 (a := job) (by rw [tidy job hpc]; rfl)
    have hmem : job ∈ s.jpegJobs := by simp [jpegJobs, tidy job hpc]
    have hfrees := hs.tally_frees hmem f k
    simp only [Balanced, tally_heldBufs, tally_append, hfrees]
    omega
  | @takeFwk _ _ _ _ job hpc _ _ hjob =>
    have hon := hc.on (hc.active_of_pc (by simp [hpc]))
    have hin := tally_enqueue (PpData.stands f) k hon.2.2.2.1 job
    have hnone : (job.stands f).count k = 0 := by
      rw [PpData.count_stands, hjob]
      rfl
    simp only [Balanced, tally_heldBufs, hin, hnone]
    omega
  | @fwkReprocFailed job frame _ _ hpc =>
    have hon := hc.on (hc.active_of_pc (by simp [hpc]))
    obtain ⟨hframe, -, hmeta⟩ := ho.fwk job frame hpc
    have hlast := tally_dequeueLast (PpData.stands f) k hon.2.2.2.1 (ho.held job (by rw [hpc]; rfl))
    have hnone : (job.stands f).count k = 0 := by
      rw [PpData.count_stands, hframe, hmeta]
      rfl
    simp only [Balanced, tally_heldBufs]
    omega
  | @ppReprocFailed job buf _ _ hpc =>
    have hon := hc.on (hc.active_of_pc (by simp [hpc]))
    obtain ⟨hframe, -, -⟩ := ho.pp job buf hpc
    have hlast := tally_dequeueLast (PpData.stands f) k hon.2.2.2.1 (ho.held job (by rw [hpc]; rfl))
    rw [PpData.count_stands, hframe, toList_some, tally_cons, tally_nil] at hlast
    simp only [Balanced, tally_heldBufs, tally_append, tally_cons]
    omega
  | pairNoJob hpc hpp hmeta =>
    have hon := hc.on (hc.active_of_pc (by simp [hpc]))
    -- there is one of each, and both are freed
    obtain ⟨buf, pq, hbuf⟩ := dequeue_of_ne hon.1 hpp
    obtain ⟨b, mq, hb⟩ := dequeue_of_ne hon.2.2.1 hmeta
    have hbuf' := tally_dequeue (fun buf : PpBuffer => f buf.input) k hbuf
    have hb' := tally_dequeue f k hb
    simp only [cleanUp_eq, cleaned, tookPair, Balanced,
      tally_heldBufs, hbuf, hb, toList_some, map_singleton, tally_append,
      tally_cons, tally_nil]
    omega
  | @pairReproc addr _ b buf _ _ _ hpc hq hm =>
    have hon := hc.on (hc.active_of_pc (by simp [hpc]))
    have hbuf := tally_dequeue (fun buf : PpBuffer => f buf.input) k hq
    have hb := tally_dequeue f k hm
    have hin := tally_enqueue (PpData.stands f) k hon.2.2.2.1 (s.pairJob addr buf b)
    have hmade : ((s.pairJob addr buf b).stands f).count k = (f buf.input).count k + (f b).count k := by
      simp [PpData.count_stands, pairJob]
    simp only [Balanced, tally_heldBufs, hbuf, hb, hin, hmade]
    omega
  | @pairCleaned addr _ b buf _ _ hpc hq hm hr =>
    have hbuf := tally_dequeue (fun buf : PpBuffer => f buf.input) k hq
    have hb := tally_dequeue f k hm
    -- the job was the only ongoing one, and is taken out again
    have hon := hc.on (hc.active_of_pc (by simp [hpc]))
    have halone := ho.alone_dequeue hc (by simp [hpc]) (by rw [hpc]; rfl) hr (s.pairJob addr buf b)
    have hin := tally_enqueue (PpData.stands f) k hon.2.2.2.1 (s.pairJob addr buf b)
    have hout := tally_dequeue (PpData.stands f) k halone
    simp only [Balanced, tally_heldBufs, tally_append, tally_cons, tally_nil, halone]
    rw [tally_nil] at hout
    omega
  | @pairJpeg addr a b buf _ _ job _ x hpc hq hm hr hj =>
    have hbuf := tally_dequeue (fun buf : PpBuffer => f buf.input) k hq
    have hb := tally_dequeue f k hm
    have hon := hc.on (hc.active_of_pc (by simp [hpc]))
    have hin := tally_enqueue (PpData.stands f) k hon.2.2.2.1 (s.pairJob addr buf b)
    have hout := tally_dequeue (PpData.stands f) k hj
    -- the job is the pair's, and the JPEG job has what it has
    obtain ⟨rfl, hnil⟩ := ho.alone hc (by simp [hpc]) (by rw [hpc]; rfl) hr hj
    have hmade : ((s.pairJob addr buf b).stands f).count k = (f buf.input).count k + (f b).count k := by
      simp [PpData.count_stands, pairJob]
    have hown := tally_jpegJob_own f k (s.pairJob addr buf b) buf.input x a rfl
    have hjpeg := tally_enqueue (stands f) k hon.2.2.2.2
      (jpegJob (s.pairJob addr buf b) buf.input x a)
    simp only [Balanced, tally_heldBufs, hjpeg]
    omega

end PostProc
