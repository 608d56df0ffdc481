import MidoCamera.Hal1Post.Ownership

/-!
# The HAL1 post-processor conserves super buffers

A super buffer that is handed to the post-processor is owned by one job, entry or notification until
it is freed, once, and its buffers are returned with it, unless it is the source of a regular
capture. This is so as long as the steps are orderly: not where a reprocess fails after its job is
ongoing, where a regular capture's job is released after its first pass, where a reprocessed frame
finds no job or no memory, or where a raw image is neither refused nor kept for a notification.
-/

namespace Hal1Post

open Loop List PostProcessor Owner Option PpData
open PostProc (Queue)

variable {job : PpData} {node : Bool} {q : Queue PpData} {α : Type}

/-- A job that waits for a pass: the two frames are one before the first pass, and not after it. -/
def PpData.Waiting (job : PpData) : Prop :=
  job.srcFrame = job.srcReprocFrame ↔ job.reprocCount = 0

/-- A job that is in a pass: its frames are those that it waited with. -/
structure PpData.Going (job : PpData) : Prop where
  begun : job.reprocCount ≠ 0
  first : job.reprocCount ≤ 1 → job.srcFrame = job.srcReprocFrame
  later : 1 < job.reprocCount → job.srcFrame = job.srcReprocFrame → job.srcFrame = none

/-- What the queues have of jobs that wait, and of jobs that are in a pass. -/
structure Passes (s : PostProcessor) : Prop where
  input : ∀ job ∈ s.inputPPQ.items, job.Waiting
  landing : ∀ job, Owner.pp job ∈ s.landing → job.Waiting
  ongoing : ∀ job ∈ s.ongoingPPQ.items, job.Going
  encoding : s.ongoingJpegQ.active = true

/-- The invariant, with owners in hand. -/
structure Inv (hand : List Owner) (s : PostProcessor) : Prop where
  accounted : Accounted hand s
  passes : Passes s

/-- No job comes into the queues of jobs that wait or are in a pass. -/
structure Fewer (s t : PostProcessor) : Prop where
  input : t.inputPPQ.items ⊆ s.inputPPQ.items
  landing : ∀ job, Owner.pp job ∈ t.landing → Owner.pp job ∈ s.landing
  ongoing : t.ongoingPPQ.items ⊆ s.ongoingPPQ.items
  encoding : t.ongoingJpegQ.active = s.ongoingJpegQ.active

/-- A raw image is refused before it is handed on, or is handed on to a notification that owns it.
-/
def RawImage.HandedOn (image : RawImage) : Prop :=
  image.frame → image.memObj → image.rawMem →
    (image.snapshot ∨ ¬image.intRawEvtPending) ∧ image.dataCb ∧
      (image.notifyMem → image.notified = image.zslChannelUsed)

/-- A job that is taken for its next pass has a source frame and a place in the ongoing queue, or
can be released. -/
def Reprocess.Placed (r : Reprocess) (s : PostProcessor) (job : PpData) : Prop :=
  job.srcReprocFrame.isSome ∧ r.ppChannelCount < camPpChannelMax ∧
    ((r.channel ∧ r.node ∧ s.ongoingPPQ.active) ∨ job.Releasable)

/-- A reprocessed frame finds the job that it was made for, and there is memory if it is to be
encoded. -/
def Pass.Found (pass : Pass) (malloc : Option ℕ) (job : PpData) : Prop :=
  (pass.needSuperBufMatch ∨ (job.srcFrame.isSome ∧ job.srcReprocFrame.isSome)) ∧
    if !pass.needSuperBufMatch && pass.rawFormat then job.Releasable
    else pass.reprocCount ≤ job.reprocCount → malloc.isSome

/-- The steps after which nothing is lost or released twice. A frame comes from a channel that there
is, and a channel is deleted when nothing of it has to be returned any more. -/
def PostOp.Orderly (s : PostProcessor) : PostOp → Prop
  | .delChannel chId => ∀ o ∈ s.owners, ∀ b ∈ o.bufs, b.chId = chId → b ∈ s.regular
  | .processData _ (.reprocess true) malloc node => malloc.isSome → s.inputPPQ.active ∧ node
  | .processData frame (.reprocess false) malloc _ | .processData frame .jpeg malloc _ =>
    malloc.isSome → frame.chId ∈ s.channels
  | .processData frame .raw _ _ | .processRawData frame _ => frame.chId ∈ s.channels
  | .processPPData frame pass malloc => frame.chId ∈ s.channels ∧
    ∃ job, peek s.ongoingPPQ = some job ∧ pass.Found malloc job
  | .land (.pp job) node => (s.inputPPQ.active ∧ node) ∨ job.Releasable
  | .stopDataProc => ∀ job ∈ s.ongoingPPQ.flushed ++ s.inputPPQ.flushed, job.Releasable
  | .doNextJob => ¬s.isActive → ∀ job ∈ s.inputPPQ.flushed, job.Releasable
  | .encodeData none => ∀ job, s.pc = .encode job → s.ongoingJpegQ.items.getLast? = some job
  | .rawImage image => image.HandedOn
  | .takeReprocess r => r.validated → ∀ job, peek s.inputPPQ = some job → job.srcFrame.isSome →
    r.Placed s job
  | .doReprocess ok => ok
  | _ => True

def PostOp.OrderlyStep (op : PostOp) (s t : PostProcessor) : Prop := op.Step s t ∧ op.Orderly s

/-! ## Queues -/

theorem enqueue_eq_some {q q' : Queue α} {a : α} (h : enqueue q a node = some q') :
    q.active = true ∧ node = true ∧ q' = { q with items := q.items ++ [a] } := by
  unfold enqueue at h
  split at h
  · next hon =>
    obtain ⟨hactive, hnode⟩ := Bool.and_eq_true_iff.mp hon
    exact ⟨hactive, hnode, (some.inj h).symm⟩
  · cases h

theorem enqueue_eq_none {q : Queue α} {a : α}
    (h : enqueue q a node = none) : ¬(q.active = true ∧ node = true) := by
  rintro ⟨hactive, hnode⟩
  rw [enqueue, hactive, hnode] at h
  cases h

theorem peek_eq (q : Queue α) : peek q = q.dequeue.1 := by
  unfold peek Queue.dequeue
  split <;> rfl

theorem count_flushNodes {β : Type} [DecidableEq β] (q : Queue α) (match_fn : α → Bool)
    (f : α → β) (b : β) : ((flushNodes q match_fn).items.map f).count b +
      ((flushedNodes q match_fn).map f).count b = (q.items.map f).count b := by
  unfold flushNodes flushedNodes
  split
  · rw [← count_append, ← map_append]
    exact ((perm_append_comm.trans (filter_append_perm match_fn _)).map f).count_eq b
  · simp

theorem flushNodes_active (q : Queue α) (match_fn : α → Bool) :
    (flushNodes q match_fn).active = q.active := by
  unfold flushNodes
  split <;> rfl

variable {s t : PostProcessor} {hand hand' : List Owner} {o : Owner} {frame : SuperBuf}

/-! ## What the parts of a step do -/

theorem Passes.fewer (hs : Passes s) (h : Fewer s t) : Passes t where
  input job hjob := hs.input job (h.input hjob)
  landing job hjob := hs.landing job (h.landing job hjob)
  ongoing job hjob := hs.ongoing job (h.ongoing hjob)
  encoding := h.encoding.trans hs.encoding

theorem Fewer.refl (s : PostProcessor) : Fewer s s :=
  ⟨List.Subset.refl _, fun _ h => h, List.Subset.refl _, rfl⟩

theorem Released.fewer : Released s t → Fewer s t := by
  rintro ⟨_, _, _, rfl⟩
  exact { Fewer.refl s with }

namespace Inv

theorem move (hs : Inv hand s) (same : SameRecord s t) (fewer : Fewer s t)
    (count : ∀ o, (hand ++ s.owners).count o = (hand' ++ t.owners).count o) : Inv hand' t :=
  ⟨hs.accounted.move same count, hs.passes.fewer fewer⟩

theorem drop (hs : Inv (o :: hand) s) (hrelease : o.Releasable) : Inv hand (s.drop o) :=
  ⟨hs.accounted.drop hrelease, hs.passes.fewer (Released.drop s o).fewer⟩

theorem releases (hs : Inv hand s) (os : List Owner) (t : PostProcessor) (same : SameRecord s t)
    (fewer : Fewer s t) (count : ∀ o, s.owners.count o = os.count o + t.owners.count o)
    (hrelease : ∀ o ∈ os, o.Releasable) : Inv hand (os.foldl PostProcessor.drop t) := by
  have hhand : Inv (os ++ hand) t := by
    refine hs.move same fewer fun o => ?_
    have := count o
    simp only [count_append]
    omega
  exact ⟨hhand.accounted.drops hrelease, hhand.passes.fewer (Released.foldl Released.drop os t).fewer⟩

theorem channels (hs : Inv hand s) (channels : List ℕ)
    (known : ∀ o ∈ hand ++ s.owners, ∀ b ∈ o.bufs, b ∈ s.regular ∨ b.chId ∈ channels) :
    Inv hand { s with channels := channels } :=
  ⟨{ hs.accounted with known := known }, hs.passes.fewer { Fewer.refl s with }⟩

theorem queueRaw (hs : Inv (.buf frame :: hand) s) (node : Bool) :
    Inv hand (s.queueRaw frame node) := by
  unfold PostProcessor.queueRaw
  split
  · next q henqueue =>
    obtain ⟨-, -, rfl⟩ := enqueue_eq_some henqueue
    refine hs.move ⟨rfl, rfl, rfl, rfl, rfl, rfl, rfl⟩ { Fewer.refl s with } fun o => ?_
    simp only [count_append, count_cons, count_nil, PostProcessor.count_owners,
      map_append, map_cons, map_nil]
    omega
  · exact hs.drop trivial

theorem queueJpeg {job : JpegData} (hs : Inv (.jpeg job :: hand) s) (node : Bool) :
    Inv hand (s.queueJpeg job node) := by
  unfold PostProcessor.queueJpeg
  split
  · next q henqueue =>
    obtain ⟨-, -, rfl⟩ := enqueue_eq_some henqueue
    refine hs.move ⟨rfl, rfl, rfl, rfl, rfl, rfl, rfl⟩ { Fewer.refl s with } fun o => ?_
    simp only [count_append, count_cons, count_nil, PostProcessor.count_owners,
      map_append, map_cons, map_nil]
    omega
  · exact hs.drop trivial

theorem flushInputPPQ (hs : Inv hand s) (hjobs : ∀ job ∈ s.inputPPQ.flushed, job.Releasable) :
    Inv hand s.flushInputPPQ := by
  have hflushed := hs.releases (s.inputPPQ.flushed.map .pp)
    { s with inputPPQ := s.inputPPQ.flush } ⟨rfl, rfl, rfl, rfl, rfl, rfl, rfl⟩
    { Fewer.refl s with input := fun _ => Queue.mem_flush }
    (fun o => by
      have hflush := Queue.count_flush s.inputPPQ pp o
      simp only [PostProcessor.count_owners]
      omega) (by simpa [Owner.Releasable] using hjobs)
  rwa [foldl_map] at hflushed

theorem flushOngoingPPQ (hs : Inv hand s) (hjobs : ∀ job ∈ s.ongoingPPQ.flushed, job.Releasable) :
    Inv hand s.flushOngoingPPQ ∧ s.flushOngoingPPQ.inputPPQ = s.inputPPQ := by
  have hflushed := hs.releases (s.ongoingPPQ.flushed.map .pp)
    { s with ongoingPPQ := s.ongoingPPQ.flush } ⟨rfl, rfl, rfl, rfl, rfl, rfl, rfl⟩
    { Fewer.refl s with ongoing := fun _ => Queue.mem_flush }
    (fun o => by
      have hflush := Queue.count_flush s.ongoingPPQ pp o
      simp only [PostProcessor.count_owners]
      omega) (by simpa [Owner.Releasable] using hjobs)
  rw [foldl_map] at hflushed
  exact ⟨hflushed, (Released.foldl Released.dropPP s.ongoingPPQ.flushed _).inputPPQ⟩

theorem flushInputJpegQ (hs : Inv hand s) :
    Inv hand s.flushInputJpegQ ∧ s.flushInputJpegQ.inputPPQ = s.inputPPQ := by
  have hflushed := hs.releases (s.inputJpegQ.flushed.map .jpeg)
    { s with inputJpegQ := s.inputJpegQ.flush } ⟨rfl, rfl, rfl, rfl, rfl, rfl, rfl⟩
    { Fewer.refl s with }
    (fun o => by
      have hflush := Queue.count_flush s.inputJpegQ jpeg o
      simp only [PostProcessor.count_owners]
      omega) (by simp [Owner.Releasable])
  rw [foldl_map] at hflushed
  exact ⟨hflushed, (Released.foldl Released.dropJpeg s.inputJpegQ.flushed _).inputPPQ⟩

theorem flushInputRawQ (hs : Inv hand s) : Inv hand s.flushInputRawQ := by
  have hflushed := hs.releases (s.inputRawQ.flushed.map .buf)
    { s with inputRawQ := s.inputRawQ.flush } ⟨rfl, rfl, rfl, rfl, rfl, rfl, rfl⟩
    { Fewer.refl s with }
    (fun o => by
      have hflush := Queue.count_flush s.inputRawQ buf o
      simp only [PostProcessor.count_owners]
      omega) (by simp [Owner.Releasable])
  rwa [foldl_map] at hflushed

theorem endEncodings (hs : Inv hand s) :
    Inv hand s.endEncodings ∧ s.endEncodings.inputPPQ = s.inputPPQ ∧
      s.endEncodings.ongoingPPQ = s.ongoingPPQ := by
  have hended := hs.releases (s.ongoingJpegQ.items.map .jpeg)
    { s with isActive := false, ongoingJpegQ := { s.ongoingJpegQ with items := [] } }
    ⟨rfl, rfl, rfl, rfl, rfl, rfl, rfl⟩ { Fewer.refl s with }
    (fun o => by
      simp only [PostProcessor.count_owners, map_nil, count_nil]
      omega) (by simp [Owner.Releasable])
  rw [foldl_map] at hended
  have hreleased := Released.foldl Released.dropJpeg s.ongoingJpegQ.items
    { s with isActive := false, ongoingJpegQ := { s.ongoingJpegQ with items := [] } }
  exact ⟨hended, hreleased.inputPPQ, hreleased.ongoingPPQ⟩

theorem jpegEvent (hs : Inv hand s) (jobId : ℕ) : Inv hand (s.jpegEvent jobId) := by
  unfold PostProcessor.jpegEvent
  dsimp only
  generalize (fun job : JpegData => s.jobId job.addr == jobId) = match_fn
  have hflushed := hs.releases ((flushedNodes s.ongoingJpegQ match_fn).map .jpeg)
    { s with ongoingJpegQ := flushNodes s.ongoingJpegQ match_fn }
    ⟨rfl, rfl, rfl, rfl, rfl, rfl, rfl⟩
    { Fewer.refl s with encoding := flushNodes_active s.ongoingJpegQ match_fn }
    (fun o => by
      have hflush := count_flushNodes s.ongoingJpegQ match_fn jpeg o
      simp only [PostProcessor.count_owners]
      omega) (by simp [Owner.Releasable])
  rwa [foldl_map] at hflushed

theorem releaseSaveJobData (hs : Inv hand s) (jobId : ℕ) : Inv hand (s.releaseSaveJobData jobId) := by
  unfold PostProcessor.releaseSaveJobData
  split
  · exact hs
  split
  · exact hs
  · next job q hdequeue =>
    obtain ⟨hactive, hitems, hactive'⟩ := Queue.dequeue_some hdequeue
    refine hs.releases [.jpeg job] { s with ongoingJpegQ := q }
      ⟨rfl, rfl, rfl, rfl, rfl, rfl, rfl⟩
      { Fewer.refl s with encoding := hactive'.trans hactive.symm } (fun o => ?_)
      (by simp [Owner.Releasable])
    simp only [PostProcessor.count_owners, hitems, map_cons, count_cons, count_nil]
    omega

theorem releaseNotifyData (hs : Inv hand s) (hnotify : frame ∈ s.notifications) :
    Inv hand ({ s with notifications := s.notifications.erase frame }.dropBuf frame) := by
  refine hs.releases [.buf frame] { s with notifications := s.notifications.erase frame }
    ⟨rfl, rfl, rfl, rfl, rfl, rfl, rfl⟩ { Fewer.refl s with } (fun o => ?_) (by simp [Owner.Releasable])
  have hcount := ((perm_cons_erase hnotify).map buf).count_eq o
  simp only [map_cons, count_cons] at hcount
  simp only [PostProcessor.count_owners, count_cons, count_nil]
  omega

theorem startDataProc (hs : Inv [] s) : Inv [] s.startDataProc :=
  hs.move ⟨rfl, rfl, rfl, rfl, rfl, rfl, rfl⟩ { Fewer.refl s with } fun _ => rfl

theorem stopDataProc (hs : Inv [] s)
    (hjobs : ∀ job ∈ s.ongoingPPQ.flushed ++ s.inputPPQ.flushed, job.Releasable) :
    Inv [] s.stopDataProc := by
  -- the queues of jobs are as they were when their turn comes
  obtain ⟨hended, hinput, hongoing⟩ := hs.endEncodings
  obtain ⟨hflushed, hinput'⟩ := hended.flushOngoingPPQ fun job hjob =>
    hjobs job (mem_append_left _ (hongoing ▸ hjob))
  obtain ⟨hjpeg, hinput''⟩ := hflushed.flushInputJpegQ
  have hqueue := hinput''.trans (hinput'.trans hinput)
  exact (hjpeg.flushInputPPQ fun job hjob =>
    hjobs job (mem_append_right _ (hqueue ▸ hjob))).flushInputRawQ

theorem giveBackJpeg (hs : Inv hand s) :
    Inv hand s.giveBackJpeg ∧ s.giveBackJpeg.inputPPQ = s.inputPPQ := by
  unfold PostProcessor.giveBackJpeg
  split
  · exact ⟨hs, rfl⟩
  · next job q hdequeue =>
    obtain ⟨-, hitems, -⟩ := Queue.dequeue_some hdequeue
    refine ⟨hs.releases [.jpeg job] { s with inputJpegQ := q }
      ⟨rfl, rfl, rfl, rfl, rfl, rfl, rfl⟩ { Fewer.refl s with } (fun o => ?_)
      (by simp [Owner.Releasable]), (Released.dropJpeg _ job).inputPPQ⟩
    simp only [PostProcessor.count_owners, hitems, map_cons, count_cons, count_nil]
    omega

theorem giveBackRaw (hs : Inv hand s) :
    Inv hand s.giveBackRaw ∧ s.giveBackRaw.inputPPQ = s.inputPPQ := by
  unfold PostProcessor.giveBackRaw
  split
  · exact ⟨hs, rfl⟩
  · next b q hdequeue =>
    obtain ⟨-, hitems, -⟩ := Queue.dequeue_some hdequeue
    refine ⟨hs.releases [.buf b] { s with inputRawQ := q }
      ⟨rfl, rfl, rfl, rfl, rfl, rfl, rfl⟩ { Fewer.refl s with } (fun o => ?_)
      (by simp [Owner.Releasable]), (Released.dropBuf _ b).inputPPQ⟩
    simp only [PostProcessor.count_owners, hitems, map_cons, count_cons, count_nil]
    omega

theorem doNextJob (hs : Inv [] s) (hidle : s.pc = .idle)
    (hjobs : ¬s.isActive → ∀ job ∈ s.inputPPQ.flushed, job.Releasable) : Inv [] s.doNextJob := by
  unfold PostProcessor.doNextJob
  split
  · refine hs.move ⟨rfl, rfl, rfl, rfl, rfl, rfl, rfl⟩ { Fewer.refl s with } fun o => ?_
    simp only [nil_append, PostProcessor.count_owners, hidle, Pc.image?]
  · next hoff =>
    obtain ⟨hjpeg, hinputPPQ⟩ := hs.giveBackJpeg
    obtain ⟨hraw, hinputPPQ'⟩ := hjpeg.giveBackRaw
    refine hraw.flushInputPPQ fun job hjob => hjobs hoff job ?_
    rwa [hinputPPQ', hinputPPQ] at hjob

theorem takeJpeg (hs : Inv [] s) (hpc : s.pc = .jpeg) (node : Bool) : Inv [] (s.takeJpeg node) := by
  unfold PostProcessor.takeJpeg
  split
  · refine hs.move ⟨rfl, rfl, rfl, rfl, rfl, rfl, rfl⟩ { Fewer.refl s with } fun o => ?_
    simp only [nil_append, PostProcessor.count_owners, hpc, Pc.image?]
  · next job q hdequeue =>
    obtain ⟨-, hitems, -⟩ := Queue.dequeue_some hdequeue
    dsimp only
    split
    · next q' henqueue =>
      obtain ⟨-, -, rfl⟩ := enqueue_eq_some henqueue
      refine hs.move ⟨rfl, rfl, rfl, rfl, rfl, rfl, rfl⟩ { Fewer.refl s with } fun o => ?_
      simp only [nil_append, PostProcessor.count_owners, hitems, hpc, Pc.image?,
        map_append, map_cons, map_nil, count_append, count_cons,
        count_nil]
      omega
    · refine hs.releases [.jpeg job] { s with inputJpegQ := q, pc := .raw }
        ⟨rfl, rfl, rfl, rfl, rfl, rfl, rfl⟩ { Fewer.refl s with } (fun o => ?_)
        (by simp [Owner.Releasable])
      simp only [PostProcessor.count_owners, hitems, hpc, Pc.image?, map_cons,
        count_cons, count_nil]
      omega

theorem encodeData {job : JpegData} (hs : Inv [] s) (hpc : s.pc = .encode job) (jobId : Option ℕ)
    (hlast : jobId = none → s.ongoingJpegQ.items.getLast? = some job) :
    Inv [] (s.encodeData job jobId) := by
  unfold PostProcessor.encodeData
  cases jobId with
  | some jobId =>
    refine hs.move ⟨rfl, rfl, rfl, rfl, rfl, rfl, rfl⟩ { Fewer.refl s with } fun o => ?_
    simp only [nil_append, PostProcessor.count_owners, hpc, Pc.image?]
  | none =>
    have hitems : s.ongoingJpegQ.items.dropLast ++ [job] = s.ongoingJpegQ.items :=
      dropLast_append_getLast? job (hlast rfl)
    have hqueue : s.ongoingJpegQ.dequeueLast =
        { s.ongoingJpegQ with items := s.ongoingJpegQ.items.dropLast } := if_pos hs.passes.encoding
    refine hs.releases [.jpeg job] { s with pc := .raw, ongoingJpegQ := s.ongoingJpegQ.dequeueLast }
      ⟨rfl, rfl, rfl, rfl, rfl, rfl, rfl⟩
      { Fewer.refl s with encoding := Queue.dequeueLast_isActive _ } (fun o => ?_)
      (by simp [Owner.Releasable])
    simp only [PostProcessor.count_owners, hpc, Pc.image?, hqueue]
    rw [← hitems]
    simp only [dropLast_concat, map_append, map_cons, map_nil, count_append, count_cons, count_nil]
    omega

theorem takeRaw (hs : Inv [] s) (hpc : s.pc = .raw) : Inv [] s.takeRaw := by
  unfold PostProcessor.takeRaw
  split
  · refine hs.move ⟨rfl, rfl, rfl, rfl, rfl, rfl, rfl⟩ { Fewer.refl s with } fun o => ?_
    simp only [nil_append, PostProcessor.count_owners, hpc, Pc.image?]
  · next b q hdequeue =>
    obtain ⟨-, hitems, -⟩ := Queue.dequeue_some hdequeue
    refine hs.move ⟨rfl, rfl, rfl, rfl, rfl, rfl, rfl⟩ { Fewer.refl s with } fun o => ?_
    simp only [nil_append, PostProcessor.count_owners, hitems, hpc, Pc.image?, map_cons,
      toList_some, toList_none, map_nil, count_cons, count_nil]
    omega

theorem processRawImageImpl_eq {image : RawImage} (hch : frame.chId ∈ s.channels)
    (himage : image.HandedOn) : s.processRawImageImpl frame image = (false, s) ∨
      s.processRawImageImpl frame image =
        (true, { s with notifications := s.notifications ++ [frame] }) := by
  unfold processRawImageImpl
  rw [if_neg (not_not.mpr hch)]
  split
  · exact .inl rfl
  next hframe =>
  split
  · exact .inl rfl
  next hmem =>
  simp only [Bool.not_eq_true, Bool.not_eq_false', Bool.or_eq_false_iff] at hframe hmem
  obtain ⟨hsnapshot, hdataCb, hnotified⟩ := himage hframe hmem.1 hmem.2
  rw [if_neg (by simpa [imp_iff_not_or] using hsnapshot), if_pos hdataCb]
  unfold sendDataNotify
  split
  · exact .inl rfl
  next hnotifyMem =>
  -- with memory, only a ZSL frame is in the notification, and is queued
  rw [hnotified (by simpa using hnotifyMem)]
  cases image.zslChannelUsed
  · exact .inl rfl
  · exact .inr rfl

theorem rawImage {image : RawImage} (hs : Inv [] s) (hpc : s.pc = .image frame)
    (himage : image.HandedOn) : Inv [] (s.rawImage frame image) := by
  have hhand : Inv [.buf frame] { s with pc := .reprocess } := by
    refine hs.move ⟨rfl, rfl, rfl, rfl, rfl, rfl, rfl⟩ { Fewer.refl s with } fun o => ?_
    simp only [nil_append, count_append, PostProcessor.count_owners, hpc, Pc.image?,
      toList_some, toList_none, map_cons, map_nil, count_cons,
      count_nil]
    omega
  obtain ⟨-, hch⟩ := hhand.accounted.buf (mem_cons_self ..)
  unfold PostProcessor.rawImage
  rcases processRawImageImpl_eq hch himage with heq | heq <;> rw [heq]
  · exact hhand.drop trivial
  · have hnotified : Inv [] { s with
        pc := .reprocess
        notifications := s.notifications ++ [frame] } := by
      refine hhand.move ⟨rfl, rfl, rfl, rfl, rfl, rfl, rfl⟩ { Fewer.refl s with } fun o => ?_
      simp only [nil_append, count_append, PostProcessor.count_owners, map_append,
        map_cons, map_nil, count_cons, count_nil]
      omega
    exact hnotified

theorem come (hs : Inv hand s) (o : Owner) (bufs : ((s.handed ++ o.bufs).map SuperBuf.addr).Nodup)
    (jobs : (s.mallocs ++ o.jobs).Nodup) (sources : o.sources ⊆ o.bufs)
    (known : ∀ b ∈ o.bufs, b ∈ o.sources ∨ b.chId ∈ s.channels) : Inv (o :: hand) { s with
      handed := s.handed ++ o.bufs
      mallocs := s.mallocs ++ o.jobs
      regular := s.regular ++ o.sources } :=
  ⟨hs.accounted.come o bufs jobs sources known, hs.passes.fewer { Fewer.refl s with }⟩

theorem handIn (hs : Inv hand s) (hnew : frame.addr ∉ s.handed.map SuperBuf.addr)
    (hch : frame.chId ∈ s.channels) : Inv (.buf frame :: hand) (s.handIn frame) := by
  have hcome := hs.come (.buf frame) (by simpa [bufs, nodup_append, hs.accounted.handed] using hnew)
    (by simpa [jobs] using hs.accounted.mallocs) (by simp [sources])
    (by simpa [bufs, sources] using hch)
  simpa [bufs, jobs, sources, PostProcessor.handIn] using hcome

theorem processRawData (hs : Inv [] s) (hnew : frame.addr ∉ s.handed.map SuperBuf.addr)
    (hch : frame.chId ∈ s.channels) (node : Bool) : Inv [] (s.processRawData frame node) :=
  (hs.handIn hnew hch).queueRaw node

theorem queuePP (hs : Inv (.pp job :: hand) s) (hwaiting : job.Waiting)
    (henqueue : enqueue s.inputPPQ job node = some q) :
    Inv hand { s with inputPPQ := q } := by
  obtain ⟨-, -, rfl⟩ := enqueue_eq_some henqueue
  refine ⟨hs.accounted.move ⟨rfl, rfl, rfl, rfl, rfl, rfl, rfl⟩ fun o => ?_,
    { hs.passes with input := fun job' hjob => ?_ }⟩
  · simp only [count_append, count_cons, count_nil, PostProcessor.count_owners,
      map_append, map_cons, map_nil]
    omega
  · rcases mem_append.mp hjob with hjob | hjob
    · exact hs.passes.input job' hjob
    · exact mem_singleton.mp hjob ▸ hwaiting

theorem processData_reprocess (hs : Inv [] s) (hnew : frame.addr ∉ s.handed.map SuperBuf.addr)
    {addr : ℕ} (haddr : addr ∉ s.mallocs) {regular : Bool}
    (hregular : regular = true → s.inputPPQ.active = true ∧ node = true)
    (hch : regular = false → frame.chId ∈ s.channels) :
    Inv [] (s.processData frame (.reprocess regular) (some addr) node) := by
  let job : PpData := {
    addr := addr
    srcFrame := some frame
    srcReprocFrame := some frame
    reprocFrameRelease := regular }
  have hcome := hs.come (.pp job)
    (by simpa [job, bufs, owns, nodup_append, hs.accounted.handed] using hnew)
    (by simpa [job, jobs] using hs.accounted.mallocs.concat haddr)
    (by cases regular <;> simp [job, sources, bufs, owns])
    (by
      cases regular with
      | true => simp [job, bufs, owns, sources]
      | false => simpa [job, bufs, owns, sources] using hch rfl)
  have hwaiting (job : PpData) (h : job.srcFrame = job.srcReprocFrame) (h' : job.reprocCount = 0) :
      job.Waiting := ⟨fun _ => h', fun _ => h⟩
  unfold processData
  cases regular with
  | true =>
    -- the queue takes the job
    obtain ⟨hactive, rfl⟩ := hregular rfl
    dsimp only
    split
    · next q henqueue =>
      have hqueued := hcome.queuePP (hwaiting _ rfl rfl) henqueue
      simpa [job, bufs, owns, jobs, sources, PostProcessor.handIn,
        PostProcessor.malloc] using hqueued
    · next henqueue => exact absurd ⟨hactive, rfl⟩ (enqueue_eq_none henqueue)
  | false =>
    have hs' : Inv [.pp job] ((s.handIn frame).malloc addr) := by
      simpa [job, bufs, owns, jobs, sources, PostProcessor.handIn, PostProcessor.malloc] using hcome
    dsimp only
    split
    · next q henqueue => exact hs'.queuePP (hwaiting _ rfl rfl) henqueue
    · have hdrop := hs'.drop (fun _ => rfl)
      simpa [job, PostProcessor.drop, dropPP, releaseOngoingPPData, dropBuf] using hdrop

theorem processData_jpeg (hs : Inv [] s) (hnew : frame.addr ∉ s.handed.map SuperBuf.addr) {addr : ℕ}
    (haddr : addr ∉ s.mallocs) (hch : frame.chId ∈ s.channels) (node : Bool) :
    Inv [] (s.processData frame .jpeg (some addr) node) := by
  have hcome := hs.come (.jpeg { addr := addr, srcFrame := some frame })
    (by simpa [bufs, JpegData.owns, nodup_append, hs.accounted.handed] using hnew)
    (by simpa [jobs] using hs.accounted.mallocs.concat haddr)
    (by simp [sources]) (by simpa [bufs, JpegData.owns, sources] using hch)
  have hs' : Inv [.jpeg { addr := addr, srcFrame := some frame }]
      ((s.handIn frame).malloc addr) := by
    simpa [bufs, JpegData.owns, jobs, sources, PostProcessor.handIn,
      PostProcessor.malloc] using hcome
  exact hs'.queueJpeg node

theorem takeOngoing (hs : Inv hand s) (hdequeue : s.ongoingPPQ.dequeue = (some job, q)) :
    Inv (.pp job :: hand) { s with ongoingPPQ := q } ∧ job.Going := by
  obtain ⟨-, hitems, -⟩ := Queue.dequeue_some hdequeue
  refine ⟨hs.move ⟨rfl, rfl, rfl, rfl, rfl, rfl, rfl⟩
    { Fewer.refl s with ongoing := fun job' hjob => by simp [hitems, hjob] } fun o => ?_,
    hs.passes.ongoing job (by simp [hitems])⟩
  simp only [count_append, count_cons, PostProcessor.count_owners, hitems, map_cons]
  omega

theorem trade (hand hand' os : List Owner) (hs : Inv (hand ++ hand') s)
    (bufs : ∀ b, tally Owner.bufs b os = tally Owner.bufs b hand)
    (jobs : ∀ addr, tally Owner.jobs addr os = tally Owner.jobs addr hand)
    (sound : ∀ o ∈ os, o.Sound s.regular) : Inv (os ++ hand') s :=
  ⟨hs.accounted.trade bufs jobs sound, hs.passes⟩

theorem handOff (hs : Inv [o] s) (hwaiting : ∀ job, o = .pp job → job.Waiting) :
    Inv [] { s with landing := s.landing ++ [o] } := by
  refine ⟨hs.accounted.move ⟨rfl, rfl, rfl, rfl, rfl, rfl, rfl⟩ fun o' => ?_,
    { hs.passes with landing := fun job hjob => ?_ }⟩
  · simp only [nil_append, count_append, count_cons, count_nil, PostProcessor.count_owners]
    omega
  · rcases mem_append.mp hjob with hjob | hjob
    · exact hs.passes.landing job hjob
    · exact hwaiting job (mem_singleton.mp hjob).symm

theorem releaseInput (hs : Inv (.pp job :: hand) s) (hgoing : job.Going) :
    ∃ src t, s.releaseInput job = ({ job with srcFrame := src }, t) ∧ Released s t ∧
      Inv (.pp { job with srcFrame := src } :: hand) t ∧
      PpData.owns { job with srcFrame := src } = job.srcReprocFrame.toList := by
  have hsound := hs.accounted.sound _ (mem_cons_self ..)
  rcases job with ⟨addr, reprocCount, ppChannelIndex, srcFrame, reprocFrameRelease, srcReprocFrame⟩
  unfold PostProcessor.releaseInput
  split
  · next hlater =>
    have howns : owns ⟨addr, reprocCount, ppChannelIndex, none, reprocFrameRelease,
        srcReprocFrame⟩ = srcReprocFrame.toList := by
      cases srcReprocFrame <;> simp [owns]
    cases srcFrame with
    | none => exact ⟨none, s, rfl, .refl s, hs, howns⟩
    | some b =>
      have hne : srcReprocFrame ≠ some b := fun h => by
        have := hgoing.later hlater h.symm
        cases this
      have hboth : owns ⟨addr, reprocCount, ppChannelIndex, some b, reprocFrameRelease,
          srcReprocFrame⟩ = b :: srcReprocFrame.toList := by simp [owns, hne]
      -- the source frame comes off the job, and is released
      have htrade := hs.trade [_] hand [.buf b,
          .pp ⟨addr, reprocCount, ppChannelIndex, none, reprocFrameRelease, srcReprocFrame⟩]
        (fun c => by simp [tally_cons, bufs, howns, hboth, count_cons, Nat.add_comm])
        (fun a => by simp [tally_cons, jobs]) (fun o ho => by
          rcases mem_pair.mp ho with rfl | rfl
          · intro c hc
            obtain rfl : c = b := mem_singleton.mp hc
            rw [hsound c (by simp [bufs, hboth])]
            cases reprocFrameRelease <;> simp [sources, hne]
          · intro c hc
            refine hsound c ?_
            rw [bufs, howns] at hc
            rw [bufs, hboth]
            exact mem_cons_of_mem _ hc)
      exact ⟨none, s.dropBuf b, rfl, .dropBuf s b, htrade.drop trivial, howns⟩
  · next hfirst =>
    have hsame : srcFrame = srcReprocFrame := hgoing.first (Nat.not_lt.mp hfirst)
    exact ⟨srcFrame, s, rfl, .refl s, hs, by simp [owns, hsame]⟩

theorem not_mem_bufs (hs : Inv (o :: .buf frame :: hand) s) : frame ∉ o.bufs := fun hmem => by
  have hdistinct := hs.accounted.bufs.nodup_owned hs.accounted.handed.of_map
  simp only [cons_append, flatMap_cons] at hdistinct
  exact disjoint_of_nodup_append hdistinct hmem (by simp [bufs])

theorem mem_sources (job : PpData) {b : SuperBuf} (hb : b ∈ (Owner.pp job).sources) :
    b ∈ job.srcReprocFrame.toList := by
  have hsources : (pp job).sources =
      if job.reprocFrameRelease then job.srcReprocFrame.toList else [] := rfl
  rw [hsources] at hb
  split at hb
  · exact hb
  · cases hb

theorem nextPass (job : PpData) (hs : Inv [.pp job, .buf frame] s) (hbegun : job.reprocCount ≠ 0)
    (howns : job.owns = job.srcReprocFrame.toList) (ppChannelIndex : ℕ) :
    Inv [] { s with landing := s.landing ++
      [.pp { job with srcFrame := some frame, ppChannelIndex := ppChannelIndex }] } := by
  have hsound := hs.accounted.sound _ (mem_cons_self ..)
  have hnew : frame ∉ job.srcReprocFrame.toList := howns ▸ hs.not_mem_bufs
  obtain ⟨hregular, -⟩ := hs.accounted.buf (by simp : buf frame ∈ _)
  have hne : job.srcReprocFrame ≠ some frame := fun h => hnew (by simp [h])
  have hboth : owns { job with srcFrame := some frame, ppChannelIndex := ppChannelIndex } =
      frame :: job.srcReprocFrame.toList := by simp [owns, hne]
  have htrade := hs.trade [_, _] []
    [.pp { job with srcFrame := some frame, ppChannelIndex := ppChannelIndex }]
    (fun b => by simp [tally_cons, bufs, howns, hboth, count_cons])
    (fun a => by simp [tally_cons, jobs]) (fun o ho b hb => by
      obtain rfl := mem_singleton.mp ho
      rw [bufs, hboth] at hb
      rcases mem_cons.mp hb with rfl | hb
      · -- the reprocessed frame is not the source of a regular capture
        exact iff_of_false hregular fun hsource => hnew (mem_sources job hsource)
      · exact hsound b (by rwa [bufs, howns]))
  exact htrade.handOff fun job' hjob => by
    obtain rfl := pp.inj hjob
    exact iff_of_false (Ne.symm hne) hbegun

theorem lastPass (job : PpData) (hs : Inv [.pp job, .buf frame] s)
    (howns : job.owns = job.srcReprocFrame.toList) {addr : ℕ} (haddr : addr ∉ s.mallocs) :
    Inv [] { (s.malloc addr).freeJob job.addr with landing := s.landing ++
      [.jpeg { addr := addr, srcFrame := some frame, srcReprocFrame := job.srcReprocFrame,
               reprocFrameRelease := job.reprocFrameRelease }] } := by
  have hsound := hs.accounted.sound _ (mem_cons_self ..)
  have hnew : frame ∉ job.srcReprocFrame.toList := howns ▸ hs.not_mem_bufs
  obtain ⟨hregular, -⟩ := hs.accounted.buf (by simp : buf frame ∈ _)
  -- an empty JPEG job comes
  have hcome := hs.come (.jpeg { addr := addr })
    (by simpa [bufs, JpegData.owns] using hs.accounted.handed)
    (by simpa [jobs] using hs.accounted.mallocs.concat haddr) (by simp [sources])
    (by simp [bufs, JpegData.owns])
  have hs' : Inv [.jpeg { addr := addr }, .pp job, .buf frame] (s.malloc addr) := by
    simpa [bufs, JpegData.owns, jobs, sources, PostProcessor.malloc] using hcome
  -- it takes the frames, and the post-processing job is freed
  have htrade := hs'.trade [_, _, _] [] [.pp { addr := job.addr },
      .jpeg { addr := addr, srcFrame := some frame, srcReprocFrame := job.srcReprocFrame,
              reprocFrameRelease := job.reprocFrameRelease }]
    (fun b => by
      have hempty : owns { addr := job.addr } = [] := rfl
      simp [tally_cons, bufs, howns, hempty, JpegData.owns])
    (fun a => by simp [tally_cons, jobs, Nat.add_comm]) (fun o ho b hb => by
      rcases mem_pair.mp ho with rfl | rfl
      · simp [bufs, owns] at hb
      · rcases mem_append.mp hb with hb | hb
        · exact hsound b (by rwa [bufs, howns])
        · obtain rfl : b = frame := by simpa using hb
          exact iff_of_false hregular fun hsource => hnew (mem_sources job hsource))
  exact (htrade.drop (fun _ => rfl)).handOff fun job' hjob => by cases hjob

theorem processPPData {pass : Pass} {malloc : Option ℕ} (hs : Inv [] s)
    (hnew : frame.addr ∉ s.handed.map SuperBuf.addr) (hch : frame.chId ∈ s.channels)
    (hmalloc : ∀ addr ∈ malloc, addr ∉ s.mallocs) (hjob : peek s.ongoingPPQ = some job)
    (hfound : pass.Found malloc job) : Inv [] (s.processPPData frame pass malloc) := by
  obtain ⟨q, hdequeue⟩ : ∃ q, s.ongoingPPQ.dequeue = (some job, q) :=
    ⟨_, Prod.ext ((peek_eq _).symm.trans hjob) rfl⟩
  have hdequeue' : (s.handIn frame).ongoingPPQ.dequeue = (some job, q) := hdequeue
  obtain ⟨hhand, hgoing⟩ := (hs.handIn hnew hch).takeOngoing hdequeue'
  obtain ⟨hframes, hpath⟩ := hfound
  unfold PostProcessor.processPPData
  dsimp only
  rw [hdequeue']
  dsimp only
  have hvalid : (!pass.needSuperBufMatch &&
      (job.srcFrame.isNone || job.srcReprocFrame.isNone)) = false := by
    rcases hframes with hmatch | ⟨hsrc, hreproc⟩
    · simp [hmatch]
    · simp [hsrc, hreproc]
  rw [hvalid, if_neg Bool.false_ne_true]
  split
  · next hraw =>
    rw [if_pos hraw] at hpath
    have hdrop := hhand.drop hpath
    exact hdrop.handOff fun _ h => by cases h
  · next hraw =>
    rw [if_neg hraw] at hpath
    obtain ⟨src, t, heq, hreleased, ht, howns⟩ := hhand.releaseInput hgoing
    rw [heq]
    dsimp only
    split
    · exact ht.nextPass { job with srcFrame := src } hgoing.begun howns _
    · next hlast =>
      obtain ⟨addr, rfl⟩ := isSome_iff_exists.mp (hpath (Nat.not_lt.mp hlast))
      have hchannel : frame.chId ∈ (t.malloc addr).channels := hreleased.channels ▸ hch
      dsimp only
      split
      · next hnone => exact absurd hchannel (of_decide_eq_true (Bool.and_eq_true_iff.mp hnone).2)
      · exact ht.lastPass { job with srcFrame := src } howns
          (hreleased.mallocs ▸ hmalloc addr rfl)

theorem land (hs : Inv [] s) (hland : s.land o node = some t)
    (hjob : ∀ job, o = .pp job → (s.inputPPQ.active = true ∧ node = true) ∨ job.Releasable) :
    Inv [] t := by
  unfold PostProcessor.land at hland
  split at hland
  · next hmem =>
    have hhand : Inv [o] { s with landing := s.landing.erase o } := by
      refine hs.move ⟨rfl, rfl, rfl, rfl, rfl, rfl, rfl⟩
        { Fewer.refl s with landing := fun _ => mem_of_mem_erase } fun o' => ?_
      have hcount := (perm_cons_erase hmem).count_eq o'
      simp only [count_cons] at hcount
      simp only [nil_append, count_append, count_cons, count_nil, PostProcessor.count_owners]
      omega
    cases o with
    | pp job =>
      dsimp only at hland
      split at hland
      · next q henqueue =>
        obtain rfl := some.inj hland
        exact hhand.queuePP (hs.passes.landing job hmem) henqueue
      · next henqueue =>
        obtain rfl := some.inj hland
        exact hhand.drop ((hjob job rfl).resolve_left (enqueue_eq_none henqueue))
    | jpeg job =>
      obtain rfl := some.inj hland
      exact hhand.queueJpeg node
    | buf b =>
      obtain rfl := some.inj hland
      exact hhand.queueRaw node
  · cases hland

theorem queueOngoing (hs : Inv (.pp job :: hand) s) (hgoing : job.Going)
    (henqueue : enqueue s.ongoingPPQ job node = some q) :
    Inv hand { s with ongoingPPQ := q } := by
  obtain ⟨-, -, rfl⟩ := enqueue_eq_some henqueue
  refine ⟨hs.accounted.move ⟨rfl, rfl, rfl, rfl, rfl, rfl, rfl⟩ fun o => ?_,
    { hs.passes with ongoing := fun job' hjob => ?_ }⟩
  · simp only [count_append, count_cons, count_nil, PostProcessor.count_owners,
      map_append, map_cons, map_nil]
    omega
  · rcases mem_append.mp hjob with hjob | hjob
    · exact hs.passes.ongoing job' hjob
    · exact mem_singleton.mp hjob ▸ hgoing

theorem addExtra {reprocCount : ℕ} (hcount : reprocCount ≠ 0) (extra : List (Option ℕ × Bool))
    (hs : Inv [] s) (hnodup : (extra.filterMap Prod.fst).Nodup)
    (hfresh : ∀ addr ∈ extra.filterMap Prod.fst, addr ∉ s.mallocs) :
    Inv [] (PostProcessor.addExtra reprocCount extra s).2 ∧
      (PostProcessor.addExtra reprocCount extra s).2.pc = s.pc := by
  induction extra generalizing s with
  | nil => exact ⟨hs, rfl⟩
  | cons alloc extra ih =>
    obtain ⟨_ | addr, node⟩ := alloc
    · exact ⟨hs, rfl⟩
    simp only [filterMap_cons, nodup_cons, forall_mem_cons] at hnodup hfresh
    let job : PpData := { addr := addr, reprocCount := reprocCount }
    have hgoing : job.Going := ⟨hcount, fun _ => rfl, fun _ _ => rfl⟩
    have hcome := hs.come (.pp job) (by simpa [job, bufs, owns] using hs.accounted.handed)
      (by simpa [job, jobs] using hs.accounted.mallocs.concat hfresh.1)
      (by simp [job, sources]) (by simp [job, bufs, owns])
    have hs' : Inv [.pp job] (s.malloc addr) := by
      simpa [job, bufs, owns, jobs, sources, PostProcessor.malloc] using hcome
    unfold addExtra
    dsimp only
    split
    · next q henqueue =>
      refine ih (hs'.queueOngoing hgoing henqueue) hnodup.2 fun a ha hmem => ?_
      -- the addresses that are left are not this one
      rcases mem_append.mp hmem with hmem | hmem
      · exact hfresh.2 a ha hmem
      · exact hnodup.1 (mem_singleton.mp hmem ▸ ha)
    · exact ⟨hs'.drop (fun h => by cases h), (Released.dropPP _ job).pc⟩

theorem goOn (hs : Inv [] s) (hidle : s.pc = .idle) :
    Inv [] { s with pc := .doReprocess job } := by
  refine hs.move ⟨rfl, rfl, rfl, rfl, rfl, rfl, rfl⟩ { Fewer.refl s with } fun o => ?_
  simp only [nil_append, PostProcessor.count_owners, hidle, Pc.image?]

theorem takeReprocess {r : Reprocess} (hs : Inv [] s) (hpc : s.pc = .reprocess)
    (hnodup : (r.extra.filterMap Prod.fst).Nodup)
    (hfresh : ∀ addr ∈ r.extra.filterMap Prod.fst, addr ∉ s.mallocs)
    (hplaced : r.validated = true → ∀ job, peek s.inputPPQ = some job → job.srcFrame.isSome →
      r.Placed s job) : Inv [] (s.takeReprocess r) := by
  have hidle : Inv [] { s with pc := .idle } := by
    refine hs.move ⟨rfl, rfl, rfl, rfl, rfl, rfl, rfl⟩ { Fewer.refl s with } fun o => ?_
    simp only [nil_append, PostProcessor.count_owners, hpc, Pc.image?]
  unfold PostProcessor.takeReprocess
  dsimp only
  split
  · exact hidle
  next hready =>
  split
  · exact hidle
  next job q hdequeue =>
  obtain ⟨-, hitems, -⟩ := Queue.dequeue_some hdequeue
  have hpeek : peek s.inputPPQ = some job := by rw [peek_eq, hdequeue]
  rw [hpeek] at hready
  simp only [bind_some, Bool.or_eq_true, isNone_iff_eq_none, Bool.not_eq_true',
    not_or, Bool.not_eq_false] at hready
  have hsrc : job.srcFrame.isSome := isSome_iff_ne_none.mpr hready.1
  obtain ⟨hreproc, hroom, hpath⟩ := hplaced hready.2 job hpeek hsrc
  have hwaiting := hs.passes.input job (by simp [hitems])
  have hhand : Inv [.pp job] { s with pc := .idle, inputPPQ := q } := by
    refine hidle.move ⟨rfl, rfl, rfl, rfl, rfl, rfl, rfl⟩
      { Fewer.refl s with input := fun job' hjob => by simp [hitems, hjob] } fun o => ?_
    simp only [nil_append, count_append, count_cons, count_nil,
      PostProcessor.count_owners, hitems, map_cons]
    omega
  rw [if_neg (by simp [hready.1, isSome_iff_ne_none.mp hreproc]), if_neg (Nat.not_le.mpr hroom)]
  split
  · next hchannel =>
    have hgoing : PpData.Going { job with reprocCount := job.reprocCount + 1 } := {
      begun := Nat.succ_ne_zero _
      first := fun h => hwaiting.mpr (by simpa using h)
      later := fun h h' => absurd (hwaiting.mp h') (by simpa [Nat.pos_iff_ne_zero] using h) }
    have hbegun : Inv [.pp { job with reprocCount := job.reprocCount + 1 }]
        { s with pc := .idle, inputPPQ := q, bufCountPPQ := s.bufCountPPQ + 1 } := by
      have htrade := hhand.trade [_] [] [.pp { job with reprocCount := job.reprocCount + 1 }]
        (fun b => rfl) (fun a => rfl) (fun o ho => by
          obtain rfl := mem_singleton.mp ho
          exact hhand.accounted.sound (.pp job) (mem_cons_self ..))
      exact htrade.move ⟨rfl, rfl, rfl, rfl, rfl, rfl, rfl⟩ { Fewer.refl _ with } fun _ => rfl
    split
    · next henqueue =>
      -- with a channel, the queue is what fails
      refine hbegun.drop (hpath.resolve_left fun h => enqueue_eq_none henqueue ⟨h.2.2, h.2.1⟩)
    · next q' henqueue =>
      have hongoing := hbegun.queueOngoing hgoing henqueue
      split
      · obtain ⟨hextra, hpc'⟩ := hongoing.addExtra (Nat.succ_ne_zero job.reprocCount) r.extra hnodup
          hfresh
        split
        · exact hextra.goOn hpc'
        · exact hextra
      · exact hongoing.goOn rfl
  · next hchannel => exact hhand.drop (hpath.resolve_left fun h => hchannel h.1)

theorem doReprocess (hs : Inv [] s) (hpc : s.pc = .doReprocess job) :
    Inv [] (s.doReprocess job true) := by
  refine hs.move ⟨rfl, rfl, rfl, rfl, rfl, rfl, rfl⟩ { Fewer.refl s with } fun o => ?_
  simp only [nil_append, PostProcessor.count_owners, PostProcessor.doReprocess, hpc,
    Pc.image?, if_true]

theorem step {op : PostOp} (hs : Inv [] s) (hstep : op.OrderlyStep s t) : Inv [] t := by
  obtain ⟨⟨hfresh, hexec⟩, horderly⟩ := hstep
  cases op with
  | addChannel chId =>
    obtain rfl := some.inj hexec
    exact hs.channels _ fun o ho b hb =>
      (hs.accounted.known o ho b hb).imp_right fun h => mem_cons_of_mem _ h
  | delChannel chId =>
    obtain rfl := some.inj hexec
    refine hs.channels _ fun o ho b hb => ?_
    -- what is of the channel has not to be returned
    by_cases hch : b.chId = chId
    · exact .inl (horderly o ho b hb hch)
    · exact (hs.accounted.known o ho b hb).imp_right fun h => by simp [h, hch]
  | processData frame mode malloc node =>
    obtain rfl := some.inj hexec
    have hnew := hfresh.frames frame (mem_singleton_self _)
    cases mode with
    | raw => exact hs.processRawData hnew horderly node
    | reprocess regular =>
      cases malloc with
      | none => exact hs
      | some addr =>
        have haddr := hfresh.jobs.2 addr (mem_singleton_self _)
        cases regular with
        | true => exact hs.processData_reprocess hnew haddr (fun _ => horderly rfl) (by simp)
        | false => exact hs.processData_reprocess hnew haddr (by simp) fun _ => horderly rfl
    | jpeg =>
      cases malloc with
      | none => exact hs
      | some addr =>
        exact hs.processData_jpeg hnew (hfresh.jobs.2 addr (mem_singleton_self _))
          (horderly rfl) node
  | processRawData frame node =>
    obtain rfl := some.inj hexec
    exact hs.processRawData (hfresh.frames frame (mem_singleton_self _)) horderly node
  | processPPData frame pass malloc =>
    obtain rfl := some.inj hexec
    obtain ⟨hch, job, hjob, hfound⟩ := horderly
    exact hs.processPPData (hfresh.frames frame (mem_singleton_self _)) hch
      (fun addr haddr => hfresh.jobs.2 addr (mem_toList.mpr haddr)) hjob hfound
  | land o node =>
    refine hs.land hexec fun job hjob => ?_
    subst hjob
    exact horderly
  | jpegEvent jobId =>
    obtain rfl := some.inj hexec
    exact hs.jpegEvent jobId
  | releaseSaveJobData jobId =>
    obtain rfl := some.inj hexec
    exact hs.releaseSaveJobData jobId
  | releaseNotifyData b =>
    change s.releaseNotifyData b = some t at hexec
    unfold PostProcessor.releaseNotifyData at hexec
    split at hexec
    · next hnotify =>
      obtain rfl := some.inj hexec
      exact hs.releaseNotifyData hnotify
    · cases hexec
  | startDataProc =>
    obtain ⟨-, ⟨⟩⟩ := ite_none_right_eq_some.mp hexec
    exact hs.startDataProc
  | stopDataProc =>
    obtain ⟨-, ⟨⟩⟩ := ite_none_right_eq_some.mp hexec
    exact hs.stopDataProc horderly
  | doNextJob =>
    obtain ⟨hidle, ⟨⟩⟩ := ite_none_right_eq_some.mp hexec
    exact hs.doNextJob hidle horderly
  | takeJpeg node =>
    obtain ⟨hpc, ⟨⟩⟩ := ite_none_right_eq_some.mp hexec
    exact hs.takeJpeg hpc node
  | encodeData jobId =>
    dsimp only [PostOp.exec] at hexec
    split at hexec
    · next job hpc =>
      obtain rfl := some.inj hexec
      exact hs.encodeData hpc jobId fun hnone => by
        subst hnone
        exact horderly job hpc
    · cases hexec
  | takeRaw =>
    obtain ⟨hpc, ⟨⟩⟩ := ite_none_right_eq_some.mp hexec
    exact hs.takeRaw hpc
  | rawImage image =>
    dsimp only [PostOp.exec] at hexec
    split at hexec
    · next b hpc =>
      obtain rfl := some.inj hexec
      exact hs.rawImage hpc horderly
    · cases hexec
  | takeReprocess r =>
    obtain ⟨hpc, ⟨⟩⟩ := ite_none_right_eq_some.mp hexec
    exact hs.takeReprocess hpc hfresh.jobs.1 hfresh.jobs.2 horderly
  | doReprocess ok =>
    dsimp only [PostOp.exec] at hexec
    split at hexec
    · next job hpc =>
      obtain rfl := some.inj hexec
      obtain rfl : ok = true := horderly
      exact hs.doReprocess hpc
    · cases hexec

end Inv

theorem Inv.initial : Inv [] ({} : PostProcessor) where
  accounted := {
    bufs := Owned.nil _
    jobs := Owned.nil _
    handed := nodup_nil
    mallocs := nodup_nil
    returned := fun _ => by simp
    regular := List.Subset.refl _
    sound := fun o ho => absurd ho not_mem_nil
    known := fun o ho => absurd ho not_mem_nil }
  passes := {
    input := fun job hjob => absurd hjob not_mem_nil
    landing := fun job hjob => absurd hjob not_mem_nil
    ongoing := fun job hjob => absurd hjob not_mem_nil
    encoding := rfl }

/-- **Super buffers are conserved in a run of orderly steps**: in each state that is reached each
one that came in has one owner, or was freed once and returned as it has to be, and no job is in two
places or in a queue after it was freed. -/
theorem hal1_post_conserves {ops : List PostOp} {s : PostProcessor}
    (h : Run PostOp.OrderlyStep ops {} s) : Conserved s :=
  (h.invariant (I := Inv []) (fun _ _ _ hstep hs => hs.step hstep) .initial).accounted.conserved

theorem PostOp.Fresh.quiet {op : PostOp} (hjobs : op.jobMallocs = []) (hframes : op.frames = [])
    (hextra : ∀ r, op = .takeReprocess r → r.extra.length = r.numberOut - r.numberIn) :
    op.Fresh s where
  jobs := by simp [hjobs]
  frames := by simp [hframes]
  extra := hextra

/-- A single pass of a capture that is not a regular one: a frame comes in and is handed to the
channel. -/
def onePass (ok : Bool) : List PostOp := [.addChannel 1, .startDataProc,
  .processData ⟨1, 1⟩ (.reprocess false) (some 10) true, .doNextJob, .takeJpeg true, .takeRaw,
  .takeReprocess {
    validated := true
    ppChannelCount := 1
    channel := true
    regular := false
    node := true
    numberIn := 1
    numberOut := 1
    extra := [] },
  .doReprocess ok]

/-- A frame is reprocessed, and is encoded with the frame that it was made of. -/
theorem hal1_post_conserves_one_pass : ∃ s,
    Run PostOp.OrderlyStep (onePass true ++ [.processPPData ⟨2, 1⟩ ⟨false, false, 1, false, false⟩
      (some 11), .land (.jpeg ⟨11, some ⟨2, 1⟩, some ⟨1, 1⟩, false⟩) true]) {} s ∧
      s.inputJpegQ.items.length = 1 ∧ Conserved s := by
  have hrun : ∃ s, Run PostOp.OrderlyStep (onePass true ++ [.processPPData ⟨2, 1⟩
      ⟨false, false, 1, false, false⟩ (some 11),
      .land (.jpeg ⟨11, some ⟨2, 1⟩, some ⟨1, 1⟩, false⟩) true]) {} s ∧
      s.inputJpegQ.items.length = 1 := by
    refine ⟨_, .cons ⟨⟨.quiet rfl rfl nofun, rfl⟩, trivial⟩
      (.cons ⟨⟨.quiet rfl rfl nofun, rfl⟩, trivial⟩
      (.cons ⟨⟨⟨⟨nodup_singleton _, fun _ _ => not_mem_nil⟩,
        fun _ _ => not_mem_nil, nofun⟩, rfl⟩, fun _ => mem_singleton_self _⟩
      (.cons ⟨⟨.quiet rfl rfl nofun, rfl⟩, fun h => absurd rfl h⟩
      (.cons ⟨⟨.quiet rfl rfl nofun, rfl⟩, trivial⟩ (.cons ⟨⟨.quiet rfl rfl nofun, rfl⟩, trivial⟩
      (.cons ⟨⟨.quiet rfl rfl fun r h => by cases h; rfl, rfl⟩, fun _ job hjob _ => ?_⟩
      (.cons ⟨⟨.quiet rfl rfl nofun, rfl⟩, rfl⟩
      (.cons ⟨⟨⟨⟨nodup_singleton _, ?_⟩, ?_, nofun⟩, rfl⟩, mem_singleton_self _, _, rfl, ?_⟩
      (.one ⟨⟨.quiet rfl rfl nofun, rfl⟩, trivial⟩))))))))), rfl⟩
    · obtain rfl := some.inj hjob
      exact ⟨rfl, by decide, .inl ⟨rfl, rfl, rfl⟩⟩
    · decide
    · decide
    · exact ⟨.inr ⟨rfl, rfl⟩, fun _ => rfl⟩
  obtain ⟨s, hrun, hlength⟩ := hrun
  exact ⟨s, hrun, hlength, hal1_post_conserves hrun⟩

/-- Where the channel refuses the frame, the job is released and freed, and is still ongoing: its
super buffer is freed and has an owner. -/
theorem hal1_post_frees_ongoing_job : ∃ s, Run PostOp.Step (onePass false) {} s ∧
    10 ∈ s.freedJobs ∧ 10 ∈ s.owners.flatMap Owner.jobs ∧ ⟨1, 1⟩ ∈ s.freed ∧
      ⟨1, 1⟩ ∈ s.owners.flatMap Owner.bufs ∧ ¬Conserved s := by
  refine ⟨_, .cons ⟨.quiet rfl rfl nofun, rfl⟩ (.cons ⟨.quiet rfl rfl nofun, rfl⟩
    (.cons ⟨⟨⟨nodup_singleton _, fun _ _ => not_mem_nil⟩,
      fun _ _ => not_mem_nil, nofun⟩, rfl⟩ (.cons ⟨.quiet rfl rfl nofun, rfl⟩
    (.cons ⟨.quiet rfl rfl nofun, rfl⟩ (.cons ⟨.quiet rfl rfl nofun, rfl⟩
    (.cons ⟨.quiet rfl rfl fun r h => by cases h; rfl, rfl⟩
    (.one ⟨.quiet rfl rfl nofun, rfl⟩))))))), mem_singleton_self _, mem_singleton_self _,
    mem_singleton_self _, mem_singleton_self _, fun ht => ?_⟩
  exact ht.live 10 (mem_singleton_self _) (mem_singleton_self _)

end Hal1Post
