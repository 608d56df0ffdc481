import MidoCamera.Hal3.Atomicity
import MidoCamera.Hal3.BatchExpansion
import MidoCamera.Library.Run
import Mathlib.Data.Set.Card

/-!
# The map of the batches

When the parameters of a batch go to the backend, `processCaptureRequest` enters the last frame of
the batch in `mPendingBatchMap`, and `handleBatchMetadata` looks it up for the urgent frame number
and for the frame number, which may come in different metadata buffers, and takes it out with the
frame number. Outside batch mode each frame is a batch; its entry is made, but metadata takes another
way there.

A batch is told by its last frame, so what is outstanding counts each batch once.
-/

namespace Hal3

open Loop List Option

/-! ## Batches and reports -/

/-- The interface, with the numbers of the requests so far, the last frames of the batches that have
been submitted, and those that metadata has reported as frame and as urgent frame. -/
structure Batches where
  hal : HardwareInterface
  frames : List ℕ
  submitted : List ℕ
  normal : List ℕ
  urgent : List ℕ

def Batches.start (batchSize minInFlight : ℕ) : Batches :=
  ⟨.configured batchSize minInFlight, [], [], [], []⟩

/-- The last frames of the batches whose metadata is outstanding. -/
def Batches.outstanding (s : Batches) : List ℕ := s.submitted.filter (· ∉ s.normal)

def Batches.keys (s : Batches) : Set ℕ := {n | (s.hal.mPendingBatchMap n).isSome = true}

/-- Metadata that can arrive: the frames it reports are the last ones of batches that have been
submitted, and each is reported once as frame and once as urgent frame. -/
structure Batches.Allows (s : Batches) (md : MetadataBuffer) : Prop where
  normal : ∀ n ∈ md.finalFrame, n ∈ s.submitted ∧ n ∉ s.normal
  urgent : ∀ n ∈ md.urgentFrame, n ∈ s.submitted ∧ n ∉ s.urgent

/-- What metadata reports. -/
def Batches.report (s : Batches) (md : MetadataBuffer) (hal : HardwareInterface) : Batches :=
  { s with
    hal := hal
    normal := s.normal ++ md.finalFrame.toList
    urgent := s.urgent ++ md.urgentFrame.toList }

/-- What happens: a request, metadata that arrives, or anything else, which includes each time that
metadata is handed on in batch mode. -/
inductive BatchOp
  | request (env : RequestEnv) (req : CaptureRequest)
  | arrive (timeOffset : ℤ) (md : MetadataBuffer)
  | other (op : Op)

/-- **A step**: a request has a new number, and submits the batch that ends with it if it enters it
in the map; metadata is looked up in batch mode, and handled at once outside. -/
inductive Batches.Step (streams : Streams) : BatchOp → Batches → Batches → Prop
  | request {env : RequestEnv} {req : CaptureRequest} {s : Batches} {h : HardwareInterface}
      (next : ∀ n ∈ s.frames, n < req.frameNumber)
      (step : (Op.request env req).Step streams s.hal h) :
      Step streams (.request env req) s { s with
        hal := h
        frames := s.frames ++ [req.frameNumber]
        submitted := s.submitted ++
          if (h.mPendingBatchMap req.frameNumber).isSome then [req.frameNumber] else [] }
  | batch {timeOffset : ℤ} {md : MetadataBuffer} {s : Batches} {b : Batch} (allows : s.Allows md)
      (mode : s.hal.mBatchSize ≠ 0) (read : readBatch md s.hal = some b) :
      Step streams (.arrive timeOffset md) s (s.report md (removeBatch md b s.hal))
  | single {timeOffset : ℤ} {md : MetadataBuffer} {s : Batches} (allows : s.Allows md)
      (mode : s.hal.mBatchSize = 0) :
      Step streams (.arrive timeOffset md) s
        (s.report md (handleMetadataWithLock streams timeOffset false md s.hal))
  | other {op : Op} {s : Batches} {h : HardwareInterface} (noRequest : ∀ env req, op ≠ .request env req)
      (step : op.Step streams s.hal h) : Step streams (.other op) s { s with hal := h }

/-- **The condition**: an urgent frame number is not reported after its batch has been reported, and
the frame number of a batch is reported in batch mode. -/
structure MetadataBuffer.InOrder (md : MetadataBuffer) (s : Batches) : Prop where
  urgent : ∀ n ∈ md.urgentFrame, n ∉ s.normal
  mode : md.finalFrame.isSome = true → s.hal.mBatchSize ≠ 0

/-- A step whose metadata meets the condition. -/
def Batches.OrderedStep (streams : Streams) (op : BatchOp) (s t : Batches) : Prop :=
  (∀ timeOffset md, op = .arrive timeOffset md → md.InOrder s) ∧ Batches.Step streams op s t

/-- Metadata that reports a frame, an urgent frame, or none where these are zero. -/
def reporting (normal urgent : ℕ) : MetadataBuffer :=
  ⟨some normal, some normal, some 1, some urgent, some urgent, none⟩

/-- **A lookup that fails**: the urgent frame number of a batch arrives after the frame number. -/
theorem batchMap_missed : ∃ s,
    Run (Batches.Step previewStream)
      [.request (channelReturns 0) (previewRequest 1), .arrive 0 (reporting 1 0)] (.start 4 6) s ∧
    s.Allows (reporting 0 1) ∧ readBatch (reporting 0 1) s.hal = none := by
  refine ⟨_, .cons (.request ?_ rfl) (.one (.batch ⟨?_, ?_⟩ ?_ rfl)), ⟨?_, ?_⟩, ?_⟩
  all_goals decide

/-! ## Who writes the map -/

section

variable {streams : Streams} {env : RequestEnv} {req : CaptureRequest} {md : MetadataBuffer}
  {b : Batch} {s t : HardwareInterface} {rc : ℤ}

theorem sendResult_batch (streams : Streams) (n : ℕ) (τ : ℤ) (first : Bool) (i : PendingRequest)
    (s : HardwareInterface) :
    (s.sendResult streams n τ first i).mPendingBatchMap = s.mPendingBatchMap := by
  obtain ⟨c, result, bufs, d, -, -, -, heq⟩ := sendResult_eq streams n τ first i s
  rw [heq]

theorem reportDropped_batch (streams : Streams) (dropped : Option (List ℕ)) (i : PendingRequest)
    (s : HardwareInterface) :
    (s.reportDropped streams dropped i).mPendingBatchMap = s.mPendingBatchMap := by
  unfold HardwareInterface.reportDropped
  cases dropped with
  | none => rfl
  | some ids => rfl

theorem flushOut_batch (streams : Streams) (n : ℕ) (τ : ℤ) (dropped : Option (List ℕ))
    (first : Bool) (is : List PendingRequest) (s : HardwareInterface) :
    (flushOut streams n τ dropped first is s).2.mPendingBatchMap = s.mPendingBatchMap := by
  induction is generalizing s with
  | nil => rfl
  | cons i is ih =>
    unfold flushOut
    by_cases hle : i.frameNumber ≤ n
    · rw [if_pos hle]
      dsimp only
      by_cases hpass : i.frameNumber < n ∧ i.inputBuffer.isSome = true
      · rw [if_pos hpass]
        exact (ih _).trans (reportDropped_batch ..)
      · rw [if_neg hpass]
        exact (ih _).trans ((sendResult_batch ..).trans (reportDropped_batch ..))
    · rw [if_neg hle]

theorem handleMetadata_batch (streams : Streams) (timeOffset : ℤ) (first : Bool)
    (md : MetadataBuffer) (s : HardwareInterface) :
    (handleMetadataWithLock streams timeOffset first md s).mPendingBatchMap =
      s.mPendingBatchMap := by
  unfold handleMetadataWithLock
  split_ifs
  · rfl
  split
  · rename_i urgentValid urgent _ _ _ _ _
    have hurgent : (if urgentValid ≠ 0 then s.sendUrgent urgent else s).mPendingBatchMap =
        s.mPendingBatchMap := by
      split_ifs
      · rfl
      · rfl
    dsimp only
    generalize (if urgentValid ≠ 0 then s.sendUrgent urgent else s) = u at hurgent ⊢
    split_ifs
    · exact hurgent
    · exact (flushOut_batch ..).trans hurgent
  · rfl

theorem handleBuffer_batch (streams : Streams) (now : ℤ) (c : StreamBuffer) (n : ℕ)
    (s : HardwareInterface) :
    (handleBufferWithLock streams now c n s).mPendingBatchMap = s.mPendingBatchMap := by
  unfold handleBufferWithLock
  split_ifs
  · rfl
  · unfold handleBuffersDuringFlushLock
    split_ifs
    · rfl
    · rfl
  · split
    · obtain ⟨-, d, hd⟩ := markDropped_spec streams n c s
      unfold HardwareInterface.returnBuffer
      simp only [hd]
      rfl
    · split_ifs
      · rfl
      · rfl

theorem handleInputBuffer_batch (now : ℤ) (n : ℕ) (s : HardwareInterface) :
    (handleInputBufferWithLock now n s).mPendingBatchMap = s.mPendingBatchMap := by
  unfold handleInputBufferWithLock
  split
  · rfl
  · rename_i i _
    by_cases hin : i.inputBuffer.isSome = true
    · rw [if_pos hin]
    · rw [if_neg hin]

theorem FlushStep.batch {env : FlushEnv} (h : FlushStep env s t) :
    t.mPendingBatchMap = s.mPendingBatchMap := by
  cases h with
  | stopped early => rfl
  | dropped goesOn dropped => exact dropped.batch

theorem handleCameraDeviceError_batch {env : FlushEnv} (h : handleCameraDeviceError env s = .ok t)
    (error : s.mState = .error) : t.mPendingBatchMap = s.mPendingBatchMap := by
  obtain ⟨u, hu, rfl⟩ := handleCameraDeviceError_step h error
  exact hu.batch

theorem other_batch {op : Op} (noRequest : ∀ env req, op ≠ .request env req)
    (h : op.Step streams s t) : t.mPendingBatchMap = s.mPendingBatchMap := by
  cases Op.outcome h with
  | requestError | requestInvalid | request => exact absurd rfl (noRequest _ _)
  | metadata timeOffset first md => exact handleMetadata_batch streams timeOffset first md s
  | buffer now c n => exact handleBuffer_batch streams now c n s
  | inputBuffer now n => exact handleInputBuffer_batch now n s
  | flushError error ends => exact handleCameraDeviceError_batch ends error
  | flushEnded flush step => exact step.batch
  | perfEnded dropped => exact dropped.batch
  | flushBegun | flushIdle | flushOff | perfBegun | perfFailed | perfOff | daemonDied => rfl

theorem issue_batch (h : issue streams env req s = (rc, t)) :
    t.mPendingBatchMap = s.mPendingBatchMap ∨ ∃ first,
      t.mPendingBatchMap = Function.update s.mPendingBatchMap req.frameNumber (some first) := by
  have hsend : ∀ u : HardwareInterface,
      (sendParameters streams req u).mPendingBatchMap = u.mPendingBatchMap ∨ ∃ first,
        (sendParameters streams req u).mPendingBatchMap =
          Function.update u.mPendingBatchMap req.frameNumber (some first) := by
    intro u
    unfold sendParameters
    split_ifs
    · exact .inr ⟨_, rfl⟩
    · exact .inl rfl
  have haccept : ∀ u : HardwareInterface, accept streams env req u = (rc, t) →
      t.mPendingBatchMap = u.mPendingBatchMap ∨ ∃ first,
        t.mPendingBatchMap = Function.update u.mPendingBatchMap req.frameNumber (some first) := by
    intro u hu
    unfold accept at hu
    obtain ⟨-, rfl⟩ := Prod.mk.inj hu
    dsimp only
    split_ifs
    · exact .inl rfl
    · exact hsend u
  unfold issue at h
  split_ifs at h
  · cases h
    exact .inl rfl
  · cases h
    exact .inl rfl
  · dsimp only at h
    split at h
    · cases h
      exact .inl rfl
    · split_ifs at h
      · cases h
        exact .inl rfl
      · have haccepted := haccept _ h
        exact haccepted

/-- **A request** enters no frame in the map but its own. -/
theorem request_batch (h : (Op.request env req).Step streams s t) :
    t.mPendingBatchMap = s.mPendingBatchMap ∨ ∃ first,
      t.mPendingBatchMap = Function.update s.mPendingBatchMap req.frameNumber (some first) := by
  obtain ⟨⟨rc, u⟩, hu, h⟩ := bind_eq_ok.mp h
  cases h
  cases processCaptureRequest_course hu with
  | ended error ends => exact .inl (handleCameraDeviceError_batch ends error)
  | refused prepared => exact .inl prepared.batch
  | restartFailed prepared notified =>
    exact .inl ((notifyError_dropped notified).batch.trans prepared.batch)
  | @issued v w _ _ prepared restart issued =>
    -- the restart of the sensor leaves the map alone
    have hw : w.mPendingBatchMap = s.mPendingBatchMap := by
      rcases restart with rfl | ⟨x, notified, rfl⟩
      · exact prepared.batch
      · exact (notifyError_dropped notified).batch.trans prepared.batch
    rw [← hw]
    have hentered := issue_batch issued
    exact hentered

end

/-- **The map agrees with what has been reported**: its keys are the last frames of the batches that
are outstanding. -/
structure Batches.Sound (s : Batches) : Prop where
  keys : ∀ n, (s.hal.mPendingBatchMap n).isSome = true ↔ n ∈ s.submitted ∧ n ∉ s.normal
  submitted : ∀ n ∈ s.submitted, n ∈ s.frames
  normal : ∀ n ∈ s.normal, n ∈ s.submitted

section

variable {streams : Streams} {env : RequestEnv} {req : CaptureRequest} {md : MetadataBuffer}
  {op : BatchOp} {b : Batch} {s t : Batches} {h : HardwareInterface}

theorem frameRange_isSome {valid : ℤ} {n : ℕ}
    (key : valid ≠ 0 → (h.mPendingBatchMap n).isSome = true) :
    ∃ r, frameRange valid n h = some r ∧ (r.isSome = true ↔ valid ≠ 0) := by
  unfold frameRange
  by_cases h0 : valid = 0
  · rw [if_pos h0]
    exact ⟨none, rfl, iff_of_false (by decide) (not_not.mpr h0)⟩
  · rw [if_neg h0]
    obtain ⟨first, hfirst⟩ := isSome_iff_exists.mp (key h0)
    rw [hfirst]
    exact ⟨_, rfl, iff_of_true rfl h0⟩

/-- **The lookups**: with its keys in the map a metadata buffer is read, and its frame is taken
out. -/
theorem readBatch_of_keys (normal : ∀ n ∈ md.finalFrame, (h.mPendingBatchMap n).isSome = true)
    (urgent : ∀ n ∈ md.urgentFrame, (h.mPendingBatchMap n).isSome = true) :
    ∃ b, readBatch md h = some b ∧ ∀ n, ((removeBatch md b h).mPendingBatchMap n).isSome = true ↔
      (h.mPendingBatchMap n).isSome = true ∧ n ∉ md.finalFrame := by
  by_cases missing : md.frameNumberValid = none ∨ md.frameNumber = none ∨
      md.sensorTimestamp = none ∨ md.urgentFrameNumberValid = none ∨ md.urgentFrameNumber = none
  · obtain ⟨-, hfinal, -⟩ := handedOn_incomplete 1 h missing
    refine ⟨⟨true, none, none, 0⟩, ?_, fun n => ?_⟩
    · unfold readBatch
      split
      · rename_i hv hn hτ huv hun
        simp [hv, hn, hτ, huv, hun] at missing
      · rfl
    · rw [hfinal]
      exact (and_iff_left (not_mem_none n)).symm
  simp only [not_or, ← ne_eq, ne_none_iff_exists'] at missing
  obtain ⟨⟨v, hv⟩, ⟨m, hm⟩, ⟨τ, hτ⟩, ⟨uv, huv⟩, ⟨un, hun⟩⟩ := missing
  have hcomplete : Complete md v m := ⟨hv, hm, hτ ▸ rfl, huv ▸ rfl, hun ▸ rfl⟩
  have hfinal := hcomplete.finalFrame
  have hurgent := hcomplete.urgentFrame huv hun
  obtain ⟨ru, hru, -⟩ := frameRange_isSome (h := h) fun h0 : uv ≠ 0 =>
    urgent un (hurgent.trans (if_neg h0))
  obtain ⟨rf, hrf, hvalid⟩ := frameRange_isSome (h := h) fun h0 : v ≠ 0 =>
    normal m (hfinal.trans (if_neg h0))
  refine ⟨⟨false, ru, rf, τ⟩, ?_, fun n => ?_⟩
  · unfold readBatch
    rw [hv, hm, hτ, huv, hun]
    dsimp only
    rw [hru, hrf]
    rfl
  · unfold removeBatch
    rw [hfinal, hm]
    by_cases h0 : v = 0
    · obtain rfl : rf = none := not_isSome_iff_eq_none.mp fun hs => hvalid.mp hs h0
      rw [if_pos h0]
      exact (and_iff_left (not_mem_none n)).symm
    · obtain ⟨r, rfl⟩ := isSome_iff_exists.mp (hvalid.mpr h0)
      rw [if_neg h0]
      dsimp only
      by_cases hn : n = m
      · rw [if_pos hn]
        exact iff_of_false (by decide) fun hkey => hkey.2 (hn ▸ rfl)
      · rw [if_neg hn]
        exact (and_iff_left fun hmem => hn (some.inj hmem).symm).symm

/-- **The lookups find their keys**, for metadata that can arrive and reports no urgent frame too
late. -/
theorem Batches.Sound.read (hs : s.Sound) (allows : s.Allows md)
    (urgent : ∀ n ∈ md.urgentFrame, n ∉ s.normal) :
    ∃ b, readBatch md s.hal = some b ∧
      ∀ n, ((removeBatch md b s.hal).mPendingBatchMap n).isSome = true ↔
        (s.hal.mPendingBatchMap n).isSome = true ∧ n ∉ md.finalFrame :=
  readBatch_of_keys (fun n hn => (hs.keys n).mpr (allows.normal n hn))
    fun n hn => (hs.keys n).mpr ⟨(allows.urgent n hn).1, urgent n hn⟩

theorem Batches.OrderedStep.sound (step : Batches.OrderedStep streams op s t) (hs : s.Sound) :
    t.Sound := by
  obtain ⟨inOrder, step⟩ := step
  cases step with
  | @request env req _ h next step =>
    -- the number is new, and so is its key
    have hnew : req.frameNumber ∉ s.submitted := fun hmem =>
      (next _ (hs.submitted _ hmem)).false
    have hnone : ¬(s.hal.mPendingBatchMap req.frameNumber).isSome = true := fun hkey =>
      hnew ((hs.keys _).mp hkey).1
    have hnormal : req.frameNumber ∉ s.normal := fun hmem => hnew (hs.normal _ hmem)
    rcases request_batch step with hmap | ⟨first, hmap⟩
    · rw [hmap, if_neg hnone, append_nil]
      refine ⟨fun n => hmap ▸ hs.keys n, fun n hn => ?_, hs.normal⟩
      exact mem_append_left _ (hs.submitted n hn)
    · have hkey : (h.mPendingBatchMap req.frameNumber).isSome = true := by
        rw [hmap, Function.update_self]
        rfl
      rw [if_pos hkey]
      refine ⟨fun n => ?_, fun n hn => ?_, fun n hn => mem_append_left _ (hs.normal n hn)⟩
      · show (h.mPendingBatchMap n).isSome = true ↔ n ∈ s.submitted ++ [req.frameNumber] ∧ n ∉ s.normal
        rw [mem_append, mem_singleton]
        by_cases hn : n = req.frameNumber
        · subst hn
          exact iff_of_true hkey ⟨.inr rfl, hnormal⟩
        · rw [hmap, Function.update_of_ne hn, or_iff_left hn]
          exact hs.keys n
      · rcases mem_append.mp hn with hn | hn
        · exact mem_append_left _ (hs.submitted n hn)
        · exact mem_append_right _ hn
  | @batch timeOffset md _ b allows mode read =>
    obtain ⟨b', hread, hkeys⟩ := hs.read allows (inOrder timeOffset md rfl).urgent
    obtain rfl := some.inj (read.symm.trans hread)
    refine ⟨fun n => ?_, hs.submitted, fun n hn => ?_⟩
    · refine (hkeys n).trans ?_
      rw [hs.keys n, and_assoc]
      refine and_congr_right fun _ => ?_
      show _ ↔ n ∉ s.normal ++ md.finalFrame.toList
      rw [mem_append, mem_toList, not_or]
      rfl
    · rcases mem_append.mp hn with hn | hn
      · exact hs.normal n hn
      · exact (allows.normal n (mem_toList.mp hn)).1
  | @single timeOffset md _ allows mode =>
    -- outside batch mode no frame is reported
    have hfinal : md.finalFrame = none := not_isSome_iff_eq_none.mp fun hsome =>
      (inOrder timeOffset md rfl).mode hsome mode
    have hnormal : (s.report md (handleMetadataWithLock streams timeOffset false md s.hal)).normal =
        s.normal := by
      unfold Batches.report
      rw [hfinal]
      exact append_nil _
    refine ⟨fun n => ?_, hs.submitted, fun n hn => hs.normal n (hnormal ▸ hn)⟩
    rw [hnormal]
    unfold Batches.report
    rw [handleMetadata_batch]
    exact hs.keys n
  | other noRequest step =>
    refine ⟨fun n => ?_, hs.submitted, hs.normal⟩
    rw [other_batch noRequest step]
    exact hs.keys n

theorem Batches.Sound.keys_encard_le (hs : s.Sound) : s.keys.encard ≤ s.outstanding.length := by
  have hkeys : s.keys = (s.outstanding.toFinset : Set ℕ) := by
    ext n
    rw [coe_toFinset]
    show (s.hal.mPendingBatchMap n).isSome = true ↔ n ∈ s.submitted.filter (· ∉ s.normal)
    rw [hs.keys n, mem_filter, decide_eq_true_eq]
  rw [hkeys, Set.encard_coe_eq_coe_finsetCard]
  exact_mod_cast toFinset_card_le s.outstanding

/-- **The map of the batches is sound**: after a run whose metadata meets the condition, each lookup
for metadata that meets it finds its key, and there are no more entries than batches that are
outstanding. -/
theorem batchMap_sound {batchSize minInFlight : ℕ} {ops : List BatchOp}
    (run : Run (Batches.OrderedStep streams) ops (.start batchSize minInFlight) s) :
    (∀ md, s.Allows md → md.InOrder s → (readBatch md s.hal).isSome = true) ∧
      s.keys.encard ≤ s.outstanding.length := by
  have hs : s.Sound := by
    refine run.invariant (I := Batches.Sound) (fun _ _ _ step hi => step.sound hi) ?_
    exact ⟨fun n => iff_of_false Bool.false_ne_true fun h => absurd h.1 not_mem_nil,
      fun _ => (nomatch ·), fun _ => (nomatch ·)⟩
  refine ⟨fun md allows inOrder => ?_, hs.keys_encard_le⟩
  obtain ⟨b, hread, -⟩ := hs.read allows inOrder.urgent
  rw [hread]
  rfl

end

/-- A batch of one request, whose urgent frame number comes first. -/
theorem batchMap_sound_urgentFirst : ∃ s,
    Run (Batches.OrderedStep previewStream)
      [.request (channelReturns 0) (previewRequest 1), .arrive 0 (reporting 0 1)] (.start 4 6) s ∧
    (readBatch (reporting 1 0) s.hal).isSome = true ∧ s.keys.encard ≤ s.outstanding.length := by
  obtain ⟨s, run, hallows, hinOrder⟩ : ∃ s, Run (Batches.OrderedStep previewStream)
      [.request (channelReturns 0) (previewRequest 1), .arrive 0 (reporting 0 1)] (.start 4 6) s ∧
        s.Allows (reporting 1 0) ∧ (reporting 1 0).InOrder s := by
    refine ⟨_, .cons ⟨?_, .request ?_ rfl⟩ (.one ⟨?_, .batch ⟨?_, ?_⟩ ?_ rfl⟩), ⟨?_, ?_⟩, ?_, ?_⟩
    case refine_1 => exact fun _ _ => (nomatch ·)
    case refine_3 =>
      rintro _ _ ⟨⟩
      exact ⟨by decide, by decide⟩
    all_goals decide
  obtain ⟨hread, hkeys⟩ := batchMap_sound run
  exact ⟨s, run, hread _ hallows hinOrder, hkeys⟩

end Hal3
