import MidoCamera.Hal3.Atomicity
import MidoCamera.Hal3.Effects
import MidoCamera.Library.Run

/-!
# The counter of live requests

`mPendingLiveRequest` is to be the number of pending requests without an input buffer. A live
request enters the list long before it is counted, and a call that fails between the two leaves it
uncounted, as does one made during a flush; a restart of the sensor drops requests and keeps the
counter; and the result of a reprocess request whose metadata arrives is taken off the counter.
When such a request is finished the counter can wrap.
-/

namespace Hal3

open MmCamera (incU32 decU32 incU32_mod decU32_iterate_mod)
open Loop List HardwareInterface

def liveIn (is : List PendingRequest) : ℕ := is.countP fun i => i.inputBuffer.isNone

def HardwareInterface.liveCount (s : HardwareInterface) : ℕ := liveIn s.mPendingRequestsList

/-- The requests that a metadata buffer takes off the counter: all live ones up to its frame
number, and a reprocess request of this very number. -/
def takenOff (n : ℕ) (is : List PendingRequest) : ℕ :=
  (is.takeWhile (·.frameNumber ≤ n)).countP fun i => i.inputBuffer.isNone || i.frameNumber == n

/-- How often a metadata buffer takes one off the counter. -/
def HardwareInterface.decrements (md : MetadataBuffer) (s : HardwareInterface) : ℕ :=
  if s.ignoresMetadata then 0 else md.finalFrame.elim 0 fun n => takenOff n s.mPendingRequestsList

/-- The metadata of a frame. -/
def metadataOf (frameNumber : ℕ) : MetadataBuffer :=
  { frameNumberValid := some 1
    frameNumber := some frameNumber
    sensorTimestamp := some 0
    urgentFrameNumberValid := some 0
    urgentFrameNumber := some 0
    frameDropped := none }

/-- **A run in which the counter wraps**: a request fails after it is recorded, so it is pending but
not counted; the metadata of its frame takes it off the counter. -/
theorem inFlight_wraps :
    ∃ t u, Run (Op.Step previewStream) [.request (channelReturns (-1)) (previewRequest 1)]
        (.configured 0 6) t ∧ t.mPendingLiveRequest = 0 ∧ t.liveCount = 1 ∧
      Run (Op.Step previewStream) [.metadata 0 true (metadataOf 1)] t u ∧
        u.mPendingLiveRequest = 2 ^ 32 - 1 ∧ u.liveCount = 0 :=
  ⟨_, _, .one rfl, rfl, rfl, .one rfl, rfl, rfl⟩

/-- A call gets to where the sensor is restarted and the request recorded. -/
def Proceeds (streams : Streams) (env : RequestEnv) (req : CaptureRequest)
    (s : HardwareInterface) : Prop :=
  ValidCall streams req s ∧ s.mFlushPerf = false ∧ ¬FailsEarly streams env req s

/-- The errors for all that is pending leave no live request in the list. -/
def DropsAllLive (s : HardwareInterface) : Prop :=
  ∀ i ∈ s.mPendingRequestsList.drop s.dropCount, i.inputBuffer.isSome = true

/-- The errors for all that is pending take no live request out of the list. -/
def DropsNoLive (s : HardwareInterface) : Prop :=
  ∀ i ∈ s.mPendingRequestsList.take s.dropCount, i.inputBuffer.isSome = true

/-- **The condition on a request**: a flush for a device error leaves no live request; a restart of
the sensor drops none; and a live request that is recorded is made outside a flush and taken by the
channels. -/
structure RequestCond (streams : Streams) (env : RequestEnv) (req : CaptureRequest)
    (s : HardwareInterface) : Prop where
  error : s.mState = .error → env.deviceError.GoesOn → DropsAllLive s
  restart : Proceeds streams env req s → SensorRestarts streams env req s → DropsNoLive s
  live : Proceeds streams env req s → ¬RestartFails streams env req s → req.inputBuffer = none →
    s.mFlush = false ∧ Taken streams env req

/-- **The condition on a metadata buffer**: it is not that of a reprocess request. -/
def MetadataCond (md : MetadataBuffer) (s : HardwareInterface) : Prop :=
  ∀ n, md.finalFrame = some n → ∀ i ∈ s.mPendingRequestsList.takeWhile (·.frameNumber ≤ n),
    i.frameNumber = n → i.inputBuffer = none

/-- **The condition on a step.** A flush is to leave no live request in the list. -/
def Op.Cond (streams : Streams) : Op → HardwareInterface → Prop
  | .request env req, s => RequestCond streams env req s
  | .metadata _ _ md, s => MetadataCond md s
  | .flushBegin env, s => s.mState = .error → env.GoesOn → DropsAllLive s
  | .flushEnd env, s => s.mFlush = true → env.GoesOn → DropsAllLive s
  | .flushPerfEnd rc, s => rc = 0 → DropsAllLive s
  | _, _ => True

def Op.CleanStep (streams : Streams) (op : Op) (s t : HardwareInterface) : Prop :=
  op.Cond streams s ∧ op.Step streams s t

/-! ## What the steps do to the count -/

/-- **The counter follows the list**, as far as a `uint32_t` can; and before the streams are started
there is no live request. -/
structure Counted (s : HardwareInterface) : Prop where
  counter : s.mPendingLiveRequest = s.liveCount % 2 ^ 32
  configured : s.mState = .configured → s.liveCount = 0

section

variable {streams : Streams} {env : RequestEnv} {req : CaptureRequest} {n : ℕ}
  {i : PendingRequest} {is js : List PendingRequest} {s t u : HardwareInterface}

theorem Counted.of_eq (h : Counted s) (counter : t.mPendingLiveRequest = s.mPendingLiveRequest)
    (count : t.liveCount = s.liveCount) (state : t.mState = .configured → s.mState = .configured) :
    Counted t :=
  ⟨by rw [counter, count, h.counter], fun hc => count.trans (h.configured (state hc))⟩

theorem Counted.zero (counter : t.mPendingLiveRequest = 0) (count : t.liveCount = 0) :
    Counted t :=
  ⟨by rw [counter, count, Nat.zero_mod], fun _ => count⟩

theorem liveIn_append (is js : List PendingRequest) : liveIn (is ++ js) = liveIn is + liveIn js :=
  countP_append

theorem liveIn_eq_zero (h : ∀ i ∈ is, i.inputBuffer.isSome = true) : liveIn is = 0 := by
  refine countP_eq_zero.mpr fun i hi => ?_
  obtain ⟨b, hb⟩ := Option.isSome_iff_exists.mp (h i hi)
  simp [hb]

theorem liveIn_core (h : is.map PendingRequest.core = js.map PendingRequest.core) :
    liveIn is = liveIn js := by
  have hc := congrArg (countP fun c : PendingRequest.Core => c.inputBuffer.isNone) h
  rwa [countP_map, countP_map] at hc

theorem takeWhile_core (h : is.map PendingRequest.core = js.map PendingRequest.core) (n : ℕ) :
    (is.takeWhile (·.frameNumber ≤ n)).map PendingRequest.core =
      (js.takeWhile (·.frameNumber ≤ n)).map PendingRequest.core := by
  have hc := congrArg (takeWhile fun c : PendingRequest.Core => c.frameNumber ≤ n) h
  rwa [takeWhile_map, takeWhile_map] at hc

theorem takenOff_core (h : is.map PendingRequest.core = js.map PendingRequest.core) (n : ℕ) :
    takenOff n is = takenOff n js := by
  have hc := congrArg (countP fun c : PendingRequest.Core =>
    c.inputBuffer.isNone || c.frameNumber == n) (takeWhile_core h n)
  rwa [countP_map, countP_map] at hc

theorem Refreshed.liveCount (h : Refreshed s t) : t.liveCount = s.liveCount := liveIn_core h.list

theorem liveIn_recorded (flags : List Bool) (h : i.inputBuffer = req.inputBuffer) :
    liveIn (is ++ [i.setNeedMetadata flags]) =
      liveIn is + if req.inputBuffer.isSome then 0 else 1 := by
  have hin : (i.setNeedMetadata flags).inputBuffer = req.inputBuffer := h
  rw [liveIn_append]
  cases hreq : req.inputBuffer with
  | none | some b => simp [liveIn, hin, hreq]

theorem Dropped.liveCount (h : Dropped s t) :
    liveIn (s.mPendingRequestsList.take s.dropCount) + t.liveCount = s.liveCount := by
  have hsplit := liveIn_append (s.mPendingRequestsList.take s.dropCount)
    (s.mPendingRequestsList.drop s.dropCount)
  rw [take_append_drop] at hsplit
  rw [HardwareInterface.liveCount, h.list]
  exact hsplit.symm

theorem Dropped.liveCount_eq (h : Dropped s t) (hno : DropsNoLive s) :
    t.liveCount = s.liveCount := by
  rw [← h.liveCount, liveIn_eq_zero hno, Nat.zero_add]

theorem Dropped.liveCount_zero (h : Dropped s t) (hall : DropsAllLive s) : t.liveCount = 0 := by
  rw [HardwareInterface.liveCount, h.list]
  exact liveIn_eq_zero hall

theorem FlushStep.counted {env : FlushEnv} (h : FlushStep env s t) (hi : Counted s)
    (hall : env.GoesOn → DropsAllLive s) : Counted t := by
  cases h with
  | stopped _ => exact hi
  | dropped goesOn dropped =>
    exact .zero dropped.live (dropped.liveCount_zero (hall goesOn))

/-- The loop takes the live requests up to its frame number out of the list, and takes off the
counter what it finishes. -/
theorem FlushSteps.counts (h : FlushSteps n is s js t) :
    liveIn js + liveIn (is.takeWhile (·.frameNumber ≤ n)) = liveIn is ∧
      t.mPendingLiveRequest = decU32^[takenOff n is] s.mPendingLiveRequest ∧
      t.mState = s.mState := by
  induction h with
  | nil s => exact ⟨rfl, rfl, rfl⟩
  | later is s frame =>
    unfold takenOff
    rw [takeWhile_cons_of_neg (by simpa using frame)]
    exact ⟨rfl, rfl, rfl⟩
  | @passed i i' is js s t u frame input core reported rest ih =>
    obtain ⟨hlive, hcounter, hstate⟩ := ih
    obtain ⟨b, hb⟩ := Option.isSome_iff_exists.mp input
    have hin : i'.inputBuffer = some b := (congrArg PendingRequest.Core.inputBuffer core).trans hb
    unfold takenOff
    rw [takeWhile_cons_of_pos (by simpa using frame.le),
      countP_cons_of_neg (by simpa [hb] using frame.ne)]
    refine ⟨?_, hcounter.trans (congrArg _ reported.live), hstate.trans reported.state⟩
    simpa [liveIn, hb, hin] using hlive
  | @finished i i' is js s t u v frame input core reported finished rest ih =>
    obtain ⟨hlive, hcounter, hstate⟩ := ih
    have hoff : i.inputBuffer.isNone = true ∨ i.frameNumber = n := by
      rcases frame.lt_or_eq with hlt | heq
      · exact .inl (by rw [input hlt]; rfl)
      · exact .inr heq
    unfold takenOff
    rw [takeWhile_cons_of_pos (by simpa using frame), countP_cons_of_pos (by simpa using hoff)]
    refine ⟨?_, ?_, hstate.trans (finished.state.trans reported.state)⟩
    · simp only [liveIn, countP_cons] at hlive ⊢
      omega
    · rw [hcounter, finished.live, reported.live]
      exact (Function.iterate_succ_apply ..).symm

/-! ## Metadata -/

section Metadata

variable {md : MetadataBuffer}

theorem MetadataStep.counter (h : MetadataStep md s t) :
    t.mPendingLiveRequest = decU32^[s.decrements md] s.mPendingLiveRequest := by
  unfold decrements
  cases h with
  | ignored idle => rw [if_pos idle, Function.iterate_zero_apply]
  | refreshed frame refreshed =>
    rw [frame, Option.elim_none, ite_self, Function.iterate_zero_apply]
    exact refreshed.live
  | flushed active frame before steps after =>
    rw [if_neg active, frame, Option.elim_some, ← takenOff_core before.list, ← before.live]
    exact after.live.trans steps.counts.2.1

theorem metadataCond_of_live (h : ∀ i ∈ s.mPendingRequestsList, i.inputBuffer = none) :
    MetadataCond md s :=
  fun _ _ i hi _ => h i ((takeWhile_sublist _).mem hi)

theorem MetadataCond.takenOff (h : MetadataCond md s) (frame : md.finalFrame = some n) :
    takenOff n s.mPendingRequestsList =
      liveIn (s.mPendingRequestsList.takeWhile (·.frameNumber ≤ n)) := by
  refine countP_congr fun i hi => ?_
  have hin := h n frame i hi
  simpa using hin

theorem MetadataCond.decrements_le (h : MetadataCond md s) : s.decrements md ≤ s.liveCount := by
  unfold decrements
  split_ifs
  · exact Nat.zero_le _
  cases frame : md.finalFrame with
  | none => exact Nat.zero_le _
  | some n =>
    rw [Option.elim_some, h.takenOff frame]
    exact (List.takeWhile_prefix _).sublist.countP_le

/-- **A metadata buffer keeps the invariant** when it is not that of a reprocess request: what it
takes off the counter leaves the list. -/
theorem MetadataStep.counted (h : MetadataStep md s t) (hi : Counted s) (hc : MetadataCond md s) :
    Counted t := by
  cases h with
  | ignored idle => exact hi
  | refreshed frame refreshed =>
    exact hi.of_eq refreshed.live refreshed.liveCount fun hs => refreshed.state.symm.trans hs
  | @flushed u w _ n is active frame before steps after =>
    obtain ⟨hlive, hcounter, hstate⟩ := steps.counts
    have hoff : Hal3.takenOff n u.mPendingRequestsList =
        liveIn (u.mPendingRequestsList.takeWhile (·.frameNumber ≤ n)) := by
      rw [takenOff_core before.list, hc.takenOff frame]
      exact (liveIn_core (takeWhile_core before.list n)).symm
    have hsum : t.liveCount + Hal3.takenOff n u.mPendingRequestsList = s.liveCount := by
      rw [after.liveCount, hoff, ← before.liveCount]
      exact hlive
    refine ⟨?_, fun hconf => ?_⟩
    · rw [after.live, hcounter, before.live, hi.counter, ← hsum]
      exact decU32_iterate_mod _ _
    · have hs : s.mState = .configured := by
        rw [← before.state, ← hstate, ← hconf]
        exact after.state.symm
      have h0 := hi.configured hs
      omega

end Metadata

/-! ## Buffers -/

theorem liveIn_eraseP {frameNumber : ℕ}
    (found : is.find? (·.frameNumber == frameNumber) = some i)
    (input : i.inputBuffer.isSome = true) :
    liveIn (is.eraseP (·.frameNumber == frameNumber)) = liveIn is := by
  induction is with
  | nil => rfl
  | cons j is ih =>
    cases hj : j.frameNumber == frameNumber with
    | true =>
      rw [find?_cons, hj] at found
      cases found
      obtain ⟨b, hb⟩ := Option.isSome_iff_exists.mp input
      rw [eraseP_cons, hj]
      simp [liveIn, hb]
    | false =>
      rw [find?_cons, hj] at found
      have hrest := ih found
      rw [eraseP_cons, hj]
      simp only [liveIn, cond_false, countP_cons] at hrest ⊢
      rw [hrest]

theorem liveIn_cacheBuffer (b : StreamBuffer) (frameNumber : ℕ) (is : List PendingRequest) :
    liveIn (cacheBuffer b frameNumber is) = liveIn is := by
  induction is with
  | nil => rfl
  | cons i is ih =>
    unfold cacheBuffer
    split_ifs
    · simp only [liveIn, countP_cons]
    · simp only [liveIn, countP_cons] at ih ⊢
      rw [ih]

theorem handleBuffer_counted {b : StreamBuffer} {frameNumber : ℕ}
    (h : BufferStep b frameNumber s t) (hi : Counted s) : Counted t := by
  cases h with
  | ignored _ => exact hi
  | counted num _ => exact hi.of_eq rfl rfl id
  | givenBack _ back =>
    exact hi.of_eq back.live (congrArg liveIn back.list) fun hs => back.state.symm.trans hs
  | @reprocessed i now found input =>
    have hframe : i.frameNumber = frameNumber := by simpa using find?_some found
    refine hi.of_eq rfl ?_ id
    show liveIn (s.mPendingRequestsList.eraseP (·.frameNumber == i.frameNumber)) = _
    rw [hframe]
    exact liveIn_eraseP found input
  | cached found input => exact hi.of_eq rfl (liveIn_cacheBuffer ..) id

theorem handleInputBuffer_counted (now : ℤ) (frameNumber : ℕ) (hi : Counted s) :
    Counted (handleInputBufferWithLock now frameNumber s) := by
  unfold handleInputBufferWithLock
  cases found : s.mPendingRequestsList.find? (·.frameNumber == frameNumber) with
  | none => exact hi
  | some i =>
    dsimp only
    split_ifs with hin
    all_goals first
      | exact hi.of_eq rfl (liveIn_eraseP found hin) id
      | exact hi

/-! ## Requests -/

theorem Prepared.counted (h : Prepared s t) (hlive : t.mPendingLiveRequest = s.liveAfterStart env)
    (hi : Counted s) : Counted t := by
  have hcount : t.liveCount = s.liveCount := congrArg liveIn h.list
  unfold liveAfterStart at hlive
  by_cases hs : s.streamsStart env
  · rw [if_pos hs] at hlive
    exact .zero hlive (hcount.trans (hi.configured hs.1))
  · rw [if_neg hs] at hlive
    exact hi.of_eq hlive hcount fun hc => h.state.symm.trans hc

theorem Prepared.dropsNoLive (h : Prepared s t) (hno : DropsNoLive s) : DropsNoLive t := by
  have hcount : t.dropCount = s.dropCount := by
    unfold dropCount oldestFrame
    rw [h.list, h.map]
  unfold DropsNoLive
  rwa [h.list, hcount]

theorem Dropped.counted (h : Dropped s t) (hno : DropsNoLive s) (hi : Counted s) : Counted t :=
  hi.of_eq h.live (h.liveCount_eq hno) fun hs => h.state.symm.trans hs

/-- **A request keeps the invariant** when, once it is recorded as live, the channels take it. -/
theorem RequestStep.counted {rc : ℤ} (h : RequestStep streams env req s rc t)
    (call : ValidCall streams req s) (hi : Counted s) (hc : RequestCond streams env req s) :
    Counted t := by
  have hkeep := prepare_keeps streams env req s
  cases h with
  | refused early =>
    rw [early] at hkeep
    exact hkeep.1.counted hkeep.2 hi
  | restartFailed prepared due code dropped =>
    rw [prepared] at hkeep
    obtain ⟨hpass, hdue⟩ := prepare_passes prepared
    have hno := hc.restart ⟨call, (prepare_ok prepared).2, hpass⟩ (hdue.mp due)
    exact dropped.counted (hkeep.1.dropsNoLive hno) (hkeep.1.counted hkeep.2 hi)
  | @recorded u v w _ _ i prepared restarted recorded issued =>
    rw [prepared] at hkeep
    obtain ⟨hpass, hdue⟩ := prepare_passes prepared
    have hproceeds : Proceeds streams env req s := ⟨call, (prepare_ok prepared).2, hpass⟩
    have hu : Counted u := hkeep.1.counted hkeep.2 hi
    -- the restart of the sensor, if there is one, drops no live request
    have hv : Counted v ∧ v.mFlush = s.mFlush ∧ ¬RestartFails streams env req s := by
      cases restarted with
      | steady due => exact ⟨hu, hkeep.1.flush, fun hf => due (hdue.mpr hf.1)⟩
      | restarted due code dropped =>
        have hno := hkeep.1.dropsNoLive (hc.restart hproceeds (hdue.mp due))
        have hd := dropped.counted hno hu
        exact ⟨hd.of_eq rfl rfl id, dropped.flush.trans hkeep.1.flush, fun hf => hf.2 code⟩
    obtain ⟨hv, hflush, hfails⟩ := hv
    cases hin : req.inputBuffer with
    | some b =>
      -- a reprocess request is not counted, however the call ends
      have hsome : req.inputBuffer.isSome = true := by rw [hin]; rfl
      obtain ⟨flags, hlist⟩ := issued.list recorded.list
      have hcount : t.liveCount = v.liveCount := by
        rw [HardwareInterface.liveCount, hlist, liveIn_recorded flags recorded.input, if_pos hsome]
        rfl
      cases issued with
      | flushed _ => exact hv.of_eq recorded.live hcount fun hs => recorded.state.symm.trans hs
      | failed _ _ _ _ _ live state =>
        exact hv.of_eq (live.trans recorded.live) hcount
          fun hs => (state.trans recorded.state).symm.trans hs
      | accepted _ _ _ _ live state =>
        rw [if_pos hsome] at live
        exact hv.of_eq (live.trans recorded.live) hcount fun hs => by rw [state] at hs; cases hs
    | none =>
      obtain ⟨hnoflush, htaken⟩ := hc.live hproceeds hfails hin
      have hwflush : w.mFlush = false := (recorded.flush.trans hflush).trans hnoflush
      cases issued with
      | flushed flush => rw [hwflush] at flush; cases flush
      | failed _ _ _ _ _ _ _ _ refused => exact absurd htaken (refused call.channels)
      | accepted flags _ _ list live state =>
        rw [hin] at live
        have hcount : t.liveCount = v.liveCount + 1 := by
          rw [HardwareInterface.liveCount, list, liveIn_recorded flags recorded.input, hin]
          rfl
        refine ⟨?_, fun hs => by rw [state] at hs; cases hs⟩
        rw [live, recorded.live, hv.counter, hcount]
        exact incU32_mod _

theorem handleCameraDeviceError_counted {env : FlushEnv}
    (h : handleCameraDeviceError env s = .ok t) (error : s.mState = .error) (hi : Counted s)
    (hall : env.GoesOn → DropsAllLive s) : Counted t := by
  obtain ⟨u, hu, rfl⟩ := handleCameraDeviceError_step h error
  have hs : Counted (flushBegin s) := hi.of_eq rfl rfl id
  exact (hu.counted hs hall).of_eq rfl rfl fun hd => nomatch hd

/-- **One step that meets the condition keeps the invariant.** -/
theorem Op.CleanStep.counted {op : Op} (h : op.CleanStep streams s t) (hi : Counted s) :
    Counted t := by
  obtain ⟨hc, h⟩ := h
  cases Op.outcome h with
  | requestError error ends => exact handleCameraDeviceError_counted ends error hi (hc.error error)
  | requestInvalid | flushIdle | flushOff | perfOff => exact hi
  | request call step => exact step.counted call hi hc
  | metadata timeOffset first md =>
    exact (handleMetadata_step streams timeOffset first md s).counted hi hc
  | buffer now b frameNumber =>
    exact handleBuffer_counted (handleBuffer_step streams now b frameNumber s) hi
  | inputBuffer now frameNumber => exact handleInputBuffer_counted now frameNumber hi
  | flushBegun | perfBegun | perfFailed => exact hi.of_eq rfl rfl id
  | flushError error ends => exact handleCameraDeviceError_counted ends error hi (hc error)
  | flushEnded flush step => exact step.counted hi (hc flush)
  | perfEnded dropped => exact .zero rfl (dropped.liveCount_zero (hc rfl))
  | daemonDied => exact hi.of_eq rfl rfl fun hs => nomatch hs

/-- **The counter of live requests.** In every state that a run from the configuration reaches whose
steps meet the condition, the counter is the number of pending requests without an input buffer, as
far as a `uint32_t` can hold it; and a metadata buffer that meets the condition takes no more off
the counter than there is. -/
theorem inFlight_counted {batchSize minInFlight : ℕ} {ops : List Op}
    (run : Run (Op.CleanStep streams) ops (.configured batchSize minInFlight) t) :
    t.mPendingLiveRequest = t.liveCount % 2 ^ 32 ∧
      (t.liveCount < 2 ^ 32 → t.mPendingLiveRequest = t.liveCount ∧
        ∀ md, MetadataCond md t → t.decrements md ≤ t.mPendingLiveRequest ∧
          ∀ timeOffset first,
            (handleMetadataWithLock streams timeOffset first md t).mPendingLiveRequest =
              t.mPendingLiveRequest - t.decrements md) := by
  have ht : Counted t :=
    run.invariant (fun _ _ _ hstep hi => hstep.counted hi) (.zero rfl rfl)
  refine ⟨ht.counter, fun hlt => ?_⟩
  have hcount : t.mPendingLiveRequest = t.liveCount := by
    rw [ht.counter, Nat.mod_eq_of_lt hlt]
  refine ⟨hcount, fun md hc => ?_⟩
  have hle := hc.decrements_le
  refine ⟨hcount ▸ hle, fun timeOffset first => ?_⟩
  rw [(handleMetadata_step streams timeOffset first md t).counter, hcount]
  have hsub := decU32_iterate_mod (t.liveCount - t.decrements md) (t.decrements md)
  rw [Nat.sub_add_cancel hle, Nat.mod_eq_of_lt hlt] at hsub
  rw [hsub]
  exact Nat.mod_eq_of_lt (lt_of_le_of_lt (Nat.sub_le _ _) hlt)

end

theorem previewRequest_cond (frameNumber : ℕ) {s : HardwareInterface} (flush : s.mFlush = false)
    (state : s.mState ≠ .error) (restart : s.mNeedSensorRestart = false) :
    RequestCond previewStream (channelReturns 0) (previewRequest frameNumber) s := by
  have htaken : Taken previewStream (channelReturns 0) (previewRequest frameNumber) :=
    ⟨(nomatch ·), fun _ _ => le_rfl, zero_le_one⟩
  exact ⟨fun hs => absurd hs state,
    fun _ hr => absurd hr (previewRequest_steady 0 frameNumber restart),
    fun _ _ _ => ⟨flush, htaken⟩⟩

/-- Two requests, of which the first is finished. -/
theorem inFlight_counted_twoRequests :
    ∃ t, Run (Op.CleanStep previewStream)
        [.request (channelReturns 0) (previewRequest 1),
          .request (channelReturns 0) (previewRequest 2), .metadata 0 true (metadataOf 1)]
        (.configured 0 6) t ∧
      t.liveCount = 1 ∧ t.mPendingLiveRequest = t.liveCount % 2 ^ 32 := by
  obtain ⟨t, run, hcount⟩ : ∃ t, Run (Op.CleanStep previewStream)
      [.request (channelReturns 0) (previewRequest 1),
        .request (channelReturns 0) (previewRequest 2), .metadata 0 true (metadataOf 1)]
      (.configured 0 6) t ∧ t.liveCount = 1 := by
    refine ⟨_, .cons ⟨?_, rfl⟩ (.cons ⟨?_, rfl⟩ (.one ⟨?_, rfl⟩)), ?_⟩
    · exact previewRequest_cond 1 rfl (by decide) rfl
    · exact previewRequest_cond 2 rfl (by decide) rfl
    · exact metadataCond_of_live (by decide +kernel)
    · decide +kernel
  exact ⟨t, run, hcount, (inFlight_counted run).1⟩

end Hal3
