import MidoCamera.Hal3.Inversion

/-!
# What the callbacks do to the account

Each callback of the channels is described once, by the entries that leave the account and by what
the framework is told.
-/

namespace Hal3

open List

open MmCamera (incU32 decU32)

/-! ## Entries -/

/-- What the account turns on in an entry: not its progress. -/
structure PendingRequest.Core where
  frameNumber : ℕ
  inputBuffer : Option StreamBuffer
  buffers : List RequestedBuffer

def PendingRequest.core (i : PendingRequest) : PendingRequest.Core :=
  ⟨i.frameNumber, i.inputBuffer, i.buffers⟩

def PendingRequest.cached (i : PendingRequest) : List StreamBuffer :=
  i.buffers.filterMap (·.buffer)

def StreamBuffer.item (b : StreamBuffer) : Stream × ℕ := (b.stream, b.buffer)

/-- The account has not changed but for the progress of its entries, and the framework has been
told nothing but partial results. -/
structure Refreshed (s t : HardwareInterface) : Prop where
  list : t.mPendingRequestsList.map PendingRequest.core =
    s.mPendingRequestsList.map PendingRequest.core
  map : t.mPendingBuffersMap = s.mPendingBuffersMap
  live : t.mPendingLiveRequest = s.mPendingLiveRequest
  state : t.mState = s.mState
  flush : t.mFlush = s.mFlush
  flushPerf : t.mFlushPerf = s.mFlushPerf
  callbacks : ∃ cs, t.callbacks = s.callbacks ++ cs ∧
    ∀ c ∈ cs, ∃ r, c = .captureResult r ∧ r.result = .urgent ∧ r.outputBuffers = []

theorem Refreshed.refl (s : HardwareInterface) : Refreshed s s :=
  ⟨rfl, rfl, rfl, rfl, rfl, rfl, [], (append_nil _).symm, fun _ h => nomatch h⟩

theorem urgentResult_spec (urgent : ℕ) (is : List PendingRequest) :
    (urgentResult urgent is).1.map PendingRequest.core = is.map PendingRequest.core ∧
      ∀ c ∈ (urgentResult urgent is).2,
        ∃ r, c = .captureResult r ∧ r.result = .urgent ∧ r.outputBuffers = [] := by
  induction is with
  | nil => exact ⟨rfl, fun _ h => nomatch h⟩
  | cons i is ih =>
    unfold urgentResult
    by_cases h : i.frameNumber = urgent ∧ i.bUrgentReceived = false
    · rw [if_pos h]
      refine ⟨rfl, fun c hc => ?_⟩
      cases hc
      exact ⟨_, rfl, rfl, rfl⟩
    · rw [if_neg h]
      exact ⟨congrArg (i.core :: ·) ih.1, ih.2⟩

theorem sendUrgent_refreshed (urgent : ℕ) (s : HardwareInterface) :
    Refreshed s (s.sendUrgent urgent) := by
  obtain ⟨hlist, hcall⟩ := urgentResult_spec urgent s.mPendingRequestsList
  refine ⟨hlist, rfl, rfl, rfl, rfl, rfl, _, rfl, fun c hc => hcall c ?_⟩
  exact Option.mem_toList.mp hc

theorem doneMetadata_refreshed (s : HardwareInterface) : Refreshed s s.doneMetadata := by
  refine ⟨?_, rfl, rfl, rfl, rfl, rfl, [], (append_nil _).symm, fun _ h => nomatch h⟩
  show (s.mPendingRequestsList.map _).map PendingRequest.core = _
  rw [map_map]
  rfl

/-! ## Final results -/

section

variable {streams : Streams} {n : ℕ} {τ : ℤ} {dropped : Option (List ℕ)} {first : Bool}
  {i : PendingRequest} {is : List PendingRequest} {s t : HardwareInterface}

theorem markDropped_spec (streams : Streams) (frameNumber : ℕ) (b : StreamBuffer)
    (s : HardwareInterface) :
    (s.markDropped streams frameNumber b).1.item = b.item ∧
      ∃ d, (s.markDropped streams frameNumber b).2 = { s with mPendingFrameDropList := d } := by
  unfold HardwareInterface.markDropped
  dsimp only
  split_ifs
  · exact ⟨rfl, _, rfl⟩
  · exact ⟨rfl, _, rfl⟩

theorem takeBuffers_spec (streams : Streams) (frameNumber : ℕ) (js : List RequestedBuffer)
    (s : HardwareInterface) :
    (takeBuffers streams frameNumber js s).1.map StreamBuffer.item =
        (js.filterMap (·.buffer)).map StreamBuffer.item ∧
      ∃ d, (takeBuffers streams frameNumber js s).2 = { s with
        mPendingBuffersMap := (js.filterMap (·.buffer)).foldl (fun m b => m.removeBuf b.buffer)
          s.mPendingBuffersMap
        mPendingFrameDropList := d } := by
  induction js generalizing s with
  | nil => exact ⟨rfl, _, rfl⟩
  | cons j js ih =>
    unfold takeBuffers
    cases hb : j.buffer with
    | none =>
      rw [filterMap_cons_none hb]
      exact ih s
    | some b =>
      rw [filterMap_cons_some hb]
      obtain ⟨hitem, d, hd⟩ := markDropped_spec streams frameNumber b s
      have hbuf : (s.markDropped streams frameNumber b).1.buffer = b.buffer :=
        congrArg Prod.snd hitem
      obtain ⟨hitems, d', hd'⟩ := ih { s with
        mPendingBuffersMap := s.mPendingBuffersMap.removeBuf b.buffer
        mPendingFrameDropList := d }
      simp only [hd, hbuf, map_cons, foldl_cons]
      exact ⟨congrArg₂ cons hitem hitems, d', hd'⟩

/-- What announces the final result of a frame: its shutter, or the error that there is no
metadata. -/
inductive Announces (frameNumber : ℕ) : Callback → Prop
  | shutter (timestamp : ℤ) : Announces frameNumber (.shutter frameNumber timestamp)
  | errorResult : Announces frameNumber (.error .result frameNumber none)

def ResultMetadata.isFinal : ResultMetadata → Bool
  | .dummy _ => true
  | .hal .. => true
  | _ => false

/-- A request has been given its final result, with the buffers that are kept with it. -/
structure Finished (i : PendingRequest) (s t : HardwareInterface) : Prop where
  list : t.mPendingRequestsList = s.mPendingRequestsList
  map : t.mPendingBuffersMap =
    i.cached.foldl (fun m b => m.removeBuf b.buffer) s.mPendingBuffersMap
  live : t.mPendingLiveRequest = decU32 s.mPendingLiveRequest
  state : t.mState = s.mState
  flush : t.mFlush = s.mFlush
  flushPerf : t.mFlushPerf = s.mFlushPerf
  callbacks : ∃ c r, t.callbacks = s.callbacks ++ [c, .captureResult r] ∧
    Announces i.frameNumber c ∧ r.result.isFinal = true ∧ r.frameNumber = i.frameNumber ∧
      r.outputBuffers.map StreamBuffer.item = i.cached.map StreamBuffer.item

theorem sendResult_takes (streams : Streams) (n : ℕ) (τ : ℤ) (first : Bool) (i : PendingRequest)
    (s : HardwareInterface) : ∃ c result, Announces i.frameNumber c ∧
      ResultMetadata.isFinal result = true ∧
      ∀ u : HardwareInterface, u = { s with
          mPendingLiveRequest := decU32 s.mPendingLiveRequest
          callbacks := s.callbacks ++ [c] } →
        s.sendResult streams n τ first i = (takeBuffers streams n i.buffers u).2.call
          (.captureResult
            { frameNumber := i.frameNumber
              result := result
              partialResult := i.partialResultCnt
              inputBuffer := i.inputBuffer
              outputBuffers := (takeBuffers streams n i.buffers u).1 }) := by
  unfold HardwareInterface.sendResult
  dsimp only
  by_cases h : i.frameNumber < n
  · simp only [if_pos h]
    refine ⟨.error .result i.frameNumber none, .dummy i.requestId, .errorResult, rfl, ?_⟩
    rintro _ rfl
    rfl
  · simp only [if_neg h]
    refine ⟨.shutter i.frameNumber τ, .hal τ i.requestId i.pipelineDepth i.captureIntent
      (i.buffers.any (·.needMetadata)) i.fwkCacMode first, .shutter τ, rfl, ?_⟩
    rintro _ rfl
    rfl

/-- A final result, in one piece: what is announced first, and the result with the buffers that are
kept with the request. -/
theorem sendResult_eq (streams : Streams) (n : ℕ) (τ : ℤ) (first : Bool) (i : PendingRequest)
    (s : HardwareInterface) : ∃ c result bufs d, Announces i.frameNumber c ∧
      ResultMetadata.isFinal result = true ∧
      bufs.map StreamBuffer.item = i.cached.map StreamBuffer.item ∧
      s.sendResult streams n τ first i = { s with
        mPendingBuffersMap :=
          i.cached.foldl (fun m b => m.removeBuf b.buffer) s.mPendingBuffersMap
        mPendingFrameDropList := d
        mPendingLiveRequest := decU32 s.mPendingLiveRequest
        callbacks := s.callbacks ++ [c, .captureResult
          { frameNumber := i.frameNumber
            result := result
            partialResult := i.partialResultCnt
            inputBuffer := i.inputBuffer
            outputBuffers := bufs }] } := by
  obtain ⟨c, result, hc, hfinal, htakes⟩ := sendResult_takes streams n τ first i s
  obtain ⟨u, hu⟩ : ∃ u : HardwareInterface, u = { s with
      mPendingLiveRequest := decU32 s.mPendingLiveRequest
      callbacks := s.callbacks ++ [c] } := ⟨_, rfl⟩
  obtain ⟨hitems, d, hd⟩ := takeBuffers_spec streams n i.buffers u
  refine ⟨c, result, (takeBuffers streams n i.buffers u).1, d, hc, hfinal, hitems, ?_⟩
  rw [htakes u hu, hd]
  subst hu
  simp only [HardwareInterface.call, append_assoc]
  rfl

theorem sendResult_finished (streams : Streams) (n : ℕ) (τ : ℤ) (first : Bool)
    (i : PendingRequest) (s : HardwareInterface) :
    Finished i s (s.sendResult streams n τ first i) := by
  obtain ⟨c, result, bufs, d, hc, hfinal, hbufs, heq⟩ := sendResult_eq streams n τ first i s
  rw [heq]
  exact ⟨rfl, rfl, rfl, rfl, rfl, rfl, c, _, rfl, hc, hfinal, rfl, hbufs⟩

/-- The buffers of a request have been reported as dropped. -/
structure Reported (s t : HardwareInterface) : Prop where
  list : t.mPendingRequestsList = s.mPendingRequestsList
  map : t.mPendingBuffersMap = s.mPendingBuffersMap
  live : t.mPendingLiveRequest = s.mPendingLiveRequest
  state : t.mState = s.mState
  flush : t.mFlush = s.mFlush
  flushPerf : t.mFlushPerf = s.mFlushPerf
  callbacks : ∃ cs, t.callbacks = s.callbacks ++ cs ∧
    ∀ c ∈ cs, ∃ f j, c = .error .buffer f (some j)

theorem reportDropped_reported (streams : Streams) (dropped : Option (List ℕ))
    (i : PendingRequest) (s : HardwareInterface) :
    Reported s (s.reportDropped streams dropped i) := by
  unfold HardwareInterface.reportDropped
  cases dropped with
  | none =>
    exact ⟨rfl, rfl, rfl, rfl, rfl, rfl, [], (append_nil _).symm, fun _ h => nomatch h⟩
  | some ids =>
    refine ⟨rfl, rfl, rfl, rfl, rfl, rfl, _, rfl, fun c hc => ?_⟩
    obtain ⟨j, -, rfl⟩ := mem_map.mp hc
    exact ⟨_, _, rfl⟩

/-- **The loop that flushes out the requests up to a frame number**, with what is left of the
list. -/
inductive FlushSteps (n : ℕ) :
    List PendingRequest → HardwareInterface → List PendingRequest → HardwareInterface → Prop
  | nil (s : HardwareInterface) : FlushSteps n [] s [] s
  | later {i : PendingRequest} (is : List PendingRequest) (s : HardwareInterface)
      (frame : n < i.frameNumber) : FlushSteps n (i :: is) s (i :: is) s
  | passed {i i' : PendingRequest} {is js : List PendingRequest} {s t u : HardwareInterface}
      (frame : i.frameNumber < n) (input : i.inputBuffer.isSome = true) (core : i'.core = i.core)
      (reported : Reported s t) (rest : FlushSteps n is t js u) :
      FlushSteps n (i :: is) s (i' :: js) u
  | finished {i i' : PendingRequest} {is js : List PendingRequest} {s t u v : HardwareInterface}
      (frame : i.frameNumber ≤ n) (input : i.frameNumber < n → i.inputBuffer = none)
      (core : i'.core = i.core) (reported : Reported s t) (finished : Finished i' t u)
      (rest : FlushSteps n is u js v) : FlushSteps n (i :: is) s js v

theorem flushOut_steps (streams : Streams) (n : ℕ) (τ : ℤ) (dropped : Option (List ℕ))
    (first : Bool) (is : List PendingRequest) (s : HardwareInterface) :
    FlushSteps n is s (flushOut streams n τ dropped first is s).1
      (flushOut streams n τ dropped first is s).2 := by
  induction is generalizing s with
  | nil => exact .nil s
  | cons i is ih =>
    unfold flushOut
    by_cases hle : i.frameNumber ≤ n
    · rw [if_pos hle]
      dsimp only
      by_cases hpass : i.frameNumber < n ∧ i.inputBuffer.isSome = true
      · rw [if_pos hpass]
        exact .passed hpass.1 hpass.2 rfl (reportDropped_reported ..) (ih _)
      · rw [if_neg hpass]
        have hlive : i.frameNumber < n → i.inputBuffer = none := by
          simpa using fun hlt hin => hpass ⟨hlt, hin⟩
        have hcore : ({ i with partialResultCnt := incU32 i.partialResultCnt } :
          PendingRequest).core = i.core := rfl
        exact .finished hle hlive hcore (reportDropped_reported ..)
          (sendResult_finished streams n τ first _ _) (ih _)
    · rw [if_neg hle]
      exact .later is s (not_le.mp hle)

/-! ## The callbacks -/

/-- The frame number up to which a metadata buffer flushes out the requests, if it does. -/
def MetadataBuffer.finalFrame (md : MetadataBuffer) : Option ℕ :=
  match md.frameNumberValid, md.frameNumber, md.sensorTimestamp, md.urgentFrameNumberValid,
    md.urgentFrameNumber with
  | some valid, some n, some _, some _, some _ => if valid = 0 then none else some n
  | _, _, _, _, _ => none

/-- No metadata is looked at, during a `flushPerf` and after an error. -/
def HardwareInterface.ignoresMetadata (s : HardwareInterface) : Prop :=
  s.mFlushPerf = true ∨ s.mState = .error ∨ s.mState = .deinit

instance (s : HardwareInterface) : Decidable s.ignoresMetadata :=
  inferInstanceAs (Decidable (_ ∨ _ ∨ _))

/-- **What a metadata buffer does**: nothing, after an error or during a `flushPerf`; or no more
than a partial result; or it flushes out the requests up to its frame number. -/
inductive MetadataStep (md : MetadataBuffer) (s : HardwareInterface) : HardwareInterface → Prop
  | ignored (idle : s.ignoresMetadata) : MetadataStep md s s
  | refreshed {t : HardwareInterface} (frame : md.finalFrame = none) (refreshed : Refreshed s t) :
      MetadataStep md s t
  | flushed {t u v : HardwareInterface} {n : ℕ} {is : List PendingRequest}
      (active : ¬s.ignoresMetadata) (frame : md.finalFrame = some n) (before : Refreshed s t)
      (steps : FlushSteps n t.mPendingRequestsList t is u)
      (after : Refreshed { u with mPendingRequestsList := is } v) : MetadataStep md s v

theorem Refreshed.trans (h : Refreshed s t) {u : HardwareInterface} (h' : Refreshed t u) :
    Refreshed s u := by
  obtain ⟨cs, hcs, hurgent⟩ := h.callbacks
  obtain ⟨cs', hcs', hurgent'⟩ := h'.callbacks
  refine ⟨h'.list.trans h.list, h'.map.trans h.map, h'.live.trans h.live, h'.state.trans h.state,
    h'.flush.trans h.flush, h'.flushPerf.trans h.flushPerf, cs ++ cs', ?_, fun c hc => ?_⟩
  · rw [hcs', hcs, append_assoc]
  · exact (mem_append.mp hc).elim (hurgent c) (hurgent' c)

/-- **Every metadata callback is one of these steps.** -/
theorem handleMetadata_step (streams : Streams) (timeOffset : ℤ) (first : Bool)
    (md : MetadataBuffer) (s : HardwareInterface) :
    MetadataStep md s (handleMetadataWithLock streams timeOffset first md s) := by
  unfold handleMetadataWithLock
  split_ifs with hidle
  · exact .ignored hidle
  split
  · rename_i valid frameNumber timestamp urgentValid urgent hv hn hts huv hu
    dsimp only
    -- the partial result, if there is one
    have hurgent : Refreshed s (if urgentValid ≠ 0 then s.sendUrgent urgent else s) := by
      split_ifs
      · exact sendUrgent_refreshed urgent s
      · exact .refl s
    generalize (if urgentValid ≠ 0 then s.sendUrgent urgent else s) = t at hurgent ⊢
    split_ifs with h0
    · refine .refreshed ?_ (hurgent.trans (doneMetadata_refreshed t))
      simp only [MetadataBuffer.finalFrame, hv, hn, hts, huv, hu, if_pos h0]
    · refine .flushed hidle ?_ hurgent (flushOut_steps streams frameNumber _ _ _ _ t)
        (doneMetadata_refreshed _)
      simp only [MetadataBuffer.finalFrame, hv, hn, hts, huv, hu, if_neg h0]
  · rename_i hmissing
    refine .refreshed ?_ (doneMetadata_refreshed s)
    unfold MetadataBuffer.finalFrame
    split
    · rename_i valid frameNumber timestamp urgentValid urgent hv hn hts huv hu
      exact absurd hu (hmissing valid frameNumber timestamp urgentValid urgent hv hn hts huv)
    · rfl

/-- A buffer has been given back by itself. -/
structure GivenBack (b : StreamBuffer) (frameNumber : ℕ) (s t : HardwareInterface) : Prop where
  list : t.mPendingRequestsList = s.mPendingRequestsList
  map : t.mPendingBuffersMap = s.mPendingBuffersMap.removeBuf b.buffer
  live : t.mPendingLiveRequest = s.mPendingLiveRequest
  state : t.mState = s.mState
  flush : t.mFlush = s.mFlush
  flushPerf : t.mFlushPerf = s.mFlushPerf
  callbacks : ∃ r, t.callbacks = s.callbacks ++ [.captureResult r] ∧ r.result = .null ∧
    r.frameNumber = frameNumber ∧ r.outputBuffers.map StreamBuffer.item = [b.item]

theorem returnBuffer_givenBack (streams : Streams) (b : StreamBuffer) (frameNumber : ℕ)
    (s : HardwareInterface) : GivenBack b frameNumber s (s.returnBuffer streams b frameNumber) := by
  obtain ⟨hitem, d, hd⟩ := markDropped_spec streams frameNumber b s
  have hbuf : (s.markDropped streams frameNumber b).1.buffer = b.buffer := congrArg Prod.snd hitem
  unfold HardwareInterface.returnBuffer
  simp only [hd, hbuf]
  exact ⟨rfl, rfl, rfl, rfl, rfl, rfl, _, rfl, rfl, rfl, congrArg ([·]) hitem⟩

/-- **What an image buffer does**: nothing, after an error; during a `flushPerf` it is only counted;
it is given back, completes a reprocess request, or is kept with its request. -/
inductive BufferStep (b : StreamBuffer) (frameNumber : ℕ) (s : HardwareInterface) :
    HardwareInterface → Prop
  | ignored (idle : s.mState = .error ∨ s.mState = .deinit) : BufferStep b frameNumber s s
  | counted (num : ℕ) (flushPerf : s.mFlushPerf = true) :
      BufferStep b frameNumber s { s with
        mPendingBuffersMap := { s.mPendingBuffersMap with numPendingBufsAtFlush := num } }
  | givenBack {t : HardwareInterface}
      (absent : s.mPendingRequestsList.find? (·.frameNumber == frameNumber) = none)
      (givenBack : GivenBack b frameNumber s t) : BufferStep b frameNumber s t
  | reprocessed {i : PendingRequest} (now : ℤ)
      (found : s.mPendingRequestsList.find? (·.frameNumber == frameNumber) = some i)
      (input : i.inputBuffer.isSome = true) :
      BufferStep b frameNumber s (s.reprocessResult b now i)
  | cached {i : PendingRequest}
      (found : s.mPendingRequestsList.find? (·.frameNumber == frameNumber) = some i)
      (input : i.inputBuffer = none) :
      BufferStep b frameNumber s { s with
        mPendingRequestsList := cacheBuffer b frameNumber s.mPendingRequestsList }

/-- **Every callback with an image buffer is one of these steps.** -/
theorem handleBuffer_step (streams : Streams) (now : ℤ) (b : StreamBuffer) (frameNumber : ℕ)
    (s : HardwareInterface) :
    BufferStep b frameNumber s (handleBufferWithLock streams now b frameNumber s) := by
  unfold handleBufferWithLock
  split_ifs with hidle hflush
  · exact .ignored hidle
  · unfold handleBuffersDuringFlushLock
    split_ifs
    · exact .counted _ hflush
    · exact .counted s.mPendingBuffersMap.numPendingBufsAtFlush hflush
  cases hfind : s.mPendingRequestsList.find? (·.frameNumber == frameNumber) with
  | none => exact .givenBack hfind (returnBuffer_givenBack streams b frameNumber s)
  | some i =>
    dsimp only
    split_ifs with hin
    · exact .reprocessed now hfind hin
    · exact .cached hfind (by simpa using hin)

end

end Hal3
