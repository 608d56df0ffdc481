import MidoCamera.Hal3.ErrorCompletion

/-!
# The interface and its traffic

The interface along any run, beside what passes between it and the other parties. The framework
numbers its requests in increasing order and asks for at most one buffer of a stream with each; a
channel calls back what it has been asked for, once. Nothing else is assumed: requests fail or are
refused, the sensor is restarted, the interface is flushed and ends.

A buffer that is called back during a `flushPerf` or after a device error is unheeded: neither kept
nor returned.
-/

namespace Hal3

open Loop List

/-! ## Entries -/

/-- What is kept with an entry: its streams, each with the buffer that is kept. -/
structure PendingRequest.Held where
  frameNumber : ℕ
  inputBuffer : Option StreamBuffer
  slots : List (Stream × Option StreamBuffer)

/-- What is kept with this entry. -/
def PendingRequest.Core.held (c : PendingRequest.Core) : PendingRequest.Held :=
  ⟨c.frameNumber, c.inputBuffer, c.buffers.map fun j => (j.stream, j.buffer)⟩

/-- Nothing is kept with the entry of a new request. -/
def CaptureRequest.held (req : CaptureRequest) : PendingRequest.Held :=
  ⟨req.frameNumber, req.inputBuffer, req.outputBuffers.map fun b => (b.stream, none)⟩

theorem cached_of_core {i j : PendingRequest} (h : i.core = j.core) : i.cached = j.cached :=
  congrArg (fun c => c.buffers.filterMap (·.buffer)) h

theorem mem_cached {i : PendingRequest} {b : StreamBuffer} :
    b ∈ i.cached ↔ ∃ j, (j, some b) ∈ i.core.held.slots := by
  unfold PendingRequest.cached PendingRequest.Core.held
  rw [mem_filterMap]
  constructor
  · rintro ⟨j, hj, hb⟩
    exact ⟨j.stream, mem_map.mpr ⟨j, hj, congrArg (Prod.mk _) hb⟩⟩
  · rintro ⟨j, hj⟩
    obtain ⟨k, hk, heq⟩ := mem_map.mp hj
    exact ⟨k, hk, congrArg Prod.snd heq⟩

/-! ## The traffic -/

/-- The interface, with the frame numbers and the output buffers of the requests it has been given,
the buffers that have been called back, as they came, and those of them that were left alone. -/
structure Traffic where
  hal : HardwareInterface
  frames : List ℕ
  issued : List Item
  called : List (ℕ × StreamBuffer)
  unheeded : List (ℕ × Stream)

def Traffic.start (batchSize minInFlight : ℕ) : Traffic :=
  ⟨.configured batchSize minInFlight, [], [], [], []⟩

def HardwareInterface.HeedsBuffers (s : HardwareInterface) : Prop :=
  s.mState ≠ .error ∧ s.mState ≠ .deinit ∧ s.mFlushPerf = false

instance (s : HardwareInterface) : Decidable s.HeedsBuffers :=
  inferInstanceAs (Decidable (_ ∧ _ ∧ _))

def Op.Internal : Op → Prop
  | .request .. => False
  | .buffer .. => False
  | _ => True

/-- **A step**, with the traffic it is. -/
inductive Traffic.Step (streams : Streams) : Op → Traffic → Traffic → Prop
  | request {env : RequestEnv} {req : CaptureRequest} {s : Traffic} {t : HardwareInterface}
      (next : ∀ f ∈ s.frames, f < req.frameNumber)
      (distinct : (req.outputBuffers.map StreamBuffer.stream).Nodup)
      (step : (Op.request env req).Step streams s.hal t) :
      Step streams (.request env req) s
        { s with
          hal := t
          frames := s.frames ++ [req.frameNumber]
          issued := s.issued ++ itemsOf req.frameNumber req.buffers }
  | buffer {s : Traffic} (now : ℤ) {b : StreamBuffer} {frameNumber : ℕ}
      (issued : ⟨frameNumber, b.stream, b.buffer⟩ ∈ s.issued)
      (once : ∀ p ∈ s.called, (p.1, p.2.stream) ≠ (frameNumber, b.stream)) :
      Step streams (.buffer now b frameNumber) s
        { s with
          hal := handleBufferWithLock streams now b frameNumber s.hal
          called := s.called ++ [(frameNumber, b)]
          unheeded := s.unheeded ++
            if s.hal.HeedsBuffers then [] else [(frameNumber, b.stream)] }
  | internal {op : Op} {s : Traffic} {t : HardwareInterface} (internal : op.Internal)
      (step : op.Step streams s.hal t) : Step streams op s { s with hal := t }

/-- **An entry agrees with the traffic**: it has the streams of its request, each once; what is kept
has come in for its stream; a reprocess request keeps nothing; and what has come in is kept, unless
it was left alone. -/
structure Traffic.Tracks (s : Traffic) (e : PendingRequest.Held) : Prop where
  frame : e.frameNumber ∈ s.frames
  streams : (e.slots.map Prod.fst).Nodup
  covers : ∀ a ∈ s.issued, a.frameNumber = e.frameNumber → a.stream ∈ e.slots.map Prod.fst
  asked : ∀ j ∈ e.slots.map Prod.fst, ∃ a ∈ s.issued, a.frameNumber = e.frameNumber ∧ a.stream = j
  reprocess : e.inputBuffer.isSome = true → ∀ p ∈ e.slots, p.2 = none
  cached : ∀ j b, (j, some b) ∈ e.slots → b.stream = j ∧ (e.frameNumber, b) ∈ s.called
  kept : ∀ b, (e.frameNumber, b) ∈ s.called → (e.frameNumber, b.stream) ∉ s.unheeded →
    e.inputBuffer = none ∧ (b.stream, some b) ∈ e.slots

/-- **The entries agree with the traffic**, and the traffic with itself. -/
structure Traffic.Sound (s : Traffic) : Prop where
  increasing : Increasing s.hal
  tracked : ∀ i ∈ s.hal.mPendingRequestsList, s.Tracks i.core.held
  mapFrames : ∀ f ∈ s.hal.mapFrames, f ∈ s.frames
  issued : ∀ a ∈ s.issued, a.frameNumber ∈ s.frames
  called : ∀ p ∈ s.called, ⟨p.1, p.2.stream, p.2.buffer⟩ ∈ s.issued

/-! ## What the operations leave of the entries -/

section

variable {streams : Streams} {env : RequestEnv} {req : CaptureRequest} {s t : HardwareInterface}
  {i : PendingRequest}

def HardwareInterface.held (s : HardwareInterface) : List PendingRequest.Held :=
  s.mPendingRequestsList.map fun i => i.core.held

theorem held_core (s : HardwareInterface) :
    s.held = (s.mPendingRequestsList.map PendingRequest.core).map PendingRequest.Core.held := by
  rw [map_map]
  rfl

theorem held_congr (h : t.mPendingRequestsList = s.mPendingRequestsList) : t.held = s.held := by
  unfold HardwareInterface.held
  rw [h]

theorem held_of_sublist (h : t.mPendingRequestsList.Sublist s.mPendingRequestsList) :
    t.held ⊆ s.held := (h.map _).subset

theorem Refreshed.held (hr : Refreshed s t) : t.held = s.held := by
  rw [held_core, held_core, hr.list]

theorem Dropped.held (hd : Dropped s t) : t.held ⊆ s.held := by
  apply held_of_sublist
  rw [hd.list]
  exact drop_sublist ..

theorem FlushStep.held {env : FlushEnv} (hf : FlushStep env s t) : t.held ⊆ s.held := by
  cases hf with
  | stopped => exact List.Subset.refl _
  | dropped _ dropped => exact dropped.held

theorem FlushSteps.core {n : ℕ} {is js : List PendingRequest} (hs : FlushSteps n is s js t) :
    js.map PendingRequest.core ⊆ is.map PendingRequest.core := by
  induction hs with
  | nil | later => exact List.Subset.refl _
  | passed _ _ core _ _ ih =>
    rw [map_cons, map_cons, core]
    exact cons_subset_cons _ ih
  | finished _ _ _ _ _ _ ih => exact List.Subset.trans ih (subset_cons_self ..)

theorem MetadataStep.held {md : MetadataBuffer} (hs : MetadataStep md s t) : t.held ⊆ s.held := by
  cases hs with
  | ignored => exact List.Subset.refl _
  | refreshed _ refreshed => exact refreshed.held ▸ List.Subset.refl _
  | @flushed u v _ n is _ _ before steps after =>
    rw [after.held, ← before.held, held_core, held_core]
    exact map_subset _ steps.core

theorem handleInputBuffer_held (now : ℤ) (n : ℕ) (s : HardwareInterface) :
    (handleInputBufferWithLock now n s).held ⊆ s.held := by
  unfold handleInputBufferWithLock
  split
  · exact List.Subset.refl _
  · rename_i i hfind
    by_cases hin : i.inputBuffer.isSome = true
    · rw [if_pos hin]
      exact held_of_sublist eraseP_sublist
    · rw [if_neg hin]
      exact List.Subset.refl _

theorem held_setNeedMetadata (flags : List Bool) (i : PendingRequest) :
    (i.setNeedMetadata flags).core.held = i.core.held := by
  refine congrArg (PendingRequest.Held.mk i.frameNumber i.inputBuffer) ?_
  show (i.buffers.mapIdx _).map _ = i.buffers.map _
  refine ext_getElem (by simp) fun k hk hk' => ?_
  simp

theorem Recorded.held (hr : Recorded req i s t) : i.core.held = req.held := by
  unfold PendingRequest.Core.held CaptureRequest.held
  show PendingRequest.Held.mk i.frameNumber i.inputBuffer (i.buffers.map _) = _
  rw [hr.frame, hr.input, hr.buffers, map_map]
  rfl

theorem RequestStep.held {rc : ℤ} (hs : RequestStep streams env req s rc t) :
    t.held ⊆ s.held ++ [req.held] := by
  have hkeep := prepare_keeps streams env req s
  have happend : s.held ⊆ s.held ++ [req.held] := subset_append_left ..
  cases hs with
  | refused early =>
    rw [early] at hkeep
    rw [held_congr hkeep.1.list]
    exact happend
  | restartFailed prepared due code dropped =>
    rw [prepared] at hkeep
    rw [← held_congr hkeep.1.list] at happend ⊢
    exact List.Subset.trans dropped.held happend
  | @recorded u v w _ _ i prepared restarted recorded issued =>
    rw [prepared] at hkeep
    have hv : v.held ⊆ s.held := by
      rw [← held_congr hkeep.1.list]
      cases restarted with
      | steady => exact List.Subset.refl _
      | restarted _ _ dropped => exact dropped.held
    obtain ⟨flags, hlist⟩ := issued.list recorded.list
    have ht : t.held = v.held ++ [req.held] := by
      unfold HardwareInterface.held
      rw [hlist, map_append, map_singleton, held_setNeedMetadata, recorded.held]
    rw [ht]
    exact append_subset.mpr ⟨List.Subset.trans hv happend, subset_append_right ..⟩

theorem handleCameraDeviceError_held {env : FlushEnv}
    (h : handleCameraDeviceError env s = .ok t) (error : s.mState = .error) : t.held ⊆ s.held := by
  obtain ⟨u, hu, rfl⟩ := handleCameraDeviceError_step h error
  exact hu.held

theorem requestStep_held (h : (Op.request env req).Step streams s t) :
    t.held ⊆ s.held ++ [req.held] := by
  have happend : s.held ⊆ s.held ++ [req.held] := subset_append_left ..
  cases Op.outcome h with
  | requestError error ends =>
    exact List.Subset.trans (handleCameraDeviceError_held ends error) happend
  | requestInvalid => exact happend
  | request _ step => exact step.held

theorem internalStep_held {op : Op} (internal : op.Internal) (h : op.Step streams s t) :
    t.held ⊆ s.held := by
  cases Op.outcome h with
  | requestError | requestInvalid | request | buffer => exact internal.elim
  | metadata timeOffset first md =>
    exact (handleMetadata_step streams timeOffset first md s).held
  | inputBuffer now frameNumber => exact handleInputBuffer_held now frameNumber s
  | flushError error ends => exact handleCameraDeviceError_held ends error
  | flushEnded _ step => exact step.held
  | perfEnded dropped => exact dropped.held
  | flushBegun | flushIdle | flushOff | perfBegun | perfFailed | perfOff | daemonDied =>
    exact List.Subset.refl s.held

end

section

variable {streams : Streams} {s t : Traffic} {op : Op} {e : PendingRequest.Held}

theorem Traffic.Sound.listFrames (hs : s.Sound) : ∀ f ∈ s.hal.listFrames, f ∈ s.frames := by
  intro f hf
  obtain ⟨i, hi, rfl⟩ := mem_map.mp hf
  exact (hs.tracked i hi).frame

theorem tracked_iff : (∀ i ∈ s.hal.mPendingRequestsList, t.Tracks i.core.held) ↔
    ∀ e ∈ s.hal.held, t.Tracks e := by
  unfold HardwareInterface.held
  rw [forall_mem_map]

theorem Traffic.Tracks.request {req : CaptureRequest} {h : HardwareInterface} (he : s.Tracks e)
    (next : ∀ f ∈ s.frames, f < req.frameNumber) :
    Traffic.Tracks ⟨h, s.frames ++ [req.frameNumber],
      s.issued ++ itemsOf req.frameNumber req.buffers, s.called, s.unheeded⟩ e where
  frame := mem_append_left _ he.frame
  streams := he.streams
  covers a ha hframe := by
    rcases mem_append.mp ha with ha | ha
    · exact he.covers a ha hframe
    · have hlt := next _ he.frame
      rw [← hframe, (mem_itemsOf.mp ha).1] at hlt
      exact absurd hlt (lt_irrefl _)
  asked j hj := by
    obtain ⟨a, ha, h⟩ := he.asked j hj
    exact ⟨a, mem_append_left _ ha, h⟩
  reprocess := he.reprocess
  cached := he.cached
  kept := he.kept

theorem Traffic.Sound.tracks_request {req : CaptureRequest} {h : HardwareInterface} (hs : s.Sound)
    (next : ∀ f ∈ s.frames, f < req.frameNumber)
    (distinct : (req.outputBuffers.map StreamBuffer.stream).Nodup) :
    Traffic.Tracks ⟨h, s.frames ++ [req.frameNumber],
      s.issued ++ itemsOf req.frameNumber req.buffers, s.called, s.unheeded⟩ req.held := by
  have hslots : req.held.slots.map Prod.fst = req.outputBuffers.map StreamBuffer.stream := by
    unfold CaptureRequest.held
    rw [map_map]
    rfl
  -- nothing of the new frame has been asked for or called back before
  have hnew : ∀ a ∈ s.issued, a.frameNumber ≠ req.frameNumber := fun a ha =>
    (next _ (hs.issued a ha)).ne
  refine ⟨mem_append_right _ (mem_singleton_self _), ?_, ?_, ?_, ?_, ?_, ?_⟩
  · rw [hslots]
    exact distinct
  · intro a ha hframe
    rcases mem_append.mp ha with ha | ha
    · exact absurd hframe (hnew a ha)
    · rw [hslots]
      obtain ⟨b, hb, heq⟩ := mem_map.mp (mem_itemsOf.mp ha).2
      exact mem_map.mpr ⟨b, hb, congrArg Prod.fst heq⟩
  · intro j hj
    rw [hslots] at hj
    obtain ⟨b, hb, rfl⟩ := mem_map.mp hj
    have hitem : (⟨req.frameNumber, b.stream, b.buffer⟩ : Item) ∈
        itemsOf req.frameNumber req.buffers := mem_itemsOf.mpr ⟨rfl, mem_map_of_mem hb⟩
    exact ⟨_, mem_append_right _ hitem, rfl, rfl⟩
  · intro _ p hp
    obtain ⟨b, -, rfl⟩ := mem_map.mp hp
    rfl
  · intro j b hb
    obtain ⟨b', -, heq⟩ := mem_map.mp hb
    cases heq
  · intro b hb
    exact absurd rfl (hnew _ (hs.called _ hb))

/-- A buffer comes in, and the interface is left in a state. -/
def Traffic.callBack (s : Traffic) (b : StreamBuffer) (frameNumber : ℕ) (h : HardwareInterface) :
    Traffic :=
  { s with
    hal := h
    called := s.called ++ [(frameNumber, b)]
    unheeded := s.unheeded ++ if s.hal.HeedsBuffers then [] else [(frameNumber, b.stream)] }

section CallBack

variable {b : StreamBuffer} {f : ℕ} {h : HardwareInterface}

/-- An entry that agrees with the traffic does so when a buffer of another frame comes in, or one
that is left alone. -/
theorem Traffic.Tracks.callBack (he : s.Tracks e) (other : e.frameNumber ≠ f ∨ ¬s.hal.HeedsBuffers) :
    (s.callBack b f h).Tracks e where
  frame := he.frame
  streams := he.streams
  covers := he.covers
  asked := he.asked
  reprocess := he.reprocess
  cached j c hc := (he.cached j c hc).imp_right (mem_append_left _)
  kept c hc hun := by
    have hun' : (e.frameNumber, c.stream) ∉ s.unheeded := fun hmem =>
      hun (mem_append_left _ hmem)
    rcases mem_append.mp hc with hc | hc
    · exact he.kept c hc hun'
    · obtain ⟨hf, rfl⟩ := Prod.mk.inj (mem_singleton.mp hc)
      refine absurd (mem_append_right _ ?_) hun
      rw [if_neg (other.resolve_left (not_not.mpr hf)), hf]
      exact mem_singleton_self _

/-- A buffer is kept for its stream, if there is none yet. -/
def PendingRequest.Held.put (b : StreamBuffer) (e : PendingRequest.Held) : PendingRequest.Held :=
  { e with slots := e.slots.map fun p =>
      if p.1 = b.stream ∧ p.2 = none then (p.1, some b) else p }

@[simp] theorem held_put_streams (b : StreamBuffer) (e : PendingRequest.Held) :
    (e.put b).slots.map Prod.fst = e.slots.map Prod.fst := by
  unfold PendingRequest.Held.put
  rw [map_map]
  refine map_congr_left fun p _ => ?_
  rw [Function.comp_apply]
  split_ifs
  · rfl
  · rfl

theorem Traffic.Tracks.put (he : s.Tracks e) (live : e.inputBuffer = none)
    (issued : ⟨e.frameNumber, b.stream, b.buffer⟩ ∈ s.issued)
    (once : ∀ p ∈ s.called, (p.1, p.2.stream) ≠ (e.frameNumber, b.stream)) :
    (s.callBack b e.frameNumber h).Tracks (e.put b) where
  frame := he.frame
  streams := by
    rw [held_put_streams]
    exact he.streams
  covers a ha hframe := by
    rw [held_put_streams]
    exact he.covers a ha hframe
  asked j hj := by
    rw [held_put_streams] at hj
    exact he.asked j hj
  reprocess hin := by
    have hnone : (e.put b).inputBuffer = none := live
    rw [hnone] at hin
    cases hin
  cached j c hc := by
    obtain ⟨p, hp, heq⟩ := mem_map.mp hc
    split_ifs at heq with hput
    · obtain ⟨rfl, hcb⟩ := Prod.mk.inj heq
      cases hcb
      exact ⟨hput.1.symm, mem_append_right _ (mem_singleton_self _)⟩
    · subst heq
      exact (he.cached j c hp).imp_right (mem_append_left _)
  kept c hc hun := by
    refine ⟨live, ?_⟩
    rcases mem_append.mp hc with hc | hc
    · -- what was kept before still is
      have hmem := (he.kept c hc fun hmem => hun (mem_append_left _ hmem)).2
      exact mem_map.mpr ⟨_, hmem, if_neg fun hp => nomatch hp.2⟩
    · obtain ⟨-, rfl⟩ := Prod.mk.inj (mem_singleton.mp hc)
      obtain ⟨⟨j, d⟩, hp, rfl⟩ := mem_map.mp (he.covers _ issued rfl)
      refine mem_map.mpr ⟨_, hp, if_pos ⟨rfl, ?_⟩⟩
      -- nothing has come in for its stream before
      cases d with
      | none => rfl
      | some d =>
        obtain ⟨hstream, hd⟩ := he.cached _ d hp
        exact absurd (congrArg (Prod.mk e.frameNumber) hstream) (once _ hd)

theorem held_cache (b : StreamBuffer) (i : PendingRequest) :
    ({ i with buffers := i.buffers.map (RequestedBuffer.cache b) } : PendingRequest).core.held =
      i.core.held.put b := by
  refine congrArg (PendingRequest.Held.mk i.frameNumber i.inputBuffer) ?_
  show (i.buffers.map (RequestedBuffer.cache b)).map _ = (i.buffers.map _).map _
  rw [map_map, map_map]
  refine map_congr_left fun j _ => ?_
  unfold RequestedBuffer.cache
  rw [Function.comp_apply, Function.comp_apply]
  split_ifs with hc
  · rw [hc.1]
  · rfl

theorem mem_cacheBuffer {is : List PendingRequest} {i' : PendingRequest}
    (nodup : (is.map PendingRequest.frameNumber).Nodup) (mem : i' ∈ cacheBuffer b f is) :
    i' ∈ is ∧ i'.frameNumber ≠ f ∨ ∃ i, is.find? (·.frameNumber == f) = some i ∧
      i'.core.held = i.core.held.put b := by
  induction is with
  | nil => cases mem
  | cons i is ih =>
    obtain ⟨hi, hrest⟩ := nodup_cons.mp nodup
    unfold cacheBuffer at mem
    by_cases hf : i.frameNumber = f
    · rw [if_pos hf] at mem
      rcases mem_cons.mp mem with rfl | hmem
      · refine .inr ⟨i, ?_, held_cache b i⟩
        rw [find?_cons_of_pos (by simpa using hf)]
      · refine .inl ⟨mem_cons_of_mem _ hmem, fun hf' => hi ?_⟩
        rw [hf, ← hf']
        exact mem_map_of_mem hmem
    · rw [if_neg hf] at mem
      rcases mem_cons.mp mem with rfl | hmem
      · exact .inl ⟨mem_cons_self, hf⟩
      · rw [find?_cons_of_neg (by simpa using hf)]
        exact (ih hrest hmem).imp_left (And.imp_left (mem_cons_of_mem _))

theorem ne_of_mem_eraseP {is : List PendingRequest} {i : PendingRequest}
    (nodup : (is.map PendingRequest.frameNumber).Nodup)
    (mem : i ∈ is.eraseP (·.frameNumber == f)) : i.frameNumber ≠ f := by
  induction is with
  | nil => cases mem
  | cons j is ih =>
    obtain ⟨hj, hrest⟩ := nodup_cons.mp nodup
    by_cases hf : j.frameNumber = f
    · rw [eraseP_cons_of_pos (by simpa using hf)] at mem
      rintro rfl
      exact hj (hf ▸ mem_map_of_mem mem)
    · rw [eraseP_cons_of_neg (by simpa using hf)] at mem
      rcases mem_cons.mp mem with rfl | hmem
      · exact hf
      · exact ih hrest hmem

/-- **A buffer that comes in keeps the entries in agreement with the traffic.** -/
theorem Traffic.Sound.callBack_tracked (hs : s.Sound) (issued : ⟨f, b.stream, b.buffer⟩ ∈ s.issued)
    (once : ∀ p ∈ s.called, (p.1, p.2.stream) ≠ (f, b.stream)) (step : BufferStep b f s.hal h) :
    ∀ i ∈ h.mPendingRequestsList, (s.callBack b f h).Tracks i.core.held := by
  have hnodup : (s.hal.mPendingRequestsList.map PendingRequest.frameNumber).Nodup :=
    hs.increasing.list.imp ne_of_lt
  cases step with
  | ignored idle =>
    have hleft : ¬s.hal.HeedsBuffers := fun hh => idle.elim hh.1 hh.2.1
    exact fun i hi => (hs.tracked i hi).callBack (.inr hleft)
  | counted num flushPerf =>
    have hleft : ¬s.hal.HeedsBuffers := fun hh =>
      absurd (flushPerf.symm.trans hh.2.2) (by simp)
    exact fun i hi => (hs.tracked i hi).callBack (.inr hleft)
  | givenBack absent givenBack =>
    intro i hi
    rw [givenBack.list] at hi
    have hne : i.frameNumber ≠ f := by simpa using find?_eq_none.mp absent i hi
    exact (hs.tracked i hi).callBack (.inl hne)
  | @reprocessed j now found input =>
    have hframe : j.frameNumber = f := by simpa using find?_some found
    intro i hi
    change i ∈ s.hal.mPendingRequestsList.eraseP (·.frameNumber == j.frameNumber) at hi
    rw [hframe] at hi
    exact (hs.tracked i (mem_of_mem_eraseP hi)).callBack (.inl (ne_of_mem_eraseP hnodup hi))
  | cached found input =>
    intro i' hi'
    rcases mem_cacheBuffer hnodup hi' with ⟨hmem, hne⟩ | ⟨i, hfind, hheld⟩
    · exact (hs.tracked i' hmem).callBack (.inl hne)
    · have hlive : i.inputBuffer = none := Option.some.inj (found.symm.trans hfind) ▸ input
      have hframe : i.frameNumber = f := by simpa using find?_some hfind
      subst hframe
      rw [hheld]
      exact (hs.tracked i (mem_of_find?_eq_some hfind)).put hlive issued once

end CallBack

theorem Traffic.Step.sound (step : Traffic.Step streams op s t) (hs : s.Sound) : t.Sound := by
  cases step with
  | @request env req _ h next distinct step =>
    have hframes := Op.Step.frames step
    have hlist : ∀ f ∈ s.hal.listFrames, f < req.frameNumber := fun f hf =>
      next f (hs.listFrames f hf)
    have hmap : ∀ f ∈ s.hal.mapFrames, f < req.frameNumber := fun f hf =>
      next f (hs.mapFrames f hf)
    refine ⟨⟨?_, ?_⟩, ?_, ?_, ?_, ?_⟩
    · refine (pairwise_append.mpr ⟨hs.increasing.list, pairwise_singleton ..,
        fun f hf g hg => ?_⟩).sublist hframes.list
      exact mem_singleton.mp hg ▸ hlist f hf
    · refine (pairwise_append.mpr ⟨hs.increasing.map, pairwise_singleton ..,
        fun f hf g hg => ?_⟩).sublist hframes.map
      exact mem_singleton.mp hg ▸ hmap f hf
    · refine tracked_iff.mpr fun e he => ?_
      rcases mem_append.mp (requestStep_held step he) with he | he
      · exact (tracked_iff.mp hs.tracked e he).request next
      · rw [mem_singleton.mp he]
        exact hs.tracks_request next distinct
    · intro f hf
      exact mem_append.mpr ((mem_append.mp (hframes.map.subset hf)).imp_left (hs.mapFrames f))
    · intro a ha
      rcases mem_append.mp ha with ha | ha
      · exact mem_append_left _ (hs.issued a ha)
      · rw [(mem_itemsOf.mp ha).1]
        exact mem_append_right _ (mem_singleton_self _)
    · exact fun p hp => mem_append_left _ (hs.called p hp)
  | @buffer _ now b f issued once =>
    have hstep := handleBuffer_step streams now b f s.hal
    obtain ⟨hlist, hmap⟩ := hstep.frames
    rw [append_nil] at hlist hmap
    refine ⟨⟨hs.increasing.list.sublist hlist, hs.increasing.map.sublist hmap⟩,
      hs.callBack_tracked issued once hstep, fun g hg => hs.mapFrames g (hmap.subset hg),
      hs.issued, fun p hp => ?_⟩
    rcases mem_append.mp hp with hp | hp
    · exact hs.called p hp
    · rw [mem_singleton.mp hp]
      exact issued
  | @internal _ _ h internal step =>
    obtain ⟨hlist, hmap⟩ := Op.Step.frames step
    have hnone : op.frame.toList = [] := by
      cases op with
      | request => exact internal.elim
      | _ => rfl
    rw [hnone, append_nil] at hlist hmap
    refine ⟨⟨hs.increasing.list.sublist hlist, hs.increasing.map.sublist hmap⟩, ?_,
      fun g hg => hs.mapFrames g (hmap.subset hg), hs.issued, hs.called⟩
    refine tracked_iff.mpr fun e he => ?_
    -- the traffic is as it was
    obtain ⟨h1, h2, h3, h4, h5, h6, h7⟩ :=
      tracked_iff.mp hs.tracked e (internalStep_held internal step he)
    exact ⟨h1, h2, h3, h4, h5, h6, h7⟩

theorem Traffic.start_sound (batchSize minInFlight : ℕ) :
    (Traffic.start batchSize minInFlight).Sound :=
  ⟨⟨.nil, .nil⟩, fun _ => (nomatch ·), fun _ => (nomatch ·), fun _ => (nomatch ·),
    fun _ => (nomatch ·)⟩

end

end Hal3
