import MidoCamera.Hal3.InFlight
import MidoCamera.Hal3.Ledger

/-!
# The protocol of live requests

In a run without a flush and without errors the interface is a ledger of live requests: each of its
operations is a sequence of steps of the ledger. So what holds of every sound ledger holds of the
pending requests, of the pending buffers, and of what the framework is told.
-/

namespace Hal3

open Loop List
open Relation (ReflTransGen)

/-! ## The interface as a ledger -/

def CaptureResult.items (r : CaptureResult) : List Item :=
  r.outputBuffers.map fun b => ⟨r.frameNumber, b.stream, b.buffer⟩

/-- What a callback tells the framework: nothing that the ledger knows of, with a buffer error or a
partial result. -/
def Callback.notice : Callback → Option Notice
  | .shutter frameNumber _ => some (.announced frameNumber)
  | .error .result frameNumber _ => some (.announced frameNumber)
  | .error _ _ _ => none
  | .captureResult r =>
    if r.result.isFinal then some (.final r.frameNumber r.items)
    else if r.outputBuffers = [] then none
    else some (.late r.items)

def HardwareInterface.log (s : HardwareInterface) : List Notice :=
  s.callbacks.filterMap Callback.notice

def PendingRequest.Core.entry (c : PendingRequest.Core) : Entry :=
  ⟨c.frameNumber, c.buffers.map fun j => (j.stream, j.buffer.map StreamBuffer.buffer)⟩

/-- The pending buffers of a request. -/
def PendingBuffersInRequest.items (req : PendingBuffersInRequest) : List Item :=
  req.mPendingBufferList.map fun info => ⟨req.frameNumber, info.stream, info.buffer⟩

def PendingBuffersMap.items (m : PendingBuffersMap) : List Item :=
  m.mPendingBuffersInRequest.flatMap PendingBuffersInRequest.items

def CaptureRequest.buffers (req : CaptureRequest) : List (Stream × ℕ) :=
  req.outputBuffers.map fun b => (b.stream, b.buffer)

/-- The interface, with the frame numbers and buffers of the requests it has accepted, whether it
was ever given a buffer that was pending, and the buffers that have been called back. -/
structure Session where
  hal : HardwareInterface
  frames : List ℕ
  issued : List Item
  exclusive : Prop
  called : List (ℕ × Stream)

def Session.start (batchSize minInFlight : ℕ) : Session :=
  ⟨.configured batchSize minInFlight, [], [], True, []⟩

/-- The session as a ledger, with the entries `is` and the state `h` of the interface. -/
def Session.view (s : Session) (is : List PendingRequest) (h : HardwareInterface) : Ledger where
  frames := s.frames
  issued := s.issued
  exclusive := s.exclusive
  called := s.called
  pending := is.map fun i => i.core.entry
  held := h.mPendingBuffersMap.items
  log := h.log

def Session.ledger (s : Session) : Ledger := s.view s.hal.mPendingRequestsList s.hal

/-- An operation of a run without a flush. -/
inductive Event
  | request (env : RequestEnv) (req : CaptureRequest)
  | metadata (timeOffset : ℤ) (first : Bool) (md : MetadataBuffer)
  | buffer (now : ℤ) (b : StreamBuffer) (frameNumber : ℕ)

/-- **The operations of a run without a flush and without errors.** A request is live, has a higher
frame number than those before it and at most one buffer for a stream, restarts nothing and is
accepted; metadata is arbitrary; a buffer is one that has been asked for and is called back once. -/
inductive Session.Step (streams : Streams) : Event → Session → Session → Prop
  | request {env : RequestEnv} {req : CaptureRequest} {s : Session} {t : HardwareInterface}
      (next : ∀ f ∈ s.frames, f < req.frameNumber) (live : req.inputBuffer = none)
      (distinct : (req.outputBuffers.map StreamBuffer.stream).Nodup)
      (starts : s.hal.mState = .configured → env.startUp = none)
      (steady : ¬SensorRestarts streams env req s.hal)
      (accepted : processCaptureRequest streams env req s.hal = .ok (noError, t)) :
      Step streams (.request env req) s
        { hal := t
          frames := s.frames ++ [req.frameNumber]
          issued := s.issued ++ itemsOf req.frameNumber req.buffers
          exclusive := s.exclusive ∧
            ((s.hal.mPendingBuffersMap.items ++ itemsOf req.frameNumber req.buffers).map
              Item.buffer).Nodup
          called := s.called }
  | metadata {s : Session} (timeOffset : ℤ) (first : Bool) (md : MetadataBuffer) :
      Step streams (.metadata timeOffset first md) s
        { s with hal := handleMetadataWithLock streams timeOffset first md s.hal }
  | buffer {s : Session} (now : ℤ) {b : StreamBuffer} {frameNumber : ℕ}
      (issued : ⟨frameNumber, b.stream, b.buffer⟩ ∈ s.issued)
      (once : (frameNumber, b.stream) ∉ s.called) :
      Step streams (.buffer now b frameNumber) s
        { s with
          hal := handleBufferWithLock streams now b frameNumber s.hal
          called := s.called ++ [(frameNumber, b.stream)] }

/-! ## Callbacks, entries and pending buffers -/

section

variable {streams : Streams} {n : ℕ} {i i' : PendingRequest} {is js : List PendingRequest}
  {h h' : HardwareInterface} {s t : Session}

theorem log_append {cs : List Callback} (heq : h'.callbacks = h.callbacks ++ cs)
    (silent : ∀ c ∈ cs, c.notice = none) : h'.log = h.log := by
  unfold HardwareInterface.log
  rw [heq, filterMap_append, filterMap_eq_nil_iff.mpr silent, append_nil]

theorem Refreshed.log (hr : Refreshed h h') : h'.log = h.log := by
  obtain ⟨cs, heq, hcs⟩ := hr.callbacks
  refine log_append heq fun c hc => ?_
  obtain ⟨r, rfl, hurgent, hnone⟩ := hcs c hc
  simp [Callback.notice, hurgent, ResultMetadata.isFinal, hnone]

theorem Reported.log (hr : Reported h h') : h'.log = h.log := by
  obtain ⟨cs, heq, hcs⟩ := hr.callbacks
  refine log_append heq fun c hc => ?_
  obtain ⟨f, j, rfl⟩ := hcs c hc
  rfl

theorem Announces.notice {f : ℕ} {c : Callback} (hc : Announces f c) :
    c.notice = some (.announced f) := by
  cases hc <;> rfl

/-- A live entry, whose buffers are kept with their own streams. -/
structure PendingRequest.Core.Live (c : PendingRequest.Core) : Prop where
  input : c.inputBuffer = none
  kept : ∀ j ∈ c.buffers, ∀ b, j.buffer = some b → b.stream = j.stream

theorem PendingRequest.Core.Live.cached (hl : i.core.Live) :
    i.core.entry.cached =
      (i.cached.map StreamBuffer.item).map fun p => ⟨i.frameNumber, p.1, p.2⟩ := by
  unfold Entry.cached PendingRequest.cached PendingRequest.Core.entry
  rw [filterMap_map, List.map_map, map_filterMap]
  refine filterMap_congr fun j hj => ?_
  cases hb : j.buffer with
  | none => simp [hb]
  | some b => simp [hb, StreamBuffer.item, hl.kept j hj b hb, PendingRequest.core]

theorem items_removeBufFrom (buffer : ℕ) (reqs : List PendingBuffersInRequest) :
    (removeBufFrom buffer reqs).flatMap PendingBuffersInRequest.items =
      takeOut Item.buffer buffer (reqs.flatMap PendingBuffersInRequest.items) := by
  induction reqs with
  | nil => rfl
  | cons req reqs ih =>
    unfold removeBufFrom
    rw [flatMap_cons]
    unfold takeOut at ih ⊢
    by_cases hany : req.mPendingBufferList.any (·.buffer == buffer)
    · rw [if_pos hany]
      -- the request has an item of the handle, and loses the first
      have herase : req.items.eraseP (fun a => a.buffer == buffer) =
          (req.mPendingBufferList.eraseP (·.buffer == buffer)).map
            fun info => ⟨req.frameNumber, info.stream, info.buffer⟩ := eraseP_map ..
      obtain ⟨info, hmem, hbuf⟩ := any_eq_true.mp hany
      have hitem : (⟨req.frameNumber, info.stream, info.buffer⟩ : Item) ∈ req.items :=
        mem_map_of_mem hmem
      have hleft := @List.eraseP_append_left _ (fun a : Item => a.buffer == buffer) _ hbuf _
        (reqs.flatMap PendingBuffersInRequest.items) hitem
      rw [hleft, herase]
      dsimp only
      split_ifs with hempty
      · rw [List.isEmpty_iff.mp hempty]
        rfl
      · rfl
    · rw [if_neg hany, flatMap_cons, ih]
      refine (eraseP_append_right _ fun a ha => ?_).symm
      obtain ⟨info, hmem, rfl⟩ := mem_map.mp ha
      exact fun hbuf => hany (any_eq_true.mpr ⟨info, hmem, hbuf⟩)

theorem PendingBuffersMap.items_removeBuf (m : PendingBuffersMap) (buffer : ℕ) :
    (m.removeBuf buffer).items = takeOut Item.buffer buffer m.items :=
  items_removeBufFrom buffer m.mPendingBuffersInRequest

theorem PendingBuffersMap.items_foldl (items : List (Stream × ℕ)) (f : ℕ) (bs : List StreamBuffer)
    (heq : bs.map StreamBuffer.item = items) (m : PendingBuffersMap) :
    (bs.foldl (fun m b => m.removeBuf b.buffer) m).items =
      giveBack Item.buffer (items.map fun p => ⟨f, p.1, p.2⟩) m.items := by
  subst heq
  induction bs generalizing m with
  | nil => rfl
  | cons b bs ih =>
    rw [foldl_cons, ih, PendingBuffersMap.items_removeBuf]
    rfl

/-! ## Metadata -/

theorem Finished.log (hf : Finished i h h') (live : i.core.Live) :
    h'.log = h.log ++ [.announced i.frameNumber, .final i.frameNumber i.core.entry.cached] := by
  obtain ⟨c, r, hcs, hc, hfinal, hframe, hbufs⟩ := hf.callbacks
  have hitems : r.items = i.core.entry.cached := by
    rw [live.cached, ← hbufs, List.map_map, ← hframe]
    rfl
  have hr : (Callback.captureResult r).notice =
      some (.final i.frameNumber i.core.entry.cached) := by
    rw [← hitems, ← hframe]
    exact if_pos hfinal
  unfold HardwareInterface.log
  rw [hcs, filterMap_append, filterMap_cons_some hc.notice, filterMap_cons_some hr, filterMap_nil]

theorem Finished.items (hf : Finished i h h') (live : i.core.Live) :
    h'.mPendingBuffersMap.items =
      giveBack Item.buffer i.core.entry.cached h.mPendingBuffersMap.items := by
  rw [hf.map, live.cached]
  exact PendingBuffersMap.items_foldl _ _ _ rfl _

/-- **The loop over the requests up to a frame number is a sequence of steps**, each of which
finishes the request that has waited longest. -/
theorem FlushSteps.refines (hs : FlushSteps n is h js h') (live : ∀ i ∈ is, i.core.Live)
    (s : Session) :
    ReflTransGen Ledger.Step (s.view is h) (s.view js h') ∧ (∀ j ∈ js, j.core.Live) ∧
      h'.mState = h.mState ∧ h'.mFlush = h.mFlush ∧ h'.mFlushPerf = h.mFlushPerf := by
  induction hs with
  | nil h | later is h frame => exact ⟨.refl, live, rfl, rfl, rfl⟩
  | @passed i _ _ _ _ _ _ frame input =>
    -- a reprocess request, of which there is none
    have hnone : i.inputBuffer = none := (live i mem_cons_self).input
    rw [hnone] at input
    cases input
  | @finished i i' is js h u v w frame input core reported finished rest ih =>
    have hi : i'.core.Live := core ▸ live i mem_cons_self
    obtain ⟨hrest, hjs, hstate, hflush, hperf⟩ := ih fun j hj => live j (mem_cons_of_mem _ hj)
    refine ⟨.head ?_ hrest, hjs, hstate.trans (finished.state.trans reported.state),
      hflush.trans (finished.flush.trans reported.flush),
      hperf.trans (finished.flushPerf.trans reported.flushPerf)⟩
    have hstep : Ledger.Step (s.view (i :: is) h) _ := .finish rfl
    have hv : s.view is v = { s.view (i :: is) h with
        pending := is.map fun i => i.core.entry
        held := giveBack Item.buffer i.core.entry.cached h.mPendingBuffersMap.items
        log := h.log ++ [.announced i.frameNumber, .final i.frameNumber i.core.entry.cached] } := by
      have hframe : i'.frameNumber = i.frameNumber :=
        congrArg PendingRequest.Core.frameNumber core
      unfold Session.view
      rw [finished.log hi, finished.items hi, reported.log, reported.map, core, hframe]
    rw [hv]
    exact hstep

/-! ## Runs without a flush -/

/-- Outside a flush, and with live requests only. -/
structure Quiet (h : HardwareInterface) : Prop where
  flush : h.mFlush = false
  flushPerf : h.mFlushPerf = false
  state : h.mState = .configured ∨ h.mState = .started
  live : ∀ i ∈ h.mPendingRequestsList, i.core.Live

theorem live_of_core (hcore : is.map PendingRequest.core = js.map PendingRequest.core)
    (live : ∀ j ∈ js, j.core.Live) : ∀ i ∈ is, i.core.Live := by
  intro i hi
  have hmem : i.core ∈ js.map PendingRequest.core := hcore ▸ mem_map_of_mem hi
  obtain ⟨j, hj, heq⟩ := mem_map.mp hmem
  exact heq ▸ live j hj

theorem Refreshed.quiet (hr : Refreshed h h') (hq : Quiet h) : Quiet h' :=
  ⟨hr.flush.trans hq.flush, hr.flushPerf.trans hq.flushPerf,
    hq.state.imp hr.state.trans hr.state.trans, live_of_core hr.list hq.live⟩

theorem Refreshed.view (hr : Refreshed h h') (s : Session) :
    s.view h'.mPendingRequestsList h' = s.view h.mPendingRequestsList h := by
  have hentries := congrArg (List.map PendingRequest.Core.entry) hr.list
  rw [List.map_map, List.map_map] at hentries
  unfold Session.view
  rw [hr.log, hr.map]
  exact congrArg (Ledger.mk _ _ _ _ · _ _) hentries

/-- **A metadata buffer is a sequence of steps of the ledger.** -/
theorem MetadataStep.refines {md : MetadataBuffer} (hm : MetadataStep md h h') (hq : Quiet h)
    (s : Session) :
    ReflTransGen Ledger.Step (s.view h.mPendingRequestsList h) (s.view h'.mPendingRequestsList h') ∧
      Quiet h' := by
  cases hm with
  | ignored idle => exact ⟨.refl, hq⟩
  | refreshed frame refreshed =>
    rw [refreshed.view s]
    exact ⟨.refl, refreshed.quiet hq⟩
  | @flushed u v _ n is active frame before steps after =>
    have hu := before.quiet hq
    obtain ⟨hsteps, hlive, hstate, hflush, hperf⟩ := steps.refines hu.live s
    have hv : Quiet { v with mPendingRequestsList := is } :=
      ⟨hflush.trans hu.flush, hperf.trans hu.flushPerf, hu.state.imp hstate.trans hstate.trans,
        hlive⟩
    rw [after.view s, ← before.view s]
    exact ⟨hsteps, after.quiet hv⟩

/-! ## Buffers -/

theorem entry_cache (b : StreamBuffer) (i : PendingRequest) :
    ({ i with buffers := i.buffers.map (RequestedBuffer.cache b) } : PendingRequest).core.entry =
      i.core.entry.put ⟨i.frameNumber, b.stream, b.buffer⟩ := by
  refine Eq.trans ?_ (if_pos rfl).symm
  refine congrArg (Entry.mk i.frameNumber) ?_
  show (i.buffers.map (RequestedBuffer.cache b)).map _ = (i.buffers.map _).map _
  rw [List.map_map, List.map_map]
  refine map_congr_left fun j _ => ?_
  unfold RequestedBuffer.cache
  cases hb : j.buffer with
  | none =>
    by_cases hs : j.stream = b.stream
    · simp [hs, hb]
    · simp [hs, hb]
  | some b' => simp [hb]

theorem cacheBuffer_entries (b : StreamBuffer) (f : ℕ)
    (nodup : (is.map PendingRequest.frameNumber).Nodup) :
    (cacheBuffer b f is).map (fun i => i.core.entry) =
      (is.map fun i => i.core.entry).map (Entry.put ⟨f, b.stream, b.buffer⟩) := by
  induction is with
  | nil => rfl
  | cons i is ih =>
    obtain ⟨hi, hrest⟩ := nodup_cons.mp nodup
    unfold cacheBuffer
    split_ifs with hf
    · subst hf
      -- no other entry has the frame number
      have hother : (is.map fun j => j.core.entry).map
          (Entry.put ⟨i.frameNumber, b.stream, b.buffer⟩) = is.map fun j => j.core.entry := by
        rw [List.map_map]
        refine map_congr_left fun j hj => if_neg fun hframe => hi ?_
        exact mem_map.mpr ⟨j, hj, hframe⟩
      exact congrArg₂ cons (entry_cache b i) hother.symm
    · exact congrArg₂ cons (if_neg hf).symm (ih hrest)

theorem cacheBuffer_live (b : StreamBuffer) (f : ℕ) (live : ∀ i ∈ is, i.core.Live) :
    ∀ i ∈ cacheBuffer b f is, i.core.Live := by
  induction is with
  | nil => exact live
  | cons i is ih =>
    have hi := live i mem_cons_self
    have his := fun j hj => live j (mem_cons_of_mem _ hj)
    unfold cacheBuffer
    split_ifs with hf
    · intro j hj
      rcases mem_cons.mp hj with rfl | hj
      · refine ⟨hi.input, fun k hk b' hb' => ?_⟩
        obtain ⟨k, hmem, rfl⟩ := mem_map.mp hk
        unfold RequestedBuffer.cache at hb' ⊢
        split_ifs at hb' ⊢ with hc
        · cases hb'
          exact hc.1.symm
        · exact hi.kept k hmem b' hb'
      · exact his j hj
    · intro j hj
      rcases mem_cons.mp hj with rfl | hj
      · exact hi
      · exact ih his j hj

theorem GivenBack.log {b : StreamBuffer} {f : ℕ} (hg : GivenBack b f h h') :
    h'.log = h.log ++ [.late [⟨f, b.stream, b.buffer⟩]] := by
  obtain ⟨r, hcs, hnull, hframe, hbufs⟩ := hg.callbacks
  have hitems : r.items = [⟨f, b.stream, b.buffer⟩] := by
    have hmap := congrArg (List.map fun p : Stream × ℕ => (⟨f, p.1, p.2⟩ : Item)) hbufs
    rw [List.map_map] at hmap
    rw [CaptureResult.items, hframe]
    exact hmap
  have hsome : r.outputBuffers ≠ [] := by
    intro hnil
    rw [hnil] at hbufs
    cases hbufs
  have hr : (Callback.captureResult r).notice = some (.late [⟨f, b.stream, b.buffer⟩]) := by
    simp [Callback.notice, hnull, ResultMetadata.isFinal, hsome, hitems]
  unfold HardwareInterface.log
  rw [hcs, filterMap_append, filterMap_cons_some hr, filterMap_nil]

theorem view_frames (s : Session) (is : List PendingRequest) (h : HardwareInterface) :
    (s.view is h).pending.map Entry.frameNumber = is.map PendingRequest.frameNumber := by
  show (is.map _).map _ = _
  rw [List.map_map]
  rfl

theorem BufferStep.refines {b : StreamBuffer} {f : ℕ} (hb : BufferStep b f h h') (hq : Quiet h)
    (s : Session) (sound : (s.view h.mPendingRequestsList h).Sound)
    (issued : ⟨f, b.stream, b.buffer⟩ ∈ s.issued) (once : (f, b.stream) ∉ s.called) :
    Ledger.Step (s.view h.mPendingRequestsList h)
        ({ s with called := s.called ++ [(f, b.stream)] }.view h'.mPendingRequestsList h') ∧
      Quiet h' := by
  have hnodup : (h.mPendingRequestsList.map PendingRequest.frameNumber).Nodup := by
    have hframes := sound.frames_nodup
    rw [sound.split, view_frames] at hframes
    exact hframes.of_append_right
  cases hb with
  | ignored idle =>
    rcases idle with hs | hs <;> rcases hq.state with hs' | hs' <;> rw [hs] at hs' <;> cases hs'
  | counted num flushPerf =>
    rw [hq.flushPerf] at flushPerf
    cases flushPerf
  | givenBack absent back =>
    have hdone : f ∉ (s.view h.mPendingRequestsList h).pending.map Entry.frameNumber := by
      rw [view_frames]
      intro hmem
      obtain ⟨i, hi, hframe⟩ := mem_map.mp hmem
      exact find?_eq_none.mp absent i hi (by simpa using hframe)
    have hstep := Ledger.Step.giveBack (L := s.view h.mPendingRequestsList h) issued once hdone
    refine ⟨?_, back.flush.trans hq.flush, back.flushPerf.trans hq.flushPerf,
      hq.state.imp back.state.trans back.state.trans, back.list ▸ hq.live⟩
    unfold Session.view at hstep ⊢
    rw [back.log, back.map, PendingBuffersMap.items_removeBuf, back.list]
    exact hstep
  | @reprocessed i now found input =>
    have hlive := (hq.live i (mem_of_find?_eq_some found)).input
    change i.inputBuffer = none at hlive
    rw [hlive] at input
    cases input
  | @cached i found input =>
    have hwaits : f ∈ (s.view h.mPendingRequestsList h).pending.map Entry.frameNumber := by
      rw [view_frames]
      refine mem_map.mpr ⟨i, mem_of_find?_eq_some found, ?_⟩
      simpa using find?_some found
    have hstep := Ledger.Step.keep (L := s.view h.mPendingRequestsList h) issued once hwaits
    refine ⟨?_, hq.flush, hq.flushPerf, hq.state, cacheBuffer_live b f hq.live⟩
    unfold Session.view at hstep ⊢
    dsimp only
    rw [cacheBuffer_entries b f hnodup]
    exact hstep

/-! ## Requests -/

variable {env : RequestEnv} {req : CaptureRequest}

theorem entry_setNeedMetadata (flags : List Bool) (i : PendingRequest) :
    (i.setNeedMetadata flags).core.entry = i.core.entry := by
  refine congrArg (Entry.mk i.frameNumber) ?_
  show (i.buffers.mapIdx _).map _ = i.buffers.map _
  refine ext_getElem (by simp) fun k hk hk' => ?_
  simp

theorem Recorded.entry (hr : Recorded req i h h') : i.core.entry =
    entryOf req.frameNumber req.buffers := by
  unfold PendingRequest.Core.entry entryOf CaptureRequest.buffers
  show Entry.mk i.frameNumber (i.buffers.map _) = _
  rw [hr.frame, hr.buffers, List.map_map, List.map_map]
  rfl

theorem Recorded.entryLive (hr : Recorded req i h h') (live : req.inputBuffer = none)
    (flags : List Bool) : (i.setNeedMetadata flags).core.Live := by
  refine ⟨hr.input.trans live, fun j hj b hb => ?_⟩
  obtain ⟨k, hk, rfl⟩ := mem_mapIdx.mp hj
  -- no buffer is kept in a new entry
  have hnone : ∀ j ∈ i.buffers, j.buffer = none := by
    rw [hr.buffers]
    intro j hj
    obtain ⟨b', -, rfl⟩ := mem_map.mp hj
    rfl
  have hk' : (i.buffers[k]).buffer = none := hnone _ (getElem_mem hk)
  exact absurd (hb.symm.trans hk') (by simp)

theorem accepted_spec (hq : Quiet h) (starts : h.mState = .configured → env.startUp = none)
    (steady : ¬SensorRestarts streams env req h)
    (accepted : processCaptureRequest streams env req h = .ok (noError, h')) :
    ∃ u w i flags, Prepared h u ∧ Recorded req i u w ∧ Issuing w h' ∧ h'.mState = .started ∧
      h'.mPendingRequestsList = u.mPendingRequestsList ++ [i.setNeedMetadata flags] := by
  rcases processCaptureRequest_cases accepted with ⟨herr, -⟩ | ⟨-, hrc⟩ | ⟨-, hstep⟩
  · rcases hq.state with hs | hs <;> rw [herr] at hs <;> cases hs
  · exact absurd rfl hrc
  have hkeep := prepare_keeps streams env req h
  cases hstep with
  | refused early =>
    rcases prepare_fails early with ⟨hperf, -⟩ | ⟨-, hstart⟩
    · rw [hq.flushPerf] at hperf
      cases hperf
    · obtain ⟨hc, hcode⟩ := hstart rfl
      exact absurd (starts hc) hcode
  | @recorded u v w _ _ i prepared restarted recorded issued =>
    rw [prepared] at hkeep
    cases restarted with
    | restarted due code dropped => exact absurd ((prepare_passes prepared).2.mp due) steady
    | steady due =>
      cases issued with
      | flushed flush =>
        rw [recorded.flush, hkeep.1.flush, hq.flush] at flush
        cases flush
      | failed _ _ code => exact absurd rfl code
      | accepted flags _ issuing list _ state =>
        exact ⟨u, w, i, flags, hkeep.1, recorded, issuing, state, list⟩

/-- **A request that is accepted is a step of the ledger.** -/
theorem accepted_refines (hq : Quiet h) (s : Session) (next : ∀ f ∈ s.frames, f < req.frameNumber)
    (live : req.inputBuffer = none)
    (distinct : (req.outputBuffers.map StreamBuffer.stream).Nodup)
    (starts : h.mState = .configured → env.startUp = none)
    (steady : ¬SensorRestarts streams env req h)
    (accepted : processCaptureRequest streams env req h = .ok (noError, h')) :
    Ledger.Step (s.view h.mPendingRequestsList h)
        (Session.view
          { hal := h'
            frames := s.frames ++ [req.frameNumber]
            issued := s.issued ++ itemsOf req.frameNumber req.buffers
            exclusive := s.exclusive ∧
              ((h.mPendingBuffersMap.items ++ itemsOf req.frameNumber req.buffers).map
                Item.buffer).Nodup
            called := s.called }
          h'.mPendingRequestsList h') ∧
      Quiet h' := by
  obtain ⟨u, w, i, flags, prepared, recorded, issuing, state, list⟩ :=
    accepted_spec hq starts steady accepted
  have hstreams : (req.buffers.map Prod.fst).Nodup := by
    unfold CaptureRequest.buffers
    rw [List.map_map]
    exact distinct
  have hstep := Ledger.Step.accept (L := s.view h.mPendingRequestsList h) req.frameNumber
    req.buffers next hstreams
  rw [prepared.list] at list
  refine ⟨?_, ?_⟩
  · have hlog : h'.log = h.log := by
      unfold HardwareInterface.log
      rw [issuing.callbacks, recorded.callbacks, prepared.callbacks]
    have hitems : h'.mPendingBuffersMap.items =
        h.mPendingBuffersMap.items ++ itemsOf req.frameNumber req.buffers := by
      obtain ⟨e, hframe, hbufs, hmap⟩ := recorded.map
      have he : e.items = itemsOf req.frameNumber req.buffers := by
        unfold PendingBuffersInRequest.items itemsOf CaptureRequest.buffers
        rw [hframe, hbufs, List.map_map, List.map_map]
        rfl
      rw [issuing.map, hmap, ← prepared.map, ← he]
      unfold PendingBuffersMap.items
      rw [flatMap_append, flatMap_singleton]
    have hentries : h'.mPendingRequestsList.map (fun i => i.core.entry) =
        (h.mPendingRequestsList.map fun i => i.core.entry) ++
          [entryOf req.frameNumber req.buffers] := by
      rw [list, map_append, ← recorded.entry, ← entry_setNeedMetadata flags i]
      rfl
    unfold Session.view at hstep ⊢
    rw [hlog, hitems, hentries]
    exact hstep
  · refine ⟨?_, ?_, .inr state, ?_⟩
    · rw [issuing.flush, recorded.flush, prepared.flush, hq.flush]
    · rw [issuing.flushPerf, recorded.flushPerf, prepared.flushPerf, hq.flushPerf]
    · intro j hj
      rw [list] at hj
      rcases mem_append.mp hj with hj | hj
      · exact hq.live j hj
      · rw [mem_singleton.mp hj]
        exact recorded.entryLive live flags

/-! ## The protocol -/

/-- **Every operation is a sequence of steps of the ledger.** -/
theorem Session.Step.refines {e : Event} (step : Session.Step streams e s t) (hq : Quiet s.hal)
    (sound : s.ledger.Sound) : ReflTransGen Ledger.Step s.ledger t.ledger ∧ Quiet t.hal := by
  cases step with
  | request next live distinct starts steady accepted =>
    obtain ⟨hstep, hquiet⟩ := accepted_refines hq s next live distinct starts steady accepted
    exact ⟨.single hstep, hquiet⟩
  | metadata timeOffset first md =>
    exact (handleMetadata_step streams timeOffset first md s.hal).refines hq s
  | buffer now issued once =>
    obtain ⟨hstep, hquiet⟩ :=
      (handleBuffer_step streams now _ _ s.hal).refines hq s sound issued once
    exact ⟨.single hstep, hquiet⟩

end

def previewBuffer (frameNumber : ℕ) : StreamBuffer := ⟨0, 16 * frameNumber, 32, .ok, -1, -1⟩

end Hal3
