import MidoCamera.Hal3.Traffic

/-!
# The wait of a `flushPerf`

`flushPerf` waits until as many buffers have come in as are pending when it begins. A buffer is
pending until it goes to the framework; one that has come in and is kept with its request, until the
metadata arrives, will not come in again, but is waited for.
-/

namespace Hal3

open Loop List Traffic PendingBuffersMap
open MmCamera (incU32 decU32)

/-! ## What is waited for -/

def Traffic.calledSlots (s : Traffic) : List (ℕ × Stream) := s.called.map fun p => (p.1, p.2.stream)

def Traffic.items (s : Traffic) : List Item := s.hal.mPendingBuffersMap.items

def Traffic.outstanding (s : Traffic) : List Item := s.items.filter (·.slot ∉ s.calledSlots)

def Traffic.retained (s : Traffic) : List Item := s.items.filter (·.slot ∈ s.calledSlots)

/-- A `flushPerf` has begun, and the flush of the backend has not failed. -/
def Traffic.flushPerf (s : Traffic) : Traffic := { s with hal := flushPerfBegin 0 s.hal }

/-- What happens while `flushPerf` waits: pending buffers come in, and whatever else is called by
the framework and the channels. -/
def Op.Answers (s : Traffic) : Op → Prop
  | .buffer _ b frameNumber => ⟨frameNumber, b.stream, b.buffer⟩ ∈ s.items
  | .request .. | .metadata .. | .inputBuffer .. => True
  | _ => False

/-- A step while `flushPerf` waits. -/
def Traffic.WaitStep (streams : Streams) (op : Op) (s t : Traffic) : Prop :=
  op.Answers s ∧ Traffic.Step streams op s t

/-- **The wait is for the outstanding buffers**: they are as many as it waits for, and it ends when
the last has come in. -/
structure Traffic.WaitsExactly (streams : Streams) (s : Traffic) : Prop where
  count : ∀ rc, (flushPerfBegin rc s.hal).mPendingBuffersMap.numPendingBufsAtFlush =
    s.outstanding.length
  ends : s.flushPerf.hal.mFlushPerf = true → ∀ ops t,
    Run (Traffic.WaitStep streams) ops s.flushPerf t → t.outstanding = [] →
      t.hal.mPendingBuffersMap.numPendingBufsAtFlush = 0

/-- **The condition**: no pending buffer is kept with its request, or has come in during an earlier
`flushPerf` or after a device error; and after a device error nothing is outstanding. -/
structure Traffic.NoneKept (s : Traffic) : Prop where
  kept : ∀ a ∈ s.items, ∀ i ∈ s.hal.mPendingRequestsList, i.frameNumber = a.frameNumber →
    ∀ b ∈ i.cached, b.stream ≠ a.stream
  heeded : ∀ a ∈ s.items, a.slot ∉ s.unheeded
  error : s.hal.mState = .error ∨ s.hal.mState = .deinit → s.outstanding = []

/-- A step of a run in which no buffer is given to a request while it is pending in one. -/
def Traffic.ExclusiveStep (streams : Streams) (op : Op) (s t : Traffic) : Prop :=
  (∀ env req, op = .request env req →
    ((s.items ++ itemsOf req.frameNumber req.buffers).map Item.buffer).Nodup) ∧
      Traffic.Step streams op s t

/-- **A wait that does not end**: the buffer of a request has come in and is kept with it, since its
metadata is yet to arrive. No buffer is outstanding, but one is waited for. -/
theorem flushPerf_waits_forever :
    ∃ s, Run (Traffic.ExclusiveStep previewStream)
        [.request (channelReturns 0) (previewRequest 1), .buffer 0 (previewBuffer 1) 1]
        (.start 0 6) s ∧
      s.outstanding = [] ∧ s.flushPerf.hal.mFlushPerf = true ∧
      s.flushPerf.hal.mPendingBuffersMap.numPendingBufsAtFlush = 1 ∧
      ¬s.WaitsExactly previewStream := by
  refine ⟨_, .cons ⟨?_, .request ?_ ?_ rfl⟩ (.one ⟨fun _ _ => (nomatch ·), .buffer 0 ?_ ?_⟩), ?_, ?_,
    ?_, fun h => ?_⟩
  case refine_1 =>
    rintro _ _ ⟨⟩
    decide
  case refine_9 => exact absurd (h.count 0) (by decide)
  all_goals decide

/-! ## The pending buffers along a run -/

/-- **The pending buffers agree with the traffic**: each has been asked for, no two are of one
handle, and one that has come in and was not left alone is of a pending request. -/
structure Traffic.MapSound (s : Traffic) : Prop where
  issued : ∀ a ∈ s.items, a ∈ s.issued
  handles : (s.items.map Item.buffer).Nodup
  issuedSlots : (s.issued.map Item.slot).Nodup
  pending : ∀ a ∈ s.items, a.slot ∈ s.calledSlots → a.slot ∉ s.unheeded →
    a.frameNumber ∈ s.hal.listFrames
  unheeded : ∀ k ∈ s.unheeded, k ∈ s.calledSlots

section

variable {streams : Streams} {env : RequestEnv} {req : CaptureRequest} {h h' : HardwareInterface}
  {f n : ℕ}

theorem removeBufs_items (bs : List StreamBuffer) (m : PendingBuffersMap) :
    (bs.foldl (fun m b => m.removeBuf b.buffer) m).items.Sublist m.items ∧
      ((m.items.map Item.buffer).Nodup → ∀ b ∈ bs,
        b.buffer ∉ (bs.foldl (fun m b => m.removeBuf b.buffer) m).items.map Item.buffer) := by
  induction bs generalizing m with
  | nil => exact ⟨.refl _, fun _ _ => (nomatch ·)⟩
  | cons b bs ih =>
    have hsub : (m.removeBuf b.buffer).items.Sublist m.items := by
      rw [items_removeBuf]
      exact eraseP_sublist
    obtain ⟨hrest, hgone⟩ := ih (m.removeBuf b.buffer)
    refine ⟨hrest.trans hsub, fun hnodup c hc => ?_⟩
    rcases mem_cons.mp hc with rfl | hc
    · have hb : c.buffer ∉ (m.removeBuf c.buffer).items.map Item.buffer := by
        rw [items_removeBuf, takeOut_keys]
        exact hnodup.not_mem_erase
      exact fun hmem => hb ((hrest.map _).subset hmem)
    · exact hgone (hnodup.sublist (hsub.map _)) c hc

/-- **The loop over the requests up to a frame number**: of a request that is no longer pending, no
buffer that was kept is. -/
theorem FlushSteps.items {is js : List PendingRequest} (hs : FlushSteps n is h js h') :
    h'.mPendingBuffersMap.items.Sublist h.mPendingBuffersMap.items ∧
      ((h.mPendingBuffersMap.items.map Item.buffer).Nodup → ∀ i ∈ is,
        i.frameNumber ∈ js.map PendingRequest.frameNumber ∨
          ∀ b ∈ i.cached, b.buffer ∉ h'.mPendingBuffersMap.items.map Item.buffer) := by
  induction hs with
  | nil => exact ⟨.refl _, fun _ _ => (nomatch ·)⟩
  | later => exact ⟨.refl _, fun _ i hi => .inl (mem_map_of_mem hi)⟩
  | passed _ _ core reported _ ih =>
    rw [reported.map] at ih
    refine ⟨ih.1, fun hnodup i hi => ?_⟩
    rw [map_cons]
    rcases mem_cons.mp hi with rfl | hi
    · refine .inl (mem_cons.mpr (.inl ?_))
      exact (congrArg PendingRequest.Core.frameNumber core).symm
    · exact (ih.2 hnodup i hi).imp_left (mem_cons_of_mem _)
  | @finished i i' is js s t u v _ _ core reported finished _ ih =>
    obtain ⟨hsub, hgone⟩ := removeBufs_items i'.cached t.mPendingBuffersMap
    rw [← finished.map] at hsub hgone
    rw [reported.map] at hsub hgone
    refine ⟨ih.1.trans hsub, fun hnodup j hj => ?_⟩
    rcases mem_cons.mp hj with rfl | hj
    · refine .inr fun b hb hmem => ?_
      exact hgone hnodup b (cached_of_core core ▸ hb) ((ih.1.map _).subset hmem)
    · exact ih.2 (hnodup.sublist (hsub.map _)) j hj

/-- Nothing is pending any more, or what was pending is, and so are its requests. -/
inductive Cleared (h h' : HardwareInterface) : Prop
  | all (items : h'.mPendingBuffersMap.items = [])
  | none (items : h'.mPendingBuffersMap.items = h.mPendingBuffersMap.items)
      (frames : h.listFrames ⊆ h'.listFrames)

theorem Cleared.refl (h : HardwareInterface) : Cleared h h := .none rfl (List.Subset.refl _)

theorem Dropped.items (hd : Dropped h h') : h'.mPendingBuffersMap.items = [] := by
  rw [hd.map]
  rfl

theorem FlushStep.cleared {env : FlushEnv} (hf : FlushStep env h h') : Cleared h h' := by
  cases hf with
  | stopped => exact .refl h
  | dropped _ dropped => exact .all dropped.items

theorem handleCameraDeviceError_cleared {env : FlushEnv}
    (hc : handleCameraDeviceError env h = .ok h') (error : h.mState = .error) : Cleared h h' := by
  obtain ⟨u, hu, rfl⟩ := handleCameraDeviceError_step hc error
  cases hu.cleared with
  | all items => exact .all items
  | none items frames => exact .none items frames

theorem requestStep_items (step : (Op.request env req).Step streams h h') :
    ∃ u, Cleared h u ∧ u.listFrames ⊆ h'.listFrames ∧
      (h'.mPendingBuffersMap.items = u.mPendingBuffersMap.items ∨
        h'.mPendingBuffersMap.items =
          u.mPendingBuffersMap.items ++ itemsOf req.frameNumber req.buffers) := by
  cases Op.outcome step with
  | requestError error ends =>
    exact ⟨h', handleCameraDeviceError_cleared ends error, List.Subset.refl _, .inl rfl⟩
  | requestInvalid => exact ⟨h, .refl h, List.Subset.refl _, .inl rfl⟩
  | request call step =>
    have hkeep := prepare_keeps streams env req h
    have hprepared : ∀ t, Prepared h t → Cleared h t := by
      intro t ht
      refine .none (congrArg PendingBuffersMap.items ht.map) ?_
      unfold HardwareInterface.listFrames
      rw [ht.list]
      exact List.Subset.refl _
    cases step with
    | refused early =>
      rw [early] at hkeep
      exact ⟨h', hprepared h' hkeep.1, List.Subset.refl _, .inl rfl⟩
    | restartFailed prepared due code dropped =>
      exact ⟨h', .all dropped.items, List.Subset.refl _, .inl rfl⟩
    | @recorded u v w _ _ i prepared restarted recorded issued =>
      rw [prepared] at hkeep
      have hv : Cleared h v := by
        cases restarted with
        | steady => exact hprepared u hkeep.1
        | restarted _ _ dropped => exact .all dropped.items
      obtain ⟨flags, hlist⟩ := issued.list recorded.list
      obtain ⟨e, he, hbufs, hmap⟩ := recorded.map
      have hissued : h'.mPendingBuffersMap = w.mPendingBuffersMap := issued.map
      refine ⟨v, hv, ?_, .inr ?_⟩
      · unfold HardwareInterface.listFrames
        rw [hlist, map_append]
        exact subset_append_left ..
      · have hitems : e.items = itemsOf req.frameNumber req.buffers := by
          unfold PendingBuffersInRequest.items itemsOf CaptureRequest.buffers
          rw [hbufs, he, map_map, map_map]
          rfl
        rw [hissued, hmap]
        show (v.mPendingBuffersMap.mPendingBuffersInRequest ++ [e]).flatMap _ = _
        rw [flatMap_append, flatMap_singleton, hitems]
        rfl

theorem internalStep_cleared {op : Op} (internal : op.Internal)
    (callback : ∀ timeOffset first md now frameNumber,
      op ≠ .metadata timeOffset first md ∧ op ≠ .inputBuffer now frameNumber)
    (step : op.Step streams h h') : Cleared h h' := by
  cases Op.outcome step with
  | requestError | requestInvalid | request | buffer => exact internal.elim
  | metadata timeOffset first md => exact absurd rfl (callback timeOffset first md 0 0).1
  | inputBuffer now frameNumber =>
    exact absurd rfl (callback 0 false (metadataOf 0) now frameNumber).2
  | flushError error ends => exact handleCameraDeviceError_cleared ends error
  | flushEnded _ step => exact step.cleared
  | perfEnded dropped => exact .all dropped.items
  | flushBegun | flushIdle | flushOff | perfBegun | perfFailed | perfOff | daemonDied =>
    exact .none rfl (List.Subset.refl h.listFrames)

end

section

variable {streams : Streams} {s t : Traffic} {op : Op} {h : HardwareInterface} {b : StreamBuffer}
  {f : ℕ}

theorem mem_calledSlots {k : ℕ × Stream} :
    k ∈ s.calledSlots ↔ ∃ b, (k.1, b) ∈ s.called ∧ b.stream = k.2 := by
  unfold Traffic.calledSlots
  rw [mem_map]
  constructor
  · rintro ⟨⟨g, b⟩, hmem, rfl⟩
    exact ⟨b, hmem, rfl⟩
  · rintro ⟨b, hmem, hb⟩
    exact ⟨_, hmem, Prod.ext rfl hb⟩

theorem Traffic.MapSound.issued_eq (hm : s.MapSound) {a a' : Item} (ha : a ∈ s.issued)
    (ha' : a' ∈ s.issued) (heq : a.slot = a'.slot) : a = a' :=
  inj_on_of_nodup_map hm.issuedSlots ha ha' heq

/-- **A pending buffer that has come in**, and was not left alone, is kept with its request, and the
request is live. -/
theorem Traffic.MapSound.kept (hm : s.MapSound) (hs : s.Sound) {a : Item} (ha : a ∈ s.items)
    (called : a.slot ∈ s.calledSlots) (heeded : a.slot ∉ s.unheeded) :
    ∃ i ∈ s.hal.mPendingRequestsList, i.frameNumber = a.frameNumber ∧ i.inputBuffer = none ∧
      ∃ b ∈ i.cached, b.stream = a.stream ∧ b.buffer = a.buffer := by
  obtain ⟨i, hi, hframe⟩ := mem_map.mp (hm.pending a ha called heeded)
  obtain ⟨b, hb, hstream⟩ := mem_calledSlots.mp called
  change (a.frameNumber, b) ∈ s.called at hb
  change b.stream = a.stream at hstream
  have hitem : (⟨a.frameNumber, b.stream, b.buffer⟩ : Item) = a :=
    hm.issued_eq (hs.called _ hb) (hm.issued a ha) (congrArg (Prod.mk _) hstream)
  have hunheeded : (i.frameNumber, b.stream) ∉ s.unheeded := by
    rw [hframe, hstream]
    exact heeded
  rw [← hframe] at hb
  obtain ⟨hlive, hslot⟩ := (hs.tracked i hi).kept b hb hunheeded
  exact ⟨i, hi, hframe, hlive, b, mem_cached.mpr ⟨_, hslot⟩, hstream, congrArg Item.buffer hitem⟩

theorem Traffic.Sound.frames_nodup (hs : s.Sound) :
    (s.hal.mPendingRequestsList.map PendingRequest.frameNumber).Nodup :=
  hs.increasing.list.imp ne_of_lt

theorem mem_listFrames_eraseP {is : List PendingRequest} {i j : PendingRequest}
    (nodup : (is.map PendingRequest.frameNumber).Nodup)
    (found : is.find? (·.frameNumber == f) = some i) (input : i.inputBuffer.isSome = true)
    (mem : j ∈ is) (live : j.inputBuffer = none) : j ∈ is.eraseP (·.frameNumber == f) := by
  refine (mem_eraseP_of_neg fun hf => ?_).mpr mem
  have hframe : i.frameNumber = f := by simpa using find?_some found
  have hji : j = i := inj_on_of_nodup_map nodup mem (mem_of_find?_eq_some found)
    (Eq.trans (by simpa using hf) hframe.symm)
  rw [hji] at live
  rw [live] at input
  cases input

theorem Traffic.MapSound.of_sublist (hm : s.MapSound) (hs : s.Sound) (issued : t.issued = s.issued)
    (called : t.called = s.called) (unheeded : t.unheeded = s.unheeded)
    (sub : t.items.Sublist s.items)
    (pending : ∀ i ∈ s.hal.mPendingRequestsList, i.inputBuffer = none →
      i.frameNumber ∈ t.hal.listFrames ∨ ∀ b ∈ i.cached, b.buffer ∉ t.items.map Item.buffer) :
    t.MapSound where
  issued a ha := issued ▸ hm.issued a (sub.subset ha)
  handles := hm.handles.sublist (sub.map _)
  issuedSlots := issued ▸ hm.issuedSlots
  pending a ha hcalled hheeded := by
    unfold Traffic.calledSlots at hcalled
    rw [called] at hcalled
    rw [unheeded] at hheeded
    obtain ⟨i, hi, hframe, hlive, b, hb, -, hbuf⟩ := hm.kept hs (sub.subset ha) hcalled hheeded
    rw [← hframe]
    refine (pending i hi hlive).resolve_right fun hgone => hgone b hb ?_
    exact hbuf ▸ mem_map_of_mem ha
  unheeded k hk := by
    unfold Traffic.calledSlots
    rw [called]
    exact hm.unheeded k (unheeded ▸ hk)

theorem Traffic.MapSound.cleared (hm : s.MapSound) (hs : s.Sound) (hc : Cleared s.hal h) :
    Traffic.MapSound { s with hal := h } := by
  cases hc with
  | all items =>
    have hnil : Traffic.items { s with hal := h } = [] := items
    exact hm.of_sublist hs rfl rfl rfl (hnil ▸ nil_sublist _) fun i _ _ =>
      .inr fun b _ => hnil ▸ not_mem_nil
  | none items frames =>
    have hsame : Traffic.items { s with hal := h } = s.items := items
    exact hm.of_sublist hs rfl rfl rfl (hsame ▸ Sublist.refl _) fun i hi _ =>
      .inl (frames (mem_map_of_mem hi))

theorem Traffic.MapSound.metadata {md : MetadataBuffer} (hm : s.MapSound) (hs : s.Sound)
    (step : MetadataStep md s.hal h) : Traffic.MapSound { s with hal := h } := by
  have hrefreshed : ∀ {u v : HardwareInterface}, Refreshed u v →
      v.mPendingBuffersMap.items = u.mPendingBuffersMap.items ∧ u.listFrames = v.listFrames := by
    intro u v hr
    rw [listFrames_core, listFrames_core, hr.list, hr.map]
    exact ⟨rfl, rfl⟩
  cases step with
  | ignored => exact hm
  | refreshed _ refreshed =>
    obtain ⟨hitems, hframes⟩ := hrefreshed refreshed
    exact hm.cleared hs (.none hitems (hframes ▸ List.Subset.refl _))
  | @flushed u v _ n is _ _ before steps after =>
    obtain ⟨hitems, hframes⟩ := hrefreshed before
    obtain ⟨hitems', hframes'⟩ := hrefreshed after
    obtain ⟨hsub, hgone⟩ := steps.items
    rw [hitems] at hsub hgone
    have hh : Traffic.items { s with hal := h } = v.mPendingBuffersMap.items := hitems'
    refine hm.of_sublist hs rfl rfl rfl (hh ▸ hsub) fun i hi _ => ?_
    -- the entry as it is when the loop begins
    obtain ⟨i', hi', hcore⟩ := mem_map.mp (before.list ▸ mem_map_of_mem hi :
      i.core ∈ u.mPendingRequestsList.map PendingRequest.core)
    have hframe : i'.frameNumber = i.frameNumber := congrArg PendingRequest.Core.frameNumber hcore
    refine (hgone hm.handles i' hi').imp (fun hmem => ?_) fun hnone b hb => ?_
    · rw [← hframe]
      exact hframes' ▸ hmem
    · rw [hh]
      exact hnone b (cached_of_core hcore ▸ hb)

theorem Traffic.MapSound.inputBuffer (hm : s.MapSound) (hs : s.Sound) (now : ℤ) :
    Traffic.MapSound { s with hal := handleInputBufferWithLock now f s.hal } := by
  unfold handleInputBufferWithLock
  split
  · exact hm
  · rename_i i hfind
    by_cases hin : i.inputBuffer.isSome = true
    · rw [if_pos hin]
      refine hm.of_sublist hs rfl rfl rfl (.refl _) fun j hj hlive => .inl ?_
      exact mem_map_of_mem (mem_listFrames_eraseP hs.frames_nodup hfind hin hj hlive)
    · rw [if_neg hin]
      exact hm

theorem Traffic.MapSound.callBack (hm : s.MapSound) (hs : s.Sound)
    (issued : ⟨f, b.stream, b.buffer⟩ ∈ s.issued) (step : BufferStep b f s.hal h) :
    (s.callBack b f h).MapSound := by
  have hcalled : ∀ a : Item, a.slot ∈ (s.callBack b f h).calledSlots →
      a.slot ∈ s.calledSlots ∨ a.slot = (f, b.stream) := by
    intro a ha
    unfold Traffic.calledSlots Traffic.callBack at ha
    rw [map_append, mem_append, map_singleton, mem_singleton] at ha
    exact ha
  -- what is pending of the buffer is the buffer itself
  have hown : ∀ a ∈ s.items, a.slot = (f, b.stream) → a.buffer = b.buffer := by
    intro a ha hslot
    have heq : a = ⟨f, b.stream, b.buffer⟩ := hm.issued_eq (hm.issued a ha) issued hslot
    exact congrArg Item.buffer heq
  -- and it is no longer pending once it is taken out
  have htaken : ∀ a ∈ takeOut Item.buffer b.buffer s.items, a.slot = (f, b.stream) → False := by
    intro a ha hslot
    have hkey : a.buffer ∈ (takeOut Item.buffer b.buffer s.items).map Item.buffer :=
      mem_map_of_mem ha
    rw [hown a (eraseP_subset ha) hslot, takeOut_keys] at hkey
    exact hm.handles.not_mem_erase hkey
  have hunheeded : ∀ a : Item, a.slot ∉ (s.callBack b f h).unheeded → a.slot ∉ s.unheeded :=
    fun a ha hmem => ha (mem_append_left _ hmem)
  -- the rule: what is left pending was, and of a live request that is no longer, nothing is
  have hrule : (s.callBack b f h).items.Sublist s.items →
      (∀ j ∈ s.hal.mPendingRequestsList, j.inputBuffer = none → j.frameNumber ∈ h.listFrames) →
      (∀ a ∈ (s.callBack b f h).items, a.slot = (f, b.stream) →
        a.slot ∉ (s.callBack b f h).unheeded → f ∈ h.listFrames) →
      (s.callBack b f h).MapSound := by
    intro hsub hlive hnew
    refine ⟨fun a ha => hm.issued a (hsub.subset ha), hm.handles.sublist (hsub.map _),
      hm.issuedSlots, fun a ha hc hu => ?_, fun k hk => ?_⟩
    · rcases hcalled a hc with hc | hslot
      · obtain ⟨i, hi, hframe, hi', -⟩ := hm.kept hs (hsub.subset ha) hc (hunheeded a hu)
        exact hframe ▸ hlive i hi hi'
      · have hframe : a.frameNumber = f := congrArg Prod.fst hslot
        rw [hframe]
        exact hnew a ha hslot hu
    · unfold Traffic.calledSlots Traffic.callBack
      rw [map_append, mem_append, map_singleton, mem_singleton]
      rcases mem_append.mp hk with hk | hk
      · exact .inl (hm.unheeded k hk)
      · split_ifs at hk
        · cases hk
        · exact .inr (mem_singleton.mp hk)
  have hleft : ¬s.hal.HeedsBuffers → ∀ a : Item, a.slot = (f, b.stream) →
      a.slot ∈ (s.callBack b f h).unheeded := by
    intro hno a hslot
    refine mem_append_right _ ?_
    rw [if_neg hno, hslot]
    exact mem_singleton_self _
  cases step with
  | ignored idle =>
    have hno : ¬s.hal.HeedsBuffers := fun hh => idle.elim hh.1 hh.2.1
    exact hrule (.refl _) (fun j hj _ => mem_map_of_mem hj)
      fun a _ hslot hu => absurd (hleft hno a hslot) hu
  | counted num flushPerf =>
    have hno : ¬s.hal.HeedsBuffers := fun hh => absurd (flushPerf.symm.trans hh.2.2) (by simp)
    exact hrule (.refl _) (fun j hj _ => mem_map_of_mem hj)
      fun a _ hslot hu => absurd (hleft hno a hslot) hu
  | givenBack absent givenBack =>
    have hitems : (s.callBack b f h).items = takeOut Item.buffer b.buffer s.items := by
      unfold Traffic.items Traffic.callBack
      rw [givenBack.map, items_removeBuf]
    refine hrule (hitems ▸ eraseP_sublist) (fun j hj _ => ?_) fun a ha hslot _ => ?_
    · unfold HardwareInterface.listFrames
      rw [givenBack.list]
      exact mem_map_of_mem hj
    · exact (htaken a (hitems ▸ ha) hslot).elim
  | @reprocessed i now found input =>
    have hframe : i.frameNumber = f := by simpa using find?_some found
    have hitems : (s.callBack b f (s.hal.reprocessResult b now i)).items =
        takeOut Item.buffer b.buffer s.items :=
      items_removeBuf s.hal.mPendingBuffersMap b.buffer
    refine hrule (hitems ▸ eraseP_sublist) (fun j hj hlive => ?_) fun a ha hslot _ => ?_
    · have hmem := mem_listFrames_eraseP hs.frames_nodup found input hj hlive
      rw [← hframe] at hmem
      exact mem_map_of_mem hmem
    · exact (htaken a (hitems ▸ ha) hslot).elim
  | @cached i found input =>
    have hframes : HardwareInterface.listFrames { s.hal with
        mPendingRequestsList := cacheBuffer b f s.hal.mPendingRequestsList } = s.hal.listFrames :=
      cacheBuffer_frames b f s.hal.mPendingRequestsList
    refine hrule (.refl _) (fun j hj _ => ?_) fun a _ _ _ => ?_
    · rw [hframes]
      exact mem_map_of_mem hj
    · rw [hframes]
      have hframe : i.frameNumber = f := by simpa using find?_some found
      exact hframe ▸ mem_map_of_mem (mem_of_find?_eq_some found)

/-- **Every step keeps the pending buffers in agreement with the traffic.** -/
theorem Traffic.ExclusiveStep.mapSound (step : Traffic.ExclusiveStep streams op s t)
    (hs : s.Sound) (hm : s.MapSound) : t.MapSound := by
  obtain ⟨exclusive, step⟩ := step
  cases step with
  | @request env req _ h next distinct step =>
    obtain ⟨u, hcleared, hframes, hitems⟩ := requestStep_items step
    have hu := hm.cleared hs hcleared
    have hslots : ((itemsOf req.frameNumber req.buffers).map Item.slot).Nodup := by
      refine slots_itemsOf ?_
      unfold CaptureRequest.buffers
      rw [map_map]
      exact distinct
    have hsub : u.mPendingBuffersMap.items.Sublist s.items := by
      cases hcleared with
      | all items => exact items ▸ nil_sublist _
      | none items => exact items ▸ Sublist.refl s.items
    have hold : ∀ a ∈ s.issued, a.frameNumber ≠ req.frameNumber := fun a ha =>
      (next _ (hs.issued a ha)).ne
    -- what is pending was, or is of the request
    have hmem : ∀ a ∈ h.mPendingBuffersMap.items,
        a ∈ u.mPendingBuffersMap.items ∨ a ∈ itemsOf req.frameNumber req.buffers := by
      intro a ha
      rcases hitems with heq | heq
      · exact .inl (heq ▸ ha)
      · exact mem_append.mp (heq ▸ ha)
    refine ⟨fun a ha => ?_, ?_, ?_, fun a ha hc hu' => ?_, hm.unheeded⟩
    · exact mem_append.mpr ((hmem a ha).imp_left fun ha => hm.issued a (hsub.subset ha))
    · refine (exclusive env req rfl).sublist (Sublist.map _ ?_)
      show h.mPendingBuffersMap.items.Sublist _
      rcases hitems with heq | heq
      · rw [heq]
        exact hsub.trans (sublist_append_left ..)
      · rw [heq]
        exact hsub.append_right _
    · show ((s.issued ++ itemsOf req.frameNumber req.buffers).map Item.slot).Nodup
      rw [map_append]
      refine hm.issuedSlots.append hslots fun k hk hk' => ?_
      obtain ⟨a, ha, rfl⟩ := mem_map.mp hk
      obtain ⟨a', ha', heq⟩ := mem_map.mp hk'
      exact hold a ha ((congrArg Prod.fst heq).symm.trans (mem_itemsOf.mp ha').1)
    · rcases hmem a ha with ha | ha
      · exact hframes (hu.pending a ha hc hu')
      · obtain ⟨b, hb, -⟩ := mem_calledSlots.mp hc
        exact absurd (mem_itemsOf.mp ha).1
          (hold ⟨a.frameNumber, b.stream, b.buffer⟩ (hs.called _ hb))
  | buffer now issued once =>
    exact hm.callBack hs issued (handleBuffer_step streams now _ _ s.hal)
  | @internal _ _ h internal step =>
    cases op with
    | metadata timeOffset first md =>
      cases step
      exact hm.metadata hs (handleMetadata_step streams timeOffset first md s.hal)
    | inputBuffer now frameNumber =>
      cases step
      exact hm.inputBuffer hs now
    | request | buffer => exact internal.elim
    | _ => exact hm.cleared hs (internalStep_cleared internal (by simp) step)

theorem numOverallBuffers_eq (m : PendingBuffersMap) : m.numOverallBuffers = m.items.length := by
  unfold numOverallBuffers PendingBuffersMap.items
  rw [length_flatMap]
  refine congrArg sum (map_congr_left fun req _ => ?_)
  exact (length_map _).symm

theorem items_length (s : Traffic) :
    s.items.length = s.outstanding.length + s.retained.length := by
  unfold retained outstanding
  rw [Nat.add_comm]
  simpa using length_eq_length_filter_add (l := s.items) (·.slot ∈ s.calledSlots)

theorem flushPerf_count (s : Traffic) (rc : ℤ) :
    (flushPerfBegin rc s.hal).mPendingBuffersMap.numPendingBufsAtFlush =
      s.outstanding.length + s.retained.length := by
  have hcount : (flushPerfBegin rc s.hal).mPendingBuffersMap.numPendingBufsAtFlush =
      s.items.length := by
    unfold flushPerfBegin
    dsimp only
    split_ifs
    · exact numOverallBuffers_eq _
    · exact numOverallBuffers_eq _
  rw [hcount, items_length]

/-- **Which buffers are retained**: those kept with their requests, and those that were left
alone. -/
theorem Traffic.MapSound.retained_nil_iff (hm : s.MapSound) (hs : s.Sound) :
    s.retained = [] ↔ (∀ a ∈ s.items, ∀ i ∈ s.hal.mPendingRequestsList,
      i.frameNumber = a.frameNumber → ∀ b ∈ i.cached, b.stream ≠ a.stream) ∧
        ∀ a ∈ s.items, a.slot ∉ s.unheeded := by
  unfold retained
  rw [filter_eq_nil_iff]
  simp only [decide_eq_true_eq]
  constructor
  · intro hnone
    refine ⟨fun a ha i hi hframe b hb hstream => hnone a ha ?_,
      fun a ha hun => hnone a ha (hm.unheeded _ hun)⟩
    obtain ⟨j, hj⟩ := mem_cached.mp hb
    have hcalled : (i.frameNumber, b) ∈ s.called := ((hs.tracked i hi).cached j b hj).2
    rw [hframe] at hcalled
    exact mem_calledSlots.mpr ⟨b, hcalled, hstream⟩
  · rintro ⟨hkept, hheeded⟩ a ha hcalled
    obtain ⟨i, hi, hframe, -, b, hb, hstream, -⟩ := hm.kept hs ha hcalled (hheeded a ha)
    exact hkept a ha i hi hframe b hb hstream

/-- **What holds while `flushPerf` waits**, where `k` buffers have come in before: it waits for those
that are outstanding, and for as many more. -/
structure Traffic.Waiting (k : ℕ) (s : Traffic) : Prop where
  flushPerf : s.hal.mFlushPerf = true
  error : s.hal.mState ≠ .error
  deinit : s.hal.mState ≠ .deinit
  slots : (s.items.map Item.slot).Nodup
  count : s.hal.mPendingBuffersMap.numPendingBufsAtFlush = s.outstanding.length + k

theorem flushingRequest {env : RequestEnv} {req : CaptureRequest} {h h' : HardwareInterface}
    (step : (Op.request env req).Step streams h h') (flushPerf : h.mFlushPerf = true)
    (error : h.mState ≠ .error) : Prepared h h' := by
  have hnot : ∀ u, prepare streams env req h ≠ .ok u := by
    intro u hu
    rw [(prepare_ok hu).2] at flushPerf
    cases flushPerf
  cases Op.outcome step with
  | requestError herror => exact absurd herror error
  | requestInvalid => exact .refl h
  | request call step =>
    have hkeep := prepare_keeps streams env req h
    cases step with
    | refused early =>
      rw [early] at hkeep
      exact hkeep.1
    | restartFailed prepared | recorded prepared => exact absurd prepared (hnot _)

theorem outstanding_callBack {a : Item} (slots : (s.items.map Item.slot).Nodup)
    (mem : a ∈ s.items) (once : a.slot ∉ s.calledSlots) (items : t.items = s.items)
    (called : t.calledSlots = s.calledSlots ++ [a.slot]) :
    t.outstanding.length + 1 = s.outstanding.length := by
  have hnodup : s.outstanding.Nodup := (slots.of_map _).filter _
  have hmem : a ∈ s.outstanding := mem_filter.mpr ⟨mem, decide_eq_true once⟩
  have herase : t.outstanding = s.outstanding.erase a := by
    rw [hnodup.erase_eq_filter]
    unfold outstanding
    rw [items, filter_filter]
    refine filter_congr fun x hx => Bool.eq_iff_iff.mpr ?_
    -- among the pending buffers, `a` is told by its slot
    have hslot : x.slot = a.slot ↔ x = a :=
      ⟨inj_on_of_nodup_map slots hx mem, congrArg Item.slot⟩
    simp only [called, mem_append, mem_singleton, not_or, hslot, decide_eq_true_eq,
      Bool.and_eq_true, bne_iff_ne, ne_eq]
    exact and_comm
  rw [herase, length_erase_of_mem hmem]
  exact Nat.sub_add_cancel (length_pos_of_mem hmem)

/-- **What happens while `flushPerf` waits** keeps the account of the wait. -/
theorem Traffic.WaitStep.waiting {k : ℕ} (step : Traffic.WaitStep streams op s t)
    (hw : s.Waiting k) : t.Waiting k := by
  obtain ⟨answers, step⟩ := step
  cases step with
  | @request _ _ _ h next distinct step =>
    have hp := flushingRequest step hw.flushPerf hw.error
    have hitems : h.mPendingBuffersMap = s.hal.mPendingBuffersMap := hp.map
    refine ⟨hp.flushPerf.trans hw.flushPerf, hp.state ▸ hw.error, hp.state ▸ hw.deinit, ?_, ?_⟩
    · show (h.mPendingBuffersMap.items.map Item.slot).Nodup
      rw [hitems]
      exact hw.slots
    · show h.mPendingBuffersMap.numPendingBufsAtFlush =
        (h.mPendingBuffersMap.items.filter (·.slot ∉ s.calledSlots)).length + k
      rw [hitems]
      exact hw.count
  | @buffer _ now b f issued once =>
    -- the buffer is among those that are counted
    have hany : s.hal.mPendingBuffersMap.mPendingBuffersInRequest.any
        (·.mPendingBufferList.any (·.buffer == b.buffer)) = true := by
      obtain ⟨req, hreq, hmem⟩ := mem_flatMap.mp answers
      obtain ⟨info, hinfo, heq⟩ := mem_map.mp hmem
      refine any_eq_true.mpr ⟨req, hreq, any_eq_true.mpr ⟨info, hinfo, ?_⟩⟩
      exact beq_iff_eq.mpr (congrArg Item.buffer heq)
    have hhal : handleBufferWithLock streams now b f s.hal = { s.hal with
        mPendingBuffersMap := { s.hal.mPendingBuffersMap with
          numPendingBufsAtFlush := decU32 s.hal.mPendingBuffersMap.numPendingBufsAtFlush } } := by
      unfold handleBufferWithLock handleBuffersDuringFlushLock
      rw [if_neg (not_or.mpr ⟨hw.error, hw.deinit⟩), if_pos hw.flushPerf, if_pos hany]
    have honce : (f, b.stream) ∉ s.calledSlots := by
      rw [mem_calledSlots]
      rintro ⟨c, hc, hstream⟩
      exact once _ hc (congrArg (Prod.mk f) hstream)
    have houtstanding : ∀ t : Traffic, t.items = s.items →
        t.calledSlots = s.calledSlots ++ [(f, b.stream)] →
          t.outstanding.length + 1 = s.outstanding.length := fun t hitems hcalled =>
      outstanding_callBack (a := ⟨f, b.stream, b.buffer⟩) hw.slots answers honce hitems hcalled
    have hdec : ∀ m, m + 1 = s.outstanding.length →
        decU32 s.hal.mPendingBuffersMap.numPendingBufsAtFlush = m + k := by
      intro m hm
      unfold decU32
      rw [hw.count, ← hm, if_neg (by omega)]
      omega
    rw [hhal]
    refine ⟨hw.flushPerf, hw.error, hw.deinit, hw.slots, ?_⟩
    exact hdec _ (houtstanding _ rfl map_append)
  | @internal _ _ h internal step =>
    cases op with
    | metadata timeOffset first md =>
      -- no metadata is looked at
      cases step
      have hsame : handleMetadataWithLock streams timeOffset first md s.hal = s.hal :=
        if_pos (.inl hw.flushPerf)
      rw [hsame]
      exact hw
    | inputBuffer now frameNumber =>
      cases step
      have hsame : ∀ u : HardwareInterface, u.mFlushPerf = s.hal.mFlushPerf →
          u.mState = s.hal.mState → u.mPendingBuffersMap = s.hal.mPendingBuffersMap →
            Traffic.Waiting k { s with hal := u } := by
        intro u hperf hstate hmap
        refine ⟨hperf.trans hw.flushPerf, hstate ▸ hw.error, hstate ▸ hw.deinit, ?_, ?_⟩
        · show (u.mPendingBuffersMap.items.map Item.slot).Nodup
          rw [hmap]
          exact hw.slots
        · show u.mPendingBuffersMap.numPendingBufsAtFlush =
            (u.mPendingBuffersMap.items.filter (·.slot ∉ s.calledSlots)).length + k
          rw [hmap]
          exact hw.count
      unfold handleInputBufferWithLock
      split
      · exact hw
      · split_ifs
        · exact hsame _ rfl rfl rfl
        · exact hsame _ rfl rfl rfl
        · exact hw
    | request | buffer => exact internal.elim
    | _ => exact answers.elim

theorem flushPerf_begins (s : Traffic) :
    s.flushPerf.items = s.items ∧ s.flushPerf.hal.mState = s.hal.mState ∧
      (s.flushPerf.hal.mFlushPerf = true ↔ s.items ≠ []) := by
  have hnum : s.hal.mPendingBuffersMap.numOverallBuffers = 0 ↔ s.items = [] := by
    rw [numOverallBuffers_eq]
    exact length_eq_zero_iff
  unfold flushPerf flushPerfBegin
  dsimp only
  by_cases hnil : s.items = []
  · rw [if_pos (.inr (hnum.mpr hnil))]
    exact ⟨rfl, rfl, iff_of_false Bool.false_ne_true (not_not.mpr hnil)⟩
  · rw [if_neg (not_or.mpr ⟨lt_irrefl _, mt hnum.mp hnil⟩)]
    exact ⟨rfl, rfl, iff_of_true rfl hnil⟩

theorem error_answers (streams : Streams) (s : Traffic)
    (error : s.hal.mState = .error ∨ s.hal.mState = .deinit) (as : List Item)
    (nodup : (as.map Item.slot).Nodup)
    (mem : ∀ a ∈ as, a ∈ s.items ∧ a ∈ s.issued ∧ a.slot ∉ s.calledSlots) :
    ∃ ops t, Run (Traffic.WaitStep streams) ops s t ∧ t.hal = s.hal ∧
      t.calledSlots = s.calledSlots ++ as.map Item.slot := by
  induction as generalizing s with
  | nil => exact ⟨[], s, .nil s, rfl, (append_nil _).symm⟩
  | cons a as ih =>
    obtain ⟨hitems, hissued, honce⟩ := mem a mem_cons_self
    obtain ⟨hnew, hnodup⟩ := nodup_cons.mp nodup
    let b : StreamBuffer := ⟨a.stream, a.buffer, 0, .ok, -1, -1⟩
    have hsame : handleBufferWithLock streams 0 b a.frameNumber s.hal = s.hal := if_pos error
    have hstep : Traffic.Step streams (.buffer 0 b a.frameNumber) s (s.callBack b a.frameNumber
        (handleBufferWithLock streams 0 b a.frameNumber s.hal)) := by
      refine .buffer 0 hissued fun p hp heq => honce (mem_calledSlots.mpr ⟨p.2, ?_, ?_⟩)
      · exact congrArg Prod.fst heq ▸ hp
      · exact congrArg Prod.snd heq
    rw [hsame] at hstep
    have hcalled : (s.callBack b a.frameNumber s.hal).calledSlots =
        s.calledSlots ++ [a.slot] := map_append
    obtain ⟨ops, t, run, hhal, hslots⟩ := ih (s := s.callBack b a.frameNumber s.hal) error hnodup
      fun x hx => by
        obtain ⟨h1, h2, h3⟩ := mem x (mem_cons_of_mem _ hx)
        refine ⟨h1, h2, ?_⟩
        rw [hcalled, mem_append, mem_singleton, not_or]
        exact ⟨h3, fun heq => hnew (heq ▸ mem_map_of_mem hx)⟩
    refine ⟨.buffer 0 b a.frameNumber :: ops, t, .cons ⟨hitems, hstep⟩ run, hhal, ?_⟩
    rw [hslots, hcalled, append_assoc]
    rfl

/-- **What `flushPerf` waits for**: after any run, it waits for the outstanding buffers exactly if
no pending buffer is kept. -/
theorem flushPerf_waits_iff {batchSize minInFlight : ℕ} {ops : List Op}
    (run : Run (Traffic.ExclusiveStep streams) ops (.start batchSize minInFlight) s) :
    s.WaitsExactly streams ↔ s.NoneKept := by
  obtain ⟨hs, hm⟩ : s.Sound ∧ s.MapSound := by
    refine run.invariant (I := fun s => s.Sound ∧ s.MapSound) (fun _ _ _ step hi => ?_)
      ⟨start_sound _ _, fun _ => (nomatch ·), .nil, .nil, fun _ => (nomatch ·),
        fun _ => (nomatch ·)⟩
    exact ⟨step.2.sound hi.1, step.mapSound hi.1 hi.2⟩
  have hslots : (s.items.map Item.slot).Nodup :=
    (hm.handles.of_map _).map_on fun a ha b hb heq => hm.issued_eq (hm.issued a ha) (hm.issued b hb) heq
  obtain ⟨hitems, hstate, hflag⟩ := flushPerf_begins s
  have hretained := hm.retained_nil_iff hs
  constructor
  · intro hwaits
    have hcount := (flushPerf_count s 0).symm.trans (hwaits.count 0)
    have hnil : s.retained = [] := length_eq_zero_iff.mp (by omega)
    obtain ⟨hkept, hheeded⟩ := hretained.mp hnil
    refine ⟨hkept, hheeded, fun herror => ?_⟩
    -- after an error, the wait would not end although all outstanding buffers come in
    by_contra hsome
    have hmem : ∀ a ∈ s.outstanding, a ∈ s.items ∧ a.slot ∉ s.calledSlots := fun a ha =>
      (mem_filter.mp ha).imp_right of_decide_eq_true
    obtain ⟨ops, t, run, hhal, hcalled⟩ := error_answers streams s.flushPerf
      (hstate ▸ herror) s.outstanding (hslots.sublist (filter_sublist.map _)) fun a ha =>
        ⟨hitems ▸ (hmem a ha).1, hm.issued a (hmem a ha).1, (hmem a ha).2⟩
    have hout : t.outstanding = [] := by
      refine filter_eq_nil_iff.mpr fun a ha => ?_
      have htitems : t.items = s.items := by
        unfold Traffic.items
        rw [hhal]
        exact hitems
      have ha' : a ∈ s.items := htitems ▸ ha
      rw [decide_eq_true_eq, not_not, hcalled, mem_append]
      by_cases hc : a.slot ∈ s.calledSlots
      · exact .inl hc
      · exact .inr (mem_map_of_mem (mem_filter.mpr ⟨ha', decide_eq_true hc⟩))
    have hbegins : s.items ≠ [] := fun hitems => hsome (by
      unfold outstanding
      rw [hitems]
      rfl)
    have hend := hwaits.ends (hflag.mpr hbegins) ops t run hout
    rw [hhal] at hend
    exact hsome (length_eq_zero_iff.mp ((hwaits.count 0).symm.trans hend))
  · intro hnone
    have hnil := hretained.mpr ⟨hnone.kept, hnone.heeded⟩
    have hcount : ∀ rc, (flushPerfBegin rc s.hal).mPendingBuffersMap.numPendingBufsAtFlush =
        s.outstanding.length := fun rc => by rw [flushPerf_count, hnil]; rfl
    refine ⟨hcount, fun hperf ops t run hout => ?_⟩
    have herror : ¬(s.hal.mState = .error ∨ s.hal.mState = .deinit) := by
      intro herror
      refine hflag.mp hperf (length_eq_zero_iff.mp ?_)
      rw [items_length, hnone.error herror, hnil]
      rfl
    have hout' : s.flushPerf.outstanding = s.outstanding := by
      unfold outstanding
      rw [hitems]
      rfl
    have hwaiting : s.flushPerf.Waiting 0 := by
      refine ⟨hperf, hstate ▸ fun h => herror (.inl h), hstate ▸ fun h => herror (.inr h),
        hitems ▸ hslots, ?_⟩
      rw [hout']
      exact hcount 0
    have hend := run.invariant (I := Traffic.Waiting 0) (fun _ _ _ step => step.waiting) hwaiting
    rw [hend.count, hout]
    rfl

/-- With a request and none of its buffers in, `flushPerf` waits for these. -/
theorem flushPerf_waits_iff_requested :
    ∃ s, Run (Traffic.ExclusiveStep previewStream) [.request (channelReturns 0) (previewRequest 1)]
        (.start 0 6) s ∧ s.items.length = 1 ∧ s.WaitsExactly previewStream := by
  obtain ⟨s, run, hitems, hnone⟩ : ∃ s, Run (Traffic.ExclusiveStep previewStream)
      [.request (channelReturns 0) (previewRequest 1)] (.start 0 6) s ∧
        s.items.length = 1 ∧ s.NoneKept := by
    refine ⟨_, .one ⟨?_, .request ?_ ?_ rfl⟩, ?_, ⟨?_, ?_, ?_⟩⟩
    case refine_1 =>
      rintro _ _ ⟨⟩
      decide
    all_goals decide
  exact ⟨s, run, hitems, (flushPerf_waits_iff run).mpr hnone⟩

end

end Hal3
