import MidoCamera.Channel.ChannelRequests

/-!
# What a request leaves behind when it fails

A request takes what it needs from the lists of its channel as it goes: it is listed as a frame to be
returned in order, its JPEG settings are queued, and a heap buffer, a slot for the input buffer and a
metadata buffer are taken. Where a later step fails, the request returns, and what it has taken so far
stays taken.
-/

namespace ChannelRequest

open List ProcessingChannel

open StreamBufs (StreamMem Buffer Status FrameLenOffset)
open PostProc (JpegSettings Queue)

/-! ## What is left behind -/

/-- The input buffers that are registered: for each slot, the buffer that it is for, and whether it is
in use. -/
def registered (m : StreamMem) : List (Option ℕ × Bool) :=
  m.slots.map fun i => (m.bufferHandle i, (m.gralloc.memInfo i).handle)

/-- The settings, the free metadata buffers and the input buffers are as before. -/
structure ProcessingChannel.Traceless (c d : ProcessingChannel) : Prop where
  settings : d.jpegSettingsQ = c.jpegSettingsQ
  metas : d.freeOfflineMeta = c.freeOfflineMeta
  inputs : registered d.offlineMemory = registered c.offlineMemory

/-- So are the frames to be returned in order, and the free heap buffers. -/
structure YUVChannel.Traceless (c d : YUVChannel) : Prop
    extends c.toProcessingChannel.Traceless d.toProcessingChannel where
  listed : d.offlinePpInfoList = c.offlinePpInfoList
  heaps : d.freeHeapBufferList = c.freeHeapBufferList

structure PicChannel.Traceless (c d : PicChannel) : Prop
    extends c.toProcessingChannel.Traceless d.toProcessingChannel where
  heaps : d.freeBufferList = c.freeBufferList

/-- The same settings are queued, but for the slots of their output buffers, and the other lists are
the same. -/
structure PicChannel.Agrees (c d : PicChannel) : Prop where
  settings : d.jpegSettingsQ.items.map JpegSettings.request =
    c.jpegSettingsQ.items.map JpegSettings.request
  metas : d.freeOfflineMeta = c.freeOfflineMeta
  inputs : registered d.offlineMemory = registered c.offlineMemory
  heaps : d.freeBufferList = c.freeBufferList

/-- **No trace**: the lists are as before, and a later request that succeeds finds and leaves them as
it would have done without the one that failed. -/
structure YUVChannel.Forgets (c d : YUVChannel) : Prop where
  traceless : c.Traceless d
  later : ∀ buffer frameNumber input planes metaPlanes metadata e,
    (c.request buffer frameNumber input planes metaPlanes metadata e).rc = .NO_ERROR →
    (d.request buffer frameNumber input planes metaPlanes metadata e).rc = .NO_ERROR →
    (c.request buffer frameNumber input planes metaPlanes metadata e).channel.Traceless
      (d.request buffer frameNumber input planes metaPlanes metadata e).channel

/-- A buffer that the failed request has registered for its output may be in a slot that a later one
would have had. -/
structure PicChannel.Forgets (c d : PicChannel) : Prop where
  traceless : c.Traceless d
  later : ∀ b frameNumber input planes metaPlanes e,
    (c.request b frameNumber input planes metaPlanes e).2 = .NO_ERROR →
    (d.request b frameNumber input planes metaPlanes e).2 = .NO_ERROR →
    (c.request b frameNumber input planes metaPlanes e).1.Agrees
      (d.request b frameNumber input planes metaPlanes e).1

/-- An input buffer that fails changes nothing: it has a slot, and no buffer is registered in fact or
no metadata buffer is free; or it has none, and there is no room for one. -/
def ProcessingChannel.Untouched (c : ProcessingChannel) (input : Buffer) : Prop :=
  if (c.offlineMemory.getMatchBufIndex input.handle).isSome then
    c.offlineMemory.gralloc.bufferCount = 0 ∨ c.freeOfflineMeta = []
  else
    c.offlineMemory.gralloc.bufferCount ≥
      StreamBufs.MM_CAMERA_MAX_NUM_FRAMES - 1 - c.offlineMemory.maxHeapBuffers ∨
      c.offlineMemory.getFreeIndex = none

/-- A request of the YUV channel takes nothing before it fails: it has no buffer or no metadata, or the
frame is not listed and there is no memory for it or its input buffer changes nothing. -/
def YUVChannel.TakesNothing (c : YUVChannel) (buffer pInputBuffer : Option Buffer)
    (metadata : Option Metadata) (e : Calls) : Prop :=
  buffer = none ∨ metadata = none ∨
    match pInputBuffer with
    | none => c.bypass = false
    | some input => e.srcFrame = false ∨ c.Untouched input

def PicChannel.Queues (c : PicChannel) (e : Calls) : Prop :=
  e.settings = true ∧ e.node = true ∧ c.jpegSettingsQ.active = true

/-- From its settings on, a request takes nothing: these are not queued, and no heap buffer is free, or
there is no memory for the frame or its input buffer changes nothing. -/
def PicChannel.TakesNoFrame (c : PicChannel) (pInputBuffer : Option Buffer) (e : Calls) : Prop :=
  ¬ c.Queues e ∧
    match pInputBuffer with
    | none => c.freeBufferList = []
    | some input => e.srcFrame = false ∨ c.Untouched input

/-- A request of the picture channel takes nothing before it fails: the channel is not started, the
output buffer has no slot, or the request takes nothing from its settings on. -/
def PicChannel.TakesNothing (c : PicChannel) (b : Buffer) (pInputBuffer : Option Buffer)
    (e : Calls) : Prop :=
  c.isActive = false ∨ (∃ rc, (c.outputIndex b e).2 = .error rc) ∨ c.TakesNoFrame pInputBuffer e

/-! ## The memory of the input buffers -/

/-- The memory, with other marks on the buffers of the framework. -/
def withMarks (m : StreamMem) (marks : ℕ → Int32) : StreamMem :=
  { m with gralloc := { m.gralloc with currentFrameNumbers := marks } }

section

variable {m m' : StreamMem} {b : Buffer} {import_ : StreamMem.Import} {index : ℕ}

theorem registered_withMarks (m : StreamMem) (marks : ℕ → Int32) :
    registered (withMarks m marks) = registered m := rfl

theorem markFrameNumber_withMarks (m : StreamMem) (frameNumber : UInt32)
    (h : m.maxHeapBuffers ≤ index) :
    ∃ marks, (m.markFrameNumber index frameNumber).1 = withMarks m marks := by
  unfold StreamMem.markFrameNumber
  rw [if_neg (Nat.not_lt.mpr h)]
  split
  · exact ⟨m.gralloc.currentFrameNumbers, rfl⟩
  · unfold StreamBufs.Memory.mark
    split
    · exact ⟨_, rfl⟩
    · exact ⟨m.gralloc.currentFrameNumbers, rfl⟩

theorem registerBuffer_withMarks (m : StreamMem) (marks : ℕ → Int32) (b : Buffer)
    (import_ : StreamMem.Import) : (withMarks m marks).registerBuffer b import_ =
      (withMarks (m.registerBuffer b import_).1 marks, (m.registerBuffer b import_).2) := by
  have hmatch : (withMarks m marks).getMatchBufIndex b.handle = m.getMatchBufIndex b.handle := rfl
  have hfree : (withMarks m marks).getFreeIndex = m.getFreeIndex := rfl
  have hcount : (withMarks m marks).gralloc.bufferCount = m.gralloc.bufferCount := rfl
  have hheaps : (withMarks m marks).maxHeapBuffers = m.maxHeapBuffers := rfl
  unfold StreamMem.registerBuffer
  rw [hmatch, hfree, hcount, hheaps]
  split
  · rfl
  split
  · rfl
  split
  · rfl
  · cases import_ <;> rfl

theorem inputIndex_withMarks (m : StreamMem) (marks : ℕ → Int32) (b : Buffer)
    (import_ : StreamMem.Import) : inputIndex (withMarks m marks) b import_ =
      (withMarks (inputIndex m b import_).1 marks, (inputIndex m b import_).2) := by
  have hmatch : (withMarks m marks).getMatchBufIndex b.handle = m.getMatchBufIndex b.handle := rfl
  unfold inputIndex
  rw [hmatch, registerBuffer_withMarks]
  split
  · rfl
  rcases m.registerBuffer b import_ with ⟨t, rc⟩
  have hmatch' : (withMarks t marks).getMatchBufIndex b.handle = t.getMatchBufIndex b.handle := rfl
  cases rc
  case NO_ERROR =>
    simp only [hmatch']
    split <;> rfl
  all_goals rfl

theorem getBufDef_status (planes : FrameLenOffset) (h : m.maxHeapBuffers ≤ index) :
    (m.getBufDef planes {} index).2 =
      if m.gralloc.bufferCount = 0 then .NO_INIT else .NO_ERROR := by
  have hmemory : m.memory index = m.gralloc := if_neg (Nat.not_lt.mpr h)
  unfold StreamMem.getBufDef StreamBufs.Memory.getBufDef
  simp only [hmemory]
  split <;> rfl

theorem registered_put_ne {info : StreamBufs.MemInfo} {count : ℕ} (range : m.InRange index)
    (other : m.bufferHandle index ≠ some b.handle) :
    registered (m.put index b info count) ≠ registered m := by
  intro h
  have hslots : (m.put index b info count).slots = m.slots := rfl
  rw [registered, registered, hslots, map_inj_left] at h
  have heq := congrArg Prod.fst (h index (StreamMem.mem_slots.mpr range))
  rw [StreamMem.put_bufferHandle_self] at heq
  exact other heq.symm

/-- **All that the search for a slot can do**: nothing, if the buffer has one, or if there is no room
for one; or to change what is registered. -/
theorem inputIndex_cases (m : StreamMem) (b : Buffer) (import_ : StreamMem.Import) :
    (∃ index, m.getMatchBufIndex b.handle = some index ∧
      inputIndex m b import_ = (m, .ok index)) ∨
    (m.getMatchBufIndex b.handle = none ∧
      (m.gralloc.bufferCount ≥ StreamBufs.MM_CAMERA_MAX_NUM_FRAMES - 1 - m.maxHeapBuffers ∨
        m.getFreeIndex = none) ∧ inputIndex m b import_ = (m, .error .BAD_INDEX)) ∨
    (m.getMatchBufIndex b.handle = none ∧
      ¬(m.gralloc.bufferCount ≥ StreamBufs.MM_CAMERA_MAX_NUM_FRAMES - 1 - m.maxHeapBuffers ∨
        m.getFreeIndex = none) ∧
      registered (inputIndex m b import_).1 ≠ registered m) := by
  rcases hmatch : m.getMatchBufIndex b.handle with _ | index
  case some => exact .inl ⟨index, rfl, by rw [inputIndex, hmatch]⟩
  have hnot : ¬(m.getMatchBufIndex b.handle).isSome = true := by simp [hmatch]
  by_cases hroom : m.gralloc.bufferCount ≥
      StreamBufs.MM_CAMERA_MAX_NUM_FRAMES - 1 - m.maxHeapBuffers
  · refine .inr (.inl ⟨rfl, .inl hroom, ?_⟩)
    rw [inputIndex, hmatch]
    simp only [StreamMem.registerBuffer, if_neg hnot, if_pos hroom]
  rcases hfree : m.getFreeIndex with _ | idx
  · refine .inr (.inl ⟨rfl, .inr rfl, ?_⟩)
    rw [inputIndex, hmatch]
    simp only [StreamMem.registerBuffer, if_neg hnot, if_neg hroom, hfree]
  -- a slot is chosen, and is for the buffer from then on
  have hrange := (StreamMem.getFreeIndex_eq_some hfree).1
  have hother := StreamMem.getMatchBufIndex_eq_none hmatch hrange
  refine .inr (.inr ⟨rfl, ?_, ?_⟩)
  · rintro (h | h)
    · exact hroom h
    · cases h
  have hput (info : StreamBufs.MemInfo) (count : ℕ) :
      registered (m.put idx b info count) ≠ registered m := registered_put_ne hrange hother
  rw [inputIndex, hmatch]
  cases import_ with
  | importFails | mmapFails =>
    simp only [StreamMem.registerBuffer, if_neg hnot, if_neg hroom, hfree]
    exact hput _ _
  | mapped =>
    simp only [StreamMem.registerBuffer, if_neg hnot, if_neg hroom, hfree]
    split <;> exact hput _ _

theorem le_of_inputIndex {t : StreamMem} (h : inputIndex m b import_ = (t, .ok index)) :
    t.maxHeapBuffers ≤ index := by
  unfold inputIndex at h
  split at h
  · next hmatch =>
    cases h
    exact (StreamMem.getMatchBufIndex_eq_some hmatch).1.1
  split at h
  · split at h
    · next hmatch =>
      cases h
      exact (StreamMem.getMatchBufIndex_eq_some hmatch).1.1
    · cases h
  · cases h

end

namespace ProcessingChannel

variable {c d c' d' : ProcessingChannel} {input b : Buffer} {frameNumber : UInt32}
  {planes metaPlanes : FrameLenOffset} {import_ : StreamMem.Import} {e : Calls}

/-- Two channels whose free metadata buffers and input buffers are the same, but for the marks on
these. -/
structure InputsAlike (c d : ProcessingChannel) : Prop where
  metas : d.freeOfflineMeta = c.freeOfflineMeta
  inputs : ∃ marks, d.offlineMemory = withMarks c.offlineMemory marks

/-- Two channels whose settings are the same, too. -/
structure Alike (c d : ProcessingChannel) : Prop extends c.InputsAlike d where
  settings : d.jpegSettingsQ = c.jpegSettingsQ

/-- What does not touch them. -/
structure Frame (c d : ProcessingChannel) : Prop where
  settings : d.jpegSettingsQ = c.jpegSettingsQ
  metas : d.freeOfflineMeta = c.freeOfflineMeta
  inputs : d.offlineMemory = c.offlineMemory

theorem Frame.trans (h : c.Frame d) (h' : d.Frame d') : c.Frame d' :=
  ⟨h'.settings.trans h.settings, h'.metas.trans h.metas, h'.inputs.trans h.inputs⟩

theorem Frame.refl (c : ProcessingChannel) : c.Frame c := ⟨rfl, rfl, rfl⟩

theorem Frame.symm (h : c.Frame d) : d.Frame c :=
  ⟨h.settings.symm, h.metas.symm, h.inputs.symm⟩

theorem InputsAlike.frame (h : c.InputsAlike d) (hc : c.Frame c') (hd : d.Frame d') :
    c'.InputsAlike d' := by
  obtain ⟨marks, hinputs⟩ := h.inputs
  refine ⟨?_, marks, ?_⟩
  · rw [hd.metas, hc.metas, h.metas]
  · rw [hd.inputs, hc.inputs, hinputs]

theorem Alike.frame (h : c.Alike d) (hc : c.Frame c') (hd : d.Frame d') : c'.Alike d' :=
  ⟨h.toInputsAlike.frame hc hd, by rw [hd.settings, hc.settings, h.settings]⟩

theorem Alike.refl (c : ProcessingChannel) : c.Alike c := ⟨⟨rfl, _, rfl⟩, rfl⟩

theorem Frame.alike (h : c.Frame d) : c.Alike d := (Alike.refl c).frame (.refl c) h

theorem Traceless.frame (h : c.Traceless d) (hd : d'.Frame d) : c.Traceless d' :=
  ⟨hd.settings.symm.trans h.settings, hd.metas.symm.trans h.metas, hd.inputs ▸ h.inputs⟩

theorem Frame.untouched (h : c.Frame d) (input : Buffer) :
    d.Untouched input ↔ c.Untouched input := by
  rw [Untouched, Untouched, h.inputs, h.metas]

theorem InputsAlike.registered (h : c.InputsAlike d) :
    registered d.offlineMemory = registered c.offlineMemory := by
  obtain ⟨marks, hinputs⟩ := h.inputs
  rw [hinputs, registered_withMarks]

theorem Alike.traceless (h : c.Alike d) : c.Traceless d :=
  ⟨h.settings, h.metas, h.toInputsAlike.registered⟩

theorem takeMeta_cases (c : ProcessingChannel) (frameNumber : UInt32) (offset : FrameLenOffset) :
    (c.freeOfflineMeta = [] ∧ c.takeMeta frameNumber offset = (c, .BAD_VALUE)) ∨
      (c.freeOfflineMeta ≠ [] ∧
        (c.takeMeta frameNumber offset).1.freeOfflineMeta ≠ c.freeOfflineMeta) := by
  unfold takeMeta
  split
  · next hnil => exact .inl ⟨hnil, rfl⟩
  · next i rest hcons =>
    rw [hcons]
    exact .inr ⟨cons_ne_nil _ _, (cons_ne_self i rest).symm⟩

theorem takeMeta_offlineMemory (c : ProcessingChannel) (frameNumber : UInt32)
    (offset : FrameLenOffset) : (c.takeMeta frameNumber offset).1.offlineMemory = c.offlineMemory := by
  unfold takeMeta
  split <;> rfl

theorem registered_setFwkInputPPData (c : ProcessingChannel) (input : Buffer) (frameNumber : UInt32)
    (planes metaPlanes : FrameLenOffset) (import_ : StreamMem.Import) :
    registered (c.setFwkInputPPData input frameNumber planes metaPlanes import_).1.offlineMemory =
      registered (inputIndex c.offlineMemory input import_).1 := by
  unfold setFwkInputPPData
  rcases hindex : inputIndex c.offlineMemory input import_ with ⟨m, rc | index⟩
  · rfl
  obtain ⟨marks, hmark⟩ := markFrameNumber_withMarks m frameNumber (le_of_inputIndex hindex)
  simp only [hmark]
  split
  · rw [takeMeta_offlineMemory]
    rfl
  · rfl

/-- **What an input buffer leaves behind**: nothing if it changes nothing, and a trace otherwise. -/
theorem setFwkInputPPData_trace (c : ProcessingChannel) (input : Buffer) (frameNumber : UInt32)
    (planes metaPlanes : FrameLenOffset) (import_ : StreamMem.Import) :
    (c.Untouched input ∧
      c.Alike (c.setFwkInputPPData input frameNumber planes metaPlanes import_).1) ∨
    (¬ c.Untouched input ∧
      ¬ c.Traceless (c.setFwkInputPPData input frameNumber planes metaPlanes import_).1) := by
  have hregistered := registered_setFwkInputPPData c input frameNumber planes metaPlanes import_
  rcases inputIndex_cases c.offlineMemory input import_ with
    ⟨index, hmatch, hindex⟩ | ⟨hmatch, hroom, hindex⟩ | ⟨hmatch, hroom, hne⟩
  · -- the buffer has a slot: what follows is marked, defined and given a metadata buffer
    have huntouched : c.Untouched input ↔
        c.offlineMemory.gralloc.bufferCount = 0 ∨ c.freeOfflineMeta = [] := by
      rw [Untouched, hmatch, Option.isSome_some, if_pos rfl]
    have hle := le_of_inputIndex hindex
    obtain ⟨marks, hmark⟩ := markFrameNumber_withMarks c.offlineMemory frameNumber hle
    have hstatus := getBufDef_status (m := withMarks c.offlineMemory marks) planes hle
    rw [huntouched]
    unfold setFwkInputPPData
    simp only [hindex, hmark, hstatus]
    by_cases hcount : c.offlineMemory.gralloc.bufferCount = 0
    · have hcount' : (withMarks c.offlineMemory marks).gralloc.bufferCount = 0 := hcount
      simp only [if_pos hcount']
      exact .inl ⟨.inl hcount, ⟨rfl, marks, rfl⟩, rfl⟩
    · have hcount' : (withMarks c.offlineMemory marks).gralloc.bufferCount ≠ 0 := hcount
      simp only [if_neg hcount']
      rcases takeMeta_cases { c with offlineMemory := withMarks c.offlineMemory marks } frameNumber
        metaPlanes with ⟨hnil, htake⟩ | ⟨hcons, hne⟩
      · rw [htake]
        exact .inl ⟨.inr hnil, ⟨rfl, marks, rfl⟩, rfl⟩
      · refine .inr ⟨?_, fun h => hne h.metas⟩
        rintro (h | h)
        · exact hcount h
        · exact hcons h
  · -- there is no room for a slot
    refine .inl ⟨?_, ?_⟩
    · rw [Untouched, hmatch, Option.isSome_none, if_neg Bool.false_ne_true]
      exact hroom
    · unfold setFwkInputPPData
      simp only [hindex]
      exact Alike.refl c
  · refine .inr ⟨?_, fun h => hne (hregistered.symm.trans h.inputs)⟩
    rw [Untouched, hmatch, Option.isSome_none, if_neg Bool.false_ne_true]
    exact hroom

theorem requestInput_frame (c : ProcessingChannel) (input : Buffer) (frameNumber : UInt32)
    (planes metaPlanes : FrameLenOffset) (h : e.srcFrame = true) :
    (c.setFwkInputPPData input frameNumber planes metaPlanes e.input).1.Frame
      (c.requestInput input frameNumber planes metaPlanes e).1 := by
  rw [requestInput, if_pos h]
  split
  · next hset =>
    rw [hset]
    exact ⟨rfl, rfl, rfl⟩
  · exact .refl _

theorem requestInput_trace (c : ProcessingChannel) (input : Buffer) (frameNumber : UInt32)
    (planes metaPlanes : FrameLenOffset) (e : Calls) :
    ((e.srcFrame = false ∨ c.Untouched input) ∧
      c.Alike (c.requestInput input frameNumber planes metaPlanes e).1) ∨
    (¬(e.srcFrame = false ∨ c.Untouched input) ∧
      ¬ c.Traceless (c.requestInput input frameNumber planes metaPlanes e).1) := by
  rcases hsrc : e.srcFrame with _ | _
  · rw [requestInput, hsrc]
    exact .inl ⟨.inl rfl, Alike.refl c⟩
  have hframe := requestInput_frame c input frameNumber planes metaPlanes hsrc
  rcases setFwkInputPPData_trace c input frameNumber planes metaPlanes e.input with
    ⟨huntouched, halike⟩ | ⟨huntouched, htrace⟩
  · exact .inl ⟨.inr huntouched, halike.frame (.refl c) hframe⟩
  · refine .inr ⟨?_, fun h => htrace (h.frame hframe)⟩
    rintro (h | h)
    · cases h
    · exact huntouched h

/-! ## What a later request finds -/

theorem InputsAlike.setFwkInputPPData (h : c.InputsAlike d) (input : Buffer) (frameNumber : UInt32)
    (planes metaPlanes : FrameLenOffset) (import_ : StreamMem.Import) :
    (c.setFwkInputPPData input frameNumber planes metaPlanes import_).1.InputsAlike
      (d.setFwkInputPPData input frameNumber planes metaPlanes import_).1 := by
  obtain ⟨marks, hinputs⟩ := h.inputs
  unfold ProcessingChannel.setFwkInputPPData
  rw [hinputs, inputIndex_withMarks]
  rcases hindex : inputIndex c.offlineMemory input import_ with ⟨m, rc | index⟩
  · exact ⟨h.metas, marks, rfl⟩
  have hle := le_of_inputIndex hindex
  obtain ⟨marks₁, hmark₁⟩ := markFrameNumber_withMarks m frameNumber hle
  obtain ⟨marks₂, hmark₂⟩ := markFrameNumber_withMarks (withMarks m marks) frameNumber hle
  have hsame : ((withMarks (withMarks m marks) marks₂).getBufDef planes {} index).2 =
      ((withMarks m marks₁).getBufDef planes {} index).2 := by
    rw [getBufDef_status (m := withMarks (withMarks m marks) marks₂) planes hle,
      getBufDef_status (m := withMarks m marks₁) planes hle]
    rfl
  simp only [hmark₁, hmark₂, hsame]
  split
  · unfold takeMeta
    simp only [h.metas]
    split <;> exact ⟨rfl, marks₂, rfl⟩
  · exact ⟨h.metas, marks₂, rfl⟩

theorem InputsAlike.requestInput (h : c.InputsAlike d) (input : Buffer) (frameNumber : UInt32)
    (planes metaPlanes : FrameLenOffset) (e : Calls) :
    (c.requestInput input frameNumber planes metaPlanes e).1.InputsAlike
      (d.requestInput input frameNumber planes metaPlanes e).1 := by
  rcases hsrc : e.srcFrame with _ | _
  · simp only [ProcessingChannel.requestInput, hsrc, Bool.false_eq_true, if_false]
    exact h
  · exact (h.setFwkInputPPData input frameNumber planes metaPlanes e.input).frame
      (requestInput_frame c input frameNumber planes metaPlanes hsrc)
      (requestInput_frame d input frameNumber planes metaPlanes hsrc)

theorem setFwkInputPPData_settings (c : ProcessingChannel) (input : Buffer) (frameNumber : UInt32)
    (planes metaPlanes : FrameLenOffset) (import_ : StreamMem.Import) :
    (c.setFwkInputPPData input frameNumber planes metaPlanes import_).1.jpegSettingsQ =
      c.jpegSettingsQ := by
  unfold setFwkInputPPData
  split
  · rfl
  · simp only
    split
    · unfold takeMeta
      split <;> rfl
    · rfl

theorem requestInput_settings (c : ProcessingChannel) (input : Buffer) (frameNumber : UInt32)
    (planes metaPlanes : FrameLenOffset) (e : Calls) :
    (c.requestInput input frameNumber planes metaPlanes e).1.jpegSettingsQ = c.jpegSettingsQ := by
  rcases hsrc : e.srcFrame with _ | _
  · rw [requestInput, hsrc]
    rfl
  · exact (requestInput_frame c input frameNumber planes metaPlanes hsrc).settings.trans
      (setFwkInputPPData_settings c input frameNumber planes metaPlanes e.input)

theorem Alike.requestInput (h : c.Alike d) (input : Buffer) (frameNumber : UInt32)
    (planes metaPlanes : FrameLenOffset) (e : Calls) :
    (c.requestInput input frameNumber planes metaPlanes e).1.Alike
      (d.requestInput input frameNumber planes metaPlanes e).1 where
  toInputsAlike := h.toInputsAlike.requestInput input frameNumber planes metaPlanes e
  settings := by rw [requestInput_settings, requestInput_settings, h.settings]

theorem registerBuffer_frame (c : ProcessingChannel) (b : Buffer) (e : Calls) :
    c.Frame (c.registerBuffer b e).1 := by
  unfold registerBuffer
  split
  · exact .refl c
  split
  · exact .refl c
  split <;> exact ⟨rfl, rfl, rfl⟩

theorem start_frame (c : ProcessingChannel) : c.Frame c.start.1 := by
  unfold start
  split
  · exact .refl c
  · exact ⟨rfl, rfl, rfl⟩

theorem outputIndex_frame (c : ProcessingChannel) (b : Buffer) (e : Calls) :
    c.Frame (c.outputIndex b e).1 := by
  have hregister := c.registerBuffer_frame b e
  unfold outputIndex
  split
  · exact .refl c
  split
  · next hok =>
    rw [hok] at hregister
    split <;> exact hregister
  · next hfailed =>
    rw [hfailed] at hregister
    exact hregister

theorem activate_frame (c : ProcessingChannel) (b : Buffer) (e : Calls) :
    c.Frame (c.activate b e).1 := by
  have hregister := c.registerBuffer_frame b e
  unfold activate
  split
  · exact .refl c
  split
  · next hok =>
    rw [hok] at hregister
    exact hregister.trans (start_frame _)
  · exact hregister

theorem requestOutput_frame (c : ProcessingChannel) (b : Buffer) (frameNumber : UInt32) (e : Calls) :
    c.Frame (c.requestOutput b frameNumber e).1 := by
  have hactivate := c.activate_frame b e
  unfold requestOutput
  split
  · next d hok =>
    rw [hok] at hactivate
    have hindex := hactivate.trans (d.outputIndex_frame b e)
    split
    · next hfailed =>
      rw [hfailed] at hindex
      exact hindex
    · next hslot =>
      rw [hslot] at hindex
      split
      · exact hindex.trans ⟨rfl, rfl, rfl⟩
      · exact hindex.trans ⟨rfl, rfl, rfl⟩
  · exact hactivate

end ProcessingChannel

/-! ## Requests of the YUV channel -/

namespace YUVChannel

variable {c d : YUVChannel} {buffer pInputBuffer : Option Buffer} {frameNumber : UInt32}
  {planes metaPlanes : FrameLenOffset} {metadata : Option Metadata} {e : Calls}

/-- Two channels whose lists are the same, and what decides on the post-processing of a frame. -/
structure Alike (c d : YUVChannel) : Prop
    extends c.toProcessingChannel.Alike d.toProcessingChannel where
  listed : d.offlinePpInfoList = c.offlinePpInfoList
  heaps : d.freeHeapBufferList = c.freeHeapBufferList
  bypass : d.bypass = c.bypass
  size : d.width = c.width ∧ d.height = c.height
  modes : d.edgeMode = c.edgeMode ∧ d.noiseRedMode = c.noiseRedMode ∧ d.cropRegion = c.cropRegion

theorem Alike.refl (c : YUVChannel) : c.Alike c :=
  ⟨.refl _, rfl, rfl, rfl, ⟨rfl, rfl⟩, rfl, rfl, rfl⟩

theorem Alike.traceless (h : c.Alike d) : c.Traceless d :=
  ⟨h.toAlike.traceless, h.listed, h.heaps⟩

theorem Alike.needsFramePostprocessing (h : c.Alike d) (metadata : Metadata) :
    (d.readModes metadata).needsFramePostprocessing =
      (c.readModes metadata).needsFramePostprocessing := by
  obtain ⟨hedge, hnoise, hcrop⟩ := h.modes
  simp only [YUVChannel.needsFramePostprocessing, readModes, hedge, hnoise, hcrop, h.size.1, h.size.2]
  rfl

theorem takeHeap_some {bufIdx : ℕ} (h : c.takeHeap e = some (d, bufIdx)) :
    c.toProcessingChannel.Frame d.toProcessingChannel ∧
      d.offlinePpInfoList = c.offlinePpInfoList ∧
      d.freeHeapBufferList = c.freeHeapBufferList.tail := by
  unfold takeHeap at h
  split at h
  · next hnil =>
    split at h
    · cases h
    · cases h
      exact ⟨⟨rfl, rfl, rfl⟩, rfl, by rw [hnil]; rfl⟩
  · next hcons =>
    cases h
    exact ⟨⟨rfl, rfl, rfl⟩, rfl, by rw [hcons]; rfl⟩

theorem requestOffline_lists (c : YUVChannel) (frameNumber : UInt32) (e : Calls) :
    (c.requestOffline frameNumber e).1.offlinePpInfoList = c.offlinePpInfoList ∧
      ((c.requestOffline frameNumber e).2 = .NO_ERROR →
        c.toProcessingChannel.Frame (c.requestOffline frameNumber e).1.toProcessingChannel ∧
          (c.requestOffline frameNumber e).1.freeHeapBufferList = c.freeHeapBufferList.tail) := by
  have hstart : c.toProcessingChannel.Frame
      (if c.isActive then (c.toProcessingChannel, .NO_ERROR) else c.start).1 := by
    split
    · exact .refl _
    · exact c.start_frame
  unfold requestOffline
  split
  · next p hp =>
    rw [hp] at hstart
    split
    · exact ⟨rfl, nofun⟩
    · next t bufIdx htake =>
      obtain ⟨hframe, hlisted, hheaps⟩ := takeHeap_some htake
      exact ⟨hlisted, fun _ => ⟨(hstart.trans hframe).trans ⟨rfl, rfl, rfl⟩, hheaps⟩⟩
  · next p rc hne hp =>
    exact ⟨rfl, fun h => absurd h hne⟩

theorem requestRegular_eq (c : YUVChannel) (b : Buffer) (frameNumber : UInt32)
    (pInputBuffer : Option Buffer) (planes metaPlanes : FrameLenOffset) (metadata : Metadata)
    (e : Calls) :
    (c.requestRegular b frameNumber pInputBuffer planes metaPlanes metadata e).1 =
      { c with
        toProcessingChannel :=
          match pInputBuffer with
          | some input => (c.startPostProc.requestInput input frameNumber planes metaPlanes e).1
          | none => (c.requestOutput b frameNumber e).1 } := by
  cases pInputBuffer <;> rfl

theorem Alike.list (h : c.Alike d) (b : Buffer) (frameNumber : UInt32) (metadata : Metadata) :
    (c.list b frameNumber metadata).Alike (d.list b frameNumber metadata) := by
  obtain ⟨hedge, hnoise, hcrop⟩ := h.modes
  refine ⟨⟨⟨h.metas, h.inputs⟩, h.settings⟩, ?_, h.heaps, h.bypass, h.size, ?_, ?_, ?_⟩
  · simp only [YUVChannel.list, h.listed, h.needsFramePostprocessing]
  · simp only [YUVChannel.list, readModes, hedge]
  · simp only [YUVChannel.list, readModes, hnoise]
  · simp only [YUVChannel.list, readModes, hcrop]

theorem Alike.requestRegular_output (h : c.Alike d) (b : Buffer) (frameNumber : UInt32)
    (planes metaPlanes : FrameLenOffset) (metadata : Metadata) (e : Calls) :
    (c.requestRegular b frameNumber none planes metaPlanes metadata e).1.Traceless
      (d.requestRegular b frameNumber none planes metaPlanes metadata e).1 := by
  rw [requestRegular_eq, requestRegular_eq]
  exact ⟨(h.toAlike.frame (c.requestOutput_frame b frameNumber e)
    (d.requestOutput_frame b frameNumber e)).traceless, h.listed, h.heaps⟩

/-- **A later request does the same in channels that are alike.** -/
theorem Alike.request (h : c.Alike d)
    (hc : (c.request buffer frameNumber pInputBuffer planes metaPlanes metadata e).rc = .NO_ERROR)
    (hd : (d.request buffer frameNumber pInputBuffer planes metaPlanes metadata e).rc = .NO_ERROR) :
    (c.request buffer frameNumber pInputBuffer planes metaPlanes metadata e).channel.Traceless
      (d.request buffer frameNumber pInputBuffer planes metaPlanes metadata e).channel := by
  rcases buffer with _ | b
  · exact h.traceless
  rcases metadata with _ | m
  · exact h.traceless
  rcases pInputBuffer with _ | input
  · have hlist := h.list b frameNumber m
    have hneeds := h.needsFramePostprocessing m
    have hbypass := h.bypass
    unfold YUVChannel.request at hc hd ⊢
    rcases hc' : c.bypass with _ | _
    · simp only [hbypass, hc', Bool.false_and, Bool.false_eq_true, if_false]
      exact h.requestRegular_output b frameNumber planes metaPlanes m e
    rcases hoffline : (c.readModes m).needsFramePostprocessing with _ | _
    · simp only [hbypass, hc', hneeds, hoffline, Option.isNone_none, Bool.and_self,
        Bool.false_eq_true, if_true, if_false]
      exact hlist.requestRegular_output b frameNumber planes metaPlanes m e
    · simp only [hbypass, hc', hneeds, hoffline, Option.isNone_none, Bool.and_self, if_true,
        Result.of] at hc hd ⊢
      obtain ⟨hlisted, hok⟩ := requestOffline_lists (c.list b frameNumber m) frameNumber e
      obtain ⟨hlisted', hok'⟩ := requestOffline_lists (d.list b frameNumber m) frameNumber e
      obtain ⟨hframe, hheaps⟩ := hok hc
      obtain ⟨hframe', hheaps'⟩ := hok' hd
      refine ⟨(hlist.toAlike.frame hframe hframe').traceless, ?_, ?_⟩
      · exact hlisted'.trans (hlist.listed.trans hlisted.symm)
      · exact hheaps'.trans ((congrArg tail hlist.heaps).trans hheaps.symm)
  · -- an input buffer
    have hstart : c.startPostProc.Alike d.startPostProc :=
      h.toAlike.frame ⟨rfl, rfl, rfl⟩ ⟨rfl, rfl, rfl⟩
    have hinput := (hstart.requestInput input frameNumber planes metaPlanes e).traceless
    simp only [YUVChannel.request, Option.isNone_some, Bool.and_false, Bool.false_eq_true, if_false,
      Result.of, requestRegular_eq]
    exact ⟨hinput, h.listed, h.heaps⟩

/-- **What a request leaves behind**: nothing if it takes nothing, and a trace otherwise. -/
theorem request_trace (c : YUVChannel) (buffer : Option Buffer) (frameNumber : UInt32)
    (pInputBuffer : Option Buffer) (planes metaPlanes : FrameLenOffset) (metadata : Option Metadata)
    (e : Calls) :
    (c.TakesNothing buffer pInputBuffer metadata e ∧
      c.Alike (c.request buffer frameNumber pInputBuffer planes metaPlanes metadata e).channel) ∨
    (¬ c.TakesNothing buffer pInputBuffer metadata e ∧
      ¬ c.Traceless
        (c.request buffer frameNumber pInputBuffer planes metaPlanes metadata e).channel) := by
  rcases buffer with _ | b
  · exact .inl ⟨.inl rfl, .refl c⟩
  rcases metadata with _ | m
  · exact .inl ⟨.inr (.inl rfl), .refl c⟩
  rcases pInputBuffer with _ | input
  · rcases hbypass : c.bypass with _ | _
    · have hframe := requestOutput_frame c.toProcessingChannel b frameNumber e
      simp only [request, hbypass, Bool.false_and, Bool.false_eq_true, if_false, Result.of,
        requestRegular_eq]
      exact .inl ⟨.inr (.inr hbypass), hframe.alike, rfl, rfl, hbypass.symm, ⟨rfl, rfl⟩, rfl, rfl, rfl⟩
    · -- the frame is listed, whatever happens then
      have hcond : ¬ c.TakesNothing (some b) none (some m) e := by simp [TakesNothing, hbypass]
      have hlisted : (c.list b frameNumber m).offlinePpInfoList ≠ c.offlinePpInfoList := by simp [list]
      refine .inr ⟨hcond, fun h => hlisted (Eq.trans ?_ h.listed)⟩
      simp only [request, hbypass, Option.isNone_none, Bool.and_self, if_true]
      split
      · exact (requestOffline_lists _ frameNumber e).1.symm
      · simp only [Result.of, requestRegular_eq]
  · have hcond : c.TakesNothing (some b) (some input) (some m) e ↔
        (e.srcFrame = false ∨ c.Untouched input) := by simp [TakesNothing]
    rw [hcond]
    simp only [YUVChannel.request, Option.isNone_some, Bool.and_false, Bool.false_eq_true, if_false,
      Result.of, requestRegular_eq]
    rcases requestInput_trace c.startPostProc input frameNumber planes metaPlanes e
      with ⟨huntouched, halike⟩ | ⟨huntouched, htrace⟩
    · exact .inl ⟨huntouched, ⟨⟨halike.metas, halike.inputs⟩, halike.settings⟩, rfl, rfl, rfl,
        ⟨rfl, rfl⟩, rfl, rfl, rfl⟩
    · exact .inr ⟨huntouched, fun h => htrace ⟨h.settings, h.metas, h.inputs⟩⟩

/-- **When a request of the YUV channel leaves no trace.** -/
theorem request_forgets_iff (c : YUVChannel) (buffer : Option Buffer) (frameNumber : UInt32)
    (pInputBuffer : Option Buffer) (planes metaPlanes : FrameLenOffset) (metadata : Option Metadata)
    (e : Calls) :
    c.Forgets (c.request buffer frameNumber pInputBuffer planes metaPlanes metadata e).channel ↔
      c.TakesNothing buffer pInputBuffer metadata e := by
  rcases c.request_trace buffer frameNumber pInputBuffer planes metaPlanes metadata e with
    ⟨hnothing, halike⟩ | ⟨hsomething, htrace⟩
  · exact ⟨fun _ => hnothing, fun _ => ⟨halike.traceless, fun _ _ _ _ _ _ _ => halike.request⟩⟩
  · exact ⟨fun h => absurd h.traceless htrace, fun h => absurd h hsomething⟩

end YUVChannel

/-! ## Requests of the picture channel -/

namespace PicChannel

variable {c d : PicChannel} {b : Buffer} {pInputBuffer : Option Buffer} {frameNumber : UInt32}
  {planes metaPlanes : FrameLenOffset} {e : Calls}

/-- Two channels whose lists are the same. -/
structure Alike (c d : PicChannel) : Prop
    extends c.toProcessingChannel.Alike d.toProcessingChannel where
  heaps : d.freeBufferList = c.freeBufferList

theorem Alike.refl (c : PicChannel) : c.Alike c := ⟨.refl _, rfl⟩

theorem Alike.traceless (h : c.Alike d) : c.Traceless d := ⟨h.toAlike.traceless, h.heaps⟩

theorem queueJpegSetting_queued (h : c.Queues e) (index : ℕ) (frameNumber : UInt32) :
    (c.queueJpegSetting index frameNumber e).1.jpegSettingsQ ≠ c.jpegSettingsQ := by
  obtain ⟨hsettings, hnode, hactive⟩ := h
  simp only [queueJpegSetting, hsettings, hnode, if_true, Queue.enqueue_active hactive]
  intro heq
  simpa using congrArg (fun q => q.items.length) heq

theorem queueJpegSetting_not (h : ¬ c.Queues e) (index : ℕ) (frameNumber : UInt32) :
    (c.queueJpegSetting index frameNumber e).1 = c := by
  unfold queueJpegSetting
  split
  · next hsettings =>
    split
    · next hnode =>
      have hactive : c.jpegSettingsQ.active = false := by
        rw [← Bool.not_eq_true]
        exact fun hactive => h ⟨hsettings, hnode, hactive⟩
      rw [Queue.enqueue_inactive hactive]
    · rfl
  · rfl

theorem requestFrame_lists (c : PicChannel) (frameNumber : UInt32) (rc : Status) (e : Calls) :
    c.toProcessingChannel.Frame (c.requestFrame frameNumber rc e).1.toProcessingChannel ∧
      (c.requestFrame frameNumber rc e).1.freeBufferList = c.freeBufferList.tail := by
  unfold requestFrame
  split
  · next hnil =>
    split <;> exact ⟨⟨rfl, rfl, rfl⟩, by simp [queueHeap, hnil]⟩
  · next hcons => exact ⟨⟨rfl, rfl, rfl⟩, by rw [hcons]; rfl⟩

theorem Alike.queueJpegSetting (h : c.Alike d) (index index' : ℕ) (frameNumber : UInt32) (e : Calls) :
    ((d.queueJpegSetting index' frameNumber e).1.jpegSettingsQ.items.map JpegSettings.request =
      (c.queueJpegSetting index frameNumber e).1.jpegSettingsQ.items.map JpegSettings.request) ∧
    (c.queueJpegSetting index frameNumber e).1.InputsAlike
      (d.queueJpegSetting index' frameNumber e).1.toProcessingChannel ∧
    (d.queueJpegSetting index' frameNumber e).1.freeBufferList =
      (c.queueJpegSetting index frameNumber e).1.freeBufferList := by
  unfold PicChannel.queueJpegSetting
  split
  · refine ⟨?_, ⟨h.metas, h.inputs⟩, h.heaps⟩
    simp only [h.settings]
    split
    · rcases hactive : c.jpegSettingsQ.active with _ | _
      · rw [Queue.enqueue_inactive hactive, Queue.enqueue_inactive hactive]
      · simp [Queue.enqueue_active hactive]
    · rfl
  · exact ⟨by rw [h.settings], h.toInputsAlike, h.heaps⟩

theorem Alike.requestFrom (h : c.Alike d) (index index' : ℕ) (frameNumber : UInt32)
    (pInputBuffer : Option Buffer) (planes metaPlanes : FrameLenOffset) (e : Calls) :
    (c.requestFrom index frameNumber pInputBuffer planes metaPlanes e).1.Agrees
      (d.requestFrom index' frameNumber pInputBuffer planes metaPlanes e).1 := by
  obtain ⟨hsettings, hinputs, hheaps⟩ := h.queueJpegSetting index index' frameNumber e
  rcases hq : c.queueJpegSetting index frameNumber e with ⟨c', rc⟩
  rcases hq' : d.queueJpegSetting index' frameNumber e with ⟨d', rc'⟩
  rw [hq, hq'] at hsettings hinputs hheaps
  unfold PicChannel.requestFrom
  rw [hq, hq']
  rcases pInputBuffer with _ | input
  · obtain ⟨hframe, htail⟩ := c'.requestFrame_lists frameNumber rc e
    obtain ⟨hframe', htail'⟩ := d'.requestFrame_lists frameNumber rc' e
    have halike := hinputs.frame hframe hframe'
    refine ⟨?_, halike.metas, halike.registered, ?_⟩
    · rw [hframe'.settings, hframe.settings, hsettings]
    · exact htail'.trans ((congrArg tail hheaps).trans htail.symm)
  · have halike := hinputs.requestInput input frameNumber planes metaPlanes e
    refine ⟨?_, halike.metas, halike.registered, hheaps⟩
    show map _ (d'.requestInput input frameNumber planes metaPlanes e).1.jpegSettingsQ.items =
      map _ (c'.requestInput input frameNumber planes metaPlanes e).1.jpegSettingsQ.items
    rw [requestInput_settings, requestInput_settings]
    exact hsettings

/-- **What becomes of the settings and of the frame**: nothing if the request takes nothing, and a
trace otherwise. -/
theorem requestFrom_trace (c : PicChannel) (index : ℕ) (frameNumber : UInt32)
    (pInputBuffer : Option Buffer) (planes metaPlanes : FrameLenOffset) (e : Calls) :
    (c.TakesNoFrame pInputBuffer e ∧
      c.Alike (c.requestFrom index frameNumber pInputBuffer planes metaPlanes e).1) ∨
    (¬ c.TakesNoFrame pInputBuffer e ∧
      ¬ c.Traceless (c.requestFrom index frameNumber pInputBuffer planes metaPlanes e).1) := by
  by_cases hqueues : c.Queues e
  · -- the settings are queued
    refine .inr ⟨fun h => h.1 hqueues, fun h => ?_⟩
    refine queueJpegSetting_queued hqueues index frameNumber (Eq.trans ?_ h.settings)
    unfold requestFrom
    rcases c.queueJpegSetting index frameNumber e with ⟨d, rc⟩
    rcases pInputBuffer with _ | input
    · exact (d.requestFrame_lists frameNumber rc e).1.settings.symm
    · exact (d.requestInput_settings input frameNumber planes metaPlanes e).symm
  have hsame := queueJpegSetting_not hqueues index frameNumber
  rcases hq : c.queueJpegSetting index frameNumber e with ⟨d, rc⟩
  rw [hq] at hsame
  obtain rfl : d = c := hsame
  unfold requestFrom
  rw [hq]
  rcases pInputBuffer with _ | input
  · obtain ⟨hframe, htail⟩ := d.requestFrame_lists frameNumber rc e
    rcases hfree : d.freeBufferList with _ | ⟨bufIdx, rest⟩
    · refine .inl ⟨⟨hqueues, hfree⟩, hframe.alike, ?_⟩
      rw [htail, hfree]
      rfl
    · refine .inr ⟨fun h => ?_, fun h => ?_⟩
      · have hnil : d.freeBufferList = [] := h.2
        rw [hfree] at hnil
        cases hnil
      · have hheaps := htail.symm.trans h.heaps
        rw [hfree] at hheaps
        exact cons_ne_self bufIdx rest hheaps.symm
  · rcases requestInput_trace d.toProcessingChannel input frameNumber planes
      metaPlanes e with ⟨huntouched, halike⟩ | ⟨huntouched, htrace⟩
    · exact .inl ⟨⟨hqueues, huntouched⟩, halike, rfl⟩
    · exact .inr ⟨fun h => huntouched h.2, fun h => htrace h.toTraceless⟩

theorem outputIndex_error {p q : ProcessingChannel} {rc : Status}
    (h : p.outputIndex b e = (q, .error rc)) : rc ≠ .NO_ERROR := by
  unfold outputIndex at h
  split at h
  · cases h
  split at h
  · split at h
    · cases h
    · cases h
      nofun
  · next hne hfailed =>
    cases h
    exact hne

theorem frame_mark {p : ProcessingChannel} {index : ℕ}
    (h : c.outputIndex b e = (p, .ok index)) (frameNumber : UInt32) :
    c.toProcessingChannel.Frame (mark p index frameNumber) := by
  have hframe := c.outputIndex_frame b e
  rw [h] at hframe
  exact hframe.trans ⟨rfl, rfl, rfl⟩

/-- **A later request does the same in channels that are alike.** -/
theorem Alike.request (h : c.Alike d)
    (hc : (c.request b frameNumber pInputBuffer planes metaPlanes e).2 = .NO_ERROR)
    (hd : (d.request b frameNumber pInputBuffer planes metaPlanes e).2 = .NO_ERROR) :
    (c.request b frameNumber pInputBuffer planes metaPlanes e).1.Agrees
      (d.request b frameNumber pInputBuffer planes metaPlanes e).1 := by
  -- both channels are started, and the output buffer has a slot in each
  have hslot (x : PicChannel)
      (hx : (x.request b frameNumber pInputBuffer planes metaPlanes e).2 = .NO_ERROR) :
      ∃ p index, x.outputIndex b e = (p, .ok index) ∧
        x.request b frameNumber pInputBuffer planes metaPlanes e =
          { x with toProcessingChannel := mark p index frameNumber }.requestFrom index frameNumber
            pInputBuffer planes metaPlanes e := by
    unfold PicChannel.request at hx ⊢
    split at hx
    · next hactive =>
      rw [if_pos hactive]
      rcases hindex : x.outputIndex b e with ⟨p, rc | index⟩
      · rw [hindex] at hx
        exact absurd hx (outputIndex_error hindex)
      · exact ⟨p, index, rfl, rfl⟩
    · cases hx
  obtain ⟨p, index, hindex, hrequest⟩ := hslot c hc
  obtain ⟨p', index', hindex', hrequest'⟩ := hslot d hd
  rw [hrequest, hrequest']
  have hmark := frame_mark hindex frameNumber
  have hmark' := frame_mark hindex' frameNumber
  have halike : ({ c with toProcessingChannel := mark p index frameNumber } : PicChannel).Alike
      { d with toProcessingChannel := mark p' index' frameNumber } :=
    ⟨h.toAlike.frame hmark hmark', h.heaps⟩
  exact halike.requestFrom index index' frameNumber pInputBuffer planes metaPlanes e

/-- **What a request leaves behind**: nothing if it takes nothing, and a trace otherwise. -/
theorem request_trace (c : PicChannel) (b : Buffer) (frameNumber : UInt32)
    (pInputBuffer : Option Buffer) (planes metaPlanes : FrameLenOffset) (e : Calls) :
    (c.TakesNothing b pInputBuffer e ∧
      c.Alike (c.request b frameNumber pInputBuffer planes metaPlanes e).1) ∨
    (¬ c.TakesNothing b pInputBuffer e ∧
      ¬ c.Traceless (c.request b frameNumber pInputBuffer planes metaPlanes e).1) := by
  unfold request
  split
  case isFalse hactive => exact .inl ⟨.inl (Bool.not_eq_true _ ▸ hactive), .refl c⟩
  next hactive =>
  have hframe := c.outputIndex_frame b e
  rcases hindex : c.outputIndex b e with ⟨p, rc | index⟩
  · rw [hindex] at hframe
    exact .inl ⟨.inr (.inl ⟨rc, by rw [hindex]⟩), hframe.alike, rfl⟩
  -- what is marked has the lists from before
  have hmark := frame_mark hindex frameNumber
  have hcond : c.TakesNothing b pInputBuffer e ↔
      ({ c with toProcessingChannel := mark p index frameNumber } : PicChannel).TakesNoFrame
        pInputBuffer e := by
    have hqueues : ({ c with toProcessingChannel := mark p index frameNumber } : PicChannel).Queues e
        ↔ c.Queues e := by rw [Queues, Queues, hmark.settings]
    have huntouched := hmark.untouched
    unfold TakesNothing TakesNoFrame
    rw [hqueues, hactive, hindex]
    cases pInputBuffer <;> simp [huntouched]
  rw [hcond]
  rcases requestFrom_trace { c with toProcessingChannel := mark p index frameNumber } index frameNumber
    pInputBuffer planes metaPlanes e with ⟨hnothing, halike⟩ | ⟨hsomething, htrace⟩
  · exact .inl ⟨hnothing, halike.toAlike.frame hmark.symm (.refl _), halike.heaps⟩
  · refine .inr ⟨hsomething, fun h => htrace ⟨⟨?_, ?_, ?_⟩, h.heaps⟩⟩
    · exact h.settings.trans hmark.settings.symm
    · exact h.metas.trans hmark.metas.symm
    · rw [h.inputs, hmark.inputs]

/-- **When a request of the picture channel leaves no trace.** -/
theorem request_forgets_iff (c : PicChannel) (b : Buffer) (frameNumber : UInt32)
    (pInputBuffer : Option Buffer) (planes metaPlanes : FrameLenOffset) (e : Calls) :
    c.Forgets (c.request b frameNumber pInputBuffer planes metaPlanes e).1 ↔
      c.TakesNothing b pInputBuffer e := by
  rcases c.request_trace b frameNumber pInputBuffer planes metaPlanes e with
    ⟨hnothing, halike⟩ | ⟨hsomething, htrace⟩
  · exact ⟨fun _ => hnothing, fun _ => ⟨halike.traceless, fun _ _ _ _ _ _ => halike.request⟩⟩
  · exact ⟨fun h => absurd h.traceless htrace, fun h => absurd h hsomething⟩

end PicChannel

/-- **A request that fails leaves no trace exactly if it takes nothing before it fails**, on the YUV
channel and on the picture channel. -/
theorem request_traceless_iff (c : YUVChannel) (d : PicChannel) (buffer : Option Buffer) (b : Buffer)
    (frameNumber : UInt32) (pInputBuffer : Option Buffer) (planes metaPlanes : FrameLenOffset)
    (metadata : Option Metadata) (e : Calls) :
    ((c.request buffer frameNumber pInputBuffer planes metaPlanes metadata e).rc ≠ .NO_ERROR →
      (c.Forgets (c.request buffer frameNumber pInputBuffer planes metaPlanes metadata e).channel ↔
        c.TakesNothing buffer pInputBuffer metadata e)) ∧
    ((d.request b frameNumber pInputBuffer planes metaPlanes e).2 ≠ .NO_ERROR →
      (d.Forgets (d.request b frameNumber pInputBuffer planes metaPlanes e).1 ↔
        d.TakesNothing b pInputBuffer e)) :=
  ⟨fun _ => c.request_forgets_iff buffer frameNumber pInputBuffer planes metaPlanes metadata e,
    fun _ => d.request_forgets_iff b frameNumber pInputBuffer planes metaPlanes e⟩

/-- A YUV channel that is started, with no heap buffers. -/
def yuvChannel (bypass : Bool) : YUVChannel where
  isActive := true
  numBufs := 4
  stream := { numBufs := 4 }
  memory := { maxHeapBuffers := 0 }
  offlineMetaMemory := { maxHeapBuffers := 2 }
  freeOfflineMeta := [0, 1]
  bypass := bypass
  width := 0
  height := 0

/-- A picture channel that is started, with no heap buffers. -/
def picChannel : PicChannel where
  isActive := true
  numBufs := 4
  stream := { numBufs := 4 }
  memory := { maxHeapBuffers := 0 }
  offlineMetaMemory := { maxHeapBuffers := 2 }
  freeOfflineMeta := [0, 1]
  yuvMemory := { maxHeapBuffers := 0 }

def outputBuffer : Buffer := ⟨7, 3, 4096⟩

def noPlanes : FrameLenOffset := ⟨0, fun _ => 0, fun _ => 0⟩

/-- The stream has no buffers, and there are no settings: both requests fail, and leave no trace. -/
theorem request_traceless_two :
    (yuvChannel false).Forgets
      ((yuvChannel false).request (some outputBuffer) 5 none noPlanes noPlanes (some {}) {}).channel ∧
    picChannel.Forgets
      (picChannel.request outputBuffer 5 none noPlanes noPlanes { settings := false }).1 := by
  refine ⟨((request_traceless_iff _ picChannel _ outputBuffer _ _ _ _ _ _).1 ?_).mpr
      (.inr (.inr rfl)),
    ((request_traceless_iff (yuvChannel false) _ none _ _ _ _ _ none _).2 ?_).mpr
      (.inr (.inr ⟨fun h => ?_, rfl⟩))⟩
  · decide
  · decide
  · cases h.1

/-- A frame that needs post-processing gets no heap buffer, and stays listed; a JPEG request gets none,
and its settings stay queued. -/
theorem request_leaves :
    (∃ d : YUVChannel, (yuvChannel true).request (some outputBuffer) 5 none noPlanes noPlanes
        (some { edgeMode := some 1 }) {} = ⟨d, true, .BAD_VALUE⟩ ∧
      d.offlinePpInfoList = [⟨5, true, 7, none⟩] ∧ ¬ (yuvChannel true).Forgets d) ∧
    ∃ d : PicChannel, picChannel.request outputBuffer 5 none noPlanes noPlanes {} = (d, .BAD_INDEX) ∧
      d.jpegSettingsQ.items = [⟨0, 5⟩] ∧ ¬ picChannel.Forgets d := by
  refine ⟨⟨_, rfl, rfl, fun h => ?_⟩, _, rfl, rfl, fun h => ?_⟩
  · cases h.traceless.listed
  · have hitems := congrArg Queue.items h.traceless.settings
    cases hitems

end ChannelRequest
