import Mathlib.Data.List.Range

/-!
# The memory of a stream

`QCamera3StreamMem` has a table of heap buffers and, from `mMaxHeapBuffers` on, one of the buffers
that the framework registers. A slot of either is in use while it has an ION handle. A slot of the
second also says which `buffer_handle_t *` it was registered for, which is set before the steps of a
registration that can fail, and stays when one of them does.
-/

namespace StreamBufs

open Function List

/-- What the functions of the memory and of the stream return; the last is a code that they pass on
from what they call. -/
inductive Status
  | NO_ERROR
  | BAD_VALUE
  | BAD_INDEX
  | NO_INIT
  | NO_MEMORY
  | ALREADY_EXISTS
  | INVALID_OPERATION
  | FAILED_TRANSACTION
  | DEAD_OBJECT
  | failed
  deriving DecidableEq, Repr

def MM_CAMERA_MAX_NUM_FRAMES : ℕ := 64

/-- `QCamera3MemInfo`: whether there is a handle, which is a number other than 0. -/
structure MemInfo where
  fd : ℤ := -1
  size : ℕ := 0
  handle : Bool := false
  deriving DecidableEq, Repr

/-- A buffer of the framework: the `buffer_handle_t *`, and the fd and the size that it leads to. -/
structure Buffer where
  handle : ℕ
  fd : ℤ
  size : ℕ
  deriving DecidableEq, Repr

/-- `QCamera3Memory`. -/
structure Memory where
  bufferCount : ℕ := 0
  memInfo : ℕ → MemInfo := fun _ => {}
  currentFrameNumbers : ℕ → Int32 := fun _ => -1

/-- `QCamera3StreamMem`: the heap memory, and the gralloc memory, of which `mStartIdx` is
`maxHeapBuffers`. -/
structure StreamMem where
  maxHeapBuffers : ℕ
  heap : Memory := {}
  gralloc : Memory := {}
  bufferHandle : ℕ → Option ℕ := fun _ => none

/-- The offsets of a frame. -/
structure FrameLenOffset where
  numPlanes : ℕ
  len : ℕ → ℕ
  offset : ℕ → ℕ

/-- `v4l2_plane`, as far as it is set. -/
structure Plane where
  length : ℕ := 0
  userptr : ℤ := 0
  dataOffset : ℕ := 0
  reserved : ℕ := 0
  deriving DecidableEq, Repr

/-- `mm_camera_buf_def_t`: `mem_info`, by which a definition is known to be made, is there or not;
`buffer` is the slot that the address belongs to. -/
structure BufDef where
  memInfo : Bool := false
  fd : ℤ := 0
  frameLen : ℕ := 0
  buffer : Option ℕ := none
  numPlanes : ℕ := 0
  bufIdx : ℕ := 0
  planes : ℕ → Plane := fun _ => {}

namespace Memory

def getFd (m : Memory) (index : ℕ) : Option ℤ :=
  if MM_CAMERA_MAX_NUM_FRAMES ≤ index then none
  else if (m.memInfo index).handle then some (m.memInfo index).fd else none

def getSize (m : Memory) (index : ℕ) : Option ℕ :=
  if MM_CAMERA_MAX_NUM_FRAMES ≤ index then none
  else if (m.memInfo index).handle then some (m.memInfo index).size else none

/-- The planes of a definition: the first takes its fd from the slot of the buffer, every other one
from the slot that has the plane's own number. -/
def planes (m : Memory) (offset : FrameLenOffset) (index : ℕ) : ℕ → Plane
  | 0 => ⟨offset.len 0, (m.memInfo index).fd, offset.offset 0, 0⟩
  | p + 1 =>
    if p + 1 < offset.numPlanes then
      ⟨offset.len (p + 1), (m.memInfo (p + 1)).fd, offset.offset (p + 1),
        (m.planes offset index p).reserved + (m.planes offset index p).length⟩
    else {}

/-- `getBufDef`; `buffer` is the address that `getPtrLocked` gives. -/
def getBufDef (m : Memory) (offset : FrameLenOffset) (bufDef : BufDef) (buffer : Option ℕ)
    (index : ℕ) : BufDef × Status :=
  if m.bufferCount = 0 then (bufDef, .NO_INIT)
  else
    ({ memInfo := true
       fd := (m.memInfo index).fd
       frameLen := (m.memInfo index).size
       buffer := buffer
       numPlanes := offset.numPlanes
       bufIdx := index
       planes := m.planes offset index }, .NO_ERROR)

/-- A new mark for a slot that is in use. -/
def mark (m : Memory) (index : ℕ) (frameNumber : UInt32) : Memory × Status :=
  if (m.memInfo index).handle then
    ({ m with
       currentFrameNumbers := update m.currentFrameNumbers index frameNumber.toInt32 },
      .NO_ERROR)
  else (m, .BAD_INDEX)

end Memory

namespace StreamMem

def InRange (m : StreamMem) (index : ℕ) : Prop :=
  m.maxHeapBuffers ≤ index ∧ index < MM_CAMERA_MAX_NUM_FRAMES

def slots (m : StreamMem) : List ℕ :=
  (List.range MM_CAMERA_MAX_NUM_FRAMES).filter (m.maxHeapBuffers ≤ ·)

def memory (m : StreamMem) (index : ℕ) : Memory :=
  if index < m.maxHeapBuffers then m.heap else m.gralloc

def info (m : StreamMem) (index : ℕ) : MemInfo := (m.memory index).memInfo index

def getFd (m : StreamMem) (index : ℕ) : Option ℤ := (m.memory index).getFd index

def getSize (m : StreamMem) (index : ℕ) : Option ℕ := (m.memory index).getSize index

/-- `valid`: a size that is an error is below 0. -/
def valid (m : StreamMem) (index : ℕ) : Bool :=
  match m.getSize index with
  | some size => decide (0 < size)
  | none => false

/-- `getPtrLocked`: heap buffers are counted, those of the framework have their handles. -/
def getPtr (m : StreamMem) (index : ℕ) : Option ℕ :=
  if index < m.maxHeapBuffers then
    if index < m.heap.bufferCount then some index else none
  else if index < MM_CAMERA_MAX_NUM_FRAMES ∧ (m.gralloc.memInfo index).handle then some index
  else none

/-- `getBufDef`: `mem_info` is set in any case. -/
def getBufDef (m : StreamMem) (offset : FrameLenOffset) (bufDef : BufDef) (index : ℕ) :
    BufDef × Status :=
  let r := (m.memory index).getBufDef offset bufDef (m.getPtr index) index
  ({ r.1 with memInfo := true }, r.2)

/-- `getMatchBufIndex`: the first slot of the buffer. -/
def getMatchBufIndex (m : StreamMem) (handle : ℕ) : Option ℕ :=
  m.slots.find? fun i => m.bufferHandle i = some handle

/-- `getFreeIndexLocked`. -/
def getFreeIndex (m : StreamMem) : Option ℕ :=
  if m.gralloc.bufferCount ≥ MM_CAMERA_MAX_NUM_FRAMES - 1 then none
  else m.slots.find? fun i => !(m.gralloc.memInfo i).handle

/-- How far a registration comes: to a handle that is not imported, to one that is not mapped, or to
its end. -/
inductive Import
  | importFails
  | mmapFails
  | mapped
  deriving DecidableEq, Repr

/-- The slot is for the buffer from now on, with a new entry. -/
def put (m : StreamMem) (index : ℕ) (b : Buffer) (info : MemInfo) (bufferCount : ℕ) : StreamMem :=
  { m with
    gralloc :=
      { m.gralloc with
        bufferCount := bufferCount
        memInfo := update m.gralloc.memInfo index info }
    bufferHandle := update m.bufferHandle index (some b.handle) }

/-- `registerBuffer`: where the handle is not imported, the entry stays as it is. -/
def registerBuffer (m : StreamMem) (b : Buffer) (import_ : Import) : StreamMem × Status :=
  if (m.getMatchBufIndex b.handle).isSome then (m, .ALREADY_EXISTS)
  else if m.gralloc.bufferCount ≥ MM_CAMERA_MAX_NUM_FRAMES - 1 - m.maxHeapBuffers then (m, .BAD_INDEX)
  else match m.getFreeIndex with
    | none => (m, .BAD_INDEX)
    | some idx =>
      match import_ with
      | .importFails => (m.put idx b (m.gralloc.memInfo idx) m.gralloc.bufferCount, .NO_MEMORY)
      | .mmapFails => (m.put idx b ⟨b.fd, b.size, false⟩ m.gralloc.bufferCount, .NO_MEMORY)
      | .mapped => (m.put idx b ⟨b.fd, b.size, true⟩ (m.gralloc.bufferCount + 1), .NO_ERROR)

/-- `unregisterBufferLocked`: the entry is all zero. -/
def unregisterBufferLocked (m : StreamMem) (index : ℕ) : StreamMem :=
  { m with
    gralloc :=
      { bufferCount := m.gralloc.bufferCount - 1
        memInfo := update m.gralloc.memInfo index ⟨0, 0, false⟩
        currentFrameNumbers := update m.gralloc.currentFrameNumbers index (-1) }
    bufferHandle := update m.bufferHandle index none }

def unregisterBuffer (m : StreamMem) (index : ℕ) : StreamMem × Status :=
  if MM_CAMERA_MAX_NUM_FRAMES ≤ index then (m, .BAD_VALUE)
  else if index < m.maxHeapBuffers then (m, .BAD_INDEX)
  else if (m.gralloc.memInfo index).handle then (m.unregisterBufferLocked index, .NO_ERROR)
  else (m, .BAD_VALUE)

def markFrameNumber (m : StreamMem) (index : ℕ) (frameNumber : UInt32) : StreamMem × Status :=
  if index < m.maxHeapBuffers then
    if index ≥ m.heap.bufferCount then (m, .BAD_INDEX)
    else
      let r := m.heap.mark index frameNumber
      ({ m with heap := r.1 }, r.2)
  else if index ≥ MM_CAMERA_MAX_NUM_FRAMES then (m, .BAD_INDEX)
  else
    let r := m.gralloc.mark index frameNumber
    ({ m with gralloc := r.1 }, r.2)

/-- `getFrameNumber`: the mark, or an error, which is below 0 like the mark of a slot without one. -/
def getFrameNumber (m : StreamMem) (index : ℕ) : Int32 :=
  if index < m.maxHeapBuffers then
    if index ≥ m.heap.bufferCount then -1
    else if (m.heap.memInfo index).handle then m.heap.currentFrameNumbers index else -1
  else if index ≥ MM_CAMERA_MAX_NUM_FRAMES then -1
  else if (m.gralloc.memInfo index).handle then m.gralloc.currentFrameNumbers index else -1

/-- `getHeapBufferIndex`: the first heap buffer with the mark. -/
def getHeapBufferIndex (m : StreamMem) (frameNumber : UInt32) : Option ℕ :=
  (List.range m.heap.bufferCount).find? fun i =>
    (m.heap.memInfo i).handle && m.heap.currentFrameNumbers i = frameNumber.toInt32

/-- `allocateOne`: a heap buffer of whole pages is added, if there is room and memory; `fd` is that of
the ION buffer, if it is allocated and mapped. -/
def allocateOne (m : StreamMem) (size : ℕ) (fd : Option ℤ) : Except Status (StreamMem × ℕ) :=
  if m.heap.bufferCount + 1 > m.maxHeapBuffers then .error .BAD_INDEX
  else match fd with
    | none => .error .NO_MEMORY
    | some fd =>
      .ok ({ m with
        heap :=
          { m.heap with
            bufferCount := m.heap.bufferCount + 1
            memInfo := update m.heap.memInfo m.heap.bufferCount
              ⟨fd, (size + 4095) / 4096 * 4096, true⟩ } }, m.heap.bufferCount)

def getBufferHandle (m : StreamMem) (index : ℕ) : Option ℕ :=
  if m.maxHeapBuffers ≤ index ∧ index < MM_CAMERA_MAX_NUM_FRAMES ∧
      (m.gralloc.memInfo index).handle then m.bufferHandle index
  else none

/-! ## What they do -/

section

variable {m t : StreamMem} {b : Buffer} {handle i idx : ℕ} {rc : Status}

theorem mem_slots : i ∈ m.slots ↔ m.InRange i := by
  simp only [slots, InRange, mem_filter, mem_range, decide_eq_true_eq]
  exact and_comm

theorem getMatchBufIndex_eq_some (h : m.getMatchBufIndex handle = some i) :
    m.InRange i ∧ m.bufferHandle i = some handle :=
  ⟨mem_slots.mp (mem_of_find?_eq_some h), by simpa using find?_some h⟩

theorem getMatchBufIndex_eq_none (h : m.getMatchBufIndex handle = none) (hi : m.InRange i) :
    m.bufferHandle i ≠ some handle := by
  simpa using find?_eq_none.mp h i (mem_slots.mpr hi)

theorem getFreeIndex_eq_some (h : m.getFreeIndex = some i) :
    m.InRange i ∧ (m.gralloc.memInfo i).handle = false := by
  unfold getFreeIndex at h
  split at h
  · cases h
  · exact ⟨mem_slots.mp (mem_of_find?_eq_some h), by simpa using find?_some h⟩

/-- **What a registration can do**: nothing, if the buffer is registered or there is no room, or to
change a slot that is free, which then is for the buffer, and in use if the registration succeeds. -/
theorem registerBuffer_cases {import_ : Import} (h : m.registerBuffer b import_ = (t, rc)) :
    (t = m ∧ rc ≠ .NO_ERROR) ∨
      ∃ idx info count, m.InRange idx ∧ (m.gralloc.memInfo idx).handle = false ∧
        (∀ j, m.InRange j → m.bufferHandle j ≠ some b.handle) ∧ t = m.put idx b info count ∧
        ((rc = .NO_ERROR ∧ info = ⟨b.fd, b.size, true⟩ ∧ count = m.gralloc.bufferCount + 1) ∨
          (rc ≠ .NO_ERROR ∧ info.handle = false ∧ count = m.gralloc.bufferCount)) := by
  unfold registerBuffer at h
  split at h
  · cases h
    exact .inl ⟨rfl, nofun⟩
  next hmatch =>
  have hother (j : ℕ) (hj : m.InRange j) : m.bufferHandle j ≠ some b.handle :=
    getMatchBufIndex_eq_none (Option.not_isSome_iff_eq_none.mp hmatch) hj
  split at h
  · cases h
    exact .inl ⟨rfl, nofun⟩
  split at h
  · cases h
    exact .inl ⟨rfl, nofun⟩
  next idx hfree =>
  obtain ⟨hrange, hhandle⟩ := getFreeIndex_eq_some hfree
  cases import_ with
  | importFails =>
    cases h
    exact .inr ⟨idx, _, _, hrange, hhandle, hother, rfl, .inr ⟨nofun, hhandle, rfl⟩⟩
  | mmapFails =>
    cases h
    exact .inr ⟨idx, _, _, hrange, hhandle, hother, rfl, .inr ⟨nofun, rfl, rfl⟩⟩
  | mapped =>
    cases h
    exact .inr ⟨idx, _, _, hrange, hhandle, hother, rfl, .inl ⟨rfl, rfl, rfl⟩⟩

@[simp] theorem put_bufferHandle_self (m : StreamMem) (i : ℕ) (b : Buffer) (info : MemInfo) (k : ℕ) :
    (m.put i b info k).bufferHandle i = some b.handle := update_self ..

@[simp] theorem put_memInfo_self (m : StreamMem) (i : ℕ) (b : Buffer) (info : MemInfo) (k : ℕ) :
    (m.put i b info k).gralloc.memInfo i = info := update_self ..

theorem put_bufferHandle_of_ne (hne : i ≠ idx) (info : MemInfo) (k : ℕ) :
    (m.put idx b info k).bufferHandle i = m.bufferHandle i := update_of_ne hne ..

theorem put_memInfo_of_ne (hne : i ≠ idx) (info : MemInfo) (k : ℕ) :
    (m.put idx b info k).gralloc.memInfo i = m.gralloc.memInfo i := update_of_ne hne ..

theorem unregisterBuffer_of_used (hi : m.InRange i) (used : (m.gralloc.memInfo i).handle = true) :
    (m.unregisterBuffer i).1 = m.unregisterBufferLocked i := by
  unfold unregisterBuffer
  rw [if_neg (by have := hi.2; omega), if_neg (by have := hi.1; omega), if_pos used]

/-- The memory with other marks. -/
def withMarks (m : StreamMem) (heap gralloc : ℕ → Int32) : StreamMem :=
  { m with
    heap := { m.heap with currentFrameNumbers := heap }
    gralloc := { m.gralloc with currentFrameNumbers := gralloc } }

theorem markFrameNumber_eq (m : StreamMem) (index : ℕ) (frameNumber : UInt32) :
    ∃ heap gralloc, (m.markFrameNumber index frameNumber).1 = m.withMarks heap gralloc := by
  unfold markFrameNumber Memory.mark
  split
  · split
    · exact ⟨_, _, rfl⟩
    · split
      · exact ⟨_, _, rfl⟩
      · exact ⟨_, _, rfl⟩
  · split
    · exact ⟨_, _, rfl⟩
    · split
      · exact ⟨_, _, rfl⟩
      · exact ⟨_, _, rfl⟩

theorem markFrameNumber_of_used (hi : m.InRange i) (used : (m.gralloc.memInfo i).handle = true)
    (frameNumber : UInt32) : (m.markFrameNumber i frameNumber).1 =
      m.withMarks m.heap.currentFrameNumbers
        (update m.gralloc.currentFrameNumbers i frameNumber.toInt32) := by
  unfold markFrameNumber Memory.mark
  rw [if_neg (by have := hi.1; omega), if_neg (by have := hi.2; omega), if_pos used]
  rfl

theorem markFrameNumber_other {j : ℕ} (hne : j ≠ i) (frameNumber : UInt32) :
    (m.markFrameNumber i frameNumber).1.gralloc.currentFrameNumbers j =
      m.gralloc.currentFrameNumbers j := by
  unfold markFrameNumber Memory.mark
  split
  · split <;> rfl
  · split
    · rfl
    · split
      · exact update_of_ne hne ..
      · rfl

theorem getSize_eq_some {size : ℕ} (h : m.getSize i = some size) :
    i < MM_CAMERA_MAX_NUM_FRAMES ∧ (m.info i).handle = true ∧ m.getFd i = some (m.info i).fd := by
  unfold getSize Memory.getSize at h
  unfold getFd Memory.getFd
  split at h
  · cases h
  · next hlt =>
    split at h
    · next hhandle => exact ⟨by omega, hhandle, by rw [if_neg hlt, if_pos hhandle]; rfl⟩
    · cases h

/-- The definition that a slot gets. -/
def bufDef (m : StreamMem) (offset : FrameLenOffset) (index : ℕ) : BufDef where
  memInfo := true
  fd := (m.info index).fd
  frameLen := (m.info index).size
  buffer := m.getPtr index
  numPlanes := offset.numPlanes
  bufIdx := index
  planes := (m.memory index).planes offset index

theorem getBufDef_of_counted (counted : (m.memory i).bufferCount ≠ 0) (offset : FrameLenOffset)
    (d : BufDef) : m.getBufDef offset d i = (m.bufDef offset i, .NO_ERROR) := by
  unfold getBufDef Memory.getBufDef
  rw [if_neg counted]
  rfl

theorem memory_of_inRange (hi : m.InRange i) : m.memory i = m.gralloc := by
  unfold memory
  rw [if_neg (by have := hi.1; omega)]

theorem info_of_inRange (hi : m.InRange i) : m.info i = m.gralloc.memInfo i := by
  unfold info memory
  rw [if_neg (by have := hi.1; omega)]

end

end StreamMem

end StreamBufs
