import MidoCamera.Util.Deque

/-!
# The jobs of the HAL3 post-processor

A frame of the camera comes as a super buffer, and so does its metadata; a frame of the framework
comes with its metadata in one structure. On its way through the post-processor a frame is in an
input queue, or belongs to a job: to a post-processing job first, and then to a JPEG job.

The queues are `QCameraQueue`s of pointers to these. What they do to the contents is said here for
queues of the things that are pointed to, and is what the deque of the queue does.
-/

namespace PostProc

open List

/-! ## What comes in -/

/-- Whose buffer a super buffer holds: the snapshot stream's, the metadata stream's, or the
reprocess stream's. -/
inductive BufKind
  | frame
  | metadata
  | reprocessed
  deriving DecidableEq, Repr

/-- `mm_camera_super_buf_t`, with one buffer: where the structure is, whose buffer it holds and the
buffer's index, and the request that the content is of. -/
structure SuperBuf where
  addr : ℕ
  kind : BufKind
  bufIdx : ℕ
  request : ℕ
  deriving DecidableEq, Repr

/-- `reprocess_type_t`. -/
inductive ReprocessType
  | none
  | jpeg
  | yuv
  | privateType
  | raw
  deriving DecidableEq, Repr

/-- `qcamera_fwk_input_pp_data_t`: where it is, its request, and what of its configuration and
metadata decides on a reprocess. The modes are there if the metadata has them. -/
structure FwkInput where
  addr : ℕ
  frameNumber : ℕ
  reprocessType : ReprocessType
  edgeMode : Option ℕ
  noiseRedMode : Option ℕ
  reprocessFlags : Option ℕ
  deriving DecidableEq, Repr

def camEdgeModeOff : ℕ := 0

def camNoiseReductionModeOff : ℕ := 0

def needsReprocess (frame : FwkInput) : Bool :=
  if frame.reprocessType = .none then false
  else
    let edgeModeOn := match frame.edgeMode with
      | some edgeMode => camEdgeModeOff ≠ edgeMode
      | none => false
    let noiseRedModeOn := match frame.noiseRedMode with
      | some noiseRedMode => camNoiseReductionModeOff ≠ noiseRedMode
      | none => false
    let reproNotDone := frame.reprocessFlags.isNone
    edgeModeOn || noiseRedModeOn || reproNotDone

/-- `jpeg_settings_t`, with the request that queued it. -/
structure JpegSettings where
  outBufIndex : ℕ
  request : ℕ
  deriving DecidableEq, Repr

/-! ## Jobs -/

/-- `qcamera_hal3_pp_buffer_t`. -/
structure PpBuffer where
  input : SuperBuf
  frameNumber : ℕ
  deriving DecidableEq, Repr

/-- `qcamera_hal3_pp_data_t`, at its address. -/
structure PpData where
  addr : ℕ
  srcFrame : Option SuperBuf := none
  fwkSrcFrame : Option FwkInput := none
  srcMetadata : Option SuperBuf := none
  jpegSettings : Option JpegSettings := none
  deriving DecidableEq, Repr

/-- `qcamera_hal3_jpeg_data_t`, at its address. The job id is written after the job is queued, and
is kept apart. -/
structure JpegData where
  addr : ℕ
  srcFrame : Option SuperBuf := none
  srcReprocFrame : Option SuperBuf := none
  fwkFrame : Option FwkInput := none
  fwkSrcBuffer : Option FwkInput := none
  srcMetadata : Option SuperBuf := none
  jpegSettings : JpegSettings
  deriving DecidableEq, Repr

def PpData.owns (job : PpData) : List SuperBuf := job.srcFrame.toList ++ job.srcMetadata.toList

def JpegData.owns (job : JpegData) : List SuperBuf :=
  job.srcFrame.toList ++ job.srcReprocFrame.toList ++ job.srcMetadata.toList

/-! ## Queues -/

/-- A queue: its contents, and whether it takes and gives elements. -/
structure Queue (α : Type) where
  items : List α := []
  active : Bool := true
  deriving DecidableEq, Repr

namespace Queue

variable {α : Type}

/-- `enqueue`, where the node is allocated. -/
def enqueue (q : Queue α) (a : α) : Queue α :=
  if q.active then { q with items := q.items ++ [a] } else q

/-- `dequeue`: from the head. -/
def dequeue (q : Queue α) : Option α × Queue α :=
  if q.active then (q.items.head?, { q with items := q.items.tail }) else (none, q)

/-- `dequeue(false)`: from the end; what it takes out is not looked at. -/
def dequeueLast (q : Queue α) : Queue α :=
  if q.active then { q with items := q.items.dropLast } else q

/-- `flush`, without what it does to the elements. -/
def flush (q : Queue α) : Queue α := if q.active then ⟨[], false⟩ else q

/-- The elements that `flush` releases. -/
def flushed (q : Queue α) : List α := if q.active then q.items else []

def init (q : Queue α) : Queue α := { q with active := true }

def isEmpty (q : Queue α) : Bool := q.items.isEmpty

theorem enqueue_active {q : Queue α} (h : q.active = true) (a : α) :
    q.enqueue a = { q with items := q.items ++ [a] } := if_pos h

theorem enqueue_inactive {q : Queue α} (h : q.active = false) (a : α) : q.enqueue a = q :=
  if_neg (by simp [h])

@[simp] theorem enqueue_isActive (q : Queue α) (a : α) : (q.enqueue a).active = q.active := by
  unfold enqueue
  split <;> rfl

@[simp] theorem dequeueLast_isActive (q : Queue α) : q.dequeueLast.active = q.active := by
  unfold dequeueLast
  split <;> rfl

theorem dequeue_some {q q' : Queue α} {a : α} (h : q.dequeue = (some a, q')) :
    q.active = true ∧ q.items = a :: q'.items ∧ q'.active = true := by
  unfold dequeue at h
  split at h
  · next hactive =>
    rcases q with ⟨items, active⟩
    cases items with
    | nil => simp at h
    | cons b items =>
      simp only [head?_cons, tail_cons, Prod.mk.injEq, Option.some.injEq] at h
      obtain ⟨rfl, rfl⟩ := h
      exact ⟨hactive, rfl, hactive⟩
  · cases h

theorem dequeue_none {q q' : Queue α} (h : q.dequeue = (none, q')) :
    q' = q ∧ (q.active = true → q.items = []) := by
  unfold dequeue at h
  split at h
  · next hactive =>
    rcases q with ⟨items, active⟩
    cases items with
    | nil =>
      cases h
      exact ⟨rfl, fun _ => rfl⟩
    | cons b items => simp at h
  · next hactive =>
    cases h
    exact ⟨rfl, fun h => absurd h hactive⟩

theorem dequeue_cons {q : Queue α} {a : α} {items : List α} (hactive : q.active = true)
    (h : q.items = a :: items) : q.dequeue = (some a, { q with items := items }) := by
  simp [dequeue, hactive, h]

theorem dequeue_isActive (q : Queue α) : q.dequeue.2.active = q.active := by
  unfold dequeue
  split <;> rfl

theorem mem_enqueue {q : Queue α} {a b : α} (h : b ∈ (q.enqueue a).items) : b ∈ q.items ∨ b = a := by
  unfold enqueue at h
  split at h
  · simpa using h
  · exact .inl h

theorem mem_dequeueLast {q : Queue α} {b : α} (h : b ∈ q.dequeueLast.items) : b ∈ q.items := by
  unfold dequeueLast at h
  split at h
  · exact (dropLast_sublist _).subset h
  · exact h

theorem mem_dequeue {q : Queue α} {b : α} (h : b ∈ q.dequeue.2.items) : b ∈ q.items := by
  unfold dequeue at h
  split at h
  · exact mem_of_mem_tail h
  · exact h

theorem mem_flush {q : Queue α} {b : α} (h : b ∈ q.flush.items) : b ∈ q.items := by
  unfold flush at h
  split at h
  · cases h
  · exact h

theorem count_enqueue [DecidableEq β] (q : Queue α) (a : α) (f : α → β) (b : β) :
    ((q.enqueue a).items.map f).count b ≤ (q.items.map f).count b + [f a].count b := by
  unfold enqueue
  split
  · rw [map_append, count_append, map_singleton]
  · exact Nat.le_add_right _ _

theorem count_flush [DecidableEq β] (q : Queue α) (f : α → β) (b : β) :
    (q.flush.items.map f).count b + (q.flushed.map f).count b = (q.items.map f).count b := by
  unfold flush flushed
  split <;> simp

/-- A queue that is used stays on or off, and is not changed while it is off. -/
structure Keeps (q q' : Queue α) : Prop where
  active : q'.active = q.active
  off : q.active = false → q' = q

theorem Keeps.refl (q : Queue α) : q.Keeps q := ⟨rfl, fun _ => rfl⟩

theorem Keeps.trans {q q' q'' : Queue α} (h : q.Keeps q') (h' : q'.Keeps q'') : q.Keeps q'' where
  active := h'.active.trans h.active
  off hoff := (h'.off (h.active.trans hoff)).trans (h.off hoff)

theorem Keeps.enqueue (q : Queue α) (a : α) : q.Keeps (q.enqueue a) where
  active := enqueue_isActive q a
  off hoff := enqueue_inactive hoff a

theorem Keeps.dequeue (q : Queue α) : q.Keeps q.dequeue.2 where
  active := dequeue_isActive q
  off hoff := by simp [Queue.dequeue, hoff]

theorem Keeps.dequeueLast (q : Queue α) : q.Keeps q.dequeueLast where
  active := dequeueLast_isActive q
  off hoff := by simp [Queue.dequeueLast, hoff]

theorem Keeps.taken {q q' : Queue α} {a : Option α} (h : q.dequeue = (a, q')) : q.Keeps q' := by
  have hkeeps := Keeps.dequeue q
  rwa [h] at hkeeps

/-! ### The queue as a view of the deque -/

variable {addr : α → ℕ} {q : Queue α} {d : QCamera.Deque}

end Queue

end PostProc
