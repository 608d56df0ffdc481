import MidoCamera.Library.Run
import MidoCamera.Library.Tally
import Mathlib.Data.List.Range

/-!
# Ownership of the buffer memory

A memory object has a table of buffers, of which the first `bufferCount` are in use. Buffers come
from ION, one by one, or from a pool that several objects share; `alloc` adds buffers behind those
in use, and rolls back when one is missing. The subclasses map what they got and raise the count: a
heap memory rolls back once more when a mapping fails. The roll-back of `alloc` starts at the first
slot of the table, also where buffers are added, and that of `allocateMore` ends before the slot
that could not be mapped.
-/

namespace IonMemory

open Loop List

/-- A buffer of ION: its handle, and what the pool looks at. -/
structure Buffer where
  handle : ℕ
  size : ℕ
  heapId : ℕ
  cached : Bool
  deriving DecidableEq, Repr

def MM_CAMERA_MAX_NUM_FRAMES : ℕ := 64

def CAM_STREAM_TYPE_OFFLINE_PROC : ℕ := 9

/-- The two kinds of objects: a heap memory has no pool, a stream memory may have one. -/
inductive Kind
  | heap
  | stream (memoryPool : Bool)
  deriving DecidableEq, Repr

def Kind.pooled : Kind → Bool
  | .heap => false
  | .stream memoryPool => memoryPool

/-- A memory object. A slot of the table may hold a buffer that is not in use. -/
structure Memory where
  kind : Kind
  streamType : ℕ
  cached : Bool
  bufferCount : ℕ := 0
  memInfo : ℕ → Option Buffer := fun _ => none

/-- The pool, as one list of the buffers with the stream type of the list each is in; the number of
handles given, the handles freed, and the mask of the heap that all buffers are allocated from. -/
structure Ion where
  pools : List (ℕ × Buffer) := []
  next : ℕ := 0
  freed : List ℕ := []
  heapIdMask : ℕ := 0

/-! ## One buffer -/

def align (size : ℕ) : ℕ := (size + 4095) / 4096 * 4096

def alignSecure (size : ℕ) : ℕ := (size + 1048575) / 1048576 * 1048576

namespace Ion

/-- Whether a pooled buffer serves a request. -/
def fits (streamType heapId size : ℕ) (cached : Bool) (e : ℕ × Buffer) : Bool :=
  e.1 == streamType && e.2.heapId == heapId && e.2.cached == cached &&
    if streamType = CAM_STREAM_TYPE_OFFLINE_PROC then e.2.size == align size else e.2.size ≥ size

/-- `allocOneBuffer`: a buffer of ION, if there is one. -/
def allocOneBuffer (ion : Ion) (size : ℕ) (cached secure ok : Bool) : Option (Buffer × Ion) :=
  let len := if secure then alignSecure (align size) else align size
  if ok then some (⟨ion.next, len, ion.heapIdMask, cached⟩, { ion with next := ion.next + 1 })
  else none

/-- `QCameraMemoryPool::allocateBuffer`: the first buffer that fits, or one of ION. -/
def allocateBuffer (ion : Ion) (streamType size : ℕ) (cached secure ok : Bool) :
    Option (Buffer × Ion) :=
  let fits := fits streamType ion.heapIdMask size cached
  match ion.pools.find? fits with
  | some e => some (e.2, { ion with pools := ion.pools.eraseP fits })
  | none => ion.allocOneBuffer size cached secure ok

/-- `QCameraMemoryPool::clear`. -/
def clear (ion : Ion) : Ion :=
  { ion with pools := [], freed := ion.freed ++ ion.pools.map fun e => e.2.handle }

end Ion

namespace Memory

/-- `deallocOneBuffer`: the buffer of a slot is freed and the slot cleared. -/
def deallocOneBuffer (m : Memory) (ion : Ion) (i : ℕ) : Memory × Ion :=
  match m.memInfo i with
  | some b => ({ m with memInfo := Function.update m.memInfo i none },
      { ion with freed := ion.freed ++ [b.handle] })
  | none => (m, ion)

/-- `QCameraMemoryPool::releaseBuffer`: the pool gets the buffer, the slot is left as it is. -/
def releaseBuffer (m : Memory) (ion : Ion) (i : ℕ) : Memory × Ion :=
  match m.memInfo i with
  | some b => (m, { ion with pools := ion.pools ++ [(m.streamType, b)] })
  | none => (m, ion)

def release (m : Memory) (ion : Ion) (i : ℕ) : Memory × Ion :=
  if m.kind.pooled then m.releaseBuffer ion i else m.deallocOneBuffer ion i

/-- The buffers of several slots are given back, one after the other. -/
def eachSlot (one : Memory → Ion → ℕ → Memory × Ion) : Memory → Ion → List ℕ → Memory × Ion
  | m, ion, [] => (m, ion)
  | m, ion, i :: is => eachSlot one (one m ion i).1 (one m ion i).2 is

/-! ## Many buffers -/

/-- The loop of `alloc`: `n` slots from `i` on. The roll-back is from `i - 1` down to the first
slot. -/
def allocLoop (size : ℕ) (secure : Bool) (ok : ℕ → Bool) :
    ℕ → ℕ → Memory → Ion → Memory × Ion × Bool
  | 0, _, m, ion => (m, ion, true)
  | n + 1, i, m, ion =>
    let got := if m.kind.pooled then ion.allocateBuffer m.streamType size m.cached secure (ok i)
      else ion.allocOneBuffer size m.cached secure (ok i)
    match got with
    | none =>
      let r := eachSlot release m ion (List.range i).reverse
      (r.1, r.2, false)
    | some (b, ion') =>
      allocLoop size secure ok n (i + 1)
        { m with memInfo := Function.update m.memInfo i (some b) } ion'

/-- `QCameraMemory::alloc`: `ok i` is whether ION has a buffer for the slot `i`. -/
def alloc (m : Memory) (ion : Ion) (count size : ℕ) (secure : Bool) (ok : ℕ → Bool) :
    Memory × Ion × Bool :=
  if m.bufferCount + count > MM_CAMERA_MAX_NUM_FRAMES then (m, ion, false)
  else allocLoop size secure ok count m.bufferCount m ion

def dealloc (m : Memory) (ion : Ion) : Memory × Ion :=
  eachSlot release m ion (List.range m.bufferCount)

/-- `allocate`: a heap memory maps its buffers, unless they are secure; if the one at `i` cannot be
mapped, those before it are freed, and then the others. -/
def allocate (m : Memory) (ion : Ion) (count size : ℕ) (secure : Bool) (ok mmap : ℕ → Bool) :
    Memory × Ion × Bool :=
  match m.alloc ion count size secure ok with
  | (m, ion, false) => (m, ion, false)
  | (m, ion, true) =>
    match m.kind, (List.range count).find? fun i => !secure && !mmap i with
    | .heap, some i =>
      let r := eachSlot deallocOneBuffer m ion
        ((List.range i).reverse ++ List.range' i (count - i))
      (r.1, r.2, false)
    | _, _ => ({ m with bufferCount := count }, ion, true)

/-- `allocateMore`: if the buffer at `i` cannot be mapped, those before it are freed, down to the
first new one. -/
def allocateMore (m : Memory) (ion : Ion) (count size : ℕ) (ok mmap : ℕ → Bool) :
    Memory × Ion × Bool :=
  match m.alloc ion count size false ok with
  | (m, ion, false) => (m, ion, false)
  | (m, ion, true) =>
    match m.kind, (List.range' m.bufferCount count).find? fun i => !mmap i with
    | .heap, some i =>
      let r := eachSlot deallocOneBuffer m ion
        (List.range' m.bufferCount (i - m.bufferCount)).reverse
      (r.1, r.2, false)
    | _, _ => ({ m with bufferCount := m.bufferCount + count }, ion, true)

def deallocate (m : Memory) (ion : Ion) : Memory × Ion :=
  ({ (m.dealloc ion).1 with bufferCount := 0 }, (m.dealloc ion).2)

/-- The handles of the buffers in some slots, and of those in use. -/
def handles (m : Memory) (is : List ℕ) : List ℕ := (is.filterMap m.memInfo).map Buffer.handle

def inUse (m : Memory) : List ℕ := m.handles (List.range m.bufferCount)

end Memory

/-! ## Any number of objects -/

/-- The objects, and what they share. -/
structure System where
  memories : List Memory := []
  ion : Ion := {}

/-- The object at an index is replaced by what becomes of it. -/
def System.on (s : System) (k : ℕ) (f : Memory → Ion → Memory × Ion) : Option System :=
  (s.memories[k]?).map fun m =>
    { memories := s.memories.set k (f m s.ion).1, ion := (f m s.ion).2 }

/-- What is called on the object at an index, or on the pool. -/
inductive Op
  | create (kind : Kind) (streamType : ℕ) (cached : Bool)
  | allocate (k count size : ℕ) (secure : Bool) (ok mmap : ℕ → Bool)
  | allocateMore (k count size : ℕ) (ok mmap : ℕ → Bool)
  | deallocate (k : ℕ)
  | clear

def Op.exec (op : Op) (s : System) : Option System :=
  match op with
  | .create kind streamType cached =>
    some { s with memories := s.memories ++ [{ kind, streamType, cached }] }
  | .allocate k count size secure ok mmap =>
    s.on k fun m ion =>
      let r := m.allocate ion count size secure ok mmap
      (r.1, r.2.1)
  | .allocateMore k count size ok mmap =>
    s.on k fun m ion =>
      let r := m.allocateMore ion count size ok mmap
      (r.1, r.2.1)
  | .deallocate k => s.on k Memory.deallocate
  | .clear => some { s with ion := s.ion.clear }

def Ion.count (ion : Ion) (h : ℕ) : ℕ :=
  (ion.pools.map fun e => e.2.handle).count h + ion.freed.count h

/-- **Each buffer has one owner**: it is in one slot in use of one object, in the pool once, or has
been freed once. -/
def System.Owned (s : System) : Prop :=
  ∀ h, tally Memory.inUse h s.memories + s.ion.count h = if h < s.ion.next then 1 else 0

/-! ## Slots -/

section Slots

variable {E : ℕ → ℕ} {m : Memory} {ion : Ion} {is js : List ℕ}

/-- What a buffer is counted as, with `E` for the other objects: once, in the slots `is`, the pool
or among the freed ones. -/
def Balanced (E : ℕ → ℕ) (m : Memory) (is : List ℕ) (ion : Ion) : Prop :=
  ∀ h, E h + (m.handles is).count h + ion.count h = if h < ion.next then 1 else 0

theorem Memory.handles_cons (m : Memory) (i : ℕ) (is : List ℕ) :
    m.handles (i :: is) = (m.memInfo i).toList.map Buffer.handle ++ m.handles is := by
  unfold Memory.handles
  cases h : m.memInfo i <;> simp [h]

theorem Memory.handles_congr {m' : Memory} (same : ∀ i ∈ is, m'.memInfo i = m.memInfo i) :
    m'.handles is = m.handles is := by
  unfold Memory.handles
  rw [filterMap_congr same]

theorem Balanced.perm (h : Balanced E m is ion) (perm : is.Perm js) : Balanced E m js ion := by
  intro k
  have hk := h k
  rwa [Memory.handles, ((perm.filterMap _).map _).count_eq] at hk

/-- One way of giving a buffer back is as good as another: the slot's share goes to the pool or to
the freed ones, and the other slots stay. -/
def GivesBack (one : Memory → Ion → ℕ → Memory × Ion) : Prop :=
  ∀ m ion i, (∀ h, (one m ion i).2.count h =
      ion.count h + ((m.memInfo i).toList.map Buffer.handle).count h) ∧
    (one m ion i).2.next = ion.next ∧ (∀ j ≠ i, (one m ion i).1.memInfo j = m.memInfo j) ∧
    (one m ion i).1.bufferCount = m.bufferCount

theorem deallocOneBuffer_givesBack : GivesBack Memory.deallocOneBuffer := by
  intro m ion i
  unfold Memory.deallocOneBuffer
  cases hi : m.memInfo i with
  | none => exact ⟨fun _ => rfl, rfl, fun _ _ => rfl, rfl⟩
  | some b =>
    refine ⟨fun h => ?_, rfl, fun j hj => Function.update_of_ne hj .., rfl⟩
    simp only [Ion.count, count_append, Option.toList_some, map_singleton, add_assoc]

theorem releaseBuffer_givesBack : GivesBack Memory.releaseBuffer := by
  intro m ion i
  unfold Memory.releaseBuffer
  cases hi : m.memInfo i with
  | none => exact ⟨fun _ => rfl, rfl, fun _ _ => rfl, rfl⟩
  | some b =>
    refine ⟨fun h => ?_, rfl, fun _ _ => rfl, rfl⟩
    simp only [Ion.count, map_append, count_append, Option.toList_some, map_singleton]
    omega

theorem release_givesBack : GivesBack Memory.release := by
  intro m ion i
  unfold Memory.release
  split
  · exact releaseBuffer_givesBack m ion i
  · exact deallocOneBuffer_givesBack m ion i

/-- **Giving buffers back**, from different slots, in whatever order. -/
theorem Balanced.eachSlot {one : Memory → Ion → ℕ → Memory × Ion} (hone : GivesBack one)
    (h : Balanced E m is ion) (nodup : is.Nodup) :
    Balanced E (Memory.eachSlot one m ion is).1 [] (Memory.eachSlot one m ion is).2 ∧
      (Memory.eachSlot one m ion is).1.bufferCount = m.bufferCount := by
  induction is generalizing m ion with
  | nil => exact ⟨h, rfl⟩
  | cons i is ih =>
    obtain ⟨hi, hrest⟩ := nodup_cons.mp nodup
    obtain ⟨hcount, hnext, hsame, hbuffers⟩ := hone m ion i
    have hstep : Balanced E (one m ion i).1 is (one m ion i).2 := by
      intro k
      have hk := h k
      have hslots : (one m ion i).1.handles is = m.handles is :=
        Memory.handles_congr fun j hj => hsame j fun heq => hi (heq ▸ hj)
      rw [Memory.handles_cons, count_append] at hk
      rw [hslots, hcount k, hnext]
      omega
    obtain ⟨hbal, hsize⟩ := ih hstep hrest
    exact ⟨hbal, hsize.trans hbuffers⟩

/-- A buffer is had: one that the pool had, or the next of ION. -/
def Got (ion : Ion) (b : Buffer) (ion' : Ion) : Prop :=
  ∀ h, (if h < ion'.next then 1 else 0) + ion.count h =
    (if h < ion.next then 1 else 0) + ion'.count h + [b.handle].count h

theorem got_allocOneBuffer {size : ℕ} {cached secure ok : Bool} {b : Buffer} {ion' : Ion}
    (h : ion.allocOneBuffer size cached secure ok = some (b, ion')) : Got ion b ion' := by
  obtain ⟨-, heq⟩ := Option.ite_none_right_eq_some.mp h
  cases heq
  intro k
  show (if k < ion.next + 1 then 1 else 0) + ion.count k = _ + ion.count k + [ion.next].count k
  rw [count_singleton]
  simp only [beq_iff_eq]
  split <;> split <;> split <;> omega

theorem got_allocateBuffer {streamType size : ℕ} {cached secure ok : Bool} {b : Buffer} {ion' : Ion}
    (h : ion.allocateBuffer streamType size cached secure ok = some (b, ion')) :
    Got ion b ion' := by
  unfold Ion.allocateBuffer at h
  set fits := Ion.fits streamType ion.heapIdMask size cached
  cases hfind : ion.pools.find? fits with
  | none =>
    simp only [hfind] at h
    exact got_allocOneBuffer h
  | some e =>
    simp only [hfind, Option.some.injEq, Prod.mk.injEq] at h
    obtain ⟨rfl, rfl⟩ := h
    intro k
    -- the entry found is the one that leaves the pool
    have hfind' : ion.pools.find? (fun e => fits e == true) = some e := by simpa using hfind
    have hcount := count_map_takeOut (k := k) (fun e => e.2.handle) hfind'
    have hpool : takeOut fits true ion.pools = ion.pools.eraseP fits := by simp [takeOut]
    rw [hpool] at hcount
    simp only [Ion.count]
    omega

/-- **Adding buffers**: they are all there, or all slots before have been given back. The induction
is on the buffers that are still missing. -/
theorem Balanced.allocLoop {i : ℕ} (n size : ℕ) (secure : Bool) (ok : ℕ → Bool)
    (h : Balanced E m (List.range i) ion) :
    let r := Memory.allocLoop size secure ok n i m ion
    r.1.bufferCount = m.bufferCount ∧
      (r.2.2 = true → r.1.kind = m.kind ∧ Balanced E r.1 (range (i + n)) r.2.1) ∧
      (r.2.2 = false → Balanced E r.1 [] r.2.1) := by
  induction n generalizing i m ion with
  | zero => exact ⟨rfl, fun _ => ⟨rfl, h⟩, nofun⟩
  | succ n ih =>
    simp only [Memory.allocLoop]
    set got := if m.kind.pooled then ion.allocateBuffer m.streamType size m.cached secure (ok i)
      else ion.allocOneBuffer size m.cached secure (ok i) with hgot
    cases hcase : got with
    | none =>
      have hback := (h.perm (reverse_perm _).symm).eachSlot release_givesBack
        (nodup_reverse.mpr nodup_range)
      exact ⟨hback.2, nofun, fun _ => hback.1⟩
    | some r =>
      obtain ⟨b, ion'⟩ := r
      have hhad : Got ion b ion' := by
        rw [hgot] at hcase
        split at hcase
        · exact got_allocateBuffer hcase
        · exact got_allocOneBuffer hcase
      set m' : Memory := { m with memInfo := Function.update m.memInfo i (some b) } with hm'
      have hnext : Balanced E m' (range (i + 1)) ion' := by
        intro k
        have hold := h k
        have hslots : m'.handles (range i) = m.handles (range i) :=
          Memory.handles_congr fun j hj => Function.update_of_ne (mem_range.mp hj).ne ..
        have hnew : m'.handles (range (i + 1)) = m.handles (range i) ++ [b.handle] := by
          rw [range_succ, Memory.handles, filterMap_append, map_append]
          exact congrArg₂ _ hslots (by simp [hm'])
        have hk := hhad k
        rw [hnew, count_append]
        omega
      obtain ⟨hsize, hdone, hback⟩ := ih hnext
      refine ⟨hsize, fun htrue => ?_, hback⟩
      have hall := hdone htrue
      rw [add_assoc, add_comm 1] at hall
      exact hall

theorem Memory.allocLoop_ok {i n size : ℕ} {secure : Bool} {ok : ℕ → Bool}
    (h : ∀ j, i ≤ j → j < i + n → ok j = true) :
    (Memory.allocLoop size secure ok n i m ion).2.2 = true := by
  induction n generalizing i m ion with
  | zero => rfl
  | succ n ih =>
    have hi : ok i = true := h i le_rfl (by omega)
    have hgot : ∃ r, (if m.kind.pooled then ion.allocateBuffer m.streamType size m.cached secure (ok i)
        else ion.allocOneBuffer size m.cached secure (ok i)) = some r := by
      rw [hi]
      split
      · unfold Ion.allocateBuffer
        dsimp only
        split
        · exact ⟨_, rfl⟩
        · exact ⟨_, rfl⟩
      · exact ⟨_, rfl⟩
    obtain ⟨r, hr⟩ := hgot
    simp only [Memory.allocLoop, hr]
    exact ih fun j hij hj => h j (by omega) (by omega)

theorem Memory.allocLoop_heap {i n size : ℕ} {secure : Bool} {ok : ℕ → Bool}
    (hheap : m.kind = .heap) (h : (Memory.allocLoop size secure ok n i m ion).2.2 = true) (j : ℕ)
    (hij : i ≤ j) (hj : j < i + n) : ok j = true := by
  induction n generalizing i m ion with
  | zero => omega
  | succ n ih =>
    simp only [Memory.allocLoop, hheap, Kind.pooled, Bool.false_eq_true, if_false] at h
    cases hi : ok i with
    | false => simp [Ion.allocOneBuffer, hi] at h
    | true =>
      rcases eq_or_ne j i with rfl | hne
      · exact hi
      · simp only [Ion.allocOneBuffer, hi, if_true] at h
        exact ih rfl h (by omega) (by omega)

/-- **`alloc`**: the buffers are there; or nothing has been done; or all slots have been given back,
for want of a buffer. -/
theorem Balanced.alloc (count size : ℕ) (secure : Bool) (ok : ℕ → Bool)
    (h : Balanced E m (List.range m.bufferCount) ion) :
    let r := m.alloc ion count size secure ok
    r.1.bufferCount = m.bufferCount ∧
      (r.2.2 = true → m.bufferCount + count ≤ MM_CAMERA_MAX_NUM_FRAMES ∧ r.1.kind = m.kind ∧
        (m.kind = .heap → ∀ j, m.bufferCount ≤ j → j < m.bufferCount + count → ok j = true) ∧
        Balanced E r.1 (range (m.bufferCount + count)) r.2.1) ∧
      (r.2.2 = false → r = (m, ion, false) ∧ MM_CAMERA_MAX_NUM_FRAMES < m.bufferCount + count ∨
        m.bufferCount + count ≤ MM_CAMERA_MAX_NUM_FRAMES ∧
          ¬ (∀ j, m.bufferCount ≤ j → j < m.bufferCount + count → ok j = true) ∧
          Balanced E r.1 [] r.2.1) := by
  unfold Memory.alloc
  split
  · rename_i hmax
    exact ⟨rfl, nofun, fun _ => .inl ⟨rfl, hmax⟩⟩
  · rename_i hmax
    obtain ⟨hsize, hdone, hback⟩ := h.allocLoop count size secure ok
    have hle := Nat.le_of_not_lt hmax
    refine ⟨hsize, fun htrue => ⟨hle, (hdone htrue).1, fun hheap => Memory.allocLoop_heap hheap htrue,
      (hdone htrue).2⟩, fun hfalse => .inr ⟨hle, fun hall => ?_,
      hback hfalse⟩⟩
    exact Bool.noConfusion ((Memory.allocLoop_ok hall).symm.trans hfalse)

end Slots

/-! ## Objects -/

section Objects

variable {E : ℕ → ℕ} {m : Memory} {ion : Ion} {count size : ℕ} {ok mmap : ℕ → Bool}

/-- `allocate` is for an empty object, or asks for too much. -/
def Memory.MayAllocate (m : Memory) (count : ℕ) : Prop :=
  m.bufferCount = 0 ∨ MM_CAMERA_MAX_NUM_FRAMES < m.bufferCount + count

/-- `allocateMore` asks for too much; or the object is empty, or no buffer is missing; and then the
new buffers of a heap memory can be mapped. -/
def Memory.MayAllocateMore (m : Memory) (count : ℕ) (ok mmap : ℕ → Bool) : Prop :=
  m.bufferCount + count ≤ MM_CAMERA_MAX_NUM_FRAMES →
    let all (p : ℕ → Bool) := ∀ j, m.bufferCount ≤ j → j < m.bufferCount + count → p j = true
    (m.bufferCount = 0 ∨ all ok) ∧ (m.kind = .heap → all ok → all mmap)

theorem rollback_perm {i n : ℕ} (hi : i < n) :
    ((List.range i).reverse ++ List.range' i (n - i)).Perm (List.range n) := by
  have hsplit : range n = range i ++ range' i (n - i) := by
    have happ : range' 0 i 1 ++ range' (0 + 1 * i) (n - i) 1 =
        range' 0 (i + (n - i)) 1 := range'_append
    rw [one_mul, Nat.zero_add, ← range_eq_range', ← range_eq_range',
      Nat.add_sub_cancel' hi.le] at happ
    exact happ.symm
  rw [hsplit]
  exact (reverse_perm _).append_right _

/-- **`allocate`** of an empty object. -/
theorem Balanced.allocate {secure : Bool} (h : Balanced E m (List.range m.bufferCount) ion)
    (may : m.MayAllocate count) :
    let r := m.allocate ion count size secure ok mmap
    Balanced E r.1 (range r.1.bufferCount) r.2.1 := by
  have hspec := h.alloc count size secure ok
  unfold Memory.allocate
  rcases hcase : m.alloc ion count size secure ok with ⟨m', ion', b⟩
  rw [hcase] at hspec
  obtain ⟨hsize, hdone, hback⟩ := hspec
  cases b with
  | false =>
    rcases hback rfl with ⟨hsame, -⟩ | ⟨hle, -, hempty⟩
    · cases hsame
      exact h
    · have hzero : m.bufferCount = 0 := may.resolve_right (Nat.not_lt.mpr hle)
      have hsize' : m'.bufferCount = 0 := hsize.trans hzero
      show Balanced E m' (range m'.bufferCount) ion'
      rw [hsize']
      exact hempty
  | true =>
    obtain ⟨hle, -, -, hall⟩ := hdone rfl
    have hzero : m.bufferCount = 0 := may.resolve_right (Nat.not_lt.mpr hle)
    rw [hzero, Nat.zero_add] at hall
    dsimp only
    split
    · rename_i i _ hfind
      have hi : i < count := mem_range.mp (mem_of_find?_eq_some hfind)
      have hback := (hall.perm (rollback_perm hi).symm).eachSlot deallocOneBuffer_givesBack
        ((rollback_perm hi).nodup_iff.mpr nodup_range)
      dsimp only
      rw [hback.2, hsize, hzero]
      exact hback.1
    · exact hall

/-- **`allocateMore`**, where no buffer in use is rolled back and no new one lost; if it fails the
object is as it was. -/
theorem Balanced.allocateMore (h : Balanced E m (List.range m.bufferCount) ion)
    (may : m.MayAllocateMore count ok mmap) :
    let r := m.allocateMore ion count size ok mmap
    Balanced E r.1 (range r.1.bufferCount) r.2.1 ∧
      (r.2.2 = false → r.1.inUse = m.inUse ∧ r.1.bufferCount = m.bufferCount) := by
  have hspec := h.alloc count size false ok
  unfold Memory.allocateMore
  rcases hcase : m.alloc ion count size false ok with ⟨m', ion', b⟩
  rw [hcase] at hspec
  obtain ⟨hsize, hdone, hback⟩ := hspec
  cases b with
  | false =>
    rcases hback rfl with ⟨hsame, -⟩ | ⟨hle, hmissing, hempty⟩
    · cases hsame
      exact ⟨h, fun _ => ⟨rfl, rfl⟩⟩
    · have hzero : m.bufferCount = 0 := (may hle).1.resolve_right hmissing
      have hsize' : m'.bufferCount = 0 := hsize.trans hzero
      show Balanced E m' (range m'.bufferCount) ion' ∧ (_ → m'.inUse = _ ∧ m'.bufferCount = _)
      refine ⟨hsize' ▸ hempty, fun _ => ⟨?_, hsize⟩⟩
      rw [Memory.inUse, Memory.inUse, hsize', hzero]
      rfl
  | true =>
    obtain ⟨hle, hkind, hok, hall⟩ := hdone rfl
    dsimp only
    split
    · -- a heap memory cannot map a new buffer: excluded
      rename_i i hheap hfind
      have hheap' : m.kind = .heap := hkind.symm.trans hheap
      have hi := mem_range'_1.mp (mem_of_find?_eq_some hfind)
      rw [hsize] at hi
      have hmmap := (may hle).2 hheap' (hok hheap') i hi.1 hi.2
      have hfails := find?_some hfind
      simp [hmmap] at hfails
    · refine ⟨?_, nofun⟩
      rw [← hsize] at hall
      exact hall

theorem Balanced.deallocate (h : Balanced E m (List.range m.bufferCount) ion) :
    Balanced E (m.deallocate ion).1 (List.range (m.deallocate ion).1.bufferCount)
      (m.deallocate ion).2 :=
  (h.eachSlot release_givesBack nodup_range).1

end Objects

/-- What an operation must meet: `allocate` is for an empty object, and `allocateMore` does not fail
half-way. -/
def Op.Sound (s : System) : Op → Prop
  | .allocate k count _ _ _ _ => ∀ m ∈ s.memories[k]?, m.MayAllocate count
  | .allocateMore k count _ ok mmap => ∀ m ∈ s.memories[k]?, m.MayAllocateMore count ok mmap
  | _ => True

def Step (op : Op) (s t : System) : Prop := op.Sound s ∧ op.exec s = some t

/-- **An object is balanced with the others**, and may be replaced by one that is. -/
theorem System.Owned.balanced {s : System} {k : ℕ} {m : Memory} (h : s.Owned)
    (hm : s.memories[k]? = some m) : ∃ E, Balanced E m (List.range m.bufferCount) s.ion ∧
      ∀ m' ion', Balanced E m' (List.range m'.bufferCount) ion' →
        System.Owned { memories := s.memories.set k m', ion := ion' } := by
  obtain ⟨hk, hget⟩ := List.getElem?_eq_some_iff.mp hm
  have hsplit : s.memories = s.memories.take k ++ m :: s.memories.drop (k + 1) := by
    rw [← hget, getElem_cons_drop, take_append_drop]
  have hset (m' : Memory) : s.memories.set k m' =
      s.memories.take k ++ m' :: s.memories.drop (k + 1) := by
    rw [set_eq_take_append_cons_drop, if_pos hk]
  refine ⟨fun x => tally Memory.inUse x (s.memories.take k) +
    tally Memory.inUse x (s.memories.drop (k + 1)), fun x => ?_, fun m' ion' hbal x => ?_⟩
  · have hx := h x
    rw [hsplit, tally_append, tally_cons] at hx
    show tally Memory.inUse x (s.memories.take k) + tally Memory.inUse x (s.memories.drop (k + 1)) +
      m.inUse.count x + s.ion.count x = _
    omega
  · have hx := hbal x
    show tally Memory.inUse x (s.memories.set k m') + ion'.count x = if x < ion'.next then 1 else 0
    rw [hset, tally_append, tally_cons]
    change tally Memory.inUse x (s.memories.take k) +
      tally Memory.inUse x (s.memories.drop (k + 1)) + m'.inUse.count x + ion'.count x = _ at hx
    omega

theorem System.Owned.on {s t : System} {k : ℕ} {f : Memory → Ion → Memory × Ion} (h : s.Owned)
    (hf : ∀ E m, s.memories[k]? = some m → Balanced E m (List.range m.bufferCount) s.ion →
      Balanced E (f m s.ion).1 (List.range (f m s.ion).1.bufferCount) (f m s.ion).2)
    (hon : s.on k f = some t) : t.Owned := by
  obtain ⟨m, hm, rfl⟩ := Option.map_eq_some_iff.mp hon
  obtain ⟨E, hbal, hback⟩ := h.balanced hm
  exact hback _ _ (hf E m hm hbal)

theorem System.Owned.step {op : Op} {s t : System} (h : s.Owned) (hstep : Step op s t) : t.Owned := by
  obtain ⟨sound, hexec⟩ := hstep
  cases op with
  | create kind streamType cached =>
    cases hexec
    intro x
    have hx := h x
    rw [tally_append, tally_cons, tally_nil]
    exact hx
  | allocate k count size secure ok mmap =>
    have hon : s.on k (fun m ion => ((m.allocate ion count size secure ok mmap).1,
        (m.allocate ion count size secure ok mmap).2.1)) = some t := hexec
    refine h.on (fun E m hm hbal => ?_) hon
    exact @Balanced.allocate E m s.ion count size ok mmap secure hbal (sound m hm)
  | allocateMore k count size ok mmap =>
    have hon : s.on k (fun m ion => ((m.allocateMore ion count size ok mmap).1,
        (m.allocateMore ion count size ok mmap).2.1)) = some t := hexec
    refine h.on (fun E m hm hbal => ?_) hon
    exact (@Balanced.allocateMore E m s.ion count size ok mmap hbal (sound m hm)).1
  | deallocate k =>
    have hon : s.on k Memory.deallocate = some t := hexec
    exact h.on (fun E m _ hbal => hbal.deallocate) hon
  | clear =>
    cases hexec
    intro x
    refine Eq.trans ?_ (h x)
    simp only [Ion.count, Ion.clear, map_nil, count_nil, count_append]
    omega

/-- **Buffer memory has one owner**, in every run in which `allocate` is for empty objects and
`allocateMore` does not fail half-way; and an `allocateMore` that fails then leaves its object the
buffers it had. -/
theorem memory_owned (heapIdMask : ℕ) (ops : List Op) (t : System)
    (run : Run Step ops { ion := { heapIdMask } } t) :
    t.Owned ∧ ∀ k count size ok mmap, (Op.allocateMore k count size ok mmap).Sound t →
      ∀ m ∈ t.memories[k]?, (m.allocateMore t.ion count size ok mmap).2.2 = false →
        (m.allocateMore t.ion count size ok mmap).1.inUse = m.inUse := by
  have owned : t.Owned := run.invariant (fun _ _ _ hstep h => h.step hstep) fun _ => rfl
  refine ⟨owned, fun k count size ok mmap sound m hm hfails => ?_⟩
  obtain ⟨E, hbal, -⟩ := owned.balanced hm
  exact ((@Balanced.allocateMore E m t.ion count size ok mmap hbal (sound m hm)).2 hfails).1

/-- Two stream memories that share the pool: the second gets the buffers of the first. -/
def twoStreams : List Op :=
  [.create (.stream true) 1 true, .create (.stream true) 1 true,
    .allocate 0 2 100 false (fun _ => true) fun _ => true, .deallocate 0,
    .allocate 1 1 100 false (fun _ => false) fun _ => true,
    .allocateMore 1 1 100 (fun _ => true) fun _ => true]

theorem memory_owned_two : ∃ t, Run Step twoStreams {} t ∧ t.Owned ∧
    t.memories.map Memory.inUse = [[], [0, 1]] := by
  obtain ⟨t, hrun, huse⟩ : ∃ t, Run Step twoStreams {} t ∧
      t.memories.map Memory.inUse = [[], [0, 1]] := by
    refine ⟨_, .cons ⟨trivial, rfl⟩ (.cons ⟨trivial, rfl⟩ (.cons ⟨?_, rfl⟩ (.cons ⟨trivial, rfl⟩
      (.cons ⟨?_, rfl⟩ (.cons ⟨?_, rfl⟩ (.nil _)))))), ?_⟩
    · exact fun m hm => .inl (by cases hm; rfl)
    · exact fun m hm => .inl (by cases hm; rfl)
    · exact fun m hm _ => ⟨.inr fun _ _ _ => rfl, fun _ _ _ _ _ => rfl⟩
    · decide
  exact ⟨t, hrun, (memory_owned 0 _ t hrun).1, huse⟩

/-- **A roll-back puts a buffer in use into the pool**: a stream memory has one buffer, and ION none
for the second. -/
theorem memory_shared :
    ¬ ∀ (heapIdMask : ℕ) (ops : List Op) (t : System),
      Run (fun op s t => op.exec s = some t) ops { ion := { heapIdMask } } t → t.Owned := by
  intro h
  have hrun : Run (fun (op : Op) (s t : System) => op.exec s = some t)
      [.create (.stream true) 1 true, .allocate 0 1 100 false (fun _ => true) fun _ => true,
        .allocateMore 0 1 100 (fun _ => false) fun _ => true] { ion := { heapIdMask := 0 } } _ :=
    .cons rfl (.cons rfl (.cons rfl (.nil _)))
  have hzero := h 0 _ _ hrun 0
  revert hzero
  decide

end IonMemory
