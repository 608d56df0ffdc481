import MidoCamera.Library.Run
import MidoCamera.Channel.StreamBufs
import Mathlib.Data.List.Nodup

/-!
# Requests and callbacks of a channel

A request looks the buffer up, registers it if it is not found, queues its slot, and then marks the
slot with the frame number. The callback of a slot reads the handle and the number, releases and
unregisters the slot if buffers are mapped for one frame at a time, and gives the buffer back. The
two run in threads of their own, and take the lock of the stream or of its memory for each of these
steps. The framework makes one request at a time, with buffers that it has.
-/

namespace StreamBufs

open Function List StreamMem

/-- Where the request is. -/
inductive Req
  | idle
  | first (b : Buffer) (frameNumber : UInt32)
  | start (b : Buffer) (frameNumber : UInt32)
  | lookup (b : Buffer) (frameNumber : UInt32)
  | register (b : Buffer) (frameNumber : UInt32)
  | lookupAgain (b : Buffer) (frameNumber : UInt32)
  | bufDone (b : Buffer) (frameNumber : UInt32) (index : ℕ)
  | mark (b : Buffer) (frameNumber : UInt32) (index : ℕ)
  deriving DecidableEq

/-- Where the callback is; what it has read goes with the frame number of the request that queued
the slot. -/
inductive Cb
  | idle
  | getBufferHandle (index : ℕ)
  | getFrameNumber (index : ℕ) (handle : Option ℕ)
  | bufRelease (index : ℕ) (handle : Option ℕ) (number : Int32) (queuedBy : UInt32)
  | unregister (index : ℕ) (handle : Option ℕ) (number : Int32) (queuedBy : UInt32)
  | give (handle : Option ℕ) (number : Int32) (queuedBy : UInt32)
  deriving DecidableEq

/-- A channel: its memory and its stream, the slots that the kernel or the queue of the stream thread
has, and its threads. The last three fields are which buffers the framework has given, which request
has queued a slot, and each number that a callback has reported, with that of the request. -/
structure Chan where
  perFrameMapUnmap : Bool
  mem : StreamMem
  stream : Stream
  active : Bool := false
  kernel : List ℕ := []
  request : Req := .idle
  callback : Cb := .idle
  given : ℕ → Bool := fun _ => false
  queuedBy : ℕ → UInt32 := fun _ => 0
  reports : List (UInt32 × UInt32) := []

/-- What the threads do next, with the outcomes of what they call. -/
inductive Act
  | getBufs (offset : FrameLenOffset) (e : GetBufs)
  | request (b : Buffer) (frameNumber : UInt32)
  | register (import_ : StreamMem.Import)
  | start (ok : Bool)
  | lookup
  | bufDone (map unmap qbuf : Bool)
  | mark
  | streamCb (index : ℕ) (ok : Bool)
  | requeue (index : ℕ) (map unmap qbuf : Bool)
  | getBufferHandle
  | getFrameNumber
  | bufRelease (unmap : Bool)
  | unregister
  | give

namespace Chan

/-- `QCamera3ProcessingChannel::registerBuffer`, of a channel that has its stream. -/
def registerBuffer (c : Chan) (b : Buffer) (import_ : StreamMem.Import) : StreamMem × Status :=
  if c.mem.heap.bufferCount + c.mem.gralloc.bufferCount > c.stream.numBufs - 1 then
    (c.mem, .BAD_VALUE)
  else
    match c.mem.registerBuffer b import_ with
    | (m, .ALREADY_EXISTS) => (m, .NO_ERROR)
    | r => r

def fail (c : Chan) (b : Buffer) : Chan :=
  { c with request := .idle, given := update c.given b.handle false }

/-- The buffer is registered, or the request fails. -/
def register (c : Chan) (b : Buffer) (import_ : StreamMem.Import) (next : Req) : Chan :=
  match c.registerBuffer b import_ with
  | (m, .NO_ERROR) => { c with mem := m, request := next }
  | (m, _) => { c with mem := m }.fail b

/-- The slot is queued, or the request fails. -/
def bufDone (c : Chan) (b : Buffer) (frameNumber : UInt32) (index : ℕ) (map unmap qbuf : Bool) :
    Chan :=
  match c.stream.bufDone c.mem index map unmap qbuf with
  | (s, .NO_ERROR) =>
    { c with
      stream := s
      kernel := c.kernel ++ [index]
      queuedBy := update c.queuedBy index frameNumber
      request := .mark b frameNumber index }
  | (s, _) => { c with stream := s }.fail b

/-- A slot comes back and is queued again, as it is. -/
def requeue (c : Chan) (index : ℕ) (map unmap qbuf : Bool) : Chan :=
  match c.stream.bufDone c.mem index map unmap qbuf with
  | (s, .NO_ERROR) => { c with stream := s, kernel := c.kernel.erase index ++ [index] }
  | (s, _) => { c with stream := s, kernel := c.kernel.erase index }

def givenBack (c : Chan) : Option ℕ → ℕ → Bool
  | some handle => update c.given handle false
  | none => c.given

/-- The end of the callback: a number below 0 is none, and then the buffer is not given back. -/
def settle (c : Chan) (handle : Option ℕ) (number : Int32) (queuedBy : UInt32) : Chan :=
  { c with callback := if 0 ≤ number then .give handle number queuedBy else .idle }

/-- A channel whose stream has no heap buffers, when it is created. -/
def created (perFrameMapUnmap : Bool) (maxHeapBuffers numBufs : ℕ) : Chan :=
  { perFrameMapUnmap, mem := { maxHeapBuffers }, stream := { numBufs } }

end Chan

/-- **The steps** of the two threads; the buffers of the stream are got between two requests. -/
def Act.exec (a : Act) (c : Chan) : Option Chan :=
  match a, c.request, c.callback with
  | .getBufs offset e, .idle, _ =>
    some { c with stream := (c.stream.getBufs offset true { e with streamBufs := some c.mem }).1 }
  | .request b n, .idle, _ =>
    if c.given b.handle then none
    else
      some { c with
        request := if c.active then .lookup b n else .first b n
        given := update c.given b.handle true }
  | .register i, .first b n, _ => some (c.register b i (.start b n))
  | .register i, .register b n, _ => some (c.register b i (.lookupAgain b n))
  | .start ok, .start b n, _ =>
    some (if ok then { c with active := true, request := .lookup b n } else c.fail b)
  | .lookup, .lookup b n, _ =>
    some { c with
      request := match c.mem.getMatchBufIndex b.handle with
        | some index => .bufDone b n index
        | none => .register b n }
  | .lookup, .lookupAgain b n, _ =>
    match c.mem.getMatchBufIndex b.handle with
    | some index => some { c with request := .bufDone b n index }
    | none => some (c.fail b)
  | .bufDone m u q, .bufDone b n index, _ => some (c.bufDone b n index m u q)
  | .mark, .mark _ n index, _ =>
    some { c with mem := (c.mem.markFrameNumber index n).1, request := .idle }
  | .streamCb index ok, _, .idle =>
    if index ∈ c.kernel then
      some { c with
        kernel := c.kernel.erase index
        callback := if ok && index < c.stream.numBufs then .getBufferHandle index else .idle }
    else none
  | .requeue index m u q, _, _ => if index ∈ c.kernel then some (c.requeue index m u q) else none
  | .getBufferHandle, _, .getBufferHandle index =>
    some { c with callback := .getFrameNumber index (c.mem.getBufferHandle index) }
  | .getFrameNumber, _, .getFrameNumber index handle =>
    let number := c.mem.getFrameNumber index
    if c.perFrameMapUnmap then
      some { c with callback := .bufRelease index handle number (c.queuedBy index) }
    else some (c.settle handle number (c.queuedBy index))
  | .bufRelease u, _, .bufRelease index handle number q =>
    some { c with
      stream := (c.stream.bufRelease index u).1
      callback := .unregister index handle number q }
  | .unregister, _, .unregister index handle number q =>
    some ({ c with mem := (c.mem.unregisterBuffer index).1 }.settle handle number q)
  | .give, _, .give handle number q =>
    some { c with
      callback := .idle
      given := c.givenBack handle
      reports := c.reports ++ [(number.toUInt32, q)] }
  | _, _, _ => none

/-! ## Whose buffers they are -/

/-- The buffer of a request that has not been queued. -/
def Req.waiting : Req → Option Buffer
  | .first b _ | .start b _ | .lookup b _ | .register b _ | .lookupAgain b _ | .bufDone b _ _ => some b
  | .idle | .mark .. => none

def Cb.slot : Cb → Option ℕ
  | .getBufferHandle i | .getFrameNumber i _ | .bufRelease i _ _ _ | .unregister i _ _ _ => some i
  | .idle | .give .. => none

def Cb.read : Cb → Option (ℕ × Option ℕ)
  | .getFrameNumber i h | .bufRelease i h _ _ | .unregister i h _ _ => some (i, h)
  | _ => none

theorem Cb.slot_of_read {cb : Cb} {i : ℕ} {h : Option ℕ} (hr : cb.read = some (i, h)) :
    cb.slot = some i := by
  cases cb with
  | idle | getBufferHandle | give => cases hr
  | getFrameNumber | bufRelease | unregister =>
    cases hr
    rfl

def Chan.busy (c : Chan) : List ℕ := c.kernel ++ c.callback.slot.toList

theorem Chan.mem_busy {c : Chan} {i : ℕ} (h : c.callback.slot = some i) : i ∈ c.busy :=
  mem_append_right _ (Option.mem_toList.mpr h)

/-- A buffer that is not the framework's, and not the request's to queue. -/
def Chan.Held (c : Chan) (handle : ℕ) : Prop :=
  c.given handle = true ∧ ∀ b, c.request.waiting = some b → b.handle ≠ handle

/-- **Whose the slots are**: no two slots are for one buffer, a busy slot is registered for a buffer
that is held, and the request is about to queue a slot of its buffer. -/
structure Chan.Owned (c : Chan) : Prop where
  unique : ∀ i j h, c.mem.InRange i → c.mem.InRange j → c.mem.bufferHandle i = some h →
    c.mem.bufferHandle j = some h → i = j
  waiting : ∀ b, c.request.waiting = some b → c.given b.handle = true
  nodup : c.busy.Nodup
  busy : ∀ i ∈ c.busy, c.mem.InRange i ∧ (c.mem.gralloc.memInfo i).handle = true ∧
    ∃ h, c.mem.bufferHandle i = some h ∧ c.Held h
  found : ∀ b n i, c.request = .bufDone b n i →
    c.mem.InRange i ∧ c.mem.bufferHandle i = some b.handle
  read : ∀ i h, c.callback.read = some (i, h) → c.mem.bufferHandle i = h
  giving : ∀ h n q, c.callback = .give (some h) n q →
    c.Held h ∧ ∀ i ∈ c.busy, c.mem.bufferHandle i ≠ some h

/-- A slot that is queued is registered. -/
def Act.QueuesUsed (a : Act) (c : Chan) : Prop :=
  ∀ map unmap qbuf b n i, a = .bufDone map unmap qbuf → c.request = .bufDone b n i →
    (c.stream.bufDone c.mem i map unmap qbuf).2 = .NO_ERROR →
      (c.mem.gralloc.memInfo i).handle = true

namespace Chan

variable {c t : Chan} {b : Buffer} {n : UInt32} {i : ℕ} {handle : Option ℕ}

theorem Owned.goOn {r : Req} (h : c.Owned) (active : Bool) (same : r.waiting = c.request.waiting)
    (found : ∀ b n i, r = .bufDone b n i → c.mem.InRange i ∧ c.mem.bufferHandle i = some b.handle) :
    { c with request := r, active := active }.Owned := by
  have hheld (x : ℕ) (hx : c.Held x) : Held { c with request := r, active := active } x :=
    ⟨hx.1, fun b hb => hx.2 b (same ▸ hb)⟩
  refine ⟨h.unique, fun b hb => h.waiting b (same ▸ hb), h.nodup, fun i hi => ?_, found, h.read,
    fun x n q hx => ?_⟩
  · obtain ⟨hrange, hhandle, x, hx, hown⟩ := h.busy i hi
    exact ⟨hrange, hhandle, x, hx, hheld x hown⟩
  · obtain ⟨hown, hne⟩ := h.giving x n q hx
    exact ⟨hheld x hown, hne⟩

theorem Owned.begin {r : Req} (h : c.Owned) (hb : c.given b.handle = false)
    (hr : r.waiting = some b) (hnot : ∀ b n i, r ≠ .bufDone b n i) :
    { c with request := r, given := update c.given b.handle true }.Owned := by
  have hheld (x : ℕ) (hx : c.Held x) :
      Held { c with request := r, given := update c.given b.handle true } x := by
    have hne : x ≠ b.handle := by
      rintro rfl
      exact absurd (hx.1.symm.trans hb) Bool.noConfusion
    refine ⟨(update_of_ne hne ..).trans hx.1, fun b' hb' => ?_⟩
    obtain rfl : b = b' := Option.some.inj (hr.symm.trans hb')
    exact hne.symm
  refine ⟨h.unique, fun b' hb' => ?_, h.nodup, fun i hi => ?_,
    fun b n i hr => absurd hr (hnot b n i), h.read, fun x n q hx => ?_⟩
  · obtain rfl : b = b' := Option.some.inj (hr.symm.trans hb')
    exact update_self ..
  · obtain ⟨hrange, hhandle, x, hx, hown⟩ := h.busy i hi
    exact ⟨hrange, hhandle, x, hx, hheld x hown⟩
  · obtain ⟨hown, hne⟩ := h.giving x n q hx
    exact ⟨hheld x hown, hne⟩

/-- **The request fails**, and the framework has its buffer again. -/
theorem Owned.fail (h : c.Owned) (hb : c.request.waiting = some b) : (c.fail b).Owned := by
  have hheld (x : ℕ) (hx : c.Held x) : (c.fail b).Held x :=
    ⟨(update_of_ne (hx.2 b hb).symm ..).trans hx.1, nofun⟩
  refine ⟨h.unique, nofun, h.nodup, fun i hi => ?_, nofun, h.read, fun x n q hx => ?_⟩
  · obtain ⟨hrange, hhandle, x, hx, hown⟩ := h.busy i hi
    exact ⟨hrange, hhandle, x, hx, hheld x hown⟩
  · obtain ⟨hown, hne⟩ := h.giving x n q hx
    exact ⟨hheld x hown, hne⟩

theorem Owned.withStream (h : c.Owned) (stream : Stream) : { c with stream := stream }.Owned :=
  ⟨h.unique, h.waiting, h.nodup, h.busy, h.found, h.read, h.giving⟩

theorem Owned.withMarks (h : c.Owned) (heap marks : ℕ → Int32) :
    { c with mem := c.mem.withMarks heap marks }.Owned :=
  ⟨h.unique, h.waiting, h.nodup, h.busy, h.found, h.read, h.giving⟩

/-- **A registration** changes a slot that is free. -/
theorem Owned.registered {mem : StreamMem} {rc : Status} {import_ : StreamMem.Import} (h : c.Owned)
    (hnot : ∀ b n i, c.request ≠ .bufDone b n i)
    (hreg : c.mem.registerBuffer b import_ = (mem, rc)) : { c with mem := mem }.Owned := by
  obtain ⟨rfl, -⟩ | ⟨idx, info, count, hrange, hfree, hother, rfl, -⟩ :=
    registerBuffer_cases hreg
  · exact h
  -- a busy slot is not free
  have hbusy (j : ℕ) (hj : j ∈ c.busy) : j ≠ idx := by
    rintro rfl
    exact absurd ((h.busy j hj).2.1.symm.trans hfree) Bool.noConfusion
  refine ⟨?_, h.waiting, h.nodup, fun j hj => ?_, fun b n i hr => absurd hr (hnot b n i),
    fun j x hx => ?_, fun x n q hx => ?_⟩
  · -- the buffer had no slot before
    have hfresh {i j : ℕ} {x : ℕ} (hj : c.mem.InRange j) (hne : j ≠ idx)
        (hi : (c.mem.put idx b info count).bufferHandle i = some x)
        (hx : (c.mem.put idx b info count).bufferHandle j = some x) : i ≠ idx := by
      rintro rfl
      rw [put_bufferHandle_self] at hi
      rw [put_bufferHandle_of_ne hne, ← hi] at hx
      exact hother j hj hx
    intro i j x hi hj hxi hxj
    by_cases hi' : i = idx
    · by_contra hne
      exact hfresh hj (fun hj' => hne (hi'.trans hj'.symm)) hxi hxj hi'
    · by_cases hj' : j = idx
      · exact absurd hj' (hfresh hi hi' hxj hxi)
      · exact h.unique i j x hi hj ((put_bufferHandle_of_ne hi' ..).symm.trans hxi)
          ((put_bufferHandle_of_ne hj' ..).symm.trans hxj)
  · obtain ⟨hj', hhandle, x, hx, hown⟩ := h.busy j hj
    have hne := hbusy j hj
    refine ⟨hj', ?_, x, (put_bufferHandle_of_ne hne ..).trans hx, hown⟩
    exact (congrArg MemInfo.handle (put_memInfo_of_ne hne ..)).trans hhandle
  · have hne := hbusy j (mem_busy (Cb.slot_of_read hx))
    exact (put_bufferHandle_of_ne hne ..).trans (h.read j x hx)
  · obtain ⟨hown, hne⟩ := h.giving x n q hx
    refine ⟨hown, fun j hj heq => hne j hj ?_⟩
    exact (put_bufferHandle_of_ne (hbusy j hj) ..).symm.trans heq

theorem registerBuffer_eq (c : Chan) (b : Buffer) (import_ : StreamMem.Import) :
    (c.registerBuffer b import_).1 = c.mem ∨
      (c.registerBuffer b import_).1 = (c.mem.registerBuffer b import_).1 := by
  unfold registerBuffer
  split
  · exact .inl rfl
  · split
    · next m hreg => exact .inr (congrArg Prod.fst hreg).symm
    · exact .inr rfl

theorem Owned.register {next : Req} (h : c.Owned) (import_ : StreamMem.Import)
    (hb : c.request.waiting = some b) (hnot : ∀ b n i, c.request ≠ .bufDone b n i)
    (hnext : next.waiting = some b) (hnot' : ∀ b n i, next ≠ .bufDone b n i) :
    (c.register b import_ next).Owned := by
  have hmem : { c with mem := (c.registerBuffer b import_).1 }.Owned := by
    rcases registerBuffer_eq c b import_ with heq | heq
    · rw [heq]
      exact h
    · rw [heq]
      exact h.registered hnot rfl
  unfold Chan.register
  split
  · next m hreg =>
    rw [hreg] at hmem
    exact hmem.goOn c.active (hnext.trans hb.symm) fun b n i hr => absurd hr (hnot' b n i)
  · next m rc hrc hreg =>
    rw [hreg] at hmem
    exact hmem.fail hb

/-- **A slot is queued**: it is busy, and its buffer is not the request's any more. -/
theorem Owned.queue (h : c.Owned) (hr : c.request = .bufDone b n i)
    (used : (c.mem.gralloc.memInfo i).handle = true) :
    { c with
      kernel := c.kernel ++ [i]
      queuedBy := update c.queuedBy i n
      request := .mark b n i }.Owned := by
  obtain ⟨hrange, hslot⟩ := h.found b n i hr
  have hwait : c.request.waiting = some b := by
    rw [hr]
    rfl
  have hnot : i ∉ c.busy := fun hmem => by
    obtain ⟨-, -, x, hx, hown⟩ := h.busy i hmem
    exact hown.2 b hwait (Option.some.inj (hslot.symm.trans hx))
  have hperm : (c.kernel ++ [i] ++ c.callback.slot.toList).Perm (i :: c.busy) := by
    rw [append_assoc]
    exact perm_middle
  refine ⟨h.unique, nofun, hperm.nodup_iff.mpr (nodup_cons.mpr ⟨hnot, h.nodup⟩),
    fun j hj => ?_, nofun, h.read, fun x m q hx => ?_⟩
  · rcases mem_cons.mp (hperm.mem_iff.mp hj) with rfl | hj
    · exact ⟨hrange, used, b.handle, hslot, h.waiting b hwait, nofun⟩
    · obtain ⟨hrange, hhandle, x, hx, hown⟩ := h.busy j hj
      exact ⟨hrange, hhandle, x, hx, hown.1, nofun⟩
  · obtain ⟨hown, hne⟩ := h.giving x m q hx
    refine ⟨⟨hown.1, nofun⟩, fun j hj => ?_⟩
    rcases mem_cons.mp (hperm.mem_iff.mp hj) with rfl | hj
    · rw [hslot]
      exact fun heq => hown.2 b hwait (Option.some.inj heq)
    · exact hne j hj

theorem Owned.turn {kernel : List ℕ} (h : c.Owned) (cb : Cb)
    (nodup : (kernel ++ cb.slot.toList).Nodup) (sub : ∀ j ∈ kernel ++ cb.slot.toList, j ∈ c.busy)
    (read : ∀ i x, cb.read = some (i, x) → c.mem.bufferHandle i = x)
    (giving : ∀ x n q, cb = .give (some x) n q →
      c.Held x ∧ ∀ i ∈ kernel ++ cb.slot.toList, c.mem.bufferHandle i ≠ some x) :
    { c with kernel := kernel, callback := cb }.Owned :=
  ⟨h.unique, h.waiting, nodup, fun j hj => h.busy j (sub j hj), h.found, read, giving⟩

/-- **A slot comes back**: it is in the hands of the callback, or dropped. -/
theorem Owned.back (h : c.Owned) (hi : i ∈ c.kernel) (cb : Cb)
    (hcb : cb = .idle ∨ cb = .getBufferHandle i) (hidle : c.callback = .idle) :
    { c with kernel := c.kernel.erase i, callback := cb }.Owned := by
  have hbusy : c.busy = c.kernel := by
    unfold Chan.busy
    rw [hidle]
    exact append_nil _
  have hnodup : c.kernel.Nodup := hbusy ▸ h.nodup
  rcases hcb with rfl | rfl
  · refine h.turn _ ?_ (fun j hj => ?_) nofun nofun
    · simpa [Cb.slot] using hnodup.erase i
    · rw [hbusy]
      exact mem_of_mem_erase (by simpa [Cb.slot] using hj)
  · have hperm : (c.kernel.erase i ++ [i]).Perm c.kernel :=
      (perm_append_singleton ..).trans (perm_cons_erase hi).symm
    refine h.turn _ (hperm.nodup_iff.mpr hnodup) (fun j hj => ?_) nofun nofun
    rw [hbusy]
    exact hperm.mem_iff.mp hj

theorem Owned.requeue (h : c.Owned) (hi : i ∈ c.kernel) (map unmap qbuf : Bool) :
    (c.requeue i map unmap qbuf).Owned := by
  have hperm : (c.kernel.erase i ++ [i]).Perm c.kernel :=
    (perm_append_singleton ..).trans (perm_cons_erase hi).symm
  have hnodup := nodup_append.mp h.nodup
  unfold Chan.requeue
  split
  · next s hdone =>
    refine (h.withStream s).turn c.callback ?_ (fun j hj => ?_) h.read fun x n q hx => ?_
    · exact ((hperm.append_right _).nodup_iff).mpr h.nodup
    · exact (hperm.append_right _).mem_iff.mp hj
    · obtain ⟨hown, hne⟩ := h.giving x n q hx
      exact ⟨hown, fun j hj => hne j ((hperm.append_right _).mem_iff.mp hj)⟩
  · next s rc hrc hdone =>
    have hsub : (c.kernel.erase i ++ c.callback.slot.toList).Sublist c.busy :=
      erase_sublist.append_right _
    refine (h.withStream s).turn c.callback ?_ (fun j hj => hsub.subset hj) h.read
      fun x n q hx => ?_
    · exact hsub.nodup h.nodup
    · obtain ⟨hown, hne⟩ := h.giving x n q hx
      exact ⟨hown, fun j hj => hne j (hsub.subset hj)⟩

theorem Owned.callbackOn (h : c.Owned) (cb : Cb) (same : cb.slot = c.callback.slot)
    (read : ∀ i x, cb.read = some (i, x) → c.mem.bufferHandle i = x) (hslot : cb.slot = some i) :
    { c with callback := cb }.Owned := by
  have hbusy : c.kernel ++ cb.slot.toList = c.busy := by
    rw [same]
    rfl
  refine h.turn cb (hbusy ▸ h.nodup) (fun j hj => hbusy ▸ hj) read fun x n q hx => ?_
  subst hx
  cases hslot

/-- **The callback ends**: its buffer is held by no other slot, and is given back if a number has
been read. -/
theorem Owned.settle (h : c.Owned) (hslot : c.callback.slot = some i)
    (hread : c.mem.bufferHandle i = handle) (number : Int32) (q : UInt32) :
    (c.settle handle number q).Owned := by
  have hmem : i ∈ c.busy := mem_busy hslot
  have hkernel : ∀ j ∈ c.kernel, j ∈ c.busy ∧ j ≠ i := fun j hj => by
    refine ⟨mem_append_left _ hj, ?_⟩
    have hcross := (nodup_append.mp h.nodup).2.2
    exact hcross j hj i (Option.mem_toList.mpr hslot)
  have hnodup : (c.kernel ++ []).Nodup := by
    rw [append_nil]
    exact (nodup_append.mp h.nodup).1
  unfold Chan.settle
  split
  · refine h.turn _ hnodup (fun j hj => (hkernel j (by simpa [Cb.slot] using hj)).1) nofun ?_
    rintro x n' q' ⟨⟩
    obtain ⟨hrange, -, y, hy, hown⟩ := h.busy i hmem
    obtain rfl : y = x := Option.some.inj (hy.symm.trans hread)
    refine ⟨hown, fun j hj heq => ?_⟩
    obtain ⟨hj, hne⟩ := hkernel j (by simpa [Cb.slot] using hj)
    exact hne (h.unique j i y (h.busy j hj).1 hrange heq hy)
  · exact h.turn _ hnodup (fun j hj => (hkernel j (by simpa [Cb.slot] using hj)).1) nofun nofun

theorem Owned.unregisterLocked {x : ℕ} (h : c.Owned) (hi : i ∉ c.busy)
    (hx : c.mem.bufferHandle i = some x) (hown : c.Held x) (hread : c.callback.read = none) :
    { c with mem := c.mem.unregisterBufferLocked i }.Owned := by
  have hother {j : ℕ} (hne : j ≠ i) :
      (c.mem.unregisterBufferLocked i).bufferHandle j = c.mem.bufferHandle j :=
    update_of_ne hne ..
  have hcleared : (c.mem.unregisterBufferLocked i).bufferHandle i = none :=
    update_self ..
  refine ⟨fun j k y hj hk hjy hky => ?_, h.waiting, h.nodup, fun j hj => ?_, fun b n j hr => ?_,
    fun j y hy => ?_, fun y n q hy => ?_⟩
  · have hold {j : ℕ} (hjy : (c.mem.unregisterBufferLocked i).bufferHandle j = some y) :
        c.mem.bufferHandle j = some y := by
      have hne : j ≠ i := by
        rintro rfl
        rw [hcleared] at hjy
        cases hjy
      exact (hother hne).symm.trans hjy
    exact h.unique j k y hj hk (hold hjy) (hold hky)
  · obtain ⟨hrange, hused, y, hy, hheld⟩ := h.busy j hj
    have hne : j ≠ i := ne_of_mem_of_not_mem hj hi
    refine ⟨hrange, ?_, y, (hother hne).trans hy, hheld⟩
    exact (congrArg MemInfo.handle (update_of_ne hne ..)).trans hused
  · obtain ⟨hrange, hslot⟩ := h.found b n j hr
    refine ⟨hrange, (hother ?_).trans hslot⟩
    rintro rfl
    have hwait : c.request.waiting = some b := by
      rw [show c.request = .bufDone b n j from hr]
      rfl
    exact hown.2 b hwait (Option.some.inj (hslot.symm.trans hx))
  · rw [show c.callback.read = some (j, y) from hy] at hread
    cases hread
  · obtain ⟨hheld, hne⟩ := h.giving y n q hy
    exact ⟨hheld, fun j hj heq => hne j hj ((hother (ne_of_mem_of_not_mem hj hi)).symm.trans heq)⟩

/-- **The slot of the callback is unregistered**, and then the callback ends. -/
theorem Owned.unregister (h : c.Owned) {number : Int32} {q : UInt32}
    (hcb : c.callback = .unregister i handle number q) :
    ({ c with mem := (c.mem.unregisterBuffer i).1 }.settle handle number q).Owned := by
  have hslot : c.callback.slot = some i := by
    rw [hcb]
    rfl
  have hread : c.mem.bufferHandle i = handle := h.read i handle (by rw [hcb]; rfl)
  obtain ⟨hrange, hused, x, hx, hown⟩ := h.busy i (mem_busy hslot)
  have hbusy : (c.settle handle number q).busy = c.kernel := by
    unfold Chan.busy Chan.settle
    split <;> exact append_nil _
  rw [unregisterBuffer_of_used hrange hused]
  refine (h.settle hslot hread number q).unregisterLocked ?_ hx hown ?_
  · rw [hbusy]
    intro hmem
    have hcross := (nodup_append.mp h.nodup).2.2
    exact hcross i hmem i (Option.mem_toList.mpr hslot) rfl
  · unfold Chan.settle
    split <;> rfl

theorem Owned.give (h : c.Owned) {number : Int32} {q : UInt32} {reports : List (UInt32 × UInt32)}
    (hcb : c.callback = .give handle number q) :
    { c with
      callback := .idle
      given := c.givenBack handle
      reports := reports }.Owned := by
  have hbusy : c.busy = c.kernel := by
    unfold Chan.busy
    rw [hcb]
    exact append_nil _
  have hnodup : (c.kernel ++ Cb.idle.slot.toList).Nodup := by
    simpa [Cb.slot, hbusy] using h.nodup
  have hkernel : ∀ j, j ∈ c.kernel ++ Cb.idle.slot.toList → j ∈ c.busy := fun j hj => by
    rw [hbusy]
    simpa [Cb.slot] using hj
  cases handle with
  | none =>
    exact ⟨h.unique, h.waiting, hnodup, fun j hj => h.busy j (hkernel j hj), h.found, nofun, nofun⟩
  | some x =>
    obtain ⟨hown, hne⟩ := h.giving x number q hcb
    have hgiven {y : ℕ} (hy : y ≠ x) : update c.given x false y = c.given y :=
      update_of_ne hy ..
    refine ⟨h.unique, fun b hb => (hgiven (hown.2 b hb)).trans (h.waiting b hb), hnodup,
      fun j hj => ?_, h.found, nofun, nofun⟩
    obtain ⟨hrange, hused, y, hy, hheld⟩ := h.busy j (hkernel j hj)
    refine ⟨hrange, hused, y, hy, (hgiven ?_).trans hheld.1, hheld.2⟩
    rintro rfl
    exact hne j (hkernel j hj) hy

theorem Owned.step {a : Act} (h : c.Owned) (used : a.QueuesUsed c) (step : a.exec c = some t) :
    t.Owned := by
  unfold Act.exec at step
  split at step
  · cases step
    exact h.withStream _
  · -- the request begins
    next b n hr =>
    split at step
    · cases step
    · next hgiven =>
      cases step
      refine h.begin (Bool.eq_false_iff.mpr hgiven) ?_ ?_
      · split <;> rfl
      · split <;> nofun
  · next i b n hr =>
    cases step
    exact h.register i (by rw [hr]; rfl) (by rw [hr]; nofun) rfl nofun
  · next i b n hr =>
    cases step
    exact h.register i (by rw [hr]; rfl) (by rw [hr]; nofun) rfl nofun
  · next ok b n hr =>
    cases step
    split
    · exact h.goOn true (by rw [hr]; rfl) nofun
    · exact h.fail (by rw [hr]; rfl)
  · -- the buffer is looked up
    next b n hr =>
    cases step
    refine h.goOn c.active ?_ ?_
    · rw [hr]
      split <;> rfl
    · intro b' n' i' heq
      split at heq
      · next index hmatch =>
        cases heq
        exact getMatchBufIndex_eq_some hmatch
      · cases heq
  · next b n hr =>
    split at step
    · next index hmatch =>
      cases step
      refine h.goOn c.active (by rw [hr]; rfl) ?_
      rintro b' n' i' ⟨⟩
      exact getMatchBufIndex_eq_some hmatch
    · cases step
      exact h.fail (by rw [hr]; rfl)
  · -- the slot is queued
    next m u q b n index hr =>
    cases step
    have hused := used m u q b n index rfl hr
    unfold Chan.bufDone
    split
    · next s hdone =>
      rw [hdone] at hused
      exact (h.withStream s).queue hr (hused rfl)
    · next s rc hrc hdone => exact (h.withStream s).fail (by rw [hr]; rfl)
  · -- the slot is marked
    next b n index hr =>
    cases step
    obtain ⟨heap, marks, heq⟩ := markFrameNumber_eq c.mem index n
    rw [heq]
    exact (h.withMarks heap marks).goOn (r := .idle) c.active (by rw [hr]; rfl) nofun
  · -- a slot comes back
    next index ok hcb =>
    split at step
    · next hi =>
      cases step
      refine h.back hi _ ?_ hcb
      split
      · exact .inr rfl
      · exact .inl rfl
    · cases step
  · next index m u q =>
    split at step
    · next hi =>
      cases step
      exact h.requeue hi m u q
    · cases step
  · -- the callback reads the handle
    next index hcb =>
    cases step
    have hslot : c.callback.slot = some index := congrArg Cb.slot hcb
    obtain ⟨hrange, hused, -⟩ := h.busy index (mem_busy hslot)
    refine h.callbackOn _ hslot.symm ?_ rfl
    rintro i x ⟨⟩
    unfold getBufferHandle
    rw [if_pos ⟨hrange.1, hrange.2, hused⟩]
  · -- the callback reads the number
    next index handle hcb =>
    have hslot : c.callback.slot = some index := congrArg Cb.slot hcb
    have hread := h.read index handle (congrArg Cb.read hcb)
    split at step
    · cases step
      refine h.callbackOn _ hslot.symm ?_ rfl
      rintro i x ⟨⟩
      exact hread
    · cases step
      exact h.settle hslot hread _ _
  · next u index handle number q hcb =>
    cases step
    have hread := h.read index handle (congrArg Cb.read hcb)
    refine (h.withStream (c.stream.bufRelease index u).1).callbackOn (i := index)
      (.unregister index handle number q) (congrArg Cb.slot hcb).symm ?_ rfl
    rintro i x ⟨⟩
    exact hread
  · next index handle number q hcb =>
    cases step
    exact h.unregister hcb
  · next handle number q hcb =>
    cases step
    exact h.give hcb
  · cases step

theorem owned_created (perFrameMapUnmap : Bool) (maxHeapBuffers numBufs : ℕ) :
    (created perFrameMapUnmap maxHeapBuffers numBufs).Owned :=
  ⟨nofun, nofun, .nil, nofun, nofun, nofun, nofun⟩

end Chan

end StreamBufs
