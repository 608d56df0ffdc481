import MidoCamera.Channel.Requests
import Mathlib.Data.Finset.Card

/-!
# The mapping of a slot

What is registered in a slot, what is mapped for it, and its definition are three tables. They agree
over every interleaving of a request with a callback, but for one thing: in a definition, each plane
after the first takes its fd from the slot that has the plane's number.
-/

namespace StreamBufs

open Loop Function List StreamMem

variable {defs : ℕ → BufDef} {e : GetBufs} {import_ : StreamMem.Import} {map qbuf unmap : Bool}

/-- The definition of slot `i` describes the buffer, but for its planes after the first. -/
structure BufDef.Describes (d : BufDef) (info : MemInfo) (i : ℕ) : Prop where
  fd : d.fd = info.fd
  frameLen : d.frameLen = info.size
  buffer : d.buffer = some i
  bufIdx : d.bufIdx = i
  firstPlane : (d.planes 0).userptr = info.fd

def BufDef.PlanesDescribe (d : BufDef) (info : MemInfo) : Prop :=
  ∀ p < d.numPlanes, (d.planes p).userptr = info.fd

/-- The planes of a slot take their fd from slots that have the same one. -/
def StreamMem.PlanesHold (m : StreamMem) (offset : FrameLenOffset) (i : ℕ) : Prop :=
  ∀ p, 0 < p → p < offset.numPlanes → ((m.memory i).memInfo p).fd = (m.info i).fd

/-- The slots that are registered. -/
def StreamMem.used (m : StreamMem) : Finset ℕ :=
  (Finset.range MM_CAMERA_MAX_NUM_FRAMES).filter fun i =>
    m.maxHeapBuffers ≤ i ∧ (m.gralloc.memInfo i).handle = true

def StreamMem.Counted (m : StreamMem) : Prop := m.gralloc.bufferCount = m.used.card

/-- The slot is passed to `qbuf`. -/
def Status.Passed (rc : Status) : Prop := rc = .NO_ERROR ∨ rc = .FAILED_TRANSACTION

/-- **The three tables agree**: a slot is mapped exactly if it is defined, and then it is registered,
mapped for the fd of its buffer, and the definition describes the buffer. The stream has no heap
buffers. -/
structure Tables (m : StreamMem) (s : Stream) : Prop where
  heap : ∀ i, (m.heap.memInfo i).handle = false
  counted : m.Counted
  ready : s.bufDefs ≠ none → s.memOps = true ∧ s.streamBufs = true
  mapped : ∀ i, s.mapped i ≠ none → s.hasDef i = true
  defined : ∀ i, s.hasDef i = true → m.InRange i ∧ i < s.numBufs ∧
    (m.gralloc.memInfo i).handle = true ∧ s.mapped i = some (m.gralloc.memInfo i).fd ∧
    (s.bufDef i).Describes (m.gralloc.memInfo i) i

def Planes (m : StreamMem) (s : Stream) : Prop :=
  ∀ i, s.hasDef i = true → (s.bufDef i).PlanesDescribe (m.gralloc.memInfo i)

section

variable {m : StreamMem} {i j : ℕ} {d : BufDef} {offset : FrameLenOffset} {s t : Stream}
  {rc : Status} {b : Buffer} {info : MemInfo} {count : ℕ}

theorem memInfo_planes (m : Memory) (offset : FrameLenOffset) (i p : ℕ) (hp : 0 < p)
    (hlt : p < offset.numPlanes) : (m.planes offset i p).userptr = (m.memInfo p).fd := by
  cases p with
  | zero => cases hp
  | succ p =>
    unfold Memory.planes
    rw [if_pos hlt]

/-- **The planes of a definition** lead to the buffer exactly if the slots that they take their fds
from have the same one. -/
theorem bufDef_planes_iff (m : StreamMem) (offset : FrameLenOffset) (i : ℕ) :
    (m.bufDef offset i).PlanesDescribe (m.info i) ↔ m.PlanesHold offset i := by
  constructor
  · intro h p hp hlt
    exact (memInfo_planes _ offset i p hp hlt).symm.trans (h p hlt)
  · intro h p hlt
    rcases Nat.eq_zero_or_pos p with rfl | hp
    · rfl
    · exact (memInfo_planes _ offset i p hp hlt).trans (h p hp hlt)

theorem bufDef_describes (hi : m.InRange i) (used : (m.gralloc.memInfo i).handle = true) :
    (m.bufDef offset i).Describes (m.gralloc.memInfo i) i := by
  have hinfo := info_of_inRange hi
  refine ⟨congrArg MemInfo.fd hinfo, congrArg MemInfo.size hinfo, ?_, rfl, congrArg MemInfo.fd hinfo⟩
  show m.getPtr i = some i
  unfold getPtr
  rw [if_neg (by have := hi.1; omega), if_pos ⟨hi.2, used⟩]

theorem StreamMem.mem_used : i ∈ m.used ↔ m.InRange i ∧ (m.gralloc.memInfo i).handle = true := by
  unfold used StreamMem.InRange
  rw [Finset.mem_filter, Finset.mem_range]
  tauto

theorem StreamMem.Counted.pos (h : m.Counted) (hi : m.InRange i)
    (used : (m.gralloc.memInfo i).handle = true) : m.gralloc.bufferCount ≠ 0 := by
  unfold StreamMem.Counted at h
  rw [h]
  exact Finset.card_ne_zero.mpr ⟨i, mem_used.mpr ⟨hi, used⟩⟩

theorem StreamMem.Counted.put (h : m.Counted) (hi : m.InRange i)
    (free : (m.gralloc.memInfo i).handle = false)
    (hcount : (info.handle = true ∧ count = m.gralloc.bufferCount + 1) ∨
      (info.handle = false ∧ count = m.gralloc.bufferCount)) : (m.put i b info count).Counted := by
  have hnot : i ∉ m.used := fun hmem =>
    absurd ((mem_used.mp hmem).2.symm.trans free) Bool.noConfusion
  have hother {j : ℕ} (hne : j ≠ i) : j ∈ (m.put i b info count).used ↔ j ∈ m.used := by
    rw [mem_used, mem_used, put_memInfo_of_ne hne]
    rfl
  unfold StreamMem.Counted at h ⊢
  show count = _
  rcases hcount with ⟨hinfo, rfl⟩ | ⟨hinfo, rfl⟩
  · have hused : (m.put i b info (m.gralloc.bufferCount + 1)).used = insert i m.used := by
      ext j
      rcases eq_or_ne j i with rfl | hne
      · have hmem : j ∈ (m.put j b info (m.gralloc.bufferCount + 1)).used := by
          refine mem_used.mpr ⟨hi, ?_⟩
          rw [put_memInfo_self]
          exact hinfo
        simp [hmem]
      · simp [hother hne, hne]
    rw [hused, Finset.card_insert_of_notMem hnot, h]
  · have hused : (m.put i b info m.gralloc.bufferCount).used = m.used := by
      ext j
      rcases eq_or_ne j i with rfl | hne
      · refine iff_of_false (fun hmem => ?_) hnot
        have hhandle := (mem_used.mp hmem).2
        rw [put_memInfo_self, hinfo] at hhandle
        cases hhandle
      · exact hother hne
    rw [hused, h]

theorem StreamMem.Counted.unregister (h : m.Counted) (hi : m.InRange i)
    (used : (m.gralloc.memInfo i).handle = true) : (m.unregisterBufferLocked i).Counted := by
  have hused : (m.unregisterBufferLocked i).used = m.used.erase i := by
    ext j
    rw [Finset.mem_erase, mem_used, mem_used]
    rcases eq_or_ne j i with rfl | hne
    · simp [unregisterBufferLocked]
    · simp [unregisterBufferLocked, StreamMem.InRange, hne]
  unfold StreamMem.Counted at h ⊢
  show m.gralloc.bufferCount - 1 = _
  rw [hused, Finset.card_erase_of_mem (mem_used.mpr ⟨hi, used⟩), h]

/-! ## The stream -/

/-- The stream with a slot mapped and defined. -/
def Stream.define (s : Stream) (defs : ℕ → BufDef) (i : ℕ) (fd : ℤ) (d : BufDef) : Stream :=
  { s with
    mapped := update s.mapped i (some fd)
    bufDefs := some (update defs i d) }

/-- **What `bufDone` does**: nothing to the tables, and then it passes only a slot that is defined, or
it maps and defines the slot. -/
theorem bufDone_cases (counted : i < MM_CAMERA_MAX_NUM_FRAMES → (m.info i).handle = true →
      (m.memory i).bufferCount ≠ 0) (h : s.bufDone m i map unmap qbuf = (t, rc)) :
    (t = s ∧ (rc.Passed → s.hasDef i = true)) ∨
      ∃ defs, s.bufDefs = some defs ∧ s.hasDef i = false ∧ i < s.numBufs ∧
        i < MM_CAMERA_MAX_NUM_FRAMES ∧ (m.info i).handle = true ∧
        t = s.define defs i (m.info i).fd (m.bufDef s.frameLenOffset i) := by
  unfold Stream.bufDone at h
  split at h
  · cases h
    exact .inl ⟨rfl, by rintro (hrc | hrc) <;> cases hrc⟩
  next defs hdefs =>
  have hdef : s.hasDef i = (defs i).memInfo := by
    unfold Stream.hasDef Stream.bufDef
    rw [hdefs]
  split at h
  · cases h
    exact .inl ⟨rfl, by rintro (hrc | hrc) <;> cases hrc⟩
  next hlt =>
  split at h
  · cases h
    exact .inl ⟨rfl, by rintro (hrc | hrc) <;> cases hrc⟩
  split at h
  · next hhas =>
    cases h
    exact .inl ⟨rfl, fun _ => hdef.trans hhas⟩
  next hnot =>
  split at h
  · cases h
    exact .inl ⟨rfl, by rintro (hrc | hrc) <;> cases hrc⟩
  split at h
  · cases h
    exact .inl ⟨rfl, by rintro (hrc | hrc) <;> cases hrc⟩
  next size hsize =>
  obtain ⟨hmax, hhandle, hfd⟩ := getSize_eq_some hsize
  split at h
  · cases h
    exact .inl ⟨rfl, by rintro (hrc | hrc) <;> cases hrc⟩
  · simp only [getBufDef_of_counted (counted hmax hhandle), ne_eq, not_true, if_false, hfd] at h
    cases h
    exact .inr ⟨defs, hdefs, hdef.trans (Bool.eq_false_iff.mpr hnot), by omega, hmax, hhandle, rfl⟩

theorem bufDef_define (s : Stream) (defs : ℕ → BufDef) (i : ℕ) (fd : ℤ) (d : BufDef) :
    (s.define defs i fd d).bufDef i = d := update_self ..

theorem bufDef_define_of_ne (hdefs : s.bufDefs = some defs) (hne : j ≠ i)
    (fd : ℤ) (d : BufDef) : (s.define defs i fd d).bufDef j = s.bufDef j := by
  unfold Stream.bufDef
  rw [hdefs]
  exact update_of_ne hne ..

/-- The stream with a slot unmapped, and not defined any more. -/
def Stream.undefine (s : Stream) (defs : ℕ → BufDef) (i : ℕ) : Stream :=
  { s with
    mapped := update s.mapped i none
    bufDefs := some (update defs i { defs i with memInfo := false }) }

/-- **What `bufRelease` does**: nothing, and then the slot is not defined or the stream has no
operations, or it unmaps the slot. -/
theorem bufRelease_cases (i : ℕ) :
    ((s.bufRelease i true).1 = s ∧
        (s.hasDef i = true → i < s.numBufs → s.memOps = false)) ∨
      ∃ defs, s.bufDefs = some defs ∧ (s.bufRelease i true).1 = s.undefine defs i := by
  unfold Stream.bufRelease Stream.hasDef Stream.bufDef
  split
  · next hdefs => exact .inl ⟨rfl, fun h => by rw [hdefs] at h; cases h⟩
  next defs hdefs =>
  rw [hdefs]
  split
  · exact .inl ⟨rfl, fun _ hlt => by omega⟩
  split
  · next hnot => exact .inl ⟨rfl, fun h => by simp [h] at hnot⟩
  split
  · next hops => exact .inl ⟨rfl, fun _ _ => by simpa using hops⟩
  · exact .inr ⟨defs, rfl, rfl⟩

theorem hasDef_undefine (s : Stream) (defs : ℕ → BufDef) (i : ℕ) :
    (s.undefine defs i).hasDef i = false := by
  show (update defs i { defs i with memInfo := false } i).memInfo = false
  rw [update_self]

theorem bufDef_undefine_of_ne (hdefs : s.bufDefs = some defs) (hne : j ≠ i) :
    (s.undefine defs i).bufDef j = s.bufDef j := by
  unfold Stream.bufDef
  rw [hdefs]
  exact update_of_ne hne ..

theorem hasDef_of_none (hdefs : s.bufDefs = none) (i : ℕ) : s.hasDef i = false := by
  unfold Stream.hasDef Stream.bufDef
  rw [hdefs]

namespace Tables

theorem inRange (h : Tables m s) (hmax : i < MM_CAMERA_MAX_NUM_FRAMES)
    (used : (m.info i).handle = true) : m.InRange i := by
  refine ⟨?_, hmax⟩
  by_contra hlt
  unfold info memory at used
  rw [if_pos (by omega)] at used
  exact absurd (used.symm.trans (h.heap i)) Bool.noConfusion

theorem counted_ne_zero (h : Tables m s) (hmax : i < MM_CAMERA_MAX_NUM_FRAMES)
    (used : (m.info i).handle = true) : (m.memory i).bufferCount ≠ 0 := by
  have hrange := h.inRange hmax used
  rw [memory_of_inRange hrange]
  rw [info_of_inRange hrange] at used
  exact h.counted.pos hrange used

theorem define (h : Tables m s) (hdefs : s.bufDefs = some defs)
    (hlt : i < s.numBufs) (hrange : m.InRange i) (used : (m.gralloc.memInfo i).handle = true)
    (offset : FrameLenOffset) :
    Tables m (s.define defs i (m.gralloc.memInfo i).fd (m.bufDef offset i)) := by
  have hready := h.ready (by rw [hdefs]; exact Option.some_ne_none defs)
  have hother {j : ℕ} (hne : j ≠ i) :
      (s.define defs i (m.gralloc.memInfo i).fd (m.bufDef offset i)).hasDef j = s.hasDef j := by
    unfold Stream.hasDef
    rw [bufDef_define_of_ne hdefs hne]
  refine ⟨h.heap, h.counted, fun _ => hready, fun j hj => ?_, fun j hj => ?_⟩
  · rcases eq_or_ne j i with rfl | hne
    · unfold Stream.hasDef
      rw [bufDef_define]
      rfl
    · rw [hother hne]
      refine h.mapped j fun hnone => hj ?_
      exact (update_of_ne hne ..).trans hnone
  · rcases eq_or_ne j i with rfl | hne
    · rw [bufDef_define]
      exact ⟨hrange, hlt, used, update_self .., bufDef_describes hrange used⟩
    · rw [hother hne] at hj
      obtain ⟨hj, hlt', used', hmapped, hdescr⟩ := h.defined j hj
      rw [bufDef_define_of_ne hdefs hne]
      exact ⟨hj, hlt', used', (update_of_ne hne ..).trans hmapped, hdescr⟩

theorem bufDone (h : Tables m s) (hdone : s.bufDone m i map unmap qbuf = (t, rc)) : Tables m t := by
  obtain ⟨rfl, -⟩ | ⟨defs, hdefs, -, hlt, hmax, used, rfl⟩ :=
    bufDone_cases h.counted_ne_zero hdone
  · exact h
  · have hrange := h.inRange hmax used
    rw [info_of_inRange hrange] at used ⊢
    exact h.define hdefs hlt hrange used _

theorem bufDone_hasDef (h : Tables m s) (hdone : s.bufDone m i map unmap qbuf = (t, rc)) :
    (rc.Passed → t.hasDef i = true) ∧ (∀ j, j ≠ i → t.hasDef j = s.hasDef j) ∧
      (s.bufDefs ≠ none → t.bufDefs ≠ none) := by
  obtain ⟨rfl, hpassed⟩ | ⟨defs, hdefs, -, -, -, -, rfl⟩ :=
    bufDone_cases h.counted_ne_zero hdone
  · exact ⟨hpassed, fun _ _ => rfl, id⟩
  · refine ⟨fun _ => ?_, fun j hne => ?_, fun _ => Option.some_ne_none _⟩
    · exact congrArg BufDef.memInfo (bufDef_define ..)
    · exact congrArg BufDef.memInfo (bufDef_define_of_ne hdefs hne ..)

/-- **A buffer is released**, and is not defined then. -/
theorem bufRelease (h : Tables m s) (i : ℕ) :
    Tables m (s.bufRelease i true).1 ∧ (s.bufRelease i true).1.hasDef i = false := by
  obtain ⟨heq, hops⟩ | ⟨defs, hdefs, heq⟩ := bufRelease_cases (s := s) i
  · rw [heq]
    refine ⟨h, ?_⟩
    by_contra hhas
    have hhas : s.hasDef i = true := Bool.eq_true_of_not_eq_false hhas
    have hready := h.ready fun hnone => by
      rw [hasDef_of_none hnone] at hhas
      cases hhas
    exact absurd (hready.1.symm.trans (hops hhas (h.defined i hhas).2.1)) Bool.noConfusion
  rw [heq]
  have hready := h.ready (by rw [hdefs]; exact Option.some_ne_none defs)
  have hself := hasDef_undefine s defs i
  refine ⟨⟨h.heap, h.counted, fun _ => hready, fun j hj => ?_, fun j hj => ?_⟩, hself⟩
  · rcases eq_or_ne j i with rfl | hne
    · exact absurd (update_self ..) hj
    · refine (congrArg BufDef.memInfo (bufDef_undefine_of_ne hdefs hne)).trans
        (h.mapped j fun hnone => hj ?_)
      exact (update_of_ne hne ..).trans hnone
  · rcases eq_or_ne j i with rfl | hne
    · exact absurd (hself.symm.trans hj) Bool.noConfusion
    · have hdef := bufDef_undefine_of_ne hdefs hne
      obtain ⟨hj, hlt', used', hmapped, hdescr⟩ :=
        h.defined j ((congrArg BufDef.memInfo hdef).symm.trans hj)
      rw [hdef]
      exact ⟨hj, hlt', used', (update_of_ne hne ..).trans hmapped, hdescr⟩

theorem withMarks (h : Tables m s) (heap gralloc : ℕ → Int32) :
    Tables (m.withMarks heap gralloc) s :=
  ⟨h.heap, h.counted, h.ready, h.mapped, h.defined⟩

/-- **A buffer is registered** in a slot that is free, and therefore not defined. -/
theorem put (h : Tables m s) (hi : m.InRange i) (free : (m.gralloc.memInfo i).handle = false)
    (hcount : (info.handle = true ∧ count = m.gralloc.bufferCount + 1) ∨
      (info.handle = false ∧ count = m.gralloc.bufferCount)) :
    Tables (m.put i b info count) s := by
  refine ⟨h.heap, h.counted.put hi free hcount, h.ready, h.mapped, fun j hj => ?_⟩
  obtain ⟨hj, hlt, used, hmapped, hdescr⟩ := h.defined j hj
  have hne : j ≠ i := by
    rintro rfl
    exact absurd (used.symm.trans free) Bool.noConfusion
  rw [put_memInfo_of_ne hne]
  exact ⟨hj, hlt, used, hmapped, hdescr⟩

theorem registerBuffer {m' : StreamMem} (h : Tables m s)
    (hreg : m.registerBuffer b import_ = (m', rc)) : Tables m' s := by
  obtain ⟨rfl, -⟩ | ⟨idx, info, count, hrange, hfree, -, rfl, hcount⟩ :=
    registerBuffer_cases hreg
  · exact h
  · refine h.put hrange hfree ?_
    rcases hcount with ⟨-, rfl, hcount⟩ | ⟨-, hinfo, hcount⟩
    · exact .inl ⟨rfl, hcount⟩
    · exact .inr ⟨hinfo, hcount⟩

/-- **A slot that is not defined** is unregistered. -/
theorem unregister (h : Tables m s) (hi : m.InRange i)
    (used : (m.gralloc.memInfo i).handle = true) (hnot : s.hasDef i = false) :
    Tables (m.unregisterBufferLocked i) s := by
  refine ⟨h.heap, h.counted.unregister hi used, h.ready, h.mapped, fun j hj => ?_⟩
  have hne : j ≠ i := by
    rintro rfl
    exact absurd (hj.symm.trans hnot) Bool.noConfusion
  have hinfo : (m.unregisterBufferLocked i).gralloc.memInfo j = m.gralloc.memInfo j :=
    update_of_ne hne ..
  rw [hinfo]
  exact h.defined j hj

theorem valid_used (h : Tables m s) (hv : m.valid i = true) : m.InRange i ∧
    (m.gralloc.memInfo i).handle = true ∧ m.getFd i = some (m.gralloc.memInfo i).fd := by
  obtain ⟨size, hsize, -⟩ := Stream.valid_iff.mp hv
  obtain ⟨hmax, used, hfd⟩ := getSize_eq_some hsize
  have hrange := h.inRange hmax used
  rw [info_of_inRange hrange] at used hfd
  exact ⟨hrange, used, hfd⟩

theorem initialDefs_eq (h : Tables m s) (t : Stream) (i : ℕ) : t.initialDefs m i =
    if i < t.numBufs ∧ m.valid i = true then m.bufDef t.frameLenOffset i else {} := by
  unfold Stream.initialDefs
  split
  · next hboth =>
    obtain ⟨hrange, used, -⟩ := h.valid_used hboth.2
    have hcount := h.counted.pos hrange used
    rw [← memory_of_inRange hrange] at hcount
    rw [getBufDef_of_counted hcount]
  · rfl

theorem unmapped (h : Tables m s) (hstream : s.streamBufs = false) :
    s.bufDefs = none ∧ ∀ i, s.mapped i = none := by
  have hdefs : s.bufDefs = none := by
    by_contra hdefs
    exact absurd ((h.ready hdefs).2.symm.trans hstream) Bool.noConfusion
  refine ⟨hdefs, fun i => ?_⟩
  by_contra hmapped
  exact absurd ((h.mapped i hmapped).symm.trans (hasDef_of_none hdefs i)) Bool.noConfusion

/-- **What `getBufs` does**: it defines nothing anew, or each valid slot. -/
theorem getBufs_cases (h : Tables m s) (offset : FrameLenOffset)
    (hunmap : ∀ i, e.unmapOps i = true) (hmem : e.streamBufs = some m)
    (ht : (s.getBufs offset true e).1 = t) :
    (t = { s with frameLenOffset := offset, memOps := true }) ∨
      (t.bufDefs = none ∧ ∀ i, t.mapped i = none) ∨
      (t.memOps = true ∧ t.streamBufs = true ∧ t.numBufs = s.numBufs ∧
        (∀ i, t.mapped i = if i < s.numBufs ∧ m.valid i = true then m.getFd i else none) ∧
        ∀ i, t.bufDef i = if i < s.numBufs ∧ m.valid i = true then m.bufDef offset i else {}) := by
  unfold Stream.getBufs at ht
  simp only [Bool.not_true, Bool.false_eq_true, if_false, hmem] at ht
  split at ht
  · exact .inl ht.symm
  next hstream =>
  obtain ⟨hdefs, hidle⟩ := h.unmapped (Bool.eq_false_iff.mpr hstream)
  set u : Stream :=
    { s with frameLenOffset := offset, memOps := true, streamBufs := true, memoryOut := true } with hu
  by_cases hok : (u.getBufsFrom m e).2 = .NO_ERROR
  · obtain ⟨hmapped, hnew⟩ := Stream.getBufsFrom_mapped hok
    obtain ⟨mapped, bufDefs, heq⟩ := Stream.getBufsFrom_eq u m e
    rw [ht] at hmapped hnew heq
    refine .inr (.inr ⟨?_, ?_, ?_, fun i => ?_, fun i => ?_⟩)
    · rw [heq]
    · rw [heq]
    · rw [heq]
    · rw [hmapped, hu, hidle]
    · unfold Stream.bufDef
      rw [hnew]
      exact h.initialDefs_eq u i
  · have hidle' : ∀ i, u.mapped i = none := hidle
    obtain ⟨hmapped, hnone⟩ := Stream.getBufsFrom_failed hunmap hidle' hdefs hok
    exact .inr (.inl ⟨ht ▸ hnone, fun i => ht ▸ hmapped i⟩)

/-- **The buffers are got**, where unmapping succeeds. -/
theorem getBufs (h : Tables m s) (offset : FrameLenOffset)
    (hunmap : ∀ i, e.unmapOps i = true) (hmem : e.streamBufs = some m) :
    Tables m (s.getBufs offset true e).1 := by
  obtain heq | ⟨hnone, hmapped⟩ | ⟨hops, hstream, hnum, hmapped, hdef⟩ :=
    h.getBufs_cases offset hunmap hmem rfl
  · rw [heq]
    exact ⟨h.heap, h.counted, fun hdefs => ⟨rfl, (h.ready hdefs).2⟩, h.mapped, h.defined⟩
  · refine ⟨h.heap, h.counted, fun hne => absurd hnone hne, fun i hi => absurd (hmapped i) hi,
      fun i hi => ?_⟩
    exact absurd (hi.symm.trans (hasDef_of_none hnone i)) Bool.noConfusion
  · refine ⟨h.heap, h.counted, fun _ => ⟨hops, hstream⟩, fun i hi => ?_, fun i hi => ?_⟩
    · rw [hmapped] at hi
      unfold Stream.hasDef
      rw [hdef]
      split at hi
      · next hboth => rw [if_pos hboth]; rfl
      · exact absurd rfl hi
    · unfold Stream.hasDef at hi
      rw [hdef] at hi
      split at hi
      · next hboth =>
        obtain ⟨hrange, used, hfd⟩ := h.valid_used hboth.2
        rw [hmapped, hdef, if_pos hboth, if_pos hboth, hnum]
        exact ⟨hrange, hboth.1, used, hfd, bufDef_describes hrange used⟩
      · cases hi

end Tables

namespace Planes

theorem define (h : Planes m s) (hdefs : s.bufDefs = some defs)
    (hrange : m.InRange i) (offset : FrameLenOffset) (hold : m.PlanesHold offset i) (fd : ℤ) :
    Planes m (s.define defs i fd (m.bufDef offset i)) := by
  intro j hj
  unfold Stream.hasDef at hj
  rcases eq_or_ne j i with rfl | hne
  · rw [bufDef_define, ← info_of_inRange hrange]
    exact (bufDef_planes_iff m offset j).mpr hold
  · rw [bufDef_define_of_ne hdefs hne] at hj ⊢
    exact h j hj

theorem bufDone (h : Planes m s) (tables : Tables m s)
    (hold : s.hasDef i = false → m.PlanesHold s.frameLenOffset i)
    (hdone : s.bufDone m i map unmap qbuf = (t, rc)) : Planes m t := by
  obtain ⟨rfl, -⟩ | ⟨defs, hdefs, hnot, hlt, hmax, used, rfl⟩ :=
    bufDone_cases tables.counted_ne_zero hdone
  · exact h
  · exact h.define hdefs (tables.inRange hmax used) _ (hold hnot) _

theorem bufRelease (h : Planes m s) (i : ℕ) : Planes m (s.bufRelease i true).1 := by
  obtain ⟨heq, -⟩ | ⟨defs, hdefs, heq⟩ := bufRelease_cases (s := s) i
  · rw [heq]
    exact h
  rw [heq]
  intro j hj
  rcases eq_or_ne j i with rfl | hne
  · exact absurd ((hasDef_undefine s defs j).symm.trans hj) Bool.noConfusion
  · have hdef := bufDef_undefine_of_ne hdefs hne
    rw [hdef]
    exact h j ((congrArg BufDef.memInfo hdef).symm.trans hj)

theorem put (h : Planes m s) (tables : Tables m s) (free : (m.gralloc.memInfo i).handle = false)
    (info : MemInfo) (count : ℕ) : Planes (m.put i b info count) s := by
  intro j hj
  have hne : j ≠ i := by
    rintro rfl
    exact absurd ((tables.defined j hj).2.2.1.symm.trans free) Bool.noConfusion
  rw [put_memInfo_of_ne hne]
  exact h j hj

theorem registerBuffer {m' : StreamMem} (h : Planes m s)
    (tables : Tables m s) (hreg : m.registerBuffer b import_ = (m', rc)) : Planes m' s := by
  obtain ⟨rfl, -⟩ | ⟨idx, info, count, hrange, hfree, -, rfl, -⟩ :=
    registerBuffer_cases hreg
  · exact h
  · exact h.put tables hfree info count

theorem unregister (h : Planes m s) (hnot : s.hasDef i = false) :
    Planes (m.unregisterBufferLocked i) s := by
  intro j hj
  have hne : j ≠ i := by
    rintro rfl
    exact absurd (hj.symm.trans hnot) Bool.noConfusion
  have hinfo : (m.unregisterBufferLocked i).gralloc.memInfo j = m.gralloc.memInfo j :=
    update_of_ne hne ..
  rw [hinfo]
  exact h j hj

theorem getBufs (h : Planes m s) (tables : Tables m s) (offset : FrameLenOffset)
    (hunmap : ∀ i, e.unmapOps i = true) (hmem : e.streamBufs = some m)
    (hold : ∀ i, m.InRange i → m.PlanesHold offset i) :
    Planes m (s.getBufs offset true e).1 := by
  intro i hi
  obtain heq | ⟨hnone, -⟩ | ⟨-, -, -, -, hdef⟩ := tables.getBufs_cases offset hunmap hmem rfl
  · rw [heq] at hi ⊢
    exact h i hi
  · exact absurd (hi.symm.trans (hasDef_of_none hnone i)) Bool.noConfusion
  · unfold Stream.hasDef at hi
    rw [hdef] at hi ⊢
    split at hi
    · next hboth =>
      have hrange := (tables.valid_used hboth.2).1
      rw [if_pos hboth, ← info_of_inRange hrange]
      exact (bufDef_planes_iff m offset i).mpr (hold i hrange)
    · cases hi

end Planes

end

def Act.Unmaps : Act → Prop
  | .getBufs _ e => ∀ i, e.unmapOps i = true
  | .bufRelease unmap => unmap = true
  | _ => True

/-- A definition is made where its planes lead to the buffer. -/
def Act.DefinesPlanes (a : Act) (c : Chan) : Prop :=
  (∀ offset e, a = .getBufs offset e → ∀ i, c.mem.InRange i → c.mem.PlanesHold offset i) ∧
    (∀ map unmap qbuf b n i, a = .bufDone map unmap qbuf → c.request = .bufDone b n i →
      c.stream.hasDef i = false → c.mem.PlanesHold c.stream.frameLenOffset i) ∧
    ∀ map unmap qbuf i, a = .requeue i map unmap qbuf → c.stream.hasDef i = false →
      c.mem.PlanesHold c.stream.frameLenOffset i

/-- A slot that is passed to `qbuf` is registered, mapped for the fd of its buffer, and its definition
describes the buffer; a slot is mapped exactly if it has a definition. -/
structure Chan.Mapped (c : Chan) : Prop where
  mapped : ∀ i, c.stream.mapped i ≠ none ↔ c.stream.hasDef i = true
  passed : ∀ i map unmap qbuf t rc, c.stream.bufDone c.mem i map unmap qbuf = (t, rc) → rc.Passed →
    (c.mem.gralloc.memInfo i).handle = true ∧ t.mapped i = some (c.mem.gralloc.memInfo i).fd ∧
      t.hasDef i = true ∧ (t.bufDef i).Describes (c.mem.gralloc.memInfo i) i

/-- And all planes of the definition lead to the buffer, if it is made, where it is made now, from
planes that do. -/
structure Chan.Sound (c : Chan) : Prop extends c.Mapped where
  planes : ∀ i map unmap qbuf t rc, c.stream.bufDone c.mem i map unmap qbuf = (t, rc) → rc.Passed →
    (c.stream.hasDef i = false → c.mem.PlanesHold c.stream.frameLenOffset i) →
      (t.bufDef i).PlanesDescribe (c.mem.gralloc.memInfo i)

/-- **What is kept**: whose the slots are, and that the tables agree; a slot that is busy belongs to a
stream with buffers, and one that is being unregistered has been released. -/
structure Chan.Kept (c : Chan) : Prop where
  owned : c.Owned
  tables : Tables c.mem c.stream
  started : c.busy ≠ [] → c.stream.bufDefs ≠ none
  released : ∀ i h n q, c.callback = .unregister i h n q → c.stream.hasDef i = false

namespace Chan

variable {c t : Chan} {b : Buffer} {n : UInt32} {i : ℕ}

theorem registerBuffer_keeps (tables : Tables c.mem c.stream) (import_ : StreamMem.Import) :
    Tables (c.registerBuffer b import_).1 c.stream := by
  rcases registerBuffer_eq c b import_ with heq | heq
  · rw [heq]
    exact tables
  · rw [heq]
    exact tables.registerBuffer rfl

theorem register_frame (c : Chan) (b : Buffer) (import_ : StreamMem.Import) (next : Req) :
    (c.register b import_ next).mem = (c.registerBuffer b import_).1 ∧
      (c.register b import_ next).stream = c.stream ∧
      (c.register b import_ next).busy = c.busy ∧
      (c.register b import_ next).callback = c.callback := by
  unfold Chan.register
  split
  · next m hreg => exact ⟨(congrArg Prod.fst hreg).symm, rfl, rfl, rfl⟩
  · next m rc hrc hreg => exact ⟨(congrArg Prod.fst hreg).symm, rfl, rfl, rfl⟩

theorem Kept.goOn (h : c.Kept) (owned : t.Owned) (mem : t.mem = c.mem) (stream : t.stream = c.stream)
    (busy : t.busy = c.busy) (callback : t.callback = c.callback) : t.Kept where
  owned := owned
  tables := by
    rw [mem, stream]
    exact h.tables
  started := by
    rw [busy, stream]
    exact h.started
  released := by
    rw [callback, stream]
    exact h.released

theorem Kept.register {next : Req} (h : c.Kept)
    (owned : (c.register b import_ next).Owned) : (c.register b import_ next).Kept := by
  obtain ⟨hmem, hstream, hbusy, hcb⟩ := register_frame c b import_ next
  refine ⟨owned, ?_, ?_, ?_⟩
  · rw [hmem, hstream]
    exact registerBuffer_keeps h.tables import_
  · rw [hbusy, hstream]
    exact h.started
  · rw [hcb, hstream]
    exact h.released

theorem Kept.bufDone {s : Stream} {rc : Status} (h : c.Kept)
    (owned : t.Owned) (hdone : c.stream.bufDone c.mem i map unmap qbuf = (s, rc)) (mem : t.mem = c.mem)
    (stream : t.stream = s) (callback : t.callback = c.callback)
    (busy : t.busy ≠ [] → rc = .NO_ERROR ∨ c.busy ≠ [])
    (free : ∀ j x m q, c.callback = .unregister j x m q → j ≠ i) : t.Kept := by
  obtain ⟨hpassed, hother, hdefs⟩ := h.tables.bufDone_hasDef hdone
  refine ⟨owned, ?_, fun hbusy => ?_, fun j x m q hcb => ?_⟩
  · rw [mem, stream]
    exact h.tables.bufDone hdone
  · rw [stream]
    rcases busy hbusy with hok | hbusy
    · intro hnone
      have hdef := hpassed (.inl hok)
      rw [hasDef_of_none hnone] at hdef
      cases hdef
    · exact hdefs (h.started hbusy)
  · rw [callback] at hcb
    rw [stream]
    exact (hother j (free j x m q hcb)).trans (h.released j x m q hcb)

theorem Kept.callbackOn {kernel : List ℕ} {cb : Cb} (h : c.Kept)
    (owned : { c with kernel := kernel, callback := cb }.Owned)
    (sub : ∀ j ∈ kernel ++ cb.slot.toList, j ∈ c.busy)
    (hcb : ∀ i h n q, cb ≠ .unregister i h n q) : { c with kernel := kernel, callback := cb }.Kept where
  owned := owned
  tables := h.tables
  started hne := h.started fun hnil => hne <| eq_nil_iff_forall_not_mem.mpr fun j hj => by
    have hmem := sub j hj
    rw [hnil] at hmem
    cases hmem
  released i x m q heq := absurd heq (hcb i x m q)

theorem Kept.getBufs (h : c.Kept) (offset : FrameLenOffset)
    (hunmap : ∀ i, e.unmapOps i = true) (hmem : e.streamBufs = some c.mem) :
    { c with stream := (c.stream.getBufs offset true e).1 }.Kept := by
  have hsame (hbusy : c.busy ≠ []) : (c.stream.getBufs offset true e).1 =
      { c.stream with frameLenOffset := offset, memOps := true } := by
    have hstream := (h.tables.ready (h.started hbusy)).2
    unfold Stream.getBufs
    rw [if_neg (by simp), if_pos hstream]
  refine ⟨h.owned.withStream _, h.tables.getBufs offset hunmap hmem, fun hbusy => ?_,
    fun i x n q hcb => ?_⟩
  · rw [hsame hbusy]
    exact h.started hbusy
  · rw [hsame (ne_nil_of_mem (mem_busy (congrArg Cb.slot hcb)))]
    exact h.released i x n q hcb

theorem Kept.bufRelease {x : Option ℕ} {number : Int32} {q : UInt32} (h : c.Kept)
    (hcb : c.callback = .bufRelease i x number q)
    (owned : { c with
      stream := (c.stream.bufRelease i true).1
      callback := .unregister i x number q }.Owned) :
    { c with
      stream := (c.stream.bufRelease i true).1
      callback := .unregister i x number q }.Kept := by
  obtain ⟨htables, hdef⟩ := h.tables.bufRelease i
  refine ⟨owned, htables, fun _ => ?_, ?_⟩
  · have hdefs := h.started (ne_nil_of_mem (mem_busy (congrArg Cb.slot hcb)))
    obtain ⟨heq, -⟩ | ⟨defs, -, heq⟩ := bufRelease_cases (s := c.stream) i
    · rw [heq]
      exact hdefs
    · rw [heq]
      exact Option.some_ne_none _
  · rintro j y m r ⟨⟩
    exact hdef

theorem Kept.unregister {x : Option ℕ} {number : Int32} {q : UInt32} (h : c.Kept)
    (hcb : c.callback = .unregister i x number q) :
    ({ c with mem := (c.mem.unregisterBuffer i).1 }.settle x number q).Kept := by
  have hmem : i ∈ c.busy := mem_busy (congrArg Cb.slot hcb)
  obtain ⟨hrange, hused, -⟩ := h.owned.busy i hmem
  have hdefs := h.started (ne_nil_of_mem hmem)
  refine ⟨h.owned.unregister hcb, ?_, fun _ => hdefs, ?_⟩
  · show Tables (c.mem.unregisterBuffer i).1 c.stream
    rw [unregisterBuffer_of_used hrange hused]
    exact h.tables.unregister hrange hused (h.released i x number q hcb)
  · unfold Chan.settle
    intro j y m r
    split <;> nofun

theorem Kept.queuesUsed (h : c.Kept) (a : Act) : a.QueuesUsed c := by
  rintro map unmap qbuf b n i - - hok
  have hdef := (h.tables.bufDone_hasDef rfl).1 (.inl hok)
  exact ((h.tables.bufDone rfl).defined i hdef).2.2.1

/-- **A step** keeps whose the slots are, and that the tables agree. -/
theorem Kept.step {a : Act} (h : c.Kept) (unmaps : a.Unmaps) (step : a.exec c = some t) : t.Kept := by
  have owned := h.owned.step (h.queuesUsed a) step
  unfold Act.exec at step
  split at step
  · next offset e hr =>
    cases step
    exact h.getBufs offset unmaps rfl
  · split at step
    · cases step
    · cases step
      exact h.goOn owned rfl rfl rfl rfl
  · cases step
    exact h.register owned
  · cases step
    exact h.register owned
  · cases step
    split at owned
    · rw [if_pos ‹_›]
      exact h.goOn owned rfl rfl rfl rfl
    · rw [if_neg ‹_›]
      exact h.goOn owned rfl rfl rfl rfl
  · cases step
    exact h.goOn owned rfl rfl rfl rfl
  · split at step
    · cases step
      exact h.goOn owned rfl rfl rfl rfl
    · cases step
      exact h.goOn owned rfl rfl rfl rfl
  · -- the slot is queued, and is in the hands of no callback
    next m u q b n index hr =>
    cases step
    have hfree : ∀ j x m q, c.callback = .unregister j x m q → j ≠ index := by
      rintro j x m q hcb rfl
      obtain ⟨-, -, y, hy, hown⟩ := h.owned.busy j (mem_busy (congrArg Cb.slot hcb))
      have hslot := (h.owned.found b n j hr).2
      exact hown.2 b (congrArg Req.waiting hr) (Option.some.inj (hslot.symm.trans hy))
    unfold Chan.bufDone at owned ⊢
    rcases hdone : c.stream.bufDone c.mem index m u q with ⟨s, rc⟩
    rw [hdone] at owned
    split at owned
    · next heq =>
      cases heq
      exact h.bufDone owned hdone rfl rfl rfl (fun _ => .inl rfl) hfree
    · next s rc hrc heq =>
      cases heq
      exact h.bufDone owned hdone rfl rfl rfl .inr hfree
  · next b n index hr =>
    cases step
    obtain ⟨heap, marks, heq⟩ := markFrameNumber_eq c.mem index n
    rw [heq] at owned ⊢
    exact ⟨owned, h.tables.withMarks heap marks, h.started, h.released⟩
  · -- a slot comes back
    next index ok hcb =>
    split at step
    · next hi =>
      cases step
      refine h.callbackOn owned (fun j hj => mem_append_left _ ?_) ?_
      · rcases mem_append.mp hj with hj | hj
        · exact mem_of_mem_erase hj
        · split at hj
          · obtain rfl : index = j := by simpa [Cb.slot, eq_comm] using hj
            exact hi
          · simp [Cb.slot] at hj
      · intro i x m q
        split <;> rintro ⟨⟩
    · cases step
  · next index m u q =>
    split at step
    · next hi =>
      cases step
      have hbusy := ne_nil_of_mem (mem_append_left c.callback.slot.toList hi)
      have hfree : ∀ j x m q, c.callback = .unregister j x m q → j ≠ index := by
        rintro j x m q hcb rfl
        have hslot : c.callback.slot = some j := congrArg Cb.slot hcb
        have hcross := (nodup_append.mp h.owned.nodup).2.2
        exact hcross j hi j (Option.mem_toList.mpr hslot) rfl
      unfold Chan.requeue at owned ⊢
      rcases hdone : c.stream.bufDone c.mem index m u q with ⟨s, rc⟩
      rw [hdone] at owned
      split at owned
      · next heq =>
        cases heq
        exact h.bufDone owned hdone rfl rfl rfl (fun _ => .inr hbusy) hfree
      · next s rc hrc heq =>
        cases heq
        exact h.bufDone owned hdone rfl rfl rfl (fun _ => .inr hbusy) hfree
    · cases step
  · -- the callback reads the handle
    next index hcb =>
    cases step
    refine h.callbackOn owned (fun j hj => ?_) (by rintro _ _ _ _ ⟨⟩)
    unfold Chan.busy
    rw [show c.callback.slot = some index from congrArg Cb.slot hcb]
    exact hj
  · -- the callback reads the number
    next index handle hcb =>
    split at step
    · cases step
      refine h.callbackOn owned (fun j hj => ?_) (by rintro _ _ _ _ ⟨⟩)
      unfold Chan.busy
      rw [show c.callback.slot = some index from congrArg Cb.slot hcb]
      exact hj
    · cases step
      unfold Chan.settle at owned ⊢
      refine h.callbackOn owned (fun j hj => mem_append_left _ ?_) ?_
      · split at hj
        · simpa [Cb.slot] using hj
        · simpa [Cb.slot] using hj
      · intro i x m q
        split <;> rintro ⟨⟩
  · next u index handle number q hcb =>
    cases step
    obtain rfl : u = true := unmaps
    exact h.bufRelease hcb owned
  · next index handle number q hcb =>
    cases step
    exact h.unregister hcb
  · -- the buffer is given back
    next handle number q hcb =>
    cases step
    refine ⟨owned, h.tables, fun hne => h.started fun hnil => hne ?_, by rintro _ _ _ _ ⟨⟩⟩
    have hkernel : c.kernel = [] := (append_eq_nil_iff.mp hnil).1
    show c.kernel ++ [] = []
    rw [hkernel]
    rfl
  · cases step

/-- **A step** keeps the planes, if it makes its definitions where they lead to the buffer. -/
theorem Kept.planes {a : Act} (h : c.Kept) (planes : Planes c.mem c.stream) (unmaps : a.Unmaps)
    (defines : a.DefinesPlanes c) (step : a.exec c = some t) : Planes t.mem t.stream := by
  have hreg (import_ : StreamMem.Import) (b : Buffer) (next : Req) :
      Planes (c.register b import_ next).mem (c.register b import_ next).stream := by
    obtain ⟨hmem, hstream, -⟩ := register_frame c b import_ next
    rw [hmem, hstream]
    rcases registerBuffer_eq c b import_ with heq | heq
    · rw [heq]
      exact planes
    · rw [heq]
      exact planes.registerBuffer h.tables rfl
  unfold Act.exec at step
  split at step
  · next offset e hr =>
    cases step
    exact planes.getBufs h.tables offset unmaps rfl (defines.1 offset e rfl)
  · split at step
    · cases step
    · cases step
      exact planes
  · cases step
    exact hreg _ _ _
  · cases step
    exact hreg _ _ _
  · cases step
    split <;> exact planes
  · cases step
    exact planes
  · split at step
    · cases step
      exact planes
    · cases step
      exact planes
  · -- a slot is queued
    next m u q b n index hr =>
    cases step
    have hold := defines.2.1 m u q b n index rfl hr
    unfold Chan.bufDone
    split
    · next s hdone => exact planes.bufDone h.tables hold hdone
    · next s rc hrc hdone => exact planes.bufDone h.tables hold hdone
  · next b n index hr =>
    cases step
    obtain ⟨heap, marks, heq⟩ := markFrameNumber_eq c.mem index n
    rw [heq]
    exact planes
  · split at step
    · cases step
      exact planes
    · cases step
  · next index m u q =>
    split at step
    · cases step
      have hold := defines.2.2 m u q index rfl
      unfold Chan.requeue
      split
      · next s hdone => exact planes.bufDone h.tables hold hdone
      · next s rc hrc hdone => exact planes.bufDone h.tables hold hdone
    · cases step
  · cases step
    exact planes
  · split at step
    · cases step
      exact planes
    · cases step
      exact planes
  · next u index handle number q hcb =>
    cases step
    obtain rfl : u = true := unmaps
    exact planes.bufRelease index
  · next index handle number q hcb =>
    cases step
    obtain ⟨hrange, hused, -⟩ := h.owned.busy index (mem_busy (congrArg Cb.slot hcb))
    show Planes (c.mem.unregisterBuffer index).1 c.stream
    rw [unregisterBuffer_of_used hrange hused]
    exact planes.unregister (h.released index handle number q hcb)
  · cases step
    exact planes
  · cases step

theorem Kept.mapped (h : c.Kept) : c.Mapped where
  mapped i := by
    refine ⟨h.tables.mapped i, fun hdef => ?_⟩
    rw [(h.tables.defined i hdef).2.2.2.1]
    exact Option.some_ne_none _
  passed i map unmap qbuf t rc hdone hpassed := by
    have hdef := (h.tables.bufDone_hasDef hdone).1 hpassed
    obtain ⟨-, -, hused, hmapped, hdescr⟩ := (h.tables.bufDone hdone).defined i hdef
    exact ⟨hused, hmapped, hdef, hdescr⟩

theorem Kept.sound (h : c.Kept) (planes : Planes c.mem c.stream) : c.Sound where
  toMapped := h.mapped
  planes i map unmap qbuf t rc hdone hpassed hold := by
    have hdef := (h.tables.bufDone_hasDef hdone).1 hpassed
    exact planes.bufDone h.tables hold hdone i hdef

theorem kept_created (perFrameMapUnmap : Bool) (maxHeapBuffers numBufs : ℕ) :
    (created perFrameMapUnmap maxHeapBuffers numBufs).Kept where
  owned := owned_created ..
  tables := by
    refine ⟨fun _ => rfl, ?_, fun h => absurd rfl h, fun i h => absurd rfl h, nofun⟩
    have hempty : (used { maxHeapBuffers }) = ∅ :=
      Finset.filter_eq_empty_iff.mpr fun i _ h => absurd h.2 Bool.false_ne_true
    unfold StreamMem.Counted
    rw [show (created perFrameMapUnmap maxHeapBuffers numBufs).mem = { maxHeapBuffers } from rfl,
      hempty]
    rfl
  started h := absurd rfl h
  released := nofun

end Chan

/-- **A slot that is passed to the kernel** is mapped for its buffer, and defined by it, with all its
planes, in every run in which definitions are made where the planes lead to the buffer. -/
theorem slots_sound {perFrameMapUnmap : Bool} {maxHeapBuffers numBufs : ℕ} {acts : List Act}
    {c : Chan} (run : Run (fun a c t => a.Unmaps ∧ a.DefinesPlanes c ∧ a.exec c = some t) acts
      (.created perFrameMapUnmap maxHeapBuffers numBufs) c) : c.Sound := by
  have hkept : c.Kept ∧ Planes c.mem c.stream := by
    refine run.invariant (I := fun c => c.Kept ∧ Planes c.mem c.stream) ?_
      ⟨Chan.kept_created .., nofun⟩
    rintro a c t ⟨unmaps, defines, step⟩ ⟨hkept, hplanes⟩
    exact ⟨hkept.step unmaps step, hkept.planes hplanes unmaps defines step⟩
  exact hkept.1.sound hkept.2

/-- A buffer is requested twice, and mapped anew for the second request. -/
def requestedTwice (numPlanes : ℕ) : List Act :=
  let b : Buffer := ⟨7, 70, 4096⟩
  [.getBufs ⟨numPlanes, fun _ => 4096, fun _ => 0⟩
      ⟨none, fun _ => true, fun _ => true, true, true, true⟩,
    .request b 1, .register .mapped, .start true, .lookup, .bufDone true true true, .mark,
    .streamCb 8 true, .getBufferHandle, .getFrameNumber, .bufRelease true, .unregister, .give,
    .request b 2, .lookup, .register .mapped, .lookup, .bufDone true true true]

theorem requestedTwice_unmaps (numPlanes : ℕ) : ∀ a ∈ requestedTwice numPlanes, a.Unmaps := by
  simp [requestedTwice, Act.Unmaps]

/-- A stream of one plane. -/
theorem slots_sound_two : ∃ c : Chan, c.Sound ∧ c.kernel = [8] ∧ c.reports = [(1, 1)] := by
  let step (c : Chan) (a : Act) : Option Chan :=
    if c.stream.frameLenOffset.numPlanes ≤ 1 then a.exec c else none
  obtain ⟨c, hc, hkernel, hreports⟩ : ∃ c, execAll step (.created true 8 64) (requestedTwice 1) =
      some c ∧ c.kernel = [8] ∧ c.reports = [(1, 1)] := ⟨_, rfl, rfl, rfl⟩
  have hone : ∀ a ∈ requestedTwice 1, ∀ offset e, a = .getBufs offset e → offset.numPlanes ≤ 1 := by
    simp [requestedTwice]
  have hold {offset : FrameLenOffset} (hle : offset.numPlanes ≤ 1) (m : StreamMem) (i : ℕ) :
      m.PlanesHold offset i := fun p _ hp => by omega
  refine ⟨c, slots_sound ((Run.of_execAll hc).mono fun a ha c t hstep => ?_), hkernel, hreports⟩
  obtain ⟨hle, hexec⟩ := Option.ite_none_right_eq_some.mp hstep
  refine ⟨requestedTwice_unmaps 1 a ha, ⟨?_, ?_, ?_⟩, hexec⟩
  · exact fun offset e heq i _ => hold (hone a ha offset e heq) c.mem i
  · exact fun _ _ _ _ _ i _ _ _ => hold hle c.mem i
  · exact fun _ _ _ i _ _ => hold hle c.mem i

/-- A stream of two planes: the second one of the slot that is queued has no fd. -/
theorem slots_planes : ∃ acts c, Run (fun (a : Act) c t => a.Unmaps ∧ a.exec c = some t) acts
    (.created true 8 64) c ∧ c.kernel = [8] ∧ (c.mem.gralloc.memInfo 8).fd = 70 ∧
      ((c.stream.bufDef 8).planes 1).userptr = -1 ∧ ¬ c.Sound := by
  obtain ⟨c, hc, hkernel, hfd, hplane, hnum, hdef, hdone⟩ :
      ∃ c, execAll (fun c a => Act.exec a c) (.created true 8 64) (requestedTwice 2) = some c ∧
        c.kernel = [8] ∧ (c.mem.gralloc.memInfo 8).fd = 70 ∧
        ((c.stream.bufDef 8).planes 1).userptr = -1 ∧ (c.stream.bufDef 8).numPlanes = 2 ∧
        c.stream.hasDef 8 = true ∧
        c.stream.bufDone c.mem 8 true true true = (c.stream, .NO_ERROR) :=
    ⟨_, rfl, rfl, rfl, rfl, rfl, rfl, rfl⟩
  refine ⟨requestedTwice 2, c, ?_, hkernel, hfd, hplane, fun hsound => ?_⟩
  · exact (Run.of_execAll hc).mono fun a ha c t hstep => ⟨requestedTwice_unmaps 2 a ha, hstep⟩
  · have hhold : c.stream.hasDef 8 = false → c.mem.PlanesHold c.stream.frameLenOffset 8 :=
      fun hnot => absurd (hdef.symm.trans hnot) Bool.noConfusion
    have hplanes := hsound.planes 8 true true true _ _ hdone (.inl rfl) hhold 1 (by rw [hnum]; decide)
    rw [hplane, hfd] at hplanes
    exact absurd hplanes (by decide)

end StreamBufs
