import MidoCamera.Channel.SlotMapping

/-!
# The registry of the gralloc buffers

`QCamera3GrallocMemory` keeps five tables and a counter. A registration writes the identity of the
buffer before the steps that can fail, and the handle after them; a failure leaves the identity.
-/

namespace StreamBufs

open Loop Function List StreamMem

/-- How far a registration comes. -/
inductive IonStep
  | openFails
  | importFails
  | mmapFails
  | mapped
  deriving DecidableEq

/-- To the slot it is the same whether the device or the import fails. -/
def IonStep.import : IonStep → StreamMem.Import
  | .openFails | .importFails => .importFails
  | .mmapFails => .mmapFails
  | .mapped => .mapped

/-- The memory, with `mPtr`, of which `ptr` tells whether it is there, and the numbers of ION
descriptors and handles that are held; `marks` is the frame number that a slot was marked with since
its registration, which nothing reads. -/
structure Registry where
  mem : StreamMem
  ptr : ℕ → Bool := fun _ => false
  ionFds : ℕ := 0
  ionHandles : ℕ := 0
  marks : ℕ → Option UInt32 := fun _ => none

/-- `getBufferIndex`: the first registered slot with the mark. -/
def StreamMem.getBufferIndex (m : StreamMem) (frameNumber : UInt32) : Option ℕ :=
  m.slots.find? fun i =>
    (m.gralloc.memInfo i).handle && m.gralloc.currentFrameNumbers i = frameNumber.toInt32

namespace Registry

/-- `QCamera3GrallocMemory`. -/
def created (startIdx : ℕ) : Registry := { mem := { maxHeapBuffers := startIdx } }

/-- The slot is for the buffer. The descriptor is closed where the import fails; where the buffer is
not mapped, only the handle of the entry is reset. -/
def place (r : Registry) (idx : ℕ) (b : Buffer) : IonStep → Registry
  | .openFails | .importFails =>
    { r with mem := r.mem.put idx b (r.mem.gralloc.memInfo idx) r.mem.gralloc.bufferCount }
  | .mmapFails =>
    { r with
      mem := r.mem.put idx b ⟨b.fd, b.size, false⟩ r.mem.gralloc.bufferCount
      ionFds := r.ionFds + 1, ionHandles := r.ionHandles + 1 }
  | .mapped =>
    { r with
      mem := r.mem.put idx b ⟨b.fd, b.size, true⟩ (r.mem.gralloc.bufferCount + 1)
      ptr := update r.ptr idx true
      ionFds := r.ionFds + 1, ionHandles := r.ionHandles + 1 }

def registerBuffer (r : Registry) (b : Buffer) (step : IonStep) : Registry × Status :=
  if (r.mem.getMatchBufIndex b.handle).isSome then (r, .ALREADY_EXISTS)
  else if r.mem.gralloc.bufferCount ≥ MM_CAMERA_MAX_NUM_FRAMES - 1 - r.mem.maxHeapBuffers then
    (r, .BAD_INDEX)
  else match r.mem.getFreeIndex with
    | none => (r, .BAD_INDEX)
    | some idx => (r.place idx b step, if step = .mapped then .NO_ERROR else .NO_MEMORY)

def unregisterBufferLocked (r : Registry) (index : ℕ) : Registry where
  mem := r.mem.unregisterBufferLocked index
  ptr := update r.ptr index false
  ionFds := r.ionFds - 1
  ionHandles := r.ionHandles - 1
  marks := update r.marks index none

/-- `unregisterBuffer`, which is refused for a slot that is not registered. -/
def unregisterBuffer (r : Registry) (index : ℕ) : Registry :=
  if index ∈ r.mem.used then r.unregisterBufferLocked index else r

def unregisterBuffers (r : Registry) : Registry :=
  let t := r.mem.slots.foldl (fun r i =>
    if (r.mem.gralloc.memInfo i).handle then r.unregisterBufferLocked i else r) r
  { t with mem.gralloc.bufferCount := 0 }

/-- `markFrameNumber`, which is refused for a slot that is not registered. -/
def markFrameNumber (r : Registry) (index : ℕ) (frameNumber : UInt32) : Registry :=
  if index ∈ r.mem.used then
    { r with
      mem.gralloc.currentFrameNumbers :=
        update r.mem.gralloc.currentFrameNumbers index frameNumber.toInt32
      marks := update r.marks index (some frameNumber) }
  else r

end Registry

inductive RegistryOp
  | registerBuffer (b : Buffer) (step : IonStep)
  | unregisterBuffer (index : ℕ)
  | unregisterBuffers
  | markFrameNumber (index : ℕ) (frameNumber : UInt32)

def Registry.exec (r : Registry) : RegistryOp → Registry
  | .registerBuffer b step => (r.registerBuffer b step).1
  | .unregisterBuffer index => r.unregisterBuffer index
  | .unregisterBuffers => r.unregisterBuffers
  | .markFrameNumber index frameNumber => r.markFrameNumber index frameNumber

namespace Registry

/-- The registered slot is found by the frame number that it was marked with, if no other one was
marked with the same. -/
def Finds (r : Registry) (i : ℕ) (n : UInt32) : Prop :=
  r.marks i = some n → (∀ j ∈ r.mem.used, r.marks j = some n → j = i) →
    r.mem.getBufferIndex (r.mem.getFrameNumber i).toUInt32 = some i

/-- **The tables agree**, but for the mark of an unmarked slot, which is that of the last frame
number. -/
structure Agrees (r : Registry) : Prop where
  count : r.mem.gralloc.bufferCount = r.mem.used.card
  below : ∀ i < r.mem.maxHeapBuffers, (r.mem.gralloc.memInfo i).handle = false
  once : ∀ i ∈ r.mem.used, ∀ j ∈ r.mem.used, r.mem.bufferHandle i = r.mem.bufferHandle j → i = j
  registered : ∀ i ∈ r.mem.used, r.mem.bufferHandle i ≠ none ∧ r.ptr i = true
  found : ∀ i ∈ r.mem.used, ∀ n ≠ 0xFFFFFFFF, r.Finds i n

/-- What every operation keeps, of the slots that are not registered, too. -/
structure Sound (r : Registry) : Prop where
  counted : r.mem.Counted
  range : ∀ i, (r.mem.gralloc.memInfo i).handle = true ∨ r.mem.bufferHandle i ≠ none →
    r.mem.InRange i
  once : ∀ i j h, r.mem.bufferHandle i = some h → r.mem.bufferHandle j = some h → i = j
  registered : ∀ i, (r.mem.gralloc.memInfo i).handle = true →
    r.mem.bufferHandle i ≠ none ∧ r.ptr i = true
  marked : ∀ i, r.mem.gralloc.currentFrameNumbers i = ((r.marks i).map UInt32.toInt32).getD (-1)

/-- The buffer can be registered as if it had not been tried, and what was obtained is released. -/
structure Retriable (r t : Registry) (b : Buffer) : Prop where
  unmatched : t.mem.getMatchBufIndex b.handle = none
  released : t.ionFds = r.ionFds ∧ t.ionHandles = r.ionHandles
  again : ∀ step, (t.registerBuffer b step).2 = (r.registerBuffer b step).2

variable {r t : Registry} {b : Buffer} {i idx : ℕ} {step : IonStep}

theorem registerBuffer_cases (r : Registry) (b : Buffer) (step : IonStep) :
    ((r.registerBuffer b step).1 = r ∧ (r.registerBuffer b step).2 ≠ .NO_MEMORY) ∨
      ∃ idx, r.mem.InRange idx ∧ (r.mem.gralloc.memInfo idx).handle = false ∧
        (∀ j, r.mem.InRange j → r.mem.bufferHandle j ≠ some b.handle) ∧
        r.registerBuffer b step =
          (r.place idx b step, if step = .mapped then .NO_ERROR else .NO_MEMORY) := by
  unfold registerBuffer
  split
  · exact .inl ⟨rfl, nofun⟩
  next hmatch =>
  split
  · exact .inl ⟨rfl, nofun⟩
  split
  · exact .inl ⟨rfl, nofun⟩
  next idx hfree =>
  obtain ⟨hrange, hhandle⟩ := getFreeIndex_eq_some hfree
  exact .inr ⟨idx, hrange, hhandle, fun j => getMatchBufIndex_eq_none
    (Option.not_isSome_iff_eq_none.mp hmatch), rfl⟩

namespace Sound

/-- **A slot is put**, with the pointer exactly if the entry has a handle. -/
theorem put (hs : r.Sound) (hi : r.mem.InRange idx) (free : (r.mem.gralloc.memInfo idx).handle = false)
    (hother : ∀ j, r.mem.InRange j → r.mem.bufferHandle j ≠ some b.handle) {info : MemInfo}
    {count : ℕ} (hmem : t.mem = r.mem.put idx b info count)
    (hcount : (info.handle = true ∧ count = r.mem.gralloc.bufferCount + 1) ∨
      (info.handle = false ∧ count = r.mem.gralloc.bufferCount))
    (hself : info.handle = true → t.ptr idx = true) (hptr : ∀ j ≠ idx, t.ptr j = r.ptr j)
    (hmarks : t.marks = r.marks) : t.Sound := by
  have hnone (j : ℕ) : r.mem.bufferHandle j ≠ some b.handle := fun heq =>
    hother j (hs.range j (.inr (by simp [heq]))) heq
  have hhandle (j : ℕ) : t.mem.bufferHandle j =
      if j = idx then some b.handle else r.mem.bufferHandle j := by
    rw [hmem]
    exact update_apply ..
  have hinfo (j : ℕ) : t.mem.gralloc.memInfo j =
      if j = idx then info else r.mem.gralloc.memInfo j := by
    rw [hmem]
    exact update_apply ..
  refine ⟨hmem ▸ hs.counted.put hi free hcount, fun j hj => ?_, fun j k h hj hk => ?_,
    fun j hj => ?_, fun j => ?_⟩
  · have hrange : r.mem.InRange j := by
      rcases eq_or_ne j idx with rfl | hne
      · exact hi
      · rw [hhandle, hinfo, if_neg hne, if_neg hne] at hj
        exact hs.range j hj
    rw [hmem]
    exact hrange
  · rw [hhandle] at hj hk
    split_ifs at hj hk with hjdx hkdx hkdx
    · exact hjdx.trans hkdx.symm
    · exact absurd (hk.trans hj.symm) (hnone k)
    · exact absurd (hj.trans hk.symm) (hnone j)
    · exact hs.once j k h hj hk
  · rw [hinfo] at hj
    rw [hhandle]
    split_ifs at hj ⊢ with hjdx
    · exact ⟨Option.some_ne_none _, hjdx ▸ hself hj⟩
    · exact ⟨(hs.registered j hj).1, (hptr j hjdx).trans (hs.registered j hj).2⟩
  · rw [hmem, hmarks]
    exact hs.marked j

theorem registerBuffer (hs : r.Sound) (b : Buffer) (step : IonStep) :
    (r.registerBuffer b step).1.Sound := by
  obtain ⟨heq, -⟩ | ⟨idx, hi, free, hother, heq⟩ := r.registerBuffer_cases b step
  · rw [heq]
    exact hs
  rw [heq]
  cases step with
  | openFails | importFails =>
    exact hs.put hi free hother rfl (.inr ⟨free, rfl⟩) (by simp [free]) (fun _ _ => rfl) rfl
  | mmapFails => exact hs.put hi free hother rfl (.inr ⟨rfl, rfl⟩) nofun (fun _ _ => rfl) rfl
  | mapped =>
    exact hs.put hi free hother rfl (.inl ⟨rfl, rfl⟩) (fun _ => update_self ..)
      (fun _ hne => update_of_ne hne ..) rfl

theorem unregisterBufferLocked (hs : r.Sound) (used : i ∈ r.mem.used) :
    (r.unregisterBufferLocked i).Sound := by
  obtain ⟨hi, hhandle⟩ := StreamMem.mem_used.mp used
  have hother {j : ℕ} (hne : j ≠ i) :
      (r.unregisterBufferLocked i).mem.bufferHandle j = r.mem.bufferHandle j ∧
        (r.unregisterBufferLocked i).mem.gralloc.memInfo j = r.mem.gralloc.memInfo j :=
    ⟨update_of_ne hne .., update_of_ne hne ..⟩
  have hself : (r.unregisterBufferLocked i).mem.bufferHandle i = none ∧
      (r.unregisterBufferLocked i).mem.gralloc.memInfo i = ⟨0, 0, false⟩ :=
    ⟨update_self .., update_self ..⟩
  refine ⟨hs.counted.unregister hi hhandle, fun j hj => ?_, fun j k h hj hk => ?_, fun j hj => ?_,
    fun j => ?_⟩
  · rcases eq_or_ne j i with rfl | hne
    · exact hi
    · rw [(hother hne).1, (hother hne).2] at hj
      exact hs.range j hj
  · rcases eq_or_ne j i with rfl | hne
    · exact absurd (hself.1.symm.trans hj) nofun
    rcases eq_or_ne k i with rfl | hne'
    · exact absurd (hself.1.symm.trans hk) nofun
    rw [(hother hne).1] at hj
    rw [(hother hne').1] at hk
    exact hs.once j k h hj hk
  · rcases eq_or_ne j i with rfl | hne
    · rw [hself.2] at hj
      cases hj
    rw [(hother hne).2] at hj
    rw [(hother hne).1]
    exact ⟨(hs.registered j hj).1, (update_of_ne hne ..).trans (hs.registered j hj).2⟩
  · show update r.mem.gralloc.currentFrameNumbers i (-1) j =
      ((update r.marks i none j).map UInt32.toInt32).getD (-1)
    rcases eq_or_ne j i with rfl | hne
    · rw [update_self, update_self]
      rfl
    · rw [update_of_ne hne, update_of_ne hne]
      exact hs.marked j

/-- **The loop of `unregisterBuffers`** leaves none of its slots registered. -/
theorem unregisterAll {l : List ℕ} (hs : r.Sound) (hl : ∀ i ∈ l, r.mem.InRange i) :
    let t := l.foldl (fun r i =>
      if (r.mem.gralloc.memInfo i).handle then r.unregisterBufferLocked i else r) r
    t.Sound ∧ ∀ i ∈ t.mem.used, i ∈ r.mem.used ∧ i ∉ l := by
  induction l generalizing r with
  | nil => exact ⟨hs, fun i hi => ⟨hi, not_mem_nil⟩⟩
  | cons a l ih =>
    rw [foldl_cons]
    have hl' := forall_mem_cons.mp hl
    split_ifs with hhandle
    · have hused := mem_used.mpr ⟨hl'.1, hhandle⟩
      obtain ⟨ht, hfree⟩ := ih (hs.unregisterBufferLocked hused) hl'.2
      refine ⟨ht, fun i hi => ?_⟩
      obtain ⟨hi, hnot⟩ := hfree i hi
      have hia : i ≠ a := by
        rintro rfl
        simpa [Registry.unregisterBufferLocked, StreamMem.unregisterBufferLocked] using
          (StreamMem.mem_used.mp hi).2
      obtain ⟨hrange, hin⟩ := StreamMem.mem_used.mp hi
      rw [show ((r.unregisterBufferLocked a).mem.gralloc.memInfo i) = r.mem.gralloc.memInfo i from
        update_of_ne hia ..] at hin
      exact ⟨mem_used.mpr ⟨hrange, hin⟩, by simp [hia, hnot]⟩
    · obtain ⟨ht, hfree⟩ := ih hs hl'.2
      refine ⟨ht, fun i hi => ⟨(hfree i hi).1, fun hmem => ?_⟩⟩
      rcases mem_cons.mp hmem with rfl | hmem
      · exact hhandle (StreamMem.mem_used.mp (hfree i hi).1).2
      · exact (hfree i hi).2 hmem

theorem unregisterBuffers (hs : r.Sound) : r.unregisterBuffers.Sound := by
  obtain ⟨ht, hfree⟩ := hs.unregisterAll (l := r.mem.slots) fun i => mem_slots.mp
  have hcount := ht.counted
  unfold StreamMem.Counted at hcount
  rw [Finset.eq_empty_of_forall_notMem fun i hi => (hfree i hi).2 (mem_slots.mpr
    (StreamMem.mem_used.mp (hfree i hi).1).1), Finset.card_empty] at hcount
  -- the count is 0 already
  unfold Registry.unregisterBuffers
  dsimp only
  rw [← hcount]
  exact ht

theorem markFrameNumber (hs : r.Sound) (i : ℕ) (n : UInt32) : (r.markFrameNumber i n).Sound := by
  unfold Registry.markFrameNumber
  split_ifs
  · refine ⟨hs.counted, hs.range, hs.once, hs.registered, fun j => ?_⟩
    show update r.mem.gralloc.currentFrameNumbers i n.toInt32 j =
      ((update r.marks i (some n) j).map UInt32.toInt32).getD (-1)
    rcases eq_or_ne j i with rfl | hne
    · rw [update_self, update_self]
      rfl
    · rw [update_of_ne hne, update_of_ne hne]
      exact hs.marked j
  · exact hs

theorem exec (hs : r.Sound) (op : RegistryOp) : (r.exec op).Sound := by
  cases op with
  | registerBuffer b step => exact hs.registerBuffer b step
  | unregisterBuffer i =>
    show (r.unregisterBuffer i).Sound
    unfold Registry.unregisterBuffer
    split_ifs with used
    · exact hs.unregisterBufferLocked used
    · exact hs
  | unregisterBuffers => exact hs.unregisterBuffers
  | markFrameNumber i n => exact hs.markFrameNumber i n

/-- A marked slot is the first with its mark: the others have other marks, or none. -/
theorem finds (hs : r.Sound) (used : i ∈ r.mem.used) {n : UInt32} (hn : n ≠ 0xFFFFFFFF) :
    r.Finds i n := by
  intro hmark hother
  obtain ⟨hi, hhandle⟩ := StreamMem.mem_used.mp used
  have hframe : r.mem.getFrameNumber i = n.toInt32 := by
    unfold getFrameNumber
    rw [if_neg (by have := hi.1; omega), if_neg (by have := hi.2; omega), if_pos hhandle, hs.marked,
      hmark]
    rfl
  unfold getBufferIndex
  rw [hframe, UInt32.toUInt32_toInt32]
  have hself : ((r.mem.gralloc.memInfo i).handle &&
      decide (r.mem.gralloc.currentFrameNumbers i = n.toInt32)) = true := by
    rw [hs.marked, hmark, hhandle]
    simp
  cases hfind : r.mem.slots.find? _ with
  | none => exact absurd hself (find?_eq_none.mp hfind i (mem_slots.mpr hi))
  | some j =>
    have hj := find?_some hfind
    rw [Bool.and_eq_true, decide_eq_true_iff, hs.marked] at hj
    have hjused := mem_used.mpr ⟨mem_slots.mp (mem_of_find?_eq_some hfind), hj.1⟩
    cases hm : r.marks j with
    | none =>
      rw [hm] at hj
      refine absurd ?_ hn
      rw [← UInt32.toUInt32_toInt32 n, ← hj.2]
      rfl
    | some k =>
      rw [hm] at hj
      have hk : k = n := by
        rw [← UInt32.toUInt32_toInt32 k, ← UInt32.toUInt32_toInt32 n]
        exact congrArg Int32.toUInt32 hj.2
      rw [hother j hjused (hm.trans (congrArg some hk))]

end Sound

/-- **The tables of the registry agree** after any operations. -/
theorem registry_agrees (startIdx : ℕ) (ops : List RegistryOp) :
    (ops.foldl exec (created startIdx)).Agrees := by
  have hs : (ops.foldl exec (created startIdx)).Sound := by
    refine foldlRecOn ops exec (motive := Sound) ⟨?_, nofun, nofun, nofun, fun _ => rfl⟩
      fun r hs op _ => hs.exec op
    have hused : (created startIdx).mem.used = ∅ :=
      Finset.eq_empty_of_forall_notMem fun i hi => absurd (StreamMem.mem_used.mp hi).2 nofun
    unfold StreamMem.Counted
    rw [hused]
    rfl
  have hinfo {i : ℕ} {r : Registry} (hi : i ∈ r.mem.used) := (StreamMem.mem_used.mp hi).2
  refine ⟨hs.counted, fun i hlt => ?_, fun i hi j hj heq => ?_,
    fun i hi => hs.registered i (hinfo hi), fun i hi n hn => hs.finds hi hn⟩
  · by_contra hnot
    have := (hs.range i (.inl (Bool.eq_true_of_not_eq_false hnot))).1
    omega
  · obtain ⟨h, hh⟩ := Option.ne_none_iff_exists'.mp (hs.registered i (hinfo hi)).1
    exact hs.once i j h hh (heq.symm.trans hh)

/-- The last frame number is the mark of an unmarked slot, which is found before. -/
theorem registry_unmarked : ¬∀ (startIdx : ℕ) (ops : List RegistryOp) (i : ℕ) (n : UInt32),
    i ∈ (ops.foldl exec (created startIdx)).mem.used →
      (ops.foldl exec (created startIdx)).Finds i n := by
  intro h
  have hfind := h 0 [.registerBuffer ⟨7, 70, 4096⟩ .mapped, .registerBuffer ⟨8, 80, 4096⟩ .mapped,
    .markFrameNumber 1 0xFFFFFFFF] 1 0xFFFFFFFF (by decide) rfl
  have hone : ∀ j ∈ (foldl exec (created 0) [.registerBuffer ⟨7, 70, 4096⟩ .mapped,
      .registerBuffer ⟨8, 80, 4096⟩ .mapped, .markFrameNumber 1 0xFFFFFFFF]).mem.used,
      (foldl exec (created 0) [.registerBuffer ⟨7, 70, 4096⟩ .mapped, .registerBuffer
        ⟨8, 80, 4096⟩ .mapped, .markFrameNumber 1 0xFFFFFFFF]).marks j = some 0xFFFFFFFF → j = 1 := by
    decide
  exact absurd (hfind hone) (by decide)

/-- **A failed registration cannot be retried**: the buffer stays matched, so every later
registration is taken for a second one; and what was obtained is kept exactly if it is not mapped. -/
theorem registerBuffer_kept (h : r.registerBuffer b step = (t, .NO_MEMORY)) :
    ¬r.Retriable t b ∧ (∀ step, t.registerBuffer b step = (t, .ALREADY_EXISTS)) ∧
      (t.ionFds = r.ionFds ∧ t.ionHandles = r.ionHandles ↔ step ≠ .mmapFails) := by
  obtain ⟨-, hne⟩ | ⟨idx, hi, -, -, heq⟩ := r.registerBuffer_cases b step
  · exact absurd (congrArg Prod.snd h) hne
  rw [heq] at h
  obtain ⟨rfl, hfailed⟩ := Prod.mk.inj h
  have hhandle : (r.place idx b step).mem.bufferHandle idx = some b.handle := by
    cases step <;> exact update_self ..
  have hrange : (r.place idx b step).mem.InRange idx := by
    cases step <;> exact hi
  have hmatched : (r.place idx b step).mem.getMatchBufIndex b.handle ≠ none := fun hnone =>
    getMatchBufIndex_eq_none hnone hrange hhandle
  refine ⟨fun hretry => hmatched hretry.unmatched, fun _ => ?_, ?_⟩
  · rw [registerBuffer, if_pos (Option.isSome_iff_ne_none.mpr hmatched)]
  · cases step with
    | openFails | importFails => exact iff_of_true ⟨rfl, rfl⟩ nofun
    | mmapFails => exact iff_of_false (fun h => absurd h.1 (Nat.succ_ne_self _)) (fun h => h rfl)
    | mapped => cases hfailed

/-- The import of the first buffer fails. -/
theorem registerBuffer_kept_first : ∃ t : Registry,
    (created 8).registerBuffer ⟨7, 70, 4096⟩ .importFails = (t, .NO_MEMORY) ∧
      t.registerBuffer ⟨7, 70, 4096⟩ .mapped = (t, .ALREADY_EXISTS) :=
  ⟨_, rfl, (@registerBuffer_kept (created 8) _ ⟨7, 70, 4096⟩ .importFails rfl).2.1 .mapped⟩

theorem registerBuffer_not_retriable : ¬∀ (r t : Registry) (b : Buffer) (step : IonStep),
    r.registerBuffer b step = (t, .NO_MEMORY) → r.Retriable t b := fun h =>
  absurd (h (created 8) _ ⟨7, 70, 4096⟩ .importFails rfl).unmatched (by decide)

end Registry

end StreamBufs
