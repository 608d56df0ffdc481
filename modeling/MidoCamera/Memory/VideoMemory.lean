import MidoCamera.Memory.IonBuffers
import Mathlib.Tactic.Ring

/-!
# The metadata of the video buffers

A video buffer has a metadata buffer and a native handle, with the fd, the size and the index of the
image buffer. `allocateMore` fills those of the buffers behind the ones that it has added, since the
count of the base class is raised before. Where a metadata buffer or a handle is not given, the loops
release what was made by two indices.
-/

namespace IonMemory

open List

/-- The data of `native_handle_t` that the HAL reads: at 0, 2 and 6. -/
structure NativeHandle where
  fd : ℤ
  size : ℕ
  index : ℕ
  deriving DecidableEq

/-- `QCameraVideoMemory`, not of batch type. An image buffer is its fd and its size; the metadata
buffers are numbered. -/
structure VideoMemory where
  mBufferCount : ℕ := 0
  mMetaBufCount : ℕ := 0
  mMemInfo : ℕ → Option (ℤ × ℕ) := fun _ => none
  mMetadata : ℕ → Option ℕ := fun _ => none
  mNativeHandle : ℕ → Option NativeHandle := fun _ => none
  next : ℕ := 0

namespace VideoMemory

/-- Image buffers from slot `first` on, with what ION gives. -/
def addImages (v : VideoMemory) (first count : ℕ) (fd : ℕ → ℤ) (size : ℕ) : VideoMemory :=
  { v with
    mMemInfo := fun i => if first ≤ i ∧ i < first + count then some (fd i, size) else v.mMemInfo i
    mBufferCount := (first + count) % 256 }

/-- A metadata buffer and a native handle for a slot; one without an image has the fd -1. -/
def fill (v : VideoMemory) (i : ℕ) : VideoMemory :=
  { v with
    mMetadata := Function.update v.mMetadata i (some v.next)
    mNativeHandle := Function.update v.mNativeHandle i
      (some ⟨((v.mMemInfo i).getD (-1, 0)).1, ((v.mMemInfo i).getD (-1, 0)).2, i⟩)
    next := v.next + 1 }

def fillFrom (v : VideoMemory) (first count : ℕ) : VideoMemory :=
  (List.range count).foldl (fun v i => v.fill (first + i)) v

/-- `allocate`, where nothing fails. -/
def allocate (v : VideoMemory) (count : ℕ) (fd : ℕ → ℤ) (size : ℕ) : VideoMemory :=
  { (v.addImages 0 count fd size).fillFrom 0 count with
    mMetaBufCount := count
    mBufferCount := count }

/-- `allocateMore`, where nothing fails. -/
def allocateMore (v : VideoMemory) (count : ℕ) (fd : ℕ → ℤ) (size : ℕ) : VideoMemory :=
  let v := v.addImages v.mBufferCount count fd size
  let bufferCount := (v.mBufferCount + count) % 256
  { v.fillFrom v.mBufferCount count with
    mBufferCount := bufferCount
    mMetaBufCount := bufferCount }

/-- `getMatchBufIndex` of a metadata buffer. -/
def getMatchBufIndex (v : VideoMemory) (packet : ℕ) : Option ℕ :=
  (List.range v.mMetaBufCount).find? fun i => v.mMetadata i = some packet

/-- `getMatchBufIndex` with `USE_MEDIA_EXTENSIONS`, of a native handle. -/
def getMatchBufIndexExt (v : VideoMemory) (nh : NativeHandle) : Option ℕ :=
  (List.range v.mMetaBufCount).find? fun i => (v.mNativeHandle i).map NativeHandle.index = some nh.index

/-- **Every buffer has its metadata**, by which it is found. -/
structure Kept (v : VideoMemory) (total : ℕ) : Prop where
  counts : v.mBufferCount = total ∧ v.mMetaBufCount = total
  slots : ∀ i < total, ∃ fd size mem, v.mMemInfo i = some (fd, size) ∧ v.mMetadata i = some mem ∧
    v.mNativeHandle i = some ⟨fd, size, i⟩ ∧ v.getMatchBufIndex mem = some i ∧
    v.getMatchBufIndexExt ⟨fd, size, i⟩ = some i

variable {v : VideoMemory} {fd : ℕ → ℤ} {size count first n i : ℕ}

theorem fillFrom_spec (v : VideoMemory) (count : ℕ) :
    (v.fillFrom 0 count).mMemInfo = v.mMemInfo ∧ (v.fillFrom 0 count).next = v.next + count ∧
      ∀ i < count, (v.fillFrom 0 count).mMetadata i = some (v.next + i) ∧
        (v.fillFrom 0 count).mNativeHandle i =
          some ⟨((v.mMemInfo i).getD (-1, 0)).1, ((v.mMemInfo i).getD (-1, 0)).2, i⟩ := by
  induction count with
  | zero => exact ⟨rfl, rfl, nofun⟩
  | succ count ih =>
    obtain ⟨hinfo, hnext, hslots⟩ := ih
    have hlast : v.fillFrom 0 (count + 1) = (v.fillFrom 0 count).fill count := by
      unfold fillFrom
      rw [range_succ, foldl_append, foldl_cons, foldl_nil, Nat.zero_add]
    rw [hlast]
    refine ⟨hinfo, by rw [← Nat.add_assoc, ← hnext]; rfl, fun i hi => ?_⟩
    rcases Nat.lt_succ_iff_lt_or_eq.mp hi with hi | rfl
    · exact ⟨(Function.update_of_ne hi.ne ..).trans (hslots i hi).1,
        (Function.update_of_ne hi.ne ..).trans (hslots i hi).2⟩
    · refine ⟨(Function.update_self ..).trans (congrArg some hnext), ?_⟩
      rw [← hinfo]
      exact Function.update_self ..

theorem allocate_kept (v : VideoMemory) (n : ℕ) (fd : ℕ → ℤ) (size : ℕ) :
    (v.allocate n fd size).Kept n := by
  obtain ⟨hinfo, -, hslots⟩ := (v.addImages 0 n fd size).fillFrom_spec n
  have himage (i : ℕ) (hi : i < n) : (v.addImages 0 n fd size).mMemInfo i = some (fd i, size) :=
    if_pos ⟨Nat.zero_le i, by omega⟩
  have hhandle (i : ℕ) (hi : i < n) :
      (v.allocate n fd size).mNativeHandle i = some ⟨fd i, size, i⟩ := by
    rw [show (v.allocate n fd size).mNativeHandle i = _ from (hslots i hi).2, himage i hi]
    rfl
  have hmem (i : ℕ) (hi : i < n) : (v.allocate n fd size).mMetadata i = some (v.next + i) :=
    (hslots i hi).1
  refine ⟨⟨rfl, rfl⟩, fun i hi => ⟨fd i, size, v.next + i, (congrFun hinfo i).trans (himage i hi),
    hmem i hi, hhandle i hi, ?_, ?_⟩⟩
  · -- the metadata buffers of the slots before are other ones
    refine find?_range_eq_some.mpr ⟨decide_eq_true (hmem i hi), mem_range.mpr hi, fun j hj => ?_⟩
    rw [hmem j (by omega)]
    simpa using hj.ne
  · refine find?_range_eq_some.mpr ⟨?_, mem_range.mpr hi, fun j hj => ?_⟩
    · rw [hhandle i hi]
      simp
    · rw [hhandle j (by omega)]
      simpa using hj.ne

/-- Any number of additions. -/
def addAll (v : VideoMemory) (fd : ℕ → ℤ) (size : ℕ) (counts : List ℕ) : VideoMemory :=
  counts.foldl (fun v count => v.allocateMore count fd size) v

theorem addAll_count {counts : List ℕ} (h : v.mBufferCount + 2 * counts.sum < 256) :
    (v.addAll fd size counts).mBufferCount = v.mBufferCount + 2 * counts.sum := by
  induction counts generalizing v with
  | nil => rfl
  | cons count counts ih =>
    rw [sum_cons] at h
    have hcount : (v.allocateMore count fd size).mBufferCount = v.mBufferCount + 2 * count := by
      show ((v.mBufferCount + count) % 256 + count) % 256 = _
      omega
    have := ih (v := v.allocateMore count fd size) (by omega)
    unfold addAll at this ⊢
    rw [foldl_cons, this, hcount, sum_cons]
    omega

theorem allocateMore_zero (hlt : v.mBufferCount < 256) (hmeta : v.mMetaBufCount = v.mBufferCount)
    (fd : ℕ → ℤ) (size : ℕ) : v.allocateMore 0 fd size = v := by
  have hinfo : (v.addImages v.mBufferCount 0 fd size).mMemInfo = v.mMemInfo :=
    funext fun i => if_neg (by omega)
  have hcount : v.mBufferCount % 256 = v.mBufferCount := Nat.mod_eq_of_lt hlt
  unfold allocateMore fillFrom
  simp only [addImages, Nat.add_zero, range_zero, foldl_nil, hcount] at hinfo ⊢
  rw [hinfo]
  cases v
  cases hmeta
  rfl

theorem Kept.addNone {counts : List ℕ} {total : ℕ} (h : v.Kept total) (hlt : total < 256)
    (hzero : ∀ count ∈ counts, count = 0) : (v.addAll fd size counts).Kept total := by
  induction counts with
  | nil => exact h
  | cons count counts ih =>
    obtain ⟨hcount, hrest⟩ := forall_mem_cons.mp hzero
    obtain ⟨hbuf, hmeta⟩ := h.counts
    unfold addAll
    rw [foldl_cons, hcount, allocateMore_zero (hbuf ▸ hlt) (hmeta.trans hbuf.symm)]
    exact ih hrest

end VideoMemory

/-- The metadata buffer and the native handle of a slot. -/
inductive MetaObj
  | metadata (i : ℕ)
  | handle (i : ℕ)
  deriving DecidableEq

/-- What `mGetMemory` and `native_handle_create` give for a slot. -/
structure MetaEnv where
  memory : ℕ → Bool
  handle : ℕ → Bool

/-- What a call has made and released, in order. -/
structure MetaCall where
  made : List MetaObj := []
  released : List MetaObj := []

/-- The loop of `allocateMeta` and of `allocateMore`, from slot `i` on for `n` slots; they release
what was made in their own ways. -/
def metaLoop (env : MetaEnv) (noMemory noHandle : ℕ → List MetaObj) :
    ℕ → ℕ → MetaCall → MetaCall × Bool
  | 0, _, l => (l, true)
  | n + 1, i, l =>
    if !env.memory i then ({ l with released := l.released ++ noMemory i }, false)
    else if !env.handle i then
      ({ made := l.made ++ [.metadata i], released := l.released ++ noHandle i }, false)
    else metaLoop env noMemory noHandle n (i + 1)
      { l with made := l.made ++ [.metadata i, .handle i] }

/-- `allocateMeta`: without a handle, the metadata buffer of its slot is released for every slot
before. -/
def allocateMeta (env : MetaEnv) (count : ℕ) : MetaCall × Bool :=
  metaLoop env (fun i => (List.range i).reverse.flatMap fun j => [.handle j, .metadata j])
    (fun i => (List.range i).reverse.flatMap fun j => [.metadata i, .handle j, .metadata j])
    count 0 {}

/-- The loop of `allocateMore`: the handles are not deleted, and without a handle nothing is. -/
def allocateMoreMeta (env : MetaEnv) (first count : ℕ) : MetaCall × Bool :=
  metaLoop env (fun i => (List.range' first (i - first)).map .metadata) (fun _ => []) count first {}

/-- The step for slot `i` is the first that fails. -/
structure MetaEnv.FailsAt (env : MetaEnv) (first i : ℕ) : Prop where
  le : first ≤ i
  before : ∀ j, first ≤ j → j < i → env.memory j ∧ env.handle j
  fails : ¬(env.memory i ∧ env.handle i)

/-- **What was made is released once.** -/
def MetaCall.ReleasedOnce (l : MetaCall) : Prop := l.released.Perm l.made

variable {env : MetaEnv} {noMemory noHandle : ℕ → List MetaObj} {first n i : ℕ} {l : MetaCall}

def madeBefore (first i : ℕ) : List MetaObj :=
  (List.range' first (i - first)).flatMap fun j => [.metadata j, .handle j]

theorem metaLoop_failed (hle : first ≤ i)
    (before : ∀ j, first ≤ j → j < i → env.memory j ∧ env.handle j)
    (h : metaLoop env noMemory noHandle n i { made := madeBefore first i } = (l, false)) :
    ∃ k, k < i + n ∧ env.FailsAt first k ∧
      ((env.memory k = false ∧ l = ⟨madeBefore first k, noMemory k⟩) ∨
        (env.memory k = true ∧ l = ⟨madeBefore first k ++ [.metadata k], noHandle k⟩)) := by
  induction n generalizing i with
  | zero => cases h
  | succ n ih =>
    unfold metaLoop at h
    split_ifs at h with hmemory hhandle
    · cases h
      rw [Bool.not_eq_true'] at hmemory
      exact ⟨i, by omega, ⟨hle, before, by simp [hmemory]⟩, .inl ⟨hmemory, rfl⟩⟩
    · cases h
      rw [Bool.not_eq_true'] at hhandle
      exact ⟨i, by omega, ⟨hle, before, by simp [hhandle]⟩, .inr ⟨by simpa using hmemory, rfl⟩⟩
    · have hmade : madeBefore first i ++ [.metadata i, .handle i] = madeBefore first (i + 1) := by
        unfold madeBefore
        rw [Nat.sub_add_comm hle, range'_1_concat, flatMap_append, Nat.add_sub_cancel' hle]
        rfl
      rw [show metaLoop env noMemory noHandle n (i + 1) { made := madeBefore first i ++ _ } = _ from
        congrArg (metaLoop _ _ _ _ _ ⟨·, []⟩) hmade] at h
      have before' : ∀ j, first ≤ j → j < i + 1 → env.memory j ∧ env.handle j := by
        intro j hj hlt
        rcases Nat.lt_succ_iff_lt_or_eq.mp hlt with hlt | rfl
        · exact before j hj hlt
        · exact ⟨by simpa using hmemory, by simpa using hhandle⟩
      obtain ⟨k, hlt, hk⟩ := ih (Nat.le_succ_of_le hle) before' h
      exact ⟨k, by omega, hk⟩

theorem length_madeBefore (first i : ℕ) : (madeBefore first i).length = 2 * (i - first) := by
  simp [madeBefore, length_flatMap, Nat.mul_comm]

/-- **Where `allocateMeta` fails**, what was made is released once exactly if a metadata buffer is
not given, or the handle of the second slot. -/
theorem allocateMeta_released {count : ℕ} (h : allocateMeta env count = (l, false)) :
    ∃ i < count, env.FailsAt 0 i ∧ (l.ReleasedOnce ↔ env.memory i = false ∨ i = 1) := by
  obtain ⟨i, hlt, hi, hl⟩ := metaLoop_failed le_rfl (fun j _ hj => absurd hj (Nat.not_lt_zero j)) h
  refine ⟨i, by omega, hi, ?_⟩
  unfold MetaCall.ReleasedOnce
  rcases hl with ⟨hmemory, rfl⟩ | ⟨hmemory, rfl⟩
  · refine iff_of_true ?_ (.inl hmemory)
    unfold madeBefore
    rw [Nat.sub_zero, ← range_eq_range']
    refine ((reverse_perm _).flatMap_right _).trans (Perm.flatMap_left _ fun j _ => ?_)
    exact Perm.swap ..
  · rw [hmemory]
    constructor
    · intro hperm
      have hlen := hperm.length_eq
      rw [length_append, length_madeBefore] at hlen
      simp [length_flatMap] at hlen
      omega
    · rintro (h | rfl)
      · cases h
      · decide

/-- **Where `allocateMore` fails**, what was made is released once exactly if nothing was. -/
theorem allocateMoreMeta_released {count : ℕ} (h : allocateMoreMeta env first count = (l, false)) :
    ∃ i, env.FailsAt first i ∧ (l.ReleasedOnce ↔ env.memory i = false ∧ i = first) := by
  have hmade : ({} : MetaCall) = { made := madeBefore first first } := by
    simp [madeBefore]
  unfold allocateMoreMeta at h
  rw [hmade] at h
  obtain ⟨i, hlt, hi, hl⟩ := metaLoop_failed le_rfl (fun j hj hlt => by omega) h
  refine ⟨i, hi, ?_⟩
  have hle := hi.le
  unfold MetaCall.ReleasedOnce
  rcases hl with ⟨hmemory, rfl⟩ | ⟨hmemory, rfl⟩
  · constructor
    · intro hperm
      have hlen := hperm.length_eq
      rw [length_madeBefore, length_map, length_range'] at hlen
      exact ⟨hmemory, by omega⟩
    · rintro ⟨-, rfl⟩
      simp [madeBefore]
  · refine iff_of_false (fun hperm => ?_) (fun h => absurd (hmemory.symm.trans h.1) Bool.noConfusion)
    exact absurd hperm.length_eq (by simp)

open VideoMemory in
/-- **The video buffers keep their metadata** exactly if no buffer is added after the first
allocation; and where a metadata buffer is not made, what was made is released once as said. -/
theorem videoMemory_iff (n : ℕ) (counts : List ℕ) (fd : ℕ → ℤ) (size : ℕ) (env : MetaEnv)
    (first count : ℕ) (l : MetaCall) :
    (n + counts.sum ≤ MM_CAMERA_MAX_NUM_FRAMES →
      ((addAll (allocate {} n fd size) fd size counts).Kept (n + counts.sum) ↔
        ∀ count ∈ counts, count = 0)) ∧
    (allocateMeta env count = (l, false) →
      ∃ i < count, env.FailsAt 0 i ∧ (l.ReleasedOnce ↔ env.memory i = false ∨ i = 1)) ∧
    (allocateMoreMeta env first count = (l, false) →
      ∃ i, env.FailsAt first i ∧ (l.ReleasedOnce ↔ env.memory i = false ∧ i = first)) := by
  refine ⟨fun hle => ?_, allocateMeta_released, allocateMoreMeta_released⟩
  have hle : n + counts.sum ≤ 64 := hle
  constructor
  · intro h
    have hcount := (@addAll_count (allocate {} n fd size) fd size counts
      (by show n + _ < _; omega)).symm.trans h.counts.1
    have hn : (allocate {} n fd size).mBufferCount = n := rfl
    exact List.sum_eq_zero_iff_forall_eq_nat.mp (by omega)
  · intro hzero
    have hsum : counts.sum = 0 := List.sum_eq_zero_iff_forall_eq_nat.mpr hzero
    rw [hsum]
    exact (allocate_kept {} n fd size).addNone (by omega) hzero

/-- Two buffers, and none added. -/
theorem videoMemory_two :
    (VideoMemory.allocate {} 2 (fun i => 10 + i) 4096).Kept 2 :=
  ((videoMemory_iff 2 [] (fun i => 10 + i) 4096 ⟨fun _ => true, fun _ => true⟩ 0 0 {}).1
    (by decide)).mpr nofun

/-- **One buffer is added to one**: there are three then. -/
theorem videoMemory_added : ¬∀ (n : ℕ) (counts : List ℕ) (fd : ℕ → ℤ) (size : ℕ),
    n + counts.sum ≤ MM_CAMERA_MAX_NUM_FRAMES →
      (VideoMemory.addAll (VideoMemory.allocate {} n fd size) fd size counts).Kept
        (n + counts.sum) := fun h =>
  absurd (h 1 [1] (fun i => 10 + i) 4096 (by decide)).counts.1 (by decide)

end IonMemory
