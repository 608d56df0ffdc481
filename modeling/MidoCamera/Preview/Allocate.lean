import Mathlib.Data.List.Range
import Mathlib.Tactic.Common

/-!
# The allocation of the preview buffers

`QCameraGrallocMemory::allocate` takes buffers from the window one by one and maps each. Where a step
fails, it gives back what is before the failing buffer, without its camera memory; the buffer itself
stays with the memory where it has come from the window, and the count of buffers is not reset.
-/

namespace Hal1Preview

open Function List

/-- What comes of one buffer: a failing step, or all, with a camera memory or without. -/
inductive SlotOutcome
  | dequeueFails
  | openFails
  | importFails
  | mapped (memory : Bool)
  deriving DecidableEq

/-- The buffers that the window gives, and what comes of them. -/
structure AllocEnv where
  handle : ℕ → ℕ
  outcome : ℕ → SlotOutcome

/-- `QCameraGrallocMemory`, with the record of the buffers that were dequeued and cancelled, and the
numbers of ION descriptors, ION handles and camera memories that are held. -/
structure Gralloc where
  mBufferCount : ℕ := 0
  mMappableBuffers : ℕ := 5
  mBufferHandle : ℕ → Option ℕ := fun _ => none
  /-- `mLocalFlag` is `BUFFER_OWNED`. -/
  mLocalFlag : ℕ → Bool := fun _ => false
  dequeued : List ℕ := []
  cancelled : List ℕ := []
  ionFds : ℕ := 0
  ionHandles : ℕ := 0
  memories : ℕ := 0

namespace Gralloc

/-- The call of `dequeue_buffer` for slot `cnt`. -/
def dequeue (g : Gralloc) (handle cnt : ℕ) : SlotOutcome → Gralloc
  | .dequeueFails => { g with mLocalFlag := update g.mLocalFlag cnt false }
  | _ =>
    { g with
      mBufferHandle := update g.mBufferHandle cnt (some handle)
      mLocalFlag := update g.mLocalFlag cnt true
      dequeued := g.dequeued ++ [handle] }

/-- The buffer is imported, and gets a camera memory. -/
def map (g : Gralloc) (memory : Bool) : Gralloc :=
  { g with
    ionFds := g.ionFds + 1
    ionHandles := g.ionHandles + 1
    memories := g.memories + memory.toNat }

/-- One pass of a roll-back loop. -/
def undo (g : Gralloc) (i : ℕ) : Gralloc :=
  { g with
    ionFds := g.ionFds - 1
    ionHandles := g.ionHandles - 1
    cancelled := g.cancelled ++ if g.mLocalFlag i then (g.mBufferHandle i).toList else []
    mLocalFlag := update g.mLocalFlag i false
    mBufferHandle := update g.mBufferHandle i none }

/-- `reset` clears the table of ION buffers only. -/
def rollBack (g : Gralloc) (cnt : ℕ) : Gralloc := (List.range cnt).foldl undo g

/-- The loop, from slot `cnt`, for `n` more slots; it tells whether it comes to its end. A descriptor
for an import that fails is opened and closed. -/
def allocateFrom (env : AllocEnv) : ℕ → ℕ → Gralloc → Gralloc × Bool
  | 0, _, g => (g, true)
  | n + 1, cnt, g =>
    let g := g.dequeue (env.handle cnt) cnt (env.outcome cnt)
    match env.outcome cnt with
    | .mapped memory => allocateFrom env n (cnt + 1) (g.map memory)
    | _ => (g.rollBack cnt, false)

/-- The first buffers go back to the window. -/
def cancelFirst (g : Gralloc) (minUndequeued : ℕ) : Gralloc :=
  (List.range minUndequeued).foldl (fun g i => { g with
    cancelled := g.cancelled ++ (g.mBufferHandle i).toList
    mLocalFlag := update g.mLocalFlag i false }) g

/-- `allocate`; `setUp` tells whether the window takes the count, the geometry and the usage. -/
def allocate (g : Gralloc) (count : ℕ) (setUp : Bool) (env : AllocEnv) (minUndequeued : ℕ) :
    Gralloc × Bool :=
  if !setUp then ({ g with mMappableBuffers := 0 }, false)
  else
    let mappable := if count < g.mMappableBuffers ∨ g.mMappableBuffers = 0 then count
      else g.mMappableBuffers
    let g := { g with mBufferCount := count, mMappableBuffers := mappable }
    match allocateFrom env mappable 0 g with
    | (g, true) => (g.cancelFirst minUndequeued, true)
    | (g, false) => ({ g with mMappableBuffers := 0 }, false)

/-- **The allocation is undone**: what was dequeued is cancelled once, and nothing is held. -/
structure Undone (g t : Gralloc) : Prop where
  cancelled : ∃ hs, t.dequeued = g.dequeued ++ hs ∧ (t.cancelled.Perm (g.cancelled ++ hs))
  ion : t.ionFds = g.ionFds ∧ t.ionHandles = g.ionHandles
  memories : t.memories = g.memories
  owned : ∀ i, t.mLocalFlag i = false
  counts : t.mBufferCount = 0 ∧ t.mMappableBuffers = 0

/-- **What a failure at slot `cnt` leaves**: the buffers before it are cancelled, and their camera
memories kept; the buffer itself, if it was dequeued, is owned; and the count stays. -/
structure LeftAt (env : AllocEnv) (count cnt : ℕ) (g t : Gralloc) : Prop where
  dequeued : t.dequeued = g.dequeued ++ (List.range cnt).map env.handle ++
    if env.outcome cnt = .dequeueFails then [] else [env.handle cnt]
  cancelled : t.cancelled = g.cancelled ++ (List.range cnt).map env.handle
  ion : t.ionFds = g.ionFds ∧ t.ionHandles = g.ionHandles
  memories : t.memories = g.memories + ((List.range cnt).filter (env.outcome · = .mapped true)).length
  owned : ∀ i, t.mLocalFlag i =
    if i < cnt then false else if i = cnt then decide (env.outcome cnt ≠ .dequeueFails)
    else g.mLocalFlag i
  counts : t.mBufferCount = count ∧ t.mMappableBuffers = 0

variable {env : AllocEnv} {g s t u : Gralloc} {cnt n count minUndequeued : ℕ}

theorem rollBack_spec (g : Gralloc) (cnt : ℕ) :
    (g.rollBack cnt).dequeued = g.dequeued ∧
    (g.rollBack cnt).cancelled = g.cancelled ++ (List.range cnt).flatMap (fun i =>
      if g.mLocalFlag i then (g.mBufferHandle i).toList else []) ∧
    (g.rollBack cnt).ionFds = g.ionFds - cnt ∧ (g.rollBack cnt).ionHandles = g.ionHandles - cnt ∧
    (g.rollBack cnt).memories = g.memories ∧ (g.rollBack cnt).mBufferCount = g.mBufferCount ∧
    (∀ i, (g.rollBack cnt).mLocalFlag i = if i < cnt then false else g.mLocalFlag i) ∧
    ∀ i, cnt ≤ i → (g.rollBack cnt).mBufferHandle i = g.mBufferHandle i := by
  induction cnt with
  | zero => simp [rollBack]
  | succ cnt ih =>
    obtain ⟨hdequeued, hcancelled, hfds, hhandles, hmemories, hcount, hflag, hbuf⟩ := ih
    have hlast : g.rollBack (cnt + 1) = (g.rollBack cnt).undo cnt := by
      unfold rollBack
      rw [range_succ, foldl_append]
      rfl
    rw [hlast]
    refine ⟨hdequeued, ?_, ?_, ?_, hmemories, hcount, fun i => ?_, fun i hi => ?_⟩
    · show (g.rollBack cnt).cancelled ++ _ = _
      rw [hcancelled, hflag, if_neg (lt_irrefl _), hbuf cnt le_rfl, range_succ,
        flatMap_append, append_assoc]
      simp
    · show (g.rollBack cnt).ionFds - 1 = _
      omega
    · show (g.rollBack cnt).ionHandles - 1 = _
      omega
    · show update (g.rollBack cnt).mLocalFlag cnt false i = _
      rcases eq_or_ne i cnt with rfl | hne
      · simp
      · rw [update_of_ne hne, hflag]
        exact if_congr (by omega) rfl rfl
    · exact (update_of_ne (by omega) ..).trans (hbuf i (by omega))

/-- Where the loop is at slot `cnt`, after it began at `g`. -/
structure Reached (env : AllocEnv) (g s : Gralloc) (cnt : ℕ) : Prop where
  dequeued : s.dequeued = g.dequeued ++ (List.range cnt).map env.handle
  cancelled : s.cancelled = g.cancelled
  ionFds : s.ionFds = g.ionFds + cnt
  ionHandles : s.ionHandles = g.ionHandles + cnt
  memories : s.memories = g.memories + ((List.range cnt).filter (env.outcome · = .mapped true)).length
  slots : ∀ i < cnt, s.mLocalFlag i = true ∧ s.mBufferHandle i = some (env.handle i)
  owned : ∀ i, cnt ≤ i → s.mLocalFlag i = g.mLocalFlag i
  count : s.mBufferCount = g.mBufferCount

/-- What the call for slot `cnt` does. -/
structure Dequeues (handle cnt : ℕ) (o : SlotOutcome) (s u : Gralloc) : Prop where
  dequeued : u.dequeued = s.dequeued ++ if o = .dequeueFails then [] else [handle]
  rest : u.cancelled = s.cancelled ∧ u.ionFds = s.ionFds ∧ u.ionHandles = s.ionHandles ∧
    u.memories = s.memories ∧ u.mBufferCount = s.mBufferCount
  owned : ∀ i, u.mLocalFlag i = if i = cnt then decide (o ≠ .dequeueFails) else s.mLocalFlag i
  self : o ≠ .dequeueFails → u.mBufferHandle cnt = some handle
  other : ∀ i ≠ cnt, u.mBufferHandle i = s.mBufferHandle i

theorem dequeues (s : Gralloc) (handle cnt : ℕ) (o : SlotOutcome) :
    Dequeues handle cnt o s (s.dequeue handle cnt o) := by
  cases o <;> constructor <;> simp +contextual [dequeue, update_apply]

theorem Reached.map (h : Reached env g s cnt) {memory : Bool}
    (houtcome : env.outcome cnt = .mapped memory)
    (hu : Dequeues (env.handle cnt) cnt (env.outcome cnt) s u) :
    Reached env g (u.map memory) (cnt + 1) := by
  obtain ⟨hcancelled, hfds, hhandles, hmemories, hcount⟩ := hu.rest
  have howned : env.outcome cnt ≠ .dequeueFails := by rw [houtcome]; nofun
  refine ⟨?_, hcancelled.trans h.cancelled, ?_, ?_, ?_, fun i hi => ?_, fun i hi => ?_,
    hcount.trans h.count⟩
  · show u.dequeued = _
    rw [hu.dequeued, h.dequeued, range_succ, map_append, append_assoc, if_neg howned]
    rfl
  · show u.ionFds + 1 = _
    rw [hfds, h.ionFds, Nat.add_assoc]
  · show u.ionHandles + 1 = _
    rw [hhandles, h.ionHandles, Nat.add_assoc]
  · show u.memories + memory.toNat = _
    rw [hmemories, h.memories, range_succ, filter_append, length_append, Nat.add_assoc]
    cases memory <;> simp [houtcome]
  · rcases eq_or_ne i cnt with rfl | hne
    · exact ⟨(hu.owned i).trans (by simp [howned]), hu.self howned⟩
    · obtain ⟨hflag, hbuf⟩ := h.slots i (by omega)
      exact ⟨(hu.owned i).trans ((if_neg hne).trans hflag), (hu.other i hne).trans hbuf⟩
  · exact (hu.owned i).trans ((if_neg (by omega)).trans (h.owned i (by omega)))

/-- **A failure at slot `cnt`**, of whatever step. -/
theorem Reached.left (h : Reached env g s cnt) (hcount : g.mBufferCount = count)
    (hu : Dequeues (env.handle cnt) cnt (env.outcome cnt) s u) :
    LeftAt env count cnt g { u.rollBack cnt with mMappableBuffers := 0 } := by
  obtain ⟨hcancelled, hfds, hhandles, hmemories, hcnt⟩ := hu.rest
  obtain ⟨hd, hc, hf, hh, hm, hn, hl, -⟩ := u.rollBack_spec cnt
  have hback : (range cnt).flatMap (fun i =>
      if u.mLocalFlag i then (u.mBufferHandle i).toList else []) = (range cnt).map env.handle := by
    rw [map_eq_flatMap]
    refine flatMap_congr fun i hi => ?_
    have hlt := mem_range.mp hi
    have hne : i ≠ cnt := by omega
    rw [hu.owned, if_neg hne, (h.slots i hlt).1, hu.other i hne, (h.slots i hlt).2]
    rfl
  refine ⟨hd.trans ?_, hc.trans ?_, ⟨hf.trans ?_, hh.trans ?_⟩,
    hm.trans (hmemories.trans h.memories), fun i => (hl i).trans ?_,
    hn.trans (hcnt.trans (h.count.trans hcount)), rfl⟩
  · rw [hu.dequeued, h.dequeued]
  · rw [hback, hcancelled, h.cancelled]
  · rw [hfds, h.ionFds, Nat.add_sub_cancel]
  · rw [hhandles, h.ionHandles, Nat.add_sub_cancel]
  · rw [hu.owned]
    split_ifs with hlt heq
    · rfl
    · rfl
    · exact h.owned i (by omega)

theorem allocateFrom_left (h : Reached env g s cnt) (hcount : g.mBufferCount = count)
    (hfailed : allocateFrom env n cnt s = (t, false)) :
    ∃ k, k < cnt + n ∧ LeftAt env count k g { t with mMappableBuffers := 0 } := by
  induction n generalizing cnt s with
  | zero => cases hfailed
  | succ n ih =>
    unfold allocateFrom at hfailed
    dsimp only at hfailed
    split at hfailed
    · next memory houtcome =>
      obtain ⟨k, hlt, hleft⟩ := ih (h.map houtcome (dequeues ..)) hfailed
      exact ⟨k, by omega, hleft⟩
    · cases hfailed
      exact ⟨cnt, by omega, h.left hcount (dequeues ..)⟩

/-- **An allocation that fails at a buffer is never undone**: the count of the buffers stays, and
what `LeftAt` says. -/
theorem allocate_not_undone (hfailed : g.allocate count true env minUndequeued = (t, false)) :
    ¬Undone g t ∧ ∃ k < count, LeftAt env count k g t := by
  have hleft : ∃ k < count, LeftAt env count k g t := by
    unfold allocate at hfailed
    rw [if_neg (by decide)] at hfailed
    dsimp only at hfailed
    split at hfailed
    · cases hfailed
    · next u heq =>
      cases hfailed
      obtain ⟨k, hlt, hleft⟩ := allocateFrom_left (g := { g with
          mBufferCount := count
          mMappableBuffers := if count < g.mMappableBuffers ∨ g.mMappableBuffers = 0 then count
            else g.mMappableBuffers })
        ⟨by simp, rfl, rfl, rfl, rfl, fun i hi => absurd hi (Nat.not_lt_zero i), fun _ _ => rfl, rfl⟩
        (rfl : count = count) heq
      refine ⟨k, ?_, hleft.dequeued, hleft.cancelled, hleft.ion, hleft.memories, hleft.owned,
        hleft.counts⟩
      split_ifs at hlt <;> omega
  obtain ⟨k, hlt, hk⟩ := hleft
  refine ⟨fun hundone => ?_, k, hlt, hk⟩
  have hzero := hk.counts.1.symm.trans hundone.counts.1
  omega

/-- Two buffers, of which the second cannot be imported. -/
def secondFails : AllocEnv := ⟨(· + 10), fun i => if i = 0 then .mapped true else .importFails⟩

/-- The second buffer stays with the memory. -/
theorem allocate_not_undone_second : ∃ t : Gralloc,
    ({} : Gralloc).allocate 2 true secondFails 0 = (t, false) ∧ t.dequeued = [10, 11] ∧
      t.cancelled = [10] ∧ t.mLocalFlag 1 = true ∧ t.memories = 1 ∧ ¬Undone {} t := by
  obtain ⟨t, ht, hleft⟩ : ∃ t : Gralloc, ({} : Gralloc).allocate 2 true secondFails 0 = (t, false) ∧
      t.dequeued = [10, 11] ∧ t.cancelled = [10] ∧ t.mLocalFlag 1 = true ∧ t.memories = 1 :=
    ⟨_, rfl, rfl, rfl, rfl, rfl⟩
  exact ⟨t, ht, hleft.1, hleft.2.1, hleft.2.2.1, hleft.2.2.2, (allocate_not_undone ht).1⟩

theorem allocate_undone_not : ¬∀ (g t : Gralloc) (count : ℕ) (env : AllocEnv) (minUndequeued : ℕ),
    g.allocate count true env minUndequeued = (t, false) → Undone g t := by
  intro h
  obtain ⟨t, ht, hcount⟩ : ∃ t : Gralloc, ({} : Gralloc).allocate 2 true secondFails 0 = (t, false) ∧
      t.mBufferCount = 2 := ⟨_, rfl, rfl⟩
  exact absurd ((h {} t 2 secondFails 0 ht).counts.1.symm.trans hcount) (by decide)

end Gralloc

end Hal1Preview
