import MidoCamera.Stack.SyncMembership

/-!
# The locks of a synced dispatch

A synced dispatch locks the queue of the channel in each slot of the table, slot by slot, and then
`fs_lock`; when it has collected, it drops `fs_lock` and unlocks the queue of the channel that is in
each slot by then. The slots are read outside `fs_lock`, so a channel may join or leave between the
two reads of its slot. Then the dispatch keeps a lock, or unlocks one it has not taken.
-/

namespace MmCamera

open Loop List

/-- Where a synced dispatch is: outside, in the loop of `mm_frame_sync_lock_queues` with the slots
it has yet to read, under `fs_lock`, or in the loop of `mm_frame_sync_unlock_queues`. -/
inductive LockPc
  | idle
  | lockQueues (js : List CamIdx)
  | locked
  | unlockQueues (js : List CamIdx)

/-- The system, with the queue locks that the dispatch has taken and released so far. -/
structure LockState where
  sys : System
  pc : LockPc
  acquired : List ChannelId
  released : List ChannelId

abbrev allSlots : List CamIdx := List.finRange maxNumCameraPerBundle

/-- Who takes a step. -/
inductive LockEvent
  | dispatcher
  | other (e : Membership)

/-- A change of membership, which takes `fs_lock`. -/
def Membership.TakesFsLock : Membership → Prop
  | .register _ => True
  | .unregister _ => True
  | _ => False

/-- The steps of a synced dispatch among those of the other threads. The test of a slot and the
address of the queue taken from it are one read. -/
inductive LockStep : LockEvent → LockState → LockState → Prop
  | start {s : LockState} (pc : s.pc = .idle) :
      LockStep .dispatcher s
        { s with pc := .lockQueues allSlots, acquired := [], released := [] }
  | lockQueue {s : LockState} {j : CamIdx} {js : List CamIdx} (pc : s.pc = .lockQueues (j :: js)) :
      LockStep .dispatcher s
        { s with pc := .lockQueues js, acquired := s.acquired ++ (s.sys.fs.chObj j).toList }
  | lockFs {s : LockState} (pc : s.pc = .lockQueues []) :
      LockStep .dispatcher s { s with pc := .locked }
  | unlockFs {s : LockState} {info : NodeInfo} {t : System} (pc : s.pc = .locked)
      (collected : frameSyncCollect s.sys = (info, t)) :
      LockStep .dispatcher s { s with sys := t, pc := .unlockQueues allSlots }
  | unlockQueue {s : LockState} {j : CamIdx} {js : List CamIdx}
      (pc : s.pc = .unlockQueues (j :: js)) :
      LockStep .dispatcher s
        { s with pc := .unlockQueues js, released := s.released ++ (s.sys.fs.chObj j).toList }
  | finish {s : LockState} (pc : s.pc = .unlockQueues []) :
      LockStep .dispatcher s { s with pc := .idle }
  | other {s : LockState} {e : Membership} {t : System} (free : s.pc = .locked → ¬e.TakesFsLock)
      (step : MembershipStep anyEnqueue e s.sys t) : LockStep (.other e) s { s with sys := t }

def LockPc.pending : LockPc → List CamIdx
  | .idle => []
  | .lockQueues js => allSlots.filter (· ∉ js)
  | .locked => allSlots
  | .unlockQueues js => js

/-- The membership after a change. -/
def Membership.chObj (fs : FrameSync) : Membership → CamIdx → Option ChannelId
  | .register c => (frameSyncRegisterChannel c fs).chObj
  | .unregister c => (frameSyncUnregisterChannel c fs).chObj
  | _ => fs.chObj

/-- The condition on a change of membership: it leaves alone the slots that are to be read
again. -/
def LockEvent.Cond : LockEvent → LockState → Prop
  | .dispatcher, _ => True
  | .other e, s => ∀ j ∈ s.pc.pending, e.chObj s.sys.fs j = s.sys.fs.chObj j

def SteadyStep (e : LockEvent) (s t : LockState) : Prop := e.Cond s ∧ LockStep e s t

/-- **A leaked lock.** The dispatch has locked the queues of both cameras when the second one
leaves: its lock is not released. -/
theorem frameSync_leaks :
    ∃ t, Run LockStep
        [.dispatcher, .dispatcher, .dispatcher, .other (.unregister 1), .dispatcher, .dispatcher,
          .dispatcher, .dispatcher, .dispatcher]
        ⟨syncedCameras.registerAll [0, 1], .idle, [], []⟩ t ∧
      t.pc = .idle ∧ t.acquired = [0, 1] ∧ t.released = [0] :=
  ⟨_, .cons (.start rfl) (.cons (.lockQueue rfl) (.cons (.lockQueue rfl)
    (.cons (.other (fun h => nomatch h) (.unregister 1)) (.cons (.lockFs rfl)
    (.cons (.unlockFs rfl rfl) (.cons (.unlockQueue rfl) (.cons (.unlockQueue rfl)
    (.cons (.finish rfl) (.nil _))))))))), rfl, rfl, rfl⟩

/-! ## The members during a step -/

section Members

variable {P : ChannelId → Core → ℕ → BufInfo → Prop} {c : ChannelId}

theorem dequeueInternal_chObj {m : Bool} {x y : Ctx} {node : Node}
    (h : superbufDequeueInternal m x = (some node, y)) : y.fs.chObj = x.fs.chObj := by
  obtain ⟨_, -, -, -, hfs⟩ := dequeueInternal_some h
  rw [hfs]
  split_ifs
  · exact frameSyncRemove_chObj _ _
  · rfl

theorem CompStep.chObj {slot : ℕ} {b : BufInfo} {k k' : Core} {fs fs' : FrameSync}
    (h : CompStep c slot b k fs k' fs') : fs'.chObj = fs.chObj := by
  have hadd : (k.syncAdd c b.frameIdx fs).chObj = fs.chObj := by
    unfold Core.syncAdd
    split_ifs
    · exact frameSyncAdd_chObj _ _ _
    · rfl
  cases h with
  | duplicate | store | refuse => rfl
  | complete => exact hadd
  | enqueue =>
    split_ifs
    · exact hadd
    · rfl

theorem ChanStep.chObj {Q : Core → ℕ → BufInfo → Prop} {e : Event} {x y : Ctx}
    (h : ChanStep Q c e x y) : y.fs.chObj = x.fs.chObj := by
  cases h with
  | idle core fs => rw [fs]
  | reject => rfl
  | comp bundled index admitted ok => exact (superbufComp_cases ok).chObj
  | @drop _ y _ _ deq | @dropType _ y _ camType deq =>
    exact (dequeueInternal_chObj deq : y.fs.chObj = _)

theorem frameSyncCollect_chObj {s t : System} {info : NodeInfo}
    (h : frameSyncCollect s = (info, t)) : t.fs.chObj = s.fs.chObj := by
  unfold frameSyncCollect at h
  dsimp only at h
  by_cases h0 : frameSyncFindMatched false s.fs = 0
  · rw [if_pos h0] at h
    cases h
    rfl
  · rw [if_neg h0] at h
    cases hdeq : frameSyncDequeue (frameSyncFindMatched false s.fs)
        (finRange maxNumCameraPerBundle) s with
    | mk info' s' =>
      have hfs := (frameSyncDequeue_removes hdeq).1
      rw [hdeq] at h
      dsimp only at h
      split_ifs at h
      · cases h
        rw [frameSyncRemove_chObj, hfs]
      · cases h
        rw [nodesQbuf_fs, frameSyncRemove_chObj, hfs]

theorem SysStep.chObj {l : ChannelId × Event} {s t : System} (h : SysStep P l s t) :
    t.fs.chObj = s.fs.chObj := by
  cases h with
  | chan step => exact step.chObj
  | send deq core => exact dequeueInternal_chObj deq
  | sync collected core fs => rw [sendSuperBuf_fs, fs, frameSyncCollect_chObj collected]

theorem MembershipStep.chObj {e : Membership} {s t : System} (h : MembershipStep P e s t) :
    t.fs.chObj = e.chObj s.fs := by
  cases h with
  | work step => exact step.chObj
  | register | unregister | restart => rfl

end Members

/-! ## Runs that meet the condition -/

section Discipline

variable {e : LockEvent} {s t : LockState}

def System.channelsAt (s : System) (js : List CamIdx) : List ChannelId :=
  js.flatMap fun j => (s.fs.chObj j).toList

theorem channelsAt_append (s : System) (is js : List CamIdx) :
    s.channelsAt (is ++ js) = s.channelsAt is ++ s.channelsAt js := flatMap_append

theorem channelsAt_cons (s : System) (j : CamIdx) (js : List CamIdx) :
    s.channelsAt (j :: js) = (s.fs.chObj j).toList ++ s.channelsAt js := rfl

theorem channelsAt_congr {s u : System} {js : List CamIdx}
    (h : ∀ j ∈ js, u.fs.chObj j = s.fs.chObj j) : u.channelsAt js = s.channelsAt js :=
  flatMap_congr fun j hj => by rw [h j hj]

/-- **The lock discipline**, at every point of the dispatch: the locks taken are those of the
channels in the slots read so far, and the locks not yet released are those of the channels in the
slots to be read again. -/
def LockInv (s : LockState) : Prop :=
  match s.pc with
  | .idle => s.released = s.acquired
  | .lockQueues js => s.released = [] ∧
      ∃ is, allSlots = is ++ js ∧ s.acquired = s.sys.channelsAt is
  | .locked => s.released = [] ∧ s.acquired = s.sys.channelsAt allSlots
  | .unlockQueues js => s.acquired = s.released ++ s.sys.channelsAt js

theorem mem_pending {is js : List CamIdx} (h : allSlots = is ++ js) {j : CamIdx} (hj : j ∈ is) :
    j ∈ (LockPc.lockQueues js).pending := by
  have hnodup : (is ++ js).Nodup := h ▸ nodup_finRange _
  refine mem_filter.mpr ⟨mem_finRange j, ?_⟩
  have := (nodup_append.mp hnodup).2.2 j hj
  simpa using fun hjs => this j hjs rfl

theorem LockInv.other {u : System} (h : LockInv s)
    (same : ∀ j ∈ s.pc.pending, u.fs.chObj j = s.sys.fs.chObj j) :
    LockInv { s with sys := u } := by
  obtain ⟨sys, pc, acquired, released⟩ := s
  cases pc with
  | idle => exact h
  | lockQueues js =>
    obtain ⟨hrel, is, his, hacq⟩ := h
    exact ⟨hrel, is, his, hacq.trans
      (channelsAt_congr fun j hj => same j (mem_pending his hj)).symm⟩
  | locked => exact ⟨h.1, h.2.trans (channelsAt_congr same).symm⟩
  | unlockQueues js =>
    have hcongr : u.channelsAt js = sys.channelsAt js := channelsAt_congr same
    show acquired = released ++ u.channelsAt js
    rw [hcongr]
    exact h

/-- **A step that meets the condition keeps the discipline.** -/
theorem LockStep.lockInv (h : LockStep e s t) (cond : e.Cond s) (hi : LockInv s) :
    LockInv t := by
  cases h with
  | start pc => exact ⟨rfl, [], rfl, rfl⟩
  | @lockQueue _ j js pc =>
    unfold LockInv at hi
    rw [pc] at hi
    obtain ⟨hrel, is, his, hacq⟩ := hi
    refine ⟨hrel, is ++ [j], by simpa using his, ?_⟩
    show s.acquired ++ _ = s.sys.channelsAt (is ++ [j])
    rw [channelsAt_append, ← hacq, channelsAt_cons]
    simp [System.channelsAt]
  | lockFs pc =>
    unfold LockInv at hi
    rw [pc] at hi
    obtain ⟨hrel, is, his, hacq⟩ := hi
    rw [append_nil] at his
    exact ⟨hrel, his ▸ hacq⟩
  | @unlockFs _ info u pc collected =>
    unfold LockInv at hi
    rw [pc] at hi
    show s.acquired = s.released ++ u.channelsAt allSlots
    rw [hi.1, hi.2, nil_append]
    exact (channelsAt_congr fun j _ => by rw [frameSyncCollect_chObj collected]).symm
  | @unlockQueue _ j js pc =>
    unfold LockInv at hi
    rw [pc] at hi
    show s.acquired = s.released ++ (s.sys.fs.chObj j).toList ++ s.sys.channelsAt js
    rw [append_assoc, ← channelsAt_cons]
    exact hi
  | finish pc =>
    unfold LockInv at hi
    rw [pc] at hi
    show s.released = s.acquired
    simpa [System.channelsAt] using hi.symm
  | @other _ e' u free step =>
    refine hi.other fun j hj => ?_
    rw [step.chObj]
    exact cond j hj

/-- **The lock discipline of frame sync.** In every state that a run reaches, in which no slot
changes between the two reads that a synced dispatch makes of it: outside the dispatch, the locks
released are exactly those acquired, one for one and in the same order. -/
theorem frameSync_locks {es : List LockEvent} (start : s.pc = .idle)
    (none : s.released = s.acquired)
    (run : Run SteadyStep es s t) (idle : t.pc = .idle) :
    t.released = t.acquired := by
  have hs : LockInv s := by
    unfold LockInv
    rw [start]
    exact none
  have ht : LockInv t := run.invariant (fun _ _ _ h hi => h.2.lockInv h.1 hi) hs
  unfold LockInv at ht
  rwa [idle] at ht

/-- A camera leaves before the dispatch, and joins again when both slots have been read twice. -/
theorem frameSync_locks_rejoin :
    ∃ t, Run SteadyStep
        [.other (.unregister 1), .dispatcher, .dispatcher, .dispatcher, .dispatcher, .dispatcher,
          .dispatcher, .dispatcher, .other (.register 1), .dispatcher]
        ⟨syncedCameras.registerAll [0, 1], .idle, [], []⟩ t ∧
      t.acquired = [0] ∧ t.released = t.acquired := by
  obtain ⟨t, run, hpc, hacq⟩ : ∃ t, Run SteadyStep
      [.other (.unregister 1), .dispatcher, .dispatcher, .dispatcher, .dispatcher, .dispatcher,
        .dispatcher, .dispatcher, .other (.register 1), .dispatcher]
      ⟨syncedCameras.registerAll [0, 1], .idle, [], []⟩ t ∧ t.pc = .idle ∧ t.acquired = [0] :=
    ⟨_, .cons ⟨fun _ h => (nomatch h), .other (fun h => nomatch h) (.unregister 1)⟩
      (.cons ⟨trivial, .start rfl⟩ (.cons ⟨trivial, .lockQueue rfl⟩
      (.cons ⟨trivial, .lockQueue rfl⟩ (.cons ⟨trivial, .lockFs rfl⟩
      (.cons ⟨trivial, .unlockFs rfl rfl⟩ (.cons ⟨trivial, .unlockQueue rfl⟩
      (.cons ⟨trivial, .unlockQueue rfl⟩
      (.cons ⟨fun _ h => (nomatch h), .other (fun h => nomatch h) (.register 1)⟩
      (.cons ⟨trivial, .finish rfl⟩ (.nil _)))))))))), rfl, rfl⟩
  exact ⟨t, run, hacq, frameSync_locks rfl rfl run hpc⟩

end Discipline

end MmCamera
