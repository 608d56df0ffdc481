import MidoCamera.Library.BringUp
import MidoCamera.Stack.FrameSync
import MidoCamera.Stack.Handles
import MidoCamera.Stack.StreamFsm

/-!
# A channel that cannot be started

`mm_channel_start` brings the streams of a channel up in order, the metadata stream first. Where one
of them fails it sends all that it has reached, the failed one with them, the events that stop a
stream, free its buffers in the kernel and put them back. What these events do depends on the state
the stream is in: a stream whose buffers could not all be registered is still BUFFED, and there the
event that frees the buffers in the kernel is ignored.
-/

namespace MmCamera

open Loop List

/-! ## One stream -/

namespace Stream

/-- The streams that belong to the channel are started, one after the other. -/
def startOne (env : StreamEnv) (st : Stream) : ℤ × Stream :=
  if st.owned = false then (0, st)
  else if st.state = .active then (-1, st)
  else
    let (rc, st) := st.fsmFn .getBuf env
    if rc ≠ 0 then (rc, st)
    else
      let (rc, st) := st.fsmFn .regBuf env
      if rc ≠ 0 then (rc, st) else st.fsmFn .start env

/-- What is sent to a stream that belongs to the channel when the start has failed. -/
def stopOne (env : StreamEnv) (st : Stream) : Stream :=
  if st.owned = false then st
  else
    let st := (st.fsmFn .stop env).2
    let st := (st.fsmFn .unregBuf env).2
    (st.fsmFn .putBuf env).2

/-- The stream is configured, and has no buffers, none in the kernel, and is not polled. -/
structure Configured (st : Stream) : Prop where
  state : st.state = .cfg
  bufs : st.bufs = none
  inKernel : st.inKernel = []
  polled : st.polled = false

end Stream

namespace StreamEnv

/-- The buffers are there, and the kernel takes the request for them. -/
def requested (env : StreamEnv) (flags : List Bool) : Bool :=
  decide (flags.length ≤ maxNumFrames) && env.requestBufs

/-- `mm_stream_streamon` succeeds. -/
def turnsOn (env : StreamEnv) (flags : List Bool) : Bool :=
  (flags.isEmpty || env.mapped) && env.streamOn

/-- A configured stream comes up. -/
def comesUp (env : StreamEnv) : Bool :=
  match env.getBufs with
  | none => false
  | some flags => env.requested flags && (flagged flags 0).all env.canQueue && env.turnsOn flags

/-- What is left of a configured stream that has been started and stopped again: the buffers in the
kernel, and whether it is polled. -/
def left (env : StreamEnv) : List ℕ × Bool :=
  match env.getBufs with
  | none => ([], false)
  | some flags =>
    if env.requested flags = false then ([], false)
    else if (flagged flags 0).all env.canQueue = false then
      (env.queued flags, !(env.queued flags).isEmpty)
    else if env.freeBufs || env.turnsOn flags && env.streamOff then ([], false)
    else (env.queued flags, false)

end StreamEnv

section

variable {st : Stream} {env : StreamEnv}

theorem Stream.Configured.fsmFn_getBuf (hst : st.Configured) : st.fsmFn .getBuf env =
    match env.getBufs with
    | none => (-1, st)
    | some flags => (0, { st with state := .buffed, bufs := some flags }) := by
  have hnone : { st with bufs := none } = st := by rw [← hst.bufs]
  unfold Stream.fsmFn
  rw [hst.state]
  rcases hget : env.getBufs with _ | flags <;> simp [Stream.fsmCfg, Stream.initBufs, hget, hnone]

theorem Stream.fsmFn_regBuf (st : Stream) (env : StreamEnv) {flags : List Bool}
    (hstate : st.state = .buffed) (hbufs : st.bufs = some flags) (hpolled : st.polled = false) :
    st.fsmFn .regBuf env =
      if env.requested flags = false then (-1, st)
      else if (flagged flags 0).all env.canQueue = false then (-1, { st with
        inKernel := env.queued flags
        polled := !(env.queued flags).isEmpty })
      else (0, { st with
        state := .reg
        inKernel := env.queued flags
        polled := !(env.queued flags).isEmpty }) := by
  unfold Stream.fsmFn StreamEnv.requested
  rw [hstate]
  dsimp only [Stream.fsmBuffed]
  rw [Stream.regBuf_eq hbufs hpolled]
  by_cases hlen : maxNumFrames < flags.length
  · simp [hlen]
  cases env.requestBufs <;> cases hall : (flagged flags 0).all env.canQueue <;>
    simp [hlen, hstate]

theorem Stream.streamon_eq (st : Stream) (env : StreamEnv) {flags : List Bool}
    (hbufs : st.bufs = some flags) :
    st.streamon env = if env.turnsOn flags then (0, st)
      else (-1, { st with polled := st.polled && flags.isEmpty }) := by
  unfold Stream.streamon StreamEnv.turnsOn Stream.bufNum
  rw [show (st.bufs.getD []) = flags by rw [hbufs]; rfl]
  rcases hmapped : env.mapped <;> rcases hon : env.streamOn <;> cases flags <;> simp

theorem Stream.fsmFn_start (st : Stream) (env : StreamEnv) {flags : List Bool}
    (hstate : st.state = .reg) (hbufs : st.bufs = some flags) : st.fsmFn .start env =
      if env.turnsOn flags then (0, { st with state := .active })
      else (-1, { st with polled := st.polled && flags.isEmpty }) := by
  unfold Stream.fsmFn
  rw [hstate]
  dsimp only [Stream.fsmReg]
  have hon := Stream.streamon_eq { st with state := .active } env hbufs
  rw [hon]
  cases env.turnsOn flags <;> simp

/-- **What is sent to a stream when the start has failed** depends on its state: a stream that is
BUFFED keeps its buffers in the kernel, and is polled as before. -/
theorem Stream.stopOne_eq (howned : st.owned = true) : st.stopOne env = match st.state with
    | .notUsed | .inited | .acquired | .cfg => st
    | .buffed => { st with state := .cfg, bufs := none }
    | .reg => { st with
        state := .cfg
        bufs := none
        inKernel := if env.freeBufs then [] else st.inKernel }
    | .active => { st with
        state := .cfg
        bufs := none
        inKernel := if env.freeBufs || env.streamOff then [] else st.inKernel
        polled := false } := by
  unfold Stream.stopOne
  rw [if_neg (by simp [howned])]
  cases hstate : st.state with
  | notUsed | inited | acquired => simp [Stream.fsmFn, hstate]
  | cfg => simp [Stream.fsmFn, hstate, Stream.fsmCfg]
  | buffed => simp [Stream.fsmFn, hstate, Stream.fsmBuffed, Stream.deinitBufs]
  | reg =>
    simp only [Stream.fsmFn, hstate, Stream.fsmReg, Stream.fsmBuffed, Stream.deinitBufs,
      Stream.unregBuf]
    cases env.freeBufs <;> rfl
  | active =>
    simp only [Stream.fsmFn, hstate, Stream.fsmActive, Stream.fsmReg, Stream.fsmBuffed,
      Stream.deinitBufs, Stream.unregBuf, Stream.streamoff]
    cases env.freeBufs <;> cases env.streamOff <;> rfl

/-- **A configured stream is started**: how far it comes. -/
theorem Stream.Configured.startOne_eq (hst : st.Configured) (howned : st.owned = true) :
    st.startOne env = match env.getBufs with
      | none => (-1, st)
      | some flags =>
        if env.requested flags = false then
          (-1, { st with state := .buffed, bufs := some flags })
        else if (flagged flags 0).all env.canQueue = false then (-1, { st with
          state := .buffed
          bufs := some flags
          inKernel := env.queued flags
          polled := !(env.queued flags).isEmpty })
        else if env.turnsOn flags then (0, { st with
          state := .active
          bufs := some flags
          inKernel := env.queued flags
          polled := !(env.queued flags).isEmpty })
        else (-1, { st with
          state := .reg
          bufs := some flags
          inKernel := env.queued flags
          polled := !(env.queued flags).isEmpty && flags.isEmpty }) := by
  unfold Stream.startOne
  rw [if_neg (by simp [howned]), if_neg (by simp [hst.state]), hst.fsmFn_getBuf]
  cases env.getBufs with
  | none => rfl
  | some flags =>
    dsimp only
    have hreg := Stream.fsmFn_regBuf { st with state := .buffed, bufs := some flags } env rfl rfl
      hst.polled
    rw [if_neg (by decide), hreg]
    cases env.requested flags with
    | false => rfl
    | true =>
      cases (flagged flags 0).all env.canQueue with
      | false => rfl
      | true =>
        simp only [Bool.true_eq_false, if_false, ne_eq, not_true]
        exact Stream.fsmFn_start { st with
          state := .reg
          bufs := some flags
          inKernel := env.queued flags
          polled := !(env.queued flags).isEmpty } env rfl rfl

theorem Stream.Configured.startOne_owned (hst : st.Configured) (howned : st.owned = true) :
    (st.startOne env).2.owned = true := by
  rw [hst.startOne_eq howned]
  cases env.getBufs with
  | none => exact howned
  | some flags =>
    dsimp only
    split_ifs <;> exact howned

/-- **A configured stream is started and stopped again.** -/
theorem Stream.Configured.stopOne_startOne (hst : st.Configured) (howned : st.owned = true)
    (env : StreamEnv) :
    ((st.startOne env).1 = 0 ↔ env.comesUp = true) ∧
      (st.startOne env).2.stopOne env = { st with
        inKernel := env.left.1
        polled := env.left.2 } := by
  rw [hst.startOne_eq howned]
  unfold StreamEnv.comesUp StreamEnv.left
  obtain ⟨state, hdl, type, noFrame, owned, bufs, inKernel, polled⟩ := st
  obtain ⟨rfl, rfl, rfl, rfl⟩ := hst
  cases howned
  cases env.getBufs with
  | none => exact ⟨by simp, Stream.stopOne_eq rfl⟩
  | some flags =>
    dsimp only
    cases env.requested flags with
    | false => exact ⟨by simp, Stream.stopOne_eq rfl⟩
    | true =>
      cases (flagged flags 0).all env.canQueue with
      | false => exact ⟨by simp, Stream.stopOne_eq rfl⟩
      | true =>
        cases env.turnsOn flags with
        | true =>
          refine ⟨by simp, (Stream.stopOne_eq rfl).trans ?_⟩
          cases env.freeBufs <;> cases env.streamOff <;> rfl
        | false =>
          -- without buffers none is queued, and the stream is not polled anyway
          have hoff : (!(env.queued flags).isEmpty && flags.isEmpty) = false := by
            cases flags <;> simp [StreamEnv.queued, flagged]
          refine ⟨by simp, (Stream.stopOne_eq rfl).trans ?_⟩
          simp only [Bool.true_eq_false, if_false, Bool.false_eq_true, hoff]
          cases env.freeBufs <;> rfl

namespace StreamEnv

/-- **The failures of a stream that leave nothing behind**: its buffers cannot be got; the kernel
takes no request for them; the first that is to be queued cannot be; or the stream cannot be turned
on, and its buffers are freed, if any is queued. -/
inductive FailsClean (env : StreamEnv) : Prop
  | getBufs (none : env.getBufs = none)
  | requestBufs {flags : List Bool} (bufs : env.getBufs = some flags)
      (refused : env.requested flags = false)
  | qbuf {flags : List Bool} {i : ℕ} {rest : List ℕ} (bufs : env.getBufs = some flags)
      (first : flagged flags 0 = i :: rest) (fails : env.canQueue i = false)
  | start {flags : List Bool} (bufs : env.getBufs = some flags)
      (queued : (flagged flags 0).all env.canQueue = true) (off : env.turnsOn flags = false)
      (freed : flagged flags 0 = [] ∨ env.freeBufs = true)

/-- A stream that has come up leaves nothing behind: no buffer is queued, or the kernel drops the
buffers when the stream is stopped, or frees them. -/
def StopsClean (env : StreamEnv) : Prop :=
  env.getBufs.elim [] (flagged · 0) = [] ∨ env.streamOff = true ∨ env.freeBufs = true

theorem queued_eq {flags : List Bool} (h : (flagged flags 0).all env.canQueue = true) :
    env.queued flags = flagged flags 0 :=
  takeWhile_eq_self_iff.mpr (all_eq_true.mp h)

theorem left_of_fails (h : env.comesUp = false) : env.left = ([], false) ↔ env.FailsClean := by
  unfold comesUp at h
  unfold left
  rcases hget : env.getBufs with _ | flags
  · exact iff_of_true rfl (.getBufs hget)
  simp only [hget] at h ⊢
  cases hreq : env.requested flags with
  | false => exact iff_of_true rfl (.requestBufs hget hreq)
  | true =>
    cases hall : (flagged flags 0).all env.canQueue with
    | false =>
      -- a buffer cannot be queued: those queued before it stay
      simp only [Bool.true_eq_false, if_false, if_true, Prod.mk.injEq, Bool.not_eq_false',
        List.isEmpty_iff, and_self]
      constructor
      · intro hnone
        cases hflags : flagged flags 0 with
        | nil =>
          rw [hflags] at hall
          cases hall
        | cons i rest =>
          refine .qbuf hget hflags ?_
          unfold queued at hnone
          rw [hflags, takeWhile_cons] at hnone
          cases hi : env.canQueue i with
          | false => rfl
          | true =>
            rw [hi] at hnone
            cases hnone
      · rintro (hnone | ⟨hbufs, hrefused⟩ | ⟨hbufs, hfirst, hi⟩ | ⟨hbufs, hqueued, -, -⟩)
        · cases hget.symm.trans hnone
        · cases hget.symm.trans hbufs
          cases hreq.symm.trans hrefused
        · cases hget.symm.trans hbufs
          unfold queued
          rw [hfirst, takeWhile_cons, hi]
          rfl
        · cases hget.symm.trans hbufs
          cases hall.symm.trans hqueued
    | true =>
      -- it cannot be turned on: its buffers are freed, or stay
      have hoff : env.turnsOn flags = false := by
        rw [hreq, hall] at h
        exact h
      simp only [hoff, Bool.true_eq_false, if_false, Bool.false_and, Bool.or_false]
      cases hfree : env.freeBufs with
      | true => exact iff_of_true rfl (.start hget hall hoff (.inr hfree))
      | false =>
        simp only [Bool.false_eq_true, if_false, queued_eq hall, Prod.mk.injEq, and_true]
        constructor
        · intro hnone
          exact .start hget hall hoff (.inl hnone)
        · rintro (hnone | ⟨hbufs, hrefused⟩ | ⟨hbufs, hfirst, hi⟩ | ⟨hbufs, -, -, hfreed⟩)
          · cases hget.symm.trans hnone
          · cases hget.symm.trans hbufs
            cases hreq.symm.trans hrefused
          · cases hget.symm.trans hbufs
            rw [hfirst, all_cons, hi] at hall
            cases hall
          · cases hget.symm.trans hbufs
            exact hfreed.resolve_right fun hf => Bool.false_ne_true (hfree.symm.trans hf)

theorem left_of_comesUp (h : env.comesUp = true) : env.left = ([], false) ↔ env.StopsClean := by
  unfold comesUp at h
  unfold left StopsClean
  rcases hget : env.getBufs with _ | flags
  · rw [hget] at h
    cases h
  simp only [hget, Bool.and_eq_true] at h
  obtain ⟨⟨hreq, hall⟩, hon⟩ := h
  simp only [hreq, hall, hon, Bool.true_eq_false, if_false, Bool.true_and, Option.elim_some,
    queued_eq hall]
  cases env.freeBufs <;> cases env.streamOff <;> simp

end StreamEnv

end

/-- A zeroed `mm_camera_channel_attr_t`. -/
def Attr.zero : Attr := ⟨.burst, 0, 0, 0, 0, false, .normal, 0⟩

/-- A zeroed `mm_channel_queue_t`. -/
def Queue.zero : Queue := ⟨[], 0, [], .zero, 0, 0, 0, 0, 0, 0, false, 0, 0⟩

/-- What `mm_channel_start` sets in the superbuf queue, for the bundled streams. -/
def Queue.started (q : Queue) (bundledStreams : List StreamId) : Queue :=
  { q with
    que := []
    size := 0
    bundledStreams := bundledStreams
    expectedFrameId := q.attr.userExpectedFrameId
    expectedFrameIdWithoutLed := 0
    ledOffStartFrameId := 0
    ledOnStartFrameId := 0
    ledOnNumFrames := 0
    goodFrameId := 0 }

/-- `mm_channel_t` as it is started and stopped: its table of streams, whether it has a callback for
superbufs, `bundle.superbuf_queue` and `bundle.is_active`; and the table of the channels that are
synced. -/
structure ChannelObj where
  chId : ChannelId
  streams : ℕ → Stream
  superBufNotifyCb : Bool
  queue : Queue
  isActive : Bool := false
  fs : FrameSync

namespace ChannelObj

def getStreamByHandler (s : ChannelObj) (handler : StreamId) : Option ℕ :=
  (List.range maxStreamNumInBundle).find? fun i =>
    (s.streams i).state ≠ .notUsed && handler == (s.streams i).myHdl

/-- `s_objs`, as it is collected from the table. -/
def collect (s : ChannelObj) : List ℕ :=
  (List.range maxStreamNumInBundle).filterMap fun i =>
    if 0 < (s.streams i).myHdl then s.getStreamByHandler (s.streams i).myHdl else none

/-- `meta_stream_idx`: the last metadata stream of the channel, or 0. -/
def metaStreamIdx (s : ChannelObj) (objs : List ℕ) : ℕ :=
  let isMeta := fun k => (s.streams k).streamType = .metadata ∧ (s.streams k).owned = true
  ((objs.zipIdx.filter fun p => isMeta p.1).getLast?.map Prod.snd).getD 0

/-- `s_objs`, in the order in which the streams are started: the metadata stream changes places with
the first. -/
def startOrder (s : ChannelObj) : List ℕ :=
  (s.collect.toArray.swapIfInBounds 0 (s.metaStreamIdx s.collect)).toList

/-- The bundle is set up, if there is a callback for superbufs. -/
def initBundle (s : ChannelObj) (objs : List ℕ) : ChannelObj :=
  if s.superBufNotifyCb then
    let bundled := objs.filter fun k => !(s.streams k).noFrameExpected
    { s with
      queue := s.queue.started (bundled.map fun k => (s.streams k).myHdl)
      isActive := true }
  else s

/-- The error handling of `mm_channel_start`: the entries of linked streams are zeroed, the streams
that have been reached are stopped, and the superbuf queue is zeroed. -/
def undo (s : ChannelObj) (env : ℕ → StreamEnv) (objs visited : List ℕ) : ChannelObj :=
  let s := { s with streams := fun k =>
    if k ∈ objs ∧ (s.streams k).owned = false then {} else s.streams k }
  let s := { s with streams := takeDown (fun k => Stream.stopOne (env k)) visited s.streams }
  if s.isActive then { s with isActive := false, queue := .zero } else s

def registerSync (s : ChannelObj) : ChannelObj :=
  if s.queue.attr.enableFrameSync then { s with fs := frameSyncRegisterChannel s.chId s.fs } else s

/-- `mm_channel_start`: the return code, and what it leaves. -/
def start (s : ChannelObj) (env : ℕ → StreamEnv) : ℤ × ChannelObj :=
  let objs := s.startOrder
  let s := s.initBundle objs
  let (rc, visited, streams) :=
    bringUp (fun k => Stream.startOne (env k)) (fun rc : ℤ => rc ≠ 0) objs s.streams
  let s := { s with streams := streams }
  let s := if rc.isSome then s.undo env objs visited else s
  (rc.getD 0, s.registerSync)

def Owns (s : ChannelObj) (k : ℕ) : Prop :=
  k < maxStreamNumInBundle ∧ (s.streams k).state ≠ .notUsed ∧ (s.streams k).owned = true

/-- The handles in the table differ, where they are not zero. -/
def DistinctHandles (s : ChannelObj) : Prop :=
  ∀ i < maxStreamNumInBundle, ∀ j < maxStreamNumInBundle,
    (s.streams i).myHdl = (s.streams j).myHdl → 0 < (s.streams i).myHdl → i = j

/-- **A channel that has not been started**: the handles in its table differ, its own streams are
configured, it is not synced, and its bundle is not active. -/
structure Idle (s : ChannelObj) : Prop where
  handles : s.DistinctHandles
  named : ∀ k, s.Owns k → 0 < (s.streams k).myHdl
  configured : ∀ k, s.Owns k → (s.streams k).Configured
  sync : ∀ j, s.fs.chObj j ≠ some s.chId
  inactive : s.isActive = false

/-! ## The order of the streams -/

section

variable {s u : ChannelObj} {env : ℕ → StreamEnv} {k : ℕ}

theorem getStreamByHandler_eq (handles : s.DistinctHandles)
    (hk : k < maxStreamNumInBundle) (hpos : 0 < (s.streams k).myHdl) :
    s.getStreamByHandler (s.streams k).myHdl =
      if (s.streams k).state ≠ .notUsed then some k else none := by
  unfold getStreamByHandler
  split_ifs with huse
  · -- the entry itself is found, since no other has its handle
    rcases hfind : (range maxStreamNumInBundle).find? _ with _ | j
    · have hnone := find?_eq_none.mp hfind k (mem_range.mpr hk)
      simp [huse] at hnone
    · have hj := find?_some hfind
      simp only [Bool.and_eq_true, decide_eq_true_eq, beq_iff_eq] at hj
      rw [handles k hk j (mem_range.mp (mem_of_find?_eq_some hfind)) hj.2 hpos]
  · refine find?_eq_none.mpr fun j hj hfound => huse ?_
    simp only [Bool.and_eq_true, decide_eq_true_eq, beq_iff_eq] at hfound
    rw [handles k hk j (mem_range.mp hj) hfound.2 hpos]
    exact hfound.1

theorem collect_eq (handles : s.DistinctHandles) :
    s.collect = (List.range maxStreamNumInBundle).filter fun k =>
      decide (0 < (s.streams k).myHdl ∧ (s.streams k).state ≠ .notUsed) := by
  unfold collect
  rw [← filterMap_eq_filter]
  refine filterMap_congr fun k hk => ?_
  unfold Option.guard
  by_cases hpos : 0 < (s.streams k).myHdl
  · rw [if_pos hpos, getStreamByHandler_eq handles (mem_range.mp hk) hpos]
    simp [hpos]
  · simp [hpos]

theorem startOrder_perm (s : ChannelObj) : s.startOrder.Perm s.collect := by
  unfold startOrder Array.swapIfInBounds
  split_ifs with h₁ h₂
  · exact Array.perm_iff_toList_perm.mp (Array.swap_perm h₁ h₂)
  · exact .refl _
  · exact .refl _

theorem mem_startOrder (handles : s.DistinctHandles) :
    k ∈ s.startOrder ↔
      k < maxStreamNumInBundle ∧ 0 < (s.streams k).myHdl ∧ (s.streams k).state ≠ .notUsed := by
  rw [s.startOrder_perm.mem_iff, collect_eq handles, mem_filter, mem_range, decide_eq_true_iff]

theorem startOrder_nodup (handles : s.DistinctHandles) :
    s.startOrder.Nodup := by
  rw [s.startOrder_perm.nodup_iff, collect_eq handles]
  exact nodup_range.filter _

def stalls (s : ChannelObj) (env : ℕ → StreamEnv) (k : ℕ) : Bool :=
  (s.streams k).owned && !(env k).comesUp

@[simp] theorem initBundle_streams (objs : List ℕ) : (s.initBundle objs).streams = s.streams := by
  unfold initBundle
  split <;> rfl

theorem Idle.owns (hs : s.Idle) (hk : k ∈ s.startOrder) (howned : (s.streams k).owned = true) :
    s.Owns k :=
  have h := (mem_startOrder hs.handles).mp hk
  ⟨h.1, h.2.2, howned⟩

theorem Idle.fails_eq (hs : s.Idle) (env : ℕ → StreamEnv) (hk : k ∈ s.startOrder) :
    fails (fun k => Stream.startOne (env k)) (fun rc : ℤ => rc ≠ 0) s.streams k =
      s.stalls env k := by
  unfold fails stalls
  cases howned : (s.streams k).owned with
  | false => simp [Stream.startOne, howned]
  | true =>
    have hup := ((hs.configured k (hs.owns hk howned)).stopOne_startOne howned (env k)).1
    rw [Bool.true_and]
    cases hc : (env k).comesUp <;> simp [hc, hup]

/-- **What a start that fails leaves**: the entries of linked streams are zeroed, and of each stream
that has been reached there is left what the kernel and the poll thread have of it. -/
theorem Idle.start_fails (hs : s.Idle) (h : (s.start env).1 ≠ 0) :
    (s.startOrder.find? (s.stalls env)).isSome ∧
      (s.start env).2 = ({ s with
        streams := fun k =>
          if k ∈ s.startOrder ∧ (s.streams k).owned = false then {}
          else if k ∈ reached (s.stalls env) s.startOrder then
            { s.streams k with inKernel := (env k).left.1, polled := (env k).left.2 }
          else s.streams k
        queue := if s.superBufNotifyCb then .zero else s.queue } : ChannelObj).registerSync := by
  have hfind : s.startOrder.find? (fails (fun k => Stream.startOne (env k))
      (fun rc : ℤ => rc ≠ 0) s.streams) = s.startOrder.find? (s.stalls env) :=
    find?_congr fun k hk => hs.fails_eq env hk
  have hreached : reached (fails (fun k => Stream.startOne (env k))
      (fun rc : ℤ => rc ≠ 0) s.streams) s.startOrder = reached (s.stalls env) s.startOrder :=
    reached_congr fun k hk => hs.fails_eq env hk
  unfold start at h ⊢
  dsimp only at h ⊢
  rw [initBundle_streams, bringUp_eq (startOrder_nodup hs.handles), hfind, hreached] at h ⊢
  dsimp only at h ⊢
  rcases hstall : s.startOrder.find? (s.stalls env) with _ | k
  · rw [hstall] at h
    exact absurd rfl h
  refine ⟨rfl, ?_⟩
  simp only [Option.map_some, Option.isSome_some, if_true]
  refine congrArg registerSync ?_
  -- the streams, one by one
  have hstreams : takeDown (fun k => Stream.stopOne (env k))
      (reached (s.stalls env) s.startOrder) (fun k =>
        if k ∈ s.startOrder ∧ (if k ∈ reached (s.stalls env) s.startOrder then
          ((s.streams k).startOne (env k)).2 else s.streams k).owned = false then {}
        else if k ∈ reached (s.stalls env) s.startOrder then ((s.streams k).startOne (env k)).2
        else s.streams k) = fun k =>
      if k ∈ s.startOrder ∧ (s.streams k).owned = false then {}
      else if k ∈ reached (s.stalls env) s.startOrder then
        { s.streams k with inKernel := (env k).left.1, polled := (env k).left.2 }
      else s.streams k := by
    rw [takeDown_eq (reached_nodup (startOrder_nodup hs.handles))]
    funext k
    dsimp only
    by_cases hmem : k ∈ reached (s.stalls env) s.startOrder
    · have hk := mem_of_mem_reached hmem
      simp only [if_pos hmem, hk, true_and]
      by_cases howned : (s.streams k).owned = false
      · have hsame : (s.streams k).startOne (env k) = (0, s.streams k) := if_pos howned
        rw [hsame, if_pos howned, if_pos howned]
        rfl
      · have hown : (s.streams k).owned = true := Bool.eq_true_of_not_eq_false howned
        have hconf := hs.configured k (hs.owns hk hown)
        rw [hconf.startOne_owned hown, if_neg howned, if_neg (by decide)]
        exact (hconf.stopOne_startOne hown (env k)).2
    · simp only [if_neg hmem]
  unfold undo
  dsimp only
  rw [hstreams]
  unfold initBundle
  by_cases hcb : s.superBufNotifyCb = true
  · simp only [if_pos hcb, if_true, hs.inactive]
  · simp only [if_neg hcb, hs.inactive, Bool.false_eq_true, if_false]

/-! ## Other starts -/

@[simp] theorem registerSync_streams (s : ChannelObj) : s.registerSync.streams = s.streams := by
  unfold registerSync
  split <;> rfl

@[simp] theorem registerSync_queue (s : ChannelObj) : s.registerSync.queue = s.queue := by
  unfold registerSync
  split <;> rfl

theorem start_other (handles : s.DistinctHandles) (env : ℕ → StreamEnv) (hk : k ∉ s.startOrder) :
    (s.start env).2.streams k = s.streams k := by
  have hreached : ∀ {p : ℕ → Bool}, k ∉ reached p s.startOrder := fun h =>
    hk (mem_of_mem_reached h)
  unfold start
  dsimp only
  rw [initBundle_streams, bringUp_eq (startOrder_nodup handles), registerSync_streams]
  dsimp only
  split_ifs with hrc
  · unfold undo
    dsimp only
    rw [takeDown_eq (reached_nodup (startOrder_nodup handles))]
    split_ifs with hactive
    · simp only [if_neg hreached, hk, false_and, if_false]
    · simp only [if_neg hreached, hk, false_and, if_false]
  · exact if_neg hreached

theorem start_queue (s : ChannelObj) (env : ℕ → StreamEnv) : (s.start env).2.queue = s.queue ∨
    (∃ l, (s.start env).2.queue = s.queue.started l) ∨ (s.start env).2.queue = .zero := by
  have hinit : (s.initBundle s.startOrder).queue = s.queue ∨
      ∃ l, (s.initBundle s.startOrder).queue = s.queue.started l := by
    unfold initBundle
    split
    · exact .inr ⟨_, rfl⟩
    · exact .inl rfl
  unfold start
  dsimp only
  rw [registerSync_queue]
  split_ifs with hrc
  · unfold undo
    dsimp only
    split_ifs with hactive
    · exact .inr (.inr rfl)
    · exact hinit.imp_right .inl
  · exact hinit.imp_right .inl

theorem Idle.start_ok (hs : s.Idle) :
    (∀ k, (s.streams k).owned = false → (s.start fun _ => {}).2.streams k = s.streams k) ∧
      ((s.start fun _ => {}).2.queue = s.queue ∨
        ∃ l, (s.start fun _ => {}).2.queue = s.queue.started l) := by
  have hnone : s.startOrder.find? (fails (fun _ => Stream.startOne {})
      (fun rc : ℤ => rc ≠ 0) s.streams) = none := by
    rw [find?_congr fun k hk => hs.fails_eq (fun _ => {}) hk]
    refine find?_eq_none.mpr fun k _ => ?_
    unfold stalls
    rw [show ({} : StreamEnv).comesUp = true by decide, Bool.not_true, Bool.and_false]
    exact Bool.false_ne_true
  unfold start
  dsimp only
  rw [initBundle_streams, bringUp_eq (startOrder_nodup hs.handles), hnone]
  dsimp only [Option.map_none, Option.isSome_none]
  rw [if_neg Bool.false_ne_true, registerSync_streams, registerSync_queue]
  refine ⟨fun k howned => ?_, ?_⟩
  · dsimp only
    rw [show (s.streams k).startOne {} = (0, s.streams k) from if_pos howned]
    exact ite_self _
  · unfold initBundle
    split
    · exact .inr ⟨_, rfl⟩
    · exact .inl rfl

end

/-! ## What a start that fails leaves behind -/

/-- **A start that failed has left nothing behind**: each stream of the channel is configured again,
with no buffer in the kernel, and not polled; the channel is not synced; the attributes of the
superbuf queue are those it had; and whatever a retried start meets, it does what the start would
have done that met the same. -/
structure NoResidue (s t : ChannelObj) : Prop where
  streams : ∀ k, s.Owns k → (t.streams k).state = .cfg ∧ (t.streams k).inKernel = [] ∧
    (t.streams k).polled = false
  sync : ∀ j, t.fs.chObj j ≠ some s.chId
  attr : t.queue.attr = s.queue.attr
  retry : ∀ env, t.start env = s.start env

/-- What `mm_channel_start` leaves of the superbuf queue is zero. -/
structure Blank (q : Queue) : Prop where
  attr : q.attr = .zero
  matchCnt : q.matchCnt = 0
  once : q.once = false
  frameSkipCount : q.frameSkipCount = 0

theorem Blank.started {q : Queue} (h : Blank q) (l : List StreamId) :
    q.started l = Queue.zero.started l := by
  unfold Queue.started
  rw [h.attr, h.matchCnt, h.once, h.frameSkipCount]
  rfl

def HasRoom (fs : FrameSync) : Prop :=
  fs.numCam = 0 ∨ fs.numCam < maxNumCameraPerBundle ∧ ∃ j, fs.chObj j = none

theorem register_of_hasRoom {fs : FrameSync} (h : HasRoom fs) (c : ChannelId) :
    ∃ j, (frameSyncRegisterChannel c fs).chObj j = some c := by
  have hlt : ¬maxNumCameraPerBundle ≤ fs.numCam := by
    rcases h with h | ⟨h, -⟩
    · rw [h]
      decide
    · exact not_le.mpr h
  unfold frameSyncRegisterChannel
  rw [if_neg hlt]
  dsimp only
  have hfree : ∃ j, (if fs.numCam = 0 then frameSyncReset else fs).chObj j = none := by
    split_ifs with hzero
    · exact ⟨0, rfl⟩
    · exact (h.resolve_left hzero).2
  generalize (if fs.numCam = 0 then frameSyncReset else fs) = r at hfree ⊢
  rcases hfind : (finRange maxNumCameraPerBundle).find? fun j => (r.chObj j).isNone with _ | j
  · obtain ⟨j, hj⟩ := hfree
    have hnone := find?_eq_none.mp hfind j (mem_finRange j)
    rw [hj] at hnone
    exact absurd rfl hnone
  · exact ⟨j, Function.update_self _ _ _⟩

theorem register_of_full {fs : FrameSync} (h : ¬HasRoom fs) (c : ChannelId) :
    frameSyncRegisterChannel c fs = fs := by
  unfold frameSyncRegisterChannel
  split_ifs with hle hzero
  · rfl
  · exact absurd (.inl hzero) h
  · have hnone : (finRange maxNumCameraPerBundle).find? (fun j => (fs.chObj j).isNone) = none := by
      refine find?_eq_none.mpr fun j _ hj => h (.inr ⟨not_le.mp hle, j, ?_⟩)
      exact Option.isNone_iff_eq_none.mp hj
    dsimp only
    rw [hnone]

/-- **The failures that leave nothing behind**: the stream that fails leaves nothing behind, and
neither do those before it once they are stopped; no stream is linked into the channel; without a
callback for superbufs it is not to be synced, or the table is full; and with one there is nothing
in its superbuf queue to lose. -/
structure CleanFailure (s : ChannelObj) (env : ℕ → StreamEnv) : Prop where
  failed : ∀ k, s.startOrder.find? (s.stalls env) = some k → (env k).FailsClean
  before : ∀ k ∈ s.startOrder.takeWhile fun k => !s.stalls env k, (env k).StopsClean
  links : ∀ k ∈ s.startOrder, (s.streams k).owned = true
  bundle : s.superBufNotifyCb = true → Blank s.queue
  sync : s.superBufNotifyCb = false → s.queue.attr.enableFrameSync = true → ¬HasRoom s.fs

section

variable {s : ChannelObj} {env : ℕ → StreamEnv}

theorem left_iff {k : ℕ} (howned : (s.streams k).owned = true) : (env k).left = ([], false) ↔
    (s.stalls env k = true → (env k).FailsClean) ∧
      (s.stalls env k = false → (env k).StopsClean) := by
  have hstalls : s.stalls env k = !(env k).comesUp := by
    unfold stalls
    rw [howned, Bool.true_and]
  rw [hstalls]
  cases hup : (env k).comesUp with
  | true => simp [StreamEnv.left_of_comesUp hup]
  | false => simp [StreamEnv.left_of_fails hup]

theorem CleanFailure.eq (hs : s.Idle) (h : (s.start env).1 ≠ 0) (hclean : s.CleanFailure env) :
    (s.start env).2 = { s with queue := if s.superBufNotifyCb then .zero else s.queue } := by
  rw [(hs.start_fails h).2]
  have hstreams : (fun k =>
      if k ∈ s.startOrder ∧ (s.streams k).owned = false then {}
      else if k ∈ reached (s.stalls env) s.startOrder then
        { s.streams k with inKernel := (env k).left.1, polled := (env k).left.2 }
      else s.streams k) = s.streams := by
    funext k
    split_ifs with hlink hreached
    · cases (hclean.links k hlink.1).symm.trans hlink.2
    · have hk := mem_of_mem_reached hreached
      have howned := hclean.links k hk
      have hleft : (env k).left = ([], false) := by
        refine (left_iff howned).mpr ⟨fun hstalls => ?_, fun hstalls => ?_⟩
        all_goals rw [reached_eq, mem_append, Option.mem_toList] at hreached
        · rcases hreached with hreached | hreached
          · have hnot := mem_takeWhile_imp hreached
            rw [hstalls] at hnot
            cases hnot
          · exact hclean.failed k hreached
        · rcases hreached with hreached | hreached
          · exact hclean.before k hreached
          · have hfound := find?_some hreached
            cases hstalls.symm.trans hfound
      have hconf := hs.configured k (hs.owns hk howned)
      rw [hleft, ← hconf.inKernel, ← hconf.polled]
    · rfl
  rw [hstreams]
  -- the channel is not synced
  unfold registerSync
  by_cases hcb : s.superBufNotifyCb = true
  · simp only [if_pos hcb]
    rfl
  · simp only [if_neg hcb]
    split_ifs with henable
    · rw [register_of_full (hclean.sync (Bool.eq_false_of_not_eq_true hcb) henable)]
    · rfl

theorem CleanFailure.noResidue (hs : s.Idle) (h : (s.start env).1 ≠ 0)
    (hclean : s.CleanFailure env) : s.NoResidue (s.start env).2 := by
  rw [hclean.eq hs h]
  refine ⟨fun k hk => ?_, hs.sync, ?_, fun env' => ?_⟩
  · have hconf := hs.configured k hk
    exact ⟨hconf.state, hconf.inKernel, hconf.polled⟩
  · dsimp only
    split_ifs with hcb
    · exact (hclean.bundle hcb).attr.symm
    · rfl
  · -- a retried start sets up the same queue
    unfold start
    have hinit : ∀ objs, initBundle { s with
        queue := if s.superBufNotifyCb then .zero else s.queue } objs = s.initBundle objs := by
      intro objs
      unfold initBundle
      dsimp only
      by_cases hcb : s.superBufNotifyCb = true
      · rw [if_pos hcb, if_pos hcb, if_pos hcb, (hclean.bundle hcb).started]
      · rw [if_neg hcb, if_neg hcb, if_neg hcb]
    have horder : startOrder { s with
        queue := if s.superBufNotifyCb then .zero else s.queue } = s.startOrder := rfl
    simp only [horder, hinit]

theorem Idle.start_fails_streams (hs : s.Idle) (h : (s.start env).1 ≠ 0) :
    (s.start env).2.streams = fun k =>
      if k ∈ s.startOrder ∧ (s.streams k).owned = false then {}
      else if k ∈ reached (s.stalls env) s.startOrder then
        { s.streams k with inKernel := (env k).left.1, polled := (env k).left.2 }
      else s.streams k := by
  rw [(hs.start_fails h).2, registerSync_streams]

theorem NoResidue.left (hs : s.Idle) (h : (s.start env).1 ≠ 0)
    (hnone : s.NoResidue (s.start env).2) {k : ℕ}
    (hk : k ∈ reached (s.stalls env) s.startOrder) (howned : (s.streams k).owned = true) :
    (env k).left = ([], false) := by
  obtain ⟨-, hkernel, hpolled⟩ := hnone.streams k (hs.owns (mem_of_mem_reached hk) howned)
  rw [hs.start_fails_streams h] at hkernel hpolled
  simp only [howned, Bool.true_eq_false, and_false, if_false, if_pos hk] at hkernel hpolled
  exact Prod.ext hkernel hpolled

theorem Idle.start_fails_handles (hs : s.Idle) (h : (s.start env).1 ≠ 0) :
    (s.start env).2.DistinctHandles := by
  have hhdl : ∀ i, ((s.start env).2.streams i).myHdl =
      if i ∈ s.startOrder ∧ (s.streams i).owned = false then 0 else (s.streams i).myHdl := by
    intro i
    rw [hs.start_fails_streams h]
    dsimp only
    split_ifs <;> rfl
  intro i hi j hj heq hpos
  rw [hhdl] at hpos
  rw [hhdl, hhdl] at heq
  split_ifs at heq hpos with h₁ h₂
  · exact absurd hpos (lt_irrefl 0)
  · exact absurd hpos (lt_irrefl 0)
  · exact absurd heq (Nat.ne_of_gt hpos)
  · exact hs.handles i hi j hj heq hpos

theorem NoResidue.links (hs : s.Idle) (h : (s.start env).1 ≠ 0)
    (hnone : s.NoResidue (s.start env).2) {k : ℕ} (hk : k ∈ s.startOrder) :
    (s.streams k).owned = true := by
  by_contra howned
  have hlinked := Bool.eq_false_of_not_eq_true howned
  have hzero : (s.start env).2.streams k = {} := by
    rw [hs.start_fails_streams h]
    exact if_pos ⟨hk, hlinked⟩
  have hdistinct := hs.start_fails_handles h
  have hout : k ∉ (s.start env).2.startOrder := by
    intro hin
    have hpos := ((mem_startOrder hdistinct).mp hin).2.1
    rw [hzero] at hpos
    exact absurd hpos (lt_irrefl 0)
  -- the entry is still zeroed after it, and would be in use after the start it stands for
  have hretry := start_other hdistinct (fun _ => {}) hout
  rw [hnone.retry, hs.start_ok.1 k hlinked, hzero] at hretry
  exact ((mem_startOrder hs.handles).mp hk).2.2 (by rw [hretry])

theorem NoResidue.queue (hs : s.Idle) {t : ChannelObj} (hnone : s.NoResidue t)
    (hzero : t.queue = .zero) {α : Type} (f : Queue → α)
    (hf : ∀ q l, f (q.started l) = f q) : f s.queue = f .zero := by
  have hfirst : f (s.start fun _ => {}).2.queue = f s.queue := by
    rcases hs.start_ok.2 with h | ⟨l, h⟩
    · rw [h]
    · rw [h, hf]
  have hretried : f (t.start fun _ => {}).2.queue = f .zero := by
    rcases start_queue t fun _ => {} with h | ⟨l, h⟩ | h
    · rw [h, hzero]
    · rw [h, hzero, hf]
    · rw [h]
  rw [← hfirst, ← hnone.retry, hretried]

theorem NoResidue.cleanFailure (hs : s.Idle) (h : (s.start env).1 ≠ 0)
    (hnone : s.NoResidue (s.start env).2) : s.CleanFailure env := by
  have ht := (hs.start_fails h).2
  refine ⟨fun k hk => ?_, fun k hk => ?_, fun k hk => hnone.links hs h hk, fun hcb => ?_,
    fun hcb henable hroom => ?_⟩
  · have hmem : k ∈ reached (s.stalls env) s.startOrder := by
      rw [reached_eq, mem_append, Option.mem_toList]
      exact .inr hk
    have howned := hnone.links hs h (mem_of_mem_reached hmem)
    exact ((left_iff howned).mp (hnone.left hs h hmem howned)).1 (find?_some hk)
  · have hmem : k ∈ reached (s.stalls env) s.startOrder := by
      rw [reached_eq, mem_append]
      exact .inl hk
    have howned := hnone.links hs h (mem_of_mem_reached hmem)
    have hnot : s.stalls env k = false := by simpa using mem_takeWhile_imp hk
    exact ((left_iff howned).mp (hnone.left hs h hmem howned)).2 hnot
  · have hzero : (s.start env).2.queue = .zero := by
      rw [ht, registerSync_queue]
      exact if_pos hcb
    have hattr := hnone.attr
    rw [hzero] at hattr
    exact ⟨hattr.symm, hnone.queue hs hzero Queue.matchCnt fun _ _ => rfl,
      hnone.queue hs hzero Queue.once fun _ _ => rfl,
      hnone.queue hs hzero Queue.frameSkipCount fun _ _ => rfl⟩
  · obtain ⟨j, hj⟩ := register_of_hasRoom hroom s.chId
    refine hnone.sync j ?_
    rw [ht]
    unfold registerSync
    rw [if_pos (by rw [hcb]; exact henable)]
    exact hj

/-- **A start that fails leaves nothing behind exactly at a clean failure.** -/
theorem start_noResidue_iff (idle : s.Idle) (failed : (s.start env).1 ≠ 0) :
    s.NoResidue (s.start env).2 ↔ s.CleanFailure env :=
  ⟨fun h => h.cleanFailure idle failed, fun h => h.noResidue idle failed⟩

end

/-! ## Buffers that stay in the kernel -/

/-- A channel with a preview stream, without a callback for superbufs. -/
def preview : ChannelObj where
  chId := 1
  streams k := if k = 0 then
    { state := .cfg, myHdl := 0x100, streamType := .preview, owned := true } else {}
  superBufNotifyCb := false
  queue := .zero
  fs := frameSyncReset

theorem preview_owns {k : ℕ} (h : preview.Owns k) : k = 0 := by
  by_contra hk
  exact h.2.1 (by simp [preview, hk])

theorem preview_idle : preview.Idle where
  handles := by
    unfold DistinctHandles
    decide
  named k h := by
    cases preview_owns h
    decide
  configured k h := by
    cases preview_owns h
    exact ⟨rfl, rfl, rfl, rfl⟩
  sync _ := nofun
  inactive := rfl

/-- Its buffers cannot be got: nothing is left behind. -/
theorem start_noResidue_getBufs :
    preview.NoResidue (preview.start fun _ => { getBufs := none }).2 :=
  (start_noResidue_iff preview_idle (by decide)).mpr
    { failed := fun _ _ => .getBufs rfl
      before := fun _ _ => .inl rfl
      links := by decide
      bundle := nofun
      sync := nofun }

/-- **Buffers stay in the kernel though the start has failed**: the second of two buffers cannot be
queued, the stream is still BUFFED, and the event that frees its buffers is ignored. -/
theorem start_residue :
    ¬∀ (s : ChannelObj) (env : ℕ → StreamEnv), s.Idle → (s.start env).1 ≠ 0 →
      s.NoResidue (s.start env).2 := by
  intro hall
  have h := hall preview (fun _ => { getBufs := some [true, true]
                                     qbuf := fun i => if i = 1 then .failed else .ok })
    preview_idle (by decide)
  exact absurd (h.streams 0 ⟨by decide, by decide, rfl⟩).2.1 (by decide)

end ChannelObj

end MmCamera
