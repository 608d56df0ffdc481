import MidoCamera.Stack.Types
import MidoCamera.Library.Run

/-!
# The user buffers of a stream in batch mode

In batch mode the kernel has containers, the user buffers, each of which lists the plane buffers it
is to fill. A plane buffer that is returned is staged in the current container, which is queued when
it is full; a container that is returned itself is queued with what it lists. One that is dequeued
gives its planes their frame numbers and time stamps, and is queued again at once if its time stamp
is not after that of the one before.

What the kernel has written is handed over with the frame, and so is whether `mm_stream_qbuf`
succeeds; the polling of the stream is left out.
-/

namespace MmCamera

open Loop List

/-! ## The stream -/

structure Timespec where
  tvSec : ℤ
  tvNsec : ℤ
  deriving DecidableEq, Repr

def Timespec.nsec (t : Timespec) : ℤ := t.tvSec * 1000000000 + t.tvNsec

def Timespec.ofNsec (x : ℤ) : Timespec :=
  ⟨x.tdiv 1000000000, x - x.tdiv 1000000000 * 1000000000⟩

@[simp] theorem Timespec.nsec_ofNsec (x : ℤ) : (Timespec.ofNsec x).nsec = x := by
  exact add_sub_cancel (x.tdiv 1000000000 * 1000000000) x

/-- `struct msm_camera_user_buf_cont_t`, which the kernel shares. -/
structure UserBufCont where
  bufCnt : ℕ
  bufIdx : ℕ → ℤ

def UserBufCont.listed (c : UserBufCont) : List ℤ := (List.range c.bufCnt).map c.bufIdx

theorem UserBufCont.length_listed (c : UserBufCont) : c.listed.length = c.bufCnt := by
  rw [listed, length_map, length_range]

theorem UserBufCont.head_listed {c : UserBufCont} (h : 0 < c.bufCnt) :
    c.listed.head? = some (c.bufIdx 0) := by
  rw [listed, head?_map, head?_range, if_neg h.ne']
  rfl

/-- A buffer of type USERPTR: its `buf_status`, its `user_buf`, and the container at `buffer`. -/
structure UserBuf where
  bufRefcnt : ℕ := 0
  inKernel : Bool := false
  bufsUsed : ℕ := 0
  bufInUse : Bool := false
  bufIdx : ℕ → ℤ := fun _ => -1
  cont : UserBufCont := ⟨0, fun _ => 0⟩
  frameIdx : ℕ := 0
  ts : Timespec := ⟨0, 0⟩
  isUvSubsampled : Bool := false

/-- A plane buffer, `plane_buf`. -/
structure PlaneBuf where
  frameIdx : ℕ := 0
  ts : Timespec := ⟨0, 0⟩
  isUvSubsampled : Bool := false
  deriving DecidableEq, Repr

/-- `mm_stream_t` of a stream in batch mode: `frameInterval` of its `user_buf_info`, the container
that is being filled with how many planes are in it, and the last frame that was read. The kernel
has the containers of `queued`, and the planes of `staged` have been staged since one was queued
that they filled. -/
structure UserBufStream where
  bufNum : ℕ
  frameInterval : ℤ
  bufs : ℕ → UserBuf
  planes : ℤ → PlaneBuf := fun _ => {}
  curBufIdx : ℤ := -1
  curBufsStaged : ℕ := 0
  prevFrameID : ℕ := 0
  prevTimestamp : ℤ := 0
  queued : List ℕ := []
  staged : List ℤ := []

/-- A buffer that is returned, by its `buf_type` and `buf_idx`. -/
inductive ReturnedBuf
  | userptr (bufIdx : ℕ)
  | plane (bufIdx : ℕ)
  deriving DecidableEq, Repr

/-- What `VIDIOC_DQBUF` gives, and the container as the kernel has left it. -/
structure BatchFrame where
  index : ℕ
  sequence : ℕ
  tvSec : ℤ
  tvUsec : ℤ
  isUvSubsampled : Bool
  cont : UserBufCont

namespace UserBufStream

def modify (s : UserBufStream) (i : ℕ) (f : UserBuf → UserBuf) : UserBufStream :=
  { s with bufs := Function.update s.bufs i (f (s.bufs i)) }

/-- The stream as it is registered: containers of `n` planes each, queued or free. -/
def registered (bufNum n : ℕ) (frameInterval : ℤ) (initialRegFlag : ℕ → Bool)
    (cont : ℕ → UserBufCont) : UserBufStream where
  bufNum := bufNum
  frameInterval := frameInterval
  bufs i :=
    { bufRefcnt := if initialRegFlag i then 0 else 1
      inKernel := initialRegFlag i
      bufsUsed := n % 2 ^ 8
      bufInUse := initialRegFlag i
      cont := cont i }
  queued := (List.range bufNum).filter initialRegFlag

/-- `mm_stream_qbuf`. -/
def qbuf (s : UserBufStream) (i : ℕ) (ok : Bool) : ℤ × UserBufStream :=
  if ok then (0, { s with queued := s.queued ++ [i] }) else (-1, s)

/-! ## Returning a buffer -/

/-- The container is told how many planes it has, and which. -/
def fill (s : UserBufStream) (i : ℕ) : UserBufStream :=
  s.modify i fun b => { b with
    cont :=
      { bufCnt := b.bufsUsed
        bufIdx := fun k => if k < b.bufsUsed then b.bufIdx k else b.cont.bufIdx k } }

/-- What `mm_stream_write_user_buf` does with a container that no one has a reference to, in either
of its two places. -/
def queueUserBuf (s : UserBufStream) (i : ℕ) (ok : Bool) : ℤ × UserBufStream :=
  let (rc, s) := (s.fill i).qbuf i ok
  if rc < 0 then (rc, s)
  else
    (rc, s.modify i fun b => { b with
      bufIdx := fun k => if k < b.cont.bufCnt then -1 else b.bufIdx k
      inKernel := true
      bufInUse := true })

/-- The container that planes are staged in: the one that is being filled, or else the first that
is free. -/
def container (s : UserBufStream) : Option ℕ :=
  if s.curBufIdx < 0 ∨ s.bufNum ≤ s.curBufIdx then
    (List.range s.bufNum).find? fun i => !(s.bufs i).inKernel && !(s.bufs i).bufInUse
  else some s.curBufIdx.toNat

/-- A plane is inserted in a container. The `count` that says where is 0. -/
def stage (s : UserBufStream) (index : ℕ) (bufIdx : ℕ) : UserBufStream :=
  let count := 0
  { s.modify index fun b => { b with bufIdx := Function.update b.bufIdx count bufIdx } with
    curBufIdx := index
    curBufsStaged := incU8 s.curBufsStaged
    staged := s.staged ++ [(bufIdx : ℤ)] }

def release (s : UserBufStream) (i : ℕ) : UserBufStream :=
  s.modify i fun b => { b with bufRefcnt := decU8 b.bufRefcnt }

def writeUserBuf (s : UserBufStream) (buf : ReturnedBuf) (ok : Bool) : ℤ × UserBufStream :=
  match buf with
  | .userptr i =>
    let s := s.release i
    if (s.bufs i).bufRefcnt = 0 then s.queueUserBuf i ok else (0, s)
  | .plane bufIdx =>
    match s.container with
    | none => (-1, s)
    | some index =>
      let s := s.stage index bufIdx
      if s.curBufsStaged = (s.bufs index).bufsUsed then
        let s := s.release index
        if (s.bufs index).bufRefcnt = 0 then
          let (rc, s) := s.queueUserBuf index ok
          (rc, if rc < 0 then s else { s with curBufsStaged := 0, curBufIdx := -1, staged := [] })
        else (0, s)
      else (0, s)

/-- `mm_stream_buf_done`, which looks at the count of the container that has the index of the
buffer. -/
def bufDone (s : UserBufStream) (buf : ReturnedBuf) (ok : Bool) : ℤ × UserBufStream :=
  let bufIdx := match buf with
    | .userptr i => i
    | .plane i => i
  if (s.bufs bufIdx).bufRefcnt = 0 then (-1, s) else s.writeUserBuf buf ok

/-! ## Reading a frame -/

/-- The frame number of the first plane of a container, by the number and the size of the
container. -/
def frameID (frameIdx bufCnt : ℕ) : ℕ :=
  if frameIdx = 1 then frameIdx else (frameIdx + (2 ^ 32 - 1)) % 2 ^ 32 * bufCnt % 2 ^ 32

/-- One turn of the loop of `mm_stream_read_user_buf`. -/
def stampPlane (i frameID : ℕ) (intervalNsec base : ℤ) (s : UserBufStream) (k : ℕ) :
    UserBufStream :=
  let bufIdx := (s.bufs i).cont.bufIdx k
  { s.modify i fun b => { b with bufIdx := Function.update b.bufIdx k bufIdx } with
    planes := Function.update s.planes bufIdx
      { frameIdx := (frameID + k) % 2 ^ 32
        ts := .ofNsec (k * intervalNsec + base)
        isUvSubsampled := (s.bufs i).isUvSubsampled } }

/-- `interval_nsec`, and what becomes of `prev_timestamp`: after the first container, or where one
is thought to be dropped, the planes are the frame interval apart and end at the time stamp of the
container; otherwise they share the time since the last. A negative `ts_delta` is divided as an
unsigned number. -/
def interval (s : UserBufStream) (b : UserBuf) : ℤ × ℤ :=
  let timeStamp := b.ts.nsec
  if s.prevTimestamp = 0 ∨ s.prevFrameID ≠ (b.frameIdx + 1) % 2 ^ 32 then
    let intervalNsec := s.frameInterval * 1000000
    (intervalNsec, timeStamp - b.cont.bufCnt * intervalNsec)
  else ((timeStamp - s.prevTimestamp) % 2 ^ 32 / b.cont.bufCnt, s.prevTimestamp)

def readUserBuf (s : UserBufStream) (i : ℕ) (ok : Bool) : ℤ × UserBufStream :=
  let b := s.bufs i
  let timeStamp := b.ts.nsec
  if timeStamp ≤ s.prevTimestamp then (0, (s.qbuf i ok).2)
  else
    let (intervalNsec, prevTimestamp) := s.interval b
    let t := (List.range b.cont.bufCnt).foldl
      (stampPlane i (frameID b.frameIdx b.cont.bufCnt) intervalNsec prevTimestamp) s
    (0, { t.modify i fun b => { b with
        ts := .ofNsec prevTimestamp
        bufsUsed := b.cont.bufCnt % 2 ^ 8
        bufInUse := true } with
      prevTimestamp := timeStamp
      prevFrameID := b.frameIdx })

/-- What `VIDIOC_DQBUF` leaves. -/
def dqbuf (s : UserBufStream) (vb : BatchFrame) : UserBufStream :=
  { s.modify vb.index fun b => { b with
      frameIdx := vb.sequence
      ts := ⟨vb.tvSec, vb.tvUsec * 1000⟩
      isUvSubsampled := vb.isUvSubsampled
      cont := vb.cont } with
    queued := s.queued.erase vb.index }

/-- `mm_stream_read_msm_frame`, which does not look at what `mm_stream_read_user_buf` returns.
`clean` is what `clean_invalidate_buf` returns, if there is one. -/
def readMsmFrame (s : UserBufStream) (vb : BatchFrame) (ok : Bool) (clean : Option Bool) :
    ℤ × UserBufStream :=
  let (_, s) := (s.dqbuf vb).readUserBuf vb.index ok
  match clean with
  | some false => (-1, s)
  | some true | none => (0, s)

/-- `mm_stream_data_notify` of an active stream: the container it delivers, which so many get a
reference to. -/
def dataNotify (s : UserBufStream) (vb : BatchFrame) (ok : Bool) (clean : Option Bool)
    (refs : ℕ) : Option ℕ × UserBufStream :=
  let (rc, s) := s.readMsmFrame vb ok clean
  if rc ≠ 0 then (none, s)
  else
    (some vb.index, s.modify vb.index fun b => { b with
      inKernel := false
      bufRefcnt := (b.bufRefcnt + refs) % 2 ^ 8 })

end UserBufStream

/-- A buffer is returned, a container is read, or someone who has a container fills it in itself. -/
inductive UserBufEvent
  | bufDone (buf : ReturnedBuf) (ok : Bool)
  | notify (vb : BatchFrame) (ok : Bool) (clean : Option Bool) (refs : ℕ)
  | fill (i bufsUsed : ℕ) (bufIdx : ℕ → ℤ)

/-- What a step does. -/
def UserBufEvent.exec (s : UserBufStream) : UserBufEvent → UserBufStream
  | .bufDone buf ok => (s.bufDone buf ok).2
  | .notify vb ok clean refs => (s.dataNotify vb ok clean refs).2
  | .fill i bufsUsed bufIdx => s.modify i fun b => { b with bufsUsed, bufIdx }

def UserBufStep (e : UserBufEvent) (s t : UserBufStream) : Prop := e.exec s = t

/-! ## What a container lists -/

/-- **A container of two planes lists one**: both were staged in its first place. -/
theorem writeUserBuf_lists_last :
    ¬∀ (n : ℕ) (es : List UserBufEvent) (s t : UserBufStream) (bufIdx index : ℕ), 0 < n →
      Run UserBufStep es (.registered 2 n 33 (fun _ => false) fun _ => ⟨n, fun _ => 0⟩) s →
        s.writeUserBuf (.plane bufIdx) true = (0, t) → t.queued = s.queued ++ [index] →
          (t.bufs index).cont.listed = s.staged ++ [(bufIdx : ℤ)] ∧
            (s.staged ++ [(bufIdx : ℤ)]).Nodup := by
  intro hall
  have hlisted := hall 2 [.bufDone (.plane 0) true] _ _ 1 0 (by decide) (.one rfl) rfl rfl
  exact absurd hlisted.1 (by decide)

namespace UserBufStream

variable {s t : UserBufStream} {i j : ℕ} {f : UserBuf → UserBuf}

@[simp] theorem modify_bufs_self (s : UserBufStream) (i : ℕ) (f : UserBuf → UserBuf) :
    (s.modify i f).bufs i = f (s.bufs i) := Function.update_self ..

/-- What a step leaves of the planes that are staged. -/
structure Keeps (s t : UserBufStream) : Prop where
  curBufsStaged : t.curBufsStaged = s.curBufsStaged
  staged : t.staged = s.staged

theorem Keeps.refl (s : UserBufStream) : s.Keeps s := ⟨Eq.refl _, Eq.refl _⟩

theorem Keeps.trans {u : UserBufStream} (h : s.Keeps t) (h' : t.Keeps u) : s.Keeps u :=
  ⟨h'.curBufsStaged.trans h.curBufsStaged, h'.staged.trans h.staged⟩

theorem keeps_qbuf (s : UserBufStream) (i : ℕ) (ok : Bool) : s.Keeps (s.qbuf i ok).2 := by
  cases ok <;> exact ⟨rfl, rfl⟩

theorem keeps_queueUserBuf (s : UserBufStream) (i : ℕ) (ok : Bool) :
    s.Keeps (s.queueUserBuf i ok).2 := by
  cases ok <;> exact ⟨rfl, rfl⟩

theorem cont_queueUserBuf (s : UserBufStream) (i : ℕ) :
    ((s.queueUserBuf i true).2.bufs i).cont =
      { bufCnt := (s.bufs i).bufsUsed
        bufIdx := fun k =>
          if k < (s.bufs i).bufsUsed then (s.bufs i).bufIdx k else (s.bufs i).cont.bufIdx k } := by
  simp [queueUserBuf, qbuf, fill]

theorem keeps_userptr (s : UserBufStream) (i : ℕ) (ok : Bool) :
    s.Keeps (s.writeUserBuf (.userptr i) ok).2 := by
  unfold writeUserBuf
  dsimp only
  split_ifs
  · exact (⟨rfl, rfl⟩ : s.Keeps (s.release i)).trans (keeps_queueUserBuf _ i ok)
  · exact ⟨rfl, rfl⟩

theorem keeps_stampPlanes (i frameID : ℕ) (intervalNsec base : ℤ) (ks : List ℕ)
    (s : UserBufStream) : s.Keeps (ks.foldl (stampPlane i frameID intervalNsec base) s) := by
  induction ks generalizing s with
  | nil => exact .refl s
  | cons k ks ih =>
    exact (⟨rfl, rfl⟩ : s.Keeps (stampPlane i frameID intervalNsec base s k)).trans (ih _)

theorem keeps_readUserBuf (s : UserBufStream) (i : ℕ) (ok : Bool) :
    s.Keeps (s.readUserBuf i ok).2 := by
  unfold readUserBuf
  dsimp only
  split_ifs
  · exact keeps_qbuf s i ok
  · exact (keeps_stampPlanes i _ _ _ _ s).trans ⟨rfl, rfl⟩

theorem keeps_dataNotify (s : UserBufStream) (vb : BatchFrame) (ok : Bool) (clean : Option Bool)
    (refs : ℕ) : s.Keeps (s.dataNotify vb ok clean refs).2 := by
  have hread : s.Keeps ((s.dqbuf vb).readUserBuf vb.index ok).2 :=
    (⟨rfl, rfl⟩ : s.Keeps (s.dqbuf vb)).trans (keeps_readUserBuf _ _ ok)
  unfold dataNotify readMsmFrame
  rcases clean with - | - | -
  · exact hread.trans ⟨rfl, rfl⟩
  · exact hread
  · exact hread.trans ⟨rfl, rfl⟩

/-- **What the return of a plane does**: there is no container to stage it in, or it is staged, or
it fills a container, which is queued with as many planes as were counted, this one first. -/
inductive PlaneReturned (s : UserBufStream) (bufIdx : ℕ) (t : UserBufStream) : Prop
  | none (queued : t.queued = s.queued) (keeps : s.Keeps t)
  | staged (queued : t.queued = s.queued) (count : t.curBufsStaged = incU8 s.curBufsStaged)
      (staged : t.staged = s.staged ++ [(bufIdx : ℤ)])
  | queued (index : ℕ) (queued : t.queued = s.queued ++ [index]) (count : t.curBufsStaged = 0)
      (staged : t.staged = []) (bufCnt : (t.bufs index).cont.bufCnt = incU8 s.curBufsStaged)
      (first : 0 < incU8 s.curBufsStaged → (t.bufs index).cont.bufIdx 0 = bufIdx)

theorem planeReturned (s : UserBufStream) (bufIdx : ℕ) (ok : Bool) :
    s.PlaneReturned bufIdx (s.writeUserBuf (.plane bufIdx) ok).2 := by
  unfold writeUserBuf
  dsimp only
  cases s.container with
  | none => exact .none rfl (.refl s)
  | some index =>
    dsimp only
    by_cases hfull : (s.stage index bufIdx).curBufsStaged =
        ((s.stage index bufIdx).bufs index).bufsUsed
    swap
    · rw [if_neg hfull]
      exact .staged rfl rfl rfl
    rw [if_pos hfull]
    by_cases hfree : (((s.stage index bufIdx).release index).bufs index).bufRefcnt = 0
    swap
    · rw [if_neg hfree]
      exact .staged rfl rfl rfl
    rw [if_pos hfree]
    cases ok with
    | false => exact .staged rfl rfl rfl
    | true =>
      -- the container is filled from `user_buf`, whose first place has this plane
      have hcont := cont_queueUserBuf ((s.stage index bufIdx).release index) index
      have hused : (((s.stage index bufIdx).release index).bufs index).bufsUsed =
          incU8 s.curBufsStaged := by
        rw [release, modify_bufs_self]
        exact hfull.symm
      rw [hused] at hcont
      refine .queued index rfl rfl rfl (congrArg UserBufCont.bufCnt hcont) fun hpos => ?_
      refine (congrFun (congrArg UserBufCont.bufIdx hcont) 0).trans ?_
      dsimp only
      rw [if_pos hpos, release, modify_bufs_self]
      simp [stage]

/-- The planes that are staged are counted modulo `2 ^ 8`. -/
def Counted (s : UserBufStream) : Prop := s.curBufsStaged = s.staged.length % 2 ^ 8

theorem Keeps.counted (h : s.Keeps t) (hs : s.Counted) : t.Counted := by
  unfold Counted
  rw [h.curBufsStaged, h.staged]
  exact hs

theorem PlaneReturned.counted {bufIdx : ℕ} (h : s.PlaneReturned bufIdx t) (hs : s.Counted) :
    t.Counted := by
  cases h with
  | none queued keeps => exact keeps.counted hs
  | staged queued count staged =>
    unfold Counted
    rw [count, staged, hs, length_append]
    exact Nat.mod_add_mod ..
  | queued index queued count staged =>
    unfold Counted
    rw [count, staged]
    rfl

end UserBufStream

open UserBufStream

theorem UserBufStep.counted {e : UserBufEvent} {s t : UserBufStream} (h : UserBufStep e s t)
    (hs : s.Counted) : t.Counted := by
  cases h
  cases e with
  | fill i bufsUsed bufIdx => exact hs
  | notify vb ok clean refs => exact (keeps_dataNotify s vb ok clean refs).counted hs
  | bufDone buf ok =>
    cases buf with
    | userptr i =>
      simp only [UserBufEvent.exec, bufDone]
      split_ifs
      · exact hs
      · exact (keeps_userptr s i ok).counted hs
    | plane i =>
      simp only [UserBufEvent.exec, bufDone]
      split_ifs
      · exact hs
      · exact (planeReturned s i ok).counted hs

/-- **A container that planes have filled lists them if and only if it was filled by one**: when the
return of a plane queues a container, in any run of a stream, the container lists exactly the planes
staged since the last such container, in order and each once, if and only if none was staged
before. -/
theorem writeUserBuf_lists_iff {bufNum n : ℕ} {frameInterval : ℤ} {initialRegFlag : ℕ → Bool}
    {cont : ℕ → UserBufCont} {es : List UserBufEvent} {s : UserBufStream}
    (run : Run UserBufStep es (.registered bufNum n frameInterval initialRegFlag cont) s)
    {bufIdx index : ℕ} {ok : Bool} {t : UserBufStream}
    (write : (s.writeUserBuf (.plane bufIdx) ok).2 = t) (queued : t.queued = s.queued ++ [index]) :
    ((t.bufs index).cont.listed = s.staged ++ [(bufIdx : ℤ)] ∧
      (s.staged ++ [(bufIdx : ℤ)]).Nodup) ↔ s.staged = [] := by
  have hcounted : s.Counted := run.invariant (fun _ _ _ hstep hs => hstep.counted hs) rfl
  have hreturned := planeReturned s bufIdx ok
  rw [write] at hreturned
  cases hreturned with
  | none hq | staged hq => exact absurd (hq.symm.trans queued) (by simp)
  | queued index' hq count staged bufCnt first =>
    obtain rfl : index' = index := by simpa [hq] using queued
    constructor
    · rintro ⟨hlisted, hnodup⟩
      by_contra hne
      obtain ⟨p, ps, hstaged⟩ := exists_cons_of_ne_nil hne
      -- the first place of the container has the last plane that was staged
      have hp : p = bufIdx := by
        have hpos : 0 < (t.bufs index').cont.bufCnt := by
          rw [← UserBufCont.length_listed, hlisted, length_append]
          exact Nat.succ_pos _
        have hhead := UserBufCont.head_listed hpos
        rw [hlisted, hstaged, first (bufCnt ▸ hpos)] at hhead
        exact Option.some.inj hhead
      rw [hstaged, hp] at hnodup
      simp at hnodup
    · intro hempty
      have hone : incU8 s.curBufsStaged = 1 := by
        rw [hcounted, hempty]
        rfl
      rw [hempty]
      refine ⟨?_, nodup_singleton _⟩
      rw [UserBufCont.listed, bufCnt, hone]
      simp [first (by rw [hone]; exact Nat.one_pos)]

/-- A stream of one plane a container. -/
theorem writeUserBuf_lists_one : ∃ t : UserBufStream,
    t.queued = [0] ∧ (((t.bufs 0).cont.listed = [] ++ [((1 : ℕ) : ℤ)] ∧
      ([] ++ [((1 : ℕ) : ℤ)]).Nodup) ↔ ([] : List ℤ) = []) :=
  ⟨_, rfl, @writeUserBuf_lists_iff 2 1 33 (fun _ => false) (fun _ => ⟨1, fun _ => 0⟩) [] _ (.nil _)
    1 0 true _ rfl rfl⟩

def BatchFrame.timeStamp (vb : BatchFrame) : ℤ := vb.tvSec * 1000000000 + vb.tvUsec * 1000

/-- **A stale container is queued and delivered**: what `mm_stream_read_user_buf` does with it is
not told to its callers, who deliver it. -/
theorem dataNotify_stale :
    ¬∀ (s : UserBufStream) (vb : BatchFrame) (ok : Bool) (clean : Option Bool) (refs : ℕ),
      (s.dataNotify vb ok clean refs).2.queued = s.queued.erase vb.index ++ [vb.index] ↔
        (s.dataNotify vb ok clean refs).1 ≠ some vb.index := by
  intro hall
  -- the second of two containers has the time stamp of the first
  have honce := hall ((registered 2 2 33 (fun _ => true) fun _ => ⟨2, fun k => k⟩).dataNotify
    ⟨0, 1, 7, 0, false, ⟨2, fun k => k⟩⟩ true none 1).2
    ⟨1, 2, 7, 0, false, ⟨2, fun k => k + 2⟩⟩ true none 1
  exact absurd honce (by decide)

namespace UserBufStream

theorem queued_stampPlanes (i frameID : ℕ) (intervalNsec base : ℤ) (ks : List ℕ)
    (s : UserBufStream) :
    (ks.foldl (stampPlane i frameID intervalNsec base) s).queued = s.queued := by
  induction ks generalizing s with
  | nil => rfl
  | cons k ks ih => exact ih _

theorem queued_readMsmFrame (s : UserBufStream) (vb : BatchFrame) (ok : Bool)
    (clean : Option Bool) :
    (s.readMsmFrame vb ok clean).2.queued = s.queued.erase vb.index ++
      if vb.timeStamp ≤ s.prevTimestamp ∧ ok = true then [vb.index] else [] := by
  have hread : ((s.dqbuf vb).readUserBuf vb.index ok).2.queued = s.queued.erase vb.index ++
      if vb.timeStamp ≤ s.prevTimestamp ∧ ok = true then [vb.index] else [] := by
    have hts : ((s.dqbuf vb).bufs vb.index).ts.nsec = vb.timeStamp := by
      simp [dqbuf, Timespec.nsec, BatchFrame.timeStamp]
    unfold readUserBuf
    dsimp only
    rw [hts]
    by_cases hstale : vb.timeStamp ≤ s.prevTimestamp
    · rw [if_pos (show vb.timeStamp ≤ (s.dqbuf vb).prevTimestamp from hstale)]
      cases ok
      · simp [qbuf, dqbuf]
      · simp [qbuf, dqbuf, hstale]
    · rw [if_neg (show ¬vb.timeStamp ≤ (s.dqbuf vb).prevTimestamp from hstale)]
      rw [if_neg fun h => hstale h.1, append_nil]
      exact queued_stampPlanes _ _ _ _ _ _
  unfold readMsmFrame
  rcases clean with - | - | -
  · exact hread
  · exact hread
  · exact hread

end UserBufStream

/-- **A container is queued again or delivered, and not both, if and only if** it is stale and
queued where its cache cannot be cleaned, and not where it can. -/
theorem dataNotify_once_iff (s : UserBufStream) (vb : BatchFrame) (ok : Bool)
    (clean : Option Bool) (refs : ℕ) :
    ((s.dataNotify vb ok clean refs).2.queued = s.queued.erase vb.index ++ [vb.index] ↔
        (s.dataNotify vb ok clean refs).1 ≠ some vb.index) ↔
      ((vb.timeStamp ≤ s.prevTimestamp ∧ ok = true) ↔ clean = some false) := by
  have hqueued : (s.dataNotify vb ok clean refs).2.queued = s.queued.erase vb.index ++
      if vb.timeStamp ≤ s.prevTimestamp ∧ ok = true then [vb.index] else [] := by
    rw [← queued_readMsmFrame s vb ok clean]
    rcases clean with - | - | - <;> rfl
  have hdelivered : (s.dataNotify vb ok clean refs).1 ≠ some vb.index ↔ clean = some false := by
    rcases clean with - | - | - <;> simp [dataNotify, readMsmFrame]
  rw [hqueued, hdelivered, append_right_inj]
  by_cases hstale : vb.timeStamp ≤ s.prevTimestamp ∧ ok = true
  · simp [hstale]
  · simp [hstale]

end MmCamera
