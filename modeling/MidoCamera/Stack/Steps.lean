import MidoCamera.Library.Run
import MidoCamera.Stack.Channel

/-!
# The handler as a run of queue steps

Whatever a handler does to a superbuf queue is a run of a few steps, each made under the locks
the code takes for it: a buffer arrives and is returned or enqueued, a node is dequeued and its
buffers returned, a node is dequeued and sent, the synced channels dequeue a frame together.

A run may restrict the enqueues: `P k slot b` is demanded of the queue, the slot and the buffer
whenever a buffer reaches the locked part of `mm_channel_superbuf_comp_and_enqueue`.
-/

namespace MmCamera

open Loop List

variable {env : Env} {mode : NotifyMode}

/-- What the invariants of a queue speak of: the nodes and their counters, the attributes that
never change, and the records of what has left the channel. -/
structure Core where
  que : List Node
  size : ℕ
  matchCnt : ℕ
  bundledStreams : List StreamId
  maxUnmatchedFrames : ℕ
  enableFrameSync : Bool
  priority : Priority
  qbufs : List BufDef
  cbQueue : List SuperBuf
  sent : List Node

/-- The core of a channel. -/
def Channel.core (ch : Channel) : Core :=
  { que := ch.queue.que
    size := ch.queue.size
    matchCnt := ch.queue.matchCnt
    bundledStreams := ch.queue.bundledStreams
    maxUnmatchedFrames := ch.queue.attr.maxUnmatchedFrames
    enableFrameSync := ch.queue.attr.enableFrameSync
    priority := ch.queue.attr.priority
    qbufs := ch.qbufs
    cbQueue := ch.cbQueue
    sent := ch.sent }

/-- What a step does for the ledger of its channel: a buffer arrives, buffers may be dropped with
a node (by a flush of one stream type), or neither. -/
inductive Event
  | quiet
  | arrive (b : BufInfo)
  | lossy
  deriving DecidableEq

def arrivals (es : List Event) : List BufInfo :=
  es.filterMap fun
    | .arrive b => some b
    | _ => none

@[simp] theorem arrivals_nil : arrivals [] = [] := rfl

@[simp] theorem arrivals_append (es fs : List Event) :
    arrivals (es ++ fs) = arrivals es ++ arrivals fs := filterMap_append

@[simp] theorem arrivals_arrive (b : BufInfo) : arrivals [.arrive b] = [b] := rfl

theorem arrivals_quiet {es : List Event} (h : ∀ e ∈ es, e = .quiet) : arrivals es = [] := by
  refine filterMap_eq_nil_iff.mpr fun e he => ?_
  rw [h e he]

/-- The steps of the handler of channel `c` on its own queue. -/
inductive ChanStep (P : Core → ℕ → BufInfo → Prop) (c : ChannelId) :
    Event → Ctx → Ctx → Prop
  | idle {x y : Ctx} (core : y.ch.core = x.ch.core) (fs : y.fs = x.fs) : ChanStep P c .quiet x y
  | reject {x : Ctx} {b : BufInfo} {slot : ℕ} (bundled : x.ch.queue.slotOf b.streamId = some slot) :
      ChanStep P c (.arrive b) x (x.qbuf [b.buf])
  | comp {x y : Ctx} {env : Env} {b : BufInfo} {slot : ℕ}
      (bundled : x.ch.queue.slotOf b.streamId = some slot) (index : b.frameIdx ≠ 0)
      (admitted : P x.ch.core slot b) (ok : superbufComp env c slot b x = .ok y) :
      ChanStep P c (.arrive b) x y
  | drop {x y : Ctx} {matchedOnly : Bool} {node : Node}
      (deq : superbufDequeueInternal matchedOnly x = (some node, y)) :
      ChanStep P c .quiet x (y.qbuf node.bufs)
  | dropType {x y : Ctx} {node : Node} (camType : StreamType)
      (deq : superbufDequeueInternal false x = (some node, y)) :
      ChanStep P c .lossy x (y.qbuf (node.bufsOfType camType))

/-- The steps of the system: a step of one channel's handler, a dequeue and its dispatch, and a
synced dequeue and its dispatch. The counters of the dispatching channel change in between. -/
inductive SysStep (P : ChannelId → Core → ℕ → BufInfo → Prop) :
    ChannelId × Event → System → System → Prop
  | chan {s : System} {c : ChannelId} {e : Event} {x : Ctx}
      (step : ChanStep (P c) c e (s.ctx c) x) : SysStep P (c, e) s (s.put c x)
  | send {s : System} {c : ChannelId} {node : Node} {x : Ctx} {ch : Channel} {cbNode : Bool}
      (deq : superbufDequeue (s.ctx c) = (some node, x)) (core : ch.core = x.ch.core) :
      SysStep P (c, .quiet) s (s.put c ⟨x.fs, sendNode cbNode node ch⟩)
  | sync {s t u : System} {c : ChannelId} {info : NodeInfo} {env : Env} {k : ℕ}
      (collected : frameSyncCollect s = (info, t)) (core : ∀ d, (u.ch d).core = (t.ch d).core)
      (fs : u.fs = t.fs) : SysStep P (c, .quiet) s (sendSuperBuf env k info u)

/-! ## Reading a system -/

@[simp] theorem ctx_put (s : System) (c : ChannelId) (x : Ctx) : (s.put c x).ctx c = x := by
  simp [System.ctx, System.put]

@[simp] theorem put_put (s : System) (c : ChannelId) (x y : Ctx) :
    (s.put c x).put c y = s.put c y := by
  simp [System.put]

@[simp] theorem put_ctx (s : System) (c : ChannelId) : s.put c (s.ctx c) = s := by
  simp [System.put, System.ctx]

@[simp] theorem put_fs (s : System) (c : ChannelId) (x : Ctx) : (s.put c x).fs = x.fs := rfl

@[simp] theorem put_ch (s : System) (c : ChannelId) (x : Ctx) : (s.put c x).ch c = x.ch := by
  simp [System.put]

theorem put_ch_ne {s : System} {c d : ChannelId} (x : Ctx) (h : d ≠ c) :
    (s.put c x).ch d = s.ch d := by
  simp [System.put, h]

@[simp] theorem modify_fs (s : System) (c : ChannelId) (f : Channel → Channel) :
    (s.modify c f).fs = s.fs := rfl

@[simp] theorem modify_ch (s : System) (c : ChannelId) (f : Channel → Channel) :
    (s.modify c f).ch c = f (s.ch c) := by
  simp [System.modify]

theorem modify_ch_ne {s : System} {c d : ChannelId} (f : Channel → Channel) (h : d ≠ c) :
    (s.modify c f).ch d = s.ch d := by
  simp [System.modify, h]

/-! ## Spec lemmas of the dequeues -/

/-- The channel a dequeue of the head leaves behind. -/
def Channel.dequeued (ch : Channel) (node : Node) (rest : List Node) : Channel :=
  { ch with queue := { ch.queue with
      que := rest
      size := decU32 ch.queue.size
      matchCnt := if node.matched then decU32 ch.queue.matchCnt else ch.queue.matchCnt } }

/-- **A dequeue that succeeds** takes the head, which is matched if only matched nodes are asked
for, and removes a matched frame from the frame-sync table. -/
theorem dequeueInternal_some {m : Bool} {x y : Ctx} {node : Node}
    (h : superbufDequeueInternal m x = (some node, y)) :
    ∃ rest, x.ch.queue.que = node :: rest ∧ (m = true → node.matched = true) ∧
      y.ch = x.ch.dequeued node rest ∧
      y.fs = if node.matched && x.ch.queue.attr.enableFrameSync then
        frameSyncRemove node.frameIdx x.fs else x.fs := by
  unfold superbufDequeueInternal at h
  cases hq : x.ch.queue.que with
  | nil => simp [hq] at h
  | cons n rest =>
    simp only [hq] at h
    split_ifs at h with hm hn he <;>
      simp only [Prod.mk.injEq, Option.some.injEq, reduceCtorEq, false_and] at h <;>
      obtain ⟨rfl, rfl⟩ := h <;>
      refine ⟨rest, rfl, ?_, ?_, ?_⟩ <;>
      simp_all [Channel.dequeued, Ctx.setQueue]

/-- **A dequeue that fails** changes nothing, and finds no head it may take. -/
theorem dequeueInternal_none {m : Bool} {x y : Ctx}
    (h : superbufDequeueInternal m x = (none, y)) :
    y = x ∧ (x.ch.queue.que = [] ∨
      m = true ∧ ∃ n rest, x.ch.queue.que = n :: rest ∧ n.matched = false) := by
  unfold superbufDequeueInternal at h
  cases hq : x.ch.queue.que with
  | nil =>
    simp only [hq, Prod.mk.injEq, true_and] at h
    exact ⟨h.symm, .inl rfl⟩
  | cons n rest =>
    simp only [hq] at h
    split_ifs at h with hm hn he <;>
      simp only [Prod.mk.injEq, reduceCtorEq, false_and, true_and] at h
    refine ⟨h.symm, .inr ?_⟩
    simp only [Bool.and_eq_true, Bool.not_eq_true'] at hm
    exact ⟨hm.1, n, rest, rfl, hm.2⟩

/-! ## Quiet runs -/

variable {P : Core → ℕ → BufInfo → Prop} {c : ChannelId} {x y z : Ctx}

/-- A run of one channel's steps in which no buffer arrives and none is lost. -/
def Quietly (P : Core → ℕ → BufInfo → Prop) (c : ChannelId) (x y : Ctx) : Prop :=
  ∃ es, (∀ e ∈ es, e = Event.quiet) ∧ Run (ChanStep P c) es x y

theorem Quietly.refl (x : Ctx) : Quietly P c x x := ⟨[], by simp, .nil x⟩

theorem Quietly.one (h : ChanStep P c .quiet x y) : Quietly P c x y :=
  ⟨[.quiet], by simp, .one h⟩

theorem Quietly.idle (core : y.ch.core = x.ch.core) (fs : y.fs = x.fs) : Quietly P c x y :=
  .one (.idle core fs)

theorem Quietly.trans (h : Quietly P c x y) (h' : Quietly P c y z) : Quietly P c x z := by
  obtain ⟨es, hes, hr⟩ := h
  obtain ⟨fs, hfs, hr'⟩ := h'
  refine ⟨es ++ fs, ?_, hr.append hr'⟩
  intro e he
  rcases mem_append.mp he with he | he
  · exact hes e he
  · exact hfs e he

/-! ## The operations as runs -/

@[simp] theorem bufsOfType_default (n : Node) : n.bufsOfType .default = n.bufs := by
  simp [Node.bufsOfType]

theorem flushLoop_quietly (m : Bool) (k : ℕ) (x : Ctx) :
    Quietly P c x (superbufFlushLoop m .default k x) := by
  induction k generalizing x with
  | zero => exact .refl x
  | succ k ih =>
    unfold superbufFlushLoop
    cases hd : superbufDequeueInternal m x with
    | mk o y =>
      cases o with
      | none =>
        rw [(dequeueInternal_none hd).1]
        exact .refl x
      | some node =>
        simp only [bufsOfType_default]
        exact (Quietly.one (.drop hd)).trans (ih _)

theorem flush_quietly (x : Ctx) : Quietly P c x (superbufFlush .default x) :=
  flushLoop_quietly _ _ _

theorem flushMatched_quietly (x : Ctx) : Quietly P c x (superbufFlushMatched x) :=
  flushLoop_quietly _ _ _

theorem flushLoop_run (camType : StreamType) (k : ℕ) (x : Ctx) :
    ∃ es, arrivals es = [] ∧ (camType = .default → ∀ e ∈ es, e = .quiet) ∧
      Run (ChanStep P c) es x (superbufFlushLoop false camType k x) := by
  by_cases hc : camType = .default
  · subst hc
    obtain ⟨es, hes, hr⟩ := flushLoop_quietly (P := P) (c := c) false k x
    exact ⟨es, arrivals_quiet hes, fun _ => hes, hr⟩
  · induction k generalizing x with
    | zero => exact ⟨[], rfl, by simp, .nil x⟩
    | succ k ih =>
      unfold superbufFlushLoop
      cases hd : superbufDequeueInternal false x with
      | mk o y =>
        cases o with
        | none =>
          rw [(dequeueInternal_none hd).1]
          exact ⟨[], rfl, by simp, .nil x⟩
        | some node =>
          obtain ⟨es, ha, -, hr⟩ := ih (y.qbuf (node.bufsOfType camType))
          exact ⟨.lossy :: es, by simpa [arrivals] using ha, fun h => absurd h hc,
            .cons (.dropType camType hd) hr⟩

theorem drop_quietly (x : Ctx) : Quietly P c x (superbufDrop x) := by
  unfold superbufDrop
  cases hd : superbufDequeueInternal true x with
  | mk o y =>
    cases o with
    | none =>
      rw [(dequeueInternal_none hd).1]
      exact .refl x
    | some node => exact .one (.drop hd)

theorem dropAbove_quietly {mark : ℕ} (h : superbufDropAbove mark x = .ok y) :
    Quietly P c x y := by
  unfold superbufDropAbove at h
  split at h
  · next z hz =>
    cases h
    exact (whileLoop_invariant (I := Quietly P c x)
      (fun s _ hs => hs.trans (drop_quietly s)) (.refl x) hz).1
  · cases h

theorem overflow_quietly (h : superbufBufdoneOverflow x = .ok y) : Quietly P c x y := by
  unfold superbufBufdoneOverflow at h
  split_ifs at h
  · cases h
    exact .refl x
  · exact dropAbove_quietly h

theorem skip_quietly (h : superbufSkip x = .ok y) : Quietly P c x y := by
  unfold superbufSkip at h
  split_ifs at h
  · cases h
    exact .refl x
  · exact dropAbove_quietly h

theorem waitFuture_quietly (x : Ctx) : Quietly P c x x.waitFuture := .idle rfl rfl

theorem metaZoom1x_quietly (b : BufInfo) (m : Metadata) (x : Ctx) :
    Quietly P c x (metaZoom1x b m x) := by
  unfold metaZoom1x
  split_ifs
  · exact .idle rfl rfl
  · exact (waitFuture_quietly x).trans (flushMatched_quietly _)

theorem metaPrepSnapshotDone_quietly (m : Metadata) (x : Ctx) :
    Quietly P c x (metaPrepSnapshotDone m x) := by
  unfold metaPrepSnapshotDone
  split
  · next state _ =>
    cases state with
    | doNotNeedFutureFrame => exact .idle rfl rfl
    | needFutureFrame =>
      have hw : Quietly P c x
          (Ctx.waitFuture { x with ch := { x.ch with bWaitForPrepSnapshotDone := false } }) :=
        .idle rfl rfl
      exact (hw.trans (flush_quietly _)).trans (.idle rfl rfl)
  · exact .refl x

theorem metaGoodFrameIdxRange_quietly (m : Metadata) (x : Ctx) :
    Quietly P c x (metaGoodFrameIdxRange m x) := by
  unfold metaGoodFrameIdxRange
  split
  · split_ifs
    · exact .idle rfl rfl
    · exact .idle rfl rfl
  · split_ifs
    · exact (flushMatched_quietly x).trans (waitFuture_quietly _)
    · exact .refl x

theorem metaDivertInfo_quietly (b : BufInfo) (m : Metadata) (x : Ctx) :
    Quietly P c x (metaDivertInfo b m x) := by
  unfold metaDivertInfo
  split
  · exact .idle rfl rfl
  · exact .refl x

theorem metaBracketing_quietly (m : Metadata) (x : Ctx) :
    Quietly P c x (metaBracketing m x) := by
  unfold metaBracketing
  split
  · split_ifs
    · exact .idle rfl rfl
    · exact .idle rfl rfl
  · exact .refl x

theorem metaConfigCapture_quietly (m : Metadata) (x : Ctx) :
    Quietly P c x (metaConfigCapture m x) := by
  unfold metaConfigCapture
  dsimp only
  split
  · split_ifs
    · exact .idle rfl rfl
    · exact .idle rfl rfl
    · exact .refl x
  · exact .refl x

theorem metaBurstFlash_quietly (b : BufInfo) (x : Ctx) : Quietly P c x (metaBurstFlash b x) := by
  unfold metaBurstFlash
  dsimp only
  split_ifs
  · exact .idle rfl rfl
  · exact .refl x

theorem metaLowLight_quietly (m : Metadata) (x : Ctx) : Quietly P c x (metaLowLight m x) := by
  unfold metaLowLight
  split
  · exact .idle rfl rfl
  · exact .refl x

theorem metaUserExpected_quietly (b : BufInfo) (m : Metadata) (x : Ctx) :
    Quietly P c x (metaUserExpected b m x) := by
  unfold metaUserExpected
  dsimp only
  split_ifs
  · exact .idle rfl rfl
  · exact .refl x
  · exact .idle rfl rfl
  · exact .refl x

theorem applyMetadata_quietly (b : BufInfo) (m : Metadata) (x : Ctx) :
    Quietly P c x (applyMetadata b m x) := by
  unfold applyMetadata
  dsimp only
  refine (metaDivertInfo_quietly b m x).trans ?_
  split_ifs
  · exact metaZoom1x_quietly _ _ _
  · refine (metaPrepSnapshotDone_quietly m _).trans ?_
    refine (metaGoodFrameIdxRange_quietly m _).trans ?_
    refine (metaBracketing_quietly m _).trans ?_
    refine (metaConfigCapture_quietly m _).trans ?_
    refine (metaBurstFlash_quietly b _).trans ?_
    exact (metaLowLight_quietly m _).trans (metaUserExpected_quietly b m _)

theorem handleMetadata_quietly {b : BufInfo} (h : handleMetadata b x = some y) :
    Quietly P c x y := by
  unfold handleMetadata at h
  split at h
  · cases h
  · split at h
    · cases h
    · split_ifs at h
      · obtain ⟨m, -, rfl⟩ := Option.map_eq_some_iff.mp h
        exact applyMetadata_quietly _ _ _
      · cases h
        exact .refl x

theorem autoZsl_quietly (x : Ctx) : Quietly P c x (autoZsl x) := by
  unfold autoZsl
  dsimp only
  split_ifs
  · have hw : Quietly P c x { x with ch := x.ch.awaitBatches } := .idle rfl rfl
    exact (hw.trans (flush_quietly _)).trans (.idle rfl rfl)
  · exact .idle rfl rfl
  · exact .idle rfl rfl
  · exact .refl x

theorem processGeneral_quietly (g : GenericCmd) (x : Ctx) :
    Quietly P c x (processGeneral g x) := by
  cases g with
  | aeBracketing start | afBracketing start | flashBracketing start | zoom1x start =>
    exact (flush_quietly x).trans (.idle rfl rfl)
  | captureSetting start config => exact .idle rfl rfl
  | invalid => exact .refl x

/-- The restriction `P`, demanded of a buffer that reaches the locked part of
`mm_channel_superbuf_comp_and_enqueue`: of the queue its metadata leaves, and its slot. -/
def Admits (P : Core → ℕ → BufInfo → Prop) (x : Ctx) (b : BufInfo) : Prop :=
  ∀ slot y, x.ch.queue.slotOf b.streamId = some slot → handleMetadata b x = some y →
    P y.ch.core slot b

theorem Quietly.bundledStreams (h : Quietly P c x y) :
    y.ch.queue.bundledStreams = x.ch.queue.bundledStreams := by
  obtain ⟨es, hes, hr⟩ := h
  induction hr with
  | nil => rfl
  | cons hstep hrest ih =>
    rw [ih fun e he => hes e (mem_cons_of_mem _ he)]
    have hquiet := hes _ mem_cons_self
    cases hstep with
    | idle core _ => exact congrArg Core.bundledStreams core
    | drop deq =>
      obtain ⟨rest, -, -, hch, -⟩ := dequeueInternal_some deq
      simp [Ctx.qbuf, Channel.qbuf, hch, Channel.dequeued]
    | reject | comp | dropType => cases hquiet

/-- **An arrival** is a run in which the buffer arrives, when its stream is bundled. -/
theorem compAndEnqueue_run {b : BufInfo} (hP : Admits P x b)
    (h : superbufCompAndEnqueue env c b x = .ok y) :
    ∃ es, arrivals es = (if (x.ch.queue.slotOf b.streamId).isSome then [b] else []) ∧
      Event.lossy ∉ es ∧ Run (ChanStep P c) es x y := by
  unfold superbufCompAndEnqueue at h
  cases hslot : x.ch.queue.slotOf b.streamId with
  | none =>
    simp only [hslot, Except.ok.injEq] at h
    subst h
    exact ⟨[], by simp, by simp, .nil x⟩
  | some slot =>
    simp only [hslot] at h
    split_ifs at h with h0
    · cases h
      exact ⟨[.arrive b], by simp, by simp, .one (.reject hslot)⟩
    · cases hm : handleMetadata b x with
      | none =>
        simp only [hm, Except.ok.injEq] at h
        subst h
        exact ⟨[.arrive b], by simp, by simp, .one (.reject hslot)⟩
      | some z =>
        simp only [hm] at h
        have hq : Quietly P c x z := handleMetadata_quietly hm
        have hslot' : z.ch.queue.slotOf b.streamId = some slot := by
          rw [Queue.slotOf, hq.bundledStreams]
          exact hslot
        have hlast : ∃ es, es = [Event.arrive b] ∧ Run (ChanStep P c) es z y := by
          split_ifs at h with hold
          · cases h
            exact ⟨_, rfl, .one (.reject hslot')⟩
          · exact ⟨_, rfl, .one (.comp hslot' h0 (hP slot z hslot hm) h)⟩
        obtain ⟨es, hes, hr⟩ := hq
        obtain ⟨fs, rfl, hr'⟩ := hlast
        refine ⟨es ++ [.arrive b], by simp [arrivals_quiet hes], ?_, hr.append hr'⟩
        intro hmem
        rcases mem_append.mp hmem with hmem | hmem
        · exact absurd (hes _ hmem) (by simp)
        · simp at hmem

/-- The buffer a command hands to the queue: that of a `DATA_CB` of a bundled stream. -/
def Command.arrives (q : Queue) : Command → List BufInfo
  | .dataCb b => if (q.slotOf b.streamId).isSome then [b] else []
  | _ => []

def Command.Lossless : Command → Prop
  | .flushQueue _ camType => camType = .default
  | _ => True

theorem processCommand_run {cmd : Command}
    (hP : ∀ b, cmd = .dataCb b → Admits P x b) (h : processCommand env c cmd x = .ok y) :
    ∃ es, arrivals es = cmd.arrives x.ch.queue ∧ Event.lossy ∉ es ∧
      Run (ChanStep P c) es x y := by
  have quiet : ∀ {y}, Quietly P c x y → ∃ es, arrivals es = [] ∧ Event.lossy ∉ es ∧
      Run (ChanStep P c) es x y := by
    rintro y ⟨es, hes, hr⟩
    exact ⟨es, arrivals_quiet hes, fun hm => by simpa using hes _ hm, hr⟩
  cases cmd with
  | dataCb b => exact compAndEnqueue_run (hP b rfl) h
  | reqDataCb type n r =>
    have hreq : Quietly P c x { x with ch := x.ch.request type n r } := .idle rfl rfl
    exact quiet (hreq.trans (skip_quietly h))
  | startZsl | stopZsl | configNotify mode => cases h; exact quiet (.idle rfl rfl)
  | general g => cases h; exact quiet (processGeneral_quietly g x)
  | flushQueue | other => cases h; exact quiet (.refl x)

section System

variable {P : ChannelId → Core → ℕ → BufInfo → Prop} {c : ChannelId} {s t : System}

theorem chan_run {es : List Event} {x y : Ctx} (h : Run (ChanStep (P c) c) es x y) :
    ∀ s : System, s.ctx c = x → Run (SysStep P) (es.map (Prod.mk c)) s (s.put c y) := by
  induction h with
  | nil x =>
    rintro s rfl
    rw [put_ctx]
    exact .nil s
  | @cons e es x y z hstep _ ih =>
    rintro s rfl
    refine .cons (.chan hstep) ?_
    have := ih (s.put c y) (ctx_put s c y)
    rwa [put_put] at this

@[simp] theorem countCapture_core (ch : Channel) : ch.countCapture.core = ch.core := by
  unfold Channel.countCapture
  dsimp only
  split_ifs <;> simp only [Channel.core]

@[simp] theorem stopAfterBurst_core (ch : Channel) : ch.stopAfterBurst.core = ch.core := by
  unfold Channel.stopAfterBurst
  split_ifs <;> simp only [Channel.core, Channel.triggerStopZsl]

@[simp] theorem countBurst_core (ch : Channel) : ch.countBurst.core = ch.core := by
  rw [Channel.countBurst, countCapture_core, stopAfterBurst_core]
  simp only [Channel.core, Channel.countPending]

theorem modify_countBurst_core (s : System) (c d : ChannelId) :
    ((s.modify c Channel.countBurst).ch d).core = (s.ch d).core := by
  by_cases h : d = c
  · subst h
    simp
  · rw [modify_ch_ne _ h]

theorem dispatch_round (env : Env) (mode : NotifyMode) (k : ℕ) {info : NodeInfo}
    (h : collect c s = (info, t)) :
    ∃ es : List Event, (∀ e ∈ es, e = .quiet) ∧ Run (SysStep P) (es.map (Prod.mk c)) s
      (sendSuperBuf env k info
        (if info ≠ [] ∧ mode = .burst then t.modify c Channel.countBurst else t)) := by
  unfold collect at h
  split_ifs at h with hsync
  · -- a synced dequeue: the counters of the burst change before the dispatch
    refine ⟨[.quiet], by simp, .one (.sync h ?_ ?_)⟩
    · intro d
      split_ifs
      · exact modify_countBurst_core t c d
      · rfl
    · split_ifs <;> rfl
  · unfold superbufCollect at h
    cases hd : superbufDequeue (s.ctx c) with
    | mk o x =>
      cases o with
      | none =>
        simp only [hd, Prod.mk.injEq] at h
        obtain ⟨rfl, rfl⟩ := h
        rw [(dequeueInternal_none hd).1]
        refine ⟨[], by simp, ?_⟩
        simp only [put_ctx, ne_eq, not_true_eq_false, false_and, if_false]
        exact .nil s
      | some node =>
        simp only [hd] at h
        split_ifs at h with hdrop
        · -- a super buffer before the frame a configured capture awaits
          simp only [Prod.mk.injEq] at h
          obtain ⟨rfl, rfl⟩ := h
          refine ⟨[.quiet], by simp, ?_⟩
          simp only [ne_eq, not_true_eq_false, false_and, if_false]
          exact .one (.chan (.drop hd))
        · simp only [Prod.mk.injEq] at h
          obtain ⟨rfl, rfl⟩ := h
          refine ⟨[.quiet], by simp, .one ?_⟩
          by_cases hb : mode = .burst
          · have hsend : SysStep P (c, .quiet) s (s.put c ⟨x.fs,
                sendNode (env.cbNode k) node x.ch.countBurst⟩) := .send hd (countBurst_core x.ch)
            simpa [hb, sendSuperBuf, System.modify, System.put] using hsend
          · have hsend : SysStep P (c, .quiet) s (s.put c ⟨x.fs,
                sendNode (env.cbNode k) node x.ch⟩) := .send hd rfl
            simpa [hb, sendSuperBuf, System.modify, System.put] using hsend

theorem dispatchLoop_of_not (fuel k : ℕ)
    (hd : (s.ch c).dispatching mode = false) : dispatchLoop env c mode fuel k s = .ok s := by
  unfold dispatchLoop
  simp [hd]

theorem dispatchLoop_last (fuel k : ℕ)
    (hd : (s.ch c).dispatching mode = true) (h : collect c s = ([], t)) :
    dispatchLoop env c mode (fuel + 1) k s = .ok t := by
  unfold dispatchLoop
  simp [hd, h]

theorem dispatchLoop_round (fuel k : ℕ) {info : NodeInfo}
    (hd : (s.ch c).dispatching mode = true) (h : collect c s = (info, t)) (hi : info ≠ []) :
    dispatchLoop env c mode (fuel + 1) k s =
      dispatchLoop env c mode fuel (k + info.length) (sendSuperBuf env k info
        (if info ≠ [] ∧ mode = .burst then t.modify c Channel.countBurst else t)) := by
  conv_lhs => unfold dispatchLoop
  cases info with
  | nil => exact absurd rfl hi
  | cons p info => simp [hd, h]

theorem dispatchLoop_run {fuel k : ℕ} (h : dispatchLoop env c mode fuel k s = .ok t) :
    ∃ es : List Event, (∀ e ∈ es, e = .quiet) ∧ Run (SysStep P) (es.map (Prod.mk c)) s t := by
  induction fuel generalizing k s with
  | zero =>
    unfold dispatchLoop at h
    split_ifs at h
    cases h
    exact ⟨[], by simp, .nil _⟩
  | succ fuel ih =>
    cases hd : (s.ch c).dispatching mode with
    | false =>
      rw [dispatchLoop_of_not _ _ hd] at h
      cases h
      exact ⟨[], by simp, .nil _⟩
    | true =>
      obtain ⟨info, u, hcol⟩ : ∃ info u, collect c s = (info, u) := ⟨_, _, rfl⟩
      obtain ⟨es, hes, hr⟩ := dispatch_round (P := P) env mode k hcol
      by_cases hi : info = []
      · subst hi
        rw [dispatchLoop_last _ _ hd hcol] at h
        cases h
        exact ⟨es, hes, by simpa [sendSuperBuf] using hr⟩
      · rw [dispatchLoop_round _ _ hd hcol hi] at h
        obtain ⟨fs, hfs, hr'⟩ := ih h
        refine ⟨es ++ fs, ?_, ?_⟩
        · intro e he
          rcases mem_append.mp he with he | he
          · exact hes e he
          · exact hfs e he
        · rw [map_append]
          exact hr.append hr'

theorem processStreamBuf_eq {cmd : Command} (hf : ¬∃ f ty, cmd = .flushQueue f ty) :
    processStreamBuf env c cmd s = (do
      let x ← processCommand env c cmd (s.ctx c)
      let y ← superbufBufdoneOverflow (autoZsl x)
      dispatchLoop env c x.ch.queue.attr.notifyMode ((s.put c y).dispatchFuel c) 0
        (s.put c y)) := by
  cases cmd <;> first | rfl | exact absurd ⟨_, _, rfl⟩ hf

/-- **Every command is a run of steps**, in which exactly its buffer arrives, if its stream is
bundled, and in which no buffer is dropped unless it is a flush of one stream type. -/
theorem processStreamBuf_run {cmd : Command} (hP : ∀ b, cmd = .dataCb b → Admits (P c) (s.ctx c) b)
    (h : processStreamBuf env c cmd s = .ok t) :
    ∃ es : List Event, arrivals es = cmd.arrives (s.ch c).queue ∧ (cmd.Lossless → Event.lossy ∉ es) ∧
      Run (SysStep P) (es.map (Prod.mk c)) s t := by
  by_cases hf : ∃ f ty, cmd = .flushQueue f ty
  · obtain ⟨f, ty, rfl⟩ := hf
    cases h
    obtain ⟨es, ha, hl, hr⟩ := flushLoop_run (P := P c) (c := c) ty (s.ch c).queue.que.length
      ((s.ctx c).setQueue { (s.ch c).queue with expectedFrameId := f })
    have ha' : arrivals (.quiet :: es ++ [.quiet]) = [] := by
      rw [cons_append, ← singleton_append, arrivals_append, arrivals_append, ha]
      rfl
    refine ⟨.quiet :: es ++ [.quiet], ha', ?_, ?_⟩
    · intro hc hmem
      simp only [cons_append, mem_cons, reduceCtorEq, mem_append,
        not_mem_nil, or_false, false_or] at hmem
      exact absurd (hl hc _ hmem) (by simp)
    · refine chan_run ?_ s rfl
      exact (Run.cons (.idle rfl rfl) hr).append (.one (.idle rfl rfl))
  · rw [processStreamBuf_eq hf] at h
    obtain ⟨x, hx, h⟩ := bind_eq_ok.mp h
    obtain ⟨y, hy, h⟩ := bind_eq_ok.mp h
    obtain ⟨es, ha, hl, hr⟩ := processCommand_run (P := P c) hP hx
    obtain ⟨fs, hfs, hr'⟩ := (autoZsl_quietly x).trans (overflow_quietly (P := P c) (c := c) hy)
    obtain ⟨gs, hgs, hr''⟩ := dispatchLoop_run (P := P) h
    refine ⟨es ++ (fs ++ gs), ?_, ?_, ?_⟩
    · simp [ha, arrivals_quiet hfs, arrivals_quiet hgs, System.ctx]
    · rintro - hmem
      rcases mem_append.mp hmem with hmem | hmem
      · exact hl hmem
      · rcases mem_append.mp hmem with hmem | hmem
        · exact absurd (hfs _ hmem) (by simp)
        · exact absurd (hgs _ hmem) (by simp)
    · rw [← append_assoc, map_append]
      exact (chan_run (hr.append hr') s rfl).append hr''

end System

end MmCamera
