import MidoCamera.Stack.QueueInvariant
import Mathlib.Tactic.FinCases

/-!
# Runs of commands

A run of the system is a list of operations: the commands of the channels' threads, in any order,
and the channels that join or leave the frame sync. On the queue of each channel it is a run of
queue steps. Every command returns when the queue of its channel keeps the invariant; in
particular the dispatch loop ends, because each of its rounds takes a node from one of the queues.
-/

namespace MmCamera

open Loop List

variable {Q : Core → ℕ → BufInfo → Prop} {c : ChannelId} {info : NodeInfo} {k' : Core}

/-- The operations of a run. -/
inductive Op
  | command (env : Env) (c : ChannelId) (cmd : Command)
  | register (c : ChannelId)
  | unregister (c : ChannelId)

/-- What an operation does. -/
def Op.exec : Op → System → Exec System
  | .command env c cmd, s => processStreamBuf env c cmd s
  | .register c, s => .ok { s with fs := frameSyncRegisterChannel c s.fs }
  | .unregister c, s => .ok { s with fs := frameSyncUnregisterChannel c s.fs }

def Op.Step (op : Op) (s t : System) : Prop := op.exec s = .ok t

/-- A condition on every operation of a list, in the state it finds; the list ends with an operation
that does not return. -/
def Along (P : Op → System → Prop) : List Op → System → Prop
  | [], _ => True
  | op :: ops, s => P op s ∧ ∀ t, op.exec s = .ok t → Along P ops t

theorem along_of_forall {P : Op → System → Prop} {ops : List Op} (h : ∀ op ∈ ops, ∀ s, P op s)
    (s : System) : Along P ops s := by
  induction ops generalizing s with
  | nil => trivial
  | cons op ops ih =>
    exact ⟨h op mem_cons_self s, fun t _ => ih (fun o ho => h o (mem_cons_of_mem _ ho)) t⟩

/-- The condition on the commands of channel `c`. -/
def Op.OnChannel (c : ChannelId) (P : Command → Channel → Prop) (op : Op) (s : System) : Prop :=
  match op with
  | .command _ d cmd => d = c → P cmd (s.ch c)
  | _ => True

/-- The restriction `P` on the enqueues, as a condition on an operation. -/
def Op.Admitted (P : ChannelId → Core → ℕ → BufInfo → Prop) (op : Op) (s : System) : Prop :=
  ∀ env c b, op = .command env c (.dataCb b) → Admits (P c) (s.ctx c) b

def Op.StepUnder (P : ChannelId → Core → ℕ → BufInfo → Prop) (op : Op) (s t : System) : Prop :=
  op.Admitted P s ∧ op.Step s t

theorem Op.StepUnder.dataCb {P : ChannelId → Core → ℕ → BufInfo → Prop} {env : Env}
    {b : BufInfo} {s t : System} {slot : ℕ} {x : Ctx}
    (hslot : (s.ch c).queue.slotOf b.streamId = some slot)
    (hx : handleMetadata b (s.ctx c) = some x) (hP : P c x.ch.core slot b)
    (h : (Op.command env c (.dataCb b)).Step s t) :
    (Op.command env c (.dataCb b)).StepUnder P s t := by
  refine ⟨?_, h⟩
  rintro _ _ _ ⟨⟩ slot' y hslot' hy
  obtain rfl := Option.some.inj (hslot.symm.trans hslot')
  obtain rfl := Option.some.inj (hx.symm.trans hy)
  exact hP

def Op.arrivesAt (q : Queue) (d : ChannelId) : Op → List BufInfo
  | .command _ c cmd => if c = d then cmd.arrives q else []
  | _ => []

/-- An operation that does not flush one stream type of a channel. -/
def Op.LosslessAt (d : ChannelId) : Op → Prop
  | .command _ c cmd => c = d → cmd.Lossless
  | _ => True

/-! ## Small systems -/

def System.started (ch : ChannelId → Channel) : System := ⟨frameSyncReset, ch⟩

/-- A stream of a channel's table, in use and its own. -/
def StreamObj.own (hdl : StreamId) (type : StreamType) : StreamObj :=
  { inUse := true
    myHdl := hdl
    serverStreamId := hdl
    streamInfo := some type
    ownedHere := true
    linkedHere := false }

/-- A bundle in burst mode that keeps two matched and three unmatched super buffers. -/
def Attr.burst (priority : Priority) (enableFrameSync : Bool) : Attr :=
  { notifyMode := .burst
    waterMark := 2
    lookBack := 0
    postFrameSkip := 0
    maxUnmatchedFrames := 3
    enableFrameSync := enableFrameSync
    priority := priority
    userExpectedFrameId := 0 }

def imageBuf (addr streamId frameIdx : ℕ) : BufInfo :=
  ⟨streamId, frameIdx, ⟨addr, streamId, .preview, none⟩⟩

def metaBuf (addr streamId frameIdx : ℕ) : BufInfo :=
  ⟨streamId, frameIdx, ⟨addr, streamId, .metadata, some {}⟩⟩

def Env.ample : Env := ⟨true, true, fun _ => true⟩

def twoStreams : System :=
  .started fun _ => .started [1, 2] (.burst .normal false) [.own 1 .preview, .own 2 .snapshot]

section CoreRun

variable {P : ChannelId → Core → ℕ → BufInfo → Prop} {s t : System}

theorem CoreStep.bundledStreams {e : Event}
    {k : Core} (h : CoreStep Q c e k k') : k'.bundledStreams = k.bundledStreams := by
  cases h with
  | reject => rfl
  | comp _ _ _ step => cases step <;> rfl
  | remove _ _ disposal => cases disposal <;> rfl
  | removeType => rfl

theorem coreRun_bundledStreams {es : List Event}
    {k : Core} (h : Run (CoreStep Q c) es k k') : k'.bundledStreams = k.bundledStreams :=
  h.invariant (I := fun m => m.bundledStreams = k.bundledStreams)
    (fun _ _ _ hstep hk => hstep.bundledStreams.trans hk) rfl

theorem arrives_congr (cmd : Command) {q q' : Queue} (h : q'.bundledStreams = q.bundledStreams) :
    cmd.arrives q' = cmd.arrives q := by
  cases cmd <;> simp [Command.arrives, Queue.slotOf, h]

theorem arrivesAt_congr (op : Op) (d : ChannelId) {q q' : Queue}
    (h : q'.bundledStreams = q.bundledStreams) : op.arrivesAt q' d = op.arrivesAt q d := by
  cases op <;> simp [Op.arrivesAt, arrives_congr _ h]

theorem eventsOf_map (d c : ChannelId) (es : List Event) :
    eventsOf d (es.map (Prod.mk c)) = if c = d then es else [] := by
  unfold eventsOf
  by_cases h : c = d
  · simp [h, filter_map, Function.comp_def]
  · simp [h, filter_map, Function.comp_def]

/-- **An operation is a run of steps** on the queue of each channel, in which exactly the buffers
it hands to that queue arrive. -/
theorem opStep_core_run {op : Op} (h : op.StepUnder P s t) (d : ChannelId) :
    ∃ es, arrivals es = op.arrivesAt (s.ch d).queue d ∧ (op.LosslessAt d → Event.lossy ∉ es) ∧
      Run (CoreStep (P d) d) es (s.ch d).core (t.ch d).core := by
  obtain ⟨hadm, hstep⟩ := h
  cases op with
  | command env c cmd =>
    obtain ⟨es, harr, hloss, hrun⟩ := processStreamBuf_run (P := P)
      (fun b hb => hadm env c b (by rw [hb])) hstep
    obtain ⟨fs, hfs, hcore⟩ := sysRun_core_run hrun d
    rw [eventsOf_map] at hfs
    refine ⟨fs, ?_, ?_, hcore⟩
    · rw [← arrivals_loud, hfs, arrivals_loud]
      by_cases hcd : c = d
      · subst hcd
        simpa [Op.arrivesAt] using harr
      · simp [Op.arrivesAt, hcd]
    · intro hl hmem
      rw [← lossy_mem_loud, hfs, lossy_mem_loud] at hmem
      by_cases hcd : c = d
      · rw [if_pos hcd] at hmem
        exact hloss (hl hcd) hmem
      · simp [hcd] at hmem
  | register c | unregister c =>
    cases hstep
    exact ⟨[], rfl, by simp, .nil _⟩

/-- A run of operations is a run of steps on the queue of each channel. -/
theorem opRun_core_run {ops : List Op} (h : Run (Op.StepUnder P) ops s t) (d : ChannelId) :
    ∃ es, arrivals es = ops.flatMap (Op.arrivesAt (s.ch d).queue d) ∧
      ((∀ op ∈ ops, op.LosslessAt d) → Event.lossy ∉ es) ∧
      Run (CoreStep (P d) d) es (s.ch d).core (t.ch d).core := by
  induction h with
  | nil s => exact ⟨[], rfl, by simp, .nil _⟩
  | @cons op ops s t u hstep _ ih =>
    obtain ⟨es, harr, hloss, hrun⟩ := opStep_core_run hstep d
    obtain ⟨fs, harr', hloss', hrun'⟩ := ih
    have hstreams : (t.ch d).queue.bundledStreams = (s.ch d).queue.bundledStreams :=
      coreRun_bundledStreams hrun
    refine ⟨es ++ fs, ?_, ?_, hrun.append hrun'⟩
    · rw [arrivals_append, harr, harr', flatMap_cons]
      congr 1
      exact flatMap_congr fun op _ => arrivesAt_congr op d hstreams
    · intro hl hmem
      rcases mem_append.mp hmem with hmem | hmem
      · exact hloss (hl op mem_cons_self) hmem
      · exact hloss' (fun op' h' => hl op' (mem_cons_of_mem _ h')) hmem

end CoreRun

/-! ## The dispatch loop ends -/

section Dispatch

variable {s t : System} {c : ChannelId}

theorem Removes.length {frame : ℕ} {ns : List Node} {k : Core} (h : Removes frame ns k k') :
    k'.que.length + ns.length = k.que.length := by
  induction h with
  | nil => rfl
  | @cons k k' before after ns n que _ _ _ ih =>
    have hlen : (k.without n (before ++ after)).que.length = (before ++ after).length := rfl
    rw [hlen] at ih
    rw [que]
    simp only [length_append, length_cons] at ih ⊢
    omega

theorem Disposals.que {ns : List Node} {k : Core} (h : Disposals ns k k') :
    k'.que = k.que := by
  induction h with
  | nil => rfl
  | cons head _ ih =>
    rw [ih]
    cases head <;> rfl

theorem frameSyncDequeue_mem {frame : ℕ} {js : List CamIdx}
    (h : frameSyncDequeue frame js s = (info, t)) : ∀ p ∈ info, ∃ j, s.fs.chObj j = some p.1 := by
  induction js generalizing s info with
  | nil =>
    cases h
    simp
  | cons j js ih =>
    unfold frameSyncDequeue at h
    cases hc : s.fs.chObj j with
    | none =>
      rw [hc] at h
      exact ih h
    | some c =>
      simp only [hc] at h
      split at h
      · next node q hdeq =>
        cases hrec : frameSyncDequeue frame js (s.modify c fun ch => { ch with queue := q }) with
        | mk info' t' =>
          simp only [hrec, Prod.mk.injEq] at h
          obtain ⟨rfl, rfl⟩ := h
          intro p hp
          rcases mem_cons.mp hp with rfl | hp
          · exact ⟨j, hc⟩
          · simpa using ih hrec p hp
      · exact ih h

theorem collect_queued (h : collect c s = (info, t)) :
    t.fs.chObj = s.fs.chObj ∧ (∀ d, t.queued d + (nodesOf d info).length ≤ s.queued d) ∧
      ∀ p ∈ info, p.1 = c ∨ ∃ j, s.fs.chObj j = some p.1 := by
  unfold collect at h
  split_ifs at h with hsync
  · -- with a frame sync, each of its channels gives a node, or all nodes are returned
    unfold frameSyncCollect at h
    dsimp only at h
    by_cases h0 : frameSyncFindMatched false s.fs = 0
    · rw [if_pos h0] at h
      cases h
      exact ⟨rfl, fun d => le_rfl, by simp⟩
    · rw [if_neg h0] at h
      cases hdeq : frameSyncDequeue (frameSyncFindMatched false s.fs)
          (finRange maxNumCameraPerBundle) s with
      | mk info' t' =>
        obtain ⟨hfs, hrem⟩ := frameSyncDequeue_removes hdeq
        have hmem := frameSyncDequeue_mem hdeq
        simp only [hdeq] at h
        by_cases hlen : info'.length =
            (frameSyncRemove (frameSyncFindMatched false s.fs) t'.fs).numCam
        · rw [if_pos hlen] at h
          cases h
          refine ⟨by rw [frameSyncRemove_chObj, hfs], fun d => ?_, fun p hp => .inr (hmem p hp)⟩
          exact (hrem d).length.le
        · rw [if_neg hlen] at h
          cases h
          refine ⟨by rw [nodesQbuf_fs, frameSyncRemove_chObj, hfs], fun d => ?_, by simp⟩
          have hque := (nodesQbuf_disposals d info'
            { t' with fs := frameSyncRemove (frameSyncFindMatched false s.fs) t'.fs }).que
          have hlen' : (nodesQbuf info' { t' with
              fs := frameSyncRemove (frameSyncFindMatched false s.fs) t'.fs }).queued d =
              t'.queued d := congrArg length hque
          rw [hlen']
          have := (hrem d).length
          change (t'.ch d).core.que.length + 0 ≤ (s.ch d).core.que.length
          omega
  · -- without one, the queue's head is taken
    unfold superbufCollect at h
    cases hd : superbufDequeue (s.ctx c) with
    | mk o x =>
      cases o with
      | none =>
        simp only [hd] at h
        cases h
        rw [(dequeueInternal_none hd).1, put_ctx]
        exact ⟨rfl, fun d => le_rfl, by simp⟩
      | some node =>
        obtain ⟨rest, hq, -, hch, hfs⟩ := dequeueInternal_some hd
        have hobj : x.fs.chObj = s.fs.chObj := by
          rw [hfs]
          split_ifs
          · exact frameSyncRemove_chObj _ _
          · rfl
        have hqc : s.queued c = rest.length + 1 := by
          have : (s.ch c).queue.que = node :: rest := hq
          simp [System.queued, this]
        -- whatever else is done with the node, the queue has lost it
        have hput : ∀ y : Ctx, y.ch.queue.que = rest → ∀ d, (s.put c y).queued d +
            (nodesOf d [(c, node)]).length ≤ s.queued d := by
          intro y hy d
          by_cases hcd : c = d
          · subst hcd
            rw [hqc, System.queued, put_ch, hy]
            simp [nodesOf]
          · rw [System.queued, put_ch_ne _ fun h => hcd h.symm]
            simp [nodesOf, hcd, System.queued]
        simp only [hd] at h
        split_ifs at h with hdrop
        · cases h
          refine ⟨hobj, fun d => ?_, by simp⟩
          have := hput (x.qbuf node.bufs) (by simp [Ctx.qbuf, Channel.qbuf, hch,
            Channel.dequeued]) d
          change (s.put c (x.qbuf node.bufs)).queued d + 0 ≤ s.queued d
          omega
        · cases h
          exact ⟨hobj, hput x (by simp [hch, Channel.dequeued]), by simp⟩

theorem dispatchFuel_eq (s : System) (c : ChannelId) :
    s.dispatchFuel c = s.queued c + ((s.fs.chObj 0).elim 0 s.queued +
      (s.fs.chObj 1).elim 0 s.queued) + 1 := by
  simp [System.dispatchFuel, finRange_succ]

theorem elim_queued_le {o : Option ChannelId} {u : System} (h : ∀ d, u.queued d ≤ s.queued d) :
    o.elim 0 u.queued ≤ o.elim 0 s.queued := by
  cases o with
  | none => exact le_rfl
  | some d => exact h d

theorem dispatchFuel_lt {u : System} (h : collect c s = (info, t))
    (hi : info ≠ []) (hobj : u.fs.chObj = t.fs.chObj) (hque : ∀ d, u.queued d = t.queued d) :
    u.dispatchFuel c < s.dispatchFuel c := by
  obtain ⟨hobj', hle, hmem⟩ := collect_queued h
  have hle' : ∀ d, u.queued d ≤ s.queued d := fun d => by
    have := hle d
    rw [hque]
    omega
  obtain ⟨⟨d, n⟩, info', rfl⟩ := exists_cons_of_ne_nil hi
  have hlt : u.queued d < s.queued d := by
    have := hle d
    rw [nodesOf_cons, if_pos rfl, length_cons] at this
    rw [hque]
    omega
  rw [dispatchFuel_eq, dispatchFuel_eq, hobj, hobj']
  have h0 := elim_queued_le (o := s.fs.chObj 0) hle'
  have h1 := elim_queued_le (o := s.fs.chObj 1) hle'
  have hc := hle' c
  rcases hmem (d, n) mem_cons_self with hdc | ⟨j, hj⟩
  · have hdc' : d = c := hdc
    subst hdc'
    omega
  · have hlt' : (s.fs.chObj j).elim 0 u.queued < (s.fs.chObj j).elim 0 s.queued := by
      rw [hj]
      exact hlt
    fin_cases j
    · change (s.fs.chObj 0).elim 0 u.queued < (s.fs.chObj 0).elim 0 s.queued at hlt'
      omega
    · change (s.fs.chObj 1).elim 0 u.queued < (s.fs.chObj 1).elim 0 s.queued at hlt'
      omega

theorem sendNode_queue (cbNode : Bool) (n : Node) (ch : Channel) :
    (sendNode cbNode n ch).queue = ch.queue := by
  unfold sendNode
  dsimp only
  split_ifs <;> rfl

theorem sendSuperBuf_queue (env : Env) (d : ChannelId) (k : ℕ) (info : NodeInfo) (s : System) :
    ((sendSuperBuf env k info s).ch d).queue = (s.ch d).queue := by
  induction info generalizing k s with
  | nil => rfl
  | cons p info ih =>
    obtain ⟨c, n⟩ := p
    rw [sendSuperBuf, ih]
    by_cases hcd : d = c
    · subst hcd
      rw [modify_ch, sendNode_queue]
    · rw [modify_ch_ne _ hcd]

theorem countBurst_queued (c d : ChannelId) (s : System) :
    (s.modify c Channel.countBurst).queued d = s.queued d :=
  congrArg (fun k : Core => k.que.length) (modify_countBurst_core s c d)

theorem dispatchLoop_ok (env : Env) (mode : NotifyMode) {fuel : ℕ} :
    ∀ (k : ℕ) {s : System}, s.dispatchFuel c ≤ fuel →
      ∃ t, dispatchLoop env c mode fuel k s = .ok t := by
  induction fuel with
  | zero =>
    intro k s hf
    simp [System.dispatchFuel] at hf
  | succ fuel ih =>
    intro k s hf
    cases hd : (s.ch c).dispatching mode with
    | false => exact ⟨s, dispatchLoop_of_not _ _ hd⟩
    | true =>
      obtain ⟨info, u, hcol⟩ : ∃ info u, collect c s = (info, u) := ⟨_, _, rfl⟩
      by_cases hi : info = []
      · subst hi
        exact ⟨u, dispatchLoop_last _ _ hd hcol⟩
      · rw [dispatchLoop_round _ _ hd hcol hi]
        refine ih _ ?_
        have hlt := dispatchFuel_lt (u := sendSuperBuf env k info
          (if info ≠ [] ∧ mode = .burst then u.modify c Channel.countBurst else u)) hcol hi
          (by rw [sendSuperBuf_fs]; split_ifs <;> rfl)
          (fun d => by
            rw [System.queued, sendSuperBuf_queue]
            split_ifs
            · exact countBurst_queued c d u
            · rfl)
        omega

end Dispatch

/-- **A command returns**, from any state in which the queue of its channel keeps the invariant:
no loop hangs and no freed node is read. -/
theorem processStreamBuf_ok {P : Core → ℕ → BufInfo → Prop} {s : System}
    (hP : ∀ k slot b, P k slot b → QueueInv k → CompletesFirst k slot b) (env : Env)
    (cmd : Command) (hadm : ∀ b, cmd = .dataCb b → Admits P (s.ctx c) b)
    (hi : QueueInv (s.ch c).core) : ∃ t, processStreamBuf env c cmd s = .ok t := by
  have quiet : ∀ {x y : Ctx}, Quietly P c x y → QueueInv x.ch.core → QueueInv y.ch.core := by
    rintro x y ⟨es, -, hr⟩ hx
    obtain ⟨fs, hr'⟩ := chanRun_core_run hr
    exact run_queueInv hP hr' hx
  by_cases hf : ∃ f ty, cmd = .flushQueue f ty
  · obtain ⟨f, ty, rfl⟩ := hf
    exact ⟨_, rfl⟩
  · have hcmd : ∃ x, processCommand env c cmd (s.ctx c) = .ok x := by
      cases cmd with
      | dataCb b =>
        change ∃ x, superbufCompAndEnqueue env c b (s.ctx c) = .ok x
        unfold superbufCompAndEnqueue
        split
        · exact ⟨_, rfl⟩
        · split_ifs
          · exact ⟨_, rfl⟩
          · split
            · exact ⟨_, rfl⟩
            · next z hz =>
              split_ifs
              · exact ⟨_, rfl⟩
              · exact superbufComp_ok env c _ b (quiet (handleMetadata_quietly hz) hi)
      | reqDataCb type n r => exact skip_ok (x := ⟨s.fs, (s.ch c).request type n r⟩) hi
      | startZsl | stopZsl | configNotify mode | general g | other => exact ⟨_, rfl⟩
      | flushQueue f ty => exact absurd ⟨f, ty, rfl⟩ hf
    obtain ⟨x, hx⟩ := hcmd
    obtain ⟨es, -, -, hr⟩ := processCommand_run (P := P) hadm hx
    obtain ⟨fs, hr'⟩ := chanRun_core_run hr
    have hix : QueueInv x.ch.core := run_queueInv hP hr' hi
    obtain ⟨y, hy⟩ := overflow_ok (quiet (autoZsl_quietly x) hix)
    obtain ⟨t, ht⟩ := dispatchLoop_ok (c := c) env x.ch.queue.attr.notifyMode 0
      (le_refl ((s.put c y).dispatchFuel c))
    refine ⟨t, ?_⟩
    rw [processStreamBuf_eq hf, hx]
    change (do
      let y ← superbufBufdoneOverflow (autoZsl x)
      dispatchLoop env c x.ch.queue.attr.notifyMode ((s.put c y).dispatchFuel c) 0 (s.put c y)) = _
    rw [hy]
    exact ht

end MmCamera
