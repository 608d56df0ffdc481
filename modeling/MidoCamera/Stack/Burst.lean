import MidoCamera.Stack.ChannelFrame
import MidoCamera.Stack.Runs

/-!
# The account of a burst request

A `REQ_DATA_CB` opens an account for the super buffers it asks for: how many are pending, how many
of these are retro-active, and whether the dispatch waits for the prepare-snapshot metadata. The
handler posts to it when it dispatches a round in burst mode, when metadata reports that the
prepare-snapshot is done, and when it starts or stops the ZSL snapshot; nothing else a handler
does, on its own channel or on another, changes it.
-/

namespace MmCamera

open Loop List

variable {e : Entry} {mode : NotifyMode}

/-! ## The account -/

/-- The counters of a channel for the request it serves. -/
structure Account where
  pendingCnt : ℕ
  pendingRetroCnt : ℕ
  bWaitForPrepSnapshotDone : Bool
  deriving DecidableEq, Repr

def Channel.account (ch : Channel) : Account :=
  ⟨ch.pendingCnt, ch.pendingRetroCnt, ch.bWaitForPrepSnapshotDone⟩

/-- What the handler of a channel does that its account speaks of. A round is dispatched in the
notify mode the handler has read; a stop of the ZSL snapshot with the last buffer of a burst is
part of its round. -/
inductive Entry
  | request (numBufRequested numRetroBufRequested : ℕ)
  | prepSnapshotDone
  | zsl (call : ZslCall)
  | round (mode : NotifyMode)
  deriving DecidableEq, Repr

def Entry.isRequest : Entry → Bool
  | .request .. => true
  | _ => false

def Entry.isBurst (e : Entry) : Bool := e == .round .burst

/-- What may end a wait: metadata that reports the prepare-snapshot done, a new request, or a start
or stop of the ZSL snapshot. -/
def Entry.endsWait : Entry → Bool
  | .round _ => false
  | _ => true

/-- An entry, and the account once it is posted. -/
structure Posting where
  entry : Entry
  account : Account
  deriving DecidableEq, Repr

/-- The retro-active buffers of a request: none but those it asks for. -/
def retroOf (numBuf numRetro : ℕ) : ℕ := if numBuf = 0 ∨ numBuf < numRetro then numBuf else numRetro

/-- What an entry does to an account. -/
inductive Account.Step : Entry → Account → Account → Prop
  | request (numBuf numRetro : ℕ) (a : Account) :
      Step (.request numBuf numRetro) a ⟨numBuf, retroOf numBuf numRetro, false⟩
  | prepSnapshotDone (a : Account) :
      Step .prepSnapshotDone a { a with bWaitForPrepSnapshotDone := false }
  | zsl (call : ZslCall) {wait : Bool} (a : Account)
      (lowered : wait = true → a.bWaitForPrepSnapshotDone = true) :
      Step (.zsl call) a { a with bWaitForPrepSnapshotDone := wait }
  | burst {a : Account} (pending : 0 < a.pendingCnt)
      (ready : a.bWaitForPrepSnapshotDone = false) :
      Step (.round .burst) a
        ⟨a.pendingCnt - 1, a.pendingRetroCnt - 1, a.pendingRetroCnt == 1⟩
  | continuous {a : Account} (ready : a.bWaitForPrepSnapshotDone = false) :
      Step (.round .continuous) a a

/-- A posting leads from the account before it to the one it records. -/
def Posting.Step (p : Posting) (a a' : Account) : Prop := a.Step p.entry a' ∧ p.account = a'

def rounds (ps : List Posting) : ℕ := ps.countP (·.entry.isBurst)

theorem rounds_cons (p : Posting) (ps : List Posting) :
    rounds (p :: ps) = rounds ps + if p.entry.isBurst then 1 else 0 := countP_cons

/-! ## Runs of postings -/

section Postings

variable {ps : List Posting} {a b : Account}

theorem Account.Step.retro_le (h : Account.Step e a b)
    (ha : a.pendingRetroCnt ≤ a.pendingCnt) : b.pendingRetroCnt ≤ b.pendingCnt := by
  cases h with
  | request numBuf numRetro =>
    change retroOf numBuf numRetro ≤ numBuf
    unfold retroOf
    split_ifs <;> omega
  | prepSnapshotDone | zsl | continuous => exact ha
  | burst pending _ => exact Nat.sub_le_sub_right ha 1

/-- What one posting takes from the counters, unless it is a new request: one buffer for a round
in burst mode, which is retro-active while there are any. -/
theorem Account.Step.counts (h : Account.Step e a b) (he : e.isRequest = false) :
    b.pendingCnt + (if e.isBurst then 1 else 0) = a.pendingCnt ∧
      b.pendingRetroCnt = a.pendingRetroCnt - if e.isBurst then 1 else 0 := by
  cases h with
  | request => cases he
  | prepSnapshotDone | zsl | continuous => exact ⟨rfl, rfl⟩
  | burst pending _ => exact ⟨Nat.sub_add_cancel pending, rfl⟩

theorem Account.Step.raised (h : Account.Step (.round mode) a b) :
    b.bWaitForPrepSnapshotDone = true ↔ mode = .burst ∧ a.pendingRetroCnt = 1 := by
  cases h with
  | burst => simp
  | continuous ready => simp [ready]

theorem Account.Step.waiting (h : Account.Step e a b) (hb : b.bWaitForPrepSnapshotDone = true) :
    a.bWaitForPrepSnapshotDone = true ∨ e = .round .burst := by
  cases h with
  | request | prepSnapshotDone => cases hb
  | zsl _ _ lowered => exact .inl (lowered hb)
  | burst => exact .inr rfl
  | continuous => exact .inl hb

theorem Account.Step.endsWait (h : Account.Step e a b)
    (ha : a.bWaitForPrepSnapshotDone = true) : e.endsWait = true := by
  cases h with
  | request | prepSnapshotDone | zsl => rfl
  | burst _ ready | continuous ready =>
    rw [ha] at ready
    cases ready

theorem postings_counts (h : Run Posting.Step ps a b) (hps : ∀ p ∈ ps, p.entry.isRequest = false) :
    b.pendingCnt + rounds ps = a.pendingCnt ∧
      b.pendingRetroCnt = a.pendingRetroCnt - rounds ps := by
  induction h with
  | nil => exact ⟨rfl, rfl⟩
  | @cons p ps a a' b hstep _ ih =>
    obtain ⟨hcnt, hretro⟩ := hstep.1.counts (hps p mem_cons_self)
    obtain ⟨hcnt', hretro'⟩ := ih fun q hq => hps q (mem_cons_of_mem _ hq)
    rw [rounds_cons]
    constructor
    · omega
    · omega

theorem postings_last {p : Posting} (h : Run Posting.Step (ps ++ [p]) a b) :
    ∃ a', Run Posting.Step ps a a' ∧ Account.Step p.entry a' b ∧ p.account = b := by
  obtain ⟨a', hps, hp⟩ := h.split
  cases hp with
  | cons hstep hnil =>
    cases hnil
    exact ⟨a', hps, hstep.1, hstep.2⟩

theorem postings_retro_le (h : Run Posting.Step ps a b)
    (ha : a.pendingRetroCnt ≤ a.pendingCnt) :
    (∀ p ∈ ps, p.account.pendingRetroCnt ≤ p.account.pendingCnt) ∧
      b.pendingRetroCnt ≤ b.pendingCnt := by
  induction h with
  | nil => exact ⟨by simp, ha⟩
  | @cons p ps a a' b hstep _ ih =>
    obtain ⟨hrest, hb⟩ := ih (hstep.1.retro_le ha)
    refine ⟨?_, hb⟩
    intro q hq
    rcases mem_cons.mp hq with rfl | hq
    · rw [hstep.2]
      exact hstep.1.retro_le ha
    · exact hrest q hq

/-- What is posted after a request, up to some point before the next. -/
def Served (ps : List Posting) (numBuf numRetro : ℕ) (mid : List Posting) : Prop :=
  ∃ pre req post, ps = pre ++ req :: (mid ++ post) ∧ req.entry = .request numBuf numRetro ∧
    ∀ p ∈ mid, p.entry.isRequest = false

theorem Served.run {numBuf numRetro : ℕ} {mid : List Posting} (hm : Served ps numBuf numRetro mid)
    (h : Run Posting.Step ps a b) :
    ∃ a', Run Posting.Step mid ⟨numBuf, retroOf numBuf numRetro, false⟩ a' := by
  obtain ⟨pre, ⟨e, a₀⟩, post, rfl, rfl, -⟩ := hm
  obtain ⟨a₁, -, h⟩ := h.split
  cases h with
  | cons hstep hrest =>
    obtain ⟨a', hmid, -⟩ := hrest.split
    have hopen := hstep.1
    cases hopen
    exact ⟨a', hmid⟩

end Postings

/-! ## What a handler leaves alone -/

/-- The account of a channel and the calls it has made on the camera are as they were. -/
def Ctx.Keeps (x y : Ctx) : Prop :=
  y.ch.account = x.ch.account ∧ y.ch.zslCalls = x.ch.zslCalls

section Keeps

variable {x y : Ctx}

theorem Ctx.Keeps.rfl : x.Keeps x := ⟨Eq.refl _, Eq.refl _⟩

theorem Channel.QueueOnly.keeps (h : x.ch.QueueOnly y.ch) : x.Keeps y :=
  ⟨h.rest Channel.account fun _ _ => Eq.refl _, h.rest Channel.zslCalls fun _ _ => Eq.refl _⟩

theorem account_unmarked : Unmarked Channel.account := fun _ _ _ _ _ _ _ => Eq.refl _

theorem qbuf_keeps (x : Ctx) (bs : List BufDef) : x.Keeps (x.qbuf bs) :=
  (Channel.QueueOnly.qbuf x.ch bs).keeps

theorem flush_keeps (camType : StreamType) (x : Ctx) : x.Keeps (superbufFlush camType x) :=
  (Channel.QueueOnly.flush camType x).keeps

end Keeps

/-! ## What a handler posts -/

def Account.ready (a : Account) : Account := { a with bWaitForPrepSnapshotDone := false }

/-- The handler reads from a buffer that the prepare-snapshot is done: the buffer is one of a
bundled stream, with a frame index, and no 1x frame is awaited. -/
def Channel.readsPrepSnapshotDone (ch : Channel) (b : BufInfo) : Bool :=
  (ch.queue.slotOf b.streamId).isSome && b.frameIdx != 0 && !ch.isZoom1xFrameRequested
    && (ch.metadataOf b).any (·.prepSnapshotDone.isSome)

/-- What a command itself posts. -/
def Command.entry (ch : Channel) : Command → Option Entry
  | .reqDataCb _ numBuf numRetro => some (.request numBuf numRetro)
  | .startZsl => some (.zsl .start)
  | .stopZsl => some (.zsl .stop)
  | .dataCb b => if ch.readsPrepSnapshotDone b then some .prepSnapshotDone else none
  | _ => none

def zslPostings (x : Ctx) : List Posting :=
  ((autoZsl x).ch.zslCalls.drop x.ch.zslCalls.length).map
    fun call => ⟨.zsl call, (autoZsl x).ch.account⟩

/-- What the dispatch loop posts: its rounds, each with the account it leaves. -/
def dispatchPostings (env : Env) (c : ChannelId) (mode : NotifyMode) :
    ℕ → ℕ → System → List Posting
  | 0, _, _ => []
  | fuel + 1, k, s =>
    if (s.ch c).dispatching mode then
      match collect c s with
      | ([], _) => []
      | (info, s) =>
        let s := if mode = .burst then s.modify c Channel.countBurst else s
        let s := sendSuperBuf env k info s
        ⟨.round mode, (s.ch c).account⟩ ::
          dispatchPostings env c mode fuel (k + info.length) s
    else []

/-- What one command posts to the account of its channel. -/
def commandPostings (env : Env) (c : ChannelId) (cmd : Command) (s : System) : List Posting :=
  match cmd with
  | .flushQueue .. => []
  | cmd =>
    match processCommand env c cmd (s.ctx c) with
    | .error _ => []
    | .ok x =>
      (cmd.entry (s.ch c)).toList.map (⟨·, x.ch.account⟩) ++ zslPostings x ++
        match superbufBufdoneOverflow (autoZsl x) with
        | .error _ => []
        | .ok y =>
          let s := s.put c y
          dispatchPostings env c x.ch.queue.attr.notifyMode (s.dispatchFuel c) 0 s

/-- What an operation posts to the account of channel `c`. -/
def Op.postings (c : ChannelId) (op : Op) (s : System) : List Posting :=
  match op with
  | .command env d cmd => if d = c then commandPostings env c cmd s else []
  | _ => []

/-- What a run posts to the account of channel `c`. -/
def postings (c : ChannelId) : List Op → System → List Posting
  | [], _ => []
  | op :: ops, s =>
    op.postings c s ++
      match op.exec s with
      | .ok t => postings c ops t
      | .error _ => []

/-! ### Commands -/

section Command

variable {x y : Ctx} {env : Env} {c : ChannelId}

theorem metaPrepSnapshotDone_account (m : Metadata) (x : Ctx) :
    (metaPrepSnapshotDone m x).ch.account =
      if m.prepSnapshotDone.isSome then x.ch.account.ready else x.ch.account := by
  unfold metaPrepSnapshotDone
  cases m.prepSnapshotDone with
  | none => rfl
  | some state =>
    cases state with
    | doNotNeedFutureFrame => rfl
    | needFutureFrame =>
      exact (flush_keeps .default
        (Ctx.waitFuture { x with ch := { x.ch with bWaitForPrepSnapshotDone := false } })).1

theorem applyMetadata_account (b : BufInfo) (m : Metadata) (x : Ctx) :
    (applyMetadata b m x).ch.account =
      if !x.ch.isZoom1xFrameRequested && m.prepSnapshotDone.isSome then x.ch.account.ready
      else x.ch.account := by
  have hzoom : (metaDivertInfo b m x).ch.isZoom1xFrameRequested = x.ch.isZoom1xFrameRequested := by
    unfold metaDivertInfo
    split <;> rfl
  have hdivert := (metaDivertInfo_metaOnly b m x).rest account_unmarked
  unfold applyMetadata
  dsimp only
  rw [hzoom]
  cases x.ch.isZoom1xFrameRequested with
  | true => exact ((metaZoom1x_metaOnly b m _).rest account_unmarked).trans hdivert
  | false =>
    -- of the entries that follow, only that of the prepare-snapshot touches the account
    have hconfig : ∀ y : Ctx, (metaConfigCapture m y).ch.account = y.ch.account :=
      fun y => (metaConfigCapture_metaOnly m y).rest account_unmarked
    simp only [Bool.false_eq_true, if_false, Bool.not_false, Bool.true_and]
    rw [(metaUserExpected_metaOnly b m _).rest account_unmarked,
      (metaLowLight_metaOnly m _).rest account_unmarked,
      (metaBurstFlash_metaOnly b _).rest account_unmarked, hconfig,
      (metaBracketing_metaOnly m _).rest account_unmarked,
      (metaGoodFrameIdxRange_metaOnly m _).rest account_unmarked, metaPrepSnapshotDone_account,
      hdivert]

/-- The arrival of a buffer ends the wait exactly when the handler reads from it that the
prepare-snapshot is done. -/
theorem compAndEnqueue_account {b : BufInfo} (h : superbufCompAndEnqueue env c b x = .ok y) :
    y.ch.account = if x.ch.readsPrepSnapshotDone b then x.ch.account.ready else x.ch.account := by
  unfold superbufCompAndEnqueue at h
  unfold Channel.readsPrepSnapshotDone
  cases hslot : x.ch.queue.slotOf b.streamId with
  | none =>
    simp only [hslot, Except.ok.injEq] at h
    subst h
    rfl
  | some slot =>
    simp only [hslot] at h
    by_cases h0 : b.frameIdx = 0
    · rw [if_pos h0] at h
      cases h
      simp [h0, (qbuf_keeps x [b.buf]).1]
    · rw [if_neg h0] at h
      simp only [Option.isSome_some, Bool.true_and, bne_iff_ne.mpr h0]
      -- once its metadata has been applied, the buffer itself is nothing to the account
      have enqueued : ∀ {z : Ctx}, (if seqCompWRollover b.frameIdx z.ch.queue.expectedFrameId < 0
          ∧ validateSuperBuf z.ch.queue b ≤ 0 then .ok (z.qbuf [b.buf])
          else superbufComp env c slot b z) = .ok y → y.ch.account = z.ch.account := by
        intro z hz
        split_ifs at hz
        · cases hz
          exact (qbuf_keeps z _).1
        · exact (Channel.QueueOnly.comp hz).keeps.1
      rcases handleMetadata_cases b x with ⟨m, hm, hx⟩ | ⟨hm, hx | hx⟩
      · simp only [hx] at h
        rw [enqueued h, applyMetadata_account, hm]
        rfl
      · simp only [hx] at h
        rw [enqueued h, hm]
        simp
      · simp only [hx, Except.ok.injEq] at h
        subst h
        rw [hm, (qbuf_keeps x _).1]
        simp

theorem processGeneral_account (g : GenericCmd) (x : Ctx) :
    (processGeneral g x).ch.account = x.ch.account := by
  cases g with
  | aeBracketing start | afBracketing start | flashBracketing start | zoom1x start =>
    exact (flush_keeps .default x).1
  | captureSetting start config => rfl
  | invalid => rfl

theorem Posting.run {a b : Account} (h : Account.Step e a b) :
    Run Posting.Step [⟨e, b⟩] a b := .one ⟨h, rfl⟩

/-- **A command** posts its entry, if it has one, and nothing else. -/
theorem processCommand_postings {cmd : Command} (h : processCommand env c cmd x = .ok y) :
    Run Posting.Step ((cmd.entry x.ch).toList.map (⟨·, y.ch.account⟩)) x.ch.account
      y.ch.account := by
  have quiet : ∀ {z : Ctx}, z.ch.account = x.ch.account →
      Run Posting.Step [] x.ch.account z.ch.account := by
    intro z hz
    rw [hz]
    exact .nil _
  cases cmd with
  | dataCb b =>
    have hy := compAndEnqueue_account h
    simp only [Command.entry]
    cases hb : x.ch.readsPrepSnapshotDone b with
    | false =>
      rw [hb] at hy
      exact quiet hy
    | true =>
      rw [hb] at hy
      apply Posting.run
      rw [hy]
      exact .prepSnapshotDone _
  | reqDataCb type numBuf numRetro =>
    apply Posting.run
    rw [(Channel.QueueOnly.skip h).keeps.1]
    exact .request numBuf numRetro x.ch.account
  | startZsl =>
    cases h
    exact Posting.run (.zsl .start x.ch.account id)
  | stopZsl =>
    cases h
    exact Posting.run (.zsl .stop x.ch.account id)
  | configNotify mode | flushQueue | other =>
    cases h
    exact .nil _
  | general g =>
    cases h
    exact quiet (processGeneral_account g x)

/-- **The automatic start or stop** of the ZSL snapshot ends the wait. -/
theorem zslPostings_run (x : Ctx) :
    Run Posting.Step (zslPostings x) x.ch.account (autoZsl x).ch.account := by
  unfold zslPostings
  have called : ∀ {y : Ctx} {call : ZslCall}, y.ch.zslCalls = x.ch.zslCalls ++ [call] →
      y.ch.account = x.ch.account.ready →
      Run Posting.Step ((y.ch.zslCalls.drop x.ch.zslCalls.length).map
        fun call => ⟨.zsl call, y.ch.account⟩) x.ch.account y.ch.account := by
    intro y call hcalls hy
    rw [hcalls, drop_left]
    apply Posting.run
    rw [hy]
    exact .zsl call x.ch.account (by simp)
  unfold autoZsl
  dsimp only
  split_ifs
  · have hflush := flush_keeps .default { x with ch := x.ch.awaitBatches }
    apply @called _ .start
    · exact congrArg (· ++ [ZslCall.start]) hflush.2
    · exact congrArg Account.ready hflush.1
  · exact called rfl rfl
  · exact called rfl rfl
  · rw [List.drop_length]
    exact .nil _

end Command

/-! ### Dispatch -/

section Dispatch

variable {env : Env} {c : ChannelId} {s t : System}

/-- A dequeue leaves the account of every channel alone, that of a dropped super buffer or an
incomplete frame as well. -/
theorem collect_account {info : NodeInfo} (h : collect c s = (info, t)) (d : ChannelId) :
    (t.ch d).account = (s.ch d).account :=
  (collect_queueOnly h d).rest Channel.account fun _ _ => rfl

theorem sendNode_account (cbNode : Bool) (node : Node) (ch : Channel) :
    (sendNode cbNode node ch).account = ch.account := by
  unfold sendNode
  dsimp only
  split_ifs <;> rfl

theorem sendSuperBuf_account (env : Env) (k : ℕ) (info : NodeInfo) (s : System) (d : ChannelId) :
    ((sendSuperBuf env k info s).ch d).account = (s.ch d).account :=
  sendSuperBuf_read sendNode_account env k info s d

theorem countBurst_account (ch : Channel) :
    ch.countBurst.account = ch.countPending.account := by
  have hstop : ∀ ch : Channel, ch.stopAfterBurst.account = ch.account := by
    intro ch
    unfold Channel.stopAfterBurst
    split_ifs <;> rfl
  have hcapture : ∀ ch : Channel, ch.countCapture.account = ch.account := by
    intro ch
    unfold Channel.countCapture
    dsimp only
    split_ifs <;> rfl
  rw [Channel.countBurst, hcapture, hstop]

theorem countPending_account {ch : Channel} (hpos : 0 < ch.account.pendingCnt)
    (hready : ch.account.bWaitForPrepSnapshotDone = false) :
    ch.countPending.account =
      ⟨ch.account.pendingCnt - 1, ch.account.pendingRetroCnt - 1,
        ch.account.pendingRetroCnt == 1⟩ := by
  have hpos' : 0 < ch.pendingCnt := hpos
  have hready' : ch.bWaitForPrepSnapshotDone = false := hready
  have hcnt : decU32 ch.pendingCnt = ch.pendingCnt - 1 := if_neg (Nat.ne_of_gt hpos')
  have hretro : (if 0 < ch.pendingRetroCnt then decU32 ch.pendingRetroCnt
      else ch.pendingRetroCnt) = ch.pendingRetroCnt - 1 := by
    unfold decU32
    split_ifs <;> omega
  simp only [Channel.account, Channel.countPending, hretro, hcnt, hready', Bool.false_or]

theorem dispatching_iff {ch : Channel} :
    ch.dispatching mode = true ↔ (0 < ch.account.pendingCnt ∨ mode = .continuous) ∧
        ch.account.bWaitForPrepSnapshotDone = false := by
  simp [Channel.dispatching, Channel.account]

theorem round_step (k : ℕ) {info : NodeInfo}
    (hd : (s.ch c).dispatching mode = true) (h : collect c s = (info, t)) :
    Account.Step (.round mode) (s.ch c).account ((sendSuperBuf env k info
        (if mode = .burst then t.modify c Channel.countBurst else t)).ch c).account := by
  obtain ⟨hpending, hready⟩ := dispatching_iff.mp hd
  have hcol := collect_account h c
  rw [sendSuperBuf_account]
  cases mode with
  | continuous =>
    rw [if_neg (by simp), hcol]
    exact .continuous hready
  | burst =>
    have hpos : 0 < (s.ch c).account.pendingCnt := by simpa using hpending
    rw [if_pos rfl, modify_ch, countBurst_account]
    -- the counters are those of the channel before the dequeue
    rw [← hcol] at hready hpos ⊢
    rw [countPending_account hpos hready]
    exact .burst hpos hready

/-- **The dispatch loop** posts its rounds and nothing else. -/
theorem dispatchPostings_run {fuel k : ℕ} (h : dispatchLoop env c mode fuel k s = .ok t) :
    Run Posting.Step (dispatchPostings env c mode fuel k s) (s.ch c).account (t.ch c).account := by
  induction fuel generalizing k s with
  | zero =>
    unfold dispatchLoop at h
    split at h
    · cases h
    · cases h
      exact .nil _
  | succ fuel ih =>
    unfold dispatchPostings
    cases hd : (s.ch c).dispatching mode with
    | false =>
      rw [dispatchLoop_of_not _ _ hd] at h
      cases h
      exact .nil _
    | true =>
      cases hcol : collect c s with
      | mk info u =>
        cases info with
        | nil =>
          rw [dispatchLoop_last _ _ hd hcol] at h
          cases h
          simp only [if_pos]
          rw [collect_account hcol c]
          exact .nil _
        | cons p info =>
          rw [dispatchLoop_round _ _ hd hcol (by simp)] at h
          simp only [ne_eq, reduceCtorEq, not_false_eq_true, true_and] at h
          simp only [if_pos]
          exact .cons ⟨round_step k hd hcol, rfl⟩ (ih h)

end Dispatch

section Runs

variable {c : ChannelId} {s t : System}

/-- **A command** posts what leads from the account of its channel before it to the one after. -/
theorem commandPostings_run {env : Env} {cmd : Command}
    (h : processStreamBuf env c cmd s = .ok t) :
    Run Posting.Step (commandPostings env c cmd s) (s.ch c).account (t.ch c).account := by
  by_cases hf : ∃ f ty, cmd = .flushQueue f ty
  · obtain ⟨f, ty, rfl⟩ := hf
    cases h
    have hflush := flush_keeps ty ((s.ctx c).setQueue { (s.ch c).queue with expectedFrameId := f })
    change Run Posting.Step [] _ ((s.put c (processFlush f ty (s.ctx c))).ch c).account
    rw [put_ch]
    change Run Posting.Step [] _ (superbufFlush ty
      ((s.ctx c).setQueue { (s.ch c).queue with expectedFrameId := f })).ch.account
    rw [hflush.1]
    exact .nil _
  · rw [processStreamBuf_eq hf] at h
    obtain ⟨x, hx, h⟩ := bind_eq_ok.mp h
    obtain ⟨y, hy, h⟩ := bind_eq_ok.mp h
    have hpost : commandPostings env c cmd s =
        (cmd.entry (s.ch c)).toList.map (⟨·, x.ch.account⟩) ++ zslPostings x ++
          dispatchPostings env c x.ch.queue.attr.notifyMode ((s.put c y).dispatchFuel c) 0
            (s.put c y) := by
      unfold commandPostings
      split
      · next f ty => exact absurd ⟨f, ty, rfl⟩ hf
      · simp only [hx, hy]
    rw [hpost]
    have hloop := dispatchPostings_run h
    rw [put_ch, (Channel.QueueOnly.overflow hy).keeps.1] at hloop
    exact ((processCommand_postings hx).append (zslPostings_run x)).append hloop

theorem Op.postings_run {op : Op} (h : op.Step s t) (c : ChannelId) :
    Run Posting.Step (op.postings c s) (s.ch c).account (t.ch c).account := by
  cases op with
  | command env d cmd =>
    unfold Op.postings
    by_cases hd : d = c
    · subst hd
      simp only [if_pos]
      exact commandPostings_run h
    · simp only [if_neg hd]
      rw [processStreamBuf_read (f := Channel.account) (fun _ _ => rfl) sendNode_account
        (fun he => hd he.symm) h]
      exact .nil _
  | register d | unregister d =>
    cases h
    exact .nil _

/-- **The account of a channel over a run**: what the run posts leads from the account before it
to the one after it. -/
theorem postings_run {ops : List Op} (h : Run Op.Step ops s t) (c : ChannelId) :
    Run Posting.Step (postings c ops s) (s.ch c).account (t.ch c).account := by
  induction h with
  | nil s => exact .nil _
  | @cons op ops s t u hstep _ ih =>
    have hexec : op.exec s = .ok t := hstep
    unfold postings
    simp only [hexec]
    exact (Op.postings_run hstep c).append ih

/-- **The accounting of a burst**, from any state in which the counters of the channel agree. Over
every run of commands on all channels, in the postings to the account of one of them:

* the retro-active buffers never exceed the pending ones, in no account the run posts and not in
  the one it ends with;
* in the time a request is served, at most as many rounds are dispatched in burst mode as it asks
  for, and both counters count these rounds down without wrapping;
* the wait begins with the round that dispatches the last retro-active buffer of the request, and
  with no other posting;
* in a wait no round is dispatched before metadata reports the prepare-snapshot done, a new
  request arrives, or the ZSL snapshot is started or stopped. -/
theorem burst_accounting {ops : List Op} (h : Run Op.Step ops s t)
    (hs : (s.ch c).pendingRetroCnt ≤ (s.ch c).pendingCnt) :
    ((∀ p ∈ postings c ops s, p.account.pendingRetroCnt ≤ p.account.pendingCnt) ∧
      (t.ch c).pendingRetroCnt ≤ (t.ch c).pendingCnt) ∧
    (∀ numBuf numRetro mid, Served (postings c ops s) numBuf numRetro mid →
      rounds mid ≤ numBuf) ∧
    (∀ numBuf numRetro mid p, Served (postings c ops s) numBuf numRetro (mid ++ [p]) →
      p.account.pendingCnt + rounds (mid ++ [p]) = numBuf ∧
        p.account.pendingRetroCnt = retroOf numBuf numRetro - rounds (mid ++ [p])) ∧
    (∀ numBuf numRetro mid p mode, Served (postings c ops s) numBuf numRetro (mid ++ [p]) →
      p.entry = .round mode →
      (p.account.bWaitForPrepSnapshotDone = true ↔
        mode = .burst ∧ rounds (mid ++ [p]) = retroOf numBuf numRetro)) ∧
    (∀ pre p q post, postings c ops s = pre ++ p :: q :: post →
      q.account.bWaitForPrepSnapshotDone = true →
      p.account.bWaitForPrepSnapshotDone = true ∨ q.entry = .round .burst) ∧
    (∀ pre p mid q post mode, postings c ops s = pre ++ p :: (mid ++ q :: post) →
      p.account.bWaitForPrepSnapshotDone = true → q.entry = .round mode →
      ∃ r ∈ mid, r.entry.endsWait = true) := by
  have hrun := postings_run h c
  refine ⟨postings_retro_le hrun hs, ?_, ?_, ?_, ?_, ?_⟩
  · intro numBuf numRetro mid hmid
    obtain ⟨a, ha⟩ := hmid.run hrun
    obtain ⟨_, _, _, -, -, hreq⟩ := hmid
    have hcnt := (postings_counts ha hreq).1
    simp only at hcnt
    omega
  · intro numBuf numRetro mid p hmid
    obtain ⟨a, ha⟩ := hmid.run hrun
    obtain ⟨_, _, _, -, -, hreq⟩ := hmid
    obtain ⟨_, -, -, hp⟩ := postings_last ha
    rw [hp]
    exact postings_counts ha hreq
  · intro numBuf numRetro mid p mode hmid hentry
    obtain ⟨a, ha⟩ := hmid.run hrun
    obtain ⟨_, _, _, -, -, hreq⟩ := hmid
    obtain ⟨a', ha', hstep, hp⟩ := postings_last ha
    have hcnt := (postings_counts ha' fun q hq => hreq q (mem_append_left _ hq)).2
    rw [hentry] at hstep
    rw [hp, hstep.raised, hcnt]
    apply and_congr_right
    rintro rfl
    have hlast : rounds (mid ++ [p]) = rounds mid + 1 := by
      simp [rounds, hentry, Entry.isBurst]
    rw [hlast]
    change retroOf numBuf numRetro - rounds mid = 1 ↔ _
    omega
  · intro pre p q post hpost hq
    rw [hpost] at hrun
    obtain ⟨a, -, hrun⟩ := hrun.split
    cases hrun with
    | cons hp hrest =>
      cases hrest with
      | cons hstep _ =>
        rw [hstep.2] at hq
        rw [hp.2]
        exact hstep.1.waiting hq
  · intro pre p mid q post mode hpost hp hq
    rw [hpost] at hrun
    obtain ⟨a, -, hrun⟩ := hrun.split
    cases hrun with
    | cons hstep hrest =>
      rw [hstep.2] at hp
      -- whatever comes first in a wait ends it, and is not the round
      cases mid with
      | nil =>
        cases hrest with
        | cons hstep' _ =>
          have hends := hstep'.1.endsWait hp
          rw [hq] at hends
          cases hends
      | cons r mid =>
        cases hrest with
        | cons hstep' _ => exact ⟨r, mem_cons_self, hstep'.1.endsWait hp⟩

/-- Two buffers are requested, one of them retro-active, and the streams deliver two frames: the
first is dispatched, and the second waits for the prepare-snapshot. -/
theorem burst_accounting_oneRetro :
    ∃ t, Run Op.Step [.command .ample 0 (.reqDataCb .superBuf 2 1),
        .command .ample 0 (.dataCb (imageBuf 100 1 5)),
        .command .ample 0 (.dataCb (imageBuf 101 2 5)),
        .command .ample 0 (.dataCb (imageBuf 102 1 6)),
        .command .ample 0 (.dataCb (imageBuf 103 2 6))] twoStreams t ∧
      (t.ch 0).account = ⟨1, 0, true⟩ ∧ (t.ch 0).pendingRetroCnt ≤ (t.ch 0).pendingCnt := by
  obtain ⟨t, run, hacc⟩ : ∃ t, Run Op.Step [.command .ample 0 (.reqDataCb .superBuf 2 1),
      .command .ample 0 (.dataCb (imageBuf 100 1 5)),
      .command .ample 0 (.dataCb (imageBuf 101 2 5)),
      .command .ample 0 (.dataCb (imageBuf 102 1 6)),
      .command .ample 0 (.dataCb (imageBuf 103 2 6))] twoStreams t ∧
      (t.ch 0).account = ⟨1, 0, true⟩ :=
    ⟨_, .cons rfl (.cons rfl (.cons rfl (.cons rfl (.one rfl)))), by decide +kernel⟩
  exact ⟨t, run, hacc, (burst_accounting (c := 0) run (Nat.le_refl 0)).1.2⟩

end Runs

end MmCamera
