import MidoCamera.Stack.Capture
import Mathlib.Algebra.BigOperators.Intervals

/-!
# The index of the batch that is being filled

`cur_capture_idx` indexes the configured batches and the frames awaited of them, two arrays of
`MAX_CAPTURE_BATCH_NUM` entries. It advances with every batch that is complete, and with every
super buffer dispatched while the entry it stands at asks for no frame; nothing in the handler
looks at the size of the arrays. What keeps it in range is that the burst is over in time, which is
told by counting the rounds of the batches in front of an entry.
-/

namespace MmCamera

open Loop List Capture

variable {ch : Channel}

def maxCaptureBatchNum : ℕ := 32

/-! ## The uses of the index -/

/-- The use of `cur_capture_idx` in the branch of a configured capture of
`mm_channel_handle_metadata`. -/
def Channel.configCaptureUses (m : Metadata) (ch : Channel) : List ℕ :=
  match m.goodFrameIdxRange with
  | some r =>
    if ch.isConfigCapture && decide (r.configBatchIdx < ch.frameConfig.numBatch)
        && ch.curCaptureIdx != r.configBatchIdx then [ch.curCaptureIdx]
    else []
  | none => []

/-- The uses in `mm_channel_handle_metadata`, in the state its entries before have left. -/
def metadataUses (b : BufInfo) (m : Metadata) (x : Ctx) : List ℕ :=
  let x := metaDivertInfo b m x
  if x.ch.isZoom1xFrameRequested then []
  else
    let x := metaPrepSnapshotDone m x
    let x := metaGoodFrameIdxRange m x
    let x := metaBracketing m x
    x.ch.configCaptureUses m

/-- The uses before the automatic start of the ZSL snapshot: those of the metadata a buffer
brings. -/
def Command.captureUses (x : Ctx) : Command → List ℕ
  | .dataCb b =>
    if (x.ch.queue.slotOf b.streamId).isSome && b.frameIdx != 0 then
      (x.ch.metadataOf b).elim [] fun m => metadataUses b m x
    else []
  | _ => []

/-- The batches still to come, as the two loops of the start of a ZSL snapshot go through them. -/
def Channel.batchesToCome (ch : Channel) : List ℕ :=
  List.range' ch.curCaptureIdx (ch.frameConfig.numBatch - ch.curCaptureIdx)

/-- The batches looked at for one that does not need the ZSL snapshot: up to the first of these. -/
def Channel.batchesSearched (ch : Channel) : List ℕ :=
  let needed := ch.batchesToCome.takeWhile fun i =>
    let type := (ch.frameConfig.configs i).type
    !((type == .flash && !ch.needLEDFlash) || (type == .lowLight && !ch.needLowLightZSL))
  ch.batchesToCome.take (needed.length + 1)

/-- The uses in the automatic start of the ZSL snapshot. -/
def Channel.zslUses (ch : Channel) : List ℕ :=
  if decide (0 < ch.pendingCnt) && ch.isConfigCapture && !ch.manualZSLSnapshot
      && !ch.startZSlSnapshotCalled then
    ch.batchesSearched ++ if ch.needStartZSL then ch.batchesToCome else []
  else []

/-- The use for a super buffer that has been dequeued. -/
def collectUses (c : ChannelId) (s : System) : List ℕ :=
  if (s.ch c).reqType = .frameSyncBuf then []
  else
    match superbufDequeue (s.ctx c) with
    | (some _, x) => if x.ch.isConfigCapture then [x.ch.curCaptureIdx] else []
    | (none, _) => []

/-- The uses in the step to the next batch. -/
def Channel.countUses (ch : Channel) : List ℕ :=
  if ch.isConfigCapture then
    let i := ch.curCaptureIdx
    let numFrames := (ch.frameConfig.configs i).numFrames
    if (if numFrames ≠ 0 then numFrames - 1 else numFrames) = 0 then [i, (i + 1) % 2 ^ 8] else [i]
  else []

/-- The uses in the dispatch loop. -/
def dispatchUses (env : Env) (c : ChannelId) (mode : NotifyMode) : ℕ → ℕ → System → List ℕ
  | 0, _, _ => []
  | fuel + 1, k, s =>
    if (s.ch c).dispatching mode then
      collectUses c s ++
        match collect c s with
        | ([], _) => []
        | (info, s) =>
          (if mode = .burst then (s.ch c).countPending.stopAfterBurst.countUses else []) ++
            let s := if mode = .burst then s.modify c Channel.countBurst else s
            dispatchUses env c mode fuel (k + info.length) (sendSuperBuf env k info s)
    else []

/-- The uses of `cur_capture_idx` as an index in one command. -/
def commandUses (env : Env) (c : ChannelId) (cmd : Command) (s : System) : List ℕ :=
  match cmd with
  | .flushQueue .. => []
  | cmd =>
    cmd.captureUses (s.ctx c) ++
      match processCommand env c cmd (s.ctx c) with
      | .error _ => []
      | .ok x =>
        x.ch.zslUses ++
          match superbufBufdoneOverflow (autoZsl x) with
          | .error _ => []
          | .ok y =>
            let s := s.put c y
            dispatchUses env c x.ch.queue.attr.notifyMode (s.dispatchFuel c) 0 s

/-- The uses of the index of channel `c` in a list of operations, up to one that does not
return. -/
def captureUses (c : ChannelId) : List Op → System → List ℕ
  | [], _ => []
  | op :: ops, s =>
    (match op with
      | .command env d cmd => if d = c then commandUses env c cmd s else []
      | _ => []) ++
      match op.exec s with
      | .ok t => captureUses c ops t
      | .error _ => []

/-! ## Bursts that fit -/

/-- The super buffers dispatched until the index comes to entry `j`. -/
def Capture.roundsTo (a : Capture) (j : ℕ) : ℕ :=
  ∑ i ∈ Finset.Ico a.curCaptureIdx j, max 1 (a.frameConfig.configs i).numFrames.toNat

/-- A batch in front of entry `j` asks for a negative number of frames, and is never complete. -/
def Capture.EndlessBefore (a : Capture) (j : ℕ) : Prop :=
  ∃ i, a.curCaptureIdx ≤ i ∧ i < j ∧ (a.frameConfig.configs i).numFrames < 0

/-- While a capture is configured, the pending super buffers are dispatched before the index comes
to entry `j`, or the last of them ends the capture; `zsl` says that it does. -/
def Capture.Fits (a : Capture) (zsl : Bool) (j : ℕ) : Prop :=
  a.isConfigCapture = true → a.curCaptureIdx < j ∧
    (a.EndlessBefore j ∨ a.pendingCnt < a.roundsTo j ∨ a.pendingCnt = a.roundsTo j ∧ zsl = true)

/-- **The burst of a channel fits below entry `j`**, in the state before the ZSL snapshot is
started. -/
def Channel.FitsBelow (ch : Channel) (j : ℕ) : Prop := ch.capture.Fits ch.zslRuns j

/-- A handler that takes care of the ZSL snapshot has started it. -/
def Capture.zslStarted (a : Capture) : Bool :=
  !a.manualZSLSnapshot && a.startZSlSnapshotCalled

/-- The burst fits once the ZSL snapshot has been started where it is to be. -/
def Capture.FitsBelow (a : Capture) (j : ℕ) : Prop := a.Fits a.zslStarted j

section Fits

variable {a : Capture} {ch : Channel} {j : ℕ}

theorem Capture.roundsTo_pos (h : a.curCaptureIdx < j) : 0 < a.roundsTo j := by
  unfold roundsTo
  rw [Finset.sum_eq_sum_Ico_succ_bot h]
  exact Nat.add_pos_left (lt_of_lt_of_le Nat.one_pos (le_max_left 1 _)) _

theorem Capture.FitsBelow.channel (h : ch.capture.FitsBelow j) : ch.FitsBelow j := by
  intro hcfg
  obtain ⟨hcur, hfits⟩ := h hcfg
  refine ⟨hcur, hfits.imp_right (Or.imp_right ?_)⟩
  rintro ⟨hcnt, hzsl⟩
  refine ⟨hcnt, ?_⟩
  have hzsl' : ch.manualZSLSnapshot = false ∧ ch.startZSlSnapshotCalled = true := by
    simpa [Capture.zslStarted, Channel.capture] using hzsl
  simp [Channel.zslRuns, hzsl'.1, hzsl'.2]

/-- **The start of the ZSL snapshot**: a burst that fits with the snapshot about to run fits with it
started. -/
theorem Channel.FitsBelow.autoZsl (h : ch.FitsBelow j) (ha : ch.AutoZsl a) : a.FitsBelow j := by
  intro hcfg
  cases ha with
  | stop => cases hcfg
  | start _ auto _ =>
    obtain ⟨hcur, hfits⟩ := h hcfg
    refine ⟨hcur, hfits.imp_right (Or.imp_right ?_)⟩
    rintro ⟨hcnt, -⟩
    refine ⟨hcnt, ?_⟩
    simp [Capture.zslStarted, Capture.started, Channel.capture, auto]
  | keep _ idle =>
    obtain ⟨hcur, hfits⟩ := h hcfg
    refine ⟨hcur, hfits.imp_right (Or.imp_right ?_)⟩
    rintro ⟨hcnt, hzsl⟩
    refine ⟨hcnt, ?_⟩
    have hpos : 0 < ch.pendingCnt := by
      have := roundsTo_pos hcur
      rw [← hcnt] at this
      exact this
    have hauto : ch.manualZSLSnapshot = false := by
      simp only [Channel.zslRuns, Bool.and_eq_true, Bool.not_eq_true'] at hzsl
      exact hzsl.1
    cases hrun : ch.startZSlSnapshotCalled with
    | true => simp [Capture.zslStarted, Channel.capture, hauto, hrun]
    | false =>
      rw [idle hpos hrun] at hzsl
      cases hzsl

/-! ### One round -/

/-- The round that completes a batch, or finds it asking for no frame, moves the index on and
leaves the batches behind it alone. -/
theorem Capture.count_complete (hcfg : a.isConfigCapture = true)
    (h0 : 0 ≤ (a.frameConfig.configs a.curCaptureIdx).numFrames)
    (h1 : (a.frameConfig.configs a.curCaptureIdx).numFrames ≤ 1) :
    a.count.curCaptureIdx = (a.curCaptureIdx + 1) % 2 ^ 8 ∧
      ∀ i, i ≠ a.curCaptureIdx → a.count.frameConfig.configs i = a.frameConfig.configs i := by
  unfold Capture.count
  rw [if_pos hcfg]
  dsimp only
  have hzero : (if (a.frameConfig.configs a.curCaptureIdx).numFrames ≠ 0 then
      { a.frameConfig.configs a.curCaptureIdx with
        numFrames := (a.frameConfig.configs a.curCaptureIdx).numFrames - 1 }
      else a.frameConfig.configs a.curCaptureIdx).numFrames = 0 := by
    split_ifs with hne
    · change (a.frameConfig.configs a.curCaptureIdx).numFrames - 1 = 0
      omega
    · exact not_not.mp hne
  rw [if_pos hzero]
  exact ⟨rfl, fun i hi => Function.update_of_ne hi _ _⟩

theorem Capture.count_open (hcfg : a.isConfigCapture = true)
    (hopen : (a.frameConfig.configs a.curCaptureIdx).numFrames < 0 ∨
      1 < (a.frameConfig.configs a.curCaptureIdx).numFrames) :
    a.count.curCaptureIdx = a.curCaptureIdx ∧
      (a.count.frameConfig.configs a.curCaptureIdx).numFrames =
        (a.frameConfig.configs a.curCaptureIdx).numFrames - 1 ∧
      ∀ i, i ≠ a.curCaptureIdx → a.count.frameConfig.configs i = a.frameConfig.configs i := by
  have hne : (a.frameConfig.configs a.curCaptureIdx).numFrames ≠ 0 := by omega
  have hleft : (a.frameConfig.configs a.curCaptureIdx).numFrames - 1 ≠ 0 := by omega
  unfold Capture.count
  rw [if_pos hcfg]
  dsimp only
  rw [if_pos hne, if_neg hleft]
  refine ⟨rfl, ?_, fun i hi => Function.update_of_ne hi _ _⟩
  simp only [Function.update_self]

/-- **One round** brings the index one round closer to any entry in front of it. -/
theorem Capture.count_roundsTo (hcfg : a.isConfigCapture = true) (hcur : a.curCaptureIdx < j)
    (hj : j < 2 ^ 8) :
    (a.EndlessBefore j → a.count.EndlessBefore j) ∧
      (a.count.EndlessBefore j ∨ a.count.roundsTo j + 1 = a.roundsTo j) := by
  -- the batches behind the current one are as they were, and so are their rounds
  have hrest : (∀ i, i ≠ a.curCaptureIdx →
      a.count.frameConfig.configs i = a.frameConfig.configs i) →
      ∑ i ∈ Finset.Ico (a.curCaptureIdx + 1) j,
        max 1 (a.count.frameConfig.configs i).numFrames.toNat =
      ∑ i ∈ Finset.Ico (a.curCaptureIdx + 1) j,
        max 1 (a.frameConfig.configs i).numFrames.toNat := by
    intro hsame
    refine Finset.sum_congr rfl fun i hi => ?_
    rw [hsame i (by rw [Finset.mem_Ico] at hi; omega)]
  have hsplit : a.roundsTo j = max 1 (a.frameConfig.configs a.curCaptureIdx).numFrames.toNat +
      ∑ i ∈ Finset.Ico (a.curCaptureIdx + 1) j, max 1 (a.frameConfig.configs i).numFrames.toNat :=
    Finset.sum_eq_sum_Ico_succ_bot hcur _
  by_cases hdone : 0 ≤ (a.frameConfig.configs a.curCaptureIdx).numFrames ∧
      (a.frameConfig.configs a.curCaptureIdx).numFrames ≤ 1
  · obtain ⟨hidx, hsame⟩ := count_complete hcfg hdone.1 hdone.2
    have hidx' : a.count.curCaptureIdx = a.curCaptureIdx + 1 := by
      rw [hidx, Nat.mod_eq_of_lt (by omega)]
    refine ⟨?_, .inr ?_⟩
    · rintro ⟨i, hle, hlt, hneg⟩
      have hne : i ≠ a.curCaptureIdx := by
        rintro rfl
        omega
      exact ⟨i, by omega, hlt, by rwa [hsame i hne]⟩
    · unfold roundsTo at hsplit ⊢
      rw [hidx', hrest hsame, hsplit]
      omega
  · have hopen : (a.frameConfig.configs a.curCaptureIdx).numFrames < 0 ∨
        1 < (a.frameConfig.configs a.curCaptureIdx).numFrames := by omega
    obtain ⟨hidx, hless, hsame⟩ := count_open hcfg hopen
    refine ⟨?_, ?_⟩
    · rintro ⟨i, hle, hlt, hneg⟩
      refine ⟨i, hidx ▸ hle, hlt, ?_⟩
      by_cases hi : i = a.curCaptureIdx
      · subst hi
        omega
      · rwa [hsame i hi]
    · rcases hopen with hneg | hmore
      · exact .inl ⟨a.curCaptureIdx, hidx.le, hcur, by omega⟩
      · right
        unfold roundsTo at hsplit ⊢
        rw [hidx, Finset.sum_eq_sum_Ico_succ_bot hcur, hrest hsame, hsplit, hless]
        omega

/-- While the index stands in front of entry `j` and the burst is not over before it comes there,
one more round does not bring it there. -/
theorem Capture.count_lt (hcfg : a.isConfigCapture = true) (hcur : a.curCaptureIdx < j)
    (hj : j < 2 ^ 8) (hfar : a.EndlessBefore j ∨ 1 < a.roundsTo j) :
    a.count.curCaptureIdx < j := by
  by_cases hdone : 0 ≤ (a.frameConfig.configs a.curCaptureIdx).numFrames ∧
      (a.frameConfig.configs a.curCaptureIdx).numFrames ≤ 1
  · obtain ⟨hidx, -⟩ := count_complete hcfg hdone.1 hdone.2
    rw [hidx, Nat.mod_eq_of_lt (by omega)]
    by_contra hlast
    have hj' : j = a.curCaptureIdx + 1 := by omega
    subst hj'
    rcases hfar with ⟨i, hle, hlt, hneg⟩ | hmore
    · obtain rfl : i = a.curCaptureIdx := by omega
      omega
    · simp only [roundsTo, Nat.Ico_succ_singleton, Finset.sum_singleton] at hmore
      omega
  · have hopen : (a.frameConfig.configs a.curCaptureIdx).numFrames < 0 ∨
        1 < (a.frameConfig.configs a.curCaptureIdx).numFrames := by omega
    rw [(count_open hcfg hopen).1]
    exact hcur

theorem Capture.FitsBelow.round {b : Capture} (h : ch.capture.FitsBelow j) (hj : j < 2 ^ 8)
    (hpos : 0 < ch.pendingCnt) (hb : ch.Round b) : b.FitsBelow j := by
  intro hcfg
  cases hb with
  | stop => cases hcfg
  | count serving =>
    have hcfg' : ch.isConfigCapture = true := by
      rw [count_eq] at hcfg
      exact hcfg
    obtain ⟨hcur, hfits⟩ := h hcfg'
    obtain ⟨hendless, hrounds⟩ := count_roundsTo
      (a := { ch.capture with pendingCnt := ch.pendingCnt - 1 }) hcfg' hcur hj
    have hcnt : { ch.capture with pendingCnt := ch.pendingCnt - 1 }.count.pendingCnt =
        ch.pendingCnt - 1 := by rw [count_eq]
    have hzsl : { ch.capture with pendingCnt := ch.pendingCnt - 1 }.count.zslStarted =
        ch.capture.zslStarted := by
      rw [count_eq]
      rfl
    -- the last super buffer of a burst under the ZSL snapshot is not counted here
    have hlast : ch.capture.zslStarted = true → 1 < ch.pendingCnt := by
      intro hrun
      have hrun' : ch.manualZSLSnapshot = false ∧ ch.startZSlSnapshotCalled = true := by
        simpa [Capture.zslStarted, Channel.capture] using hrun
      exact serving hrun'.1 hrun'.2
    have hfar : ch.capture.EndlessBefore j ∨ 1 < ch.capture.roundsTo j := by
      refine hfits.imp_right ?_
      rintro (hless | ⟨heq, hrun⟩)
      · exact lt_of_le_of_lt hpos hless
      · exact heq ▸ hlast hrun
    refine ⟨count_lt hcfg' hcur hj hfar, ?_⟩
    rw [hcnt, hzsl]
    rcases hrounds with hnever | hrounds
    · exact .inl hnever
    · change _ = ch.capture.roundsTo j at hrounds
      change ch.capture.EndlessBefore j ∨ ch.pendingCnt < ch.capture.roundsTo j ∨
        ch.pendingCnt = ch.capture.roundsTo j ∧ ch.capture.zslStarted = true at hfits
      rcases hfits with hnever | hless | ⟨heq, hrun⟩
      · exact .inl (hendless hnever)
      · exact .inr (.inl (by omega))
      · exact .inr (.inr ⟨by omega, hrun⟩)

end Fits

/-! ## Commands -/

/-- The channel as `CAPTURE_SETTING` leaves it. -/
def Channel.setCapture (start : Bool) (config : FrameConfig) (ch : Channel) : Channel :=
  { ch with
    frameConfig := if start then config.load else .zero
    isConfigCapture := start
    curCaptureIdx := 0
    captureFrameId := clearCaptureFrameId ch.captureFrameId }

/-- **A command leaves a burst that fits below entry `j`**: of the commands that set the burst, the
batches or the ZSL snapshot, the ones that can spoil it. -/
def Command.FitsBelow (ch : Channel) (j : ℕ) : Command → Prop
  | .reqDataCb type numBuf numRetro => (ch.request type numBuf numRetro).FitsBelow j
  | .startZsl => { ch with manualZSLSnapshot := true }.FitsBelow j
  | .general (.captureSetting start config) => (ch.setCapture start config).FitsBelow j
  | _ => True

section Command

variable {env : Env} {c : ChannelId} {x y : Ctx} {j : ℕ}

theorem processCommand_fits {cmd : Command} (hcmd : cmd.FitsBelow x.ch j)
    (hx : x.ch.capture.FitsBelow j) (h : processCommand env c cmd x = .ok y) :
    y.ch.FitsBelow j := by
  have same : y.ch.capture = x.ch.capture → y.ch.FitsBelow j := by
    intro heq
    exact Capture.FitsBelow.channel (heq ▸ hx)
  have quiet : cmd.onCapture x.ch.capture = x.ch.capture → y.ch.FitsBelow j := by
    intro heq
    exact same ((processCommand_capture h).trans heq)
  cases cmd with
  | dataCb b | configNotify mode | flushQueue | other => exact quiet rfl
  | reqDataCb type numBuf numRetro =>
    rw [(Channel.QueueOnly.skip h).rest (Channel.FitsBelow · j) fun _ _ => rfl]
    exact hcmd
  | startZsl =>
    cases h
    exact hcmd
  | stopZsl =>
    cases h
    -- the ZSL snapshot is the handler's again, which only helps
    intro hcfg
    obtain ⟨hcur, hfits⟩ := hx hcfg
    refine ⟨hcur, hfits.imp_right (Or.imp_right ?_)⟩
    rintro ⟨hcnt, hzsl⟩
    have hrun : x.ch.startZSlSnapshotCalled = true := by
      simp only [Capture.zslStarted, Channel.capture, Bool.and_eq_true] at hzsl
      exact hzsl.2
    exact ⟨hcnt, by simp [Channel.zslRuns, hrun]⟩
  | general g =>
    cases g with
    | captureSetting start config =>
      cases h
      exact hcmd
    | aeBracketing | afBracketing | flashBracketing | zoom1x | invalid => exact quiet rfl

end Command

/-! ## The index in range -/

/-- The burst fits below the size of the arrays, and so do the configured batches. -/
structure Capture.InRange (a : Capture) : Prop where
  fits : a.FitsBelow maxCaptureBatchNum
  batches : a.isConfigCapture = true → a.frameConfig.numBatch ≤ maxCaptureBatchNum

namespace Capture.InRange

variable {a b : Capture} {ch : Channel}

theorem index (h : a.InRange) (hcfg : a.isConfigCapture = true) :
    a.curCaptureIdx < maxCaptureBatchNum := (h.fits hcfg).1

theorem round (h : ch.capture.InRange) (hpos : 0 < ch.pendingCnt) (hb : ch.Round b) :
    b.InRange := by
  refine ⟨h.fits.round (by decide) hpos hb, ?_⟩
  cases hb with
  | stop =>
    intro hcfg
    cases hcfg
  | count =>
    have hbatches : { ch.capture with pendingCnt := ch.pendingCnt - 1 }.count.frameConfig.numBatch =
        ch.capture.frameConfig.numBatch := by
      unfold Capture.count
      dsimp only
      split_ifs <;> rfl
    rw [hbatches, count_eq]
    exact h.batches

end Capture.InRange

theorem inRange_autoZsl {a : Capture} (hfits : ch.FitsBelow maxCaptureBatchNum)
    (hwithin : ch.isConfigCapture = true → ch.frameConfig.numBatch ≤ maxCaptureBatchNum)
    (ha : ch.AutoZsl a) : a.InRange := by
  refine ⟨hfits.autoZsl ha, ?_⟩
  cases ha with
  | start | keep => exact hwithin
  | stop =>
    intro hcfg
    cases hcfg

/-- A capture setting with no more batches than the arrays have entries. -/
def Command.BatchesWithin : Command → Prop
  | .general (.captureSetting _ config) => config.numBatch ≤ maxCaptureBatchNum
  | _ => True

theorem load_numBatch_le (config : FrameConfig) : config.load.numBatch ≤ config.numBatch := by
  unfold FrameConfig.load
  have hfold : ∀ (is : List ℕ) (fc : FrameConfig), (is.foldl (fun fc i =>
      if (config.configs i).type = .reset then fc
      else ⟨fc.numBatch + 1, Function.update fc.configs fc.numBatch (config.configs i)⟩)
      fc).numBatch ≤ fc.numBatch + is.length := by
    intro is
    induction is with
    | nil => exact fun fc => le_rfl
    | cons i is ih =>
      intro fc
      rw [foldl_cons, length_cons]
      split_ifs
      · have := ih fc
        omega
      · have := ih ⟨fc.numBatch + 1, Function.update fc.configs fc.numBatch (config.configs i)⟩
        simp only at this
        omega
  simpa [FrameConfig.zero] using hfold (range config.numBatch) .zero

section Uses

variable {env : Env} {c : ChannelId} {s t : System} {x y : Ctx} {cmd : Command}

theorem configCaptureUses_lt {m : Metadata} (h : ch.capture.InRange) :
    ∀ i ∈ ch.configCaptureUses m, i < maxCaptureBatchNum := by
  intro i hi
  unfold Channel.configCaptureUses at hi
  split at hi
  · split_ifs at hi with hguard
    · obtain rfl := mem_singleton.mp hi
      simp only [Bool.and_eq_true] at hguard
      exact h.index hguard.1.1
    · simp at hi
  · simp at hi

theorem commandCaptureUses_lt (h : x.ch.capture.InRange) (cmd : Command) :
    ∀ i ∈ cmd.captureUses x, i < maxCaptureBatchNum := by
  intro i hi
  cases cmd with
  | dataCb b =>
    simp only [Command.captureUses] at hi
    split_ifs at hi
    · cases hm : x.ch.metadataOf b with
      | none => simp [hm] at hi
      | some m =>
        rw [hm, Option.elim_some] at hi
        unfold metadataUses at hi
        dsimp only at hi
        split_ifs at hi
        · simp at hi
        · refine configCaptureUses_lt ?_ i hi
          rwa [beforeConfigCapture_read b m x capture_unmarked fun _ _ => rfl]
    · simp at hi
  | _ => simp [Command.captureUses] at hi

theorem zslUses_lt (h : ch.isConfigCapture = true → ch.frameConfig.numBatch ≤ maxCaptureBatchNum) :
    ∀ i ∈ ch.zslUses, i < maxCaptureBatchNum := by
  intro i hi
  unfold Channel.zslUses at hi
  split_ifs at hi with hguard hneed
  · have hcome : i ∈ ch.batchesToCome := by
      rcases mem_append.mp hi with hi | hi
      · exact mem_of_mem_take hi
      · exact hi
    simp only [Bool.and_eq_true] at hguard
    have hbatches := h hguard.1.1.2
    simp only [Channel.batchesToCome, mem_range'_1] at hcome
    omega
  · have hcome : i ∈ ch.batchesToCome := by
      rw [append_nil] at hi
      exact mem_of_mem_take hi
    simp only [Bool.and_eq_true] at hguard
    have hbatches := h hguard.1.1.2
    simp only [Channel.batchesToCome, mem_range'_1] at hcome
    omega
  · simp at hi

theorem collectUses_lt (h : (s.ch c).capture.InRange) :
    ∀ i ∈ collectUses c s, i < maxCaptureBatchNum := by
  intro i hi
  unfold collectUses at hi
  split_ifs at hi
  · simp at hi
  · split at hi
    · next node x hdeq =>
      have hx : x.ch.capture = (s.ch c).capture := (Channel.QueueOnly.dequeue hdeq).capture
      split_ifs at hi with hcfg
      · obtain rfl := mem_singleton.mp hi
        rw [← hx] at h
        exact h.index hcfg
      · simp at hi
    · simp at hi

theorem mem_countUses {i : ℕ} (hi : i ∈ ch.countUses) :
    ch.isConfigCapture = true ∧
      (i = ch.curCaptureIdx ∨ i = ch.countCapture.capture.curCaptureIdx) := by
  unfold Channel.countUses at hi
  cases hcfg : ch.isConfigCapture with
  | false => simp [hcfg] at hi
  | true =>
    refine ⟨rfl, ?_⟩
    rw [hcfg, if_pos rfl] at hi
    dsimp only at hi
    by_cases hzero : (if (ch.frameConfig.configs ch.curCaptureIdx).numFrames ≠ 0 then
        (ch.frameConfig.configs ch.curCaptureIdx).numFrames - 1
        else (ch.frameConfig.configs ch.curCaptureIdx).numFrames) = 0
    · rw [if_pos hzero] at hi
      have hdone : 0 ≤ (ch.frameConfig.configs ch.curCaptureIdx).numFrames ∧
          (ch.frameConfig.configs ch.curCaptureIdx).numFrames ≤ 1 := by
        split_ifs at hzero <;> omega
      refine (mem_pair.mp hi).imp_right ?_
      rintro rfl
      rw [countCapture_capture, (count_complete hcfg hdone.1 hdone.2).1]
      rfl
    · rw [if_neg hzero] at hi
      exact .inl (mem_singleton.mp hi)

theorem roundUses_lt (h : ch.capture.InRange) (hpos : 0 < ch.pendingCnt) :
    ∀ i ∈ ch.countPending.stopAfterBurst.countUses, i < maxCaptureBatchNum := by
  intro i hi
  obtain ⟨hcfg, hidx⟩ := mem_countUses hi
  -- the capture goes on after the round, so it was there before
  have hbefore : ch.isConfigCapture = true ∧
      ch.countPending.stopAfterBurst.curCaptureIdx = ch.curCaptureIdx := by
    unfold Channel.stopAfterBurst at hcfg ⊢
    split_ifs at hcfg ⊢
    · cases hcfg
    · exact ⟨hcfg, rfl⟩
  rcases hidx with rfl | rfl
  · rw [hbefore.2]
    exact h.index hbefore.1
  · refine (h.round hpos (countBurst_capture hpos)).index ?_
    change ch.countPending.stopAfterBurst.countCapture.capture.isConfigCapture = true
    rw [countCapture_capture, count_eq]
    exact hcfg

/-- **The dispatch loop** uses the index in range. -/
theorem dispatchUses_lt {mode : NotifyMode} {fuel k : ℕ} (h : (s.ch c).capture.InRange) :
    ∀ i ∈ dispatchUses env c mode fuel k s, i < maxCaptureBatchNum := by
  induction fuel generalizing k s with
  | zero => simp [dispatchUses]
  | succ fuel ih =>
    unfold dispatchUses
    cases hd : (s.ch c).dispatching mode with
    | false => simp
    | true =>
      cases hcol : collect c s with
      | mk info u =>
        have hu : (u.ch c).capture.InRange := by
          rwa [(collect_queueOnly hcol c).capture]
        rw [if_pos rfl]
        intro i hi
        rcases mem_append.mp hi with hi | hi
        · exact collectUses_lt h i hi
        · cases info with
          | nil => simp at hi
          | cons p info =>
            dsimp only at hi
            by_cases hmode : mode = .burst
            · subst hmode
              have hpos : 0 < (u.ch c).pendingCnt := by
                have hcnt := congrArg pendingCnt (collect_queueOnly hcol c).capture
                exact lt_of_lt_of_eq (pending_of_dispatching hd) hcnt.symm
              rw [if_pos rfl, if_pos rfl] at hi
              rcases mem_append.mp hi with hi | hi
              · exact roundUses_lt hu hpos i hi
              · refine ih ?_ i hi
                rw [sendSuperBuf_read sendNode_capture, modify_ch]
                exact hu.round hpos (countBurst_capture hpos)
            · rw [if_neg hmode, if_neg hmode, nil_append] at hi
              refine ih ?_ i hi
              rwa [sendSuperBuf_read sendNode_capture]

theorem processCommand_inRange (hx : x.ch.capture.InRange) (hbatches : cmd.BatchesWithin)
    (hcmd : cmd.FitsBelow x.ch maxCaptureBatchNum) (h : processCommand env c cmd x = .ok y) :
    y.ch.FitsBelow maxCaptureBatchNum ∧
      (y.ch.isConfigCapture = true → y.ch.frameConfig.numBatch ≤ maxCaptureBatchNum) := by
  refine ⟨processCommand_fits hcmd hx.fits h, ?_⟩
  have hy := processCommand_capture h
  change y.ch.capture.isConfigCapture = true → y.ch.capture.frameConfig.numBatch ≤ _
  rw [hy]
  cases cmd with
  | general g =>
    cases g with
    | captureSetting start config =>
      rintro rfl
      exact (load_numBatch_le config).trans hbatches
    | _ => exact hx.batches
  | _ => exact hx.batches

theorem commandUses_lt (h : (s.ch c).capture.InRange) (hbatches : cmd.BatchesWithin)
    (hcmd : cmd.FitsBelow (s.ch c) maxCaptureBatchNum) :
    ∀ i ∈ commandUses env c cmd s, i < maxCaptureBatchNum := by
  intro i hi
  unfold commandUses at hi
  split at hi
  · simp at hi
  · rcases mem_append.mp hi with hi | hi
    · exact commandCaptureUses_lt (x := s.ctx c) h cmd i hi
    · cases hx : processCommand env c cmd (s.ctx c) with
      | error f => simp [hx] at hi
      | ok x =>
        obtain ⟨hfits, hwithin⟩ := processCommand_inRange (x := s.ctx c) h hbatches hcmd hx
        rw [hx] at hi
        rcases mem_append.mp hi with hi | hi
        · exact zslUses_lt hwithin i hi
        · cases hy : superbufBufdoneOverflow (autoZsl x) with
          | error f => simp [hy] at hi
          | ok y =>
            rw [hy] at hi
            refine dispatchUses_lt ?_ i hi
            rw [put_ch, (Channel.QueueOnly.overflow hy).capture]
            exact inRange_autoZsl hfits hwithin (autoZsl_capture x)

theorem processStreamBuf_inRange (hs : (s.ch c).capture.InRange) (hbatches : cmd.BatchesWithin)
    (hcmd : cmd.FitsBelow (s.ch c) maxCaptureBatchNum)
    (h : processStreamBuf env c cmd s = .ok t) : (t.ch c).capture.InRange :=
  processStreamBuf_invariant (J := fun ch => ch.FitsBelow maxCaptureBatchNum ∧
      (ch.isConfigCapture = true → ch.frameConfig.numBatch ≤ maxCaptureBatchNum))
    (fun _ _ _ => hs) (fun _ hx => processCommand_inRange (x := s.ctx c) hs hbatches hcmd hx)
    (fun _ _ hch ha => inRange_autoZsl hch.1 hch.2 ha)
    (fun _ _ hpos ha hch => hch.round hpos ha) h

end Uses

section Runs

variable {c : ChannelId}

/-- **The index stays in range**: over every list of operations on all channels, from any state in
which no capture is configured, if no capture setting has more batches than the arrays have entries
and every command that sets the burst of a channel leaves one that fits below their size, then every
use of `cur_capture_idx` as an index is below it. -/
theorem captureIdx_in_range {ops : List Op} {s : System} (idle : (s.ch c).isConfigCapture = false)
    (within : Along (Op.OnChannel c fun cmd _ => cmd.BatchesWithin) ops s)
    (fits : Along (Op.OnChannel c fun cmd ch => cmd.FitsBelow ch maxCaptureBatchNum) ops s) :
    ∀ i ∈ captureUses c ops s, i < maxCaptureBatchNum := by
  have hstart : (s.ch c).capture.InRange := by
    constructor
    · intro hcfg
      cases idle.symm.trans hcfg
    · intro hcfg
      cases idle.symm.trans hcfg
  clear idle
  induction ops generalizing s with
  | nil => simp [captureUses]
  | cons op ops ih =>
    obtain ⟨hwithin, within⟩ := within
    obtain ⟨hfits, fits⟩ := fits
    intro i hi
    unfold captureUses at hi
    rcases mem_append.mp hi with hi | hi
    · cases op with
      | command env d cmd =>
        dsimp only at hi
        split_ifs at hi with hd
        · exact commandUses_lt hstart (hwithin hd) (hfits hd) i hi
        · simp at hi
      | register d | unregister d => simp at hi
    · cases hexec : op.exec s with
      | error f => simp [hexec] at hi
      | ok t =>
        rw [hexec] at hi
        refine ih (within t hexec) (fits t hexec) ?_ i hi
        cases op with
        | command env d cmd =>
          by_cases hd : d = c
          · subst hd
            exact processStreamBuf_inRange hstart (hwithin rfl) (hfits rfl) hexec
          · rw [processStreamBuf_read (f := Channel.capture) (fun _ _ => rfl) sendNode_capture
              (fun he => hd he.symm) hexec]
            exact hstart
        | register d | unregister d =>
          cases hexec
          exact hstart

end Runs

/-- Channels that bundle one stream, whose buffers are complete super buffers. -/
def oneStream : System :=
  .started fun _ => .started [1] (.burst .normal false) [.own 1 .preview]

/-- A capture of single frames with the flash, which may turn out not to be needed, and a super
buffer for each. -/
def flashBurst (frames : ℕ) : List Op :=
  .command .ample 0 (.general (.captureSetting true ⟨frames, fun _ => ⟨1, .flash⟩⟩)) ::
    .command .ample 0 (.reqDataCb .superBuf frames 0) ::
    (List.range frames).map fun k => .command .ample 0 (.dataCb (imageBuf k 1 (k + 1)))

/-- As many batches as the arrays have entries, a super buffer for each, and no flash: the handler
starts no ZSL snapshot that would end the capture, and the last super buffer moves the index behind
the arrays. -/
theorem captureIdx_out_of_range :
    Along (Op.OnChannel 0 fun cmd _ => cmd.BatchesWithin) (flashBurst 32) oneStream ∧
      maxCaptureBatchNum ∈ captureUses 0 (flashBurst 32) oneStream := by
  refine ⟨along_of_forall ?_ oneStream, by decide +kernel⟩
  intro op hop s
  simp only [flashBurst, mem_cons, mem_map] at hop
  rcases hop with rfl | rfl | ⟨k, -, rfl⟩
  · exact fun _ => show 32 ≤ 32 by decide
  · exact fun _ => trivial
  · exact fun _ => trivial

/-- One batch of one frame. -/
theorem captureIdx_in_range_oneFrame :
    captureUses 0 (flashBurst 1) oneStream ≠ [] ∧
      ∀ i ∈ captureUses 0 (flashBurst 1) oneStream, i < maxCaptureBatchNum := by
  refine ⟨by decide +kernel, captureIdx_in_range rfl ?_ ?_⟩
  · refine ⟨fun _ => show 1 ≤ 32 by decide, ?_⟩
    rintro t ⟨⟩
    refine ⟨fun _ => trivial, ?_⟩
    rintro t ⟨⟩
    refine ⟨fun _ => trivial, ?_⟩
    rintro t ⟨⟩
    trivial
  · refine ⟨fun _ _ => ⟨by decide, .inr (.inl (roundsTo_pos (by decide)))⟩, ?_⟩
    rintro t ⟨⟩
    refine ⟨fun _ _ => ⟨by decide +kernel, .inr (.inl (by decide +kernel))⟩, ?_⟩
    rintro t ⟨⟩
    refine ⟨fun _ => trivial, ?_⟩
    rintro t ⟨⟩
    trivial

end MmCamera
