import MidoCamera.Stack.CaptureIndex

/-!
# Two captures that differ in the frames they await

`CAPTURE_SETTING` clears the frames awaited of the batches with a `memset` of one byte an entry, so
that the entries behind the eighth keep what an earlier capture has left in them. The handler
reads an entry when the index of the current batch comes to it.

Two runs of the same operations, from channels that differ in the frames awaited, are compared
step by step: as long as every burst is over before the index comes to an entry in which they
differ, the steps read none of them.
-/

namespace MmCamera

open Loop Channel

def Channel.withIds (ids : ℕ → ℕ) (ch : Channel) : Channel := { ch with captureFrameId := ids }

def Ctx.withIds (ids : ℕ → ℕ) (x : Ctx) : Ctx := { x with ch := x.ch.withIds ids }

def System.withIds (c : ChannelId) (ids : ℕ → ℕ) (s : System) : System :=
  s.modify c (Channel.withIds ids)

section Basic

variable {s : System} {c d : ChannelId} {ids : ℕ → ℕ} {x : Ctx}

@[simp] theorem withIds_fs : (s.withIds c ids).fs = s.fs := rfl

@[simp] theorem withIds_ch : (s.withIds c ids).ch c = (s.ch c).withIds ids := by
  simp [System.withIds]

theorem withIds_ch_ne (h : d ≠ c) : (s.withIds c ids).ch d = s.ch d := modify_ch_ne _ h

@[simp] theorem withIds_ctx : (s.withIds c ids).ctx c = (s.ctx c).withIds ids := by
  simp [System.ctx, Ctx.withIds]

theorem withIds_ctx_ne (h : d ≠ c) : (s.withIds c ids).ctx d = s.ctx d := by
  simp [System.ctx, withIds_ch_ne h]

@[simp] theorem put_withIds : (s.withIds c ids).put c (x.withIds ids) = (s.put c x).withIds c ids := by
  simp [System.put, System.withIds, System.modify, Ctx.withIds]

theorem put_withIds_ne (h : d ≠ c) :
    (s.withIds c ids).put d x = (s.put d x).withIds c ids := by
  simp only [System.put, System.withIds, System.modify, System.mk.injEq, true_and]
  rw [Function.update_comm h.symm, Function.update_of_ne h.symm]

theorem modify_withIds {g : Channel → Channel}
    (hg : d = c → g ((s.ch c).withIds ids) = (g (s.ch c)).withIds ids) :
    (s.withIds c ids).modify d g = (s.modify d g).withIds c ids := by
  unfold System.withIds System.modify
  by_cases hd : d = c
  · subst hd
    simp [hg rfl]
  · simp only [System.mk.injEq, true_and]
    rw [Function.update_comm (Ne.symm hd), Function.update_of_ne hd,
      Function.update_of_ne (Ne.symm hd)]

end Basic

theorem dispatchFuel_withIds (s : System) (c d : ChannelId) (ids : ℕ → ℕ) :
    (s.withIds c ids).dispatchFuel d = s.dispatchFuel d := by
  have hqueued : (s.withIds c ids).queued = s.queued := by
    funext e
    exact modify_read (f := fun ch => ch.queue.que.length) (g := withIds ids) (fun _ => rfl) s c e
  unfold System.dispatchFuel
  rw [hqueued, withIds_fs]

/-! ## The operations on a queue -/

section Queue

variable {ids : ℕ → ℕ} {x : Ctx}

theorem withIds_eq_over (ids : ℕ → ℕ) (x : Ctx) : x.withIds ids = x.over (x.ch.withIds ids) := rfl

theorem withIds_of_over {f : Ctx → Ctx} (h : ∀ x r, f (x.over r) = (f x).over r) :
    f (x.withIds ids) = (f x).withIds ids := by
  have hself : f x = (f x).over x.ch := h x x.ch
  rw [withIds_eq_over, h, withIds_eq_over, hself]
  rfl

theorem withIds_of_over_exec {f : Ctx → Exec Ctx}
    (h : ∀ x r, f (x.over r) = (f x).map (Ctx.over r)) :
    f (x.withIds ids) = (f x).map (Ctx.withIds ids) := by
  have hself : f x = (f x).map (Ctx.over x.ch) := h x x.ch
  rw [withIds_eq_over, h]
  cases hf : f x with
  | error f => rfl
  | ok y =>
    rw [hf] at hself
    have hy : y = y.over x.ch := Except.ok.inj hself
    change Except.ok (y.over (x.ch.withIds ids)) = Except.ok (y.withIds ids)
    rw [withIds_eq_over, hy]
    rfl

theorem dequeueInternal_withIds (m : Bool) (ids : ℕ → ℕ) (x : Ctx) :
    superbufDequeueInternal m (x.withIds ids) =
      ((superbufDequeueInternal m x).1, (superbufDequeueInternal m x).2.withIds ids) := by
  have hself := dequeueInternal_over m x x.ch
  rw [over_self] at hself
  have hrest : (superbufDequeueInternal m x).2 = (superbufDequeueInternal m x).2.over x.ch :=
    congrArg Prod.snd hself
  rw [withIds_eq_over, dequeueInternal_over, withIds_eq_over, hrest]
  rfl

theorem flush_withIds (type : StreamType) (ids : ℕ → ℕ) (x : Ctx) :
    superbufFlush type (x.withIds ids) = (superbufFlush type x).withIds ids :=
  withIds_of_over (flush_over type)

theorem flushMatched_withIds (ids : ℕ → ℕ) (x : Ctx) :
    superbufFlushMatched (x.withIds ids) = (superbufFlushMatched x).withIds ids :=
  withIds_of_over flushMatched_over

end Queue

/-! ## Commands -/

/-- What metadata does to the frames awaited: it says the frame of one batch. -/
def Channel.metaIds (m : Metadata) (ch : Channel) (ids : ℕ → ℕ) : ℕ → ℕ :=
  match m.goodFrameIdxRange with
  | some r =>
    if ch.isConfigCapture && decide (r.configBatchIdx < ch.frameConfig.numBatch) then
      Function.update ids r.configBatchIdx r.minFrameIdx
    else ids
  | none => ids

/-- What the metadata a buffer brings does to the frames awaited, unless a 1x frame is awaited. -/
def Channel.bufIds (b : BufInfo) (ch : Channel) (ids : ℕ → ℕ) : ℕ → ℕ :=
  (ch.metadataOf b).elim ids fun m =>
    if ch.isZoom1xFrameRequested then ids else ch.metaIds m ids

/-- What a command does to the frames awaited. -/
def Command.onIds (ch : Channel) (ids : ℕ → ℕ) : Command → ℕ → ℕ
  | .dataCb b =>
    if (ch.queue.slotOf b.streamId).isSome && b.frameIdx != 0 then ch.bufIds b ids else ids
  | .general (.captureSetting _ _) => clearCaptureFrameId ids
  | _ => ids

theorem Command.onIds_congr {cmd : Command} {ch : Channel} {ids ids' : ℕ → ℕ} {j : ℕ}
    (h : ids j = ids' j) : cmd.onIds ch ids j = cmd.onIds ch ids' j := by
  have hmeta : ∀ m : Metadata, ch.metaIds m ids j = ch.metaIds m ids' j := by
    intro m
    unfold metaIds
    cases m.goodFrameIdxRange with
    | none => exact h
    | some r =>
      dsimp only
      split_ifs
      · unfold Function.update
        split_ifs
        · rfl
        · exact h
      · exact h
  cases cmd with
  | dataCb b =>
    simp only [Command.onIds, bufIds]
    cases ch.metadataOf b with
    | none => split_ifs <;> exact h
    | some m =>
      simp only [Option.elim_some]
      split_ifs
      · exact h
      · exact hmeta m
      · exact h
  | general g =>
    cases g with
    | captureSetting start config =>
      simp only [Command.onIds, clearCaptureFrameId]
      split_ifs
      · rfl
      · exact h
    | _ => exact h
  | _ => exact h

/-- While a capture is configured, the twins agree in the frame awaited of the current batch. -/
def Channel.AgreesAt (ch : Channel) (ids : ℕ → ℕ) : Prop :=
  ch.isConfigCapture = true → ids ch.curCaptureIdx = ch.captureFrameId ch.curCaptureIdx

section Command

variable {env : Env} {c : ChannelId} {ids : ℕ → ℕ} {x : Ctx}

theorem metaDivertInfo_withIds (b : BufInfo) (m : Metadata) (ids : ℕ → ℕ) (x : Ctx) :
    metaDivertInfo b m (x.withIds ids) = (metaDivertInfo b m x).withIds ids := by
  unfold metaDivertInfo
  split <;> rfl

theorem metaZoom1x_withIds (b : BufInfo) (m : Metadata) (ids : ℕ → ℕ) (x : Ctx) :
    metaZoom1x b m (x.withIds ids) = (metaZoom1x b m x).withIds ids := by
  have hcrop : (x.withIds ids).ch.crop1xFound m = x.ch.crop1xFound m := rfl
  unfold metaZoom1x
  rw [hcrop]
  split_ifs
  · rfl
  · exact flushMatched_withIds ids x.waitFuture

theorem metaPrepSnapshotDone_withIds (m : Metadata) (ids : ℕ → ℕ) (x : Ctx) :
    metaPrepSnapshotDone m (x.withIds ids) = (metaPrepSnapshotDone m x).withIds ids := by
  unfold metaPrepSnapshotDone
  cases m.prepSnapshotDone with
  | none => rfl
  | some state =>
    cases state with
    | doNotNeedFutureFrame => rfl
    | needFutureFrame =>
      have hflush := flush_withIds .default ids
        (Ctx.waitFuture { x with ch := { x.ch with bWaitForPrepSnapshotDone := false } })
      exact congrArg (fun y : Ctx => { y with ch := { y.ch with needLEDFlash := true } }) hflush

theorem metaGoodFrameIdxRange_withIds (m : Metadata) (ids : ℕ → ℕ) (x : Ctx) :
    metaGoodFrameIdxRange m (x.withIds ids) = (metaGoodFrameIdxRange m x).withIds ids := by
  have hled : (x.withIds ids).ch.needLEDFlash = x.ch.needLEDFlash := rfl
  have hburst : (x.withIds ids).ch.burstSnapNum = x.ch.burstSnapNum := rfl
  have hstate : (x.withIds ids).ch.bracketingState = x.ch.bracketingState := rfl
  unfold metaGoodFrameIdxRange
  rw [hled, hburst, hstate]
  cases m.goodFrameIdxRange with
  | some r =>
    dsimp only
    split_ifs <;> rfl
  | none =>
    dsimp only
    split_ifs
    · exact congrArg Ctx.waitFuture (flushMatched_withIds ids x)
    · rfl

theorem metaBracketing_withIds (m : Metadata) (ids : ℕ → ℕ) (x : Ctx) :
    metaBracketing m (x.withIds ids) = (metaBracketing m x).withIds ids := by
  have hflash : (x.withIds ids).ch.isFlashBracketingEnabled = x.ch.isFlashBracketingEnabled := rfl
  unfold metaBracketing
  rw [hflash]
  cases m.goodFrameIdxRange with
  | some r =>
    dsimp only
    split_ifs <;> rfl
  | none => rfl

theorem metaConfigCapture_withIds (m : Metadata) (h : x.ch.AgreesAt ids) :
    metaConfigCapture m (x.withIds ids) =
      (metaConfigCapture m x).withIds (x.ch.metaIds m ids) := by
  have hcfg : (x.withIds ids).ch.isConfigCapture = x.ch.isConfigCapture := rfl
  have hbatches : (x.withIds ids).ch.frameConfig = x.ch.frameConfig := rfl
  have hidx : (x.withIds ids).ch.curCaptureIdx = x.ch.curCaptureIdx := rfl
  unfold metaConfigCapture metaIds
  rw [hcfg, hbatches, hidx]
  cases m.goodFrameIdxRange with
  | none => rfl
  | some r =>
    dsimp only
    by_cases hguard : (x.ch.isConfigCapture &&
        decide (r.configBatchIdx < x.ch.frameConfig.numBatch)) = true
    · rw [if_pos hguard, if_pos hguard, if_pos hguard]
      have hcur := h (Bool.and_eq_true_iff.mp hguard).1
      by_cases hbatch : x.ch.curCaptureIdx = r.configBatchIdx
      · rw [if_pos hbatch, if_pos hbatch]
        rfl
      · -- the frame expected next is that of the current batch, which has not been written
        have hids : (x.withIds ids).ch.captureFrameId = ids := rfl
        rw [if_neg hbatch, if_neg hbatch, hids, Function.update_of_ne hbatch,
          Function.update_of_ne hbatch, hcur]
        rfl
    · rw [if_neg hguard, if_neg hguard, if_neg hguard]

theorem metaBurstFlash_withIds (b : BufInfo) (ids : ℕ → ℕ) (x : Ctx) :
    metaBurstFlash b (x.withIds ids) = (metaBurstFlash b x).withIds ids := by
  unfold metaBurstFlash
  rw [apply_ite (Ctx.withIds ids)]
  rfl

theorem metaLowLight_withIds (m : Metadata) (ids : ℕ → ℕ) (x : Ctx) :
    metaLowLight m (x.withIds ids) = (metaLowLight m x).withIds ids := by
  unfold metaLowLight
  split <;> rfl

theorem metaUserExpected_withIds (b : BufInfo) (m : Metadata) (ids : ℕ → ℕ) (x : Ctx) :
    metaUserExpected b m (x.withIds ids) = (metaUserExpected b m x).withIds ids := by
  have hqueue : (x.withIds ids).ch.queue = x.ch.queue := rfl
  unfold metaUserExpected
  rw [hqueue]
  dsimp only
  split_ifs <;> rfl

/-- **Metadata** does the same to the twin, and writes the same frame awaited. -/
theorem applyMetadata_withIds (b : BufInfo) (m : Metadata) (h : x.ch.AgreesAt ids) :
    applyMetadata b m (x.withIds ids) = (applyMetadata b m x).withIds
      (if x.ch.isZoom1xFrameRequested then ids else x.ch.metaIds m ids) := by
  have hzoom : (metaDivertInfo b m x).ch.isZoom1xFrameRequested = x.ch.isZoom1xFrameRequested := by
    unfold metaDivertInfo
    split <;> rfl
  have hzoom' : ((metaDivertInfo b m x).withIds ids).ch.isZoom1xFrameRequested =
      x.ch.isZoom1xFrameRequested := hzoom
  unfold applyMetadata
  dsimp only
  rw [metaDivertInfo_withIds, hzoom', hzoom]
  split_ifs
  · exact metaZoom1x_withIds _ _ _ _
  · -- what comes before the branch of a configured capture does not touch what the branch reads
    have hids := beforeConfigCapture_read b m x (f := fun ch => ch.metaIds m ids)
      (fun _ _ _ _ _ _ _ => rfl) fun _ _ => rfl
    have hagrees := beforeConfigCapture_read b m x (f := fun ch => ch.AgreesAt ids)
      (fun _ _ _ _ _ _ _ => rfl) fun _ _ => rfl
    rw [metaPrepSnapshotDone_withIds, metaGoodFrameIdxRange_withIds, metaBracketing_withIds,
      metaConfigCapture_withIds m (hagrees.mpr h), metaBurstFlash_withIds, metaLowLight_withIds,
      metaUserExpected_withIds, hids]

theorem handleMetadata_withIds (b : BufInfo) (h : x.ch.AgreesAt ids) :
    handleMetadata b (x.withIds ids) =
      (handleMetadata b x).map (Ctx.withIds (x.ch.bufIds b ids)) := by
  have hstream : (x.withIds ids).ch.getStreamByHandler b.streamId =
      x.ch.getStreamByHandler b.streamId := rfl
  unfold handleMetadata bufIds metadataOf
  rw [hstream]
  cases x.ch.getStreamByHandler b.streamId with
  | none => rfl
  | some streamObj =>
    dsimp only
    cases streamObj.streamInfo with
    | none => rfl
    | some type =>
      simp only [Option.some.injEq]
      by_cases hmeta : type = .metadata ∧ (streamObj.ownedHere ∨ streamObj.linkedHere)
      · rw [if_pos hmeta, if_pos hmeta, if_pos hmeta]
        cases b.buf.buffer with
        | none => rfl
        | some m =>
          simp only [Option.map_some, Option.elim_some]
          rw [applyMetadata_withIds b m h]
      · rw [if_neg hmeta, if_neg hmeta, if_neg hmeta]
        rfl

/-- **The arrival of a buffer** does the same to the twin. -/
theorem compAndEnqueue_withIds (b : BufInfo) (h : x.ch.AgreesAt ids) :
    superbufCompAndEnqueue env c b (x.withIds ids) =
      (superbufCompAndEnqueue env c b x).map
        (Ctx.withIds ((Command.dataCb b).onIds x.ch ids)) := by
  have hslot : (x.withIds ids).ch.queue.slotOf b.streamId = x.ch.queue.slotOf b.streamId := rfl
  have hids : (Command.dataCb b).onIds x.ch ids =
      if (x.ch.queue.slotOf b.streamId).isSome && b.frameIdx != 0 then x.ch.bufIds b ids
      else ids := rfl
  unfold superbufCompAndEnqueue
  rw [hslot, hids]
  cases x.ch.queue.slotOf b.streamId with
  | none => rfl
  | some slot =>
    dsimp only
    by_cases h0 : b.frameIdx = 0
    · rw [if_pos h0, if_pos h0, h0]
      rfl
    · have hidx : ((some slot).isSome && b.frameIdx != 0) = true := by simp [h0]
      rw [if_neg h0, if_neg h0, if_pos hidx, handleMetadata_withIds b h]
      cases hm : handleMetadata b x with
      | none =>
        -- what is not applied has brought no metadata
        have hnone : x.ch.metadataOf b = none := by
          rcases handleMetadata_cases b x with ⟨m, -, hx⟩ | ⟨hnone, -⟩
          · rw [hm] at hx
            cases hx
          · exact hnone
        rw [bufIds, hnone]
        rfl
      | some y =>
        have hqueue : (y.withIds (x.ch.bufIds b ids)).ch.queue = y.ch.queue := rfl
        have hcomp : superbufComp env c slot b (y.withIds (x.ch.bufIds b ids)) =
            (superbufComp env c slot b y).map (Ctx.withIds (x.ch.bufIds b ids)) :=
          withIds_of_over_exec (comp_over env c slot b)
        simp only [Option.map_some]
        rw [hqueue, hcomp]
        split_ifs <;> rfl

theorem processGeneral_withIds (g : GenericCmd) (ids : ℕ → ℕ) (x : Ctx) :
    processGeneral g (x.withIds ids) =
      (processGeneral g x).withIds ((Command.general g).onIds x.ch ids) := by
  have hflush := flush_withIds .default ids x
  cases g with
  | aeBracketing start | afBracketing start =>
    exact congrArg (fun y : Ctx => { y with ch := { y.ch with
      bracketingState := if start then .waitGoodFrameIdx else .off } }) hflush
  | flashBracketing start =>
    exact congrArg (fun y : Ctx => { y with ch := { y.ch with
      isFlashBracketingEnabled := start } }) hflush
  | zoom1x start =>
    exact congrArg (fun y : Ctx => { y with ch := { y.ch with
      isZoom1xFrameRequested := start } }) hflush
  | captureSetting start config => rfl
  | invalid => rfl

/-- **A command** does the same to the twin. -/
theorem processCommand_withIds (cmd : Command) (h : x.ch.AgreesAt ids) :
    processCommand env c cmd (x.withIds ids) =
      (processCommand env c cmd x).map (Ctx.withIds (cmd.onIds x.ch ids)) := by
  cases cmd with
  | dataCb b => exact compAndEnqueue_withIds b h
  | reqDataCb type numBuf numRetro =>
    exact withIds_of_over_exec (x := { x with ch := x.ch.request type numBuf numRetro }) skip_over
  | startZsl | stopZsl | configNotify mode | flushQueue | other => rfl
  | general g => exact congrArg Except.ok (processGeneral_withIds g ids x)

theorem processCommand_ids {cmd : Command} {y : Ctx} (h : processCommand env c cmd x = .ok y) :
    y.ch.captureFrameId = cmd.onIds x.ch x.ch.captureFrameId := by
  have hself : processCommand env c cmd x =
      (processCommand env c cmd x).map (Ctx.withIds (cmd.onIds x.ch x.ch.captureFrameId)) :=
    processCommand_withIds cmd fun _ => rfl
  rw [h] at hself
  exact congrArg (fun z : Ctx => z.ch.captureFrameId) (Except.ok.inj hself)

theorem processFlush_withIds (frameIdx : ℕ) (type : StreamType) (ids : ℕ → ℕ) (x : Ctx) :
    processFlush frameIdx type (x.withIds ids) = (processFlush frameIdx type x).withIds ids := by
  have hflush := flush_withIds type ids (x.setQueue { x.ch.queue with expectedFrameId := frameIdx })
  exact congrArg (fun y : Ctx => { y with ch := { y.ch with syncPosts := y.ch.syncPosts + 1 } })
    hflush

end Command

/-! ## Automatic ZSL -/

/-- The start of the ZSL snapshot of a configured capture writes the frame awaited of a batch. -/
def Channel.Rewrites (ch : Channel) (j : ℕ) : Prop :=
  (ch.isConfigCapture && ch.needStartZSL) = true ∧
    ch.curCaptureIdx ≤ j ∧ j < ch.frameConfig.numBatch

instance (ch : Channel) (j : ℕ) : Decidable (ch.Rewrites j) := instDecidableAnd

/-- The frames awaited once the ZSL snapshot has been started where it is to be. -/
def Channel.zslIds (ch : Channel) (ids : ℕ → ℕ) : ℕ → ℕ := fun j =>
  if ch.Rewrites j then addU32 ch.queue.expectedFrameId maxFutureFrameWait else ids j

theorem autoZsl_withIds (ids : ℕ → ℕ) (x : Ctx) :
    autoZsl (x.withIds ids) = (autoZsl x).withIds (x.ch.zslIds ids) := by
  have hguard : ((x.withIds ids).ch.isConfigCapture && (x.withIds ids).ch.needStartZSL) =
      (x.ch.isConfigCapture && x.ch.needStartZSL) := rfl
  unfold autoZsl
  dsimp only
  rw [hguard]
  cases hstart : x.ch.isConfigCapture && x.ch.needStartZSL with
  | true =>
    have hids : x.ch.zslIds ids = fun i =>
        if x.ch.curCaptureIdx ≤ i ∧ i < x.ch.frameConfig.numBatch then
          addU32 x.ch.queue.expectedFrameId maxFutureFrameWait
        else ids i := by
      funext j
      simp [zslIds, Channel.Rewrites, hstart]
    have hflush := flush_withIds .default (x.ch.zslIds ids) { x with ch := x.ch.awaitBatches }
    have hawait : (x.withIds ids).ch.awaitBatches = x.ch.awaitBatches.withIds (x.ch.zslIds ids) := by
      rw [hids]
      rfl
    rw [if_pos rfl, if_pos rfl, hawait]
    exact congrArg (fun y : Ctx => { y with ch := y.ch.triggerStartZsl }) hflush
  | false =>
    have hids : x.ch.zslIds ids = ids := by
      funext j
      simp [zslIds, Channel.Rewrites, hstart]
    simp only [Bool.false_eq_true, if_false]
    rw [hids, apply_ite (Ctx.withIds ids), apply_ite (Ctx.withIds ids)]
    rfl

/-! ## Dispatch -/

section Dispatch

variable {env : Env} {c d : ChannelId} {ids : ℕ → ℕ} {s : System}

theorem frameSyncDequeue_withIds (frame : ℕ) (js : List CamIdx) (s : System) :
    frameSyncDequeue frame js (s.withIds c ids) =
      ((frameSyncDequeue frame js s).1, (frameSyncDequeue frame js s).2.withIds c ids) := by
  induction js generalizing s with
  | nil => rfl
  | cons j js ih =>
    have hqueue : ∀ e, ((s.withIds c ids).ch e).queue = (s.ch e).queue :=
      modify_read (f := queue) (g := withIds ids) (fun _ => rfl) s c
    unfold frameSyncDequeue
    rw [withIds_fs]
    cases s.fs.chObj j with
    | none => exact ih s
    | some e =>
      dsimp only
      rw [hqueue]
      rcases superbufDequeueFrameInternal frame (s.ch e).queue with ⟨_ | node, q⟩
      · exact ih s
      · dsimp only
        rw [modify_withIds (g := fun ch => { ch with queue := q }) fun _ => rfl, ih]

theorem nodesQbuf_withIds (info : NodeInfo) (s : System) :
    nodesQbuf info (s.withIds c ids) = (nodesQbuf info s).withIds c ids := by
  unfold nodesQbuf
  induction info generalizing s with
  | nil => rfl
  | cons p info ih =>
    have hqbuf : (s.withIds c ids).modify p.1 (fun ch => ch.qbuf p.2.bufs) =
        (s.modify p.1 fun ch => ch.qbuf p.2.bufs).withIds c ids := modify_withIds fun _ => rfl
    rw [List.foldl_cons, List.foldl_cons, ← ih, hqbuf]

theorem frameSyncCollect_withIds (s : System) :
    frameSyncCollect (s.withIds c ids) =
      ((frameSyncCollect s).1, (frameSyncCollect s).2.withIds c ids) := by
  unfold frameSyncCollect
  dsimp only
  rw [withIds_fs, frameSyncDequeue_withIds]
  by_cases h0 : frameSyncFindMatched false s.fs = 0
  · rw [if_pos h0, if_pos h0]
  · rw [if_neg h0, if_neg h0]
    rcases frameSyncDequeue (frameSyncFindMatched false s.fs)
      (List.finRange maxNumCameraPerBundle) s with ⟨info, t⟩
    dsimp only
    rw [withIds_fs]
    by_cases hlen : info.length = (frameSyncRemove (frameSyncFindMatched false s.fs) t.fs).numCam
    · rw [if_pos hlen, if_pos hlen]
      rfl
    · rw [if_neg hlen, if_neg hlen]
      exact congrArg (Prod.mk _) (nodesQbuf_withIds info
        { t with fs := frameSyncRemove (frameSyncFindMatched false s.fs) t.fs })

/-- **A dequeue** does the same to the twin, if it does not look at an entry that differs. -/
theorem collect_withIds (h : d = c → (s.ch c).AgreesAt ids) :
    collect d (s.withIds c ids) = ((collect d s).1, (collect d s).2.withIds c ids) := by
  have htype : ((s.withIds c ids).ch d).reqType = (s.ch d).reqType :=
    modify_read (f := reqType) (g := withIds ids) (fun _ => rfl) s c d
  unfold collect
  rw [htype]
  split_ifs
  · exact frameSyncCollect_withIds s
  · by_cases hd : d = c
    · subst hd
      have hdeq := dequeueInternal_withIds true ids (s.ctx d)
      unfold superbufCollect superbufDequeue
      rw [withIds_ctx, hdeq]
      cases hx : superbufDequeueInternal true (s.ctx d) with
      | mk o x =>
        have hagrees : x.ch.AgreesAt ids :=
          ((Channel.QueueOnly.dequeue hx).rest (Channel.AgreesAt · ids) fun _ _ => rfl).mpr (h rfl)
        cases o with
        | none => exact congrArg (Prod.mk _) put_withIds
        | some node =>
          -- the frame awaited of the current batch is the same
          have hdrop : (x.withIds ids).ch.isConfigCapture = true ∧
              node.frameIdx < (x.withIds ids).ch.captureFrameId (x.withIds ids).ch.curCaptureIdx ↔
              x.ch.isConfigCapture = true ∧
                node.frameIdx < x.ch.captureFrameId x.ch.curCaptureIdx := by
            refine and_congr_right fun hcfg => ?_
            rw [← hagrees hcfg]
            rfl
          dsimp only
          simp only [hdrop]
          split_ifs
          · exact congrArg (Prod.mk _) (put_withIds (x := x.qbuf node.bufs))
          · exact congrArg (Prod.mk _) put_withIds
    · unfold superbufCollect
      rw [withIds_ctx_ne hd]
      rcases superbufDequeue (s.ctx d) with ⟨_ | node, x⟩
      · exact congrArg (Prod.mk _) (put_withIds_ne hd)
      · dsimp only
        split_ifs
        · exact congrArg (Prod.mk _) (put_withIds_ne hd)
        · exact congrArg (Prod.mk _) (put_withIds_ne hd)

theorem sendNode_withIds (cbNode : Bool) (node : Node) (ch : Channel) :
    sendNode cbNode node (ch.withIds ids) = (sendNode cbNode node ch).withIds ids := by
  have hcb : (ch.withIds ids).superBufNotifyCb = ch.superBufNotifyCb := rfl
  unfold sendNode
  dsimp only
  rw [hcb]
  split_ifs <;> rfl

theorem sendNode_ids (cbNode : Bool) (node : Node) (ch : Channel) :
    (sendNode cbNode node ch).captureFrameId = ch.captureFrameId := by
  unfold sendNode
  dsimp only
  split_ifs <;> rfl

theorem sendSuperBuf_withIds (env : Env) (k : ℕ) (info : NodeInfo) (s : System) :
    sendSuperBuf env k info (s.withIds c ids) = (sendSuperBuf env k info s).withIds c ids := by
  induction info generalizing k s with
  | nil => rfl
  | cons p info ih =>
    obtain ⟨e, node⟩ := p
    rw [sendSuperBuf, sendSuperBuf, modify_withIds fun _ => sendNode_withIds _ node _, ih]

/-- The counters of a round are counted alike in the twin, if the batch they come to awaits the same
frame. -/
theorem countBurst_withIds {ch : Channel} (h : ch.countBurst.AgreesAt ids) :
    (ch.withIds ids).countBurst = ch.countBurst.withIds ids := by
  unfold countBurst at h ⊢
  have hstop : (ch.withIds ids).countPending.stopAfterBurst =
      ch.countPending.stopAfterBurst.withIds ids := by
    unfold stopAfterBurst
    rw [apply_ite (withIds ids)]
    rfl
  rw [hstop]
  generalize ch.countPending.stopAfterBurst = ch' at h ⊢
  have hcfg' : (ch'.withIds ids).isConfigCapture = ch'.isConfigCapture := rfl
  have hconfig : (ch'.withIds ids).frameConfig = ch'.frameConfig := rfl
  have hidx : (ch'.withIds ids).curCaptureIdx = ch'.curCaptureIdx := rfl
  have hids : (ch'.withIds ids).captureFrameId = ids := rfl
  unfold countCapture at h ⊢
  rw [hcfg', hconfig, hidx]
  cases hcfg : ch'.isConfigCapture with
  | false => rfl
  | true =>
    rw [hcfg, if_pos rfl] at h
    rw [if_pos rfl, if_pos rfl]
    dsimp only at h ⊢
    split_ifs at h ⊢
    · have hread : ids ((ch'.curCaptureIdx + 1) % 2 ^ 8) =
          ch'.captureFrameId ((ch'.curCaptureIdx + 1) % 2 ^ 8) := h rfl
      rw [hids, hread]
      rfl
    · rfl
    · have hread : ids ((ch'.curCaptureIdx + 1) % 2 ^ 8) =
          ch'.captureFrameId ((ch'.curCaptureIdx + 1) % 2 ^ 8) := h rfl
      rw [hids, hread]
      rfl
    · rfl

end Dispatch

/-! ## The twin of a channel -/

/-- In a state in which the ZSL snapshot has been started where it is to be, the twins differ only
in entries of the array which no burst brings the index to. -/
structure Channel.Twin (ids : ℕ → ℕ) (ch : Channel) : Prop where
  behind : ∀ j, maxCaptureBatchNum ≤ j → ids j = ch.captureFrameId j
  fits : ∀ j, ids j ≠ ch.captureFrameId j → ch.capture.FitsBelow j

/-- **No burst brings the index to an entry the twins differ in**, in the state before the ZSL snapshot
is started; its start may write the entry. -/
def Channel.StaleFits (ids : ℕ → ℕ) (ch : Channel) : Prop :=
  ∀ j, ids j ≠ ch.captureFrameId j → ch.FitsBelow j ∨ ch.Rewrites j

section Twin

variable {ids : ℕ → ℕ} {ch ch' : Channel}

theorem Channel.Twin.agreesAt (h : ch.Twin ids) : ch.AgreesAt ids := by
  intro hcfg
  by_contra hne
  exact absurd (h.fits _ hne hcfg).1 (lt_irrefl _)

theorem Channel.Twin.lt (h : ch.Twin ids) {j : ℕ} (hj : ids j ≠ ch.captureFrameId j) :
    j < maxCaptureBatchNum := by
  by_contra hle
  exact hj (h.behind j (not_lt.mp hle))

theorem Channel.Twin.congr (h : ch.Twin ids) (hids : ch'.captureFrameId = ch.captureFrameId)
    (hcapture : ch'.capture = ch.capture) : ch'.Twin ids := by
  refine ⟨?_, ?_⟩
  · rw [hids]
    exact h.behind
  · rw [hids, hcapture]
    exact h.fits

theorem countBurst_ids (ch : Channel) : ch.countBurst.captureFrameId = ch.captureFrameId := by
  have hstop : ch.countPending.stopAfterBurst.captureFrameId = ch.captureFrameId := by
    unfold stopAfterBurst
    split_ifs <;> rfl
  rw [← hstop]
  unfold countBurst countCapture
  dsimp only
  split_ifs <;> rfl

theorem Channel.Twin.round (h : ch.Twin ids) (hpos : 0 < ch.pendingCnt) :
    ch.countBurst.Twin ids := by
  refine ⟨?_, ?_⟩
  · rw [countBurst_ids]
    exact h.behind
  · rw [countBurst_ids]
    intro j hj
    exact (h.fits j hj).round ((h.lt hj).trans (by decide)) hpos (countBurst_capture hpos)

/-- **The start of the ZSL snapshot**: what differs after it has differed before, and is not written
by it. -/
theorem autoZsl_twin {x : Ctx} (hfits : x.ch.StaleFits ids)
    (hbehind : ∀ j, maxCaptureBatchNum ≤ j → ids j = x.ch.captureFrameId j) :
    (autoZsl x).ch.Twin (x.ch.zslIds ids) := by
  have hids : (autoZsl x).ch.captureFrameId = x.ch.zslIds x.ch.captureFrameId :=
    congrArg (fun y : Ctx => y.ch.captureFrameId) (autoZsl_withIds x.ch.captureFrameId x)
  refine ⟨?_, ?_⟩
  · intro j hj
    rw [hids]
    unfold zslIds
    split_ifs
    · rfl
    · exact hbehind j hj
  · intro j hj
    rw [hids] at hj
    unfold zslIds at hj
    split_ifs at hj with hrewrites
    · exact absurd rfl hj
    · rcases hfits j hj with hfits | hrewrites'
      · exact hfits.autoZsl (autoZsl_capture x)
      · exact absurd hrewrites' hrewrites

variable {env : Env} {c d : ChannelId} {s t : System}

/-- **The dispatch loop** does the same to the twin. -/
theorem dispatchLoop_withIds {mode : NotifyMode} (fuel k : ℕ)
    (h : d = c → (s.ch c).Twin ids) :
    dispatchLoop env d mode fuel k (s.withIds c ids) =
      (dispatchLoop env d mode fuel k s).map (System.withIds c ids) := by
  have hguard : ∀ s : System, ((s.withIds c ids).ch d).dispatching mode =
      (s.ch d).dispatching mode := fun s =>
    modify_read (f := dispatching mode) (g := withIds ids) (fun _ => rfl) s c d
  induction fuel generalizing k s with
  | zero =>
    unfold dispatchLoop
    rw [hguard]
    split_ifs <;> rfl
  | succ fuel ih =>
    have hcol := collect_withIds fun hd => (h hd).agreesAt
    cases hd : (s.ch d).dispatching mode with
    | false =>
      rw [dispatchLoop_of_not _ _ hd, dispatchLoop_of_not _ _ ((hguard s).trans hd)]
      rfl
    | true =>
      rcases hinfo : collect d s with ⟨info, u⟩
      rw [hinfo] at hcol
      have hu : d = c → (u.ch c).Twin ids := by
        rintro rfl
        exact (h rfl).congr ((collect_queueOnly hinfo d).rest _ fun _ _ => rfl)
          (collect_queueOnly hinfo d).capture
      by_cases hi : info = []
      · subst hi
        rw [dispatchLoop_last _ _ hd hinfo, dispatchLoop_last _ _ ((hguard s).trans hd) hcol]
        rfl
      · rw [dispatchLoop_round _ _ hd hinfo hi,
          dispatchLoop_round _ _ ((hguard s).trans hd) hcol hi]
        by_cases hmode : info ≠ [] ∧ mode = .burst
        · have hpos : 0 < (u.ch d).pendingCnt := by
            rw [hmode.2] at hd
            exact lt_of_lt_of_eq (pending_of_dispatching hd)
              (congrArg Capture.pendingCnt (collect_queueOnly hinfo d).capture).symm
          -- the counters are counted alike, as the next batch awaits the same frame
          have hburst : (u.withIds c ids).modify d countBurst =
              (u.modify d countBurst).withIds c ids := by
            refine modify_withIds ?_
            rintro rfl
            exact countBurst_withIds ((hu rfl).round hpos).agreesAt
          rw [if_pos hmode, if_pos hmode, hburst, sendSuperBuf_withIds]
          refine ih _ ?_
          rintro rfl
          refine ((hu rfl).round hpos).congr ?_ ?_
          · rw [sendSuperBuf_read (f := captureFrameId) sendNode_ids, modify_ch]
          · rw [sendSuperBuf_read sendNode_capture, modify_ch]
        · rw [if_neg hmode, if_neg hmode, sendSuperBuf_withIds]
          refine ih _ ?_
          rintro rfl
          refine (hu rfl).congr ?_ ?_
          · rw [sendSuperBuf_read (f := captureFrameId) sendNode_ids]
          · rw [sendSuperBuf_read sendNode_capture]

end Twin

/-! ## Commands of the twins -/

/-- **A command leaves a burst that comes to no entry the twins differ in**: of the commands that set
the burst, the batches or the ZSL snapshot, the ones that can spoil it. -/
def Command.StaleFits (ids : ℕ → ℕ) (ch : Channel) : Command → Prop
  | .reqDataCb type numBuf numRetro => (ch.request type numBuf numRetro).StaleFits ids
  | .startZsl => { ch with manualZSLSnapshot := true }.StaleFits ids
  | .general (.captureSetting start config) =>
    (ch.setCapture start config).StaleFits (clearCaptureFrameId ids)
  | _ => True

section Runs

variable {env : Env} {c : ChannelId} {ids ids' : ℕ → ℕ} {s t : System} {x y : Ctx} {cmd : Command}

theorem processCommand_stale (hcmd : cmd.StaleFits ids x.ch) (hx : x.ch.Twin ids)
    (h : processCommand env c cmd x = .ok y) : y.ch.StaleFits (cmd.onIds x.ch ids) := by
  -- where a command sets nothing, an entry that differs has differed before, and the burst fits
  have quiet : (∀ j, cmd.FitsBelow x.ch j) → y.ch.StaleFits (cmd.onIds x.ch ids) := by
    intro hquiet j hj
    rw [processCommand_ids h] at hj
    have hdiffer : ids j ≠ x.ch.captureFrameId j := fun heq => hj (Command.onIds_congr heq)
    exact .inl (processCommand_fits (hquiet j) (hx.fits j hdiffer) h)
  cases cmd with
  | reqDataCb type numBuf numRetro =>
    exact ((Channel.QueueOnly.skip h).rest (Channel.StaleFits ids) fun _ _ => rfl).mpr hcmd
  | startZsl =>
    cases h
    exact hcmd
  | general g =>
    cases g with
    | captureSetting start config =>
      cases h
      exact hcmd
    | _ => exact quiet fun _ => trivial
  | _ => exact quiet fun _ => trivial

/-- **A command and its twin**, once the command itself has done the same in both. -/
theorem processStreamBuf_withIds (hflush : ¬∃ f ty, cmd = .flushQueue f ty)
    (hcmd : processCommand env c cmd ((s.ctx c).withIds ids) =
      (processCommand env c cmd (s.ctx c)).map (Ctx.withIds ids'))
    (hstale : ∀ x, processCommand env c cmd (s.ctx c) = .ok x → x.ch.StaleFits ids' ∧
      ∀ j, maxCaptureBatchNum ≤ j → ids' j = x.ch.captureFrameId j)
    (h : processStreamBuf env c cmd s = .ok t) :
    ∃ ids'', processStreamBuf env c cmd (s.withIds c ids) = .ok (t.withIds c ids'') ∧
      (t.ch c).Twin ids'' := by
  rw [processStreamBuf_eq hflush] at h ⊢
  obtain ⟨x, hx, h⟩ := bind_eq_ok.mp h
  obtain ⟨y, hy, h⟩ := bind_eq_ok.mp h
  obtain ⟨hfits, hbehind⟩ := hstale x hx
  have hover : superbufBufdoneOverflow ((autoZsl x).withIds (x.ch.zslIds ids')) =
      .ok (y.withIds (x.ch.zslIds ids')) := by
    rw [withIds_of_over_exec overflow_over, hy]
    rfl
  have htwin : y.ch.Twin (x.ch.zslIds ids') := (autoZsl_twin hfits hbehind).congr
    ((Channel.QueueOnly.overflow hy).rest captureFrameId fun _ _ => rfl)
    (Channel.QueueOnly.overflow hy).capture
  have hput : ((s.put c y).ch c).Twin (x.ch.zslIds ids') := by rwa [put_ch]
  refine ⟨x.ch.zslIds ids', ?_, ?_⟩
  · rw [withIds_ctx, hcmd, hx]
    change (superbufBufdoneOverflow (autoZsl (x.withIds ids'))).bind _ = _
    rw [autoZsl_withIds, hover]
    change dispatchLoop env c x.ch.queue.attr.notifyMode
      (((s.withIds c ids).put c (y.withIds (x.ch.zslIds ids'))).dispatchFuel c) 0
      ((s.withIds c ids).put c (y.withIds (x.ch.zslIds ids'))) = _
    have hsame : (s.withIds c ids).put c (y.withIds (x.ch.zslIds ids')) =
        (s.put c y).withIds c (x.ch.zslIds ids') := by
      simp [System.put, System.withIds, System.modify, Ctx.withIds]
    rw [hsame, dispatchFuel_withIds, dispatchLoop_withIds _ _ fun _ => hput, h]
    rfl
  · have hids := dispatchLoop_read (f := captureFrameId) (d := c) (fun _ _ => rfl)
      sendNode_ids (fun _ => countBurst_ids) h
    refine ⟨?_, ?_⟩
    · rw [hids]
      exact hput.behind
    · rw [hids]
      intro j hj
      exact dispatchLoop_invariant (I := fun a => a.FitsBelow j)
        (fun ch a hpos ha hch => hch.round ((hput.lt hj).trans (by decide)) hpos ha)
        (hput.fits j hj) h

theorem processStreamBuf_flush_withIds {frameIdx : ℕ} {type : StreamType} (hs : (s.ch c).Twin ids)
    (h : processStreamBuf env c (.flushQueue frameIdx type) s = .ok t) :
    processStreamBuf env c (.flushQueue frameIdx type) (s.withIds c ids) = .ok (t.withIds c ids) ∧
      (t.ch c).Twin ids := by
  cases h
  refine ⟨?_, ?_⟩
  · change Except.ok ((s.withIds c ids).put c
      (processFlush frameIdx type ((s.withIds c ids).ctx c))) = _
    rw [withIds_ctx, processFlush_withIds, put_withIds]
  · rw [put_ch]
    refine hs.congr ?_ (processFlush_capture frameIdx type (s.ctx c))
    exact (Channel.QueueOnly.flush type ((s.ctx c).setQueue
      { (s.ctx c).ch.queue with expectedFrameId := frameIdx })).rest captureFrameId
      fun _ _ => rfl

theorem processStreamBuf_withIds_ne {d : ChannelId} (hd : d ≠ c) (hs : (s.ch c).Twin ids)
    (h : processStreamBuf env d cmd s = .ok t) :
    processStreamBuf env d cmd (s.withIds c ids) = .ok (t.withIds c ids) ∧
      (t.ch c).Twin ids := by
  refine ⟨?_, hs.congr (processStreamBuf_read (fun _ _ => rfl) sendNode_ids hd.symm h)
    (processStreamBuf_read (fun _ _ => rfl) sendNode_capture hd.symm h)⟩
  by_cases hflush : ∃ f ty, cmd = .flushQueue f ty
  · obtain ⟨f, ty, rfl⟩ := hflush
    cases h
    change Except.ok ((s.withIds c ids).put d (processFlush f ty ((s.withIds c ids).ctx d))) = _
    rw [withIds_ctx_ne hd, put_withIds_ne hd]
  · rw [processStreamBuf_eq hflush] at h ⊢
    obtain ⟨x, hx, h⟩ := bind_eq_ok.mp h
    obtain ⟨y, hy, h⟩ := bind_eq_ok.mp h
    rw [withIds_ctx_ne hd, hx]
    change (superbufBufdoneOverflow (autoZsl x)).bind _ = _
    rw [hy]
    change dispatchLoop env d x.ch.queue.attr.notifyMode
      (((s.withIds c ids).put d y).dispatchFuel d) 0 ((s.withIds c ids).put d y) = _
    rw [put_withIds_ne hd, dispatchFuel_withIds, dispatchLoop_withIds _ _ fun he => absurd he hd, h]
    rfl

/-! ## Runs of the twins -/

/-- **An operation** does the same to the twin, and leaves twins. -/
theorem opStep_withIds {op : Op} (hs : (s.ch c).Twin ids)
    (hop : op.OnChannel c (fun cmd ch => cmd.StaleFits ids ch) s) (h : op.Step s t) :
    ∃ ids', op.Step (s.withIds c ids) (t.withIds c ids') ∧ (t.ch c).Twin ids' := by
  cases op with
  | register d | unregister d =>
    cases h
    exact ⟨ids, rfl, hs⟩
  | command env d cmd =>
    by_cases hd : d = c
    · subst hd
      by_cases hflush : ∃ f ty, cmd = .flushQueue f ty
      · obtain ⟨f, ty, rfl⟩ := hflush
        exact ⟨ids, @processStreamBuf_flush_withIds env _ _ _ _ _ _ hs h⟩
      · refine processStreamBuf_withIds hflush
          (processCommand_withIds (x := s.ctx d) cmd hs.agreesAt) ?_ h
        intro x hx
        refine ⟨processCommand_stale (x := s.ctx d) (hop rfl) hs hx, ?_⟩
        intro j hj
        rw [processCommand_ids hx]
        exact Command.onIds_congr (hs.behind j hj)
    · exact ⟨ids, processStreamBuf_withIds_ne hd hs h⟩

/-- The condition on two runs of the same operations: no command of channel `c` leaves a burst that
comes to an entry in which they differ by then. -/
def StaleAlong (c : ChannelId) : List Op → System → System → Prop
  | [], _, _ => True
  | op :: ops, s, s' =>
    op.OnChannel c (fun cmd ch => cmd.StaleFits (s'.ch c).captureFrameId ch) s ∧
      ∀ t t', op.exec s = .ok t → op.exec s' = .ok t' → StaleAlong c ops t t'

theorem opRun_withIds {ops : List Op} (run : Run Op.Step ops s t) (hs : (s.ch c).Twin ids)
    (fits : StaleAlong c ops s (s.withIds c ids)) :
    ∃ ids', Run Op.Step ops (s.withIds c ids) (t.withIds c ids') := by
  induction run generalizing ids with
  | nil s => exact ⟨ids, .nil _⟩
  | @cons op ops s u t hstep _ ih =>
    obtain ⟨hop, fits⟩ := fits
    rw [withIds_ch] at hop
    obtain ⟨ids₁, hstep', hu⟩ := opStep_withIds hs hop hstep
    obtain ⟨ids₂, hrun⟩ := ih hu (fits u _ hstep hstep')
    exact ⟨ids₂, .cons hstep' hrun⟩

/-- **A new capture is independent of the one before it**: two systems that differ only in the frames
awaited of channel `c` process the same `CAPTURE_SETTING` and any operations after it. If no command
leaves a burst that comes to an entry in which the runs differ by then, then whatever the one run
does the other does too: the same super buffers are dispatched, and the same buffers are dropped and
returned, on all channels. -/
theorem capture_independent {ops : List Op} {config : FrameConfig}
    (array : ∀ j, maxCaptureBatchNum ≤ j → ids j = (s.ch c).captureFrameId j)
    (fits : StaleAlong c (.command env c (.general (.captureSetting true config)) :: ops) s
      (s.withIds c ids))
    (run : Run Op.Step (.command env c (.general (.captureSetting true config)) :: ops) s t) :
    ∃ t', Run Op.Step (.command env c (.general (.captureSetting true config)) :: ops)
        (s.withIds c ids) t' ∧
      (∀ d, (t'.ch d).sent = (t.ch d).sent ∧ (t'.ch d).cbQueue = (t.ch d).cbQueue ∧
        (t'.ch d).qbufs = (t.ch d).qbufs) ∧
      ∃ ids', t' = t.withIds c ids' := by
  obtain ⟨hop, fits⟩ := fits
  rw [withIds_ch] at hop
  cases run with
  | cons hstep hrun =>
    -- the setting itself does not look at the frames awaited
    have hcmd : processCommand env c (.general (.captureSetting true config))
        ((s.ctx c).withIds ids) =
        (processCommand env c (.general (.captureSetting true config)) (s.ctx c)).map
          (Ctx.withIds (clearCaptureFrameId ids)) := rfl
    have hset : ∀ j, maxCaptureBatchNum ≤ j → clearCaptureFrameId ids j =
        clearCaptureFrameId (s.ch c).captureFrameId j := by
      intro j hj
      simp only [clearCaptureFrameId]
      split_ifs
      · rfl
      · exact array j hj
    obtain ⟨ids₁, hstep', hu⟩ := processStreamBuf_withIds (by simp) hcmd (by
      rintro x ⟨⟩
      exact ⟨hop rfl, hset⟩) hstep
    obtain ⟨ids₂, hrun'⟩ := opRun_withIds hrun hu (fits _ _ hstep hstep')
    have hread : ∀ {α : Type} (f : Channel → α) (_ : ∀ ch, f (ch.withIds ids₂) = f ch) (d),
        f ((t.withIds c ids₂).ch d) = f (t.ch d) := fun f hf d => modify_read hf t c d
    refine ⟨t.withIds c ids₂, .cons hstep' hrun', ?_, ids₂, rfl⟩
    intro d
    exact ⟨hread sent (fun _ => rfl) d, hread cbQueue (fun _ => rfl) d,
      hread qbufs (fun _ => rfl) d⟩

end Runs

/-- What an earlier capture may have left: the frame awaited of its ninth batch. -/
def staleNinth : ℕ → ℕ := fun j => if j = 8 then 1000 else 0

/-- A capture of nine frames, after one that has left a frame for its ninth batch: the last frame is
before it, and is dropped. -/
theorem capture_dependent :
    ∃ t t', Run Op.Step (flashBurst 9) oneStream t ∧
      Run Op.Step (flashBurst 9) (oneStream.withIds 0 staleNinth) t' ∧
      (t.ch 0).sent.length = 9 ∧ (t'.ch 0).sent.length = 8 := by
  have hrun : ∀ {s : System} {n : ℕ},
      ((execAll (fun s op => (Op.exec op s).toOption) s (flashBurst 9)).map
        fun t => (t.ch 0).sent.length) = some n →
      ∃ t, Run Op.Step (flashBurst 9) s t ∧ (t.ch 0).sent.length = n := by
    intro s n h
    obtain ⟨t, ht, hn⟩ := Option.map_eq_some_iff.mp h
    refine ⟨t, (Run.of_execAll ht).mono fun op _ s t hstep => ?_, hn⟩
    unfold Op.Step
    cases hexec : op.exec s with
    | error f => simp [hexec, Except.toOption] at hstep
    | ok u =>
      rw [hexec] at hstep
      exact congrArg Except.ok (Option.some.inj hstep)
  obtain ⟨t, ht, hnine⟩ := hrun (s := oneStream) (n := 9) (by decide +kernel)
  obtain ⟨t', ht', height⟩ := hrun (s := oneStream.withIds 0 staleNinth) (n := 8)
    (by decide +kernel)
  exact ⟨t, t', ht, ht', hnine, height⟩

/-- A capture of one frame, after one that has left a frame for its ninth batch. -/
theorem capture_independent_oneFrame :
    ∃ t t', Run Op.Step (flashBurst 1) oneStream t ∧
      Run Op.Step (flashBurst 1) (oneStream.withIds 0 staleNinth) t' ∧
      (t.ch 0).sent.length = 1 ∧ (t'.ch 0).sent = (t.ch 0).sent := by
  obtain ⟨t, run, hone⟩ : ∃ t, Run Op.Step (flashBurst 1) oneStream t ∧
      (t.ch 0).sent.length = 1 := ⟨_, .cons rfl (.cons rfl (.one rfl)), by decide +kernel⟩
  have hninth : ∀ j, clearCaptureFrameId staleNinth j ≠ clearCaptureFrameId (fun _ => 0) j →
      j = 8 := by
    intro j hj
    by_contra hne
    refine hj ?_
    simp only [clearCaptureFrameId, staleNinth, if_neg hne]
  have harray : ∀ j, maxCaptureBatchNum ≤ j → staleNinth j = (oneStream.ch 0).captureFrameId j := by
    intro j hj
    exact if_neg (by unfold maxCaptureBatchNum at hj; omega)
  -- in the two states that the clearing leaves apart, the burst is over before the ninth entry
  have fits : StaleAlong 0 (flashBurst 1) oneStream (oneStream.withIds 0 staleNinth) := by
    refine ⟨?_, ?_⟩
    · intro _ j hj
      obtain rfl := hninth j hj
      exact .inl fun _ => ⟨by decide, .inr (.inl (Capture.roundsTo_pos (by decide)))⟩
    · rintro u u' ⟨⟩ ⟨⟩
      refine ⟨?_, ?_⟩
      · intro _ j hj
        obtain rfl := hninth j hj
        exact .inl fun _ => ⟨by decide +kernel, .inr (.inl (by decide +kernel))⟩
      · rintro v v' ⟨⟩ ⟨⟩
        refine ⟨fun _ => trivial, ?_⟩
        rintro w w' ⟨⟩ ⟨⟩
        trivial
  obtain ⟨t', run', hsame, -⟩ := capture_independent harray fits run
  exact ⟨t, t', run, run', hone, (hsame 0).1⟩

end MmCamera
