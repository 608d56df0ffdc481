import MidoCamera.Stack.Inversion

/-!
# What a handler leaves alone

The operations of a handler on its queue read and write the queue itself, the buffers they return,
the diverted frame and the mark of a flash bracketing; the rest of the channel they neither read
nor change: an operation commutes with replacing it. Taken at the channel itself this is a frame
rule, and taken at a channel that differs in one field it says that the operation does not depend on
this field.
-/

namespace MmCamera

open Loop

variable {c : ChannelId} {env : Env} {info : NodeInfo} {α : Type*}

/-- The channel `r`, with what the operations on a queue work on taken from `ch`. -/
def Channel.over (ch r : Channel) : Channel :=
  { r with
    queue := ch.queue
    qbufs := ch.qbufs
    divertedFrameId := ch.divertedFrameId
    isFlashBracketingEnabled := ch.isFlashBracketingEnabled }

/-- The rest of the channel is that of `r`. -/
def Ctx.over (r : Channel) (x : Ctx) : Ctx := ⟨x.fs, x.ch.over r⟩

/-- Nothing has changed but what the operations on a queue work on. -/
def Channel.QueueOnly (ch ch' : Channel) : Prop := ch' = ch'.over ch

/-- Nothing has changed but what the operations on a queue work on and what metadata marks. The
end of the wait for the prepare-snapshot and the frames awaited of a configured capture are not among
these marks. -/
def Channel.MetaOnly (ch ch' : Channel) : Prop :=
  ch' = { ch'.over ch with
    isZoom1xFrameRequested := ch'.isZoom1xFrameRequested
    needLEDFlash := ch'.needLEDFlash
    bracketingState := ch'.bracketingState
    stopZslSnapshot := ch'.stopZslSnapshot
    needLowLightZSL := ch'.needLowLightZSL }

/-- A reading of a channel that looks at neither the queue nor what metadata marks. -/
def Unmarked {α : Type*} (f : Channel → α) : Prop :=
  ∀ (ch r : Channel) (zoom led : Bool) (bracketing : BracketingState) (stop lowLight : Bool),
    f { ch.over r with
      isZoom1xFrameRequested := zoom
      needLEDFlash := led
      bracketingState := bracketing
      stopZslSnapshot := stop
      needLowLightZSL := lowLight } = f r

section Over

variable {x y z : Ctx} {r : Channel}

@[simp] theorem over_self (x : Ctx) : x.over x.ch = x := rfl

@[simp] theorem over_queue (x : Ctx) (r : Channel) : (x.over r).ch.queue = x.ch.queue := rfl

@[simp] theorem over_divertedFrameId (x : Ctx) (r : Channel) :
    (x.over r).ch.divertedFrameId = x.ch.divertedFrameId := rfl

@[simp] theorem setQueue_over (x : Ctx) (q : Queue) (r : Channel) :
    (x.over r).setQueue q = (x.setQueue q).over r := rfl

/-! ### Dequeue, overflow, skip and flush -/

theorem dequeueInternal_over (m : Bool) (x : Ctx) (r : Channel) :
    superbufDequeueInternal m (x.over r) =
      ((superbufDequeueInternal m x).1, (superbufDequeueInternal m x).2.over r) := by
  unfold superbufDequeueInternal
  rw [over_queue]
  cases x.ch.queue.que with
  | nil => rfl
  | cons node rest =>
    dsimp only
    split_ifs <;> rfl

theorem flushLoop_over (m : Bool) (camType : StreamType) (k : ℕ) (x : Ctx) (r : Channel) :
    superbufFlushLoop m camType k (x.over r) = (superbufFlushLoop m camType k x).over r := by
  induction k generalizing x with
  | zero => rfl
  | succ k ih =>
    unfold superbufFlushLoop
    rw [dequeueInternal_over]
    rcases superbufDequeueInternal m x with ⟨_ | node, y⟩
    · rfl
    · exact ih (y.qbuf (node.bufsOfType camType))

theorem flush_over (camType : StreamType) (x : Ctx) (r : Channel) :
    superbufFlush camType (x.over r) = (superbufFlush camType x).over r :=
  flushLoop_over _ _ _ _ _

theorem flushMatched_over (x : Ctx) (r : Channel) :
    superbufFlushMatched (x.over r) = (superbufFlushMatched x).over r :=
  flushLoop_over _ _ _ _ _

theorem drop_over (x : Ctx) (r : Channel) :
    superbufDrop (x.over r) = (superbufDrop x).over r := by
  unfold superbufDrop
  rw [dequeueInternal_over]
  rcases superbufDequeueInternal true x with ⟨_ | node, y⟩ <;> rfl

theorem dropAbove_over (mark : ℕ) (x : Ctx) (r : Channel) :
    superbufDropAbove mark (x.over r) = (superbufDropAbove mark x).map (Ctx.over r) := by
  have hloop : whileLoop (fun x : Ctx => decide (mark < x.ch.queue.matchCnt)) superbufDrop
      x.ch.queue.que.length (x.over r) =
      (whileLoop (fun x : Ctx => decide (mark < x.ch.queue.matchCnt)) superbufDrop
        x.ch.queue.que.length x).map (Ctx.over r) :=
    whileLoop_map (fun _ => rfl) (fun y => drop_over y r) x.ch.queue.que.length x
  unfold superbufDropAbove
  rw [over_queue, hloop]
  cases whileLoop (fun x : Ctx => decide (mark < x.ch.queue.matchCnt)) superbufDrop
    x.ch.queue.que.length x <;> rfl

theorem overflow_over (x : Ctx) (r : Channel) :
    superbufBufdoneOverflow (x.over r) = (superbufBufdoneOverflow x).map (Ctx.over r) := by
  unfold superbufBufdoneOverflow
  rw [over_queue, dropAbove_over]
  split_ifs <;> rfl

theorem skip_over (x : Ctx) (r : Channel) :
    superbufSkip (x.over r) = (superbufSkip x).map (Ctx.over r) := by
  unfold superbufSkip
  rw [over_queue, dropAbove_over]
  split_ifs <;> rfl

/-! ### The arrival of a buffer -/

theorem releaseNodes_over (nodes : List Node) (x : Ctx) (r : Channel) :
    releaseNodes nodes (x.over r) = (releaseNodes nodes x).over r := by
  unfold releaseNodes
  induction nodes generalizing x with
  | nil => rfl
  | cons n nodes ih =>
    exact ih ((x.qbuf n.indexedBufs).setQueue { x.ch.queue with size := decU32 x.ch.queue.size })

theorem syncAdd_over (x : Ctx) (c : ChannelId) (frameIdx : ℕ) (r : Channel) :
    (x.over r).syncAdd c frameIdx = (x.syncAdd c frameIdx).over r := by
  unfold Ctx.syncAdd
  rw [over_queue]
  split_ifs <;> rfl

theorem expectNext_over (x : Ctx) (b : BufInfo) (r : Channel) :
    (x.over r).expectNext b = (x.expectNext b).over r := by
  have hflash : (x.over r).ch.isFlashBracketingEnabled = x.ch.isFlashBracketingEnabled := rfl
  unfold Ctx.expectNext
  rw [over_queue, hflash]
  dsimp only
  split_ifs <;> rfl

theorem releaseOlder_over (s : Scan) (x : Ctx) (r : Channel) :
    releaseOlder s (x.over r) = (releaseOlder s x).over r := by
  unfold releaseOlder
  cases s.lastBuf with
  | none => rfl
  | some lastBuf =>
    dsimp only
    rw [over_queue, releaseNodes_over]
    rfl

theorem superbufMatch_over (c : ChannelId) (b : BufInfo) (s : Scan) (node : Node) (x : Ctx)
    (r : Channel) :
    superbufMatch c b s node (x.over r) = (superbufMatch c b s node x).over r := by
  unfold superbufMatch
  dsimp only
  rw [expectNext_over, over_queue, setQueue_over, syncAdd_over, releaseOlder_over]

theorem superbufFill_over (c : ChannelId) (slot : ℕ) (b : BufInfo) (s : Scan) (x : Ctx)
    (r : Channel) :
    superbufFill c slot b s (x.over r) = (superbufFill c slot b s x).over r := by
  unfold superbufFill
  rw [over_queue]
  cases x.ch.queue.que[s.pos]? with
  | none => rfl
  | some found =>
    dsimp only
    rw [setQueue_over, over_divertedFrameId]
    split_ifs
    · rfl
    · exact superbufMatch_over _ _ _ _ _ _
    · rfl
    · rfl

theorem evictAt_over (i : ℕ) (x : Ctx) (r : Channel) :
    evictAt i (x.over r) = (evictAt i x).over r := by
  unfold evictAt
  dsimp only
  rw [over_queue, releaseNodes_over]
  rfl

theorem superbufEvict_over (s : Scan) (x : Ctx) (r : Channel) :
    superbufEvict s (x.over r) = (superbufEvict s x).map fun p => (p.1, p.2.over r) := by
  unfold superbufEvict
  rw [over_queue]
  by_cases hmax : x.ch.queue.attr.maxUnmatchedFrames < s.unmatchedBundles
  · simp only [if_pos hmax]
    cases s.lastBuf with
    | none => rfl
    | some lastBuf =>
      dsimp only
      rw [evictAt_over]
      cases evictFrom s.insertBeforeBuf (x.ch.queue.que.drop lastBuf) lastBuf with
      | none => rfl
      | some i =>
        dsimp only
        rw [evictAt_over]
        by_cases hmore : x.ch.queue.attr.maxUnmatchedFrames < s.unmatchedBundles - 1
        · rw [if_pos hmore, if_pos hmore]
          rfl
        · rw [if_neg hmore, if_neg hmore]
          rfl
  · simp only [if_neg hmax]
    rfl

theorem superbufEnqueue_over (c : ChannelId) (slot : ℕ) (b : BufInfo) (before : Option ℕ) (x : Ctx)
    (r : Channel) :
    superbufEnqueue c slot b before (x.over r) = (superbufEnqueue c slot b before x).over r := by
  have hnode : (x.over r).newBuf slot b = x.newBuf slot b := rfl
  unfold superbufEnqueue Ctx.syncAdd
  rw [hnode, over_divertedFrameId, over_queue]
  simp only [Ctx.setQueue, Ctx.over, Channel.over]
  split_ifs <;> rfl

theorem superbufInsert_over (env : Env) (c : ChannelId) (slot : ℕ) (b : BufInfo) (s : Scan)
    (x : Ctx) (r : Channel) :
    superbufInsert env c slot b s (x.over r) =
      (superbufInsert env c slot b s x).map (Ctx.over r) := by
  unfold superbufInsert
  rw [over_queue, superbufEvict_over]
  by_cases hold : x.ch.queue.attr.maxUnmatchedFrames < s.unmatchedBundles ∧ s.lastBuf = none
  · rw [if_pos hold, if_pos hold]
    rfl
  · rw [if_neg hold, if_neg hold]
    cases superbufEvict s x with
    | error f => rfl
    | ok p =>
      have henqueue := superbufEnqueue_over c slot b p.1 p.2 r
      simp only [Except.map, bind, Except.bind, henqueue]
      cases env.newBuf && env.newNode <;> rfl

/-- **The arrival of a buffer** commutes with replacing the rest of the channel. -/
theorem comp_over (env : Env) (c : ChannelId) (slot : ℕ) (b : BufInfo) (x : Ctx) (r : Channel) :
    superbufComp env c slot b (x.over r) = (superbufComp env c slot b x).map (Ctx.over r) := by
  unfold superbufComp
  dsimp only
  rw [over_queue, superbufFill_over, superbufInsert_over]
  split_ifs <;> rfl

end Over

/-! ## The operations on a queue -/

namespace Channel.QueueOnly

variable {ch ch' ch'' : Channel} {x y : Ctx}

theorem rfl : ch.QueueOnly ch := Eq.refl ch

theorem trans (h : ch.QueueOnly ch') (h' : ch'.QueueOnly ch'') : ch.QueueOnly ch'' := by
  unfold QueueOnly at h h'
  rw [h] at h'
  exact h'

theorem rest (h : ch.QueueOnly ch') (f : Channel → α)
    (hf : ∀ ch r : Channel, f (ch.over r) = f r) : f ch' = f ch := by
  rw [h]
  exact hf ch' ch

theorem of_over {f : Ctx → Ctx} (h : ∀ r, f (x.over r) = (f x).over r) :
    x.ch.QueueOnly (f x).ch := congrArg Ctx.ch (h x.ch)

theorem of_over_ok {f : Ctx → Exec Ctx} (h : ∀ r, f (x.over r) = (f x).map (Ctx.over r))
    (hy : f x = .ok y) : x.ch.QueueOnly y.ch := by
  have hself := h x.ch
  rw [over_self, hy] at hself
  exact congrArg Ctx.ch (Except.ok.inj hself)

theorem qbuf (ch : Channel) (bs : List BufDef) : ch.QueueOnly (ch.qbuf bs) := Eq.refl _

theorem flush (camType : StreamType) (x : Ctx) : x.ch.QueueOnly (superbufFlush camType x).ch :=
  of_over (flush_over camType x)

theorem flushMatched (x : Ctx) : x.ch.QueueOnly (superbufFlushMatched x).ch :=
  of_over (flushMatched_over x)

theorem overflow (h : superbufBufdoneOverflow x = .ok y) : x.ch.QueueOnly y.ch :=
  of_over_ok (overflow_over x) h

theorem skip (h : superbufSkip x = .ok y) : x.ch.QueueOnly y.ch := of_over_ok (skip_over x) h

theorem comp {slot : ℕ} {b : BufInfo}
    (h : superbufComp env c slot b x = .ok y) : x.ch.QueueOnly y.ch :=
  of_over_ok (comp_over env c slot b x) h

theorem dequeue {m : Bool} {o : Option Node} (h : superbufDequeueInternal m x = (o, y)) :
    x.ch.QueueOnly y.ch := by
  have hself := dequeueInternal_over m x x.ch
  rw [over_self, h] at hself
  exact congrArg Ctx.ch (congrArg Prod.snd hself)

end Channel.QueueOnly

/-! ## Metadata -/

namespace Channel.MetaOnly

variable {ch ch' ch'' : Channel}

theorem rfl : ch.MetaOnly ch := Eq.refl ch

theorem trans (h : ch.MetaOnly ch') (h' : ch'.MetaOnly ch'') : ch.MetaOnly ch'' := by
  unfold MetaOnly at h h' ⊢
  rw [h', h]
  rfl

theorem rest {f : Channel → α} (h : ch.MetaOnly ch') (hf : Unmarked f) :
    f ch' = f ch := by
  rw [h]
  exact hf ch' ch _ _ _ _ _

end Channel.MetaOnly

theorem Channel.QueueOnly.metaOnly {ch ch' : Channel} (h : ch.QueueOnly ch') :
    ch.MetaOnly ch' := by
  unfold Channel.MetaOnly
  rw [h]
  rfl

section Metadata

variable (b : BufInfo) (m : Metadata) (x : Ctx)

theorem metaDivertInfo_metaOnly : x.ch.MetaOnly (metaDivertInfo b m x).ch := by
  unfold metaDivertInfo
  split <;> exact Eq.refl _

theorem waitFuture_metaOnly : x.ch.MetaOnly x.waitFuture.ch := Eq.refl _

theorem metaZoom1x_metaOnly : x.ch.MetaOnly (metaZoom1x b m x).ch := by
  unfold metaZoom1x
  split_ifs
  · exact Eq.refl _
  · exact (waitFuture_metaOnly x).trans (Channel.QueueOnly.flushMatched _).metaOnly

theorem metaPrepSnapshotDone_metaOnly :
    { x.ch with bWaitForPrepSnapshotDone :=
        x.ch.bWaitForPrepSnapshotDone && m.prepSnapshotDone.isNone }.MetaOnly
      (metaPrepSnapshotDone m x).ch := by
  unfold metaPrepSnapshotDone
  cases m.prepSnapshotDone with
  | none =>
    simp only [Option.isNone_none, Bool.and_true]
    exact .rfl
  | some state =>
    simp only [Option.isNone_some, Bool.and_false]
    cases state with
    | doNotNeedFutureFrame => exact Eq.refl _
    | needFutureFrame =>
      have hflush := (Channel.QueueOnly.flush .default
        (Ctx.waitFuture ⟨x.fs, { x.ch with bWaitForPrepSnapshotDone := false }⟩)).metaOnly
      exact hflush.trans (Eq.refl _)

theorem metaGoodFrameIdxRange_metaOnly : x.ch.MetaOnly (metaGoodFrameIdxRange m x).ch := by
  unfold metaGoodFrameIdxRange
  split
  · dsimp only
    split_ifs <;> exact Eq.refl _
  · split_ifs
    · exact (Channel.QueueOnly.flushMatched x).metaOnly.trans (Eq.refl _)
    · exact .rfl

theorem metaBracketing_metaOnly : x.ch.MetaOnly (metaBracketing m x).ch := by
  unfold metaBracketing
  split
  · dsimp only
    split_ifs <;> exact Eq.refl _
  · exact .rfl

theorem metaConfigCapture_metaOnly :
    { x.ch with captureFrameId := (metaConfigCapture m x).ch.captureFrameId }.MetaOnly
      (metaConfigCapture m x).ch := by
  unfold metaConfigCapture
  split
  · split
    · exact Eq.refl _
    · exact .rfl
  · exact .rfl

theorem metaBurstFlash_metaOnly : x.ch.MetaOnly (metaBurstFlash b x).ch := by
  unfold metaBurstFlash
  dsimp only
  split_ifs <;> exact Eq.refl _

theorem metaLowLight_metaOnly : x.ch.MetaOnly (metaLowLight m x).ch := by
  unfold metaLowLight
  split <;> exact Eq.refl _

theorem metaUserExpected_metaOnly : x.ch.MetaOnly (metaUserExpected b m x).ch := by
  unfold metaUserExpected
  dsimp only
  split_ifs <;> exact Eq.refl _

theorem beforeConfigCapture_read {f : Channel → α} (hf : Unmarked f)
    (hwait : ∀ (ch : Channel) (wait : Bool), f { ch with bWaitForPrepSnapshotDone := wait } = f ch) :
    f (metaBracketing m (metaGoodFrameIdxRange m (metaPrepSnapshotDone m
      (metaDivertInfo b m x)))).ch = f x.ch := by
  rw [(metaBracketing_metaOnly m _).rest hf, (metaGoodFrameIdxRange_metaOnly m _).rest hf,
    (metaPrepSnapshotDone_metaOnly m _).rest hf, hwait, (metaDivertInfo_metaOnly b m x).rest hf]

/-- **Metadata** changes the queue, its marks, the wait and the frames awaited, and nothing else. -/
theorem applyMetadata_read {f : Channel → α} (hf : Unmarked f)
    (hwait : ∀ (ch : Channel) (wait : Bool), f { ch with bWaitForPrepSnapshotDone := wait } = f ch)
    (hids : ∀ (ch : Channel) (ids : ℕ → ℕ), f { ch with captureFrameId := ids } = f ch) :
    f (applyMetadata b m x).ch = f x.ch := by
  unfold applyMetadata
  dsimp only
  split_ifs
  · rw [(metaZoom1x_metaOnly b m _).rest hf, (metaDivertInfo_metaOnly b m x).rest hf]
  · rw [(metaUserExpected_metaOnly b m _).rest hf, (metaLowLight_metaOnly m _).rest hf,
      (metaBurstFlash_metaOnly b _).rest hf, (metaConfigCapture_metaOnly m _).rest hf, hids,
      beforeConfigCapture_read b m x hf hwait]

end Metadata

/-! ## Taking nodes out -/

/-- A relation between a channel and what is left of it when nodes have been taken out of its queue
and their buffers returned. -/
structure Removal (R : Channel → Channel → Prop) : Prop where
  refl : ∀ ch, R ch ch
  trans : ∀ {ch ch' ch''}, R ch ch' → R ch' ch'' → R ch ch''
  qbuf : ∀ (ch : Channel) (bs : List BufDef), R ch (ch.qbuf bs)
  remove : ∀ (ch : Channel) (before after : List Node) (n : Node) (size matchCnt : ℕ),
    ch.queue.que = before ++ n :: after →
    R ch { ch with queue := { ch.queue with
      que := before ++ after, size := size, matchCnt := matchCnt } }

theorem queueOnly_removal : Removal Channel.QueueOnly :=
  ⟨fun _ => .rfl, .trans, .qbuf, fun _ _ _ _ _ _ _ => Eq.refl _⟩

namespace Removal

variable {R : Channel → Channel → Prop} {x y : Ctx} {s t : System}

theorem dequeue (hR : Removal R) {m : Bool} {o : Option Node}
    (h : superbufDequeueInternal m x = (o, y)) : R x.ch y.ch := by
  cases o with
  | none =>
    rw [(dequeueInternal_none h).1]
    exact hR.refl _
  | some node =>
    obtain ⟨rest, hque, -, hch, -⟩ := dequeueInternal_some h
    rw [hch]
    exact hR.remove x.ch [] rest node _ _ hque

theorem flushLoop (hR : Removal R) (m : Bool) (camType : StreamType) (k : ℕ) (x : Ctx) :
    R x.ch (superbufFlushLoop m camType k x).ch := by
  induction k generalizing x with
  | zero => exact hR.refl _
  | succ k ih =>
    unfold superbufFlushLoop
    cases hd : superbufDequeueInternal m x with
    | mk o y =>
      cases o with
      | none => exact hR.dequeue hd
      | some node =>
        exact hR.trans (hR.dequeue hd) (hR.trans (hR.qbuf y.ch _) (ih (y.qbuf _)))

theorem drop (hR : Removal R) (x : Ctx) : R x.ch (superbufDrop x).ch := by
  unfold superbufDrop
  cases hd : superbufDequeueInternal true x with
  | mk o y =>
    cases o with
    | none => exact hR.dequeue hd
    | some node => exact hR.trans (hR.dequeue hd) (hR.qbuf y.ch _)

theorem dropAbove (hR : Removal R) {mark : ℕ} (h : superbufDropAbove mark x = .ok y) :
    R x.ch y.ch := by
  unfold superbufDropAbove at h
  split at h
  · next z hz =>
    cases h
    exact (whileLoop_invariant (I := fun z : Ctx => R x.ch z.ch)
      (fun z _ hx => hR.trans hx (hR.drop z)) (hR.refl _) hz).1
  · cases h

theorem overflow (hR : Removal R) (h : superbufBufdoneOverflow x = .ok y) : R x.ch y.ch := by
  unfold superbufBufdoneOverflow at h
  split_ifs at h
  · cases h
    exact hR.refl _
  · exact hR.dropAbove h

theorem skip (hR : Removal R) (h : superbufSkip x = .ok y) : R x.ch y.ch := by
  unfold superbufSkip at h
  split_ifs at h
  · cases h
    exact hR.refl _
  · exact hR.dropAbove h

theorem modify (hR : Removal R) {g : Channel → Channel} (s : System) (c d : ChannelId)
    (hg : R (s.ch c) (g (s.ch c))) : R (s.ch d) ((s.modify c g).ch d) := by
  by_cases hd : d = c
  · subst hd
    rw [modify_ch]
    exact hg
  · rw [modify_ch_ne _ hd]
    exact hR.refl _

theorem put (hR : Removal R) (hx : R (s.ch c) x.ch) (d : ChannelId) :
    R (s.ch d) ((s.put c x).ch d) := by
  by_cases hd : d = c
  · subst hd
    rw [put_ch]
    exact hx
  · rw [put_ch_ne _ hd]
    exact hR.refl _

theorem frameSyncDequeue (hR : Removal R) {frame : ℕ} {js : List CamIdx}
    (h : frameSyncDequeue frame js s = (info, t)) (d : ChannelId) : R (s.ch d) (t.ch d) := by
  induction js generalizing s info with
  | nil =>
    cases h
    exact hR.refl _
  | cons j js ih =>
    unfold MmCamera.frameSyncDequeue at h
    split at h
    · exact ih h
    · next c _ =>
      rcases dequeueFrameInternal_cases frame (s.ch c).queue with
        ⟨n, before, after, hq, -, -, hdeq⟩ | ⟨-, hdeq⟩
      · rw [hdeq] at h
        dsimp only at h
        cases hrec : MmCamera.frameSyncDequeue frame js (s.modify c fun ch =>
            { ch with queue := { (s.ch c).queue with
              que := before ++ after, size := decU32 (s.ch c).queue.size
              matchCnt := decU32 (s.ch c).queue.matchCnt } }) with
        | mk info' t' =>
          rw [hrec] at h
          cases h
          exact hR.trans (hR.modify s c d (hR.remove _ before after n _ _ hq)) (ih hrec)
      · rw [hdeq] at h
        exact ih h

theorem nodesQbuf (hR : Removal R) (info : NodeInfo) (s : System) (d : ChannelId) :
    R (s.ch d) ((nodesQbuf info s).ch d) := by
  unfold MmCamera.nodesQbuf
  induction info generalizing s with
  | nil => exact hR.refl _
  | cons p info ih =>
    rw [List.foldl_cons]
    exact hR.trans (hR.modify s p.1 d (hR.qbuf _ _)) (ih _)

/-- **A dequeue** takes nodes out of the queues, of whatever channel: that of a dropped super buffer
and of an incomplete frame as well. -/
theorem collect (hR : Removal R)
    (h : collect c s = (info, t)) (d : ChannelId) : R (s.ch d) (t.ch d) := by
  unfold MmCamera.collect at h
  split at h
  · unfold frameSyncCollect at h
    dsimp only at h
    split at h
    · cases h
      exact hR.refl _
    · cases hdeq : MmCamera.frameSyncDequeue (frameSyncFindMatched false s.fs)
          (List.finRange maxNumCameraPerBundle) s with
      | mk info' t' =>
        have hd := hR.frameSyncDequeue hdeq d
        rw [hdeq] at h
        dsimp only at h
        split at h
        · cases h
          exact hd
        · cases h
          exact hR.trans hd (hR.nodesQbuf info'
            { t' with fs := frameSyncRemove (frameSyncFindMatched false s.fs) t'.fs } d)
  · unfold superbufCollect at h
    cases hdeq : superbufDequeue (s.ctx c) with
    | mk o x =>
      have hx : R (s.ch c) x.ch := hR.dequeue hdeq
      rw [hdeq] at h
      cases o with
      | none =>
        cases h
        exact hR.put hx d
      | some node =>
        dsimp only at h
        split at h
        · cases h
          exact hR.put (x := x.qbuf node.bufs) (hR.trans hx (hR.qbuf x.ch _)) d
        · cases h
          exact hR.put hx d

/-- **A dispatch loop** takes nodes out, sends them, and counts the burst of its own channel. -/
theorem dispatchLoop (hR : Removal R) {d : ChannelId} {mode : NotifyMode}
    {fuel k : ℕ} (hsend : ∀ cbNode node ch, R ch (sendNode cbNode node ch))
    (hburst : d = c → ∀ ch : Channel, R ch ch.countBurst)
    (h : dispatchLoop env c mode fuel k s = .ok t) : R (s.ch d) (t.ch d) := by
  have hinfo : ∀ (info : NodeInfo) (k : ℕ) (s : System),
      R (s.ch d) ((sendSuperBuf env k info s).ch d) := by
    intro info
    induction info with
    | nil => exact fun _ _ => hR.refl _
    | cons p info ih => exact fun k s => hR.trans (hR.modify s p.1 d (hsend _ _ _)) (ih _ _)
  induction fuel generalizing k s with
  | zero =>
    unfold MmCamera.dispatchLoop at h
    split at h
    · cases h
    · cases h
      exact hR.refl _
  | succ fuel ih =>
    cases hd : (s.ch c).dispatching mode with
    | false =>
      rw [dispatchLoop_of_not _ _ hd] at h
      cases h
      exact hR.refl _
    | true =>
      cases hcol : MmCamera.collect c s with
      | mk info u =>
        have hu := hR.collect hcol d
        by_cases hi : info = []
        · subst hi
          rw [dispatchLoop_last _ _ hd hcol] at h
          cases h
          exact hu
        · rw [dispatchLoop_round _ _ hd hcol hi] at h
          refine hR.trans hu (hR.trans ?_ (hR.trans (hinfo info k _) (ih h)))
          split_ifs
          · -- the counters of the burst are those of the dispatching channel
            by_cases hdc : d = c
            · subst hdc
              rw [modify_ch]
              exact hburst rfl _
            · rw [modify_ch_ne _ hdc]
              exact hR.refl _
          · exact hR.refl _

end Removal

/-! ## Dispatch -/

section Dispatch

variable {α : Type*} {s t : System} {c : ChannelId}

theorem modify_read {f : Channel → α} {g : Channel → Channel} (hg : ∀ ch, f (g ch) = f ch)
    (s : System) (c d : ChannelId) : f ((s.modify c g).ch d) = f (s.ch d) := by
  by_cases hd : d = c
  · subst hd
    rw [modify_ch, hg]
  · rw [modify_ch_ne _ hd]

/-- **A dequeue** changes only the queues, of whatever channel. -/
theorem collect_queueOnly (h : collect c s = (info, t)) (d : ChannelId) :
    (s.ch d).QueueOnly (t.ch d) := queueOnly_removal.collect h d

theorem sendSuperBuf_read {f : Channel → α}
    (hf : ∀ cbNode node ch, f (sendNode cbNode node ch) = f ch) (env : Env) (k : ℕ)
    (info : NodeInfo) (s : System) (d : ChannelId) :
    f ((sendSuperBuf env k info s).ch d) = f (s.ch d) := by
  induction info generalizing k s with
  | nil => rfl
  | cons p info ih =>
    obtain ⟨e, node⟩ := p
    rw [sendSuperBuf, ih]
    exact modify_read (hf _ node) s e d

/-- A dispatch loop leaves the rest of the channels alone, and that of its own channel where the
counters of a burst do. -/
theorem dispatchLoop_read {f : Channel → α} (hq : ∀ ch r : Channel, f (ch.over r) = f r)
    (hf : ∀ cbNode node ch, f (sendNode cbNode node ch) = f ch) {mode : NotifyMode}
    {fuel k : ℕ} {d : ChannelId} (hburst : d = c → ∀ ch : Channel, f ch.countBurst = f ch)
    (h : dispatchLoop env c mode fuel k s = .ok t) : f (t.ch d) = f (s.ch d) := by
  have hR : Removal fun ch ch' => f ch' = f ch :=
    ⟨fun _ => rfl, fun h h' => h'.trans h, fun ch bs => (queueOnly_removal.qbuf ch bs).rest f hq,
      fun ch _ _ _ _ _ hque => (queueOnly_removal.remove ch _ _ _ _ _ hque).rest f hq⟩
  exact hR.dispatchLoop hf hburst h

/-- **A command of one channel** leaves the rest of the others alone. -/
theorem processStreamBuf_read {f : Channel → α} (hq : ∀ ch r : Channel, f (ch.over r) = f r)
    (hf : ∀ cbNode node ch, f (sendNode cbNode node ch) = f ch) {cmd : Command}
    {d : ChannelId} (hdc : d ≠ c) (h : processStreamBuf env c cmd s = .ok t) :
    f (t.ch d) = f (s.ch d) := by
  by_cases hflush : ∃ frame type, cmd = .flushQueue frame type
  · obtain ⟨frame, type, rfl⟩ := hflush
    cases h
    rw [put_ch_ne _ hdc]
  · rw [processStreamBuf_eq hflush] at h
    obtain ⟨x, -, h⟩ := bind_eq_ok.mp h
    obtain ⟨y, -, h⟩ := bind_eq_ok.mp h
    rw [dispatchLoop_read hq hf (fun he => absurd he hdc) h, put_ch_ne _ hdc]

end Dispatch

end MmCamera
