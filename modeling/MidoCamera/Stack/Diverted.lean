import MidoCamera.Stack.ChannelFrame
import MidoCamera.Stack.Conservation

/-!
# The diverted frame

Metadata can announce that a frame has been diverted: its buffers come late, and the superbuf they
are put in is marked as expected, so that they are kept when the queue no longer waits for the
frame. Until a buffer of the frame comes, the announcement is a field of the channel, which the next
announcement overwrites and which the enqueue of a good frame clears as well; and the field is a
`uint8_t`, so that it can only hold a frame below 256.
-/

namespace MmCamera

open Loop List Option

/-! ## What leaves the announcement in place -/

/-- Nodes have been taken out of the queue, and the diverted frame is as it was. -/
structure Channel.Drains (ch ch' : Channel) : Prop where
  diverted : ch'.divertedFrameId = ch.divertedFrameId
  que : ch'.queue.que.Sublist ch.queue.que

namespace Channel.Drains

variable {ch ch' ch'' : Channel}

theorem rfl : ch.Drains ch := ⟨Eq.refl _, Sublist.refl _⟩

theorem trans (h : ch.Drains ch') (h' : ch'.Drains ch'') : ch.Drains ch'' :=
  ⟨h'.diverted.trans h.diverted, h'.que.trans h.que⟩

theorem of_eq (hd : ch'.divertedFrameId = ch.divertedFrameId)
    (hq : ch'.queue.que = ch.queue.que) : ch.Drains ch' := ⟨hd, hq ▸ Sublist.refl _⟩

end Channel.Drains

theorem drains_removal : Removal Channel.Drains :=
  ⟨fun _ => .rfl, .trans, fun _ _ => .of_eq rfl rfl,
    fun _ _ _ _ _ _ hque => ⟨rfl, by rw [hque]; simp⟩⟩

section Metadata

variable (b : BufInfo) (m : Metadata) (x : Ctx)

theorem waitFuture_drains : x.ch.Drains x.waitFuture.ch := .of_eq rfl rfl

theorem flush_drains (camType : StreamType) : x.ch.Drains (superbufFlush camType x).ch :=
  drains_removal.flushLoop _ _ _ x

theorem flushMatched_drains : x.ch.Drains (superbufFlushMatched x).ch :=
  drains_removal.flushLoop _ _ _ x

theorem metaZoom1x_drains : x.ch.Drains (metaZoom1x b m x).ch := by
  unfold metaZoom1x
  split_ifs
  · exact .of_eq rfl rfl
  · exact (waitFuture_drains x).trans (flushMatched_drains _)

theorem metaPrepSnapshotDone_drains : x.ch.Drains (metaPrepSnapshotDone m x).ch := by
  unfold metaPrepSnapshotDone
  cases m.prepSnapshotDone with
  | none => exact .rfl
  | some state =>
    cases state with
    | doNotNeedFutureFrame => exact .of_eq rfl rfl
    | needFutureFrame =>
      have hflush := flush_drains
        (Ctx.waitFuture ⟨x.fs, { x.ch with bWaitForPrepSnapshotDone := false }⟩) .default
      exact ⟨hflush.diverted, hflush.que⟩

theorem metaGoodFrameIdxRange_drains : x.ch.Drains (metaGoodFrameIdxRange m x).ch := by
  unfold metaGoodFrameIdxRange
  split
  · dsimp only
    split_ifs <;> exact .of_eq rfl rfl
  · split_ifs
    · exact (flushMatched_drains x).trans (waitFuture_drains _)
    · exact .rfl

theorem metaBracketing_drains : x.ch.Drains (metaBracketing m x).ch := by
  unfold metaBracketing
  split
  · dsimp only
    split_ifs <;> exact .of_eq rfl rfl
  · exact .rfl

theorem metaConfigCapture_drains : x.ch.Drains (metaConfigCapture m x).ch := by
  unfold metaConfigCapture
  split
  · split <;> exact .of_eq rfl rfl
  · exact .rfl

theorem metaBurstFlash_drains : x.ch.Drains (metaBurstFlash b x).ch := by
  unfold metaBurstFlash
  dsimp only
  split_ifs <;> exact .of_eq rfl rfl

theorem metaLowLight_drains : x.ch.Drains (metaLowLight m x).ch := by
  unfold metaLowLight
  split <;> exact .of_eq rfl rfl

theorem metaUserExpected_drains : x.ch.Drains (metaUserExpected b m x).ch := by
  unfold metaUserExpected
  dsimp only
  split_ifs <;> exact .of_eq rfl rfl

theorem applyMetadata_drains :
    (metaDivertInfo b m x).ch.Drains (applyMetadata b m x).ch := by
  unfold applyMetadata
  dsimp only
  split_ifs
  · exact metaZoom1x_drains b m _
  · exact (metaPrepSnapshotDone_drains m _).trans <| (metaGoodFrameIdxRange_drains m _).trans <|
      (metaBracketing_drains m _).trans <| (metaConfigCapture_drains m _).trans <|
      (metaBurstFlash_drains b _).trans <| (metaLowLight_drains m _).trans <|
      metaUserExpected_drains b m _

theorem metaDivertInfo_que : (metaDivertInfo b m x).ch.queue.que = x.ch.queue.que := by
  unfold metaDivertInfo
  split <;> rfl

end Metadata

section Handler

variable {env : Env} {c d : ChannelId} {cmd : Command} {x y : Ctx} {s t : System}

theorem processGeneral_drains (g : GenericCmd) (x : Ctx) :
    x.ch.Drains (processGeneral g x).ch := by
  have hflush := flush_drains x .default
  cases g with
  | aeBracketing start | afBracketing start | flashBracketing start | zoom1x start =>
    exact ⟨hflush.diverted, hflush.que⟩
  | captureSetting start config => exact .of_eq rfl rfl
  | invalid => exact .rfl

theorem processCommand_drains (hcmd : ¬∃ b, cmd = .dataCb b)
    (h : processCommand env c cmd x = .ok y) : x.ch.Drains y.ch := by
  cases cmd with
  | dataCb b => exact absurd ⟨b, rfl⟩ hcmd
  | reqDataCb type n r =>
    have hreq : x.ch.Drains (x.ch.request type n r) := .of_eq rfl rfl
    exact hreq.trans (drains_removal.skip h)
  | startZsl | stopZsl | configNotify mode => cases h; exact .of_eq rfl rfl
  | general g => cases h; exact processGeneral_drains g x
  | flushQueue | other => cases h; exact .rfl

theorem autoZsl_drains (x : Ctx) : x.ch.Drains (autoZsl x).ch := by
  unfold autoZsl
  dsimp only
  split_ifs
  · have hflush := flush_drains { x with ch := x.ch.awaitBatches } .default
    exact ⟨hflush.diverted, hflush.que⟩
  · exact .of_eq rfl rfl
  · exact .of_eq rfl rfl
  · exact .rfl

theorem sendNode_drains (cbNode : Bool) (node : Node) (ch : Channel) :
    ch.Drains (sendNode cbNode node ch) := by
  unfold sendNode
  dsimp only
  split_ifs <;> exact .of_eq rfl rfl

theorem countBurst_drains (ch : Channel) : ch.Drains ch.countBurst := by
  have hstop : ch.Drains ch.countPending.stopAfterBurst := by
    unfold Channel.stopAfterBurst
    split_ifs <;> exact .of_eq rfl rfl
  refine hstop.trans ?_
  unfold Channel.countBurst Channel.countCapture
  dsimp only
  split_ifs <;> exact .of_eq rfl rfl

theorem dispatchLoop_drains {mode : NotifyMode} {fuel k : ℕ}
    (h : dispatchLoop env c mode fuel k s = .ok t) (d : ChannelId) : (s.ch d).Drains (t.ch d) :=
  drains_removal.dispatchLoop sendNode_drains (fun _ => countBurst_drains) h

/-- **A command** takes nodes out of the queues of other channels, and of its own once what it
hands in has arrived. -/
theorem processStreamBuf_drains (h : processStreamBuf env c cmd s = .ok t) :
    (∀ d ≠ c, (s.ch d).Drains (t.ch d)) ∧
      ((¬∃ b, cmd = .dataCb b) → (s.ch c).Drains (t.ch c)) ∧
      ∀ b, cmd = .dataCb b → ∃ x, superbufCompAndEnqueue env c b (s.ctx c) = .ok x ∧
        x.ch.Drains (t.ch c) := by
  by_cases hflush : ∃ frame type, cmd = .flushQueue frame type
  · obtain ⟨frame, type, rfl⟩ := hflush
    cases h
    have hf : (s.ch c).Drains (processFlush frame type (s.ctx c)).ch := by
      have hflush := flush_drains ((s.ctx c).setQueue
        { (s.ctx c).ch.queue with expectedFrameId := frame }) type
      exact ⟨hflush.diverted, hflush.que⟩
    exact ⟨fun d _ => drains_removal.put hf d, fun _ => drains_removal.put hf c, by simp⟩
  · rw [processStreamBuf_eq hflush] at h
    obtain ⟨x, hx, h⟩ := bind_eq_ok.mp h
    obtain ⟨y, hy, h⟩ := bind_eq_ok.mp h
    have hrest : x.ch.Drains (t.ch c) := by
      have hloop := dispatchLoop_drains h c
      rw [put_ch] at hloop
      exact (autoZsl_drains x).trans ((drains_removal.overflow hy).trans hloop)
    refine ⟨fun d hd => ?_, fun hcmd => (processCommand_drains hcmd hx).trans hrest, ?_⟩
    · have hloop := dispatchLoop_drains h d
      rwa [put_ch_ne _ hd] at hloop
    · rintro b rfl
      exact ⟨x, hx, hrest⟩

end Handler

/-- The buffer is of an earlier frame than the expected one, and no node awaits it. -/
def Ctx.discards (b : BufInfo) (x : Ctx) : Bool :=
  decide (seqCompWRollover b.frameIdx x.ch.queue.expectedFrameId < 0) &&
    decide (validateSuperBuf x.ch.queue b ≤ 0)

/-- The node the scan finds for a buffer. -/
def Ctx.foundNode (slot : ℕ) (b : BufInfo) (x : Ctx) : Option Node :=
  if (x.ch.queue.scan slot b).foundSuperBuf then
    x.ch.queue.que[(x.ch.queue.scan slot b).pos]?
  else none

def Ctx.fills (slot : ℕ) (b : BufInfo) (x : Ctx) : Bool :=
  !x.discards b && (x.foundNode slot b).any fun n => n.frameIdxAt slot == 0

/-- The buffer is put in a new node. -/
def Ctx.enqueues (env : Env) (slot : ℕ) (b : BufInfo) (x : Ctx) : Bool :=
  !x.discards b && !(x.ch.queue.scan slot b).foundSuperBuf &&
    !(decide (x.ch.queue.attr.maxUnmatchedFrames < (x.ch.queue.scan slot b).unmatchedBundles) &&
      (x.ch.queue.scan slot b).lastBuf.isNone) &&
    env.newBuf && env.newNode

def Ctx.places (env : Env) (slot : ℕ) (b : BufInfo) (x : Ctx) : Bool :=
  x.fills slot b || x.enqueues env slot b

/-- A node after an arrival that was not there before: one that no longer waits for its frame, one
with the buffer in its slot, or a new one. -/
inductive Changed (slot : ℕ) (b : BufInfo) (x : Ctx) (m : Node) : Prop
  | adopted {n : Node} (mem : n ∈ x.ch.queue.que) (unmatched : n.matched = false)
      (eq : m = n.adopt b.frameIdx)
  | filled {n : Node} (found : x.foundNode slot b = some n) (mem : n ∈ x.ch.queue.que)
      (unmatched : n.matched = false) (accepted : accepts x.ch.queue.attr.priority slot b n = true)
      (stored : Stored slot b n m)
      (expects : m.matched = true ∨
        m.expectedFrame = (n.expectedFrame || x.ch.divertedFrameId == b.frameIdx))
  | enqueued (new : x.foundNode slot b = none) (eq : m = x.newBuf slot b)

section Arrival

variable {env : Env} {c : ChannelId} {slot : ℕ} {b : BufInfo} {x y : Ctx}

theorem releaseNodes_ch (nodes : List Node) (x : Ctx) :
    (releaseNodes nodes x).ch = { x.ch with
      queue := { x.ch.queue with size := decU32^[nodes.length] x.ch.queue.size }
      qbufs := x.ch.qbufs ++ nodes.flatMap Node.indexedBufs } := by
  unfold releaseNodes
  induction nodes generalizing x with
  | nil => simp
  | cons n nodes ih =>
    rw [foldl_cons, ih]
    simp [Ctx.setQueue, Ctx.qbuf, Channel.qbuf]

theorem releaseOlder_drains {s : Scan} (hs : ∀ l ∈ s.lastBuf, l ≤ s.pos) (x : Ctx) :
    x.ch.Drains (releaseOlder s x).ch := by
  unfold releaseOlder
  cases hl : s.lastBuf with
  | none => exact .rfl
  | some l =>
    refine ⟨by simp only [Ctx.setQueue, releaseNodes_ch], ?_⟩
    have hdrop : (x.ch.queue.que.drop s.pos).Sublist (x.ch.queue.que.drop l) :=
      drop_sublist_drop_left _ (hs l hl)
    have happend := hdrop.append_left (x.ch.queue.que.take l)
    rwa [take_append_drop] at happend

theorem evictAt_ch (i : ℕ) (x : Ctx) : ∃ size qbufs, (evictAt i x).ch = { x.ch with
    queue := { x.ch.queue with que := x.ch.queue.que.eraseIdx i, size := size }
    qbufs := qbufs } := by
  unfold evictAt
  simp only [Ctx.setQueue, releaseNodes_ch]
  exact ⟨_, _, rfl⟩

theorem superbufEvict_drains {s : Scan} {ib : Option ℕ} (h : superbufEvict s x = .ok (ib, y)) :
    x.ch.Drains y.ch ∧ y.newBuf slot b = x.newBuf slot b ∧
      y.ch.queue.goodFrameId = x.ch.queue.goodFrameId := by
  have hevict : ∀ i, x.ch.Drains (evictAt i x).ch ∧ (evictAt i x).newBuf slot b = x.newBuf slot b ∧
      (evictAt i x).ch.queue.goodFrameId = x.ch.queue.goodFrameId := by
    intro i
    obtain ⟨size, qbufs, hch⟩ := evictAt_ch i x
    unfold Ctx.newBuf
    rw [hch]
    exact ⟨⟨rfl, eraseIdx_sublist _ _⟩, rfl, rfl⟩
  unfold superbufEvict at h
  dsimp only at h
  split at h
  · split at h
    · cases h
      exact ⟨.rfl, rfl, rfl⟩
    · split at h
      · split at h
        · cases h
        · cases h
          exact hevict _
      · cases h
        exact hevict _
  · cases h
    exact ⟨.rfl, rfl, rfl⟩

theorem scan_found (hfound : (x.ch.queue.scan slot b).foundSuperBuf = true) :
    ∃ n, x.ch.queue.que[(x.ch.queue.scan slot b).pos]? = some n ∧ n ∈ x.ch.queue.que ∧
      n.matched = false ∧ accepts x.ch.queue.attr.priority slot b n = true ∧
      ∀ l ∈ (x.ch.queue.scan slot b).lastBuf, l ≤ (x.ch.queue.scan slot b).pos := by
  rw [queue_scan_eq] at hfound ⊢
  dsimp only at hfound ⊢
  obtain ⟨n, post, hque, hstop⟩ := passed_append hfound
  have hn : n.matched = false ∧ accepts x.ch.queue.attr.priority slot b n = true := by
    simpa [stops] using hstop
  refine ⟨n, ?_, by rw [hque]; simp, hn.1, hn.2, ?_⟩
  · exact (congrArg (fun l : List Node =>
      l[(passed (accepts x.ch.queue.attr.priority slot b) x.ch.queue.que).length]?) hque).trans
      (by simp)
  · intro l hl
    exact (findIdx?_eq_some_iff_getElem.mp hl).1.le

theorem superbufMatch_drains {s : Scan} (hs : ∀ l ∈ s.lastBuf, l ≤ s.pos) (node : Node) (x : Ctx) :
    (superbufMatch c b s node x).ch.divertedFrameId = x.ch.divertedFrameId ∧
      (superbufMatch c b s node x).ch.queue.que.Sublist
        (x.ch.queue.que.set s.pos { node with expectedFrame := false }) := by
  have hnext : (x.expectNext b).ch.divertedFrameId = x.ch.divertedFrameId ∧
      (x.expectNext b).ch.queue.que = x.ch.queue.que := by
    unfold Ctx.expectNext
    dsimp only
    split_ifs <;> exact ⟨rfl, rfl⟩
  unfold superbufMatch
  dsimp only
  obtain ⟨hdiv, hque⟩ := releaseOlder_drains hs (Ctx.syncAdd
    ((x.expectNext b).setQueue { (x.expectNext b).ch.queue with
      que := (x.expectNext b).ch.queue.que.set s.pos { node with expectedFrame := false }
      matchCnt := incU32 (x.expectNext b).ch.queue.matchCnt }) c b.frameIdx)
  rw [syncAdd_ch] at hdiv hque
  exact ⟨hdiv.trans hnext.1, by rw [← hnext.2]; exact hque⟩

theorem superbufFill_changed (hfound : (x.ch.queue.scan slot b).foundSuperBuf = true) :
    (∀ m ∈ (superbufFill c slot b (x.ch.queue.scan slot b) x).ch.queue.que,
      m ∈ x.ch.queue.que ∨ Changed slot b x m) ∧
    ((∀ n, x.foundNode slot b = some n → n.frameIdxAt slot = 0 →
        x.ch.divertedFrameId ≠ b.frameIdx) →
      (superbufFill c slot b (x.ch.queue.scan slot b) x).ch.divertedFrameId =
        x.ch.divertedFrameId) := by
  obtain ⟨n, hget, hmem, hum, hacc, hlast⟩ := scan_found hfound
  have hnode : x.foundNode slot b = some n := by
    unfold Ctx.foundNode
    rw [if_pos hfound, hget]
  have hset : ∀ {m o : Node}, m ∈ x.ch.queue.que.set (x.ch.queue.scan slot b).pos o →
      m ∈ x.ch.queue.que ∨ m = o := mem_or_eq_of_mem_set
  unfold superbufFill
  simp only [hget]
  by_cases hfill : (n.adopt b.frameIdx).frameIdxAt slot ≠ 0
  · -- the frame is already in the queue
    rw [if_pos hfill]
    refine ⟨fun m hm => ?_, fun _ => rfl⟩
    exact (hset hm).imp_right fun h => .adopted hmem hum h
  · rw [if_neg hfill]
    have hempty : n.frameIdxAt slot = 0 := by simpa using hfill
    cases hm : ((n.adopt b.frameIdx).fill slot b).matched with
    | true =>
      rw [if_pos rfl]
      obtain ⟨hdiv, hque⟩ := superbufMatch_drains (c := c) (b := b) hlast
        ((n.adopt b.frameIdx).fill slot b) (x.setQueue { x.ch.queue with
          que := x.ch.queue.que.set (x.ch.queue.scan slot b).pos (n.adopt b.frameIdx) })
      refine ⟨fun m hmem' => ?_, fun _ => hdiv⟩
      have hm' := hque.subset hmem'
      simp only [Ctx.setQueue, set_set] at hm'
      exact (hset hm').imp_right fun h =>
        .filled hnode hmem hum hacc ⟨false, h⟩ (.inl (by rw [h]; exact hm))
    | false =>
      rw [if_neg (by simp)]
      split_ifs with hd
      · refine ⟨fun m hmem' => ?_, fun hne => absurd hd (hne n hnode hempty)⟩
        simp only [Ctx.setQueue, set_set] at hmem'
        have hdiv : x.ch.divertedFrameId = b.frameIdx := hd
        refine (hset hmem').imp_right fun h => ?_
        exact .filled hnode hmem hum hacc ⟨true, by rw [h]; simp only [hm]⟩
          (.inr (by rw [h]; simp [hdiv]))
      · refine ⟨fun m hmem' => ?_, fun _ => rfl⟩
        simp only [Ctx.setQueue, set_set] at hmem'
        have hdiv : (x.ch.divertedFrameId == b.frameIdx) = false := beq_eq_false_iff_ne.mpr hd
        have hexp : ((n.adopt b.frameIdx).fill slot b).expectedFrame = n.expectedFrame := by
          unfold Node.fill Node.adopt
          split_ifs <;> rfl
        refine (hset hmem').imp_right fun h => ?_
        exact .filled hnode hmem hum hacc ⟨_, h⟩
          (.inr ((congrArg Node.expectedFrame h).trans (by rw [hexp, hdiv, Bool.or_false])))

theorem superbufEnqueue_changed (c : ChannelId) (slot : ℕ) (b : BufInfo) (ib : Option ℕ) (x : Ctx) :
    (∀ m ∈ (superbufEnqueue c slot b ib x).ch.queue.que,
      m ∈ x.ch.queue.que ∨ m = x.newBuf slot b) ∧
    (¬(x.ch.divertedFrameId = b.frameIdx ∨ b.frameIdx = x.ch.queue.goodFrameId) →
      (superbufEnqueue c slot b ib x).ch.divertedFrameId = x.ch.divertedFrameId) := by
  have hinsert : ∀ {m n : Node}, m ∈ insertNode n ib x.ch.queue.que →
      m ∈ x.ch.queue.que ∨ m = n := by
    intro m n hm
    unfold insertNode at hm
    cases ib with
    | none => simpa using hm
    | some k =>
      simp only [mem_append, mem_cons] at hm
      rcases hm with hm | rfl | hm
      · exact .inl (mem_of_mem_take hm)
      · exact .inr rfl
      · exact .inl (mem_of_mem_drop hm)
  refine ⟨fun m hm => hinsert ?_, fun hne => ?_⟩
  · have hque : (superbufEnqueue c slot b ib x).ch.queue.que =
        insertNode (x.newBuf slot b) ib x.ch.queue.que := by
      unfold superbufEnqueue
      dsimp only
      split_ifs <;> first | rfl | exact congrArg (fun ch => ch.queue.que) (syncAdd_ch _ _ _)
    rwa [hque] at hm
  · unfold superbufEnqueue
    dsimp only
    rw [if_neg hne]
    split_ifs
    · rw [syncAdd_ch]
      rfl
    · rfl

/-- **The nodes after an arrival**, and the frame that is announced then: it is as it was, unless
the buffer is put in the queue as one of that frame, or as the good frame in a new node. -/
theorem comp_changed (hold : x.discards b = false) (h : superbufComp env c slot b x = .ok y) :
    (∀ m ∈ y.ch.queue.que, m ∈ x.ch.queue.que ∨ Changed slot b x m) ∧
    ((x.places env slot b = true → x.ch.divertedFrameId ≠ b.frameIdx) →
      (x.enqueues env slot b = true → b.frameIdx ≠ x.ch.queue.goodFrameId) →
      y.ch.divertedFrameId = x.ch.divertedFrameId) := by
  unfold superbufComp at h
  dsimp only at h
  split_ifs at h with hfound
  · cases h
    obtain ⟨hnodes, hdiv⟩ := superbufFill_changed (c := c) hfound
    refine ⟨hnodes, fun hplace _ => hdiv fun n hnode hempty => hplace ?_⟩
    simp [Ctx.places, Ctx.fills, hold, hnode, hempty]
  · have hnode : x.foundNode slot b = none := by
      unfold Ctx.foundNode
      rw [if_neg hfound]
    unfold superbufInsert at h
    by_cases hroom : x.ch.queue.attr.maxUnmatchedFrames <
        (x.ch.queue.scan slot b).unmatchedBundles ∧ (x.ch.queue.scan slot b).lastBuf = none
    · rw [if_pos hroom] at h
      cases h
      exact ⟨fun m hm => .inl hm, fun _ _ => rfl⟩
    · rw [if_neg hroom] at h
      obtain ⟨⟨ib, z⟩, hz, h⟩ := bind_eq_ok.mp h
      obtain ⟨hdrain, hnew, hgood⟩ := @superbufEvict_drains slot b x z _ _ hz
      dsimp only at h
      split_ifs at h with halloc
      · -- the buffer is put in a new node
        have henq : x.enqueues env slot b = true := by
          rw [Bool.and_eq_true] at halloc
          have hkept : (decide (x.ch.queue.attr.maxUnmatchedFrames <
              (x.ch.queue.scan slot b).unmatchedBundles) &&
              (x.ch.queue.scan slot b).lastBuf.isNone) = false := by
            rw [Bool.eq_false_iff, ne_eq, Bool.and_eq_true, decide_eq_true_eq,
              isNone_iff_eq_none]
            exact hroom
          simp [Ctx.enqueues, hold, hfound, hkept, halloc]
        cases h
        obtain ⟨hque, hdiv⟩ := superbufEnqueue_changed c slot b ib z
        refine ⟨fun m hm => ?_, fun hplace hgood' => ?_⟩
        · rcases hque m hm with hm | rfl
          · exact .inl (hdrain.que.subset hm)
          · exact .inr (.enqueued hnode hnew)
        · rw [hdiv ?_, hdrain.diverted]
          rw [hdrain.diverted, hgood]
          exact not_or.mpr ⟨hplace (by simp [Ctx.places, henq]), hgood' henq⟩
      · cases h
        exact ⟨fun m hm => .inl (hdrain.que.subset hm), fun _ _ => hdrain.diverted⟩

end Arrival

/-! ## The announcement -/

def Channel.divertInfo (ch : Channel) (b : BufInfo) : Option ℕ :=
  (ch.metadataOf b).bind Metadata.bufDivertInfo

/-- The metadata of an arriving buffer announces that a frame, not before its own, is diverted. -/
structure BufInfo.Announces (frame : ℕ) (b : BufInfo) (ch : Channel) : Prop where
  bundled : (ch.queue.slotOf b.streamId).isSome
  index : b.frameIdx ≠ 0
  info : ch.divertInfo b = some frame
  later : b.frameIdx ≤ frame

/-- The metadata of a buffer announces no other frame: what it announces is not before its own, and
the same in a `uint8_t`. -/
def BufInfo.AnnouncesOnly (frame : ℕ) (b : BufInfo) (ch : Channel) : Prop :=
  ∀ f ∈ ch.divertInfo b, b.frameIdx ≤ f ∧ f % 2 ^ 8 = frame

/-- An operation brings a buffer to the queue of channel `c`: with its slot, and the channel as its
metadata leaves it. -/
structure Op.Arrives (c : ChannelId) (op : Op) (s : System) (env : Env) (slot : ℕ) (b : BufInfo)
    (x : Ctx) : Prop where
  command : op = .command env c (.dataCb b)
  bundled : (s.ch c).queue.slotOf b.streamId = some slot
  index : b.frameIdx ≠ 0
  metadata : handleMetadata b (s.ctx c) = some x

def Op.Announces (frame : ℕ) (c : ChannelId) (op : Op) (s : System) : Prop :=
  ∃ env b, op = .command env c (.dataCb b) ∧ b.Announces frame (s.ch c)

/-- An operation puts a buffer of a frame in the queue. -/
def Op.Places (frame : ℕ) (c : ChannelId) (op : Op) (s : System) : Prop :=
  ∃ env slot b x, op.Arrives c s env slot b x ∧ b.frameIdx = frame ∧ x.places env slot b = true

/-- An operation leaves the announcement of a frame in place: it announces no other frame, and
enqueues no good frame in a new node. -/
def Op.Undisturbed (frame : ℕ) (c : ChannelId) (op : Op) (s : System) : Prop :=
  ∀ env slot b x, op.Arrives c s env slot b x → b.AnnouncesOnly frame (s.ch c) ∧
    (x.enqueues env slot b = true → b.frameIdx ≠ x.ch.queue.goodFrameId)

section Announcement

variable {frame : ℕ} {env : Env} {c : ChannelId} {slot : ℕ} {b : BufInfo} {x y : Ctx} {op : Op}
  {ops : List Op} {s t : System}

theorem handleMetadata_diverted (h : handleMetadata b x = some y) :
    (y.ch.divertedFrameId = match x.ch.divertInfo b with
      | some f => if b.frameIdx ≤ f then f % 2 ^ 8 else 0
      | none => x.ch.divertedFrameId) ∧
      y.ch.queue.que.Sublist x.ch.queue.que := by
  rcases handleMetadata_cases b x with ⟨m, hm, heq⟩ | ⟨hnone, heq | heq⟩
  · obtain rfl := some.inj (heq.symm.trans h)
    have hdrain := applyMetadata_drains b m x
    refine ⟨hdrain.diverted.trans ?_, by rw [← metaDivertInfo_que b m x]; exact hdrain.que⟩
    unfold metaDivertInfo Channel.divertInfo
    rw [hm, bind_some]
    cases m.bufDivertInfo <;> rfl
  · obtain rfl := some.inj (heq.symm.trans h)
    refine ⟨?_, Sublist.refl _⟩
    simp [Channel.divertInfo, hnone]
  · rw [heq] at h
    cases h

theorem handleMetadata_announced (h : handleMetadata b x = some y)
    (only : b.AnnouncesOnly frame x.ch)
    (announced : x.ch.divertedFrameId = frame ∨ b.Announces frame x.ch) :
    y.ch.divertedFrameId = frame := by
  rw [(handleMetadata_diverted h).1]
  cases hinfo : x.ch.divertInfo b with
  | none =>
    rcases announced with hbefore | hann
    · exact hbefore
    · cases hinfo.symm.trans hann.info
  | some f =>
    obtain ⟨hle, hmod⟩ := only f hinfo
    dsimp only
    rw [if_pos hle, hmod]

theorem Op.Arrives.comp (arrives : op.Arrives c s env slot b x)
    (h : superbufCompAndEnqueue env c b (s.ctx c) = .ok y) :
    x.discards b = true ∧ y = x.qbuf [b.buf] ∨
      x.discards b = false ∧ superbufComp env c slot b x = .ok y := by
  have hslot : (s.ctx c).ch.queue.slotOf b.streamId = some slot := arrives.bundled
  unfold superbufCompAndEnqueue at h
  rw [hslot] at h
  dsimp only at h
  rw [if_neg arrives.index, arrives.metadata] at h
  dsimp only at h
  have hiff : x.discards b = true ↔ seqCompWRollover b.frameIdx x.ch.queue.expectedFrameId < 0 ∧
        validateSuperBuf x.ch.queue b ≤ 0 := by simp [Ctx.discards]
  split_ifs at h with hold
  · cases h
    exact .inl ⟨hiff.mpr hold, rfl⟩
  · exact .inr ⟨by rw [Bool.eq_false_iff, ne_eq, hiff]; exact hold, h⟩

theorem not_arrives (frame : ℕ)
    (hnot : ∀ slot x, ¬(Op.command env c (.dataCb b)).Arrives c s env slot b x)
    (h : superbufCompAndEnqueue env c b (s.ctx c) = .ok y) :
    (s.ch c).Drains y.ch ∧ ¬b.Announces frame (s.ch c) := by
  unfold superbufCompAndEnqueue at h
  cases hslot : (s.ctx c).ch.queue.slotOf b.streamId with
  | none =>
    rw [hslot] at h
    cases h
    refine ⟨.rfl, fun hann => ?_⟩
    have hbundled := hann.bundled
    rw [show (s.ch c).queue.slotOf b.streamId = none from hslot] at hbundled
    cases hbundled
  | some slot =>
    rw [hslot] at h
    dsimp only at h
    by_cases h0 : b.frameIdx = 0
    · rw [if_pos h0] at h
      cases h
      exact ⟨.of_eq rfl rfl, fun hann => hann.index h0⟩
    · cases hm : handleMetadata b (s.ctx c) with
      | some x => exact absurd ⟨rfl, hslot, h0, hm⟩ (hnot slot x)
      | none =>
        rw [if_neg h0, hm] at h
        cases h
        refine ⟨.of_eq rfl rfl, fun hann => ?_⟩
        rcases handleMetadata_cases b (s.ctx c) with ⟨m, -, heq⟩ | ⟨hnone, -⟩
        · rw [hm] at heq
          cases heq
        · have hinfo := hann.info
          unfold Channel.divertInfo at hinfo
          rw [show (s.ch c).metadataOf b = none from hnone] at hinfo
          cases hinfo

/-- **A step leaves the announcement in place** that was there before or that it makes, as long as
it puts no buffer of the frame in the queue and does not disturb it. -/
theorem step_announced (hstep : op.Step s t)
    (announced : (s.ch c).divertedFrameId = frame ∨ op.Announces frame c s)
    (next : ¬op.Places frame c s) (undisturbed : op.Undisturbed frame c s) :
    (t.ch c).divertedFrameId = frame := by
  -- an operation that hands no buffer to the channel announces nothing
  have hidle : (∀ env b, op ≠ .command env c (.dataCb b)) → (s.ch c).Drains (t.ch c) →
      (t.ch c).divertedFrameId = frame := by
    intro hno hdrain
    rcases announced with hbefore | ⟨env, b, hop, -⟩
    · exact hdrain.diverted.trans hbefore
    · exact absurd hop (hno env b)
  cases op with
  | register d | unregister d =>
    cases hstep
    exact hidle (by simp) .rfl
  | command env d cmd =>
    obtain ⟨hother, hquiet, hdata⟩ := processStreamBuf_drains hstep
    by_cases hd : d = c
    · subst hd
      by_cases hcmd : ∃ b, cmd = .dataCb b
      · obtain ⟨b, rfl⟩ := hcmd
        obtain ⟨y, hy, hrest⟩ := hdata b rfl
        rw [hrest.diverted]
        have hann : (s.ch d).divertedFrameId = frame ∨ b.Announces frame (s.ch d) := by
          rcases announced with hbefore | ⟨env', b', hop, hann⟩
          · exact .inl hbefore
          · cases hop
            exact .inr hann
        by_cases harr : ∃ slot x, (Op.command env d (.dataCb b)).Arrives d s env slot b x
        · obtain ⟨slot, x, arrives⟩ := harr
          obtain ⟨honly, hgood⟩ := undisturbed env slot b x arrives
          have hx := handleMetadata_announced arrives.metadata honly hann
          rcases arrives.comp hy with ⟨-, rfl⟩ | ⟨hold, hcomp⟩
          · exact hx
          · refine ((comp_changed hold hcomp).2 (fun hplace heq => ?_) hgood).trans hx
            exact next ⟨env, slot, b, x, arrives, heq.symm.trans hx, hplace⟩
        · obtain ⟨hdrain, hnot⟩ := not_arrives frame (fun slot x h => harr ⟨slot, x, h⟩) hy
          exact hdrain.diverted.trans (hann.resolve_right hnot)
      · exact hidle (fun env' b h => by cases h; exact hcmd ⟨b, rfl⟩) (hquiet hcmd)
    · exact hidle (fun env' b h => by cases h; exact hd rfl) (hother c (Ne.symm hd))

theorem run_announced (run : Run Op.Step ops s t)
    (announced : (s.ch c).divertedFrameId = frame ∨ ∃ o ∈ ops.head?, o.Announces frame c s)
    (next : Along (fun op s => ¬op.Places frame c s) ops s)
    (undisturbed : Along (Op.Undisturbed frame c) ops s) : (t.ch c).divertedFrameId = frame := by
  induction run with
  | nil s =>
    rcases announced with hbefore | ⟨o, ho, -⟩
    · exact hbefore
    · cases ho
  | cons hstep _ ih =>
    refine ih (.inl (step_announced hstep ?_ next.1 undisturbed.1)) (next.2 _ hstep)
      (undisturbed.2 _ hstep)
    rcases announced with hbefore | ⟨o, ho, hann⟩
    · exact .inl hbefore
    · obtain rfl := some.inj ho
      exact .inr hann

theorem arrival_announced (run : Run Op.Step ops s t)
    (announced : ∃ o ∈ (ops ++ [op]).head?, o.Announces frame c s)
    (next : Along (fun op s => ¬op.Places frame c s) ops s)
    (undisturbed : Along (Op.Undisturbed frame c) ops s) (arrives : op.Arrives c t env slot b x)
    (only : b.AnnouncesOnly frame (t.ch c)) : x.ch.divertedFrameId = frame := by
  refine handleMetadata_announced arrives.metadata only ?_
  obtain ⟨o, ho, hann⟩ := announced
  cases run with
  | nil s =>
    obtain rfl := some.inj ho
    obtain ⟨_, _, hop, hb⟩ := hann
    cases arrives.command.symm.trans hop
    exact .inr hb
  | cons hstep hrest =>
    exact .inl (run_announced (.cons hstep hrest) (.inr ⟨o, ho, hann⟩) next undisturbed)

end Announcement

/-! ## The awaited frame -/

/-- A node is complete, or awaits the buffers of a frame, which is its own if `framed`. -/
def Node.Awaits (framed : Prop) (frame : ℕ) (n : Node) : Prop :=
  n.matched = true ∨
    n.expectedFrame = true ∧ (framed → n.frameIdx = frame ∧ n.unmatchedMetaIdx = 0)

/-- The nodes that hold the buffer at an address are complete, or await the buffers of a frame. -/
def Channel.Awaits (addr : ℕ) (framed : Prop) (frame : ℕ) (ch : Channel) : Prop :=
  ∀ n ∈ ch.queue.que, addr ∈ n.bufs.map BufDef.addr → n.Awaits framed frame

/-- The node a buffer is put in is expected for another reason than the announcement: it is so
already, or it is a new one of the good frame. -/
def Ctx.ExpectsAnyway (slot : ℕ) (b : BufInfo) (x : Ctx) : Prop :=
  (∃ n, x.foundNode slot b = some n ∧ n.expectedFrame = true) ∨
    x.foundNode slot b = none ∧ b.frameIdx = x.ch.queue.goodFrameId

/-- The node a buffer is put in is one of its frame, and stays so: the queue is not of low priority,
or the buffer is no metadata, or the node is one of its frame before. -/
def Ctx.KeepsFrame (slot : ℕ) (b : BufInfo) (x : Ctx) : Prop :=
  x.ch.queue.attr.priority ≠ .low ∨ b.buf.streamType ≠ .metadata ∨
    ∃ n, x.foundNode slot b = some n ∧ n.frameIdx = b.frameIdx

section Awaited

variable {frame addr : ℕ} {framed : Prop} {env : Env} {c : ChannelId} {slot : ℕ} {b : BufInfo}
  {n m : Node} {x y : Ctx} {op : Op} {ops : List Op} {s t : System}

theorem Stored.mem_bufs (h : Stored slot b n m) {d : BufDef} (hd : d ∈ m.bufs) :
    d = b.buf ∨ d ∈ n.bufs := by
  unfold Node.bufs at hd ⊢
  rw [h.superBuf] at hd
  obtain ⟨s, hs, hsd⟩ := mem_filterMap.mp hd
  rcases mem_or_eq_of_mem_set hs with hs | rfl
  · exact .inr (mem_filterMap.mpr ⟨s, hs, hsd⟩)
  · exact .inl (some.inj hsd).symm

theorem newBuf_mem_bufs {d : BufDef} (hd : d ∈ (x.newBuf slot b).bufs) : d = b.buf := by
  obtain ⟨s, hs, hsd⟩ := mem_filterMap.mp hd
  rcases mem_or_eq_of_mem_set hs with hs | rfl
  · rw [eq_of_mem_replicate hs] at hsd
    cases hsd
  · exact (some.inj hsd).symm

theorem Stored.adopted (h : Stored slot b n m) :
    m.frameIdx = (n.adopt b.frameIdx).frameIdx ∧
      m.unmatchedMetaIdx = (n.adopt b.frameIdx).unmatchedMetaIdx := by
  obtain ⟨e, rfl⟩ := h
  exact ⟨rfl, rfl⟩

/-- **The placement**: a buffer that was not held is put in a node that is complete, or awaits its
frame. -/
theorem placed_awaits (hold : x.discards b = false) (h : superbufComp env c slot b x = .ok y)
    (fresh : ∀ n ∈ x.ch.queue.que, b.buf.addr ∉ n.bufs.map BufDef.addr)
    (expects : x.ch.divertedFrameId = b.frameIdx ∨ x.ExpectsAnyway slot b) :
    y.ch.Awaits b.buf.addr (x.KeepsFrame slot b) b.frameIdx := by
  intro m hm haddr
  rcases (comp_changed hold h).1 m hm with hmem | hchanged
  · exact absurd haddr (fresh m hmem)
  · cases hchanged with
    | @adopted n hmem hum heq =>
      rw [heq, adopt_bufs] at haddr
      exact absurd haddr (fresh n hmem)
    | @filled n hfound hmem hum hacc hstored hexp =>
      rcases hexp with hmatched | hexp
      · exact .inl hmatched
      · refine .inr ⟨?_, fun hkeeps => ?_⟩
        · rw [hexp, Bool.or_eq_true, beq_iff_eq]
          rcases expects with hdiv | ⟨n', hn', he⟩ | ⟨hnone, -⟩
          · exact .inr hdiv
          · obtain rfl := some.inj (hfound.symm.trans hn')
            exact .inl he
          · cases hfound.symm.trans hnone
        · obtain ⟨hframe, hmeta⟩ := hstored.adopted
          rw [hframe, hmeta]
          unfold Node.adopt
          split_ifs with hpos
          · exact ⟨rfl, rfl⟩
          · refine ⟨?_, Nat.eq_zero_of_not_pos hpos⟩
            -- a node that waits for no metadata takes a buffer of its own frame, or metadata
            simp only [accepts, Bool.or_eq_true, Bool.and_eq_true, beq_iff_eq, bne_iff_ne,
              decide_eq_true_eq] at hacc
            rcases hacc with (heq | ⟨⟨⟨hlow, -⟩, hmd⟩, -⟩) | ⟨-, hlt⟩
            · exact heq.symm
            · rcases hkeeps with hne | hne | ⟨n', hn', heq⟩
              · exact absurd hlow hne
              · exact absurd hmd hne
              · obtain rfl := some.inj (hfound.symm.trans hn')
                exact heq
            · omega
    | enqueued hnew heq =>
      subst heq
      by_cases hone : (x.newBuf slot b).matched = true
      · exact .inl hone
      · refine .inr ⟨?_, fun hkeeps => ⟨rfl, ?_⟩⟩
        · have hmany : (x.ch.queue.numStreams != 1) = true := by
            simpa [Ctx.newBuf] using hone
          change (x.ch.queue.numStreams != 1 && (x.ch.divertedFrameId == b.frameIdx ||
            b.frameIdx == x.ch.queue.goodFrameId)) = true
          rw [hmany, Bool.true_and, Bool.or_eq_true, beq_iff_eq, beq_iff_eq]
          rcases expects with hdiv | ⟨n', hn', -⟩ | ⟨-, hgood⟩
          · exact .inl hdiv
          · cases hnew.symm.trans hn'
          · exact .inr hgood
        · refine if_neg ?_
          rintro ⟨hlow, hmd⟩
          rcases hkeeps with hne | hne | ⟨n', hn', -⟩
          · exact hne hlow
          · exact hne hmd
          · cases hnew.symm.trans hn'

theorem comp_awaits (hold : x.discards b = false) (h : superbufComp env c slot b x = .ok y)
    (hne : b.buf.addr ≠ addr) (hx : x.ch.Awaits addr framed frame) :
    y.ch.Awaits addr framed frame := by
  intro m hm haddr
  rcases (comp_changed hold h).1 m hm with hmem | hchanged
  · exact hx m hmem haddr
  · cases hchanged with
    | @adopted n hmem hum heq =>
      subst heq
      rw [adopt_bufs] at haddr
      rcases hx n hmem haddr with hmatched | ⟨hexp, hframe⟩
      · exact .inl (by simpa using hmatched)
      · refine .inr ⟨?_, fun hf => ?_⟩
        · unfold Node.adopt
          split_ifs <;> exact hexp
        · rw [adopt_of_noMeta (hframe hf).2]
          exact hframe hf
    | @filled n hfound hmem hum hacc hstored hexp =>
      have hn : addr ∈ n.bufs.map BufDef.addr := by
        obtain ⟨d, hd, rfl⟩ := mem_map.mp haddr
        rcases hstored.mem_bufs hd with rfl | hd
        · exact absurd rfl hne
        · exact mem_map_of_mem hd
      rcases hx n hmem hn with hmatched | ⟨hexp', hframe⟩
      · cases hum.symm.trans hmatched
      · rcases hexp with hmatched | hexp
        · exact .inl hmatched
        · refine .inr ⟨by rw [hexp, hexp', Bool.true_or], fun hf => ?_⟩
          obtain ⟨hfr, hmeta⟩ := hstored.adopted
          rw [hfr, hmeta, adopt_of_noMeta (hframe hf).2]
          exact hframe hf
    | enqueued hnew heq =>
      subst heq
      obtain ⟨d, hd, rfl⟩ := mem_map.mp haddr
      exact absurd (congrArg BufDef.addr (newBuf_mem_bufs hd)).symm hne

theorem Channel.Drains.awaits {ch ch' : Channel} (h : ch.Drains ch')
    (hch : ch.Awaits addr framed frame) : ch'.Awaits addr framed frame :=
  fun n hn => hch n (h.que.subset hn)

/-- **A step keeps a node awaiting its frame**, as long as the buffer in it is not handed in
again. -/
theorem step_awaits (hstep : op.Step s t) (hs : (s.ch c).Awaits addr framed frame)
    (hne : ∀ env b, op = .command env c (.dataCb b) → b.buf.addr ≠ addr) :
    (t.ch c).Awaits addr framed frame := by
  cases op with
  | register d | unregister d =>
    cases hstep
    exact hs
  | command env d cmd =>
    obtain ⟨hother, hquiet, hdata⟩ := processStreamBuf_drains hstep
    by_cases hd : d = c
    · subst hd
      by_cases hcmd : ∃ b, cmd = .dataCb b
      · obtain ⟨b, rfl⟩ := hcmd
        obtain ⟨y, hy, hrest⟩ := hdata b rfl
        refine hrest.awaits ?_
        by_cases harr : ∃ slot x, (Op.command env d (.dataCb b)).Arrives d s env slot b x
        · obtain ⟨slot, x, arrives⟩ := harr
          have hx : x.ch.Awaits addr framed frame := fun n hn =>
            hs n ((handleMetadata_diverted arrives.metadata).2.subset hn)
          rcases arrives.comp hy with ⟨-, rfl⟩ | ⟨hold, hcomp⟩
          · exact hx
          · exact comp_awaits hold hcomp (hne env b rfl) hx
        · exact (not_arrives frame (fun slot x h => harr ⟨slot, x, h⟩) hy).1.awaits hs
      · exact (hquiet hcmd).awaits hs
    · exact (hother c (Ne.symm hd)).awaits hs

theorem run_awaits (run : Run Op.Step ops s t) (hs : (s.ch c).Awaits addr framed frame)
    (hne : ∀ env b, .command env c (.dataCb b) ∈ ops → b.buf.addr ≠ addr) :
    (t.ch c).Awaits addr framed frame := by
  induction run with
  | nil s => exact hs
  | cons hstep _ ih =>
    refine ih (step_awaits hstep hs fun env b hop => hne env b ?_)
      fun env b hmem => hne env b (mem_cons_of_mem _ hmem)
    rw [← hop]
    exact mem_cons_self

theorem validateSuperBuf_of_mem {q : Queue} (hn : n ∈ q.que) (hexp : n.expectedFrame = true)
    {b : BufInfo} (hframe : b.frameIdx = n.frameIdx) : validateSuperBuf q b = 1 := by
  refine if_pos (any_eq_true.mpr ⟨n, hn, ?_⟩)
  rw [hexp, hframe, Bool.true_and, beq_self_eq_true]

/-- **The diverted frame is awaited.** After a frame has been announced, its next buffer that is put
in the queue leaves its superbuf complete or expected, and so it stays: as long as the superbuf is
in the queue and incomplete, it is expected, and later buffers of the frame are kept for it. That
takes one of two things:

* the field can hold the frame, and nothing disturbs the announcement until the buffer is placed;
* the superbuf is expected anyway.

The superbuf is one of the frame unless metadata is put in one of a later frame. -/
theorem diverted_awaited {u v : System} {ops' : List Op} (before : Run Op.Step ops s t)
    (announced : ∃ o ∈ (ops ++ [op]).head?, o.Announces frame c s)
    (next : Along (fun o s => ¬o.Places frame c s) ops s)
    (arrives : op.Arrives c t env slot b x) (of_frame : b.frameIdx = frame)
    (fresh : b.buf.addr ∉ (t.ch c).heldAddrs)
    (holds : (frame < 2 ^ 8 ∧ Along (Op.Undisturbed frame c) ops s ∧
        b.AnnouncesOnly frame (t.ch c)) ∨ x.ExpectsAnyway slot b)
    (step : op.Step t u) (after : Run Op.Step ops' u v)
    (once : ∀ env' b', .command env' c (.dataCb b') ∈ ops' → b'.buf.addr ≠ b.buf.addr) :
    ∀ n ∈ (v.ch c).queue.que, b.buf.addr ∈ n.bufs.map BufDef.addr → n.matched = false →
      n.expectedFrame = true ∧ (x.KeepsFrame slot b →
        ∀ b' : BufInfo, b'.frameIdx = frame → validateSuperBuf (v.ch c).queue b' = 1) := by
  have hfresh : ∀ n ∈ x.ch.queue.que, b.buf.addr ∉ n.bufs.map BufDef.addr := by
    intro n hn haddr
    refine fresh ?_
    obtain ⟨d, hd, heq⟩ := mem_map.mp haddr
    have hmem : n ∈ (t.ch c).queue.que :=
      (handleMetadata_diverted arrives.metadata).2.subset hn
    exact heq ▸ mem_map_of_mem (mem_flatMap.mpr ⟨n, hmem, hd⟩)
  have hexpects : x.ch.divertedFrameId = b.frameIdx ∨ x.ExpectsAnyway slot b := by
    refine holds.imp_left fun ⟨_, hundisturbed, honly⟩ => ?_
    rw [of_frame]
    exact arrival_announced before announced next hundisturbed arrives honly
  have hu : (u.ch c).Awaits b.buf.addr (x.KeepsFrame slot b) frame := by
    have hstep : processStreamBuf env c (.dataCb b) t = .ok u := by
      rw [arrives.command] at step
      exact step
    obtain ⟨y, hy, hrest⟩ := (processStreamBuf_drains hstep).2.2 b rfl
    refine hrest.awaits ?_
    rcases arrives.comp hy with ⟨-, rfl⟩ | ⟨hold, hcomp⟩
    · -- the buffer has gone back to its stream
      exact fun n hn haddr => absurd haddr (hfresh n hn)
    · exact of_frame ▸ placed_awaits hold hcomp hfresh hexpects
  intro n hn haddr hum
  rcases run_awaits after hu once n hn haddr with hmatched | ⟨hexp, hkept⟩
  · cases hum.symm.trans hmatched
  · exact ⟨hexp, fun hkeeps b' hb' =>
      validateSuperBuf_of_mem hn hexp (hb'.trans (hkept hkeeps).1.symm)⟩

def metaAndPreview : System :=
  .started fun _ => .started [1, 2] (.burst .normal false) [.own 1 .metadata, .own 2 .preview]

/-- The metadata of a frame, with the announcement that another is diverted. -/
def divertBuf (addr streamId frameIdx frame : ℕ) : BufInfo :=
  ⟨streamId, frameIdx, ⟨addr, streamId, .metadata, some { bufDivertInfo := some frame }⟩⟩

/-- Frame 300 is announced, and its next buffer is put in a superbuf that is not expected. -/
theorem diverted_forgotten :
    ∃ s t x,
      Op.exec (.command .ample 0 (.dataCb (divertBuf 100 1 299 300))) metaAndPreview = .ok s ∧
      (Op.command .ample 0 (.dataCb (divertBuf 100 1 299 300))).Announces 300 0 metaAndPreview ∧
      (Op.command .ample 0 (.dataCb (imageBuf 101 2 300))).Arrives 0 s .ample 1 (imageBuf 101 2 300)
        x ∧ x.places .ample 1 (imageBuf 101 2 300) = true ∧
      Op.exec (.command .ample 0 (.dataCb (imageBuf 101 2 300))) s = .ok t ∧
      (∃ n ∈ (t.ch 0).queue.que, 101 ∈ n.bufs.map BufDef.addr ∧ n.matched = false ∧
        n.expectedFrame = false) ∧
      validateSuperBuf (t.ch 0).queue (metaBuf 102 1 300) = 0 :=
  ⟨_, _, _, rfl, ⟨_, _, rfl, rfl, by decide, rfl, by decide⟩, ⟨rfl, rfl, by decide, rfl⟩,
    by decide +kernel, rfl, by decide +kernel, by decide +kernel⟩

/-- Frame 200 is announced, and its next buffer is put in a superbuf that is expected. -/
theorem diverted_awaited_twoHundred :
    ∃ s t x,
      Op.exec (.command .ample 0 (.dataCb (divertBuf 100 1 199 200))) metaAndPreview = .ok s ∧
      (Op.command .ample 0 (.dataCb (imageBuf 101 2 200))).Arrives 0 s .ample 1 (imageBuf 101 2 200)
        x ∧ x.places .ample 1 (imageBuf 101 2 200) = true ∧
      Op.exec (.command .ample 0 (.dataCb (imageBuf 101 2 200))) s = .ok t ∧
      (∃ n ∈ (t.ch 0).queue.que, 101 ∈ n.bufs.map BufDef.addr ∧ n.matched = false) ∧
      ∀ n ∈ (t.ch 0).queue.que, 101 ∈ n.bufs.map BufDef.addr → n.matched = false →
        n.expectedFrame = true ∧
          ∀ b' : BufInfo, b'.frameIdx = 200 → validateSuperBuf (t.ch 0).queue b' = 1 := by
  obtain ⟨s, t, x, hs, arrives, hplaces, ht, hfresh, hkeeps, hnode⟩ : ∃ s t x,
      Op.exec (.command .ample 0 (.dataCb (divertBuf 100 1 199 200))) metaAndPreview = .ok s ∧
      (Op.command .ample 0 (.dataCb (imageBuf 101 2 200))).Arrives 0 s .ample 1 (imageBuf 101 2 200)
        x ∧ x.places .ample 1 (imageBuf 101 2 200) = true ∧
      Op.exec (.command .ample 0 (.dataCb (imageBuf 101 2 200))) s = .ok t ∧
      101 ∉ (s.ch 0).heldAddrs ∧ x.ch.queue.attr.priority ≠ .low ∧
      ∃ n ∈ (t.ch 0).queue.que, 101 ∈ n.bufs.map BufDef.addr ∧ n.matched = false :=
    ⟨_, _, _, rfl, ⟨rfl, rfl, by decide, rfl⟩, by decide +kernel, rfl, by decide +kernel,
      by decide +kernel, by decide +kernel⟩
  have hnext : Along (fun o s => ¬o.Places 200 0 s)
      [.command .ample 0 (.dataCb (divertBuf 100 1 199 200))] metaAndPreview := by
    refine ⟨?_, fun _ _ => trivial⟩
    rintro ⟨_, _, b, _, harr, hframe, -⟩
    cases harr.command
    cases hframe
  have hundisturbed : Along (Op.Undisturbed 200 0)
      [.command .ample 0 (.dataCb (divertBuf 100 1 199 200))] metaAndPreview := by
    refine ⟨?_, fun _ _ => trivial⟩
    intro _ _ b x' harr
    cases harr.command
    obtain rfl := some.inj (harr.metadata.symm.trans rfl)
    refine ⟨fun f hf => ?_, fun _ => by decide +kernel⟩
    obtain rfl := some.inj hf
    exact ⟨by decide, rfl⟩
  have honly : (imageBuf 101 2 200).AnnouncesOnly 200 (s.ch 0) := by
    cases hs
    intro f hf
    cases hf
  refine ⟨s, t, x, hs, arrives, hplaces, ht, hnode, fun n hn haddr hum => ?_⟩
  have hawaited := diverted_awaited (.one hs) ⟨_, rfl, _, _, rfl, rfl, by decide, rfl, by decide⟩
    hnext arrives rfl hfresh (.inl ⟨by decide, hundisturbed, honly⟩) ht (.nil _) (by simp) n hn
    haddr hum
  exact ⟨hawaited.1, hawaited.2 (.inl hkeeps)⟩

end Awaited

end MmCamera
