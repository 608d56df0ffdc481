import MidoCamera.Stack.QueueOrder
import MidoCamera.Stack.SyncTable

/-!
# The channels and the frame-sync table

Every step of the system is a step of the abstract model of frame sync, when the queues of the
registered channels keep their invariants: what is taken out of a queue without a removal from the
table is not matched, and what is entered in the table is matched in the queue under the frame it
is entered for. So the agreement of the table holds whatever the threads do, in any order.
-/

namespace MmCamera

open Loop List

/-- The frames of which a queue holds a matched super buffer that is entered in the table. -/
def Core.frames (k : Core) : Set ℕ :=
  {f | k.enableFrameSync = true ∧ ∃ n ∈ k.que, n.matched = true ∧ n.frameIdx = f}

def System.frames (s : System) : Frames := fun d => (s.ch d).core.frames

/-- When a buffer completes the node it is found for, that node is of its frame, or waits for one
to take its frame. -/
def OwnFrame (k : Core) (slot : ℕ) (b : BufInfo) : Prop :=
  ∀ pre n post, Found slot b k pre n post → n.LacksOnly slot →
    b.frameIdx = n.frameIdx ∨ 0 < n.unmatchedMetaIdx

/-- The condition on an arrival in a queue that may be registered: in a low priority queue what is
completed completes first, and under its own frame. -/
def MemberCond (k : Core) (slot : ℕ) (b : BufInfo) : Prop :=
  k.priority = .low → CompletesFirst k slot b ∧ OwnFrame k slot b

/-- The invariant of the queue of a channel that may be registered. -/
structure MemberInv (k : Core) : Prop where
  queueInv : QueueInv k
  orderInv : k.priority ≠ .low → OrderInv k

/-! ## The queues -/

section Queues

variable {P : Core → ℕ → BufInfo → Prop} {c : ChannelId} {e : Event} {k k' : Core}

theorem MemberInv.stored_frameIdx {slot : ℕ} {b : BufInfo} {pre post : List Node} {n m : Node}
    (hi : MemberInv k) (hc : MemberCond k slot b) (found : Found slot b k pre n post)
    (empty : n.frameIdxAt slot = 0) (stored : Stored slot b n m) (hm : m.matched = true) :
    m.frameIdx = b.frameIdx := by
  rw [stored.frameIdx, adopt_frameIdx]
  split_ifs with hpos
  · rfl
  · by_cases hp : k.priority = .low
    · rcases (hc hp).2 pre n post found (stored.lacksOnly empty hm) with hf | hw
      · exact hf.symm
      · exact absurd hw hpos
    · exact (hi.orderInv hp).found_frameIdx found

theorem CoreStep.memberInv (hP : ∀ k slot b, P k slot b → MemberCond k slot b)
    (h : CoreStep P c e k k') (hi : MemberInv k) : MemberInv k' := by
  refine ⟨?_, fun hp => h.orderInv (hi.orderInv (h.priority ▸ hp))⟩
  by_cases hp : k.priority = .low
  · -- in a low priority queue, what is completed completes first by the condition
    have hsame : CoreStep CompletesFirst c e k k' := by
      cases h with
      | reject bundled => exact .reject bundled
      | comp bundled index admitted step =>
        exact .comp bundled index ((hP _ _ _ admitted) hp).1 step
      | remove que head disposal => exact .remove que head disposal
      | removeType camType que => exact .removeType camType que
    exact hsame.queueInv (fun _ _ _ hk _ => hk) hi.queueInv
  · exact (h.orderInv (hi.orderInv hp)).queueInv

theorem Queue.Empty.memberInv {ch : Channel} (h : ch.queue.Empty) : MemberInv ch.core :=
  ⟨h.queueInv, h.orderInv⟩

theorem frames_subset (he : k'.enableFrameSync = k.enableFrameSync)
    (hq : ∀ n ∈ k.que, n.matched = true → n ∈ k'.que) : k.frames ⊆ k'.frames := by
  rintro f ⟨hk, n, hn, hm, hf⟩
  exact ⟨he ▸ hk, n, hq n hn hm, hm, hf⟩

/-- **What an arrival does to the table**: nothing, or it enters the frame of the buffer, which is
then matched in the queue. -/
theorem CompStep.sync {fs fs' : FrameSync} {slot : ℕ} {b : BufInfo}
    (h : CompStep c slot b k fs k' fs') :
    fs' = fs ∧ (MemberInv k → MemberCond k slot b → k.frames ⊆ k'.frames) ∨
      fs' = frameSyncAdd b.frameIdx c fs ∧
        (MemberInv k → MemberCond k slot b → k.frames ⊆ k'.frames ∧ b.frameIdx ∈ k'.frames) := by
  cases h with
  | @duplicate pre post n found filled | @store pre post n m found empty stored unmatched =>
    refine .inl ⟨rfl, fun _ _ => frames_subset rfl fun o ho hm => ?_⟩
    rw [found.que] at ho
    rcases mem_append.mp ho with ho | ho
    · simp [ho]
    · rcases mem_cons.mp ho with rfl | ho
      · simp [found.unmatched] at hm
      · simp [ho]
  | @complete keep old post n m found empty stored matched kept oldest =>
    -- what is released is not matched, and the node found is matched under the frame entered
    have hsub : MemberInv k → MemberCond k slot b → ∀ o ∈ k.que, o.matched = true →
        o ∈ keep ++ m :: post := by
      intro hi hc o ho hm
      have hmf := hi.queueInv.matchedFirst
      rw [found.que] at ho hmf
      rcases mem_append.mp ho with ho | ho
      · rcases mem_append.mp ho with ho | ho
        · simp [ho]
        · cases old with
          | nil => simp at ho
          | cons v old =>
            have hv : v.matched = false := by
              have := oldest v rfl
              simp only [Node.older, Bool.and_eq_true, Bool.not_eq_true'] at this
              exact this.1
            have htail := MatchedFirst.tail_unmatched
              (hmf.sublist (by simp) : MatchedFirst (v :: old)) hv
            rcases mem_cons.mp ho with rfl | ho
            · simp [hv] at hm
            · simp [htail o ho] at hm
      · rcases mem_cons.mp ho with rfl | ho
        · simp [found.unmatched] at hm
        · simp [ho]
    unfold Core.syncAdd
    split_ifs with he
    · refine .inr ⟨rfl, fun hi hc => ⟨frames_subset rfl (hsub hi hc), he, m, by simp, matched, ?_⟩⟩
      exact hi.stored_frameIdx hc found empty stored matched
    · exact .inl ⟨rfl, fun hi hc => frames_subset rfl (hsub hi hc)⟩
  | refuse evict =>
    refine .inl ⟨rfl, fun hi _ => frames_subset rfl fun o ho hm => ?_⟩
    exact evict.mem_of_matched hi.queueInv.matchedFirst ho hm
  | @enqueue before after vs expected cut passed room =>
    have hsub : MemberInv k → ∀ o ∈ k.que, o.matched = true →
        o ∈ before ++ k.newNode slot b expected :: after := by
      intro hi o ho hm
      rcases mem_append.mp (cut.evict.mem_of_matched hi.queueInv.matchedFirst ho hm) with
        ho | ho <;> simp [ho]
    by_cases h1 : k.bundledStreams.length = 1
    · rw [if_pos h1]
      unfold Core.syncAdd
      split_ifs with he
      · refine .inr ⟨rfl, fun hi _ => ⟨frames_subset rfl (hsub hi), he,
          k.newNode slot b expected, by simp, by simp [Core.newNode, h1], rfl⟩⟩
      · exact .inl ⟨rfl, fun hi _ => frames_subset rfl (hsub hi)⟩
    · rw [if_neg h1]
      exact .inl ⟨rfl, fun hi _ => frames_subset rfl (hsub hi)⟩

theorem Removes.mem {frame : ℕ} {ns : List Node} (h : Removes frame ns k k') :
    k'.enableFrameSync = k.enableFrameSync ∧
      ∀ n ∈ k.que, n.frameIdx ≠ frame → n ∈ k'.que := by
  induction h with
  | nil => exact ⟨rfl, fun n hn _ => hn⟩
  | @cons k k' before after ns m que matched index _ ih =>
    refine ⟨ih.1, fun n hn hf => ih.2 n ?_ hf⟩
    rw [que] at hn
    change n ∈ before ++ after
    rcases mem_append.mp hn with hn | hn
    · simp [hn]
    · rcases mem_cons.mp hn with rfl | hn
      · exact absurd index hf
      · simp [hn]

theorem Disposals.enableFrameSync {ns : List Node} (h : Disposals ns k k') :
    k'.enableFrameSync = k.enableFrameSync := by
  induction h with
  | nil => rfl
  | cons head _ ih =>
    rw [ih]
    cases head <;> rfl

end Queues

/-! ## The refinement -/

section Refinement

variable {P : ChannelId → Core → ℕ → BufInfo → Prop} {members : Set ChannelId}
  {l : ChannelId × Event} {s t : System}

theorem frames_congr {k k' : Core} (he : k'.enableFrameSync = k.enableFrameSync)
    (hq : k'.que = k.que) : k'.frames = k.frames := by
  unfold Core.frames
  rw [he, hq]

theorem frames_of_queue {ch ch' : Channel} (h : ch'.queue = ch.queue) :
    ch'.core.frames = ch.core.frames := by
  simp only [Core.frames, Channel.core, h]

/-- **What a dequeue does to the table**: nothing, when no frame is lost, or it removes the frame
of the node. -/
theorem dequeue_sync {m : Bool} {x y : Ctx} {node : Node}
    (h : superbufDequeueInternal m x = (some node, y)) :
    y.fs = x.fs ∧ x.ch.core.frames ⊆ y.ch.core.frames ∨
      y.fs = frameSyncRemove node.frameIdx x.fs ∧
        ∀ g ∈ x.ch.core.frames, g ≠ node.frameIdx → g ∈ y.ch.core.frames := by
  obtain ⟨rest, hq, -, hch, hfs⟩ := dequeueInternal_some h
  have hrest : ∀ n ∈ x.ch.core.que, n ≠ node → n ∈ y.ch.core.que := by
    intro n hn hne
    rw [hch]
    change n ∈ rest
    rw [show x.ch.core.que = node :: rest from hq] at hn
    exact (mem_cons.mp hn).resolve_left hne
  have he : y.ch.core.enableFrameSync = x.ch.core.enableFrameSync := by
    rw [hch]
    rfl
  by_cases hc : (node.matched && x.ch.queue.attr.enableFrameSync) = true
  · rw [if_pos hc] at hfs
    refine .inr ⟨hfs, ?_⟩
    rintro g ⟨hk, n, hn, hm, rfl⟩ hne
    exact ⟨he ▸ hk, n, hrest n hn fun heq => hne (heq ▸ rfl), hm, rfl⟩
  · rw [if_neg hc] at hfs
    refine .inl ⟨hfs, ?_⟩
    rintro g ⟨hk, n, hn, hm, rfl⟩
    refine ⟨he ▸ hk, n, hrest n hn ?_, hm, rfl⟩
    rintro rfl
    exact hc (by rw [hm, show x.ch.queue.attr.enableFrameSync = true from hk]; rfl)

theorem frames_put {s : System} {c : ChannelId} {y : Ctx} {d : ChannelId} :
    (s.put c y).frames d = if d = c then y.ch.core.frames else s.frames d := by
  unfold System.frames
  by_cases hd : d = c
  · subst hd
    rw [if_pos rfl, put_ch]
  · rw [if_neg hd, put_ch_ne _ hd]

theorem dequeue_syncStep {m : Bool} {c : ChannelId} {y z : Ctx} {node : Node}
    (h : superbufDequeueInternal m (s.ctx c) = (some node, y)) (hfs : z.fs = y.fs)
    (hframes : z.ch.core.frames = y.ch.core.frames) :
    SyncStep s.fs s.frames (s.put c z).fs (s.put c z).frames := by
  rw [put_fs, hfs]
  rcases dequeue_sync h with ⟨hy, hsub⟩ | ⟨hy, hsub⟩
  · rw [hy]
    refine .keep fun _ d _ => ?_
    rw [frames_put]
    split_ifs with hd
    · subst hd
      rw [hframes]
      exact hsub
    · exact subset_rfl
  · rw [hy]
    refine .leave fun _ d _ g hg hne => ?_
    rw [frames_put]
    split_ifs with hd
    · subst hd
      rw [hframes]
      exact hsub g hg hne
    · exact hg

/-- **The system refines the table**: every step of a handler, and every synced dispatch, is a step
of the abstract model. -/
theorem SysStep.syncStep (hP : ∀ d ∈ members, ∀ k slot b, P d k slot b → MemberCond k slot b)
    (h : SysStep P l s t) (hreg : ∀ j d, s.fs.chObj j = some d → d ∈ members)
    (hi : ∀ d ∈ members, MemberInv (s.ch d).core) : SyncStep s.fs s.frames t.fs t.frames := by
  cases h with
  | @chan _ c e y step =>
    cases step with
    | idle core fs =>
      rw [put_fs, fs]
      refine .keep fun _ d _ => ?_
      rw [frames_put]
      split_ifs with hd
      · subst hd
        rw [core]
        exact subset_rfl
      · exact subset_rfl
    | reject bundled =>
      rw [put_fs]
      refine .keep fun _ d _ => ?_
      rw [frames_put]
      split_ifs with hd
      · subst hd
        exact subset_rfl
      · exact subset_rfl
    | @comp _ _ env b slot bundled index admitted ok =>
      rw [put_fs]
      -- the guarantees for the queue of `c` hold if it is registered
      have hc : ∀ j, s.fs.chObj j = some c → MemberInv (s.ch c).core ∧
          MemberCond (s.ch c).core slot b := fun j hj =>
        ⟨hi c (hreg j c hj), hP c (hreg j c hj) _ _ _ admitted⟩
      rcases (superbufComp_cases ok).sync with ⟨hfs, hsub⟩ | ⟨hfs, hsub⟩
      · rw [hfs]
        refine .keep fun j d hd => ?_
        rw [frames_put]
        split_ifs with hdc
        · subst hdc
          exact hsub (hc j hd).1 (hc j hd).2
        · exact subset_rfl
      · rw [hfs]
        refine .enter index (fun j d hd => ?_) fun j hj => ?_
        · rw [frames_put]
          split_ifs with hdc
          · subst hdc
            exact (hsub (hc j hd).1 (hc j hd).2).1
          · exact subset_rfl
        · rw [frames_put, if_pos rfl]
          exact (hsub (hc j hj).1 (hc j hj).2).2
    | drop deq | dropType camType deq => exact dequeue_syncStep deq rfl rfl
  | @send _ c node x ch cbNode deq core =>
    refine dequeue_syncStep deq rfl ?_
    rw [frames_of_queue (sendNode_queue cbNode node ch), core]
  | @sync _ u v c info env k collected core fs =>
    rw [sendSuperBuf_fs, fs]
    -- after the dispatch the queues are those the synced dequeue has left
    have hsent : ∀ d, (sendSuperBuf env k info v).frames d = u.frames d := by
      intro d
      rw [System.frames, frames_of_queue (sendSuperBuf_queue env d k info v), core d]
      rfl
    unfold frameSyncCollect at collected
    dsimp only at collected
    by_cases h0 : frameSyncFindMatched false s.fs = 0
    · rw [if_pos h0] at collected
      cases collected
      exact .keep fun _ d _ => (hsent d).symm.subset
    · rw [if_neg h0] at collected
      cases hdeq : frameSyncDequeue (frameSyncFindMatched false s.fs)
          (finRange maxNumCameraPerBundle) s with
      | mk info' s' =>
        obtain ⟨hfs', hrem⟩ := frameSyncDequeue_removes hdeq
        -- only nodes of the matched frame have been taken out
        have hsub : ∀ d, ∀ g ∈ s.frames d, g ≠ frameSyncFindMatched false s.fs →
            g ∈ (s'.ch d).core.frames := by
          rintro d g ⟨hk, n, hn, hm, rfl⟩ hne
          obtain ⟨he, hmem⟩ := (hrem d).mem
          exact ⟨he ▸ hk, n, hmem n hn hne, hm, rfl⟩
        rw [hdeq] at collected
        dsimp only at collected
        split_ifs at collected with hlen
        · cases collected
          rw [show (frameSyncRemove (frameSyncFindMatched false s.fs) s'.fs) =
            frameSyncRemove (frameSyncFindMatched false s.fs) s.fs by rw [hfs']]
          exact .leave fun _ d _ g hg hne => (hsent d).symm.subset (hsub d g hg hne)
        · cases collected
          rw [nodesQbuf_fs, hfs']
          refine .leave fun _ d _ g hg hne => (hsent d).symm.subset ?_
          have hdisp := nodesQbuf_disposals d info'
            { s' with fs := frameSyncRemove (frameSyncFindMatched false s.fs) s'.fs }
          have hframes := frames_congr hdisp.enableFrameSync hdisp.que
          exact hframes.symm.subset (hsub d g hg hne)

end Refinement

end MmCamera
