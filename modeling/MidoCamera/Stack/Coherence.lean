import MidoCamera.Stack.QueueOrder

/-!
# The coherence of super buffers

Every slot of a node holds a buffer of the stream it belongs to, a matched node has no empty slot,
and the buffers of a node are of one frame; in a low priority queue the metadata may be of a later
frame. This holds of the nodes in the queue and of those that have been dispatched.
-/

namespace MmCamera

open Loop List

def Node.Holds (n : Node) (i : ℕ) (b : BufInfo) : Prop := n.superBuf[i]? = some (some b)

/-- Each slot of a node is empty or holds a buffer of its stream, with a frame index; and no slot
of a matched node is empty. -/
structure Node.Coherent (streams : List StreamId) (n : Node) : Prop where
  slots : n.superBuf.length = streams.length
  stream : ∀ i b, n.Holds i b → streams[i]? = some b.streamId
  index : ∀ i b, n.Holds i b → b.frameIdx ≠ 0
  full : n.matched = true → ∀ i < streams.length, ∃ b, n.Holds i b

def Node.SameFrame (n : Node) : Prop := ∀ i b, n.Holds i b → b.frameIdx = n.frameIdx

/-- The image buffers of a node are of its frame, its metadata of that frame or a later one, and
while it waits for image buffers it holds metadata only. -/
structure Node.LowFrames (types : StreamId → StreamType) (n : Node) : Prop where
  typed : ∀ i b, n.Holds i b → b.buf.streamType = types b.streamId
  image : ∀ i b, n.Holds i b → b.buf.streamType ≠ .metadata → b.frameIdx = n.frameIdx
  metadata : ∀ i b, n.Holds i b → b.buf.streamType = .metadata → n.frameIdx ≤ b.frameIdx
  waits : 0 < n.unmatchedMetaIdx → ∃ i b, n.Holds i b ∧ b.buf.streamType = .metadata
  metaOnly : 0 < n.unmatchedMetaIdx →
    ∀ i b, n.Holds i b → b.buf.streamType = .metadata ∧ b.frameIdx = n.unmatchedMetaIdx

/-- One of the bundled streams at most is a metadata stream. -/
def OneMetadata (types : StreamId → StreamType) (streams : List StreamId) : Prop :=
  ∀ (i j : ℕ) (s s' : StreamId), streams[i]? = some s → streams[j]? = some s' →
    types s = .metadata → types s' = .metadata → i = j

/-! ## Slots -/

section Slots

variable {n m : Node} {i slot : ℕ} {b b' : BufInfo} {streams : List StreamId}

theorem frameIdxAt_of_holds (h : n.Holds i b) : n.frameIdxAt i = b.frameIdx := by
  simp [Node.frameIdxAt, getD_eq_getElem?_getD, show n.superBuf[i]? = some (some b) from h,
    slotFrameIdx]

theorem slotOf_some {k : Core} {s : StreamId} (h : k.slotOf s = some slot) :
    slot < k.bundledStreams.length ∧ k.bundledStreams[slot]? = some s := by
  obtain ⟨hlt, heq, -⟩ := findIdx?_eq_some_iff_getElem.mp h
  refine ⟨hlt, ?_⟩
  rw [getElem?_eq_getElem hlt]
  simpa using (beq_iff_eq.mp heq).symm

theorem holds_of_set (hset : m.superBuf = n.superBuf.set slot (some b)) (h : m.Holds i b') :
    i = slot ∧ b' = b ∨ i ≠ slot ∧ n.Holds i b' := by
  unfold Node.Holds at h
  rw [hset, getElem?_set] at h
  by_cases hi : slot = i
  · rw [if_pos hi] at h
    split_ifs at h
    simp only [Option.some.injEq] at h
    exact .inl ⟨hi.symm, h.symm⟩
  · rw [if_neg hi] at h
    exact .inr ⟨Ne.symm hi, h⟩

theorem Node.Coherent.adopt {f : ℕ} (h : n.Coherent streams) : (n.adopt f).Coherent streams := by
  refine ⟨?_, ?_, ?_, ?_⟩
  · rw [adopt_superBuf]
    exact h.slots
  · intro i b hb
    exact h.stream i b (by simpa [Node.Holds] using hb)
  · intro i b hb
    exact h.index i b (by simpa [Node.Holds] using hb)
  · intro hm i hi
    obtain ⟨b, hb⟩ := h.full (by simpa using hm) i hi
    exact ⟨b, by simpa [Node.Holds] using hb⟩

theorem Node.Coherent.stored (h : n.Coherent streams) (hs : streams[slot]? = some b.streamId)
    (hb : b.frameIdx ≠ 0) (stored : Stored slot b n m) : m.Coherent streams := by
  have hset := stored.superBuf
  refine ⟨by rw [hset, length_set, h.slots], ?_, ?_, ?_⟩
  · intro i b' hb'
    rcases holds_of_set hset hb' with ⟨rfl, rfl⟩ | ⟨-, hb'⟩
    · exact hs
    · exact h.stream i b' hb'
  · intro i b' hb'
    rcases holds_of_set hset hb' with ⟨rfl, rfl⟩ | ⟨-, hb'⟩
    · exact hb
    · exact h.index i b' hb'
  · -- a matched node has a frame index in every slot, and an empty slot has none
    intro hm i hi
    have hlen : i < m.superBuf.length := by rw [hset, length_set, h.slots]; exact hi
    have hidx := stored.matched_iff.mp hm (m.superBuf[i]) (by rw [← hset]; simp)
    cases hslot : m.superBuf[i] with
    | none => simp [hslot, slotFrameIdx] at hidx
    | some b' => exact ⟨b', by rw [Node.Holds, getElem?_eq_getElem hlen, hslot]⟩

theorem holds_newNode {k : Core} {e : Bool} (h : (k.newNode slot b e).Holds i b') :
    i = slot ∧ b' = b := by
  have hset : (k.newNode slot b e).superBuf =
      (replicate k.bundledStreams.length none).set slot (some b) := rfl
  rcases holds_of_set (n := ⟨replicate k.bundledStreams.length none, false, false, 0, 0⟩)
    hset h with hi | ⟨-, hnone⟩
  · exact hi
  · simp [Node.Holds, getElem?_replicate] at hnone

theorem Node.Coherent.fresh {k : Core} (hs : k.slotOf b.streamId = some slot)
    (hb : b.frameIdx ≠ 0) (e : Bool) : (k.newNode slot b e).Coherent k.bundledStreams := by
  obtain ⟨hlt, hget⟩ := slotOf_some hs
  refine ⟨by simp [Core.newNode], ?_, ?_, ?_⟩
  · intro i b' hb'
    obtain ⟨rfl, rfl⟩ := holds_newNode hb'
    exact hget
  · intro i b' hb'
    obtain ⟨rfl, rfl⟩ := holds_newNode hb'
    exact hb
  · -- a new node is matched when its slot is the only one
    intro hm i hi
    have h1 : k.bundledStreams.length = 1 := by simpa [Core.newNode] using hm
    obtain rfl : i = slot := by omega
    exact ⟨b, by simp [Node.Holds, Core.newNode, hlt]⟩

end Slots

/-! ## The frames of a node -/

section Frames

variable {n m : Node} {slot : ℕ} {b : BufInfo} {types : StreamId → StreamType}

theorem Node.SameFrame.stored (h : n.SameFrame) (hmeta : n.unmatchedMetaIdx = 0)
    (hf : b.frameIdx = n.frameIdx) (stored : Stored slot b n m) : m.SameFrame := by
  intro i b' hb'
  rw [stored.frameIdx, adopt_of_noMeta hmeta]
  rcases holds_of_set stored.superBuf hb' with ⟨-, rfl⟩ | ⟨-, hb'⟩
  · exact hf
  · exact h i b' hb'

theorem adopt_own (h : b.frameIdx = n.frameIdx) : (n.adopt b.frameIdx).frameIdx = n.frameIdx := by
  rw [adopt_frameIdx]
  split_ifs
  · exact h
  · rfl

theorem Node.LowFrames.adopt (h : n.LowFrames types) (hf : b.frameIdx = n.frameIdx) :
    (n.adopt b.frameIdx).LowFrames types := by
  have hholds : ∀ i b', (n.adopt b.frameIdx).Holds i b' → n.Holds i b' := fun i b' hb' => by
    simpa [Node.Holds] using hb'
  have hframe := adopt_own hf
  have hmeta : (n.adopt b.frameIdx).unmatchedMetaIdx = 0 := by
    unfold Node.adopt
    split_ifs with hpos
    · rfl
    · exact Nat.le_zero.mp (not_lt.mp hpos)
  refine ⟨fun i b' hb' => h.typed i b' (hholds i b' hb'), ?_, ?_, ?_, ?_⟩
  · intro i b' hb' hty
    rw [hframe]
    exact h.image i b' (hholds i b' hb') hty
  · intro i b' hb' hty
    rw [hframe]
    exact h.metadata i b' (hholds i b' hb') hty
  · rw [hmeta]
    exact fun hpos => absurd hpos (lt_irrefl 0)
  · rw [hmeta]
    exact fun hpos => absurd hpos (lt_irrefl 0)

/-- **A buffer put in a node of a low priority queue**: metadata joins a node of an earlier or of
its own frame, and an image buffer gives a waiting node its frame. -/
theorem Node.LowFrames.stored {streams : List StreamId} (h : n.LowFrames types)
    (hcoh : n.Coherent streams) (hs : streams[slot]? = some b.streamId)
    (hone : OneMetadata types streams)
    (hty : b.buf.streamType = types b.streamId) (hacc : accepts .low slot b n = true)
    (hempty : n.frameIdxAt slot = 0) (stored : Stored slot b n m) : m.LowFrames types := by
  have hset := stored.superBuf
  have hframe := stored.frameIdx
  have hmeta : m.unmatchedMetaIdx = 0 := by
    obtain ⟨e, rfl⟩ := stored
    show (n.adopt b.frameIdx).unmatchedMetaIdx = 0
    unfold Node.adopt
    split_ifs with hpos
    · rfl
    · exact Nat.le_zero.mp (not_lt.mp hpos)
  -- the new frame of the node, as the three ways of taking a buffer leave it
  have hcases : (m.frameIdx = b.frameIdx ∧ m.frameIdx = n.frameIdx) ∨
      (b.buf.streamType = .metadata ∧ n.frameIdx < b.frameIdx ∧ m.frameIdx = n.frameIdx) ∨
      (b.buf.streamType ≠ .metadata ∧ 0 < n.unmatchedMetaIdx ∧
        b.frameIdx < n.unmatchedMetaIdx ∧ m.frameIdx = b.frameIdx) := by
    simp only [accepts, Bool.or_eq_true, Bool.and_eq_true, beq_iff_eq, bne_iff_ne,
      decide_eq_true_eq] at hacc
    rcases hacc with (hf | ⟨⟨⟨-, -⟩, hb⟩, hlt⟩) | ⟨⟨⟨-, hb⟩, -⟩, hlt⟩
    · exact .inl ⟨by rw [hframe, adopt_own hf, hf], by rw [hframe, adopt_own hf]⟩
    · -- metadata finds no node that waits: that node holds metadata already
      refine .inr (.inl ⟨hb, hlt, ?_⟩)
      have hzero : ¬0 < n.unmatchedMetaIdx := by
        intro hpos
        obtain ⟨i, b', hb', hty'⟩ := h.waits hpos
        obtain rfl : i = slot := hone i slot _ _ (hcoh.stream i b' hb') hs
          ((h.typed i b' hb').symm.trans hty') (hty.symm.trans hb)
        exact hcoh.index i b' hb' ((frameIdxAt_of_holds hb').symm.trans hempty)
      rw [hframe, adopt_frameIdx, if_neg hzero]
    · have hpos : 0 < n.unmatchedMetaIdx := by omega
      exact .inr (.inr ⟨hb, hpos, hlt, by rw [hframe, adopt_frameIdx, if_pos hpos]⟩)
  refine ⟨?_, ?_, ?_, ?_, ?_⟩
  · intro i b' hb'
    rcases holds_of_set hset hb' with ⟨-, rfl⟩ | ⟨-, hb'⟩
    · exact hty
    · exact h.typed i b' hb'
  · intro i b' hb' hty'
    rcases holds_of_set hset hb' with ⟨-, rfl⟩ | ⟨-, hb'⟩
    · rcases hcases with ⟨hm, -⟩ | ⟨hb, -⟩ | ⟨-, -, -, hm⟩
      · exact hm.symm
      · exact absurd hb hty'
      · exact hm.symm
    · rcases hcases with ⟨-, hm⟩ | ⟨-, -, hm⟩ | ⟨-, hpos, -⟩
      · exact (h.image i b' hb' hty').trans hm.symm
      · exact (h.image i b' hb' hty').trans hm.symm
      · exact absurd (h.metaOnly hpos i b' hb').1 hty'
  · intro i b' hb' hty'
    rcases holds_of_set hset hb' with ⟨-, rfl⟩ | ⟨-, hb'⟩
    · rcases hcases with ⟨hm, -⟩ | ⟨-, hlt, hm⟩ | ⟨hb, -⟩
      · exact hm.le
      · exact hm.le.trans hlt.le
      · exact absurd hty' hb
    · rcases hcases with ⟨-, hm⟩ | ⟨-, -, hm⟩ | ⟨-, hpos, hlt, hm⟩
      · exact hm.le.trans (h.metadata i b' hb' hty')
      · exact hm.le.trans (h.metadata i b' hb' hty')
      · -- the metadata of a waiting node is of a later frame than the image buffer
        have := (h.metaOnly hpos i b' hb').2
        omega
  · rw [hmeta]
    exact fun hpos => absurd hpos (lt_irrefl 0)
  · rw [hmeta]
    exact fun hpos => absurd hpos (lt_irrefl 0)

theorem Node.LowFrames.fresh {k : Core} (hp : k.priority = .low)
    (hty : b.buf.streamType = types b.streamId) (hs : k.slotOf b.streamId = some slot) (e : Bool) :
    (k.newNode slot b e).LowFrames types := by
  have hframe : (k.newNode slot b e).frameIdx = b.frameIdx := rfl
  have hmeta : (k.newNode slot b e).unmatchedMetaIdx =
      if b.buf.streamType = .metadata then b.frameIdx else 0 := by
    simp [Core.newNode, hp]
  refine ⟨?_, ?_, ?_, ?_, ?_⟩
  · intro i b' hb'
    obtain ⟨-, rfl⟩ := holds_newNode hb'
    exact hty
  · intro i b' hb' _
    obtain ⟨-, rfl⟩ := holds_newNode hb'
    rfl
  · intro i b' hb' _
    obtain ⟨-, rfl⟩ := holds_newNode hb'
    exact le_rfl
  · intro hpos
    rw [hmeta] at hpos
    split_ifs at hpos with hb
    · exact ⟨slot, b, by simp [Node.Holds, Core.newNode, (slotOf_some hs).1], hb⟩
    · exact absurd hpos (lt_irrefl 0)
  · intro hpos i b' hb'
    rw [hmeta] at hpos ⊢
    split_ifs at hpos ⊢ with hb
    · obtain ⟨-, rfl⟩ := holds_newNode hb'
      exact ⟨hb, rfl⟩
    · exact absurd hpos (lt_irrefl 0)

end Frames

/-! ## All nodes, queued or dispatched -/

section AllNodes

variable {P : Core → ℕ → BufInfo → Prop} {c : ChannelId} {e : Event} {k k' : Core}
  {streams : List StreamId} {priority : Priority} {N : Node → Prop}

/-- A property of nodes that the arrival of a buffer keeps: a new node has it, a node keeps it
with one more buffer, and a duplicate leaves it. -/
structure Keeps (P : Core → ℕ → BufInfo → Prop) (streams : List StreamId) (priority : Priority)
    (N : Node → Prop) : Prop where
  fresh : ∀ k slot b e, k.bundledStreams = streams → k.priority = priority → P k slot b →
    k.slotOf b.streamId = some slot → b.frameIdx ≠ 0 → N (k.newNode slot b e)
  duplicate : ∀ slot b n, accepts priority slot b n = true → n.frameIdxAt slot ≠ 0 → N n →
    N (n.adopt b.frameIdx)
  stored : ∀ k slot b n m, k.bundledStreams = streams → P k slot b →
    k.slotOf b.streamId = some slot → b.frameIdx ≠ 0 → accepts priority slot b n = true →
    n.frameIdxAt slot = 0 → Stored slot b n m → N n → N m

/-- All nodes of the queue and all nodes dispatched have a property, and the latter are
matched. -/
structure AllNodes (streams : List StreamId) (priority : Priority) (N : Node → Prop)
    (k : Core) : Prop where
  streams : k.bundledStreams = streams
  priority : k.priority = priority
  que : ∀ n ∈ k.que, N n
  sent : ∀ n ∈ k.sent, N n ∧ n.matched = true

theorem forall_mem_append_cons {as bs : List Node} {n : Node} (h : ∀ a ∈ as ++ bs, N a)
    (hn : N n) : ∀ a ∈ as ++ n :: bs, N a := by
  intro a ha
  rcases mem_append.mp ha with ha | ha
  · exact h a (by simp [ha])
  · rcases mem_cons.mp ha with rfl | ha
    · exact hn
    · exact h a (by simp [ha])

theorem Evicts.subset {que vs que' : List Node} (h : Evicts que vs que') : que' ⊆ que := by
  cases h with
  | none => exact List.Subset.refl _
  | one => simp

theorem CompStep.forall_que {fs fs' : FrameSync} {slot : ℕ} {b : BufInfo}
    (hN : Keeps P streams priority N) (hi : AllNodes streams priority N k)
    (h : CompStep c slot b k fs k' fs') (bundled : k.slotOf b.streamId = some slot)
    (index : b.frameIdx ≠ 0) (admitted : P k slot b) : ∀ n ∈ k'.que, N n := by
  have hrest : ∀ {pre post n}, Found slot b k pre n post →
      N n ∧ accepts priority slot b n = true ∧ ∀ a ∈ pre ++ post, N a := by
    intro pre post n found
    have hacc := found.accepted
    rw [hi.priority] at hacc
    refine ⟨hi.que n (by rw [found.que]; simp), hacc, fun a ha => hi.que a ?_⟩
    rw [found.que]
    rcases mem_append.mp ha with ha | ha <;> simp [ha]
  cases h with
  | duplicate found filled =>
    obtain ⟨hn, hacc, hothers⟩ := hrest found
    exact forall_mem_append_cons hothers (hN.duplicate _ _ _ hacc filled hn)
  | store found empty stored unmatched =>
    obtain ⟨hn, hacc, hothers⟩ := hrest found
    exact forall_mem_append_cons hothers
      (hN.stored k _ _ _ _ hi.streams admitted bundled index hacc empty stored hn)
  | complete found empty stored matched kept oldest =>
    obtain ⟨hn, hacc, hothers⟩ := hrest found
    refine forall_mem_append_cons (fun a ha => hothers a ?_)
      (hN.stored k _ _ _ _ hi.streams admitted bundled index hacc empty stored hn)
    rcases mem_append.mp ha with ha | ha <;> simp [ha]
  | refuse evict => exact fun n hn => hi.que n (evict.subset hn)
  | enqueue expected cut passed room =>
    exact forall_mem_append_cons (fun a ha => hi.que a (cut.evict.subset ha))
      (hN.fresh k _ _ _ hi.streams hi.priority admitted bundled index)

theorem CompStep.sent {fs fs' : FrameSync} {slot : ℕ} {b : BufInfo}
    (h : CompStep c slot b k fs k' fs') : k'.sent = k.sent := by
  cases h <;> rfl

/-- **A step keeps what an arrival keeps**, of the nodes in the queue and of those dispatched. -/
theorem CoreStep.allNodes (hN : Keeps P streams priority N) (h : CoreStep P c e k k')
    (hi : AllNodes streams priority N k) : AllNodes streams priority N k' := by
  refine ⟨h.bundledStreams.trans hi.streams, h.priority.trans hi.priority, ?_, ?_⟩
  · cases h with
    | reject => exact hi.que
    | comp bundled index admitted step => exact step.forall_que hN hi bundled index admitted
    | @remove k k' before after n que head disposal =>
      rw [disposal.que]
      intro a ha
      refine hi.que a ?_
      rw [que]
      rcases mem_append.mp (show a ∈ before ++ after from ha) with ha | ha <;> simp [ha]
    | removeType camType que =>
      exact fun a ha => hi.que a (by rw [que]; exact mem_cons_of_mem _ ha)
  · cases h with
    | reject | removeType => exact hi.sent
    | comp bundled index admitted step =>
      rw [step.sent]
      exact hi.sent
    | @remove k k' before after n que head disposal =>
      have hn : N n := hi.que n (by rw [que]; simp)
      cases disposal with
      | returned => exact hi.sent
      | called matched bufs | uncalled matched =>
        intro a ha
        rcases mem_append.mp ha with ha | ha
        · exact hi.sent a ha
        · rw [mem_singleton.mp ha]
          exact ⟨hn, matched⟩

end AllNodes

section Runs

variable {P : Core → ℕ → BufInfo → Prop} {streams : List StreamId} {priority : Priority}

theorem keeps_coherent : Keeps P streams priority (Node.Coherent streams) where
  fresh := by
    rintro k slot b e rfl - - hs hb
    exact .fresh hs hb e
  duplicate := fun _ _ _ _ _ hn => hn.adopt
  stored := by
    rintro k slot b n m rfl - hs hb - - stored hn
    exact hn.stored (slotOf_some hs).2 hb stored

theorem keeps_sameFrame (hp : priority ≠ .low) :
    Keeps P streams priority fun n => n.SameFrame ∧ n.unmatchedMetaIdx = 0 where
  fresh := by
    rintro k slot b e - rfl - - -
    refine ⟨fun i b' hb' => ?_, by simp [Core.newNode, hp]⟩
    obtain ⟨-, rfl⟩ := holds_newNode hb'
    rfl
  duplicate := by
    rintro slot b n - - ⟨hn, hmeta⟩
    rw [adopt_of_noMeta hmeta]
    exact ⟨hn, hmeta⟩
  stored := by
    rintro k slot b n m - - - - hacc - stored ⟨hn, hmeta⟩
    rw [accepts_of_ne_low hp] at hacc
    refine ⟨hn.stored hmeta (beq_iff_eq.mp hacc) stored, ?_⟩
    obtain ⟨e, rfl⟩ := stored
    rw [adopt_of_noMeta hmeta]
    exact hmeta

theorem accepts_filled {slot : ℕ} {b : BufInfo} {n : Node} (h : accepts .low slot b n = true)
    (hfilled : n.frameIdxAt slot ≠ 0) : b.frameIdx = n.frameIdx := by
  simp only [accepts, Bool.or_eq_true, Bool.and_eq_true, beq_iff_eq] at h
  rcases h with (hf | ⟨⟨⟨-, h0⟩, -⟩, -⟩) | ⟨⟨⟨-, -⟩, h0⟩, -⟩
  · exact hf
  · exact absurd h0 hfilled
  · exact absurd h0 hfilled

theorem keeps_lowFrames {types : StreamId → StreamType} (hone : OneMetadata types streams)
    (hty : ∀ k slot b, P k slot b → b.buf.streamType = types b.streamId) :
    Keeps P streams .low fun n => n.Coherent streams ∧ n.LowFrames types where
  fresh := by
    rintro k slot b e rfl hp hP hs hb
    exact ⟨.fresh hs hb e, .fresh hp (hty k slot b hP) hs e⟩
  duplicate := by
    rintro slot b n hacc hfilled ⟨hcoh, hlow⟩
    exact ⟨hcoh.adopt, hlow.adopt (accepts_filled hacc hfilled)⟩
  stored := by
    rintro k slot b n m rfl hP hs hb hacc hempty stored ⟨hcoh, hlow⟩
    have hget := (slotOf_some hs).2
    exact ⟨hcoh.stored hget hb stored,
      hlow.stored hcoh hget hone (hty k slot b hP) hacc hempty stored⟩

theorem opRun_forall {Q : ChannelId → Core → ℕ → BufInfo → Prop} {N : Node → Prop}
    {ops : List Op} {s t : System} {c : ChannelId} (empty : (s.ch c).queue.Empty)
    (sent : (s.ch c).sent = []) (run : Run (Op.StepUnder Q) ops s t)
    (hN : Keeps (Q c) (s.ch c).queue.bundledStreams (s.ch c).queue.attr.priority N) :
    (∀ n ∈ (t.ch c).queue.que, N n) ∧ ∀ n ∈ (t.ch c).sent, N n ∧ n.matched = true := by
  obtain ⟨es, -, -, hrun⟩ := opRun_core_run run c
  have hstart : AllNodes (s.ch c).queue.bundledStreams (s.ch c).queue.attr.priority N
      (s.ch c).core := by
    refine ⟨rfl, rfl, ?_, ?_⟩
    · rw [show (s.ch c).core.que = [] from empty.que]
      simp
    · rw [show (s.ch c).core.sent = [] from sent]
      simp
  have hend := hrun.invariant (fun _ _ _ hstep hk => hstep.allNodes hN hk) hstart
  exact ⟨hend.que, hend.sent⟩

/-- The buffers handed to a channel carry the type of their stream. -/
def TypedArrivals (types : StreamId → StreamType) (c : ChannelId) (ops : List Op) : Prop :=
  ∀ env b, .command env c (.dataCb b) ∈ ops → b.buf.streamType = types b.streamId

/-- **Super buffers are coherent**, in the queue and when they are dispatched: every slot is empty
or holds a buffer of its stream; a node that is matched or dispatched has no empty slot; the
buffers of a node are of its frame if the priority of the queue is not low; and if it is, and one
bundled stream at most is a metadata stream, the image buffers are of the frame of the node and the
metadata of that frame or a later one. -/
theorem superBuf_coherent {ops : List Op} {s t : System} {c : ChannelId}
    (empty : (s.ch c).queue.Empty) (sent : (s.ch c).sent = []) (run : Run Op.Step ops s t) :
    ∀ n, n ∈ (t.ch c).queue.que ∨ n ∈ (t.ch c).sent →
      n.Coherent (s.ch c).queue.bundledStreams ∧
      (n ∈ (t.ch c).sent → n.matched = true) ∧
      ((s.ch c).queue.attr.priority ≠ .low → n.SameFrame) ∧
      ((s.ch c).queue.attr.priority = .low → ∀ types,
        OneMetadata types (s.ch c).queue.bundledStreams → TypedArrivals types c ops →
          ∀ i b, n.Holds i b →
            (b.buf.streamType ≠ .metadata → b.frameIdx = n.frameIdx) ∧
            (b.buf.streamType = .metadata → n.frameIdx ≤ b.frameIdx)) := by
  intro n hn
  have hany := run_stepUnder_any run
  obtain ⟨hque, hsent⟩ := opRun_forall empty sent hany keeps_coherent
  refine ⟨?_, fun h => (hsent n h).2, ?_, ?_⟩
  · exact hn.elim (hque n) fun h => (hsent n h).1
  · intro hp
    obtain ⟨hque, hsent⟩ := opRun_forall empty sent hany (keeps_sameFrame hp)
    exact hn.elim (fun h => (hque n h).1) fun h => (hsent n h).1.1
  · intro hp types hone htyped
    -- the run under the restriction that buffers carry the type of their stream
    have htype : Run (Op.StepUnder fun d _ _ b => d = c → b.buf.streamType = types b.streamId)
        ops s t := by
      refine run.mono fun op hop u v hstep => ⟨?_, hstep⟩
      rintro env d b rfl slot y - - rfl
      exact htyped env b hop
    have hkeeps := keeps_lowFrames hone
      (fun k slot b (hP : c = c → b.buf.streamType = types b.streamId) => hP rfl)
    obtain ⟨hque, hsent⟩ := opRun_forall empty sent htype (hp ▸ hkeeps)
    have hlow : n.LowFrames types := hn.elim (fun h => (hque n h).2) fun h => (hsent n h).1.2
    exact fun i b hb => ⟨hlow.image i b hb, hlow.metadata i b hb⟩

/-- A request, and the two buffers of the super buffer that is dispatched for it. -/
theorem superBuf_coherent_twoStreams :
    ∃ t, Run Op.Step
        [.command .ample 0 (.reqDataCb .superBuf 1 0),
          .command .ample 0 (.dataCb (imageBuf 100 1 5)),
          .command .ample 0 (.dataCb (imageBuf 101 2 5))] twoStreams t ∧
      ∃ n, (t.ch 0).sent = [n] ∧ n.Coherent [1, 2] ∧ n.matched = true ∧ n.SameFrame := by
  obtain ⟨t, n, run, hsent⟩ : ∃ t n, Run Op.Step [.command .ample 0 (.reqDataCb .superBuf 1 0),
        .command .ample 0 (.dataCb (imageBuf 100 1 5)),
        .command .ample 0 (.dataCb (imageBuf 101 2 5))] twoStreams t ∧ (t.ch 0).sent = [n] :=
    ⟨_, _, .cons rfl (.cons rfl (.cons rfl (.nil _))), rfl⟩
  have hn : n ∈ (t.ch 0).sent := by simp [hsent]
  have h := superBuf_coherent (c := 0) ⟨rfl, rfl, rfl⟩ rfl run n (.inr hn)
  exact ⟨t, run, n, hsent, h.1, h.2.1 hn, h.2.2.1 (by decide)⟩

end Runs

end MmCamera
