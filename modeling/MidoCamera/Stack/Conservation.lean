import MidoCamera.Stack.Coherence
import Mathlib.Tactic.Abel

/-!
# The conservation of buffers

A ledger of the buffers of a channel: those in the slots of its queue, those that have been
returned to their streams, and those in the super buffers of the callback thread. The arrival of a
buffer enters it in the ledger, and no other step changes the ledger, unless it flushes one stream
type. So a buffer that is handed in is from then on in exactly one place.
-/

namespace MmCamera

open Loop List

def Core.held (k : Core) : List BufDef := k.que.flatMap Node.bufs

def dispatchedBufs (sbs : List SuperBuf) : List BufDef := sbs.flatMap fun sb => sb.bufs.reduceOption

/-- The ledger of a channel: the buffers it holds, has returned and has dispatched. -/
def Core.ledger (k : Core) : Multiset BufDef :=
  (k.held : Multiset BufDef) + k.qbufs + dispatchedBufs k.cbQueue

def Event.entry (e : Event) : Multiset BufDef := ((arrivals [e]).map BufInfo.buf : List BufDef)

/-! ## The buffers of a node -/

section Nodes

variable {n m : Node} {slot : ℕ} {b : BufInfo} {streams : List StreamId}

theorem Node.Coherent.indexedBufs (h : n.Coherent streams) : n.indexedBufs = n.bufs := by
  unfold Node.indexedBufs Node.bufs
  refine filterMap_congr fun s hs => ?_
  obtain ⟨i, hi, rfl⟩ := mem_iff_getElem.mp hs
  cases hslot : n.superBuf[i] with
  | none => rfl
  | some b =>
    have hb : b.frameIdx ≠ 0 := h.index i b (by rw [Node.Holds, getElem?_eq_getElem hi, hslot])
    simp [slotFrameIdx, hb]

theorem Node.Coherent.empty (h : n.Coherent streams) (hslot : slot < streams.length)
    (h0 : n.frameIdxAt slot = 0) : n.superBuf[slot]? = some none := by
  have hlt : slot < n.superBuf.length := h.slots ▸ hslot
  rw [getElem?_eq_getElem hlt]
  cases hs : n.superBuf[slot] with
  | none => rfl
  | some b =>
    have hb : n.Holds slot b := by rw [Node.Holds, getElem?_eq_getElem hlt, hs]
    exact absurd ((frameIdxAt_of_holds hb).symm.trans h0) (h.index slot b hb)

@[simp] theorem adopt_bufs (n : Node) (f : ℕ) : (n.adopt f).bufs = n.bufs := by
  simp [Node.bufs]

theorem bufs_of_set {slots : List (Option BufInfo)} (h : slots[slot]? = some none) :
    (((slots.set slot (some b)).filterMap (·.map BufInfo.buf) : List BufDef) : Multiset BufDef) =
      b.buf ::ₘ (slots.filterMap (·.map BufInfo.buf) : List BufDef) := by
  induction slots generalizing slot with
  | nil => simp at h
  | cons s slots ih =>
    cases slot with
    | zero =>
      simp only [getElem?_cons_zero, Option.some.injEq] at h
      subst h
      simp
    | succ slot =>
      have ih' := @ih slot (by simpa using h)
      cases s with
      | none => simpa using ih'
      | some b' =>
        simp only [set_cons_succ, filterMap_cons, Option.map_some, ← Multiset.cons_coe, ih']
        exact Multiset.cons_swap _ _ _

theorem Node.Coherent.stored_bufs (h : n.Coherent streams) (hslot : slot < streams.length)
    (h0 : n.frameIdxAt slot = 0) (stored : Stored slot b n m) :
    (m.bufs : Multiset BufDef) = b.buf ::ₘ n.bufs := by
  unfold Node.bufs
  rw [stored.superBuf]
  exact bufs_of_set (h.empty hslot h0)

theorem newNode_bufs {k : Core} (hs : k.slotOf b.streamId = some slot) (e : Bool) :
    ((k.newNode slot b e).bufs : Multiset BufDef) = {b.buf} := by
  have hget : (replicate k.bundledStreams.length (none : Option BufInfo))[slot]? =
      some none := by simp [(slotOf_some hs).1]
  have hnone : (replicate k.bundledStreams.length (none : Option BufInfo)).filterMap
      (·.map BufInfo.buf) = [] := by simp
  have hset := bufs_of_set (b := b) hget
  rw [hnone] at hset
  exact hset

theorem reduceOption_bufs (n : Node) :
    (n.superBuf.map (·.map BufInfo.buf)).reduceOption = n.bufs := by
  change filterMap id _ = _
  simp [Node.bufs, filterMap_map]

end Nodes

/-! ## The ledger -/

section Ledger

variable {P : Core → ℕ → BufInfo → Prop} {c : ChannelId} {e : Event} {k k' : Core}

theorem held_append_cons (as bs : List Node) (n : Node) :
    ((as ++ n :: bs).flatMap Node.bufs : Multiset BufDef) =
      ((as ++ bs).flatMap Node.bufs : List BufDef) + (n.bufs : Multiset BufDef) := by
  simp only [flatMap_append, flatMap_cons, ← Multiset.coe_add]
  abel

/-- The removal before an insertion returns what it takes out of the queue. -/
theorem Evicts.held {streams : List StreamId} {que vs que' : List Node} (h : Evicts que vs que')
    (hcoh : ∀ n ∈ que, n.Coherent streams) :
    (que'.flatMap Node.bufs : Multiset BufDef) + (vs.flatMap Node.indexedBufs : List BufDef) =
      (que.flatMap Node.bufs : List BufDef) := by
  cases h with
  | none => simp
  | @one as bs v o _ _ =>
    have hv : v.indexedBufs = v.bufs := (hcoh v (by simp)).indexedBufs
    rw [held_append_cons]
    simp [hv]

theorem Disposal.ledger {n : Node} (h : Disposal n k k') :
    k'.ledger = k.ledger + (n.bufs : Multiset BufDef) := by
  unfold Core.ledger Core.held
  cases h with
  | returned | uncalled matched =>
    simp only [← Multiset.coe_add]
    abel
  | called matched bufs =>
    simp only [dispatchedBufs, flatMap_append, flatMap_singleton, bufs,
      reduceOption_bufs, ← Multiset.coe_add]
    abel

/-- **The arrival of a buffer** enters it in the ledger, on every path. -/
theorem CompStep.ledger {fs fs' : FrameSync} {slot : ℕ} {b : BufInfo}
    (h : CompStep c slot b k fs k' fs') (hcoh : ∀ n ∈ k.que, n.Coherent k.bundledStreams)
    (hs : k.slotOf b.streamId = some slot) : k'.ledger = k.ledger + {b.buf} := by
  have hlt := (slotOf_some hs).1
  have hfound : ∀ {pre post n}, Found slot b k pre n post →
      (k.held : Multiset BufDef) = (pre ++ post).flatMap Node.bufs + n.bufs ∧
        n.Coherent k.bundledStreams := by
    intro pre post n found
    rw [Core.held, found.que]
    exact ⟨held_append_cons _ _ _, hcoh n (by rw [found.que]; simp)⟩
  cases h with
  | duplicate found filled =>
    -- the buffer is returned, and the node only forgets that it waits
    obtain ⟨hheld, -⟩ := hfound found
    unfold Core.ledger
    rw [hheld, Core.held, held_append_cons, adopt_bufs, ← Multiset.coe_add, Multiset.coe_singleton]
    abel
  | store found empty stored unmatched =>
    -- the buffer goes to its slot
    obtain ⟨hheld, hn⟩ := hfound found
    unfold Core.ledger
    rw [hheld, Core.held, held_append_cons, hn.stored_bufs hlt empty stored,
      ← Multiset.singleton_add]
    abel
  | @complete keep old post n m found empty stored matched kept oldest =>
    -- the buffer goes to its slot, and those of the older nodes are returned
    obtain ⟨hheld, hn⟩ := hfound found
    have hold : old.flatMap Node.indexedBufs = old.flatMap Node.bufs := by
      refine flatMap_congr fun o ho => (hcoh o ?_).indexedBufs
      rw [found.que]
      simp [ho]
    unfold Core.ledger
    rw [hheld, Core.held, held_append_cons, hn.stored_bufs hlt empty stored,
      ← Multiset.singleton_add, hold]
    simp only [flatMap_append, ← Multiset.coe_add]
    abel
  | refuse evict =>
    -- the buffer is returned, with those of the node that has been evicted
    have hheld := evict.held hcoh
    unfold Core.ledger
    rw [Core.held, Core.held, ← hheld, ← Multiset.coe_add, ← Multiset.coe_add,
      Multiset.coe_singleton]
    abel
  | enqueue expected cut passed room =>
    -- the buffer is enqueued in a node of its own
    have hheld := cut.evict.held hcoh
    unfold Core.ledger
    rw [Core.held, Core.held, ← hheld, held_append_cons, newNode_bufs hs, ← Multiset.coe_add]
    abel

theorem ledger_without {before after : List Node} {n : Node} (hq : k.que = before ++ n :: after) :
    k.ledger = (k.without n (before ++ after)).ledger + (n.bufs : Multiset BufDef) := by
  unfold Core.ledger Core.held
  rw [hq, held_append_cons]
  simp only [Core.without]
  abel

/-- **A step changes the ledger by what arrives**, unless it flushes one stream type. -/
theorem CoreStep.ledger (h : CoreStep P c e k k') (hl : e ≠ .lossy)
    (hcoh : ∀ n ∈ k.que, n.Coherent k.bundledStreams) : k'.ledger = k.ledger + e.entry := by
  cases h with
  | reject bundled =>
    simp only [Core.ledger, Core.held, Event.entry, arrivals_arrive, map_cons, map_nil,
      ← Multiset.coe_add]
    abel
  | comp bundled index admitted step => exact step.ledger hcoh bundled
  | remove que head disposal =>
    rw [disposal.ledger, ledger_without que]
    simp [Event.entry, arrivals]
  | removeType => exact absurd rfl hl

end Ledger

section Runs

variable {c : ChannelId} {s t : System} {ops : List Op}

def Channel.heldAddrs (ch : Channel) : List ℕ := ch.core.held.map BufDef.addr

end Runs

/-! ## The flush of one stream type -/

section TypedFlush

variable {camType : StreamType} {rs : List BufDef} {ch ch' : Channel}

/-- A flush of one stream type, with the buffers it returns: every queued buffer of the type is
among them, and every queued buffer is among them or is still queued. -/
structure Channel.FlushedWithoutLoss (camType : StreamType) (rs : List BufDef) (ch ch' : Channel) :
    Prop where
  qbufs : ch'.qbufs = ch.qbufs ++ rs
  returned : (ch.core.held.filter (·.streamType = camType) : Multiset BufDef) ≤ rs
  kept : (ch.core.held : Multiset BufDef) ≤ ch'.core.held + rs

theorem bufsOfType_of_ne (h : camType ≠ .default) (n : Node) :
    n.bufsOfType camType = n.bufs.filter (·.streamType = camType) := by
  unfold Node.bufsOfType
  refine filter_congr fun b _ => ?_
  simp [h, eq_comm]

theorem flushLoop_core (camType : StreamType) {que : List Node} {x : Ctx}
    (hq : x.ch.queue.que = que) :
    (superbufFlushLoop false camType que.length x).ch.queue.que = [] ∧
      (superbufFlushLoop false camType que.length x).ch.qbufs =
        x.ch.qbufs ++ que.flatMap (Node.bufsOfType camType) := by
  induction que generalizing x with
  | nil => exact ⟨hq, by simp [superbufFlushLoop]⟩
  | cons n que ih =>
    rw [length_cons, superbufFlushLoop]
    cases hd : superbufDequeueInternal false x with
    | mk o y =>
      cases o with
      | none =>
        obtain ⟨-, hnil | ⟨hm, -⟩⟩ := dequeueInternal_none hd
        · simp [hq] at hnil
        · cases hm
      | some node =>
        obtain ⟨rest, hrest, -, hch, -⟩ := dequeueInternal_some hd
        obtain ⟨rfl, rfl⟩ := cons.inj (hrest.symm.trans hq)
        obtain ⟨hempty, hqbufs⟩ := ih (x := y.qbuf (node.bufsOfType camType))
          (by simp only [Ctx.qbuf, Channel.qbuf, hch, Channel.dequeued])
        refine ⟨hempty, hqbufs.trans ?_⟩
        simp only [Ctx.qbuf, Channel.qbuf, hch, Channel.dequeued, flatMap_cons, append_assoc]

theorem flushedWithoutLoss_iff (h : camType ≠ .default) (hque : ch'.queue.que = [])
    (hqbufs : ch'.qbufs = ch.qbufs ++ ch.queue.que.flatMap (Node.bufsOfType camType)) :
    (∃ rs, ch.FlushedWithoutLoss camType rs ch') ↔
      ∀ b ∈ ch.core.held, b.streamType = camType := by
  have hfilter : ch.queue.que.flatMap (Node.bufsOfType camType) =
      ch.core.held.filter (·.streamType = camType) := by
    rw [Core.held, filter_flatMap]
    exact flatMap_congr fun n _ => bufsOfType_of_ne h n
  have hheld : ch'.core.held = [] := by
    rw [Core.held, show ch'.core.que = [] from hque, flatMap_nil]
  rw [hfilter] at hqbufs
  constructor
  · rintro ⟨rs, flushed⟩ b hb
    obtain rfl : rs = _ := append_cancel_left (flushed.qbufs.symm.trans hqbufs)
    -- a queued buffer is among those returned, which are of the type
    have hmem := Multiset.mem_of_le flushed.kept (Multiset.mem_coe.mpr hb)
    rw [hheld] at hmem
    simpa using (mem_filter.mp (by simpa using hmem :
      b ∈ ch.core.held.filter (·.streamType = camType))).2
  · intro hall
    refine ⟨_, hqbufs, le_rfl, ?_⟩
    rw [filter_eq_self.mpr fun b hb => by simpa using hall b hb]
    exact Multiset.le_add_left _ _

/-- **The flush of one stream type** loses no buffer exactly when every queued buffer is of that
type: the nodes are freed with the buffers of the other types in them. -/
theorem typedFlush_lossless_iff (typed : camType ≠ .default) (env : Env) (c : ChannelId)
    (frameIdx : ℕ) (s : System) :
    ∃ u, processStreamBuf env c (.flushQueue frameIdx camType) s = .ok u ∧
      ((∃ rs, (s.ch c).FlushedWithoutLoss camType rs (u.ch c)) ↔
        ∀ b ∈ (s.ch c).core.held, b.streamType = camType) := by
  refine ⟨_, rfl, ?_⟩
  obtain ⟨hque, hqbufs⟩ := flushLoop_core camType
    (x := (s.ctx c).setQueue { (s.ctx c).ch.queue with expectedFrameId := frameIdx }) rfl
  exact flushedWithoutLoss_iff typed (by rw [put_ch]; exact hque) (by rw [put_ch]; exact hqbufs)

/-- A preview and a snapshot buffer of one frame, which are queued in one node. -/
def matchedPair : List Op :=
  [.command .ample 0 (.dataCb (imageBuf 100 1 7)),
    .command .ample 0 (.dataCb ⟨2, 7, 101, 2, .snapshot, none⟩)]

/-- The flush of the snapshots of a matched pair loses the preview buffer. -/
theorem typedFlush_loses :
    ∃ s u, Run Op.Step matchedPair twoStreams s ∧
      processStreamBuf .ample 0 (.flushQueue 0 .snapshot) s = .ok u ∧
      ¬∃ rs, (s.ch 0).FlushedWithoutLoss .snapshot rs (u.ch 0) := by
  obtain ⟨s, run, hheld, u, hflush, hempty, hqbufs⟩ : ∃ s, Run Op.Step matchedPair twoStreams s ∧
      (s.ch 0).core.held.map BufDef.addr = [100, 101] ∧
      ∃ u, processStreamBuf .ample 0 (.flushQueue 0 .snapshot) s = .ok u ∧
        (u.ch 0).core.held = [] ∧ (u.ch 0).qbufs.map BufDef.addr = [101] :=
    ⟨_, .cons rfl (.one rfl), rfl, _, rfl, rfl, rfl⟩
  refine ⟨s, u, run, hflush, ?_⟩
  rintro ⟨rs, flushed⟩
  have hcard := Multiset.card_le_card flushed.kept
  have hrs := congrArg length flushed.qbufs
  have htwo := congrArg length hheld
  have hone := congrArg length hqbufs
  simp only [hempty, Multiset.coe_nil, zero_add, Multiset.coe_card] at hcard
  simp only [length_append, length_map, length_cons, length_nil] at hrs htwo hone
  omega

/-- The flush of the previews of a queue that holds a preview buffer alone. -/
theorem typedFlush_lossless_onePreview :
    ∃ s u, Run Op.Step [.command .ample 0 (.dataCb (imageBuf 100 1 7))] twoStreams s ∧
      (s.ch 0).core.held.map BufDef.addr = [100] ∧
      processStreamBuf .ample 0 (.flushQueue 0 .preview) s = .ok u ∧
      ∃ rs, (s.ch 0).FlushedWithoutLoss .preview rs (u.ch 0) := by
  obtain ⟨s, run, hheld, hall⟩ : ∃ s,
      Run Op.Step [.command .ample 0 (.dataCb (imageBuf 100 1 7))] twoStreams s ∧
      (s.ch 0).core.held.map BufDef.addr = [100] ∧
      ∀ b ∈ (s.ch 0).core.held, b.streamType = .preview :=
    ⟨_, .one rfl, rfl, by decide⟩
  obtain ⟨u, hflush, hiff⟩ := @typedFlush_lossless_iff .preview (by decide) .ample 0 0 s
  exact ⟨s, u, run, hheld, hflush, hiff.mpr hall⟩

end TypedFlush

end MmCamera
