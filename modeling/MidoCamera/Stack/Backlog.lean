import MidoCamera.Stack.QueueOrder
import MidoCamera.Util.Queue

/-!
# The backlog of unmatched nodes

When the unmatched nodes of a queue are over its limit, an enqueue first takes nodes out, in a loop
over the cells of the list. The loop frees a node and then reads from it where the next one is; that
is harmless only because the loop ends before it looks at what it has read. On the links and the
freed nodes, the loop takes out the node that `superbufEvict` takes out, as long as the unmatched
nodes are at most one over the limit; which they are in every state a run reaches.
-/

namespace MmCamera

open Loop List
open QCamera (Cell CamList camListDelNode camListDelNode_eq)

/-! ## The loop on the cells -/

/-- The nodes of a queue in memory: the links of the list, the super buffer of each node, and the
nodes that have been freed; with what changes beside them when a node goes. -/
structure QueueHeap where
  list : CamList
  superBuf : Cell → Node
  freed : List Cell
  size : ℕ
  qbufs : List BufDef

/-- `last_buf_ptr->next`; of a freed node the read gives anything. -/
def QueueHeap.next (stale : Cell → Option Cell) (h : QueueHeap) (a : Cell) : Option Cell :=
  if a ∈ h.freed then stale a else some (h.list.next a)

/-- A node is unlinked and freed, its buffers returned. -/
def QueueHeap.delete (h : QueueHeap) (a : Cell) : QueueHeap :=
  { h with
    list := camListDelNode h.list a
    freed := a :: h.freed
    size := decU32 h.size
    qbufs := h.qbufs ++ (h.superBuf a).indexedBufs }

def QueueHeap.evictable (h : QueueHeap) (insertBeforeBuf : Option Cell) (a : Cell) : Bool :=
  !(h.superBuf a).expectedFrame && insertBeforeBuf != some a

/-- What the loop changes. -/
structure EvictLocals where
  heap : QueueHeap
  unmatchedBundles : ℕ
  lastBufPtr : Option Cell

/-- The body of the loop, at a node. -/
def evictRound (stale : Cell → Option Cell) (insertBeforeBuf : Option Cell) (a : Cell)
    (s : EvictLocals) : EvictLocals :=
  let s :=
    if s.heap.evictable insertBeforeBuf a then
      { s with heap := s.heap.delete a, unmatchedBundles := decU8 s.unmatchedBundles }
    else s
  { s with lastBufPtr := s.heap.next stale a }

/-- The loop to remove unmatched frames, for a bounded number of rounds. The scan has found no
node, so `pos` is the head of the list. -/
def evictLoop (stale : Cell → Option Cell) (max : ℕ) (insertBeforeBuf : Option Cell) :
    ℕ → EvictLocals → Exec EvictLocals
  | fuel, s =>
    if max < s.unmatchedBundles then
      match s.lastBufPtr with
      | none | some .mHead => .ok s
      | some (.node n) =>
        if Cell.node n ∈ s.heap.freed then .error .useAfterFree
        else
          match fuel with
          | 0 => .error .hang
          | fuel + 1 => evictLoop stale max insertBeforeBuf fuel
              (evictRound stale insertBeforeBuf (.node n) s)
    else .ok s

/-- The removal of unmatched nodes before an insertion: the loop, and where it has not brought the
backlog under the limit, the removal of `last_buf`. -/
def evictUnmatched (stale : Cell → Option Cell) (max : ℕ) (lastBuf insertBeforeBuf : Option Cell)
    (unmatchedBundles fuel : ℕ) (h : QueueHeap) : Exec QueueHeap := do
  let s ← evictLoop stale max insertBeforeBuf fuel ⟨h, unmatchedBundles, lastBuf⟩
  if max < s.unmatchedBundles then
    match lastBuf with
    -- the frame has been rejected
    | none => .ok s.heap
    | some a => if a ∈ s.heap.freed then .error .useAfterFree else .ok (s.heap.delete a)
  else .ok s.heap

/-- The nodes of a queue are the cells of a ring around the head, in their order, and none of them
has been freed. -/
structure QueueHeap.Holds (h : QueueHeap) (cells : List Cell) (que : List Node) : Prop where
  ring : h.list.Ring .mHead cells
  superBuf : cells.map h.superBuf = que
  live : ∀ a ∈ cells, a ∉ h.freed

section Holds

variable {h : QueueHeap} {cells xs ys : List Cell} {a : Cell} {que as bs : List Node} {v : Node}
  {stale : Cell → Option Cell} {max fuel u : ℕ} {ib : Option Cell}

theorem QueueHeap.Holds.nodup (hh : h.Holds cells que) : cells.Nodup :=
  (nodup_cons.mp hh.ring.nodup).2

theorem QueueHeap.Holds.ne_head (hh : h.Holds cells que) (ha : a ∈ cells) : ∃ n, a = .node n := by
  cases a with
  | mHead => exact absurd ha (nodup_cons.mp hh.ring.nodup).1
  | node n => exact ⟨n, rfl⟩

theorem QueueHeap.Holds.length_eq (hh : h.Holds cells que) : cells.length = que.length := by
  rw [← hh.superBuf, length_map]

theorem QueueHeap.Holds.delete (hh : h.Holds (xs ++ a :: ys) (as ++ v :: bs))
    (hlen : xs.length = as.length) : (h.delete a).Holds (xs ++ ys) (as ++ bs) := by
  have hmap := hh.superBuf
  rw [map_append, map_cons] at hmap
  obtain ⟨has, hrest⟩ := append_inj hmap (by simpa using hlen)
  have hnd := nodup_middle.mp hh.nodup
  refine ⟨?_, ?_, ?_⟩
  · change (camListDelNode h.list a).Ring .mHead (xs ++ ys)
    rw [camListDelNode_eq]
    exact hh.ring.remove
  · change (xs ++ ys).map h.superBuf = as ++ bs
    rw [map_append, has, (cons.inj hrest).2]
  · intro c hc hfreed
    rcases mem_cons.mp hfreed with rfl | hfreed
    · exact (nodup_cons.mp hnd).1 hc
    · refine hh.live c ?_ hfreed
      rcases mem_append.mp hc with hc | hc <;> simp [hc]

/-! ### The walk of the loop -/

theorem evictLoop_pass (hh : h.Holds (xs ++ a :: ys) que) (hmax : max < u)
    (hstay : h.evictable ib a = false) :
    evictLoop stale max ib (fuel + 1) ⟨h, u, some a⟩ =
      evictLoop stale max ib fuel ⟨h, u, some (ys.headD .mHead)⟩ := by
  have ha : a ∈ xs ++ a :: ys := by simp
  have hlive := hh.live a ha
  obtain ⟨n, rfl⟩ := hh.ne_head ha
  rw [evictLoop]
  dsimp only
  rw [if_pos hmax, if_neg hlive]
  simp only [evictRound, hstay, Bool.false_eq_true, if_false, QueueHeap.next, if_neg hlive,
    hh.ring.next_mem]

theorem evictLoop_none (hh : h.Holds (xs ++ ys) que) (hmax : max < u)
    (hstay : ∀ a ∈ ys, h.evictable ib a = false) (hfuel : ys.length ≤ fuel) :
    evictLoop stale max ib fuel ⟨h, u, some (ys.headD .mHead)⟩ = .ok ⟨h, u, some .mHead⟩ := by
  induction ys generalizing xs fuel with
  | nil =>
    rw [evictLoop.eq_def]
    simp only [headD_nil, if_pos hmax]
  | cons a ys ih =>
    cases fuel with
    | zero => simp at hfuel
    | succ fuel =>
      rw [headD_cons, evictLoop_pass hh hmax (hstay a mem_cons_self)]
      have hh' : h.Holds ((xs ++ [a]) ++ ys) que := by simpa using hh
      exact ih hh' (fun c hc => hstay c (mem_cons_of_mem _ hc)) (by simpa using hfuel)

theorem evictLoop_some {zs ws : List Cell} (hh : h.Holds (xs ++ (zs ++ a :: ws)) que)
    (hmax : max < u) (hlast : ¬max < decU8 u) (hstay : ∀ c ∈ zs, h.evictable ib c = false)
    (hgo : h.evictable ib a = true) (hfuel : zs.length < fuel) :
    ∃ p, evictLoop stale max ib fuel ⟨h, u, some ((zs ++ a :: ws).headD .mHead)⟩ =
      .ok ⟨h.delete a, decU8 u, p⟩ := by
  induction zs generalizing xs fuel with
  | nil =>
    cases fuel with
    | zero => simp at hfuel
    | succ fuel =>
      have ha : a ∈ xs ++ a :: ws := by simp
      have hlive := hh.live a ha
      obtain ⟨n, rfl⟩ := hh.ne_head ha
      refine ⟨(h.delete (.node n)).next stale (.node n), ?_⟩
      rw [evictLoop]
      simp only [nil_append, headD_cons]
      rw [if_pos hmax, if_neg hlive]
      -- the guard fails, whatever has been read from the freed node
      rw [evictLoop.eq_def]
      simp only [evictRound, hgo, if_true, if_neg hlast]
  | cons c zs ih =>
    cases fuel with
    | zero => simp at hfuel
    | succ fuel =>
      have hh' : h.Holds ((xs ++ [c]) ++ (zs ++ a :: ws)) que := by simpa using hh
      rw [cons_append] at hh ⊢
      rw [headD_cons, evictLoop_pass hh hmax (hstay c mem_cons_self)]
      exact ih hh' (fun d hd => hstay d (mem_cons_of_mem _ hd)) (by simpa using hfuel)

/-! ### The removal -/

def cellAt (cells : List Cell) (k : Option ℕ) : Option Cell := k.bind fun k => cells[k]?

theorem cellAt_eq_iff (hnd : (xs ++ a :: ys).Nodup) {k : Option ℕ} :
    cellAt (xs ++ a :: ys) k = some a ↔ k = some xs.length := by
  cases k with
  | none => simp [cellAt]
  | some k =>
    have hget : (xs ++ a :: ys)[xs.length]? = some a := by simp
    constructor
    · intro hk
      have hlt : xs.length < (xs ++ a :: ys).length := by simp
      exact congrArg some ((getElem?_inj hlt hnd).mp (hget.trans (Eq.symm hk))).symm
    · rintro ⟨⟩
      exact hget

theorem evictFrom_cells (h : QueueHeap) (k : Option ℕ) (hnd : (xs ++ ys).Nodup) :
    evictFrom k (ys.map h.superBuf) xs.length =
      (ys.findIdx? (h.evictable (cellAt (xs ++ ys) k))).map (xs.length + ·) := by
  induction ys generalizing xs with
  | nil => rfl
  | cons a ys ih =>
    have hnd' : ((xs ++ [a]) ++ ys).Nodup := by simpa using hnd
    have ih' := ih hnd'
    rw [append_assoc, singleton_append, length_append, length_singleton] at ih'
    have hgo : h.evictable (cellAt (xs ++ a :: ys) k) a =
        (!(h.superBuf a).expectedFrame && k != some xs.length) := by
      unfold QueueHeap.evictable
      congr 1
      rw [Bool.eq_iff_iff, bne_iff_ne, bne_iff_ne, ne_eq, ne_eq, cellAt_eq_iff hnd]
    rw [map_cons, evictFrom, findIdx?_cons, hgo, ih']
    split_ifs
    · simp
    · rw [Option.map_map]
      congr 1
      funext m
      simp only [Function.comp_apply]
      omega

/-- **The removal on the cells** takes out the cell of the node that `superbufEvict` takes out,
where the unmatched nodes are one over the limit: no node is looked at or freed once it has been
freed, whatever is read from it. -/
theorem evictUnmatched_eq (stale : Cell → Option Cell) (k : Option ℕ) {l : ℕ}
    (hh : h.Holds cells que) (hl : l < que.length) (hmax : max < u)
    (hlast : ¬max < decU8 u) (hfuel : que.length ≤ fuel) :
    ∃ xs a ys, cells = xs ++ a :: ys ∧ xs.length = (evictFrom k (que.drop l) l).getD l ∧
      evictUnmatched stale max (cellAt cells (some l)) (cellAt cells k) u fuel h =
        .ok (h.delete a) := by
  have hlen := hh.length_eq
  obtain ⟨xs, c, ys, rfl, rfl⟩ : ∃ xs c ys, cells = xs ++ c :: ys ∧ xs.length = l :=
    ⟨cells.take l, cells[l], cells.drop (l + 1), by simp, by simp; omega⟩
  have hdrop : que.drop xs.length = (c :: ys).map h.superBuf := by
    rw [← hh.superBuf, map_append, drop_left' (by simp)]
  have hstart : cellAt (xs ++ c :: ys) (some xs.length) = some c := by simp [cellAt]
  have hys : (c :: ys).length ≤ fuel := by
    rw [← hlen] at hfuel
    simp at hfuel ⊢
    omega
  rw [hdrop, evictFrom_cells h k hh.nodup, hstart]
  unfold evictUnmatched
  cases hfind : (c :: ys).findIdx? (h.evictable (cellAt (xs ++ c :: ys) k)) with
  | none =>
    -- all nodes have to stay, and the oldest goes
    have hloop : evictLoop stale max (cellAt (xs ++ c :: ys) k) fuel ⟨h, u, some c⟩ =
        .ok ⟨h, u, some .mHead⟩ :=
      evictLoop_none hh hmax (findIdx?_eq_none_iff.mp hfind) hys
    refine ⟨xs, c, ys, rfl, by simp, ?_⟩
    rw [hloop]
    change (if max < u then _ else _) = _
    rw [if_pos hmax]
    simp only [if_neg (hh.live c (by simp))]
  | some m =>
    obtain ⟨zs, a, ws, hcut, rfl, hstay, hgo⟩ := findIdx?_cut hfind
    rw [hcut] at hh hys
    have hzs : zs.length < fuel := by
      simp only [length_append, length_cons] at hys
      omega
    obtain ⟨p, hloop⟩ := @evictLoop_some h xs a que stale max fuel u _ zs ws hh hmax hlast hstay
      hgo hzs
    rw [← hcut, headD_cons] at hloop
    refine ⟨xs ++ zs, a, ws, by rw [hcut]; simp, by simp, ?_⟩
    rw [hloop]
    change (if max < decU8 u then _ else _) = _
    rw [if_neg hlast]

end Holds

/-! ## The backlog of a run -/

section Runs

variable {c : ChannelId} {slot : ℕ} {b : BufInfo} {x : Ctx}

/-- The arrival of a buffer that no node takes, at a queue over its limit, takes out one unmatched
node, and not the one the new node goes before; on the cells of the queue, too, wherever they are. -/
structure EvictsOne (c : ChannelId) (slot : ℕ) (b : BufInfo) (x : Ctx) (as : List Node) (v : Node)
    (bs : List Node) : Prop where
  que : x.ch.queue.que = as ++ v :: bs
  unmatched : v.matched = false
  kept : (x.ch.queue.scan slot b).insertBeforeBuf ≠ some as.length
  evicted : (evictAt as.length x).ch.queue.que = as ++ bs
  comp : ∀ env, superbufComp env c slot b x =
    if env.newBuf && env.newNode then
      .ok (superbufEnqueue c slot b
        ((x.ch.queue.scan slot b).insertBeforeBuf.map (shiftPos as.length)) (evictAt as.length x))
    else .ok ((evictAt as.length x).qbuf [b.buf])
  cells : ∀ stale h cells fuel, QueueHeap.Holds h cells x.ch.queue.que →
    x.ch.queue.que.length ≤ fuel →
    ∃ xs a ys, cells = xs ++ a :: ys ∧ xs.length = as.length ∧
      evictUnmatched stale x.ch.queue.attr.maxUnmatchedFrames
        (cellAt cells (x.ch.queue.scan slot b).lastBuf)
        (cellAt cells (x.ch.queue.scan slot b).insertBeforeBuf)
        (x.ch.queue.scan slot b).unmatchedBundles fuel h = .ok (h.delete a) ∧
      (h.delete a).Holds (xs ++ ys) (as ++ bs)

/-- What the scan that finds no node keeps. -/
structure Passed (slot : ℕ) (b : BufInfo) (x : Ctx) : Prop where
  count : (x.ch.queue.scan slot b).unmatchedBundles = unmatchedCount x.ch.queue.que % 2 ^ 8
  last : (x.ch.queue.scan slot b).lastBuf = x.ch.queue.que.findIdx? (Node.older b.frameIdx)
  insertBefore :
    (x.ch.queue.scan slot b).insertBeforeBuf = x.ch.queue.que.findIdx? (Node.newer b.frameIdx)

theorem passed_of_new (hnew : (x.ch.queue.scan slot b).foundSuperBuf = false) :
    Passed slot b x := by
  have hscan := queue_scan_eq x.ch.queue slot b
  have hany : x.ch.queue.que.any (stops (accepts x.ch.queue.attr.priority slot b)) = false :=
    (congrArg Scan.foundSuperBuf hscan).symm.trans hnew
  rw [passed_eq_self hany] at hscan
  exact ⟨by rw [hscan], by rw [hscan], by rw [hscan]⟩

/-- The node that goes: the first that the walk may take out, or else the oldest. -/
def evictPos (s : Scan) (que : List Node) (l : ℕ) : ℕ :=
  (evictFrom s.insertBeforeBuf (que.drop l) l).getD l

theorem Passed.evictPos_place (hp : Passed slot b x) {l : ℕ}
    (hlast : (x.ch.queue.scan slot b).lastBuf = some l) :
    l ≤ evictPos (x.ch.queue.scan slot b) x.ch.queue.que l ∧
      evictPos (x.ch.queue.scan slot b) x.ch.queue.que l < x.ch.queue.que.length ∧
      (x.ch.queue.scan slot b).insertBeforeBuf ≠
        some (evictPos (x.ch.queue.scan slot b) x.ch.queue.que l) := by
  obtain ⟨ps, o, qs, hps, rfl, -, ho⟩ := findIdx?_cut (hp.last.symm.trans hlast)
  have hl : ps.length < x.ch.queue.que.length := by rw [hps]; simp
  unfold evictPos
  cases he : evictFrom (x.ch.queue.scan slot b).insertBeforeBuf (x.ch.queue.que.drop ps.length)
      ps.length with
  | some i =>
    obtain ⟨hle, hlt, hne⟩ := evictFrom_some he
    rw [length_drop] at hlt
    rw [Option.getD_some]
    exact ⟨hle, by omega, hne⟩
  | none =>
    rw [Option.getD_none]
    refine ⟨le_rfl, hl, fun hk => ?_⟩
    -- the oldest is of an earlier frame, and the one to insert before of a later one
    rw [hp.insertBefore] at hk
    obtain ⟨as, v, bs, hque, hlen, -, hv⟩ := findIdx?_cut hk
    obtain ⟨-, hrest⟩ := append_inj (hps.symm.trans hque) hlen.symm
    have hou : o.matched = false ∧ o.frameIdx < b.frameIdx := by simpa [Node.older] using ho
    have hvn : v.matched = false ∧ b.frameIdx < v.frameIdx := by simpa [Node.newer] using hv
    rw [← (cons.inj hrest).1] at hvn
    omega

theorem superbufEvict_one {s : Scan} {l : ℕ} (hlast : s.lastBuf = some l)
    (hone : s.unmatchedBundles = x.ch.queue.attr.maxUnmatchedFrames + 1) :
    superbufEvict s x = .ok (s.insertBeforeBuf.map (shiftPos (evictPos s x.ch.queue.que l)),
      evictAt (evictPos s x.ch.queue.que l) x) := by
  unfold superbufEvict evictPos
  dsimp only
  rw [hone, if_pos (Nat.lt_succ_self _)]
  simp only [hlast]
  cases evictFrom s.insertBeforeBuf (x.ch.queue.que.drop l) l with
  | none => rfl
  | some i => simp only [Nat.add_sub_cancel, lt_irrefl, if_false, Option.getD_some]

/-- **An arrival at a queue over its limit** is rejected, or takes out one unmatched node. -/
theorem OrderInv.evictsOne (hi : OrderInv x.ch.core)
    (hlimit : x.ch.queue.attr.maxUnmatchedFrames < 255)
    (hnew : (x.ch.queue.scan slot b).foundSuperBuf = false)
    (hmax : x.ch.queue.attr.maxUnmatchedFrames < (x.ch.queue.scan slot b).unmatchedBundles) :
    (∀ env, superbufComp env c slot b x = .ok (x.qbuf [b.buf])) ∨
      ∃ as v bs, EvictsOne c slot b x as v bs := by
  have hp := passed_of_new hnew
  have hcomp : ∀ env, superbufComp env c slot b x =
      superbufInsert env c slot b (x.ch.queue.scan slot b) x := by
    intro env
    unfold superbufComp
    simp only [hnew, Bool.false_eq_true, if_false]
  cases hlast : (x.ch.queue.scan slot b).lastBuf with
  | none =>
    refine .inl fun env => (hcomp env).trans ?_
    unfold superbufInsert
    rw [if_pos ⟨hmax, hlast⟩]
  | some l =>
    -- the backlog is one over the limit, so the loop ends with the first node it takes out
    have hbacklog : unmatchedCount x.ch.queue.que ≤ x.ch.queue.attr.maxUnmatchedFrames + 1 :=
      hi.queueInv.backlog hlimit
    have hcount := hp.count
    have hone : (x.ch.queue.scan slot b).unmatchedBundles =
        x.ch.queue.attr.maxUnmatchedFrames + 1 := by omega
    have hstop : ¬x.ch.queue.attr.maxUnmatchedFrames <
        decU8 (x.ch.queue.scan slot b).unmatchedBundles := by
      rw [hone]
      unfold decU8
      omega
    obtain ⟨hle, hlt, hne⟩ := hp.evictPos_place hlast
    have hevict := superbufEvict_one hlast hone
    obtain ⟨i, hi'⟩ : ∃ i, evictPos (x.ch.queue.scan slot b) x.ch.queue.que l = i := ⟨_, rfl⟩
    rw [hi'] at hle hlt hne hevict
    obtain ⟨as, v, bs, hcut, rfl⟩ : ∃ as v bs, x.ch.queue.que = as ++ v :: bs ∧ as.length = i :=
      ⟨x.ch.queue.que.take i, x.ch.queue.que[i], x.ch.queue.que.drop (i + 1), by simp,
        by simp; omega⟩
    refine .inr ⟨as, v, bs, hcut, ?_, hne, congrArg Core.que (evictAt_core hcut).1,
      fun env => ?_, ?_⟩
    · -- behind an unmatched node no node is matched
      obtain ⟨ps, o, qs, hps, rfl, -, ho⟩ := findIdx?_cut (hp.last.symm.trans hlast)
      have hou : o.matched = false ∧ o.frameIdx < b.frameIdx := by simpa [Node.older] using ho
      have hmf : MatchedFirst (o :: qs) := hi.queueInv.matchedFirst.sublist (by
        change (o :: qs).Sublist x.ch.queue.que
        rw [hps]
        exact sublist_append_right _ _)
      have hv : v ∈ x.ch.queue.que.drop ps.length := by
        rw [hcut, drop_append]
        simp [hle]
      rw [hps, drop_left' rfl] at hv
      rcases mem_cons.mp hv with rfl | hv
      · exact hou.1
      · exact hmf.tail_unmatched hou.1 v hv
    · rw [hcomp env, superbufInsert, if_neg (by simp [hlast]), hevict]
      rfl
    · intro stale h cells fuel hh hfuel
      obtain ⟨xs, a, ys, hcells, hlen, hrun⟩ := evictUnmatched_eq stale
        (x.ch.queue.scan slot b).insertBeforeBuf hh (hle.trans_lt hlt) hmax hstop hfuel
      replace hlen : xs.length = as.length := hlen.trans hi'
      refine ⟨xs, a, ys, hcells, hlen, by rw [hlast]; exact hrun, ?_⟩
      rw [hcut, hcells] at hh
      exact hh.delete hlen

theorem CoreStep.limit {P : Core → ℕ → BufInfo → Prop} {e : Event} {k k' : Core}
    (h : CoreStep P c e k k') : k'.maxUnmatchedFrames = k.maxUnmatchedFrames := by
  cases h with
  | reject => rfl
  | comp _ _ _ step => cases step <;> rfl
  | remove _ _ disposal => cases disposal <;> rfl
  | removeType => rfl

/-- A queue in order, with its limit and its streams. -/
structure LimitInv (max : ℕ) (streams : List StreamId) (k : Core) : Prop where
  order : OrderInv k
  limit : k.maxUnmatchedFrames = max
  streams : k.bundledStreams = streams

theorem run_limitInv {P : Core → ℕ → BufInfo → Prop} {es : List Event} {k k' : Core} {max : ℕ}
    {streams : List StreamId} (h : Run (CoreStep P c) es k k') (hi : LimitInv max streams k) :
    LimitInv max streams k' :=
  h.invariant (fun _ _ _ hstep hk => ⟨hstep.orderInv hk.order, hstep.limit.trans hk.limit,
    hstep.bundledStreams.trans hk.streams⟩) hi

/-- **The backlog is bounded**: in every state a run of commands reaches from an empty queue whose
priority is not low, the unmatched nodes are at most one more than the limit, and so they are when a
buffer has arrived there. Where the buffer finds no node and a queue over its limit, it is rejected
or takes out one unmatched node; and the loop that does so, on the cells of the list, looks at no
node and frees none that it has freed. -/
theorem backlog_bounded {ops : List Op} {s t : System} {c : ChannelId}
    (empty : (s.ch c).queue.Empty) (priority : (s.ch c).queue.attr.priority ≠ .low)
    (limit : (s.ch c).queue.attr.maxUnmatchedFrames < 255) (run : Run Op.Step ops s t) :
    unmatchedCount (t.ch c).queue.que ≤ (s.ch c).queue.attr.maxUnmatchedFrames + 1 ∧
      ∀ b slot x, (t.ch c).queue.slotOf b.streamId = some slot → b.frameIdx ≠ 0 →
        handleMetadata b (t.ctx c) = some x →
        (∀ env y, superbufComp env c slot b x = .ok y →
          unmatchedCount y.ch.queue.que ≤ (s.ch c).queue.attr.maxUnmatchedFrames + 1) ∧
        ((x.ch.queue.scan slot b).foundSuperBuf = false →
          (s.ch c).queue.attr.maxUnmatchedFrames < (x.ch.queue.scan slot b).unmatchedBundles →
          (∀ env, superbufComp env c slot b x = .ok (x.qbuf [b.buf])) ∨
            ∃ as v bs, EvictsOne c slot b x as v bs) := by
  obtain ⟨es, -, -, hrun⟩ := opRun_core_run (run_stepUnder_any run) c
  have hi := run_limitInv hrun ⟨empty.orderInv priority, rfl, rfl⟩
  have hbound : ∀ {k : Core}, LimitInv (s.ch c).core.maxUnmatchedFrames
      (s.ch c).core.bundledStreams k →
      unmatchedCount k.que ≤ (s.ch c).queue.attr.maxUnmatchedFrames + 1 := by
    intro k hk
    have := hk.order.queueInv.backlog (by rw [hk.limit]; exact limit)
    rwa [hk.limit] at this
  refine ⟨hbound hi, fun b slot x hslot hb hx => ?_⟩
  obtain ⟨fs, -, hquiet⟩ := handleMetadata_quietly (P := fun _ _ _ => True) (c := c) hx
  obtain ⟨gs, hquiet⟩ := chanRun_core_run hquiet
  have hix := run_limitInv hquiet hi
  have hlimit : x.ch.queue.attr.maxUnmatchedFrames = (s.ch c).queue.attr.maxUnmatchedFrames :=
    hix.limit
  refine ⟨fun env y hy => ?_, fun hnew hmax => ?_⟩
  · have hbundled : x.ch.core.slotOf b.streamId = some slot := by
      have hstreams : x.ch.core.bundledStreams = (t.ch c).queue.bundledStreams :=
        hix.streams.trans hi.streams.symm
      unfold Core.slotOf
      rw [hstreams]
      exact hslot
    have hstep : CoreStep (fun _ _ _ => True) c (.arrive b) x.ch.core y.ch.core :=
      .comp hbundled hb trivial (superbufComp_cases hy)
    exact hbound (run_limitInv (.one hstep) hix)
  · exact hix.order.evictsOne (by rw [hlimit]; exact limit) hnew (by rw [hlimit]; exact hmax)

/-- The fifth frame of one stream arrives at a queue that may hold three unmatched nodes and holds
four: the oldest goes. -/
theorem backlog_bounded_twoStreams :
    ∃ t, Run Op.Step
        [.command .ample 0 (.dataCb (imageBuf 100 1 1)),
          .command .ample 0 (.dataCb (imageBuf 101 1 2)),
          .command .ample 0 (.dataCb (imageBuf 102 1 3)),
          .command .ample 0 (.dataCb (imageBuf 103 1 4))] twoStreams t ∧
      unmatchedCount (t.ch 0).queue.que = 4 ∧ unmatchedCount (t.ch 0).queue.que ≤ 3 + 1 ∧
      ∃ as v bs, EvictsOne 0 0 (imageBuf 104 1 5) (t.ctx 0) as v bs := by
  obtain ⟨t, run, hfour, hslot, hx, hnew, hmax, hcomp⟩ : ∃ t, Run Op.Step
      [.command .ample 0 (.dataCb (imageBuf 100 1 1)),
        .command .ample 0 (.dataCb (imageBuf 101 1 2)),
        .command .ample 0 (.dataCb (imageBuf 102 1 3)),
        .command .ample 0 (.dataCb (imageBuf 103 1 4))] twoStreams t ∧
      unmatchedCount (t.ch 0).queue.que = 4 ∧
      (t.ch 0).queue.slotOf 1 = some 0 ∧
      handleMetadata (imageBuf 104 1 5) (t.ctx 0) = some (t.ctx 0) ∧
      ((t.ctx 0).ch.queue.scan 0 (imageBuf 104 1 5)).foundSuperBuf = false ∧
      3 < ((t.ctx 0).ch.queue.scan 0 (imageBuf 104 1 5)).unmatchedBundles ∧
      (superbufComp .ample 0 0 (imageBuf 104 1 5) (t.ctx 0)).toOption.map
        (fun y => y.ch.qbufs.map BufDef.addr) = some [100] :=
    ⟨_, .cons rfl (.cons rfl (.cons rfl (.one rfl))), rfl, rfl, rfl, rfl, by decide, rfl⟩
  obtain ⟨hle, harrive⟩ := backlog_bounded (c := 0) ⟨rfl, rfl, rfl⟩ (by decide) (by decide) run
  refine ⟨t, run, hfour, hle, ?_⟩
  rcases (harrive _ _ _ hslot (by decide) hx).2 hnew hmax with hreject | hevict
  · -- the buffer that comes back is that of the oldest node
    rw [hreject] at hcomp
    simp only [Except.toOption, Ctx.qbuf, Channel.qbuf, imageBuf, Option.map_some, map_append,
      Option.some.injEq] at hcomp
    have hlast := congrArg getLast? hcomp
    simp at hlast
  · exact hevict

end Runs

end MmCamera
