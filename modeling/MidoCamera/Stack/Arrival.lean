import MidoCamera.Stack.Steps
import Mathlib.Data.List.TakeWhile

/-!
# The arrival of a buffer, case by case

The scan of the queue in closed form, and from it what the locked part of
`mm_channel_superbuf_comp_and_enqueue` can do to a queue. The invariants of the queue are proved
from these cases; none of them unfolds the code again.
-/

namespace MmCamera

open List

variable {b : BufInfo} {post pre que : List Node} {s : Scan} {x : Ctx}

/-- The node is neither skipped by the scan nor refuses the buffer. -/
def stops (accepts : Node → Bool) (n : Node) : Bool := !n.matched && accepts n

def Node.older (frameIdx : ℕ) (n : Node) : Bool := !n.matched && decide (n.frameIdx < frameIdx)

def Node.newer (frameIdx : ℕ) (n : Node) : Bool := !n.matched && decide (frameIdx < n.frameIdx)

def unmatchedCount (ns : List Node) : ℕ := ns.countP fun n => !n.matched

def passed (accepts : Node → Bool) (que : List Node) : List Node :=
  que.takeWhile fun n => !stops accepts n

theorem or_findIdx?_cons (p : Node → Bool) (n : Node) (ns : List Node) (o : Option ℕ) (k : ℕ) :
    (o.or (((n :: ns).findIdx? p).map (k + ·))) =
      (if o.isNone && p n then some k else o).or ((ns.findIdx? p).map (k + 1 + ·)) := by
  have hshift : ((fun x => k + x) ∘ fun x => x + 1) = fun x => k + 1 + x := by
    funext x
    simp only [Function.comp_apply]
    omega
  cases o with
  | some l => simp
  | none => cases hp : p n <;> simp [findIdx?_cons, hp, hshift]

/-- **The scan** counts the unmatched nodes it passes, and keeps the first of an earlier and the
first of a later frame among them. -/
theorem superbufScan_eq (accepts : Node → Bool) (f : ℕ) (que : List Node) :
    ∀ (u : ℕ) (l i : Option ℕ) (p : ℕ), u < 2 ^ 8 →
      superbufScan accepts f que ⟨false, u, l, i, p⟩ =
        ⟨que.any (stops accepts), (u + unmatchedCount (passed accepts que)) % 2 ^ 8,
          l.or (((passed accepts que).findIdx? (Node.older f)).map (p + ·)),
          i.or (((passed accepts que).findIdx? (Node.newer f)).map (p + ·)),
          p + (passed accepts que).length⟩ := by
  induction que with
  | nil =>
    intro u l i p hu
    have hmod := Nat.mod_eq_of_lt hu
    simp only [superbufScan, passed, unmatchedCount, takeWhile_nil, countP_nil, add_zero, hmod]
    simp
  | cons n rest ih =>
    intro u l i p hu
    unfold superbufScan
    cases hm : n.matched with
    | true =>
      have hstop : stops accepts n = false := by simp [stops, hm]
      have hpass : passed accepts (n :: rest) = n :: passed accepts rest := by
        simp [passed, hstop]
      rw [if_pos rfl, ih _ _ _ _ hu, hpass, or_findIdx?_cons, or_findIdx?_cons]
      simp [hstop, unmatchedCount, hm, Node.older, Node.newer, Nat.add_right_comm, Nat.add_assoc]
    | false =>
      rw [if_neg (by simp)]
      cases ha : accepts n with
      | true =>
        have hstop : stops accepts n = true := by simp [stops, hm, ha]
        have hpass : passed accepts (n :: rest) = [] := by simp [passed, hstop]
        have hmod := Nat.mod_eq_of_lt hu
        rw [if_pos rfl, hpass]
        simp only [unmatchedCount, countP_nil, add_zero, hmod]
        simp [hstop]
      | false =>
        have hstop : stops accepts n = false := by simp [stops, ha]
        have hpass : passed accepts (n :: rest) = n :: passed accepts rest := by
          simp [passed, hstop]
        have hcount : unmatchedCount (n :: passed accepts rest) =
            unmatchedCount (passed accepts rest) + 1 := by simp [unmatchedCount, hm]
        have hmod : ((u + 1) % 2 ^ 8 + unmatchedCount (passed accepts rest)) % 2 ^ 8 =
            (u + unmatchedCount (n :: passed accepts rest)) % 2 ^ 8 := by
          rw [hcount]
          omega
        rw [if_neg (by simp), ih _ _ _ _ (Nat.mod_lt _ (by decide)), hmod, hpass,
          or_findIdx?_cons, or_findIdx?_cons]
        simp [hstop, Node.older, Node.newer, hm, Nat.add_right_comm, Nat.add_assoc]

theorem not_stops_of_mem_passed {accepts : Node → Bool} {n : Node}
    (h : n ∈ passed accepts que) : stops accepts n = false := by
  simpa using mem_takeWhile_imp h

theorem passed_eq_self {accepts : Node → Bool}
    (h : que.any (stops accepts) = false) : passed accepts que = que := by
  refine takeWhile_eq_self_iff.mpr fun n hn => ?_
  simp only [any_eq_false] at h
  simpa using h n hn

theorem passed_append {accepts : Node → Bool} (h : que.any (stops accepts) = true) :
    ∃ n post, que = passed accepts que ++ n :: post ∧ stops accepts n = true := by
  induction que with
  | nil => simp at h
  | cons n rest ih =>
    cases hs : stops accepts n with
    | true => exact ⟨n, rest, by simp [passed, hs], hs⟩
    | false =>
      obtain ⟨m, post, hrest, hm⟩ := ih (by simpa [hs] using h)
      have hpass : passed accepts (n :: rest) = n :: passed accepts rest := by
        simp [passed, hs]
      refine ⟨m, post, ?_, hm⟩
      rw [hpass, cons_append, ← hrest]

theorem queue_scan_eq (q : Queue) (slot : ℕ) (b : BufInfo) :
    q.scan slot b =
      ⟨q.que.any (stops (accepts q.attr.priority slot b)),
        unmatchedCount (passed (accepts q.attr.priority slot b) q.que) % 2 ^ 8,
        (passed (accepts q.attr.priority slot b) q.que).findIdx? (Node.older b.frameIdx),
        (passed (accepts q.attr.priority slot b) q.que).findIdx? (Node.newer b.frameIdx),
        (passed (accepts q.attr.priority slot b) q.que).length⟩ := by
  rw [Queue.scan, superbufScan_eq _ _ _ _ _ _ _ (by decide)]
  simp

theorem findIdx?_cut {α : Type} {p : α → Bool} {ns : List α} {l : ℕ}
    (h : ns.findIdx? p = some l) :
    ∃ as v bs, ns = as ++ v :: bs ∧ as.length = l ∧ (∀ o ∈ as, p o = false) ∧ p v = true := by
  obtain ⟨hl, hp, hlt⟩ := findIdx?_eq_some_iff_getElem.mp h
  refine ⟨ns.take l, ns[l], ns.drop (l + 1), by simp, by simp; omega, ?_, hp⟩
  intro o ho
  obtain ⟨j, hj, rfl⟩ := mem_take_iff_getElem.mp ho
  simpa using hlt j (by omega)

/-! ## The cases of an arrival -/

/-- The scan for a buffer stops at node `n`, behind the nodes `pre` and before `post`. -/
structure Found (slot : ℕ) (b : BufInfo) (k : Core) (pre : List Node) (n : Node)
    (post : List Node) : Prop where
  que : k.que = pre ++ n :: post
  passed : ∀ o ∈ pre, stops (accepts k.priority slot b) o = false
  unmatched : n.matched = false
  accepted : accepts k.priority slot b n = true

/-- A node with the buffer in its slot, for either value of its `expected_frame`. -/
def Stored (slot : ℕ) (b : BufInfo) (n m : Node) : Prop :=
  ∃ e, m = { (n.adopt b.frameIdx).fill slot b with expectedFrame := e }

/-- The removal before an insertion: of no node, or of one that is not before the first unmatched
node. -/
inductive Evicts : List Node → List Node → List Node → Prop
  | none (que : List Node) : Evicts que [] que
  | one {as bs : List Node} {v o : Node} (mem : o ∈ as ++ [v]) (unmatched : o.matched = false) :
      Evicts (as ++ v :: bs) [v] (as ++ bs)

/-- The queue after the removal is cut where the buffer of a frame is inserted: no node before the
cut is of a later frame, and the first one behind it is. -/
structure Insertion (f : ℕ) (que vs before after : List Node) : Prop where
  evict : Evicts que vs (before ++ after)
  earlier : ∀ n ∈ before, n.newer f = false
  later : ∀ n ∈ after.head?, n.newer f = true

/-- The node a buffer is enqueued in. -/
def Core.newNode (k : Core) (slot : ℕ) (b : BufInfo) (expected : Bool) : Node :=
  { superBuf := (List.replicate k.bundledStreams.length none).set slot (some b)
    matched := k.bundledStreams.length == 1
    expectedFrame := expected
    frameIdx := b.frameIdx
    unmatchedMetaIdx :=
      if k.priority = .low ∧ b.buf.streamType = .metadata then b.frameIdx else 0 }

def Core.syncAdd (k : Core) (c : ChannelId) (frameIdx : ℕ) (fs : FrameSync) : FrameSync :=
  if k.enableFrameSync then frameSyncAdd frameIdx c fs else fs

/-- What the arrival of a buffer does to a queue and to the frame-sync table. -/
inductive CompStep (c : ChannelId) (slot : ℕ) (b : BufInfo) (k : Core) (fs : FrameSync) :
    Core → FrameSync → Prop
  | duplicate {pre post : List Node} {n : Node} (found : Found slot b k pre n post)
      (filled : n.frameIdxAt slot ≠ 0) :
      CompStep c slot b k fs
        { k with que := pre ++ n.adopt b.frameIdx :: post, qbufs := k.qbufs ++ [b.buf] } fs
  | store {pre post : List Node} {n m : Node} (found : Found slot b k pre n post)
      (empty : n.frameIdxAt slot = 0) (stored : Stored slot b n m) (unmatched : m.matched = false) :
      CompStep c slot b k fs { k with que := pre ++ m :: post } fs
  | complete {keep old post : List Node} {n m : Node} (found : Found slot b k (keep ++ old) n post)
      (empty : n.frameIdxAt slot = 0) (stored : Stored slot b n m) (matched : m.matched = true)
      (kept : ∀ o ∈ keep, o.older b.frameIdx = false)
      (oldest : ∀ o ∈ old.head?, o.older b.frameIdx = true) :
      CompStep c slot b k fs
        { k with
          que := keep ++ m :: post
          size := decU32^[old.length] k.size
          matchCnt := incU32 k.matchCnt
          qbufs := k.qbufs ++ old.flatMap Node.indexedBufs }
        (k.syncAdd c b.frameIdx fs)
  | refuse {que vs : List Node} (evict : Evicts k.que vs que) :
      CompStep c slot b k fs
        { k with
          que := que
          size := decU32^[vs.length] k.size
          qbufs := k.qbufs ++ vs.flatMap Node.indexedBufs ++ [b.buf] } fs
  | enqueue {before after vs : List Node} (expected : Bool)
      (cut : Insertion b.frameIdx k.que vs before after)
      (passed : ∀ n ∈ k.que, stops (accepts k.priority slot b) n = false)
      (room : vs = [] → unmatchedCount k.que % 2 ^ 8 ≤ k.maxUnmatchedFrames) :
      CompStep c slot b k fs
        { k with
          que := before ++ k.newNode slot b expected :: after
          size := incU32 (decU32^[vs.length] k.size)
          matchCnt := if k.bundledStreams.length = 1 then incU32 k.matchCnt else k.matchCnt
          qbufs := k.qbufs ++ vs.flatMap Node.indexedBufs }
        (if k.bundledStreams.length = 1 then k.syncAdd c b.frameIdx fs else fs)

/-! ### The release of nodes -/

@[simp] theorem releaseNodes_fs (nodes : List Node) (x : Ctx) :
    (releaseNodes nodes x).fs = x.fs := by
  unfold releaseNodes
  induction nodes generalizing x with
  | nil => rfl
  | cons n nodes ih => rw [foldl_cons, ih]; rfl

theorem releaseNodes_core (nodes : List Node) (x : Ctx) :
    (releaseNodes nodes x).ch.core =
      { x.ch.core with
        size := decU32^[nodes.length] x.ch.queue.size
        qbufs := x.ch.qbufs ++ nodes.flatMap Node.indexedBufs } := by
  unfold releaseNodes
  induction nodes generalizing x with
  | nil => simp [Channel.core]
  | cons n nodes ih =>
    rw [foldl_cons, ih]
    simp [Channel.core, Ctx.setQueue, Ctx.qbuf, Channel.qbuf]

/-! ### The node that takes a buffer -/

@[simp] theorem adopt_superBuf (n : Node) (f : ℕ) : (n.adopt f).superBuf = n.superBuf := by
  unfold Node.adopt
  split_ifs <;> rfl

@[simp] theorem adopt_matched (n : Node) (f : ℕ) : (n.adopt f).matched = n.matched := by
  unfold Node.adopt
  split_ifs <;> rfl

@[simp] theorem adopt_frameIdxAt (n : Node) (f i : ℕ) :
    (n.adopt f).frameIdxAt i = n.frameIdxAt i := by
  simp [Node.frameIdxAt]

theorem adopt_frameIdx (n : Node) (f : ℕ) :
    (n.adopt f).frameIdx = if 0 < n.unmatchedMetaIdx then f else n.frameIdx := by
  unfold Node.adopt
  split_ifs <;> rfl

theorem set_middle (pre post : List Node) (n m : Node) :
    (pre ++ n :: post).set pre.length m = pre ++ m :: post := by
  simp

theorem expectNext_core (x : Ctx) (b : BufInfo) : (x.expectNext b).ch.core = x.ch.core := by
  unfold Ctx.expectNext
  dsimp only
  split_ifs <;> rfl

theorem expectNext_fs (x : Ctx) (b : BufInfo) : (x.expectNext b).fs = x.fs := by
  unfold Ctx.expectNext
  dsimp only
  split_ifs <;> rfl

@[simp] theorem syncAdd_ch (x : Ctx) (c : ChannelId) (f : ℕ) : (x.syncAdd c f).ch = x.ch := by
  unfold Ctx.syncAdd
  split_ifs <;> rfl

theorem syncAdd_fs (x : Ctx) (c : ChannelId) (f : ℕ) :
    (x.syncAdd c f).fs = x.ch.core.syncAdd c f x.fs := by
  unfold Ctx.syncAdd Core.syncAdd
  split_ifs <;> first | rfl | contradiction

theorem setQue_core (x : Ctx) (que : List Node) :
    (x.setQueue { x.ch.queue with que := que }).ch.core = { x.ch.core with que := que } := rfl

/-- **The release after a match** keeps the nodes before the first older one, and the matched
node with what follows it. -/
theorem releaseOlder_core {m : Node} {f : ℕ}
    (hq : x.ch.queue.que = pre ++ m :: post) (hpos : s.pos = pre.length)
    (hlast : s.lastBuf = pre.findIdx? (Node.older f)) :
    ∃ keep old, pre = keep ++ old ∧ (∀ o ∈ keep, o.older f = false) ∧
      (∀ o ∈ old.head?, o.older f = true) ∧ (releaseOlder s x).ch.core = { x.ch.core with
          que := keep ++ m :: post
          size := decU32^[old.length] x.ch.queue.size
          qbufs := x.ch.qbufs ++ old.flatMap Node.indexedBufs } ∧
      (releaseOlder s x).fs = x.fs := by
  unfold releaseOlder
  rw [hlast]
  cases hl : pre.findIdx? (Node.older f) with
  | none =>
    refine ⟨pre, [], by simp, findIdx?_eq_none_iff.mp hl, by simp, ?_, rfl⟩
    simp [Channel.core, hq]
  | some l =>
    obtain ⟨keep, v, bs, rfl, rfl, hkeep, hv⟩ := findIdx?_cut hl
    have hold : ((x.ch.queue.que.take s.pos).drop keep.length) = v :: bs := by
      rw [hq, hpos, take_left' rfl, drop_left' rfl]
    have hnew : x.ch.queue.que.take keep.length ++ x.ch.queue.que.drop s.pos =
        keep ++ m :: post := by
      rw [hq, hpos, drop_left' rfl, append_assoc, take_left' rfl]
    refine ⟨keep, v :: bs, rfl, hkeep, by simpa using hv, ?_, by simp [Ctx.setQueue]⟩
    simp only [hold, hnew]
    rw [setQue_core, releaseNodes_core]

/-- **A match** releases what the scan saw before the node and enters the frame in the table. -/
theorem superbufMatch_core (c : ChannelId)
    {n : Node} (m : Node) (hq : x.ch.queue.que = pre ++ n :: post)
    (hpos : s.pos = pre.length) (hlast : s.lastBuf = pre.findIdx? (Node.older b.frameIdx)) :
    ∃ keep old, pre = keep ++ old ∧ (∀ o ∈ keep, o.older b.frameIdx = false) ∧
      (∀ o ∈ old.head?, o.older b.frameIdx = true) ∧ (superbufMatch c b s m x).ch.core =
        { x.ch.core with
          que := keep ++ { m with expectedFrame := false } :: post
          size := decU32^[old.length] x.ch.queue.size
          matchCnt := incU32 x.ch.queue.matchCnt
          qbufs := x.ch.qbufs ++ old.flatMap Node.indexedBufs } ∧
      (superbufMatch c b s m x).fs = x.ch.core.syncAdd c b.frameIdx x.fs := by
  set y := x.expectNext b with hy
  have hcore : y.ch.core = x.ch.core := expectNext_core x b
  have hque : y.ch.queue.que = pre ++ n :: post := (congrArg Core.que hcore).trans hq
  set z := y.setQueue { y.ch.queue with
    que := y.ch.queue.que.set s.pos { m with expectedFrame := false }
    matchCnt := incU32 y.ch.queue.matchCnt } with hz
  have hzcore : z.ch.core = { x.ch.core with
      que := pre ++ { m with expectedFrame := false } :: post
      matchCnt := incU32 x.ch.queue.matchCnt } := by
    have : z.ch.core = { y.ch.core with
        que := y.ch.queue.que.set s.pos { m with expectedFrame := false }
        matchCnt := incU32 y.ch.core.matchCnt } := rfl
    rw [this, hcore, hque, hpos, set_middle]
    rfl
  have hzque : (z.syncAdd c b.frameIdx).ch.queue.que =
      pre ++ { m with expectedFrame := false } :: post := by
    rw [syncAdd_ch]
    exact congrArg Core.que hzcore
  obtain ⟨keep, old, hpre, hkeep, hold, hrel, hfs⟩ := releaseOlder_core hzque hpos hlast
  refine ⟨keep, old, hpre, hkeep, hold, ?_, ?_⟩
  · have : superbufMatch c b s m x = releaseOlder s (z.syncAdd c b.frameIdx) := rfl
    have hsize : z.ch.queue.size = x.ch.queue.size := congrArg Core.size hzcore
    have hqbufs : z.ch.qbufs = x.ch.qbufs := congrArg Core.qbufs hzcore
    rw [this, hrel, syncAdd_ch, hzcore, hsize, hqbufs]
  · have : superbufMatch c b s m x = releaseOlder s (z.syncAdd c b.frameIdx) := rfl
    have hzfs : z.fs = x.fs := expectNext_fs x b
    rw [this, hfs, syncAdd_fs, hzcore, hzfs]
    rfl

/-- **The branch of a node that takes the buffer**, case by case. -/
theorem superbufFill_cases (c : ChannelId) {slot : ℕ}
    {n : Node} (found : Found slot b x.ch.core pre n post)
    (hpos : s.pos = pre.length) (hlast : s.lastBuf = pre.findIdx? (Node.older b.frameIdx)) :
    CompStep c slot b x.ch.core x.fs (superbufFill c slot b s x).ch.core
      (superbufFill c slot b s x).fs := by
  have hq : x.ch.queue.que = pre ++ n :: post := found.que
  have hget : x.ch.queue.que[s.pos]? = some n := by rw [hq, hpos]; simp
  have hset : ∀ m, x.ch.queue.que.set s.pos m = pre ++ m :: post := fun m => by
    rw [hq, hpos, set_middle]
  have hset' : ∀ m' m, (pre ++ m' :: post).set s.pos m = pre ++ m :: post := fun m' m => by
    rw [hpos, set_middle]
  unfold superbufFill
  simp only [hget, hset, adopt_frameIdxAt]
  by_cases hfill : n.frameIdxAt slot ≠ 0
  · rw [if_pos hfill]
    exact .duplicate found hfill
  · rw [if_neg hfill]
    have hempty : n.frameIdxAt slot = 0 := not_not.mp hfill
    cases hm : ((n.adopt b.frameIdx).fill slot b).matched with
    | true =>
      rw [if_pos rfl]
      obtain ⟨keep, old, rfl, hkeep, hold, hcore, hfs⟩ :=
        superbufMatch_core c ((n.adopt b.frameIdx).fill slot b) (x := x.setQueue
          { x.ch.queue with que := pre ++ n.adopt b.frameIdx :: post }) rfl hpos hlast
      rw [hcore, hfs]
      exact .complete found hempty ⟨false, rfl⟩ hm hkeep hold
    | false =>
      rw [if_neg (by simp)]
      split_ifs with hd
      · have h : CompStep c slot b x.ch.core x.fs _ x.fs := .store found hempty ⟨true, rfl⟩ hm
        simpa only [Ctx.setQueue, Channel.core, hset', hm] using h
      · have h : CompStep c slot b x.ch.core x.fs _ x.fs := .store found hempty
          (m := (n.adopt b.frameIdx).fill slot b) ⟨(n.adopt b.frameIdx).expectedFrame, rfl⟩ hm
        simpa only [Ctx.setQueue, Channel.core, hset', hm] using h

/-! ### The node that is inserted -/

theorem insertNode_cut (n : Node) (before after : List Node) :
    insertNode n (if after = [] then none else some before.length) (before ++ after) =
      before ++ n :: after := by
  cases after with
  | nil | cons a after => simp [insertNode]

theorem newer_cut (f : ℕ) (que : List Node) :
    ∃ before after, que = before ++ after ∧
      que.findIdx? (Node.newer f) = (if after = [] then none else some before.length) ∧
      (∀ n ∈ before, n.newer f = false) ∧ ∀ n ∈ after.head?, n.newer f = true := by
  cases h : que.findIdx? (Node.newer f) with
  | none => exact ⟨que, [], by simp, by simp, findIdx?_eq_none_iff.mp h, by simp⟩
  | some k =>
    obtain ⟨as, v, bs, rfl, rfl, has, hv⟩ := findIdx?_cut h
    exact ⟨as, v :: bs, rfl, by simp, has, by simpa using hv⟩

theorem evictFrom_some {ib : Option ℕ} {ns : List Node} {j i : ℕ}
    (h : evictFrom ib ns j = some i) : j ≤ i ∧ i < j + ns.length ∧ ib ≠ some i := by
  induction ns generalizing j with
  | nil => simp [evictFrom] at h
  | cons n ns ih =>
    unfold evictFrom at h
    split_ifs at h with hc
    · cases h
      simp only [Bool.and_eq_true, bne_iff_ne] at hc
      exact ⟨le_rfl, by simp, hc.2⟩
    · obtain ⟨h₁, h₂, h₃⟩ := ih h
      exact ⟨by omega, by simp only [length_cons]; omega, h₃⟩

/-- **An eviction** moves the position to insert before along with the node there. -/
theorem evict_cut {f : ℕ} {as bs : List Node} {v : Node}
    (hne : (as ++ v :: bs).findIdx? (Node.newer f) ≠ some as.length) :
    ∃ before after, as ++ bs = before ++ after ∧
      ((as ++ v :: bs).findIdx? (Node.newer f)).map (shiftPos as.length) =
        (if after = [] then none else some before.length) ∧
      (∀ n ∈ before, n.newer f = false) ∧ ∀ n ∈ after.head?, n.newer f = true := by
  obtain ⟨before, after, hcut, hpos, hb, ha⟩ := newer_cut f (as ++ v :: bs)
  rw [hpos] at hne ⊢
  cases after with
  | nil =>
    rw [append_nil] at hcut
    refine ⟨as ++ bs, [], by simp, by simp, ?_, by simp⟩
    intro n hn
    refine hb n (hcut ▸ ?_)
    rcases mem_append.mp hn with hn | hn <;> simp [hn]
  | cons r after =>
    have hlen : before.length ≠ as.length := by
      intro h
      simp [h] at hne
    rcases append_eq_append_iff.mp hcut with ⟨cs, rfl, hcs⟩ | ⟨cs, rfl, hcs⟩
    · -- the node that goes is before the one to insert before
      cases cs with
      | nil => simp at hlen
      | cons w cs =>
        simp only [cons_append, cons.injEq] at hcs
        obtain ⟨rfl, rfl⟩ := hcs
        refine ⟨as ++ cs, r :: after, by simp, ?_, ?_, ha⟩
        · simp [shiftPos]
        · intro n hn
          refine hb n ?_
          rcases mem_append.mp hn with hn | hn <;> simp [hn]
    · cases cs with
      | nil => simp at hlen
      | cons w cs =>
        simp only [cons_append, cons.injEq] at hcs
        obtain ⟨rfl, rfl⟩ := hcs
        exact ⟨before, r :: (cs ++ bs), by simp, by simp [shiftPos], hb, ha⟩

theorem evictAt_core {as bs : List Node} {v : Node} (hq : x.ch.queue.que = as ++ v :: bs) :
    (evictAt as.length x).ch.core = { x.ch.core with
          que := as ++ bs
          size := decU32 x.ch.queue.size
          qbufs := x.ch.qbufs ++ v.indexedBufs } ∧
      (evictAt as.length x).fs = x.fs := by
  have hget : x.ch.queue.que[as.length]?.toList = [v] := by rw [hq]; simp
  have herase : x.ch.queue.que.eraseIdx as.length = as ++ bs := by
    rw [hq, eraseIdx_append_of_length_le le_rfl]
    simp
  unfold evictAt
  simp only [hget, herase]
  refine ⟨?_, by simp [Ctx.setQueue]⟩
  rw [setQue_core, releaseNodes_core]
  simp

theorem evictAt_cases {f i : ℕ} {as bs : List Node} {o : Node}
    (hque : x.ch.queue.que = as ++ o :: bs) (ho : o.matched = false) (hle : as.length ≤ i)
    (hi : i < x.ch.queue.que.length) (hne : x.ch.queue.que.findIdx? (Node.newer f) ≠ some i) :
    ∃ v before after, Insertion f x.ch.queue.que [v] before after ∧
      (x.ch.queue.que.findIdx? (Node.newer f)).map (shiftPos i) =
        (if after = [] then none else some before.length) ∧ (evictAt i x).ch.core = { x.ch.core with
          que := before ++ after
          size := decU32 x.ch.queue.size
          qbufs := x.ch.qbufs ++ v.indexedBufs } ∧
      (evictAt i x).fs = x.fs := by
  obtain ⟨cs, v, ds, hcut, rfl⟩ : ∃ cs v ds, x.ch.queue.que = cs ++ v :: ds ∧ cs.length = i :=
    ⟨x.ch.queue.que.take i, x.ch.queue.que[i], x.ch.queue.que.drop (i + 1), by simp, by simp; omega⟩
  have hmem : o ∈ cs ++ [v] := by
    have htake : o ∈ x.ch.queue.que.take (cs.length + 1) := by
      rw [mem_take_iff_getElem]
      exact ⟨as.length, by omega, by simp [hque]⟩
    rw [hcut, take_append, take_of_length_le (by omega)] at htake
    simpa using htake
  obtain ⟨hcore, hfs⟩ := evictAt_core hcut
  rw [hcut] at hne
  obtain ⟨before, after, hsplit, hpos, hb, ha⟩ := evict_cut hne
  refine ⟨v, before, after, ⟨?_, hb, ha⟩, ?_, ?_, hfs⟩
  · rw [← hsplit, hcut]
    exact .one hmem ho
  · rw [hcut, hpos]
  · rw [hcore, hsplit]

/-- **The removal before an insertion** takes out at most one node, and keeps the position to
insert before. -/
theorem superbufEvict_cases {y : Ctx} {ib : Option ℕ} {f : ℕ}
    (hlast : s.lastBuf = x.ch.queue.que.findIdx? (Node.older f))
    (hins : s.insertBeforeBuf = x.ch.queue.que.findIdx? (Node.newer f))
    (hroom : ¬(x.ch.queue.attr.maxUnmatchedFrames < s.unmatchedBundles ∧ s.lastBuf = none))
    (h : superbufEvict s x = .ok (ib, y)) :
    ∃ vs before after, Insertion f x.ch.queue.que vs before after ∧
      ib = (if after = [] then none else some before.length) ∧
      y.ch.core = { x.ch.core with
          que := before ++ after
          size := decU32^[vs.length] x.ch.queue.size
          qbufs := x.ch.qbufs ++ vs.flatMap Node.indexedBufs } ∧
      y.fs = x.fs ∧ (vs = [] → s.unmatchedBundles ≤ x.ch.queue.attr.maxUnmatchedFrames) := by
  unfold superbufEvict at h
  dsimp only at h
  by_cases hmax : x.ch.queue.attr.maxUnmatchedFrames < s.unmatchedBundles
  · rw [if_pos hmax] at h
    cases hl : s.lastBuf with
    | none => exact absurd ⟨hmax, hl⟩ hroom
    | some l =>
      simp only [hl] at h
      obtain ⟨as, o, bs, hque, rfl, -, ho⟩ := findIdx?_cut (hlast.symm.trans hl)
      have hou : o.matched = false ∧ o.frameIdx < f := by simpa [Node.older] using ho
      have hlen : as.length < x.ch.queue.que.length := by rw [hque]; simp
      cases he : evictFrom s.insertBeforeBuf (x.ch.queue.que.drop as.length) as.length with
      | some i =>
        simp only [he] at h
        obtain ⟨hle, hlt, hne⟩ := evictFrom_some he
        rw [length_drop] at hlt
        rw [hins] at hne
        obtain ⟨v, before, after, hcut, hpos, hcore, hfs⟩ :=
          evictAt_cases hque hou.1 hle (by omega) hne
        by_cases hmore : x.ch.queue.attr.maxUnmatchedFrames < s.unmatchedBundles - 1
        · rw [if_pos hmore] at h
          cases h
        · rw [if_neg hmore] at h
          simp only [Except.ok.injEq, Prod.mk.injEq] at h
          obtain ⟨rfl, rfl⟩ := h
          exact ⟨[v], before, after, hcut, by rw [hins, hpos], by rw [hcore]; simp, hfs, by simp⟩
      | none =>
        simp only [he, Except.ok.injEq, Prod.mk.injEq] at h
        obtain ⟨rfl, rfl⟩ := h
        have hne : x.ch.queue.que.findIdx? (Node.newer f) ≠ some as.length := by
          intro hk
          obtain ⟨as', v, bs', hque', hlen', -, hv⟩ := findIdx?_cut hk
          obtain ⟨rfl, hov, -⟩ : as = as' ∧ o = v ∧ bs = bs' := by
            obtain ⟨h₁, h₂⟩ := append_inj (hque.symm.trans hque') hlen'.symm
            exact ⟨h₁, cons.inj h₂⟩
          have : v.matched = false ∧ f < v.frameIdx := by simpa [Node.newer] using hv
          rw [← hov] at this
          omega
        obtain ⟨v, before, after, hcut, hpos, hcore, hfs⟩ :=
          evictAt_cases hque hou.1 le_rfl hlen hne
        exact ⟨[v], before, after, hcut, by rw [hins, hpos], by rw [hcore]; simp, hfs, by simp⟩
  · rw [if_neg hmax] at h
    simp only [Except.ok.injEq, Prod.mk.injEq] at h
    obtain ⟨rfl, rfl⟩ := h
    obtain ⟨before, after, hcut, hpos, hb, ha⟩ := newer_cut f x.ch.queue.que
    refine ⟨[], before, after, ⟨?_, hb, ha⟩, hins.trans hpos, ?_, rfl, fun _ => by omega⟩
    · rw [← hcut]
      exact .none _
    · rw [← hcut]
      simp [Channel.core]

/-- **The enqueue of a new node** before a position. -/
theorem superbufEnqueue_core (c : ChannelId) (slot : ℕ) (b : BufInfo) (ib : Option ℕ) (x : Ctx) :
    ∃ e, (superbufEnqueue c slot b ib x).ch.core =
        { x.ch.core with
          que := insertNode (x.ch.core.newNode slot b e) ib x.ch.queue.que
          size := incU32 x.ch.queue.size
          matchCnt := if x.ch.queue.bundledStreams.length = 1 then incU32 x.ch.queue.matchCnt
            else x.ch.queue.matchCnt } ∧
      (superbufEnqueue c slot b ib x).fs =
        if x.ch.queue.bundledStreams.length = 1 then x.ch.core.syncAdd c b.frameIdx x.fs
        else x.fs := by
  refine ⟨(x.newBuf slot b).expectedFrame, ?_⟩
  have hnode : x.newBuf slot b = x.ch.core.newNode slot b (x.newBuf slot b).expectedFrame := rfl
  have hmatched : (x.newBuf slot b).matched = (x.ch.queue.bundledStreams.length == 1) := rfl
  rw [← hnode]
  unfold superbufEnqueue
  simp only [hmatched, beq_iff_eq]
  by_cases hd : x.ch.divertedFrameId = b.frameIdx ∨ b.frameIdx = x.ch.queue.goodFrameId
  · rw [if_pos hd]
    by_cases h1 : x.ch.queue.bundledStreams.length = 1
    · rw [if_pos h1, syncAdd_ch, syncAdd_fs, if_pos h1, if_pos h1]
      exact ⟨rfl, rfl⟩
    · rw [if_neg h1, if_neg h1, if_neg h1]
      exact ⟨rfl, rfl⟩
  · rw [if_neg hd]
    by_cases h1 : x.ch.queue.bundledStreams.length = 1
    · rw [if_pos h1, syncAdd_ch, syncAdd_fs, if_pos h1, if_pos h1]
      exact ⟨rfl, rfl⟩
    · rw [if_neg h1, if_neg h1, if_neg h1]
      exact ⟨rfl, rfl⟩

/-- **The branch of a buffer no node takes**, case by case. -/
theorem superbufInsert_cases {env : Env} (c : ChannelId) {slot : ℕ} {y : Ctx}
    (hpass : ∀ n ∈ x.ch.queue.que, stops (accepts x.ch.queue.attr.priority slot b) n = false)
    (hcount : s.unmatchedBundles = unmatchedCount x.ch.queue.que % 2 ^ 8)
    (hlast : s.lastBuf = x.ch.queue.que.findIdx? (Node.older b.frameIdx))
    (hins : s.insertBeforeBuf = x.ch.queue.que.findIdx? (Node.newer b.frameIdx))
    (h : superbufInsert env c slot b s x = .ok y) :
    CompStep c slot b x.ch.core x.fs y.ch.core y.fs := by
  unfold superbufInsert at h
  by_cases hroom : x.ch.queue.attr.maxUnmatchedFrames < s.unmatchedBundles ∧ s.lastBuf = none
  · rw [if_pos hroom] at h
    cases h
    have h : CompStep c slot b x.ch.core x.fs _ x.fs := .refuse (Evicts.none x.ch.core.que)
    simpa [Ctx.qbuf, Channel.qbuf, Channel.core] using h
  · rw [if_neg hroom] at h
    obtain ⟨⟨ib, z⟩, hev, h⟩ := bind_eq_ok.mp h
    obtain ⟨vs, before, after, hcut, hib, hcore, hfs, hle⟩ :=
      superbufEvict_cases hlast hins hroom hev
    dsimp only at h
    by_cases halloc : (env.newBuf && env.newNode) = true
    · rw [if_pos halloc] at h
      cases h
      obtain ⟨e, hecore, hefs⟩ := superbufEnqueue_core c slot b ib z
      have hque : z.ch.queue.que = before ++ after := congrArg Core.que hcore
      have hsize : z.ch.queue.size = decU32^[vs.length] x.ch.queue.size :=
        congrArg Core.size hcore
      have hcnt : z.ch.queue.matchCnt = x.ch.queue.matchCnt := congrArg Core.matchCnt hcore
      have hstreams : z.ch.queue.bundledStreams = x.ch.queue.bundledStreams :=
        congrArg Core.bundledStreams hcore
      rw [hecore, hefs, hque, hib, insertNode_cut, hsize, hcnt, hstreams, hcore, hfs]
      exact .enqueue e hcut hpass fun hvs => hcount ▸ hle hvs
    · rw [if_neg halloc] at h
      cases h
      have hqbuf : (z.qbuf [b.buf]).ch.core =
          { z.ch.core with qbufs := z.ch.core.qbufs ++ [b.buf] } := rfl
      rw [hqbuf, hcore]
      change CompStep c slot b x.ch.core x.fs _ z.fs
      rw [hfs]
      exact .refuse hcut.evict

/-- **The inversion of an arrival**: what the locked part of
`mm_channel_superbuf_comp_and_enqueue` can do. -/
theorem superbufComp_cases {env : Env} {c : ChannelId} {slot : ℕ} {y : Ctx}
    (h : superbufComp env c slot b x = .ok y) :
    CompStep c slot b x.ch.core x.fs y.ch.core y.fs := by
  unfold superbufComp at h
  rw [queue_scan_eq] at h
  dsimp only at h
  split_ifs at h with hany
  · cases h
    obtain ⟨n, post, hque, hstop⟩ := passed_append hany
    have hn : n.matched = false ∧ accepts x.ch.queue.attr.priority slot b n = true := by
      simpa [stops] using hstop
    exact superbufFill_cases c ⟨hque, fun o ho => not_stops_of_mem_passed ho, hn.1, hn.2⟩ rfl rfl
  · have hall := passed_eq_self (by simpa using hany)
    refine superbufInsert_cases c ?_ ?_ ?_ ?_ h
    · intro n hn
      rw [← hall] at hn
      exact not_stops_of_mem_passed hn
    · rw [hall]
    · rw [hall]
    · rw [hall]

end MmCamera
