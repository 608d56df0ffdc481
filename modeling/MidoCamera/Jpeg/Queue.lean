import MidoCamera.Util.Queue

/-!
# The flush of the job queue

The queue of the JPEG interface and the queue of the camera's common headers are the same circular
list on the heap, and their flushes differ in one line. `cam_queue_flush` reads where a node leads
before it unlinks it. `mm_jpeg_queue_flush` reads it last, when the node points to itself and has
been freed, so that what it reads is up to the memory: it is a parameter here.
-/

namespace MmJpegQueue

open Loop QCamera List

/-! ## The two flushes -/

/-- `mm_jpeg_queue_t`, or `cam_queue_t`, with the payloads of the nodes. -/
structure Queue where
  list : CamList
  data : ℕ → Ptr
  size : UInt32

/-- The queue holds the nodes, in this order. -/
structure Queue.Holds (q : Queue) (ns : List ℕ) : Prop where
  ring : q.list.Ring .mHead (ns.map .node)
  size : q.size = UInt32.ofNat ns.length

/-- What a flush does: a link of a node is followed, a node is unlinked, and its payload and the
node are freed. -/
inductive Effect
  | follow (n : ℕ)
  | unlink (n : ℕ)
  | freeData (n : ℕ)
  | freeNode (n : ℕ)
  deriving DecidableEq, Repr

namespace Effect

def unlinked : Effect → Option ℕ
  | unlink n => some n
  | _ => none

def freedData : Effect → Option ℕ
  | freeData n => some n
  | _ => none

def freedNode : Effect → Option ℕ
  | freeNode n => some n
  | _ => none

end Effect

/-- The loop of a flush: where it is, what it has left of the queue, and what it has done. -/
structure Flush where
  pos : Cell
  queue : Queue
  trace : List Effect

namespace Flush

/-- What both flushes do with a node: it is unlinked, its payload freed, if there is one, and it is
freed. -/
def discard (f : Flush) (n : ℕ) : Flush :=
  { f with
    queue := { f.queue with
      list := camListDelNode f.queue.list (.node n)
      size := f.queue.size - 1 }
    trace := f.trace ++ .unlink n ::
      ((if (f.queue.data n).isSome then [.freeData n] else []) ++ [.freeNode n]) }

def follow (f : Flush) (n : ℕ) : Flush := { f with trace := f.trace ++ [.follow n] }

/-- A round of `mm_jpeg_queue_flush`: `stale` is what is read of the node that has been freed. -/
def jpegRound (stale : Flush → Cell) (f : Flush) : Flush :=
  match f.pos with
  | .mHead => f
  | .node n =>
    let f := (f.discard n).follow n
    { f with pos := stale f }

end Flush

def Flush.guard (f : Flush) : Bool := f.pos ≠ .mHead

/-- The two flushes, for a number of rounds: what they leave, and what they do. -/
def flushBy (round : Flush → Flush) (rounds : ℕ) (q : Queue) : Option (Queue × List Effect) :=
  (whileLoop Flush.guard round rounds ⟨q.list.next .mHead, q, []⟩).map fun f =>
    ({ f.queue with size := 0 }, f.trace)

def mmJpegQueueFlush (stale : Flush → Cell) : ℕ → Queue → Option (Queue × List Effect) :=
  flushBy (Flush.jpegRound stale)

/-- The effects of a flush are those that they are to be, and the queue is left empty. -/
structure Flushed (q : Queue) (ns : List ℕ) (left : Queue) (trace : List Effect) : Prop where
  visited : (trace.filterMap Effect.unlinked).Perm ns
  freed : (trace.filterMap Effect.freedNode).Perm ns
  payloads : (trace.filterMap Effect.freedData).Perm (ns.filter fun n => (q.data n).isSome)
  inside : trace.Pairwise fun e e' => ∀ n, e = .unlink n → e' ≠ .follow n
  empty : left.Holds []

/-- The flush ends, and is right. -/
def FlushesOnce (flush : ℕ → Queue → Option (Queue × List Effect)) (q : Queue) (ns : List ℕ) :
    Prop :=
  ∃ rounds left trace, flush rounds q = some (left, trace) ∧ Flushed q ns left trace

section

variable {q : Queue} {f : Flush} {n : ℕ} {ns : List ℕ}

theorem guard_of_node (pos : f.pos = .node n) : f.guard = true :=
  decide_eq_true (by rw [pos]; exact Cell.node_ne_mHead n)

/-! ## The flush of the common headers -/

def first (ns : List ℕ) : Cell := (ns.map Cell.node).headD .mHead

variable {stale : Flush → Cell}

theorem jpegRound_extends (stale : Flush → Cell) (f : Flush) :
    f.trace <+: (f.jpegRound stale).trace := by
  unfold Flush.jpegRound
  split
  · exact prefix_rfl
  · exact (prefix_append ..).trans (prefix_append ..)

theorem jpegRound_outside (pos : f.pos = .node n) :
    ¬(f.jpegRound stale).trace.Pairwise fun e e' => ∀ n, e = .unlink n → e' ≠ .follow n := by
  have htrace : (f.jpegRound stale).trace = ((f.discard n).follow n).trace := by
    unfold Flush.jpegRound
    rw [pos]
  intro hinside
  rw [htrace] at hinside
  have hcross := (pairwise_append.mp hinside).2.2
  refine hcross (.unlink n) ?_ (.follow n) mem_cons_self n rfl rfl
  exact mem_append_right _ mem_cons_self

/-- **The flush of the JPEG interface** visits and frees every node once and ends, with no link of
an unlinked node followed, exactly if the queue is empty, whatever is read of freed memory. -/
theorem jpegFlush_once_iff (stale : Flush → Cell) (holds : q.Holds ns) :
    FlushesOnce (mmJpegQueueFlush stale) q ns ↔ ns = [] := by
  constructor
  · rintro ⟨rounds, left, trace, hflush, hright⟩
    cases ns with
    | nil => rfl
    | cons n ns =>
      have hpos : q.list.next .mHead = .node n := holds.ring.next_head
      obtain ⟨g, hloop, hg⟩ := Option.map_eq_some_iff.mp hflush
      have hguard : Flush.guard ⟨q.list.next .mHead, q, []⟩ = true := guard_of_node hpos
      cases rounds with
      | zero => exact absurd hloop (by simp [whileLoop, hguard])
      | succ rounds =>
        rw [whileLoop_succ_of hguard] at hloop
        -- what the first round has done stays done
        have hprefix := (whileLoop_invariant
          (I := fun f => (Flush.jpegRound stale ⟨q.list.next .mHead, q, []⟩).trace <+: f.trace)
          (fun f _ h => h.trans (jpegRound_extends stale f)) prefix_rfl hloop).1
        have htrace : g.trace = trace := congrArg Prod.snd hg
        rw [htrace] at hprefix
        exact absurd (hright.inside.sublist hprefix.sublist) (jpegRound_outside hpos)
  · rintro rfl
    have hpos : q.list.next .mHead = .mHead := holds.ring.next_head
    have hguard : Flush.guard ⟨q.list.next .mHead, q, []⟩ = false :=
      decide_eq_false (not_not.mpr hpos)
    refine ⟨0, { q with size := 0 }, [], ?_, ⟨.nil, .nil, .nil, .nil, ⟨holds.ring, rfl⟩⟩⟩
    unfold mmJpegQueueFlush flushBy
    rw [whileLoop_of_not hguard]
    rfl

def one : Queue where
  list := camListAddTailNode (camListInit ⟨id, id⟩ .mHead) (.node 0) .mHead
  data _ := none
  size := 1

theorem one_holds : one.Holds [0] := by
  refine ⟨?_, rfl⟩
  have hempty : (camListInit ⟨id, id⟩ Cell.mHead).Ring .mHead ([] ++ []) := Links.Ring.empty ..
  have hlist : one.list = (camListInit ⟨id, id⟩ .mHead).insert (.node 0) .mHead .mHead :=
    camListAddTailNode_eq (Cell.node_ne_mHead 0)
  rw [hlist]
  exact hempty.insert ⟨⟨[], rfl⟩, ⟨[], rfl⟩⟩ (by simp)

theorem jpegFlush_once_iff_one :
    one.Holds [0] ∧ (FlushesOnce (mmJpegQueueFlush fun _ => .mHead) one [0] ↔ [0] = []) :=
  ⟨one_holds, jpegFlush_once_iff _ one_holds⟩

def kept (f : Flush) : Cell := f.queue.list.next f.pos

theorem jpegRound_kept (pos : f.pos = .node n) :
    (f.jpegRound kept).pos = .node n ∧
      (f.jpegRound kept).trace.count (.freeNode n) = f.trace.count (.freeNode n) + 1 := by
  have hround : f.jpegRound kept =
      { (f.discard n).follow n with pos := kept ((f.discard n).follow n) } := by
    unfold Flush.jpegRound
    rw [pos]
  rw [hround]
  constructor
  · -- the node has been made to point to itself
    have hnext : (camListDelNode f.queue.list (.node n)).next f.pos = .node n := by
      rw [pos, camListDelNode_eq]
      exact Function.update_self ..
    exact hnext
  · simp only [Flush.follow, Flush.discard, count_append, count_cons]
    split <;> simp

theorem jpegLoop_kept (pos : f.pos = .node n) (rounds : ℕ) :
    whileLoop Flush.guard (Flush.jpegRound kept) rounds f = none := by
  induction rounds generalizing f with
  | zero => exact if_pos (guard_of_node pos)
  | succ rounds ih =>
    rw [whileLoop_succ_of (guard_of_node pos)]
    exact ih (jpegRound_kept pos).1

/-- **Where the memory of a freed node stays as it is**, the flush of a queue that is not empty does
not end. -/
theorem jpegFlush_spins (holds : q.Holds (n :: ns)) (rounds : ℕ) :
    mmJpegQueueFlush kept rounds q = none :=
  congrArg (Option.map _) (jpegLoop_kept holds.ring.next_head rounds)

end

/-- A queue of one node is not flushed. -/
theorem jpegFlush_hangs :
    ¬∀ (stale : Flush → Cell) (q : Queue) (ns : List ℕ), q.Holds ns →
      FlushesOnce (mmJpegQueueFlush stale) q ns := by
  intro hall
  obtain ⟨rounds, left, trace, hflush, -⟩ := hall kept one [0] one_holds
  rw [jpegFlush_spins one_holds] at hflush
  cases hflush

end MmJpegQueue
