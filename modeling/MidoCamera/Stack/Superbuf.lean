import MidoCamera.Library.While
import MidoCamera.Stack.FrameSync

/-!
# The superbuf queue

The operations of `mm_camera_channel.c` on the superbuf queue of one channel. A position of the
scan (`pos`, `last_buf`, `insert_before_buf`) is an index into the list of nodes; the position
past the last node is the list head the C loops stop at.
-/

namespace MmCamera

/-- What one channel's handler works on: its channel, and the table it shares with the others. -/
structure Ctx where
  fs : FrameSync
  ch : Channel

def Ctx.setQueue (x : Ctx) (q : Queue) : Ctx := { x with ch := { x.ch with queue := q } }

/-- Calls of `mm_channel_qbuf`. -/
def Channel.qbuf (ch : Channel) (bs : List BufDef) : Channel := { ch with qbufs := ch.qbufs ++ bs }

/-- Calls of `mm_channel_qbuf` in a handler. -/
def Ctx.qbuf (x : Ctx) (bs : List BufDef) : Ctx := { x with ch := x.ch.qbuf bs }

def Node.indexedBufs (n : Node) : List BufDef :=
  n.superBuf.filterMap fun s => if slotFrameIdx s = 0 then none else s.map BufInfo.buf

/-- The buffers of a node of one stream type, all of them for the default type. -/
def Node.bufsOfType (camType : StreamType) (n : Node) : List BufDef :=
  n.bufs.filter fun b => camType = .default ∨ camType = b.streamType

/-! ## Dequeue, overflow, skip and flush -/

def superbufDequeueInternal (matchedOnly : Bool) (x : Ctx) : Option Node × Ctx :=
  match x.ch.queue.que with
  | [] => (none, x)
  | node :: rest =>
    if matchedOnly && !node.matched then (none, x)
    else
      let q := { x.ch.queue with que := rest, size := decU32 x.ch.queue.size }
      if node.matched then
        let y := x.setQueue { q with matchCnt := decU32 q.matchCnt }
        if q.attr.enableFrameSync then
          (some node, { y with fs := frameSyncRemove node.frameIdx y.fs })
        else (some node, y)
      else (some node, x.setQueue q)

def superbufDequeue (x : Ctx) : Option Node × Ctx := superbufDequeueInternal true x

def superbufDrop (x : Ctx) : Ctx :=
  match superbufDequeueInternal true x with
  | (some node, y) => y.qbuf node.bufs
  | (none, y) => y

/-- The loop of `mm_channel_superbuf_bufdone_overflow` and `mm_channel_superbuf_skip`. Each round
that changes the state removes a node, so a loop that is still running after as many rounds as
there were nodes never ends. -/
def superbufDropAbove (mark : ℕ) (x : Ctx) : Exec Ctx :=
  match Loop.whileLoop (fun x : Ctx => decide (mark < x.ch.queue.matchCnt)) superbufDrop
      x.ch.queue.que.length x with
  | some y => .ok y
  | none => .error .hang

def superbufBufdoneOverflow (x : Ctx) : Exec Ctx :=
  if x.ch.queue.attr.notifyMode = .continuous then .ok x
  else superbufDropAbove x.ch.queue.attr.waterMark x

def superbufSkip (x : Ctx) : Exec Ctx :=
  if x.ch.queue.attr.notifyMode = .continuous then .ok x
  else superbufDropAbove x.ch.queue.attr.lookBack x

/-- The loop of the flushes, for at most as many rounds as there are nodes. -/
def superbufFlushLoop (matchedOnly : Bool) (camType : StreamType) : ℕ → Ctx → Ctx
  | 0, x => x
  | k + 1, x =>
    match superbufDequeueInternal matchedOnly x with
    | (none, y) => y
    | (some node, y) => superbufFlushLoop matchedOnly camType k (y.qbuf (node.bufsOfType camType))

/-- `mm_channel_superbuf_flush`: a buffer of another type than `camType` is dropped with its
node. -/
def superbufFlush (camType : StreamType) (x : Ctx) : Ctx :=
  superbufFlushLoop false camType x.ch.queue.que.length x

def superbufFlushMatched (x : Ctx) : Ctx :=
  superbufFlushLoop true .default x.ch.queue.que.length x

/-- The search of `mm_channel_superbuf_dequeue_frame_internal`: the first matched node of a frame,
and the list without it. -/
def dequeueFrameFrom (frameIdx : ℕ) : List Node → Option (Node × List Node)
  | [] => none
  | node :: rest =>
    if node.matched && node.frameIdx == frameIdx then some (node, rest)
    else (dequeueFrameFrom frameIdx rest).map fun r => (r.1, node :: r.2)

def superbufDequeueFrameInternal (frameIdx : ℕ) (q : Queue) : Option Node × Queue :=
  match dequeueFrameFrom frameIdx q.que with
  | some (node, rest) =>
    (some node, { q with que := rest, size := decU32 q.size, matchCnt := decU32 q.matchCnt })
  | none => (none, q)

/-! ## Matching and enqueue -/

/-- The conditions under which an unmatched node takes the incoming buffer: the frame indices
agree; or, in a low priority queue, a metadata buffer finds an older node without one, or another
buffer finds a node that holds only metadata of a later frame. -/
def accepts (priority : Priority) (slot : ℕ) (b : BufInfo) (n : Node) : Bool :=
  b.frameIdx == n.frameIdx
    || (priority == .low && n.frameIdxAt slot == 0 && b.buf.streamType == .metadata
        && decide (n.frameIdx < b.frameIdx))
    || (priority == .low && b.buf.streamType != .metadata && n.frameIdxAt slot == 0
        && decide (b.frameIdx < n.unmatchedMetaIdx))

/-- The locals of the scan. -/
structure Scan where
  foundSuperBuf : Bool
  unmatchedBundles : ℕ
  lastBuf : Option ℕ
  insertBeforeBuf : Option ℕ
  pos : ℕ
  deriving DecidableEq, Repr

/-- The scan of the queue for the node that takes a buffer. -/
def superbufScan (accepts : Node → Bool) (frameIdx : ℕ) : List Node → Scan → Scan
  | [], s => s
  | node :: rest, s =>
    if node.matched then superbufScan accepts frameIdx rest { s with pos := s.pos + 1 }
    else if accepts node then { s with foundSuperBuf := true }
    else
      superbufScan accepts frameIdx rest
        { s with
          unmatchedBundles := (s.unmatchedBundles + 1) % 2 ^ 8
          lastBuf :=
            if s.lastBuf.isNone && decide (node.frameIdx < frameIdx) then some s.pos else s.lastBuf
          insertBeforeBuf :=
            if s.insertBeforeBuf.isNone && decide (frameIdx < node.frameIdx) then some s.pos
            else s.insertBeforeBuf
          pos := s.pos + 1 }

def Queue.scan (q : Queue) (slot : ℕ) (b : BufInfo) : Scan :=
  superbufScan (accepts q.attr.priority slot b) b.frameIdx q.que ⟨false, 0, none, none, 0⟩

/-- A node that held only metadata takes the frame index of the buffer it is found for. -/
def Node.adopt (n : Node) (frameIdx : ℕ) : Node :=
  if 0 < n.unmatchedMetaIdx then { n with unmatchedMetaIdx := 0, frameIdx := frameIdx } else n

def Node.allFilled (n : Node) : Bool := n.superBuf.all fun s => slotFrameIdx s != 0

/-- Put a buffer in its slot; the node is matched when no slot is left empty. -/
def Node.fill (n : Node) (slot : ℕ) (b : BufInfo) : Node :=
  let n := { n with superBuf := n.superBuf.set slot (some b) }
  { n with matched := n.allFilled }

/-- A node leaves the queue and its buffers are returned, its counter going down by one. -/
def releaseNodes (nodes : List Node) (x : Ctx) : Ctx :=
  nodes.foldl
    (fun x n => (x.qbuf n.indexedBufs).setQueue
      { x.ch.queue with size := decU32 x.ch.queue.size }) x

def Ctx.syncAdd (x : Ctx) (c : ChannelId) (frameIdx : ℕ) : Ctx :=
  if x.ch.queue.attr.enableFrameSync then { x with fs := frameSyncAdd frameIdx c x.fs } else x

/-- The expected frame after a match. -/
def Ctx.expectNext (x : Ctx) (b : BufInfo) : Ctx :=
  let q := x.ch.queue
  if x.ch.isFlashBracketingEnabled then
    { x with ch := { x.ch with
        queue := { q with expectedFrameId := q.expectedFrameIdWithoutLed }
        isFlashBracketingEnabled := decide (b.frameIdx < q.expectedFrameIdWithoutLed) } }
  else x.setQueue { q with expectedFrameId := addU32 b.frameIdx q.attr.postFrameSkip }

/-- The release of the unmatched nodes from `last_buf` up to the node at `pos`. -/
def releaseOlder (s : Scan) (x : Ctx) : Ctx :=
  match s.lastBuf with
  | none => x
  | some lastBuf =>
    let que := x.ch.queue.que
    let x := releaseNodes ((que.take s.pos).drop lastBuf) x
    x.setQueue { x.ch.queue with que := que.take lastBuf ++ que.drop s.pos }

/-- The node at `pos` is matched. -/
def superbufMatch (c : ChannelId) (b : BufInfo) (s : Scan) (node : Node) (x : Ctx) : Ctx :=
  let x := x.expectNext b
  let q := x.ch.queue
  let x := x.setQueue
    { q with
      que := q.que.set s.pos { node with expectedFrame := false }
      matchCnt := incU32 q.matchCnt }
  releaseOlder s (x.syncAdd c b.frameIdx)

/-- The branch of `mm_channel_superbuf_comp_and_enqueue` for a node that takes the buffer. -/
def superbufFill (c : ChannelId) (slot : ℕ) (b : BufInfo) (s : Scan) (x : Ctx) : Ctx :=
  match x.ch.queue.que[s.pos]? with
  | none => x
  | some found =>
    let q := x.ch.queue
    let node := found.adopt b.frameIdx
    let x := x.setQueue { q with que := q.que.set s.pos node }
    if node.frameIdxAt slot ≠ 0 then
      -- the frame is already in the queue
      x.qbuf [b.buf]
    else
      let node := node.fill slot b
      if node.matched then superbufMatch c b s node x
      else if x.ch.divertedFrameId = b.frameIdx then
        let q := x.ch.queue
        { x with ch := { x.ch with
            queue := { q with que := q.que.set s.pos { node with expectedFrame := true } }
            divertedFrameId := 0 } }
      else x.setQueue { x.ch.queue with que := x.ch.queue.que.set s.pos node }

/-- The walk of the eviction loop from `last_buf`: the first node that is not expected and is not
the one the new node goes before. -/
def evictFrom (insertBeforeBuf : Option ℕ) : List Node → ℕ → Option ℕ
  | [], _ => none
  | node :: rest, i =>
    if !node.expectedFrame && insertBeforeBuf != some i then some i
    else evictFrom insertBeforeBuf rest (i + 1)

/-- Position `k` once the node at `i` is gone. -/
def shiftPos (i k : ℕ) : ℕ := if i < k then k - 1 else k

/-- Take the node at position `i` out of the queue. -/
def evictAt (i : ℕ) (x : Ctx) : Ctx :=
  let que := x.ch.queue.que
  let x := releaseNodes (que[i]?.toList) x
  x.setQueue { x.ch.queue with que := que.eraseIdx i }

/-- The removal of unmatched nodes before an insertion, with the position it moves
`insert_before_buf` to. The loop frees the node it takes out before it reads the next one from
it, so a second round reads freed memory; when no node of the walk qualifies, the oldest goes. -/
def superbufEvict (s : Scan) (x : Ctx) : Exec (Option ℕ × Ctx) :=
  let max := x.ch.queue.attr.maxUnmatchedFrames
  if max < s.unmatchedBundles then
    match s.lastBuf with
    | none => .ok (s.insertBeforeBuf, x)
    | some lastBuf =>
      match evictFrom s.insertBeforeBuf (x.ch.queue.que.drop lastBuf) lastBuf with
      | some i =>
        if max < s.unmatchedBundles - 1 then .error .useAfterFree
        else .ok (s.insertBeforeBuf.map (shiftPos i), evictAt i x)
      | none => .ok (s.insertBeforeBuf.map (shiftPos lastBuf), evictAt lastBuf x)
  else .ok (s.insertBeforeBuf, x)

/-- The node a buffer is enqueued in when no node takes it. -/
def Ctx.newBuf (x : Ctx) (slot : ℕ) (b : BufInfo) : Node :=
  let q := x.ch.queue
  { superBuf := (List.replicate q.numStreams none).set slot (some b)
    matched := q.numStreams == 1
    expectedFrame := q.numStreams != 1 &&
      (x.ch.divertedFrameId == b.frameIdx || b.frameIdx == q.goodFrameId)
    frameIdx := b.frameIdx
    unmatchedMetaIdx :=
      if q.attr.priority = .low ∧ b.buf.streamType = .metadata then b.frameIdx else 0 }

/-- Insert a node before the one at a position, or at the tail. -/
def insertNode (n : Node) (before : Option ℕ) (que : List Node) : List Node :=
  match before with
  | some k => que.take k ++ n :: que.drop k
  | none => que ++ [n]

/-- The enqueue of a new node. -/
def superbufEnqueue (c : ChannelId) (slot : ℕ) (b : BufInfo) (before : Option ℕ) (x : Ctx) : Ctx :=
  let newBuf := x.newBuf slot b
  let diverted := x.ch.divertedFrameId = b.frameIdx ∨ b.frameIdx = x.ch.queue.goodFrameId
  let x := if diverted then { x with ch := { x.ch with divertedFrameId := 0 } } else x
  let q := x.ch.queue
  let x := x.setQueue
    { q with que := insertNode newBuf before q.que, size := incU32 q.size }
  if newBuf.matched then
    let q := x.ch.queue
    let x := x.setQueue
      { q with
        expectedFrameId := addU32 b.frameIdx q.attr.postFrameSkip
        matchCnt := incU32 q.matchCnt }
    x.syncAdd c b.frameIdx
  else x

/-- The branch of `mm_channel_superbuf_comp_and_enqueue` for a buffer no node takes. -/
def superbufInsert (env : Env) (c : ChannelId) (slot : ℕ) (b : BufInfo) (s : Scan) (x : Ctx) :
    Exec Ctx :=
  if x.ch.queue.attr.maxUnmatchedFrames < s.unmatchedBundles ∧ s.lastBuf = none then
    -- the incoming frame is older than the last bundled one
    .ok (x.qbuf [b.buf])
  else do
    let (before, x) ← superbufEvict s x
    if env.newBuf && env.newNode then .ok (superbufEnqueue c slot b before x)
    else .ok (x.qbuf [b.buf])

/-- The part of `mm_channel_superbuf_comp_and_enqueue` under the lock of the queue. -/
def superbufComp (env : Env) (c : ChannelId) (slot : ℕ) (b : BufInfo) (x : Ctx) : Exec Ctx :=
  let s := x.ch.queue.scan slot b
  if s.foundSuperBuf then .ok (superbufFill c slot b s x)
  else superbufInsert env c slot b s x

end MmCamera
