import MidoCamera.Library.Ring
import MidoCamera.Library.Run
import MidoCamera.Library.While

/-!
# The queue

`QCameraQueue` is an intrusive circular list of nodes on the heap around a dummy head, with a
counter and a flag that says whether it takes and gives elements. It is locked for each operation,
so each is one step. The links are written in the order of the source.

Every accepted element is recorded with its turn, and so is where it went; no operation reads the
record.
-/

namespace QCamera

open Loop

/-- `void *`. -/
abbrev Ptr := Option ℕ

/-- Where a `struct cam_list` is: in `m_head`, or in a node on the heap. -/
inductive Cell
  | mHead
  | node (n : ℕ)
  deriving DecidableEq, Repr

theorem Cell.node_ne_mHead (n : ℕ) : Cell.node n ≠ .mHead := nofun

/-- `struct cam_list`, at every place where there is one. -/
abbrev CamList := Links Cell

def camListInit (l : CamList) (ptr : Cell) : CamList :=
  let l := l.setNext ptr ptr
  l.setPrev ptr ptr

def camListAddTailNode (l : CamList) (item head : Cell) : CamList :=
  let prev := l.prev head
  let l := l.setPrev head item
  let l := l.setNext item head
  let l := l.setPrev item prev
  l.setNext prev item

def camListInsertBeforeNode (l : CamList) (item node : Cell) : CamList :=
  let l := l.setNext item node
  let l := l.setPrev item (l.prev node)
  let l := l.setNext (l.prev item) item
  l.setPrev node item

def camListDelNode (l : CamList) (ptr : Cell) : CamList :=
  let prev := l.prev ptr
  let next := l.next ptr
  let l := l.setPrev next (l.prev ptr)
  let l := l.setNext prev (l.next ptr)
  let l := l.setNext ptr ptr
  l.setPrev ptr ptr

/-- The node is linked in after the head, as `enqueueWithPriority` does it. -/
def camListAddHeadNode (l : CamList) (item head : Cell) : CamList :=
  let pNext := l.next head
  let l := l.setNext head item
  let l := l.setPrev pNext item
  let l := l.setNext item pNext
  l.setPrev item head

section

variable {l : CamList} {item head node : Cell}

theorem camListDelNode_eq (l : CamList) (ptr : Cell) : camListDelNode l ptr = l.remove ptr := rfl

theorem camListAddTailNode_eq (hne : item ≠ head) :
    camListAddTailNode l item head = l.insert item (l.prev head) head := by
  show Links.mk _ _ = Links.mk _ _
  congr 1
  exact Function.update_comm hne.symm _ _ _

theorem camListInsertBeforeNode_eq :
    camListInsertBeforeNode l item node = l.insert item (l.prev node) node := by
  simp [camListInsertBeforeNode, Links.insert, Links.setNext, Links.setPrev]

theorem camListAddHeadNode_eq (hne : item ≠ head) (hnext : item ≠ l.next head) :
    camListAddHeadNode l item head = l.insert item head (l.next head) := by
  show Links.mk _ _ = Links.mk _ _
  congr 1
  · exact Function.update_comm hne.symm _ _ _
  · exact Function.update_comm hnext.symm _ _ _

end

/-- What an accepted call has put into the queue: its data, and the turn of the call, which tells it
from other elements of the same data. -/
structure Elem where
  turn : ℕ
  data : Ptr
  deriving DecidableEq, Repr

def Elem.hasData (e : Elem) : Bool := e.data.isSome

/-- The elements that have been accepted and dequeued, those that have been flushed, and those whose
data has then been passed to the release function, and to `free`. -/
structure Log where
  accepted : List Elem
  dequeued : List Elem
  flushed : List Elem
  released : List Elem
  freed : List Elem
  deriving DecidableEq, Repr

/-- `QCameraQueue`, with the data and the `malloc` state of the nodes, and the record. Of the
function that releases data, the queue knows whether there is one. -/
structure QCameraQueue where
  list : CamList
  data : ℕ → Elem
  allocated : ℕ → Bool
  mSize : ℤ
  mActive : Bool
  mDataFn : Bool
  mUserData : Ptr
  log : Log

namespace QCameraQueue

/-- The constructors of `QCameraQueue`. The default one is without a release function. -/
def new (dataRelFn : Bool) (userData : Ptr) : QCameraQueue where
  list := camListInit ⟨id, id⟩ .mHead
  data _ := ⟨0, none⟩
  allocated _ := false
  mSize := 0
  mActive := true
  mDataFn := dataRelFn
  mUserData := userData
  log := ⟨[], [], [], [], []⟩

/-- `malloc` of a node, whose links are written before they are read, and `node->data = data`. -/
def alloc (q : QCameraQueue) (n : ℕ) (data : Ptr) : QCameraQueue :=
  { q with
    data := Function.update q.data n ⟨q.log.accepted.length, data⟩
    allocated := Function.update q.allocated n true }

/-- `free(node)`. -/
def free (q : QCameraQueue) (n : ℕ) : QCameraQueue :=
  { q with allocated := Function.update q.allocated n false }

/-- `cam_list_del_node(&node->list); m_size--`. -/
def unlink (q : QCameraQueue) (n : ℕ) : QCameraQueue :=
  { q with list := camListDelNode q.list (.node n), mSize := q.mSize - 1 }

def accept (q : QCameraQueue) (n : ℕ) : QCameraQueue :=
  { q with log := { q.log with accepted := q.log.accepted ++ [q.data n] } }

def init (q : QCameraQueue) : QCameraQueue := { q with mActive := true }

def isEmpty (q : QCameraQueue) : Bool := if 0 < q.mSize then false else true

def getCurrentSize (q : QCameraQueue) : ℤ := q.mSize

/-- The two ways to enqueue, which differ in how they link in the node. -/
def enqueueBy (add : CamList → Cell → Cell → CamList) (q : QCameraQueue) (malloc : Option ℕ)
    (data : Ptr) : Bool × QCameraQueue :=
  match malloc with
  | none => (false, q)
  | some n =>
    let q := q.alloc n data
    if q.mActive then
      (true, { q with list := add q.list (.node n) .mHead, mSize := q.mSize + 1 }.accept n)
    else (false, q.free n)

def enqueue : QCameraQueue → Option ℕ → Ptr → Bool × QCameraQueue := enqueueBy camListAddTailNode

def enqueueWithPriority : QCameraQueue → Option ℕ → Ptr → Bool × QCameraQueue :=
  enqueueBy camListAddHeadNode

def peek (q : QCameraQueue) : Ptr :=
  if q.mActive then
    match q.list.next .mHead with
    | .mHead => none
    | .node n => (q.data n).data
  else none

/-- A node is taken out, and its data given to the caller. -/
def take (q : QCameraQueue) (n : ℕ) : Ptr × QCameraQueue :=
  let q := q.unlink n
  ((q.data n).data,
    { q.free n with log := { q.log with dequeued := q.log.dequeued ++ [q.data n] } })

/-- `dequeue(bFromHead)`. -/
def dequeue (q : QCameraQueue) (bFromHead : Bool) : Ptr × QCameraQueue :=
  if q.mActive then
    match if bFromHead then q.list.next .mHead else q.list.prev .mHead with
    | .mHead => (none, q)
    | .node n => q.take n
  else (none, q)

/-- A round of the loop that looks for a node: it stops at the first that matches. -/
def searchRound (q : QCameraQueue) (mtch : Ptr → Bool) : Cell × Option ℕ → Cell × Option ℕ
  | (.mHead, found) => (.mHead, found)
  | (.node n, _) =>
    (q.list.next (.node n), if mtch (q.data n).data then some n else none)

def searchGuard : Cell × Option ℕ → Bool
  | (pos, found) => pos ≠ .mHead && found.isNone

/-- `dequeue(match, match_data)`, for as many rounds as there are nodes. -/
def dequeueMatch (q : QCameraQueue) (mtch : Option (Ptr → Ptr → Ptr → Bool)) (matchData : Ptr) :
    Option (Ptr × QCameraQueue) :=
  match mtch, matchData with
  | none, _ => some (none, q)
  | some _, none => some (none, q)
  | some mtch, some d =>
    if q.mActive then do
      let (_, found) ← whileLoop searchGuard
        (q.searchRound fun data => mtch data q.mUserData (some d)) q.mSize.toNat
        (q.list.next .mHead, none)
      match found with
      | some n => some (q.take n)
      | none => some (none, q)
    else some (none, q)

/-- What the three ways to flush do with a node: it is taken out, and its data released, if there is
any, and freed. -/
def discard (q : QCameraQueue) (n : ℕ) : QCameraQueue :=
  let q := q.unlink n
  let e := q.data n
  let log := { q.log with flushed := q.log.flushed ++ [e] }
  let log :=
    if e.hasData then
      let log := if q.mDataFn then { log with released := log.released ++ [e] } else log
      { log with freed := log.freed ++ [e] }
    else log
  { q.free n with log := log }

/-- A round of the loop of the three ways to flush. -/
def flushRound (mtch : Ptr → Bool) : Cell × QCameraQueue → Cell × QCameraQueue
  | (.mHead, q) => (.mHead, q)
  | (.node n, q) =>
    let pos := q.list.next (.node n)
    (pos, if mtch (q.data n).data then q.discard n else q)

/-- The loop of the three ways to flush, for as many rounds as there are nodes. -/
def flushLoop (q : QCameraQueue) (mtch : Ptr → Bool) : Option QCameraQueue := do
  let (_, q) ← whileLoop (fun s => s.1 ≠ .mHead) (flushRound mtch) q.mSize.toNat
    (q.list.next .mHead, q)
  return q

def flush (q : QCameraQueue) : Option QCameraQueue :=
  if q.mActive then do
    let q ← q.flushLoop fun _ => true
    return { q with mSize := 0, mActive := false }
  else some q

/-- `flushNodes(match)`. -/
def flushNodes (q : QCameraQueue) (mtch : Option (Ptr → Ptr → Bool)) : Option QCameraQueue :=
  match mtch with
  | none => some q
  | some mtch =>
    if q.mActive then q.flushLoop fun data => mtch data q.mUserData else some q

/-- `flushNodes(match, match_data)`. -/
def flushNodesMatch (q : QCameraQueue) (mtch : Option (Ptr → Ptr → Ptr → Bool))
    (matchData : Ptr) : Option QCameraQueue :=
  match mtch with
  | none => some q
  | some mtch =>
    if q.mActive then q.flushLoop fun data => mtch data q.mUserData matchData else some q

end QCameraQueue

/-- The operations, with the node that `malloc` returns, if it does. -/
inductive QueueOp
  | init
  | isEmpty
  | getCurrentSize
  | enqueue (malloc : Option ℕ) (data : Ptr)
  | enqueueWithPriority (malloc : Option ℕ) (data : Ptr)
  | peek
  | dequeue (bFromHead : Bool)
  | dequeueMatch (mtch : Option (Ptr → Ptr → Ptr → Bool)) (matchData : Ptr)
  | flush
  | flushNodes (mtch : Option (Ptr → Ptr → Bool))
  | flushNodesMatch (mtch : Option (Ptr → Ptr → Ptr → Bool)) (matchData : Ptr)

/-- What an operation returns. -/
inductive Ret
  | void
  | bool (b : Bool)
  | int (n : ℤ)
  | ptr (p : Ptr)
  deriving DecidableEq, Repr

/-- An operation, and what it returns. -/
structure Call where
  op : QueueOp
  ret : Ret

/-- **An operation on the queue.** It is undefined if a loop does not come to its end. -/
def QCameraQueue.exec (q : QCameraQueue) : QueueOp → Option (Ret × QCameraQueue)
  | .init => some (.void, q.init)
  | .isEmpty => some (.bool q.isEmpty, q)
  | .getCurrentSize => some (.int q.getCurrentSize, q)
  | .enqueue malloc data => some ((q.enqueue malloc data).map .bool id)
  | .enqueueWithPriority malloc data => some ((q.enqueueWithPriority malloc data).map .bool id)
  | .peek => some (.ptr q.peek, q)
  | .dequeue bFromHead => some ((q.dequeue bFromHead).map .ptr id)
  | .dequeueMatch mtch matchData => (q.dequeueMatch mtch matchData).map (·.map .ptr id)
  | .flush => q.flush.map (.void, ·)
  | .flushNodes mtch => (q.flushNodes mtch).map (.void, ·)
  | .flushNodesMatch mtch matchData => (q.flushNodesMatch mtch matchData).map (.void, ·)

/-- `malloc` returns no node that has been allocated and not been freed. -/
def QueueOp.MallocFresh (q : QCameraQueue) : QueueOp → Prop
  | .enqueue (some n) _ | .enqueueWithPriority (some n) _ => q.allocated n = false
  | _ => True

def QueueStep (c : Call) (q q' : QCameraQueue) : Prop :=
  c.op.MallocFresh q ∧ q.exec c.op = some (c.ret, q')

end QCamera
