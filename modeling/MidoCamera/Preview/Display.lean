import MidoCamera.Library.Run
import Mathlib.Data.List.Range
import Mathlib.Logic.Embedding.Basic

/-!
# Preview frames and the display

The window allocates the preview buffers. The first of them are taken from it and mapped when the
stream is allocated; some of these go back at once, and the others are given to the driver. A frame
is sent to the display, by `synchronous_stream_cb_routine` or by `preview_stream_cb_routine`, which
then takes buffers back from it and gives them to the driver; a new buffer is mapped first.

The thread of the driver runs the synchronous callback, the thread of the stream the other one. Each
step is what a thread does between two looks at what the other writes.
-/

namespace Hal1Preview

open Loop

def CAMERA_INITIAL_MAPPABLE_PREVIEW_BUFFERS : ℕ := 5

/-- The thread of the driver: it waits; a frame has come; it has been sent to the display, and is to
be counted; the frame is to be queued for the thread of the stream. -/
inductive SyncPc
  | idle
  | entered (b : ℕ)
  | counting (b : ℕ)
  | notifying (b : ℕ)
  deriving DecidableEq, Repr

def SyncPc.frames : SyncPc → List ℕ
  | .idle => []
  | .entered b | .counting b | .notifying b => [b]

/-- The thread of the stream: it waits; it is to read how many buffers to take back, after counting
one more if `more`; it is to take back `left`, and the last call has failed or not. -/
inductive PreviewPc
  | idle
  | counting (more : Bool)
  | dequeuing (left : ℕ) (err : Bool)
  deriving DecidableEq, Repr

def PreviewPc.loop (left : ℕ) (err : Bool) : PreviewPc :=
  if left = 0 then .idle else .dequeuing left err

/-- The preview stream. A buffer is known by its index, and to the window by its handle. -/
structure Preview where
  isSyncCBEnabled : Bool
  mBufferCount : ℕ
  mMappableBuffers : ℕ
  mBufferHandle : ℕ → Option ℕ
  /-- `mLocalFlag` is `BUFFER_OWNED`. -/
  mLocalFlag : ℕ → Bool
  /-- `mBufferStatus` is `STATUS_SKIPPED`. -/
  mBufferStatus : ℕ → Bool := fun _ => false
  mEnqueuedBuffers : ℕ
  /-- The buffers that are queued to the driver. -/
  driver : List ℕ
  /-- The buffers that the window has. -/
  display : List ℕ
  /-- The frames that wait for the thread of the stream. -/
  dataQ : List ℕ := []
  sync : SyncPc := .idle
  pc : PreviewPc := .idle
  /-- How many buffers have been enqueued to the display, and dequeued from it. -/
  enqueued : ℕ := 0
  dequeued : ℕ := 0
  /-- The buffers that `mapNewBuffer` or `bufDone` has failed for. -/
  failed : List ℕ := []

/-- The stream has been allocated and started: `handle` numbers the buffers of the window, of which
the first `mMinUndequeuedBuffers` have been cancelled. -/
def Preview.start (isSyncCBEnabled : Bool) (count : Fin 256) (minUndequeued : ℕ) (handle : ℕ ↪ ℕ) :
    Preview :=
  let mappable := min count.val CAMERA_INITIAL_MAPPABLE_PREVIEW_BUFFERS
  { isSyncCBEnabled
    mBufferCount := count.val
    mMappableBuffers := mappable
    mBufferHandle := fun i => if i < mappable then some (handle i) else none
    mLocalFlag := fun i => minUndequeued ≤ i ∧ i < mappable
    mEnqueuedBuffers := count.val - CAMERA_INITIAL_MAPPABLE_PREVIEW_BUFFERS
    driver := (List.range mappable).filter fun i => minUndequeued ≤ i
    display := ((List.range count.val).filter fun i => !(minUndequeued ≤ i && i < mappable)).map handle }

/-- What the calls of one pass of the loop return: the buffer that the window gives, whether ION
takes a new one, and whether `mapNewBuffer` and `bufDone` succeed. -/
structure Outcome where
  window : Option ℕ
  ion : Bool := true
  mapped : Bool := true
  queued : Bool := true
  deriving DecidableEq, Repr

namespace Preview

variable (s : Preview)

/-- `QCameraGrallocMemory::enqueueBuffer`; `ok` is what `enqueue_buffer` returns. -/
def enqueueBuffer (index : ℕ) (ok : Bool) : Bool × Preview :=
  if s.mLocalFlag index && ok then
    (true, { s with
      mLocalFlag := Function.update s.mLocalFlag index false
      display := s.display ++ (s.mBufferHandle index).toList
      enqueued := s.enqueued + 1 })
  else (false, s)

/-- `QCameraGrallocMemory::dequeueBuffer`: a buffer that is known is found by its handle, and one
that is not is put into the next place of the table, where there is one. -/
def dequeueBuffer (window : Option ℕ) (ion : Bool) : Option ℕ × Preview :=
  match window with
  | none => (none, s)
  | some h =>
    let s := { s with display := s.display.erase h, dequeued := s.dequeued + 1 }
    match (List.range s.mMappableBuffers).find? fun i => s.mBufferHandle i == some h with
    | some i => (some i, { s with mLocalFlag := Function.update s.mLocalFlag i true })
    | none =>
      if s.mMappableBuffers < s.mBufferCount then
        let i := s.mMappableBuffers
        let s := { s with
          mBufferHandle := Function.update s.mBufferHandle i (some h)
          mLocalFlag := Function.update s.mLocalFlag i true }
        if ion then (some i, { s with mMappableBuffers := s.mMappableBuffers + 1 }) else (none, s)
      else (none, s)

def bufDone (index : ℕ) (ok : Bool) : Preview :=
  if ok then { s with driver := s.driver ++ [index] } else { s with failed := s.failed ++ [index] }

def setBufferStatus (index : ℕ) (skipped : Bool) : Preview :=
  if s.mBufferCount ≤ index then s
  else { s with mBufferStatus := Function.update s.mBufferStatus index skipped }

/-- `mEnqueuedBuffers` is a `uint8_t`. -/
def countEnqueued : Preview := { s with mEnqueuedBuffers := (s.mEnqueuedBuffers + 1) % 256 }

def countDequeued : Preview := { s with mEnqueuedBuffers := (s.mEnqueuedBuffers + 255) % 256 }

/-! ## The callbacks -/

/-- `synchronous_stream_cb_routine`: the frame is skipped, or sent to the display. -/
def synchronousStreamCb (b : ℕ) (needProcess enqueue : Bool) : Preview :=
  if needProcess then
    let (ok, s) := s.enqueueBuffer b enqueue
    { s with sync := if ok then .counting b else .notifying b }
  else { s.setBufferStatus b true with sync := .notifying b }

/-- `preview_stream_cb_routine`, up to where buffers are taken back: the frame is discarded, or it
is sent to the display, unless the other callback did so. -/
def previewStreamCb (b : ℕ) (needProcess enqueue queued : Bool) : Preview :=
  if s.isSyncCBEnabled then
    if s.mBufferStatus b then
      { (s.setBufferStatus b false).bufDone b queued with pc := .counting false }
    else { s with pc := .counting false }
  else if needProcess then
    let (ok, s) := s.enqueueBuffer b enqueue
    { s with pc := if ok then .counting true else .idle }
  else { s.bufDone b queued with pc := .counting false }

/-- One pass of the loop. The error of the calls before is looked at too. -/
def takeBack (left : ℕ) (err : Bool) (o : Outcome) : Preview :=
  let numMapped := s.mMappableBuffers
  match s.dequeueBuffer o.window o.ion with
  | (none, s) => { s with pc := .idle }
  | (some i, s) =>
    if s.mBufferCount ≤ i then { s with pc := .idle }
    else
      let s := s.countDequeued
      let err := if numMapped ≤ i then !o.mapped else err
      if err then
        -- the buffer is not given to the driver, whatever the error was about
        { s with
          failed := if numMapped ≤ i then s.failed ++ [i] else s.failed
          pc := .loop (left - 1) true }
      else { s.bufDone i o.queued with pc := .loop (left - 1) (!o.queued) }

end Preview

/-- The driver fills a buffer; the synchronous callback runs, and counts; the frame is queued; the
other callback starts, counts, and takes a buffer back. -/
inductive Op
  | frame (b : ℕ)
  | synchronous (needProcess enqueue : Bool)
  | synchronousCount
  | notify
  | preview (needProcess enqueue queued : Bool)
  | previewCount
  | takeBack (o : Outcome)
  deriving DecidableEq, Repr

def Op.exec (s : Preview) : Op → Option Preview
  | .frame b =>
    if b ∈ s.driver ∧ s.sync = .idle then
      some { s with
        driver := s.driver.erase b
        sync := if s.isSyncCBEnabled then .entered b else .notifying b }
    else none
  | .synchronous needProcess enqueue =>
    match s.sync with
    | .entered b => some (s.synchronousStreamCb b needProcess enqueue)
    | _ => none
  | .synchronousCount =>
    match s.sync with
    | .counting b => some { s.countEnqueued with sync := .notifying b }
    | _ => none
  | .notify =>
    match s.sync with
    | .notifying b => some { s with sync := .idle, dataQ := s.dataQ ++ [b] }
    | _ => none
  | .preview needProcess enqueue queued =>
    match s.pc, s.dataQ with
    | .idle, b :: rest => some ({ s with dataQ := rest }.previewStreamCb b needProcess enqueue queued)
    | _, _ => none
  | .previewCount =>
    match s.pc with
    | .counting more =>
      let s := if more then s.countEnqueued else s
      some { s with pc := .loop s.mEnqueuedBuffers false }
    | _ => none
  | .takeBack o =>
    match s.pc with
    | .dequeuing left err =>
      if ∀ h ∈ o.window, h ∈ s.display then some (s.takeBack left err o) else none
    | _ => none

/-- **The step loses no buffer**: `enqueue_buffer` succeeds; ION takes a new buffer; and after an
error of a call before, no buffer is taken back that is mapped already. -/
def Op.Clean (s : Preview) : Op → Prop
  | .synchronous needProcess enqueue => needProcess → enqueue
  | .preview needProcess enqueue _ => needProcess → ¬ s.isSyncCBEnabled → enqueue
  | .takeBack o => o.ion ∧ ∀ left, s.pc = .dequeuing left true →
      ∀ h ∈ o.window, ∀ i < s.mMappableBuffers, s.mBufferHandle i ≠ some h
  | _ => True

end Hal1Preview
