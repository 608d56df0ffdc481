import MidoCamera.Library.Run
import Mathlib.Data.List.Range

/-!
# The bypass mode of the YUV channel

A channel that bypasses the post-processor for most frames lists its requests in order. A request
that needs offline post-processing is filled into a heap buffer, which goes through the
post-processor; any other is filled into the buffer of the framework, and must not be returned
before the requests ahead of it: until then its frame is cached in its entry. The stream thread and
the reprocess thread both take entries off the head of the list while they hold the lock, and
return the buffers when they have dropped it.
-/

namespace YuvBypass

/-- The conversion of a frame number to the signed number a buffer is marked with, and back. -/
def int32 (n : ℕ) : ℤ := if n < 2 ^ 31 then n else n - 2 ^ 32

def uint32 (z : ℤ) : ℕ := (z % 2 ^ 32).toNat

/-- An entry of the list of requests. The cached frame is known by the index of its buffer. -/
structure PpInfo where
  frameNumber : ℕ
  offlinePpFlag : Bool
  output : ℕ
  callbackBuffer : Option ℕ := none
  deriving DecidableEq, Repr

/-- The branches that log an error, and the two that take a result for one of an input reprocess. -/
inductive Error
  | isReprocess
  | alreadyCached
  | badFrameNumber
  | inputReprocess
  | isReprocessing
  | notHead
  | noBufferIndex
  | notOffline
  deriving DecidableEq, Repr

/-- Where the stream thread is: it has a frame to return, or looks for a cached one. -/
inductive StreamThread
  | idle
  | deliver (index : ℕ)
  | next
  deriving DecidableEq, Repr

def StreamThread.indices : StreamThread → List ℕ
  | .deliver i => [i]
  | _ => []

/-- What the reprocess thread has to return: the result itself, or a frame that was cached. -/
inductive Delivery
  | result (frameNumber output : ℕ)
  | cached (index : ℕ)
  deriving DecidableEq, Repr

def Delivery.indices : Delivery → List ℕ
  | .cached i => [i]
  | .result _ _ => []

/-- The channel. Buffers are known by their index: those of the heap are below `maxHeapBuffers`, and
a buffer of the framework has the index it is registered at. `streamQ` lists the buffers that are
with the stream, `ppQ` the frames and outputs that are with the post-processor, and the last three
fields what has been requested and returned, as frame numbers and outputs, and the errors met. -/
structure YuvChannel where
  maxHeapBuffers : ℕ
  lastFrameNumber : Option ℕ := none
  offlinePpInfoList : List PpInfo := []
  freeHeapBufferList : List ℕ := []
  heapCount : ℕ := 0
  frameNumbers : ℕ → ℤ := fun _ => -1
  handles : ℕ → ℕ := fun _ => 0
  streamQ : List ℕ := []
  ppQ : List (ℕ × ℕ) := []
  streamTh : StreamThread := .idle
  reprocTh : List Delivery := []
  requested : List (ℕ × ℕ) := []
  delivered : List (ℕ × ℕ) := []
  errors : List Error := []

namespace YuvChannel

/-- `getHeapBufferIndex`: the first heap buffer marked with a frame number. -/
def getHeapBufferIndex (s : YuvChannel) (frameNumber : ℕ) : Option ℕ :=
  (List.range s.heapCount).find? fun i => s.frameNumbers i = int32 frameNumber

def cachedIndices (s : YuvChannel) : List ℕ :=
  s.offlinePpInfoList.filterMap PpInfo.callbackBuffer

def handIndices (s : YuvChannel) : List ℕ :=
  s.streamTh.indices ++ s.reprocTh.flatMap Delivery.indices

/-- The buffers of the framework that have not been returned are out. -/
def outstanding (s : YuvChannel) : List ℕ := s.streamQ ++ s.cachedIndices ++ s.handIndices

/-- `request` in bypass mode, without an input buffer: `slot` is where the output is registered. -/
def request (s : YuvChannel) (frameNumber : ℕ) (offline : Bool) (output slot : ℕ) :
    Option YuvChannel :=
  let t : YuvChannel := { s with
    lastFrameNumber := some frameNumber
    offlinePpInfoList := s.offlinePpInfoList ++ [⟨frameNumber, offline, output, none⟩]
    requested := s.requested ++ [(frameNumber, output)] }
  if offline then
    match s.freeHeapBufferList with
    | bufIdx :: free =>
      some { t with
        freeHeapBufferList := free
        frameNumbers := Function.update s.frameNumbers bufIdx (int32 frameNumber)
        streamQ := s.streamQ ++ [bufIdx] }
    | [] =>
      if s.heapCount < s.maxHeapBuffers then
        some { t with
          heapCount := s.heapCount + 1
          frameNumbers := Function.update s.frameNumbers s.heapCount (int32 frameNumber)
          streamQ := s.streamQ ++ [s.heapCount] }
      else none
  else
    some { t with
      handles := Function.update s.handles slot output
      frameNumbers := Function.update s.frameNumbers slot (int32 frameNumber)
      streamQ := s.streamQ ++ [slot] }

/-- The entries before the one of a frame number, and from it on. -/
def find (s : YuvChannel) (n : ℕ) : List PpInfo × List PpInfo :=
  (s.offlinePpInfoList.takeWhile (·.frameNumber ≠ n),
    s.offlinePpInfoList.dropWhile (·.frameNumber ≠ n))

/-- `streamCbRoutine` under the lock, for the first frame of the stream: it is handed to the
post-processor, cached, or taken off the list. Without memory for the frame its buffer goes back to
the stream. -/
def streamCb (s : YuvChannel) (alloc : Bool) : YuvChannel :=
  match s.streamQ with
  | [] => s
  | index :: rest =>
    let n := uint32 (s.frameNumbers index)
    match s.find n with
    | (_, []) =>
      { s with streamQ := rest ++ [index], errors := s.errors ++ [.isReprocess] }
    | (before, e :: after) =>
      if e.offlinePpFlag then
        if alloc then { s with streamQ := rest, ppQ := s.ppQ ++ [(n, e.output)] }
        else { s with streamQ := rest ++ [index] }
      else if before ≠ [] then
        { s with
          streamQ := rest
          offlinePpInfoList := before ++ { e with callbackBuffer := some index } :: after
          errors := if e.callbackBuffer = none then s.errors else s.errors ++ [.alreadyCached] }
      else { s with streamQ := rest, offlinePpInfoList := after, streamTh := .deliver index }

/-- `QCamera3ProcessingChannel::streamCbRoutine`: the buffer of a frame is returned. -/
def returnFrame (s : YuvChannel) (index : ℕ) : YuvChannel :=
  if 0 ≤ s.frameNumbers index then
    { s with delivered := s.delivered ++ [(uint32 (s.frameNumbers index), s.handles index)] }
  else { s with errors := s.errors ++ [.badFrameNumber] }

def deliverStream (s : YuvChannel) : YuvChannel :=
  match s.streamTh with
  | .deliver index => { s.returnFrame index with streamTh := .next }
  | _ => s

/-- `getNextPendingCbBuffer`, as the stream thread calls it, without the lock. -/
def nextStream (s : YuvChannel) : YuvChannel :=
  match s.offlinePpInfoList with
  | e :: l =>
    match e.callbackBuffer with
    | some index => { s with offlinePpInfoList := l, streamTh := .deliver index }
    | none => { s with streamTh := .idle }
  | [] => { s with streamTh := .idle }

/-- `getNextPendingCbBuffer`, until there is none: the indices cached at the head, and the entries
left. -/
def drain : List PpInfo → List ℕ × List PpInfo
  | [] => ([], [])
  | e :: l =>
    match e.callbackBuffer with
    | some index => (index :: (drain l).1, (drain l).2)
    | none => ([], e :: l)

/-- `handleOfflinePpCallback`, under the lock: whether the result is to be returned, and the cached
frames that are to be returned after it. -/
def handleOfflinePpCallback (s : YuvChannel) (n : ℕ) : YuvChannel × Option (List ℕ) :=
  match s.find n with
  | (_, []) => ({ s with errors := s.errors ++ [.isReprocessing] }, some [])
  | (_ :: _, _ :: _) => ({ s with errors := s.errors ++ [.notHead] }, none)
  | ([], e :: after) =>
    if e.offlinePpFlag then
      match s.getHeapBufferIndex n with
      | none => ({ s with errors := s.errors ++ [.noBufferIndex] }, none)
      | some b =>
        ({ s with
            freeHeapBufferList := s.freeHeapBufferList ++ [b]
            frameNumbers := Function.update s.frameNumbers b (-1)
            offlinePpInfoList := (drain after).2 }, some (drain after).1)
    else ({ s with errors := s.errors ++ [.notOffline] }, none)

/-- `reprocessCbRoutine`, up to the callbacks, for the first frame of the post-processor. -/
def reprocessCb (s : YuvChannel) : YuvChannel :=
  match s.ppQ with
  | [] => s
  | (n, output) :: rest =>
    let s : YuvChannel := { s with
      ppQ := rest
      errors := if s.getHeapBufferIndex n = none then s.errors ++ [.inputReprocess] else s.errors }
    match s.handleOfflinePpCallback n with
    | (t, some pendingCbs) => { t with reprocTh := .result n output :: pendingCbs.map .cached }
    | (t, none) => t

/-- The reprocess thread returns what it has, one after the other. -/
def deliverReprocess (s : YuvChannel) : YuvChannel :=
  match s.reprocTh with
  | [] => s
  | .result n output :: rest =>
    { s with delivered := s.delivered ++ [(n, output)], reprocTh := rest }
  | .cached index :: rest => { s.returnFrame index with reprocTh := rest }

end YuvChannel

/-- What happens to the channel. -/
inductive Op
  | request (frameNumber : ℕ) (offline : Bool) (output slot : ℕ)
  | streamCb (alloc : Bool)
  | deliverStream
  | nextStream
  | reprocessCb
  | deliverReprocess
  deriving DecidableEq, Repr

/-- Requests come with increasing frame numbers, and with buffers that are not out; a thread starts
on the next frame when it is done with the one before. -/
def Op.exec (op : Op) (s : YuvChannel) : Option YuvChannel :=
  match op with
  | .request n offline output slot =>
    if n < 2 ^ 32 ∧ (∀ m ∈ s.lastFrameNumber, m < n) ∧ s.maxHeapBuffers ≤ slot ∧
        slot ∉ s.outstanding then
      s.request n offline output slot
    else none
  | .streamCb alloc =>
    if s.streamTh = .idle ∧ s.streamQ ≠ [] then some (s.streamCb alloc) else none
  | .deliverStream => if s.streamTh.indices ≠ [] then some s.deliverStream else none
  | .nextStream => if s.streamTh = .next then some s.nextStream else none
  | .reprocessCb => if s.reprocTh = [] ∧ s.ppQ ≠ [] then some s.reprocessCb else none
  | .deliverReprocess => if s.reprocTh ≠ [] then some s.deliverReprocess else none

/-- A channel with room for so many heap buffers, when it is created. -/
def created (maxHeapBuffers : ℕ) : YuvChannel := { maxHeapBuffers }

end YuvBypass
