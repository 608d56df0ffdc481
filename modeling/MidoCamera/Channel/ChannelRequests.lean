import MidoCamera.PostProc.Types
import MidoCamera.Channel.StreamBufs
import MidoCamera.Channel.YuvBypass

/-!
# Requests of the YUV channel and of the picture channel

A request without an input buffer has a buffer queued to the stream: that of the framework, or a heap
buffer, if the frame goes through the post-processor. A request with an input buffer has its buffer
registered and its metadata copied into a metadata buffer, and is passed to the post-processor. On its
way it lists the frame, queues the JPEG settings and takes buffers from the lists of the channel.
-/

namespace ChannelRequest

open StreamBufs (StreamMem Stream Buffer Status FrameLenOffset)
open PostProc (JpegSettings Queue)
open YuvBypass (PpInfo)

/-! ## The channels -/

/-- What the metadata of a request have of the three tags that decide on the post-processing of a
frame: the modes, and the width and the height of the crop region. -/
structure Metadata where
  edgeMode : Option ℕ := none
  noiseReductionMode : Option ℕ := none
  scalerCropRegion : Option (ℤ × ℤ) := none

/-- What a request calls: the initialization of a channel without streams, the registrations of the
output and of the input buffer, the three calls of `bufDone`, the allocation of a heap buffer, and the
memory for the frame, for the settings and for their node in the queue. -/
structure Calls where
  init : Status := .NO_ERROR
  output : StreamMem.Import := .mapped
  map : Bool := true
  unmap : Bool := true
  qbuf : Bool := true
  heap : Option ℤ := some 0
  srcFrame : Bool := true
  input : StreamMem.Import := .mapped
  settings : Bool := true
  node : Bool := true

/-- `QCamera3ProcessingChannel`, with the queue of settings of its post-processor and the frames that
were passed to it. -/
structure ProcessingChannel where
  isActive : Bool := false
  numStreams : ℕ := 1
  numBufs : UInt32
  stream : Stream
  memory : StreamMem
  frameLen : ℕ := 0
  offlineMemory : StreamMem := { maxHeapBuffers := 0 }
  offlineMetaMemory : StreamMem
  freeOfflineMeta : List ℕ
  postProcStarted : Bool := false
  jpegSettingsQ : Queue JpegSettings := {}
  fwkFrames : List UInt32 := []

structure YUVChannel extends ProcessingChannel where
  bypass : Bool
  width : ℤ
  height : ℤ
  edgeMode : ℕ := 0
  noiseRedMode : ℕ := 0
  cropRegion : ℤ × ℤ := (0, 0)
  offlinePpInfoList : List PpInfo := []
  freeHeapBufferList : List ℕ := []

structure PicChannel extends ProcessingChannel where
  yuvMemory : StreamMem
  freeBufferList : List ℕ := []

/-- The slot of an input buffer, which is registered if it is not. -/
def inputIndex (m : StreamMem) (input : Buffer) (import_ : StreamMem.Import) :
    StreamMem × Except Status ℕ :=
  match m.getMatchBufIndex input.handle with
  | some index => (m, .ok index)
  | none =>
    match m.registerBuffer input import_ with
    | (m, .NO_ERROR) =>
      match m.getMatchBufIndex input.handle with
      | some index => (m, .ok index)
      | none => (m, .error .DEAD_OBJECT)
    | (m, rc) => (m, .error rc)

namespace ProcessingChannel

def startPostProc (c : ProcessingChannel) : ProcessingChannel := { c with postProcStarted := true }

/-- The metadata buffer of a frame, in `setFwkInputPPData`: the first free one is marked. The
calculation of its offsets does not fail. -/
def takeMeta (c : ProcessingChannel) (frameNumber : UInt32) (offset : FrameLenOffset) :
    ProcessingChannel × Status :=
  match c.freeOfflineMeta with
  | [] => (c, .BAD_VALUE)
  | metaBufIdx :: rest =>
    ({ c with
       freeOfflineMeta := rest
       offlineMetaMemory := (c.offlineMetaMemory.markFrameNumber metaBufIdx frameNumber).1 },
      ((c.offlineMetaMemory.markFrameNumber metaBufIdx frameNumber).1.getBufDef offset {}
        metaBufIdx).2)

def setFwkInputPPData (c : ProcessingChannel) (input : Buffer) (frameNumber : UInt32)
    (planes metaPlanes : FrameLenOffset) (import_ : StreamMem.Import) :
    ProcessingChannel × Status :=
  match inputIndex c.offlineMemory input import_ with
  | (m, .error rc) => ({ c with offlineMemory := m }, rc)
  | (m, .ok index) =>
    let m := (m.markFrameNumber index frameNumber).1
    match (m.getBufDef planes {} index).2 with
    | .NO_ERROR => { c with offlineMemory := m }.takeMeta frameNumber metaPlanes
    | rc => ({ c with offlineMemory := m }, rc)

/-- A request with an input buffer, from the allocation of its frame on. -/
def requestInput (c : ProcessingChannel) (input : Buffer) (frameNumber : UInt32)
    (planes metaPlanes : FrameLenOffset) (e : Calls) : ProcessingChannel × Status :=
  if e.srcFrame then
    match c.setFwkInputPPData input frameNumber planes metaPlanes e.input with
    | (c, .NO_ERROR) => ({ c with fwkFrames := c.fwkFrames ++ [frameNumber] }, .NO_ERROR)
    | r => r
  else (c, .NO_MEMORY)

/-- `registerBuffer`: the channel is initialized if it has no stream, and a buffer that is registered
is no error. -/
def registerBuffer (c : ProcessingChannel) (b : Buffer) (e : Calls) : ProcessingChannel × Status :=
  if c.memory.heap.bufferCount + c.memory.gralloc.bufferCount > (c.numBufs - 1).toNat then
    (c, .BAD_VALUE)
  else if c.numStreams = 0 ∧ e.init ≠ .NO_ERROR then (c, e.init)
  else
    match c.memory.registerBuffer b e.output with
    | (m, .ALREADY_EXISTS) => ({ c with numStreams := max c.numStreams 1, memory := m }, .NO_ERROR)
    | (m, rc) => ({ c with numStreams := max c.numStreams 1, memory := m }, rc)

def start (c : ProcessingChannel) : ProcessingChannel × Status :=
  if c.numStreams = 0 then (c, .NO_INIT) else ({ c with isActive := true }, .NO_ERROR)

/-- The slot of an output buffer, which is registered if it is not. -/
def outputIndex (c : ProcessingChannel) (b : Buffer) (e : Calls) :
    ProcessingChannel × Except Status ℕ :=
  match c.memory.getMatchBufIndex b.handle with
  | some index => (c, .ok index)
  | none =>
    match c.registerBuffer b e with
    | (c, .NO_ERROR) =>
      match c.memory.getMatchBufIndex b.handle with
      | some index => (c, .ok index)
      | none => (c, .error .DEAD_OBJECT)
    | (c, rc) => (c, .error rc)

/-- A channel that is not active is started, with the buffer registered first. -/
def activate (c : ProcessingChannel) (b : Buffer) (e : Calls) : ProcessingChannel × Status :=
  if c.isActive then (c, .NO_ERROR)
  else
    match c.registerBuffer b e with
    | (c, .NO_ERROR) => c.start
    | r => r

/-- A request without an input buffer: the output buffer is queued to the stream. -/
def requestOutput (c : ProcessingChannel) (b : Buffer) (frameNumber : UInt32) (e : Calls) :
    ProcessingChannel × Status :=
  match c.activate b e with
  | (c, .NO_ERROR) =>
    match c.outputIndex b e with
    | (c, .error rc) => (c, rc)
    | (c, .ok index) =>
      match c.stream.bufDone c.memory index e.map e.unmap e.qbuf with
      | (s, .NO_ERROR) =>
        ({ c with stream := s, memory := (c.memory.markFrameNumber index frameNumber).1 },
          (c.memory.markFrameNumber index frameNumber).2)
      | (s, rc) => ({ c with stream := s }, rc)
  | r => r

def request (c : ProcessingChannel) (buffer : Option Buffer) (frameNumber : UInt32)
    (pInputBuffer : Option Buffer) (planes metaPlanes : FrameLenOffset) (metadata : Option Metadata)
    (e : Calls) : ProcessingChannel × Status :=
  match buffer, metadata with
  | some b, some _ =>
    match pInputBuffer with
    | some input => c.startPostProc.requestInput input frameNumber planes metaPlanes e
    | none => c.requestOutput b frameNumber e
  | _, _ => (c, .BAD_VALUE)

end ProcessingChannel

/-! ## The YUV channel -/

def camEdgeModeOff : ℕ := 0

def camEdgeModeZeroShutterLag : ℕ := 3

def camNoiseReductionModeOff : ℕ := 0

def camNoiseReductionModeMinimal : ℕ := 3

def camNoiseReductionModeZeroShutterLag : ℕ := 4

namespace YUVChannel

/-- The modes of a request stay for those that have none. -/
def readModes (c : YUVChannel) (metadata : Metadata) : YUVChannel :=
  { c with
    edgeMode := metadata.edgeMode.getD c.edgeMode
    noiseRedMode := metadata.noiseReductionMode.getD c.noiseRedMode
    cropRegion := metadata.scalerCropRegion.getD c.cropRegion }

/-- `needsFramePostprocessing`, after the modes have been read. -/
def needsFramePostprocessing (c : YUVChannel) : Bool :=
  (c.edgeMode ≠ camEdgeModeOff && c.edgeMode ≠ camEdgeModeZeroShutterLag) ||
    (c.noiseRedMode ≠ camNoiseReductionModeZeroShutterLag &&
      c.noiseRedMode ≠ camNoiseReductionModeOff && c.noiseRedMode ≠ camNoiseReductionModeMinimal) ||
    c.cropRegion.1 < c.width || c.cropRegion.2 < c.height

/-- The frame is listed. -/
def list (c : YUVChannel) (b : Buffer) (frameNumber : UInt32) (metadata : Metadata) : YUVChannel :=
  { c.readModes metadata with
    offlinePpInfoList := c.offlinePpInfoList ++
      [⟨frameNumber.toNat, (c.readModes metadata).needsFramePostprocessing, b.handle, none⟩] }

/-- A heap buffer: the first free one, or a new one. -/
def takeHeap (c : YUVChannel) (e : Calls) : Option (YUVChannel × ℕ) :=
  match c.freeHeapBufferList with
  | [] =>
    match c.memory.allocateOne c.frameLen e.heap with
    | .error _ => none
    | .ok (memory, bufIdx) => some ({ c with memory := memory }, bufIdx)
  | bufIdx :: rest => some ({ c with freeHeapBufferList := rest }, bufIdx)

/-- The post-processor is started, and a heap buffer is queued to the stream. -/
def queueHeap (c : YUVChannel) (bufIdx : ℕ) (frameNumber : UInt32) (e : Calls) : YUVChannel :=
  { c with
    postProcStarted := true
    memory := (c.memory.markFrameNumber bufIdx frameNumber).1
    stream := (c.stream.bufDone (c.memory.markFrameNumber bufIdx frameNumber).1 bufIdx e.map e.unmap
      e.qbuf).1 }

/-- A frame that goes through the post-processor. -/
def requestOffline (c : YUVChannel) (frameNumber : UInt32) (e : Calls) : YUVChannel × Status :=
  match if c.isActive then (c.toProcessingChannel, .NO_ERROR) else c.start with
  | (p, .NO_ERROR) =>
    match { c with toProcessingChannel := p }.takeHeap e with
    | none => ({ c with toProcessingChannel := p }, .BAD_VALUE)
    | some (c, bufIdx) => (c.queueHeap bufIdx frameNumber e, .NO_ERROR)
  | (p, rc) => ({ c with toProcessingChannel := p }, rc)

/-- A request that goes to the base class. -/
def requestRegular (c : YUVChannel) (b : Buffer) (frameNumber : UInt32)
    (pInputBuffer : Option Buffer) (planes metaPlanes : FrameLenOffset) (metadata : Metadata)
    (e : Calls) : YUVChannel × Status :=
  match c.toProcessingChannel.request (some b) frameNumber pInputBuffer planes metaPlanes
    (some metadata) e with
  | (p, rc) => ({ c with toProcessingChannel := p }, rc)

/-- What `request` returns, and `needMetadata`. -/
structure Result where
  channel : YUVChannel
  needMetadata : Bool
  rc : Status

def Result.of (needMetadata : Bool) (r : YUVChannel × Status) : Result := ⟨r.1, needMetadata, r.2⟩

def request (c : YUVChannel) (buffer : Option Buffer) (frameNumber : UInt32)
    (pInputBuffer : Option Buffer) (planes metaPlanes : FrameLenOffset) (metadata : Option Metadata)
    (e : Calls) : Result :=
  match buffer, metadata with
  | some b, some m =>
    if c.bypass && pInputBuffer.isNone then
      if (c.readModes m).needsFramePostprocessing then
        .of true ((c.list b frameNumber m).requestOffline frameNumber e)
      else
        .of false ((c.list b frameNumber m).requestRegular b frameNumber pInputBuffer planes
          metaPlanes m e)
    else .of false (c.requestRegular b frameNumber pInputBuffer planes metaPlanes m e)
  | _, _ => ⟨c, false, .BAD_VALUE⟩

end YUVChannel

/-! ## The picture channel -/

namespace PicChannel

/-- `queueJpegSetting`: what `enqueue` returns is not below 0. -/
def queueJpegSetting (c : PicChannel) (index : ℕ) (frameNumber : UInt32) (e : Calls) :
    PicChannel × Status :=
  if e.settings then
    ({ c with
       jpegSettingsQ :=
         if e.node then c.jpegSettingsQ.enqueue ⟨index, frameNumber.toNat⟩ else c.jpegSettingsQ },
      .NO_ERROR)
  else (c, .NO_MEMORY)

/-- A heap buffer is queued to the stream. -/
def queueHeap (c : PicChannel) (bufIdx : ℕ) (frameNumber : UInt32) (e : Calls) : PicChannel :=
  { c with
    yuvMemory := (c.yuvMemory.markFrameNumber bufIdx frameNumber).1
    stream := (c.stream.bufDone (c.yuvMemory.markFrameNumber bufIdx frameNumber).1 bufIdx e.map
      e.unmap e.qbuf).1 }

/-- A request without an input buffer, from the settings on. What was returned for these is returned
if a free buffer is taken. -/
def requestFrame (c : PicChannel) (frameNumber : UInt32) (rc : Status) (e : Calls) :
    PicChannel × Status :=
  match c.freeBufferList with
  | [] =>
    match c.yuvMemory.allocateOne c.frameLen e.heap with
    | .error rc => (c, rc)
    | .ok (yuvMemory, bufIdx) =>
      ({ c with yuvMemory := yuvMemory }.queueHeap bufIdx frameNumber e, .NO_ERROR)
  | bufIdx :: rest => ({ c with freeBufferList := rest }.queueHeap bufIdx frameNumber e, rc)

/-- A request whose output buffer has a slot. -/
def requestFrom (c : PicChannel) (index : ℕ) (frameNumber : UInt32) (pInputBuffer : Option Buffer)
    (planes metaPlanes : FrameLenOffset) (e : Calls) : PicChannel × Status :=
  match c.queueJpegSetting index frameNumber e, pInputBuffer with
  | (c, rc), none => c.requestFrame frameNumber rc e
  | (c, _), some input =>
    match c.requestInput input frameNumber planes metaPlanes e with
    | (p, rc) => ({ c with toProcessingChannel := p }, rc)

/-- The output buffer has a slot: it is marked, and the post-processor is started. -/
def mark (p : ProcessingChannel) (index : ℕ) (frameNumber : UInt32) : ProcessingChannel :=
  { p.startPostProc with memory := (p.memory.markFrameNumber index frameNumber).1 }

def request (c : PicChannel) (b : Buffer) (frameNumber : UInt32) (pInputBuffer : Option Buffer)
    (planes metaPlanes : FrameLenOffset) (e : Calls) : PicChannel × Status :=
  if c.isActive then
    match c.outputIndex b e with
    | (p, .error rc) => ({ c with toProcessingChannel := p }, rc)
    | (p, .ok index) =>
      { c with toProcessingChannel := mark p index frameNumber }.requestFrom index frameNumber
        pInputBuffer planes metaPlanes e
  else (c, .NO_INIT)

end PicChannel

end ChannelRequest
