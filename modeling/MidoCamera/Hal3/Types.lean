import MidoCamera.Stack.Types

/-!
# The data of the HAL3 interface

The records of `QCamera3HWI.h` with which `QCamera3HardwareInterface` keeps account of the
requests of the framework. A `camera3_stream_t` pointer is a `Stream`, and what it points to is
looked up in the streams that are configured; a buffer handle is the address it is told apart by.
-/

namespace Hal3

/-! ## Status codes -/

abbrev noError : ℤ := 0

/-- `BAD_VALUE`, which is `-EINVAL`. -/
abbrev badValue : ℤ := -22

abbrev nameNotFound : ℤ := -2

/-- `-ENODEV`. -/
abbrev noDevice : ℤ := -19

abbrev maxNumStreams : ℕ := 8

abbrev partialResultCount : ℕ := 2

/-! ## Streams and buffers -/

/-- A pointer to a `camera3_stream_t`. -/
abbrev Stream := ℕ

/-- The formats that `processCaptureRequest` tells apart. -/
inductive Format
  | blob | ycbcr420 | other
  deriving DecidableEq, Repr

/-- What is read of a channel: its stream's identity, and whether its type mask is that of a video
stream. -/
structure Channel where
  streamId : ℕ
  isVideo : Bool
  deriving DecidableEq, Repr

/-- What is read of a `camera3_stream_t`; `priv` is its channel, `none` for a null pointer. -/
structure StreamInfo where
  format : Format
  priv : Option Channel
  deriving DecidableEq, Repr

abbrev Streams := Stream → StreamInfo

/-- `channel->getStreamID(channel->getStreamTypeMask())`. -/
def Streams.streamId (streams : Streams) (s : Stream) : ℕ :=
  (streams s).priv.elim 0 Channel.streamId

/-- `(1U << CAM_STREAM_TYPE_VIDEO) == channel->getStreamTypeMask()`. -/
def Streams.isVideo (streams : Streams) (s : Stream) : Bool :=
  (streams s).priv.elim false Channel.isVideo

/-- `camera3_buffer_status_t`. -/
inductive BufferStatus
  | ok | error
  deriving DecidableEq, Repr

/-- `camera3_stream_buffer_t`: the handle and what it points to, zero where they are null, and the
fences, `-1` where there is none. -/
structure StreamBuffer where
  stream : Stream
  buffer : ℕ
  privateHandle : ℕ
  status : BufferStatus
  acquireFence : ℤ
  releaseFence : ℤ
  deriving DecidableEq, Repr

/-- The entries that are looked up in the settings of a request, each there or not. -/
structure Settings where
  requestId : Option ℤ := none
  captureIntent : Option ℕ := none
  cacMode : Option ℕ := none
  sensorTimestamp : Option ℤ := none
  deriving DecidableEq, Repr

/-- `camera3_capture_request_t`. -/
structure CaptureRequest where
  frameNumber : ℕ
  settings : Option Settings
  inputBuffer : Option StreamBuffer
  outputBuffers : List StreamBuffer
  deriving DecidableEq, Repr

/-! ## The account -/

/-- `RequestedBufferInfo`. -/
structure RequestedBuffer where
  stream : Stream
  buffer : Option StreamBuffer
  needMetadata : Bool
  deriving DecidableEq, Repr

/-- `PendingRequestInfo`. -/
structure PendingRequest where
  frameNumber : ℕ
  numBuffers : ℕ
  requestId : ℤ
  buffers : List RequestedBuffer
  blobRequest : Bool
  bUrgentReceived : Bool
  timestamp : ℤ
  inputBuffer : Option StreamBuffer
  settings : Option Settings
  pipelineDepth : ℕ
  partialResultCnt : ℕ
  captureIntent : ℕ
  fwkCacMode : ℕ
  shutterNotified : Bool
  deriving DecidableEq, Repr

/-- `PendingBufferInfo`. -/
structure PendingBuffer where
  stream : Stream
  buffer : ℕ
  deriving DecidableEq, Repr

structure PendingBuffersInRequest where
  frameNumber : ℕ
  timestamp : ℤ
  mPendingBufferList : List PendingBuffer
  deriving DecidableEq, Repr

structure PendingBuffersMap where
  numPendingBufsAtFlush : ℕ
  mPendingBuffersInRequest : List PendingBuffersInRequest
  deriving DecidableEq, Repr

/-- `PendingFrameDropInfo`. -/
structure PendingFrameDrop where
  frameNumber : ℕ
  streamId : ℕ
  deriving DecidableEq, Repr

/-! ## What the framework is told -/

/-- `camera3_error_msg_code_t`. -/
inductive ErrorCode
  | device | request | result | buffer
  deriving DecidableEq, Repr

/-- The metadata of a capture result: none, the 3A metadata of a partial result, the request id
alone, what `translateFromHalMetadata` makes of the HAL's metadata, or the settings of a
reprocess request. -/
inductive ResultMetadata
  | null
  | urgent
  | dummy (requestId : ℤ)
  | hal (timestamp requestId : ℤ) (pipelineDepth captureIntent : ℕ) (internalPproc : Bool)
      (fwkCacMode : ℕ) (firstMetadataInBatch : Bool)
  | settings (settings : Option Settings)
  deriving DecidableEq, Repr

/-- `camera3_capture_result_t`. -/
structure CaptureResult where
  frameNumber : ℕ
  result : ResultMetadata
  partialResult : ℕ
  inputBuffer : Option StreamBuffer
  outputBuffers : List StreamBuffer
  deriving DecidableEq, Repr

/-- A call of `mCallbackOps`: `notify` with a shutter or an error, or `process_capture_result`. -/
inductive Callback
  | shutter (frameNumber : ℕ) (timestamp : ℤ)
  | error (code : ErrorCode) (frameNumber : ℕ) (stream : Option Stream)
  | captureResult (result : CaptureResult)
  deriving DecidableEq, Repr

/-! ## The interface -/

/-- `State` of the interface. -/
inductive State
  | closed | opened | initialized | configured | started | error | deinit
  deriving DecidableEq, Repr

/-- `QCamera3HardwareInterface`, with the calls of `mCallbackOps` so far. -/
structure HardwareInterface where
  mState : State
  mFlush : Bool
  mFlushPerf : Bool
  mFirstConfiguration : Bool
  mNeedSensorRestart : Bool
  mPendingRequestsList : List PendingRequest
  mPendingBuffersMap : PendingBuffersMap
  mPendingFrameDropList : List PendingFrameDrop
  mPendingLiveRequest : ℕ
  mPendingBatchMap : ℕ → Option ℕ
  mBatchSize : ℕ
  mToBeQueuedVidBufs : ℕ
  mFirstFrameNumberInBatch : ℕ
  mMinInFlightRequests : ℕ
  mCurrentRequestId : ℤ
  mCaptureIntent : ℕ
  mCacMode : ℕ
  callbacks : List Callback

/-- `mCallbackOps->notify` and `mCallbackOps->process_capture_result`. -/
def HardwareInterface.call (s : HardwareInterface) (c : Callback) : HardwareInterface :=
  { s with callbacks := s.callbacks ++ [c] }

/-- The interface when its streams are configured for the first time. -/
def HardwareInterface.configured (batchSize minInFlight : ℕ) : HardwareInterface :=
  { mState := .configured
    mFlush := false
    mFlushPerf := false
    mFirstConfiguration := true
    mNeedSensorRestart := false
    mPendingRequestsList := []
    mPendingBuffersMap := ⟨0, []⟩
    mPendingFrameDropList := []
    mPendingLiveRequest := 0
    mPendingBatchMap := fun _ => none
    mBatchSize := batchSize
    mToBeQueuedVidBufs := 0
    mFirstFrameNumberInBatch := 0
    mMinInFlightRequests := minInFlight
    mCurrentRequestId := -1
    mCaptureIntent := 0
    mCacMode := 0
    callbacks := [] }

/-- How an operation can fail to return: an iterator is used past the end of its list. -/
inductive Fault
  | invalidIterator
  deriving DecidableEq, Repr

abbrev Exec := Except Fault

end Hal3
