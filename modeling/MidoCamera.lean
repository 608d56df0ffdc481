import MidoCamera.Stack.LowPriority
import MidoCamera.Stack.SyncLocks
import MidoCamera.Stack.CmdThread
import MidoCamera.Stack.Burst
import MidoCamera.Stack.CaptureIds
import MidoCamera.Stack.Diverted
import MidoCamera.Stack.OpenClose
import MidoCamera.Stack.ChannelStart
import MidoCamera.Stack.CallbackRefs
import MidoCamera.Stack.BatchOrder
import MidoCamera.Stack.Mapping
import MidoCamera.Stack.CameraInfo
import MidoCamera.Stack.EventRegistry
import MidoCamera.Stack.PostView
import MidoCamera.Stack.RawLayout
import MidoCamera.Util.AnalysisInfo
import MidoCamera.Hal3.MetadataOwnership
import MidoCamera.Hal3.FrameDrops
import MidoCamera.Hal3.FlushWait
import MidoCamera.Hal3.FlushMode
import MidoCamera.Hal3.Accepted
import MidoCamera.Hal3.PartialResults
import MidoCamera.Hal3.CropRegion
import MidoCamera.Stack.Backlog
import MidoCamera.Hal1.Answers
import MidoCamera.Hal1.DelayedMsgs
import MidoCamera.Hal1.CameraParameters
import MidoCamera.Jpeg.Jobs
import MidoCamera.Jpeg.CreateSession
import MidoCamera.Jpeg.JobIds
import MidoCamera.Jpeg.Stall
import MidoCamera.Jpeg.Handles
import MidoCamera.Jpeg.InProgress
import MidoCamera.Jpeg.Clients
import MidoCamera.Jpeg.MpoBounds
import MidoCamera.Qomx.Components
import MidoCamera.Jpeg.Thumbnail
import MidoCamera.Jpeg.Queue
import MidoCamera.Jpeg.QueueThreads
import MidoCamera.PostProc.Stall
import MidoCamera.PostProc.Settings
import MidoCamera.PostProc.Ownership
import MidoCamera.PostProc.Pools
import MidoCamera.Hal1Post.ReprocChannels
import MidoCamera.Hal1Post.Conservation
import MidoCamera.Hal1Post.Encodings
import MidoCamera.Hal1Post.JpegMemory
import MidoCamera.Channel.BatchRestart
import MidoCamera.Channel.SlotMapping
import MidoCamera.Channel.FrameNumbers
import MidoCamera.Channel.PriorityFrames
import MidoCamera.Channel.OfflineMappings
import MidoCamera.Channel.OfflineMeta
import MidoCamera.Channel.YuvOrder
import MidoCamera.Channel.FailedRequest
import MidoCamera.Channel.Raw16
import MidoCamera.Channel.BufDefs
import MidoCamera.Channel.Registry
import MidoCamera.Memory.IonBuffers
import MidoCamera.Memory.VideoMemory
import MidoCamera.Preview.Conservation
import MidoCamera.Preview.Allocate
import MidoCamera.Preview.Callback
import MidoCamera.Notifier.Release
import MidoCamera.Deferred.Status
import MidoCamera.Muxer.Pairing
import MidoCamera.Muxer.Release
import MidoCamera.Muxer.Failures
import MidoCamera.Hal3.PendingBuffers
