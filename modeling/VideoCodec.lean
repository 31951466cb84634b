import VideoCodec.Transition.Run
import VideoCodec.Transition.WaitSet
import VideoCodec.Transition.Handoff
import VideoCodec.Transition.Atomic
import VideoCodec.Transition.Exhaust
import VideoCodec.Transition.Protocol
import VideoCodec.Fifo.Circular
import VideoCodec.Fifo.Queue
import VideoCodec.Fifo.Newest
import VideoCodec.Fifo.Gate
import VideoCodec.Control.Ladder
import VideoCodec.Control.Timer
import VideoCodec.Control.FanOut
import VideoCodec.Control.Accumulation
import VideoCodec.Text.Segments
import VideoCodec.Memory.Copying
import VideoCodec.Memory.Layout
import VideoCodec.Raster.Scissor
import VideoCodec.Memory.File
import VideoCodec.Json.Value
import VideoCodec.Core.Types
import VideoCodec.Scan.Delimited
import VideoCodec.Scan.Framing
import VideoCodec.Scan.Padded
import VideoCodec.Nal.AnnexB
import VideoCodec.Mux.Types
import VideoCodec.Mux.Avcc
import VideoCodec.Mux.FFmpegMuxer
import VideoCodec.Mux.AvProtocol
import VideoCodec.Mux.Extradata
import VideoCodec.Mux.Opening
import VideoCodec.Mux.Interleaving
import VideoCodec.Mux.Recording
import VideoCodec.Mux.RecordAndPush
import VideoCodec.Mux.NdkRecording
import VideoCodec.Mux.Backends
import VideoCodec.Mux.Reporting
import VideoCodec.Mux.MediaCodecMuxer
import VideoCodec.Mux.NdkProtocol
import VideoCodec.Mux.TrackGate
import VideoCodec.Mux.Terminal
import VideoCodec.Mux.CodecData
import VideoCodec.Mux.FileLength
import VideoCodec.Mux.Replay
import VideoCodec.Queue.Ring
import VideoCodec.Queue.RingFifo
import VideoCodec.Queue.Monitor
import VideoCodec.Queue.Await
import VideoCodec.Queue.Delivery
import VideoCodec.Queue.Latest
import VideoCodec.Queue.PacketSink
import VideoCodec.Io.FileConsumer
import VideoCodec.Queue.Pipeline
import VideoCodec.Queue.PacketQueue
import VideoCodec.Stream.Types
import VideoCodec.Stream.AbrController
import VideoCodec.Stream.ReconnectHandler
import VideoCodec.Stream.StreamImpl
import VideoCodec.Stream.Threads
import VideoCodec.Stream.Invariant
import VideoCodec.Stream.Callbacks
import VideoCodec.Stream.Reentrancy
import VideoCodec.Stream.Lifecycle
import VideoCodec.Stream.Stopping
import VideoCodec.Stream.Serial
import VideoCodec.Stream.Progress
import VideoCodec.Stream.OverWebrtc
import VideoCodec.Stream.Drops
import VideoCodec.Stream.Counters
import VideoCodec.Stream.Adaptation
import VideoCodec.Stream.Backoff
import VideoCodec.Stream.Backpressure
import VideoCodec.Stream.Coherence
import VideoCodec.Webrtc.Backend
import VideoCodec.Webrtc.Whip
import VideoCodec.Webrtc.Handlers
import VideoCodec.Webrtc.Offer
import VideoCodec.Webrtc.Notify
import VideoCodec.Webrtc.Connect
import VideoCodec.Webrtc.Outcome
import VideoCodec.Webrtc.Ownership
import VideoCodec.Webrtc.Stale
import VideoCodec.Webrtc.FirstSession
import VideoCodec.Webrtc.Reports
import VideoCodec.Webrtc.Timestamps
import VideoCodec.Webrtc.Marking
import VideoCodec.Encode.Types
import VideoCodec.Encode.FFmpeg
import VideoCodec.Encode.MediaCodec
import VideoCodec.Encode.Draining
import VideoCodec.Encode.Pushing
import VideoCodec.Encode.Encoders
import VideoCodec.Encode.Initialising
import VideoCodec.Encode.EndOfStream
import VideoCodec.Encode.FallbackClock
import VideoCodec.Encode.ParameterSets
import VideoCodec.Encode.Planes
import VideoCodec.Encode.CopyFrame
import VideoCodec.Encode.QueueInput
import VideoCodec.Encode.AudioSamples
import VideoCodec.Encode.Tone
import VideoCodec.Convert.PixelConvert
import VideoCodec.Config.ParseJson
import VideoCodec.Config.Typing
import VideoCodec.Config.Integers
import VideoCodec.Config.WhipUrl
import VideoCodec.Config.Signal
import VideoCodec.Io.TeeByteSink
import VideoCodec.Utils.AudioPace
import VideoCodec.Utils.SmpteBars
import VideoCodec.Utils.SurfaceBars
import VideoCodec.Examples.EncodeFile
import VideoCodec.Examples.EncodedFiles
