import AIStreams.Transition.System
import AIStreams.Fifo.Bounded
import AIStreams.Util.Status
import AIStreams.Util.Time
import AIStreams.Util.ProducerConsumerQueue
import AIStreams.Base.Packet
import AIStreams.Base.PacketReceiver
import AIStreams.Base.RawImage
import AIStreams.Base.PacketTypes
import AIStreams.Base.ReceiverWorker
import AIStreams.Gstreamer.TypeUtils
import AIStreams.Gstreamer.Channel
import AIStreams.Gstreamer.LocalVideoSaver
import AIStreams.Gstreamer.GcsUploader
import AIStreams.Gstreamer.ExporterChannel
import AIStreams.Cc.ImageProducer
import AIStreams.Cc.ImageProducerStop
import AIStreams.Cc.ImageProducerEos
import AIStreams.Arith.CheckedInt
import AIStreams.Base.AutoReceiver
import AIStreams.Gstreamer.GstreamerRunner
import AIStreams.Gstreamer.RgbConversion
import AIStreams.Gstreamer.RgbRoundTrip
import AIStreams.Transition.Counting
import AIStreams.Util.NoLostWakeup
import AIStreams.Gstreamer.VideoChunking
import AIStreams.Gstreamer.StreamServerSource
import AIStreams.Text.InputStream
import AIStreams.Base.PpmFile
import AIStreams.Text.Search
import AIStreams.Base.ManagementClient
import AIStreams.Base.PacketHeaders
import AIStreams.Base.PacketOverloads
import AIStreams.Gstreamer.AisSrc
import AIStreams.Gstreamer.AisElements
import AIStreams.Gstreamer.RawImageYielder
import AIStreams.Loop.Until
import AIStreams.Base.UnixTime
import AIStreams.Base.ReplayRequest
import AIStreams.Apps.ReplayApp
import AIStreams.Loop.Saturating
import AIStreams.Base.ExponentialBackoff
import AIStreams.Base.WaitOperation
import AIStreams.Base.ClusterOperations
import AIStreams.Base.ClusterNames
import AIStreams.Base.ProtoConversions
import AIStreams.Base.UnaryReceive
import AIStreams.Memo.FirstWins
import AIStreams.Trace.Instrumentation
import AIStreams.Gstreamer.ReceiverTimeout
import AIStreams.Gstreamer.GstLaunchPipeline
import AIStreams.Text.Regex
import AIStreams.Text.GstLexer
import AIStreams.Text.GstLaunch
import AIStreams.Cc.Ingesters
import AIStreams.Text.Separated
import AIStreams.Util.JoinPath
import AIStreams.Util.SplitPath
import AIStreams.Text.Printed
import AIStreams.Util.StatusEquality
import AIStreams.Util.StatusBuilder
import AIStreams.Storage.Slots
import AIStreams.Util.StatusOrData
import AIStreams.Util.StatusOrLifetimes
import AIStreams.Base.ReceivePackets
import AIStreams.Base.Addenda
import AIStreams.Stdio.Stream
import AIStreams.Util.FileHelpers
import AIStreams.Gstreamer.ExporterRun
import AIStreams.Base.PacketSender
import AIStreams.Apps.PrinterApp
import AIStreams.Storage.Heap
import AIStreams.C.CApi
import AIStreams.Gstreamer.AisSink
import AIStreams.Gstreamer.AisSource
import AIStreams.Gstreamer.AisRoundTrip
import AIStreams.Base.StreamManagers
import AIStreams.Text.Shlex
import AIStreams.Cli.Commands
import AIStreams.Apps.ManagerApp
import AIStreams.Apps.PlaybackApp
import AIStreams.Gstreamer.VideoLedger
import AIStreams.Gstreamer.ExporterPipeline
