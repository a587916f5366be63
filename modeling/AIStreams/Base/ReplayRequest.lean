import AIStreams.Base.PacketReceiver
import AIStreams.Base.UnixTime

/-!
# Asking for a replay

`aistreams/base/offset_options.h`, the options of a receiver, and what `PacketReceiver::Create`
does with them in replay mode up to `InitializeReplayStream`.  The network is an oracle, which
also draws the random names.

* `toProtoOffsetConfig_denotes`: the message says what the options say.
* `offsetConfig_of_ignored`: without `reset_offset` no position is sent at all.
-/

namespace AIStreams

/-! ### Options -/

namespace OffsetOptions

inductive SpecialOffset
  | kOffsetBeginning
  | kOffsetEnd
  deriving DecidableEq

/-- `absl::variant<SpecialOffset, int64_t, absl::Time>`. -/
inductive PositionType
  | specialOffset (offset : SpecialOffset)
  | int64 (offset : Int64)
  | time (t : Time)
  deriving DecidableEq

end OffsetOptions

structure OffsetOptions where
  resetOffset : Bool := false
  offsetPosition : OffsetOptions.PositionType := .specialOffset .kOffsetBeginning

structure SslOptions where
  useInsecureChannel : Bool := false
  sslDomainName : String := "aistreams.googleapis.com"
  sslRootCertPath : String := ""

structure RpcOptions where
  timeout : Duration := .infinite
  waitForReady : Bool := false

structure ConnectionOptions where
  targetAddress : String := ""
  authenticateWithGoogle : Bool := false
  sslOptions : SslOptions := {}
  rpcOptions : RpcOptions := {}

structure ReceiverOptions where
  connectionOptions : ConnectionOptions := {}
  offsetOptions : OffsetOptions := {}
  streamName : String := ""
  receiverName : String := ""
  bufferCapacity : Int32 := 0
  receiverMode : ReceiverMode := .streamingReceive

/-- `PacketReceiver::Options`. -/
structure PacketReceiver.Options where
  connectionOptions : ConnectionOptions := {}
  offsetOptions : OffsetOptions := {}
  streamName : String := ""
  receiverName : String := ""
  unaryRpcPollInterval : Duration := .zero
  timeout : Duration := .infinite
  receiverMode : ReceiverMode := .streamingReceive

/-- What `MakePacketReceiverQueue` creates its receiver with. -/
def ReceiverOptions.packetReceiverOptions (options : ReceiverOptions) :
    PacketReceiver.Options where
  connectionOptions := options.connectionOptions
  streamName := options.streamName
  receiverName := options.receiverName
  offsetOptions := options.offsetOptions
  receiverMode := options.receiverMode

/-- `StreamChannel::Options`. -/
structure StreamChannel.Options where
  connectionOptions : ConnectionOptions
  streamName : String

/-! ### Requests -/

namespace OffsetConfig

inductive SpecialOffset
  | offsetBeginning
  | offsetEnd
  deriving DecidableEq

end OffsetConfig

/-- The oneof `config`, set. -/
inductive OffsetConfig
  | specialOffset (offset : OffsetConfig.SpecialOffset)
  | seekPosition (offset : Int64)
  | seekTime (ts : Timestamp)
  deriving DecidableEq

/-- `google.protobuf.Duration`. -/
structure ProtoDuration where
  seconds : Int64
  nanos : Int32
  deriving DecidableEq

/-- Without `seek_option`, which is deprecated and never set. -/
structure ReplayStreamRequest where
  consumerName : String
  offsetConfig : Option OffsetConfig
  timeout : Option ProtoDuration
  deriving DecidableEq

/-- What the two special offsets are called in the message. -/
def OffsetOptions.SpecialOffset.toProto : OffsetOptions.SpecialOffset → OffsetConfig.SpecialOffset
  | .kOffsetBeginning => .offsetBeginning
  | .kOffsetEnd => .offsetEnd

def toProtoOffsetConfig : OffsetOptions.PositionType → OffsetConfig
  | .specialOffset offset => .specialOffset offset.toProto
  | .int64 offset => .seekPosition offset
  | .time t =>
    .seekTime ⟨t.toUnixSeconds,
      ((t.left (4000000000 * t.toUnixSeconds.toInt)).toInt64Nanoseconds).toInt32⟩

/-- `ToProtoDuration`, of a finite duration. -/
def toProtoDuration (n : ℤ) : ProtoDuration :=
  ⟨Int64.ofIntClamp (n.tdiv 4000000000), Int32.ofInt ((n.tmod 4000000000).tdiv 4)⟩

/-- The message says what the position says. -/
def OffsetConfig.Denotes : OffsetConfig → OffsetOptions.PositionType → Prop
  | .specialOffset offset, .specialOffset offset' => offset = offset'.toProto
  | .seekPosition offset, .int64 offset' => offset = offset'
  | .seekTime ts, .time (.ticks n) => ts.IsFloorOf n
  | _, _ => False

/-- An `absl::Time` that is finite, its seconds within 64 bits. -/
def OffsetOptions.PositionType.Finite : OffsetOptions.PositionType → Prop
  | .time (.ticks n) => -2 ^ 63 ≤ n / 4000000000 ∧ n / 4000000000 < 2 ^ 63
  | .time _ => False
  | _ => True

/-- **The message says what the options say.** -/
theorem toProtoOffsetConfig_denotes {position : OffsetOptions.PositionType}
    (h : position.Finite) : (toProtoOffsetConfig position).Denotes position := by
  cases position with
  | specialOffset offset => rfl
  | int64 offset => rfl
  | time t =>
    cases t with
    | negInfinite => cases h
    | ticks n => exact Time.isFloorOf_toUnixSeconds h
    | infinite => cases h

/-! ### The receiver, in replay mode -/

/-- What is not this code: the RPC stack and the random number generator.  `tryPops` is what
follows a request that is let through: the results of `TryPop` on the queue that the worker
fills, given the timeout of each. -/
structure Network where
  createStreamChannel : StreamChannel.Options → Status
  newStub : Bool
  randomString : ℕ → String
  makeClientContext : StreamChannel.Options → Status
  replayStream : ReplayStreamRequest → Bool
  tryPops : ReplayStreamRequest → Duration → List (Option Packet)

namespace PacketReceiver

def kRandomConsumerNameLength : ℕ := 8

def replayStreamRequest (network : Network) (options : Options) : ReplayStreamRequest where
  consumerName :=
    if options.receiverName = "" then network.randomString kRandomConsumerNameLength
    else options.receiverName
  timeout :=
    match options.timeout with
    | .ticks n => if 0 < n then some (toProtoDuration n) else none
    | _ => none
  offsetConfig :=
    if options.offsetOptions.resetOffset then
      some (toProtoOffsetConfig options.offsetOptions.offsetPosition)
    else none

def streamChannelOptions (options : Options) : StreamChannel.Options :=
  ⟨options.connectionOptions, options.streamName⟩

/-- `InitializeReplayStream`, and the request it issued. -/
def initializeReplayStream (network : Network) (options : Options) :
    Status × Option ReplayStreamRequest :=
  if (network.makeClientContext (streamChannelOptions options)).ok = false then
    (internalError "Failed to create a grpc client context", none)
  else if network.replayStream (replayStreamRequest network options) = false then
    (unknownError "Failed to create a ClientReader for streaming RPC",
      some (replayStreamRequest network options))
  else (okStatus, some (replayStreamRequest network options))

/-- `Create` of a receiver in replay mode. -/
def createReplay (network : Network) (options : Options) :
    Status × Option ReplayStreamRequest :=
  if (network.createStreamChannel (streamChannelOptions options)).ok = false then
    (unknownError "Failed to create a StreamChannel", none)
  else if network.newStub = false then (unknownError "Failed to create a gRPC stub", none)
  else initializeReplayStream network options

/-- A receiver that could be created has sent its request. -/
theorem createReplay_request {network : Network} {options : Options}
    (h : (createReplay network options).1.ok = true) :
    (createReplay network options).2 = some (replayStreamRequest network options) := by
  simp only [createReplay, initializeReplayStream] at h ⊢
  split at h
  · cases h
  · split at h
    · cases h
    · split at h
      · cases h
      · split at h
        · cases h
        · simp [*]

/-- **A position that is ignored** is not sent. -/
theorem offsetConfig_of_ignored (network : Network) {options : Options}
    (h : options.offsetOptions.resetOffset = false) :
    (replayStreamRequest network options).offsetConfig = none := by
  simp [replayStreamRequest, h]

/-- A position that is not ignored is. -/
theorem offsetConfig_of_reset (network : Network) {options : Options}
    (h : options.offsetOptions.resetOffset = true) :
    (replayStreamRequest network options).offsetConfig =
      some (toProtoOffsetConfig options.offsetOptions.offsetPosition) := by
  simp [replayStreamRequest, h]

end PacketReceiver

end AIStreams
