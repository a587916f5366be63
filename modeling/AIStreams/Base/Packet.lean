import AIStreams.Util.Status
import Mathlib.Data.Finmap

/-!
# Packets

`aistreams/proto/packet.proto` and `aistreams/proto/types/packet_type.proto`.  A
`bytes` field is a list of bytes, an open enumeration keeps the numbers it has no name
for, and the `addenda` map is a finite map.  Whether a submessage is present is not
kept: nothing in the sources asks, and an absent one reads as its default.
-/

namespace AIStreams

abbrev Bytes := List UInt8

/-- `google.protobuf.Timestamp`. -/
structure Timestamp where
  seconds : Int64
  nanos : Int32
  deriving DecidableEq, Inhabited

/-- `google.protobuf.Any`. -/
structure ProtoAny where
  typeUrl : String
  value : Bytes
  deriving DecidableEq, Inhabited

inductive PacketTypeId
  | unknown
  | jpeg
  | rawImage
  | protobuf
  | string
  | gstreamerBuffer
  | controlSignal
  | unlisted (value : ℤ) (h : ¬ (0 ≤ value ∧ value ≤ 6))
  deriving DecidableEq

/-- `PacketTypeId_Name`. -/
def PacketTypeId.name : PacketTypeId → String
  | .unknown => "PACKET_TYPE_UNKNOWN"
  | .jpeg => "PACKET_TYPE_JPEG"
  | .rawImage => "PACKET_TYPE_RAW_IMAGE"
  | .protobuf => "PACKET_TYPE_PROTOBUF"
  | .string => "PACKET_TYPE_STRING"
  | .gstreamerBuffer => "PACKET_TYPE_GSTREAMER_BUFFER"
  | .controlSignal => "PACKET_TYPE_CONTROL_SIGNAL"
  | .unlisted _ _ => ""

structure PacketType where
  typeId : PacketTypeId
  typeName : String
  typeDescriptor : ProtoAny
  deriving DecidableEq

structure ServerMetadata where
  offset : Int64
  timestamp : Timestamp
  deriving DecidableEq, Inhabited

structure PacketHeader where
  timestamp : Timestamp
  type : PacketType
  addenda : Finmap fun _ : String => ProtoAny
  traceContext : String
  serverMetadata : ServerMetadata
  flags : Int32
  deriving DecidableEq

structure Packet where
  header : PacketHeader
  payload : Bytes
  deriving DecidableEq

/-- `PacketHeader()`. -/
def PacketHeader.default : PacketHeader where
  timestamp := ⟨0, 0⟩
  type := ⟨.unknown, "", ⟨"", []⟩⟩
  addenda := ∅
  traceContext := ""
  serverMetadata := ⟨0, ⟨0, 0⟩⟩
  flags := 0

/-- `Packet()`. -/
def Packet.default : Packet := ⟨.default, []⟩

end AIStreams
