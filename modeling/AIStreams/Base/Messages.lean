import AIStreams.Base.RawImage
import AIStreams.Wire.Format

/-!
# Messages

What this code asks of the protobuf runtime (`Message`, `LawfulMessage`), the messages of
`aistreams/proto/types/` that describe packets, and for these the runtime spelled out: their
fields on the wire (`WireMessages`).
-/

namespace AIStreams

/-! ### The protobuf runtime -/

/-- A generated message class `M`.  `parseFromString` has the object it is called on;
`unpackTo` fills a fresh one. -/
class Message (M : Type) where
  default : M
  getTypeName : String
  serializeToString : M → Option Bytes
  parseFromString : M → Bytes → Bool × M
  packFrom : M → ProtoAny
  unpackTo : ProtoAny → Option M

/-- Parsing undoes serializing, and `UnpackTo` undoes `PackFrom`. -/
class LawfulMessage (M : Type) [Message M] : Prop where
  parse_serialize : ∀ m : M, ∃ bytes, Message.serializeToString m = some bytes ∧
    ∀ dst : M, Message.parseFromString dst bytes = (true, m)
  unpackTo_packFrom : ∀ m : M, Message.unpackTo (Message.packFrom m) = some m

export Message (serializeToString parseFromString packFrom unpackTo)

/-! ### The messages that packets are described by -/

structure RawImagePacketTypeDescriptor where
  rawImageDescriptor : RawImageDescriptor
  deriving DecidableEq

structure GstreamerBufferPacketTypeDescriptor where
  capsString : Bytes
  deriving DecidableEq

structure ProtobufPacketTypeDescriptor where
  specificMessageTypeName : String
  isTextFormat : Bool
  deriving DecidableEq

inductive ControlSignalTypeId
  | unknown
  | eos
  | unlisted (value : Int32) (h : value ≠ 0 ∧ value ≠ 1)

namespace WireMessages

def controlSignalNumber : ControlSignalTypeId → Int32
  | .unknown => 0
  | .eos => 1
  | .unlisted value _ => value

def controlSignalOfNumber (value : Int32) : ControlSignalTypeId :=
  if h0 : value = 0 then .unknown
  else if h1 : value = 1 then .eos
  else .unlisted value ⟨h0, h1⟩

theorem controlSignalOfNumber_controlSignalNumber (id : ControlSignalTypeId) :
    controlSignalOfNumber (controlSignalNumber id) = id := by
  cases id with
  | unknown => rfl
  | eos => rfl
  | unlisted value h =>
    unfold controlSignalNumber controlSignalOfNumber
    rw [dif_neg h.1, dif_neg h.2]

end WireMessages

instance : DecidableEq ControlSignalTypeId :=
  Function.Injective.decidableEq
    (Function.LeftInverse.injective WireMessages.controlSignalOfNumber_controlSignalNumber)

/-- `ControlSignalTypeId_Name`. -/
def ControlSignalTypeId.name : ControlSignalTypeId → String
  | .unknown => "CONTROL_SIGNAL_UNKNOWN"
  | .eos => "CONTROL_SIGNAL_EOS"
  | .unlisted _ _ => ""

structure ControlSignalPacketTypeDescriptor where
  typeId : ControlSignalTypeId
  deriving DecidableEq

structure EosValue where
  reason : String
  deriving DecidableEq

/-! ### Their fields on the wire -/

namespace Wire.Schema

variable {M : Type} (s : Schema M)

/-- The generated class of a message type. -/
@[reducible] def message : Message M where
  default := s.default
  getTypeName := s.fullName
  serializeToString m := some (s.serialize m)
  parseFromString dst bytes :=
    match s.parse bytes with
    | none => (false, dst)
    | some m => (true, m)
  packFrom m := ⟨s.typeUrl, s.serialize m⟩
  unpackTo any := if s.isUrlOf any.typeUrl then s.parse any.value else none

theorem lawful : @LawfulMessage M s.message :=
  @LawfulMessage.mk M s.message
    (fun m => ⟨s.serialize m, rfl, fun dst => by
      show (match s.parse (s.serialize m) with | none => (false, dst) | some m => (true, m)) = _
      rw [s.parse_serialize]⟩)
    (fun m => by
      show (if s.isUrlOf s.typeUrl then s.parse (s.serialize m) else none) = _
      rw [if_pos s.isUrlOf_typeUrl, s.parse_serialize])

end Wire.Schema

namespace WireMessages

open Wire

def formatNumber : RawImageFormat → Int32
  | .unknown => 0
  | .srgb => 1
  | .unlisted value _ => value

def formatOfNumber (value : Int32) : RawImageFormat :=
  if h0 : value = 0 then .unknown
  else if h1 : value = 1 then .srgb
  else .unlisted value ⟨h0, h1⟩

theorem formatOfNumber_formatNumber (format : RawImageFormat) :
    formatOfNumber (formatNumber format) = format := by
  cases format with
  | unknown => rfl
  | srgb => rfl
  | unlisted value h =>
    unfold formatNumber formatOfNumber
    rw [dif_neg h.1, dif_neg h.2]

def rawImageDescriptor : Schema RawImageDescriptor where
  fullName := "aistreams.RawImageDescriptor"
  default := ⟨.unknown, 0, 0⟩
  toFields desc :=
    int32Field 1 (formatNumber desc.format) ++ int32Field 2 desc.height ++ int32Field 3 desc.width
  ofFields fields :=
    some ⟨formatOfNumber (readInt32 1 fields), readInt32 2 fields, readInt32 3 fields⟩
  ofFields_toFields desc := by
    simp [readInt32, lastVarint_int32Field_of_ne, formatOfNumber_formatNumber]

/-- The submessage is always written, also when it is the default one. -/
def rawImagePacketTypeDescriptor : Schema RawImagePacketTypeDescriptor where
  fullName := "aistreams.RawImagePacketTypeDescriptor"
  default := ⟨rawImageDescriptor.default⟩
  toFields desc := [⟨1, .bytes (rawImageDescriptor.serialize desc.rawImageDescriptor)⟩]
  ofFields fields := (rawImageDescriptor.parse (readBytes 1 fields)).map .mk
  ofFields_toFields desc := by
    show (rawImageDescriptor.parse (rawImageDescriptor.serialize _)).map _ = _
    rw [rawImageDescriptor.parse_serialize]
    rfl

def gstreamerBufferPacketTypeDescriptor : Schema GstreamerBufferPacketTypeDescriptor where
  fullName := "aistreams.GstreamerBufferPacketTypeDescriptor"
  default := ⟨[]⟩
  toFields desc := bytesField 1 desc.capsString
  ofFields fields := some ⟨readBytes 1 fields⟩
  ofFields_toFields desc := by simp [readBytes]

def protobufPacketTypeDescriptor : Schema ProtobufPacketTypeDescriptor where
  fullName := "aistreams.ProtobufPacketTypeDescriptor"
  default := ⟨"", false⟩
  toFields desc := bytesField 1 (ofString desc.specificMessageTypeName) ++
    int32Field 2 (if desc.isTextFormat then 1 else 0)
  ofFields fields := (toString? (readBytes 1 fields)).map (⟨·, readInt32 2 fields != 0⟩)
  ofFields_toFields desc := by
    obtain ⟨name, isTextFormat⟩ := desc
    cases isTextFormat <;> simp [readBytes, readInt32, toString?_ofString]

def controlSignalPacketTypeDescriptor : Schema ControlSignalPacketTypeDescriptor where
  fullName := "aistreams.ControlSignalPacketTypeDescriptor"
  default := ⟨.unknown⟩
  toFields desc := int32Field 1 (controlSignalNumber desc.typeId)
  ofFields fields := some ⟨controlSignalOfNumber (readInt32 1 fields)⟩
  ofFields_toFields desc := by simp [readInt32, controlSignalOfNumber_controlSignalNumber]

def eosValue : Schema EosValue where
  fullName := "aistreams.EosValue"
  default := ⟨""⟩
  toFields value := bytesField 1 (ofString value.reason)
  ofFields fields := (toString? (readBytes 1 fields)).map .mk
  ofFields_toFields value := by simp [readBytes, toString?_ofString]

scoped instance : Message RawImagePacketTypeDescriptor := rawImagePacketTypeDescriptor.message
scoped instance : LawfulMessage RawImagePacketTypeDescriptor := rawImagePacketTypeDescriptor.lawful
scoped instance : Message GstreamerBufferPacketTypeDescriptor :=
  gstreamerBufferPacketTypeDescriptor.message
scoped instance : LawfulMessage GstreamerBufferPacketTypeDescriptor :=
  gstreamerBufferPacketTypeDescriptor.lawful
scoped instance : Message ProtobufPacketTypeDescriptor := protobufPacketTypeDescriptor.message
scoped instance : LawfulMessage ProtobufPacketTypeDescriptor := protobufPacketTypeDescriptor.lawful
scoped instance : Message ControlSignalPacketTypeDescriptor :=
  controlSignalPacketTypeDescriptor.message
scoped instance : LawfulMessage ControlSignalPacketTypeDescriptor :=
  controlSignalPacketTypeDescriptor.lawful
scoped instance : Message EosValue := eosValue.message
scoped instance : LawfulMessage EosValue := eosValue.lawful

end WireMessages

end AIStreams
