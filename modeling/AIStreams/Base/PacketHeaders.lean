import AIStreams.Base.PacketTypes

/-!
# What `MakePacket` does to a header

`Pack`, `SetToCurrentTime` and `RestoreDefaultPacketFlags` run one after the other over the
header that the caller of `MakePacket` has given (`aistreams/base/make_packet.h`).

* `makePacket_header`: the header that comes out, as a whole.
* `keepsHeader_iff`: it keeps the caller's fields exactly if the caller's flags are the default
  ones.
-/

namespace AIStreams

/-! ### One step at a time -/

section Steps

variable {T : Type} [PacketTypeTraits T]

/-- The flags that `RestoreDefaultPacketFlags` leaves. -/
def defaultPacketFlags : PacketTypeId → PacketFlags
  | .jpeg | .rawImage | .protobuf | .string | .gstreamerBuffer =>
    PacketFlags.kIsFrameHead ||| PacketFlags.kIsKeyFrame
  | _ => PacketFlags.kEmpty

theorem setPacketFlags_clearPacketFlags (flags : PacketFlags) (p : Packet) :
    (setPacketFlags flags (clearPacketFlags p)).header = { p.header with flags := flags } := by
  have hor : PacketFlags.kEmpty ||| flags = flags := Int32.zero_or
  simp only [setPacketFlags, clearPacketFlags, hor]

theorem restoreDefaultPacketFlags_header (p : Packet) : (restoreDefaultPacketFlags p).header =
    { p.header with flags := defaultPacketFlags p.header.type.typeId } := by
  unfold restoreDefaultPacketFlags
  cases p.header.type.typeId <;> first | rfl | exact setPacketFlags_clearPacketFlags _ p

/-- The header with its type described, and nothing else changed. -/
def PacketHeader.describe (header : PacketHeader) (typeId : PacketTypeId) (any : ProtoAny) :
    PacketHeader :=
  { header with type := ⟨typeId, header.type.typeName, any⟩ }

/-- **`Pack` only touches the type id and the type descriptor** of the header, if `PackPayload`
leaves the header alone. -/
theorem pack_header (hpayload : ∀ (passing : Passing) (t : T) (p : Packet),
      (packPayload passing t p).2.header = p.header) (passing : Passing) (t : T) (p : Packet) :
    ∃ any, (pack passing t p).2.header =
      p.header.describe (PacketTypeTraits.packetTypeId T) any := by
  refine ⟨(packetTypeDescriptor t p.header.type.typeDescriptor).2, ?_⟩
  unfold pack
  simp only
  split
  · rfl
  · split
    · exact hpayload _ _ _
    · exact hpayload _ _ _

theorem setToCurrentTime_header {now : Option Timestamp} {p : Packet}
    (h : (setToCurrentTime now p).1.ok = true) :
    ∃ ts, now = some ts ∧
      (setToCurrentTime now p).2.header = { p.header with timestamp := ts } := by
  cases now with
  | none => cases h
  | some ts => exact ⟨ts, rfl, rfl⟩

/-- **The header of a packet that is made**, as a whole: described, stamped if that was asked
for, and with the default flags of its type. -/
theorem makePacket_header (hpayload : ∀ (passing : Passing) (t : T) (p : Packet),
      (packPayload passing t p).2.header = p.header) {now : Option Timestamp} {passing : Passing}
    {t : T} {header : PacketHeader} {setCurrentTime : Bool} {p : Packet}
    (h : makePacket now passing t header setCurrentTime = .value p) :
    ∃ any ts, (setCurrentTime = true → now = some ts) ∧
      (setCurrentTime = false → ts = header.timestamp) ∧
      p.header = { header.describe (PacketTypeTraits.packetTypeId T) any with
        timestamp := ts
        flags := defaultPacketFlags (PacketTypeTraits.packetTypeId T) } := by
  obtain ⟨any, hpack⟩ := pack_header hpayload passing t ⟨header, []⟩
  unfold makePacket at h
  simp only at h
  split at h
  · exact absurd h (StatusOr.ofStatus_ne_value _ p)
  · cases setCurrentTime with
    | false =>
      simp only [Bool.false_eq_true, if_false, okStatus_ok, StatusOr.value.injEq,
        Bool.true_eq_false] at h
      refine ⟨any, header.timestamp, nofun, fun _ => rfl, ?_⟩
      rw [← h, restoreDefaultPacketFlags_header, hpack]
      rfl
    | true =>
      simp only [if_true] at h
      split at h
      · exact absurd h (StatusOr.ofStatus_ne_value _ p)
      · rename_i hok
        rw [Bool.not_eq_false] at hok
        obtain ⟨ts, hnow, hstamped⟩ := setToCurrentTime_header hok
        refine ⟨any, ts, fun _ => hnow, nofun, ?_⟩
        rw [← StatusOr.value.inj h, restoreDefaultPacketFlags_header, hstamped, hpack]
        rfl

end Steps

/-! ### Every packet type -/

theorem serializePayload_header {M : Type} [Message M] (m : M) (error : Status) (p : Packet) :
    (serializePayload m error p).2.header = p.header := by
  unfold serializePayload
  split
  · rfl
  · rfl

section Types

variable [Message RawImagePacketTypeDescriptor] [Message GstreamerBufferPacketTypeDescriptor]
  [Message ProtobufPacketTypeDescriptor] [Message ControlSignalPacketTypeDescriptor]
  [Message EosValue]

/-- `PackPayload` leaves the header alone. -/
theorem packPayload_header (T : PacketValueType) (passing : Passing) (t : T.Carrier) (p : Packet) :
    (packPayload passing t p).2.header = p.header := by
  cases T with
  | string => rfl
  | jpegFrame => rfl
  | rawImage => rfl
  | gstreamerBuffer => rfl
  | eos => exact serializePayload_header _ _ p
  | protobuf M => exact serializePayload_header _ _ p

/-- Of the header that the caller gave, `made` has every field but the type id, the type
descriptor and, if the time was to be set, the timestamp. -/
def KeepsHeader (header : PacketHeader) (setCurrentTime : Bool) (made : PacketHeader) : Prop :=
  ∃ typeId any ts, (setCurrentTime = false → ts = header.timestamp) ∧
    made = { header.describe typeId any with timestamp := ts }

/-- **`MakePacket` keeps the caller's header exactly if its flags are the default ones** of the
packet type; it keeps everything else. -/
theorem keepsHeader_iff (T : PacketValueType) (now : Option Timestamp) (passing : Passing)
    (t : T.Carrier) (header : PacketHeader) (setCurrentTime : Bool) (p : Packet)
    (h : makePacket now passing t header setCurrentTime = .value p) :
    KeepsHeader header setCurrentTime p.header ↔
      header.flags = defaultPacketFlags (PacketTypeTraits.packetTypeId T.Carrier) := by
  obtain ⟨any, ts, _, hts, hmade⟩ := makePacket_header (packPayload_header T) h
  constructor
  · rintro ⟨typeId, any', ts', _, hkept⟩
    rw [hmade] at hkept
    exact (congrArg PacketHeader.flags hkept).symm
  · intro hflags
    refine ⟨PacketTypeTraits.packetTypeId T.Carrier, any, ts, hts, ?_⟩
    rw [hmade, ← hflags]
    rfl

end Types

/-! ### A string -/

section Strings

open WireMessages

/-- A frame head that is not a key frame. -/
def deltaHeader : PacketHeader := { PacketHeader.default with flags := PacketFlags.kIsFrameHead }

theorem keepsHeader_defaultFlags :
    ∃ p, makePacket none .constRef ([1] : Bytes)
        { PacketHeader.default with traceContext := "t", flags := 3 } false = .value p ∧
      KeepsHeader { PacketHeader.default with traceContext := "t", flags := 3 } false p.header :=
  ⟨_, rfl, (keepsHeader_iff .string none .constRef [1] _ false _ rfl).mpr (by decide)⟩

/-- **The caller's flags are lost**: the packet made is a key frame. -/
theorem not_keepsHeader_deltaHeader :
    ∃ p, makePacket none .constRef ([1] : Bytes) deltaHeader false = .value p ∧
      p.header.flags = 3 ∧ ¬ KeepsHeader deltaHeader false p.header := by
  refine ⟨_, rfl, rfl, ?_⟩
  rintro ⟨typeId, any, ts, _, hkept⟩
  have hflags : (3 : Int32) = 1 := congrArg PacketHeader.flags hkept
  exact absurd hflags (by decide)

end Strings

end AIStreams
