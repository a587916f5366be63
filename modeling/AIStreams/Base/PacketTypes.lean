import AIStreams.Base.Messages

/-!
# Packing values into packets

`aistreams/base/types/packet_types/`, `aistreams/base/make_packet.{h,cc}`,
`aistreams/base/packet_flags.cc` and `aistreams/base/packet_as.h`.  The destination of an
`Unpack` is a reference: its value before the call goes in, its value after the call comes
out with the status.

* `Inverts`: unpacking a payload type undoes packing it; one instance for each codec.
* `unpack_rawImage`: a raw image packet never reaches a fatal check.
* `packetAs_makePacket`: every packet reads back as what it was made from, and as nothing
  else.
-/

namespace AIStreams

/-! ### The types that travel in packets -/

structure Eos where
  value : EosValue
  deriving DecidableEq

structure JpegFrame where
  bytes : Bytes
  deriving DecidableEq

structure GstreamerBuffer where
  caps : Bytes
  bytes : Bytes
  deriving DecidableEq

/-- How an argument is passed: by const reference, or moved from. -/
inductive Passing
  | constRef
  | rvalue
  deriving DecidableEq

/-- `PacketTypeTraits<T>` with the `PackPayload` and `UnpackPayload` overloads of `T`;
`fresh` is `T()`. -/
class PacketTypeTraits (T : Type) where
  fresh : T
  packetTypeId : PacketTypeId
  packetTypeDescriptor : T → ProtoAny → Status × ProtoAny
  packPayload : Passing → T → Packet → Status × Packet
  unpackPayload : Passing → Packet → T → OrFatal (Status × T)

export PacketTypeTraits (packetTypeDescriptor packPayload unpackPayload)

/-! ### `Pack` and `Unpack` -/

section Pack

variable {T : Type} [PacketTypeTraits T]

def Packet.setTypeId (p : Packet) (id : PacketTypeId) : Packet :=
  { p with header.type.typeId := id }

def Packet.setTypeDescriptor (p : Packet) (any : ProtoAny) : Packet :=
  { p with header.type.typeDescriptor := any }

def Packet.setPayload (p : Packet) (bytes : Bytes) : Packet := { p with payload := bytes }

def pack (passing : Passing) (t : T) (p : Packet) : Status × Packet :=
  let p := p.setTypeId (PacketTypeTraits.packetTypeId T)
  let (status, any) := packetTypeDescriptor t p.header.type.typeDescriptor
  let p := p.setTypeDescriptor any
  if status.ok = false then (internalError "Failed to pack the packet type descriptor", p)
  else
    let (status, p) := packPayload passing t p
    if status.ok = false then (internalError "Failed to pack the packet payload", p)
    else (okStatus, p)

def validateUnpackArgs (T : Type) [PacketTypeTraits T] (p : Packet) : Status :=
  if p.header.type.typeId ≠ PacketTypeTraits.packetTypeId T then
    invalidArgumentError ("Given a Packet of type " ++ p.header.type.typeId.name ++
      " while the destination object requires a type of " ++
      (PacketTypeTraits.packetTypeId T).name)
  else okStatus

def unpack (passing : Passing) (p : Packet) (dst : T) : OrFatal (Status × T) :=
  let status := validateUnpackArgs T p
  if status.ok = false then .ok (status, dst)
  else
    match unpackPayload passing p dst with
    | .error e => .error e
    | .ok (status, dst) =>
      if status.ok = false then .ok (unknownError "Failed to unpack the packet payload", dst)
      else .ok (okStatus, dst)

theorem unpack_of_wrong_type {passing : Passing} {p : Packet} {dst : T}
    (hargs : (validateUnpackArgs T p).ok = false) :
    unpack passing p dst = .ok (validateUnpackArgs T p, dst) :=
  if_pos hargs

theorem unpack_of_error {passing : Passing} {p : Packet} {dst dst' : T} {status : Status}
    (hargs : (validateUnpackArgs T p).ok = true)
    (h : unpackPayload passing p dst = .ok (status, dst')) (hs : status.ok = false) :
    unpack passing p dst = .ok (unknownError "Failed to unpack the packet payload", dst') := by
  unfold unpack
  rw [if_neg (by simp [hargs]), h]
  exact if_pos hs

theorem unpack_of_ok {passing : Passing} {p : Packet} {dst dst' : T} {status : Status}
    (hargs : (validateUnpackArgs T p).ok = true)
    (h : unpackPayload passing p dst = .ok (status, dst')) (hs : status.ok = true) :
    unpack passing p dst = .ok (okStatus, dst') := by
  unfold unpack
  rw [if_neg (by simp [hargs]), h]
  exact if_neg (by simp [hs])

/-- `Unpack` lets exactly the packets of its own type id through to the payload. -/
theorem validateUnpackArgs_ok (p : Packet) : (validateUnpackArgs T p).ok = true ↔
    p.header.type.typeId = PacketTypeTraits.packetTypeId T := by
  unfold validateUnpackArgs
  by_cases h : p.header.type.typeId = PacketTypeTraits.packetTypeId T
  · simp [h]
  · simp [h]

end Pack

/-! ### The codecs -/

instance : PacketTypeTraits Bytes where
  fresh := []
  packetTypeId := .string
  packetTypeDescriptor _ any := (okStatus, any)
  packPayload _ s p := (okStatus, p.setPayload s)
  unpackPayload _ p _ := .ok (okStatus, p.payload)

instance : PacketTypeTraits JpegFrame where
  fresh := ⟨[]⟩
  packetTypeId := .jpeg
  packetTypeDescriptor _ any := (okStatus, any)
  packPayload _ frame p := (okStatus, p.setPayload frame.bytes)
  unpackPayload _ p _ := .ok (okStatus, ⟨p.payload⟩)

section RawImage

variable [Message RawImagePacketTypeDescriptor]

def validateAndGetDescriptor (p : Packet) : StatusOr RawImageDescriptor :=
  match unpackTo (M := RawImagePacketTypeDescriptor) p.header.type.typeDescriptor with
  | none =>
    .ofStatus (invalidArgumentError
      "Failed to Unpack the type decriptor as a RawImagePacketTypeDescriptor")
  | some desc =>
    let desc := desc.rawImageDescriptor
    if (validate desc).ok = false then
      .ofStatus (invalidArgumentError "Given an invalid RawImageDescriptor")
    else
      match getBufferSize desc with
      | .error status h => .error status h
      | .value n =>
        if p.payload.length ≠ toSizeT n then
          .ofStatus (invalidArgumentError
            ("The given Packet's payload size is inconsistent with its RawImageDescriptor (" ++
              toString p.payload.length ++ " vs " ++ toString n ++ ")"))
        else .value desc

/-- The constructor call of either overload, on a validated descriptor. -/
def rawImageFromPayload (passing : Passing) (desc : RawImageDescriptor) (payload : Bytes) :
    OrFatal RawImage :=
  match passing with
  | .constRef =>
    match RawImage.ofDescriptor desc with
    | .error e => .error e
    | .ok im => im.copyToData payload
  | .rvalue => RawImage.ofBytes desc payload

def unpackRawImage (passing : Passing) (p : Packet) (dst : RawImage) :
    OrFatal (Status × RawImage) :=
  match validateAndGetDescriptor p with
  | .error status _ => .ok (status, dst)
  | .value desc =>
    match rawImageFromPayload passing desc p.payload with
    | .error e => .error e
    | .ok im => .ok (okStatus, im)

instance : PacketTypeTraits RawImage where
  fresh := .default
  packetTypeId := .rawImage
  packetTypeDescriptor im _ :=
    (okStatus, packFrom (⟨⟨im.format, im.height, im.width⟩⟩ : RawImagePacketTypeDescriptor))
  packPayload _ im p := (okStatus, p.setPayload im.data)
  unpackPayload := unpackRawImage

end RawImage

section GstreamerBuffer

variable [Message GstreamerBufferPacketTypeDescriptor]

def unpackGstreamerBuffer (p : Packet) (dst : GstreamerBuffer) : Status × GstreamerBuffer :=
  match unpackTo (M := GstreamerBufferPacketTypeDescriptor) p.header.type.typeDescriptor with
  | none =>
    (invalidArgumentError
      "Failed to Unpack the type decriptor as a GstreamerBufferPacketTypeDescriptor", dst)
  | some desc => (okStatus, ⟨desc.capsString, p.payload⟩)

instance : PacketTypeTraits GstreamerBuffer where
  fresh := ⟨[], []⟩
  packetTypeId := .gstreamerBuffer
  packetTypeDescriptor buffer _ :=
    (okStatus, packFrom (⟨buffer.caps⟩ : GstreamerBufferPacketTypeDescriptor))
  packPayload _ buffer p := (okStatus, p.setPayload buffer.bytes)
  unpackPayload _ p dst := .ok (unpackGstreamerBuffer p dst)

end GstreamerBuffer

section Eos

variable [Message ControlSignalPacketTypeDescriptor] [Message EosValue]

def validateTypeDescriptor (p : Packet) : Status :=
  match unpackTo (M := ControlSignalPacketTypeDescriptor) p.header.type.typeDescriptor with
  | none =>
    invalidArgumentError "Failed to Unpack the type decriptor as a ControlSignalTypeDescriptor"
  | some desc =>
    if desc.typeId ≠ .eos then
      invalidArgumentError ("Given the ControlSignalTypeId " ++ desc.typeId.name ++
        " but expected " ++ ControlSignalTypeId.eos.name)
    else okStatus

/-- `SerializeToString` into the payload, `error` when it fails. -/
def serializePayload {M : Type} [Message M] (m : M) (error : Status) (p : Packet) :
    Status × Packet :=
  match serializeToString m with
  | none => (error, p)
  | some bytes => (okStatus, p.setPayload bytes)

def unpackEos (p : Packet) (dst : Eos) : Status × Eos :=
  if (validateTypeDescriptor p).ok = false then
    (invalidArgumentError "Failed to validate the packet type descriptor", dst)
  else
    match parseFromString (Message.default : EosValue) p.payload with
    | (false, _) => (internalError "Failed to parse the Eos' value", dst)
    | (true, value) => (okStatus, ⟨value⟩)

instance : PacketTypeTraits Eos where
  fresh := ⟨Message.default⟩
  packetTypeId := .controlSignal
  packetTypeDescriptor _ _ := (okStatus, packFrom (⟨.eos⟩ : ControlSignalPacketTypeDescriptor))
  packPayload _ eos p :=
    serializePayload eos.value
      (internalError "Failed to serialize the EosValue into the packet payload") p
  unpackPayload _ p dst := .ok (unpackEos p dst)

end Eos

section Protobuf

variable [Message ProtobufPacketTypeDescriptor] {M : Type} [Message M]

def unpackProtobuf (p : Packet) (dst : M) : Status × M :=
  match unpackTo (M := ProtobufPacketTypeDescriptor) p.header.type.typeDescriptor with
  | none =>
    (invalidArgumentError
      "Failed to Unpack the packet type decriptor as a ProtobufPacketTypeDescriptor", dst)
  | some desc =>
    if desc.specificMessageTypeName ≠ Message.getTypeName M then
      (invalidArgumentError ("Given a protobuf packet containing the specific type " ++
        desc.specificMessageTypeName ++
        ", but we are trying to receive it with a protobuf of type " ++ Message.getTypeName M), dst)
    else if desc.isTextFormat then
      (invalidArgumentError
        "Given a text format encoded protobuf. We require a binary encoded one here", dst)
    else
      match parseFromString dst p.payload with
      | (false, dst) => (internalError "Failed to parse the protobuf payload", dst)
      | (true, dst) => (okStatus, dst)

/-- The partial specialization for messages. -/
@[reducible] def protobufTraits (M : Type) [Message M] : PacketTypeTraits M where
  fresh := Message.default
  packetTypeId := .protobuf
  packetTypeDescriptor _ _ :=
    (okStatus, packFrom (⟨Message.getTypeName M, false⟩ : ProtobufPacketTypeDescriptor))
  packPayload _ m p :=
    serializePayload m
      (internalError "Failed to serialize the protobuf into the packet payload") p
  unpackPayload _ p dst := .ok (unpackProtobuf p dst)

end Protobuf

/-! ### Packet flags -/

/-- `enum class PacketFlags : int`, closed under `operator|`. -/
abbrev PacketFlags := Int32

namespace PacketFlags

def kEmpty : PacketFlags := 0x0
def kIsFrameHead : PacketFlags := 0x1
def kIsKeyFrame : PacketFlags := 0x2

end PacketFlags

def setPacketFlags (flags : PacketFlags) (p : Packet) : Packet :=
  { p with header.flags := p.header.flags ||| flags }

def unsetPacketFlags (flags : PacketFlags) (p : Packet) : Packet :=
  { p with header.flags := p.header.flags &&& ~~~flags }

def isPacketFlagsSet (flags : PacketFlags) (p : Packet) : Bool := p.header.flags &&& flags == flags

def clearPacketFlags (p : Packet) : Packet := { p with header.flags := PacketFlags.kEmpty }

/-- `RestoreDefaultPacketFlags`, which always returns OK. -/
def restoreDefaultPacketFlags (p : Packet) : Packet :=
  match p.header.type.typeId with
  | .jpeg | .rawImage | .protobuf | .string | .gstreamerBuffer =>
    setPacketFlags (PacketFlags.kIsFrameHead ||| PacketFlags.kIsKeyFrame) (clearPacketFlags p)
  | _ => clearPacketFlags p

/-! ### `MakePacket` -/

/-- `SetToCurrentTime`; `now` is what `clock_gettime` fills in, if it succeeds. -/
def setToCurrentTime (now : Option Timestamp) (p : Packet) : Status × Packet :=
  match now with
  | none => (unknownError "clock_gettime failed", p)
  | some ts => (okStatus, { p with header.timestamp := ts })

def makePacket {T : Type} [PacketTypeTraits T] (now : Option Timestamp) (passing : Passing) (t : T)
    (header : PacketHeader) (setCurrentTime : Bool) : StatusOr Packet :=
  let (status, p) := pack passing t ⟨header, []⟩
  if status.ok = false then .ofStatus status
  else
    let (status, p) := if setCurrentTime then setToCurrentTime now p else (okStatus, p)
    if status.ok = false then .ofStatus status
    else .value (restoreDefaultPacketFlags p)

def makeEosPacket [Message ControlSignalPacketTypeDescriptor] [Message EosValue]
    (now : Option Timestamp) (reason : String) : StatusOr Packet :=
  makePacket now .rvalue (⟨⟨reason⟩⟩ : Eos) .default true

/-! ### `PacketAs` -/

/-- `PacketAs<T>`: `status_`, `packet_` and `value_`. -/
structure PacketAs (T : Type) where
  status : Status
  packet : Packet
  value : T

namespace PacketAs

variable {T : Type}

/-- `PacketAs(packet)`: both constructors end in `Adapt`, which moves the packet they hold. -/
def adapt [PacketTypeTraits T] (packet : Packet) : OrFatal (PacketAs T) :=
  match unpack .rvalue packet (PacketTypeTraits.fresh : T) with
  | .error e => .error e
  | .ok (status, value) => .ok ⟨status, ⟨packet.header, []⟩, value⟩

def ok (a : PacketAs T) : Bool := a.status.ok

def header (a : PacketAs T) : PacketHeader := a.packet.header

/-- `ValueOrDie()`, with `EnsureOk`. -/
def valueOrDie (a : PacketAs T) : OrFatal T :=
  if a.ok = false then
    .error ⟨"The PacketAs was not successfully adapted: " ++ a.status.toString⟩
  else .ok a.value

end PacketAs

/-! ### Raw images from the network -/

section RawImage

variable [Message RawImagePacketTypeDescriptor]

/-- What `ValidateAndGetDescriptor` has checked when it returns a descriptor: all that
either constructor asks for. -/
theorem validateAndGetDescriptor_eq_value {p : Packet} {desc : RawImageDescriptor}
    (h : validateAndGetDescriptor p = .value desc) :
    unpackTo p.header.type.typeDescriptor = some (⟨desc⟩ : RawImagePacketTypeDescriptor) ∧
      (validate desc).ok = true ∧
      ∃ n, getBufferSize desc = .value n ∧ p.payload.length = toSizeT n := by
  unfold validateAndGetDescriptor at h
  split at h
  · exact absurd h (StatusOr.ofStatus_ne_value _ _)
  · rename_i d hd
    by_cases hvalid : (validate d.rawImageDescriptor).ok = false
    · rw [if_pos hvalid] at h
      exact absurd h (StatusOr.ofStatus_ne_value _ _)
    · rw [if_neg hvalid] at h
      split at h
      · cases h
      · rename_i n hn
        split at h
        · exact absurd h (StatusOr.ofStatus_ne_value _ _)
        · rename_i hlen
          cases h
          exact ⟨hd, by simpa using hvalid, n, hn, by omega⟩

omit [Message RawImagePacketTypeDescriptor] in
/-- **Neither constructor aborts on a validated descriptor**, and the image holds the
payload. -/
theorem rawImageFromPayload_eq_ok (passing : Passing) {desc : RawImageDescriptor} {n : Int32}
    {payload : Bytes} (hvalid : (validate desc).ok = true) (hsize : getBufferSize desc = .value n)
    (hlen : payload.length = toSizeT n) :
    ∃ im, rawImageFromPayload passing desc payload = .ok im ∧ im.descriptor = desc ∧
      im.data = payload := by
  cases passing with
  | constRef =>
    obtain ⟨blank, hblank, hdesc, hdata⟩ := RawImage.ofDescriptor_eq_ok hvalid hsize
    have hsame : payload.length = blank.data.length := by
      rw [hdata, List.length_replicate, hlen]
    obtain ⟨im, him, hdesc', hdata'⟩ := RawImage.copyToData_eq_ok hsame
    refine ⟨im, ?_, hdesc'.trans hdesc, hdata'⟩
    unfold rawImageFromPayload
    rw [hblank]
    exact him
  | rvalue => exact RawImage.ofBytes_eq_ok hvalid hsize hlen

/-- What unpacking a raw image does, by what `ValidateAndGetDescriptor` says. -/
theorem unpackRawImage_cases (passing : Passing) (p : Packet) (dst : RawImage) :
    (∃ status, status.ok = false ∧ unpackRawImage passing p dst = .ok (status, dst)) ∨
      ∃ im, unpackRawImage passing p dst = .ok (okStatus, im) ∧
        unpackTo p.header.type.typeDescriptor =
          some (⟨im.descriptor⟩ : RawImagePacketTypeDescriptor) ∧
        im.data = p.payload := by
  unfold unpackRawImage
  cases h : validateAndGetDescriptor p with
  | error status hs => exact Or.inl ⟨status, hs, rfl⟩
  | value desc =>
    obtain ⟨hany, hvalid, n, hsize, hlen⟩ := validateAndGetDescriptor_eq_value h
    obtain ⟨im, him, hdesc, hdata⟩ := rawImageFromPayload_eq_ok passing hvalid hsize hlen
    right
    refine ⟨im, ?_, hdesc ▸ hany, hdata⟩
    simp only [him]

/-- **A raw image packet never reaches a fatal check**, whatever came from the network.
`Unpack` fails and leaves the destination alone, or yields an image with the dimensions of
the descriptor, whose size is their product and whose bytes are the payload. -/
theorem unpack_rawImage (passing : Passing) (p : Packet) (dst : RawImage) :
    ∃ status im, unpack passing p dst = .ok (status, im) ∧
      (status.ok = false ∧ im = dst ∨
        status.ok = true ∧ ∃ desc : RawImagePacketTypeDescriptor,
          unpackTo p.header.type.typeDescriptor = some desc ∧
          im.height = desc.rawImageDescriptor.height ∧
          im.width = desc.rawImageDescriptor.width ∧
          0 ≤ im.height.toInt ∧ 0 ≤ im.width.toInt ∧
          (im.size : ℤ) = im.height.toInt * im.width.toInt *
            (getNumChannels desc.rawImageDescriptor.format).toInt ∧
          im.size < 2 ^ 31 ∧ im.data = p.payload) := by
  by_cases hargs : (validateUnpackArgs RawImage p).ok = true
  · rcases unpackRawImage_cases passing p dst with ⟨status, hs, he⟩ | ⟨im, he, hany, hdata⟩
    · exact ⟨_, dst, unpack_of_error hargs he hs, Or.inl ⟨rfl, rfl⟩⟩
    · have hdims := im.dims
      rw [im.channels_eq] at hdims
      exact ⟨_, im, unpack_of_ok hargs he rfl, Or.inr ⟨rfl, ⟨im.descriptor⟩, hany, rfl, rfl,
        hdims.1, hdims.2.1, hdims.2.2, im.size_lt, hdata⟩⟩
  · rw [Bool.not_eq_true] at hargs
    exact ⟨_, dst, unpack_of_wrong_type hargs, Or.inl ⟨hargs, rfl⟩⟩

end RawImage

/-! ### Unpacking undoes packing -/

/-- **Unpacking undoes packing**, in either passing: the payload and the descriptor that
packing leaves are read back as the value, whatever else is in the packet. -/
class Inverts (T : Type) [PacketTypeTraits T] : Prop where
  descriptor_ok : ∀ (t : T) (any : ProtoAny), (packetTypeDescriptor t any).1.ok = true
  payload_ok : ∀ (passing : Passing) (t : T) (p : Packet), (packPayload passing t p).1.ok = true
  payload_header : ∀ (passing : Passing) (t : T) (p : Packet),
    (packPayload passing t p).2.header = p.header
  unpack_eq : ∀ (passing passing' : Passing) (t : T) (any : ProtoAny) (p p' : Packet) (dst : T),
    p'.header.type.typeDescriptor = (packetTypeDescriptor t any).2 →
    p'.payload = (packPayload passing t p).2.payload →
    unpackPayload passing' p' dst = .ok (okStatus, t)

section Inverts

instance : Inverts Bytes where
  descriptor_ok _ _ := rfl
  payload_ok _ _ _ := rfl
  payload_header _ _ _ := rfl
  unpack_eq _ _ _ _ _ _ _ _ hpayload := congrArg (fun x => Except.ok (okStatus, x)) hpayload

instance : Inverts JpegFrame where
  descriptor_ok _ _ := rfl
  payload_ok _ _ _ := rfl
  payload_header _ _ _ := rfl
  unpack_eq _ _ _ _ _ _ _ _ hpayload := 
    congrArg (fun x => Except.ok (okStatus, JpegFrame.mk x)) hpayload

instance [Message RawImagePacketTypeDescriptor] [LawfulMessage RawImagePacketTypeDescriptor] :
    Inverts RawImage where
  descriptor_ok _ _ := rfl
  payload_ok _ _ _ := rfl
  payload_header _ _ _ := rfl
  unpack_eq := by
    intro _ passing' im any p p' dst hany hpayload
    have hany' : unpackTo p'.header.type.typeDescriptor =
        some (⟨im.descriptor⟩ : RawImagePacketTypeDescriptor) := by
      rw [hany]
      exact LawfulMessage.unpackTo_packFrom _
    obtain ⟨n, hn, hlen⟩ := im.size_eq
    have hdata : p'.payload = im.data := hpayload
    have hdesc : validateAndGetDescriptor p' = .value im.descriptor := by
      unfold validateAndGetDescriptor
      rw [hany']
      show (if (validate im.descriptor).ok = false then _ else _) = _
      rw [if_neg (by simp [im.validate_descriptor])]
      show (match getBufferSize im.descriptor with | .error s h => _ | .value n => _) = _
      rw [show getBufferSize im.descriptor = .value n from hn, hdata]
      exact if_neg (not_not.mpr hlen)
    obtain ⟨im', him, hdesc', hdata'⟩ := rawImageFromPayload_eq_ok passing'
      im.validate_descriptor hn (hdata ▸ hlen)
    show unpackRawImage passing' p' dst = _
    unfold unpackRawImage
    rw [hdesc]
    simp only [him, RawImage.ext_of_descriptor hdesc' (hdata'.trans hdata)]

instance [Message GstreamerBufferPacketTypeDescriptor]
    [LawfulMessage GstreamerBufferPacketTypeDescriptor] : Inverts GstreamerBuffer where
  descriptor_ok _ _ := rfl
  payload_ok _ _ _ := rfl
  payload_header _ _ _ := rfl
  unpack_eq := by
    intro _ _ buffer any p p' dst hany hpayload
    have hany' : unpackTo p'.header.type.typeDescriptor =
        some (⟨buffer.caps⟩ : GstreamerBufferPacketTypeDescriptor) := by
      rw [hany]
      exact LawfulMessage.unpackTo_packFrom _
    have hdata : p'.payload = buffer.bytes := hpayload
    show Except.ok (unpackGstreamerBuffer p' dst) = _
    unfold unpackGstreamerBuffer
    rw [hany', hdata]

/-- Serializing a lawful message into a payload succeeds, and parsing the payload gives the
message back. -/
theorem serializePayload_eq {M : Type} [Message M] [LawfulMessage M] (m : M) (error : Status)
    (p : Packet) : (serializePayload m error p).1.ok = true ∧
      (serializePayload m error p).2.header = p.header ∧
      ∀ dst : M, parseFromString dst (serializePayload m error p).2.payload = (true, m) := by
  obtain ⟨bytes, hb, hparse⟩ := LawfulMessage.parse_serialize m
  unfold serializePayload
  rw [hb]
  exact ⟨rfl, rfl, hparse⟩

instance [Message ControlSignalPacketTypeDescriptor]
    [LawfulMessage ControlSignalPacketTypeDescriptor] [Message EosValue]
    [LawfulMessage EosValue] : Inverts Eos where
  descriptor_ok _ _ := rfl
  payload_ok _ eos p := (serializePayload_eq eos.value _ p).1
  payload_header _ eos p := (serializePayload_eq eos.value _ p).2.1
  unpack_eq := by
    intro _ _ eos any p p' dst hany hpayload
    have hany' : unpackTo p'.header.type.typeDescriptor =
        some (⟨.eos⟩ : ControlSignalPacketTypeDescriptor) := by
      rw [hany]
      exact LawfulMessage.unpackTo_packFrom _
    have hvalid : (validateTypeDescriptor p').ok = true := by
      unfold validateTypeDescriptor
      rw [hany']
      rfl
    have hparse : parseFromString (Message.default : EosValue) p'.payload = (true, eos.value) := by
      rw [hpayload]
      exact (serializePayload_eq eos.value _ p).2.2 _
    show Except.ok (unpackEos p' dst) = _
    unfold unpackEos
    rw [if_neg (by simp [hvalid]), hparse]

/-- The descriptor of a protobuf packet names the message type. -/
theorem inverts_protobuf [Message ProtobufPacketTypeDescriptor]
    [LawfulMessage ProtobufPacketTypeDescriptor] (M : Type) [Message M] [LawfulMessage M] :
    @Inverts M (protobufTraits M) := by
  let _ := protobufTraits M
  refine @Inverts.mk M _ (fun _ _ => rfl) (fun _ m p => (serializePayload_eq m _ p).1)
    (fun _ m p => (serializePayload_eq m _ p).2.1) ?_
  intro _ _ m any p p' dst hany hpayload
  have hany' : unpackTo p'.header.type.typeDescriptor =
      some (⟨Message.getTypeName M, false⟩ : ProtobufPacketTypeDescriptor) := by
    rw [hany]
    exact LawfulMessage.unpackTo_packFrom _
  have hparse : parseFromString dst p'.payload = (true, m) := by
    rw [hpayload]
    exact (serializePayload_eq m _ p).2.2 dst
  show Except.ok (unpackProtobuf p' dst) = _
  unfold unpackProtobuf
  rw [hany']
  simp only [ne_eq, not_true_eq_false, if_false, Bool.false_eq_true, hparse]

end Inverts

/-! ### `MakePacket`, then `PacketAs` -/

section MakePacket

variable {T : Type} [PacketTypeTraits T]

/-- A packet that `MakePacket` made from `t`, as far as unpacking looks at it. -/
structure MadeFrom (t : T) (p : Packet) : Prop where
  typeId : p.header.type.typeId = PacketTypeTraits.packetTypeId T
  descriptor : ∃ any, p.header.type.typeDescriptor = (packetTypeDescriptor t any).2
  payload : ∃ passing p', p.payload = (packPayload passing t p').2.payload

theorem restoreDefaultPacketFlags_type (p : Packet) :
    (restoreDefaultPacketFlags p).header.type = p.header.type ∧
      (restoreDefaultPacketFlags p).payload = p.payload := by
  unfold restoreDefaultPacketFlags
  split <;> exact ⟨rfl, rfl⟩

/-- `MakePacket` succeeds when the clock does, and leaves type and payload as packed. -/
theorem makePacket_eq [Inverts T] (now : Timestamp) (passing : Passing) (t : T)
    (header : PacketHeader) (setCurrentTime : Bool) :
    ∃ p, makePacket (some now) passing t header setCurrentTime = .value p ∧ MadeFrom t p := by
  let p₀ : Packet := (Packet.setTypeId ⟨header, []⟩ (PacketTypeTraits.packetTypeId T))
  let p₁ : Packet := p₀.setTypeDescriptor (packetTypeDescriptor t p₀.header.type.typeDescriptor).2
  let p₂ : Packet := (packPayload passing t p₁).2
  have hpack : pack passing t ⟨header, []⟩ = (okStatus, p₂) := by
    unfold pack
    show (if (packetTypeDescriptor t p₀.header.type.typeDescriptor).1.ok = false then _
      else if (packPayload passing t p₁).1.ok = false then _ else _) = _
    rw [if_neg (by simp [Inverts.descriptor_ok]), if_neg (by simp [Inverts.payload_ok])]
    rfl
  have hmade : MadeFrom t p₂ := by
    have hheader : p₂.header = p₁.header := Inverts.payload_header passing t p₁
    exact ⟨by rw [hheader]; rfl, ⟨_, by rw [hheader]; rfl⟩, ⟨passing, p₁, rfl⟩⟩
  have hrestore : ∀ p : Packet, p.header.type = p₂.header.type → p.payload = p₂.payload →
      MadeFrom t (restoreDefaultPacketFlags p) := by
    intro p htype hpayload
    obtain ⟨htype', hpayload'⟩ := restoreDefaultPacketFlags_type p
    refine ⟨?_, ?_, ?_⟩
    · rw [htype', htype]
      exact hmade.typeId
    · rw [htype', htype]
      exact hmade.descriptor
    · rw [hpayload', hpayload]
      exact hmade.payload
  unfold makePacket
  rw [hpack]
  cases setCurrentTime with
  | false => exact ⟨_, rfl, hrestore p₂ rfl rfl⟩
  | true => exact ⟨_, rfl, hrestore _ rfl rfl⟩

/-- Reading a packet back as the type it was made from. -/
theorem adapt_of_madeFrom [Inverts T] {t : T} {p : Packet} (h : MadeFrom t p) :
    ∃ a : PacketAs T, PacketAs.adapt p = .ok a ∧ a.ok = true ∧ a.valueOrDie = .ok t ∧
      a.header = p.header := by
  obtain ⟨any, hany⟩ := h.descriptor
  obtain ⟨passing, p', hpayload⟩ := h.payload
  have hargs : (validateUnpackArgs T p).ok = true := (validateUnpackArgs_ok p).mpr h.typeId
  have hunpack : unpack .rvalue p (PacketTypeTraits.fresh : T) = .ok (okStatus, t) :=
    unpack_of_ok hargs (Inverts.unpack_eq passing .rvalue t any p' p _ hany hpayload) rfl
  refine ⟨⟨okStatus, ⟨p.header, []⟩, t⟩, ?_, rfl, rfl, rfl⟩
  unfold PacketAs.adapt
  rw [hunpack]

/-- An adaptation that fails keeps the header. -/
theorem adapt_of_error {p : Packet} {status : Status} {t : T}
    (h : unpack .rvalue p (PacketTypeTraits.fresh : T) = .ok (status, t))
    (hs : status.ok = false) :
    ∃ a : PacketAs T, PacketAs.adapt p = .ok a ∧ a.ok = false ∧ a.header = p.header := by
  refine ⟨⟨status, ⟨p.header, []⟩, t⟩, ?_, hs, rfl⟩
  unfold PacketAs.adapt
  rw [h]

theorem adapt_of_wrong_type {p : Packet}
    (h : p.header.type.typeId ≠ PacketTypeTraits.packetTypeId T) :
    ∃ a : PacketAs T, PacketAs.adapt p = .ok a ∧ a.ok = false ∧ a.header = p.header := by
  have hargs : (validateUnpackArgs T p).ok = false := by
    rw [← Bool.not_eq_true, validateUnpackArgs_ok]
    exact h
  exact adapt_of_error (unpack_of_wrong_type hargs) hargs

end MakePacket

theorem unpackProtobuf_of_wrong_name [Message ProtobufPacketTypeDescriptor] {M : Type} [Message M]
    {p : Packet} {name : String} (h : unpackTo p.header.type.typeDescriptor =
      some (⟨name, false⟩ : ProtobufPacketTypeDescriptor)) (hname : name ≠ Message.getTypeName M)
    (dst : M) : ∃ status, status.ok = false ∧ unpackProtobuf p dst = (status, dst) := by
  unfold unpackProtobuf
  rw [h]
  exact ⟨_, invalidArgumentError_ok _, if_pos hname⟩

/-- A message packet is not read as a message of another name. -/
theorem adapt_of_wrong_name [Message ProtobufPacketTypeDescriptor]
    [LawfulMessage ProtobufPacketTypeDescriptor] {M N : Type} [Message M] [Message N]
    (hname : Message.getTypeName M ≠ Message.getTypeName N) {m : M} {p : Packet}
    (h : @MadeFrom M (protobufTraits M) m p) :
    ∃ a : PacketAs N, @PacketAs.adapt N (protobufTraits N) p = .ok a ∧ a.ok = false ∧
      a.header = p.header := by
  let _ := protobufTraits M
  let _ := protobufTraits N
  obtain ⟨any, hany⟩ := h.descriptor
  have hany' : unpackTo p.header.type.typeDescriptor =
      some (⟨Message.getTypeName M, false⟩ : ProtobufPacketTypeDescriptor) := by
    rw [hany]
    exact LawfulMessage.unpackTo_packFrom _
  have hargs : (validateUnpackArgs N p).ok = true := (validateUnpackArgs_ok p).mpr h.typeId
  obtain ⟨status, hs, hp⟩ := unpackProtobuf_of_wrong_name hany' hname (Message.default : N)
  exact adapt_of_error (unpack_of_error hargs (congrArg Except.ok hp) hs) rfl

/-! ### Every packet type at once -/

/-- The types that `MakePacket` and `PacketAs` are instantiated at. -/
inductive PacketValueType : Type 1
  | string
  | jpegFrame
  | rawImage
  | gstreamerBuffer
  | eos
  | protobuf (M : Type) [Message M] [LawfulMessage M]

/-- What tells two of them apart: two message types differ when their names do. -/
inductive PacketValueKind
  | string
  | jpegFrame
  | rawImage
  | gstreamerBuffer
  | eos
  | protobuf (typeName : String)
  deriving DecidableEq

namespace PacketValueType

/-- The C++ type. -/
abbrev Carrier : PacketValueType → Type
  | string => Bytes
  | jpegFrame => JpegFrame
  | rawImage => RawImage
  | gstreamerBuffer => GstreamerBuffer
  | eos => Eos
  | protobuf M => M

def kind : PacketValueType → PacketValueKind
  | string => .string
  | jpegFrame => .jpegFrame
  | rawImage => .rawImage
  | gstreamerBuffer => .gstreamerBuffer
  | eos => .eos
  | protobuf M => .protobuf (Message.getTypeName M)

section RoundTrip

variable [Message RawImagePacketTypeDescriptor] [Message GstreamerBufferPacketTypeDescriptor]
  [Message ProtobufPacketTypeDescriptor] [Message ControlSignalPacketTypeDescriptor]
  [Message EosValue]

instance traits : (T : PacketValueType) → PacketTypeTraits T.Carrier
  | string => inferInstanceAs (PacketTypeTraits Bytes)
  | jpegFrame => inferInstanceAs (PacketTypeTraits JpegFrame)
  | rawImage => inferInstanceAs (PacketTypeTraits RawImage)
  | gstreamerBuffer => inferInstanceAs (PacketTypeTraits GstreamerBuffer)
  | eos => inferInstanceAs (PacketTypeTraits Eos)
  | protobuf M => protobufTraits M

/-- Types of different kinds have different type ids, or are messages of different names. -/
theorem kind_cases {T U : PacketValueType} (h : T.kind ≠ U.kind) :
    PacketTypeTraits.packetTypeId T.Carrier ≠ PacketTypeTraits.packetTypeId U.Carrier ∨
      ∃ (M N : Type) (_ : Message M) (_ : LawfulMessage M) (_ : Message N) (_ : LawfulMessage N),
        T = .protobuf M ∧ U = .protobuf N ∧ Message.getTypeName M ≠ Message.getTypeName N := by
  cases T with
  | protobuf M =>
    cases U with
    | protobuf N =>
      exact Or.inr ⟨M, N, _, ‹_›, _, ‹_›, rfl, rfl,
        fun he => h (congrArg PacketValueKind.protobuf he)⟩
    | _ => exact Or.inl (fun he => nomatch he)
  | _ =>
    cases U with
    | protobuf N => exact Or.inl (fun he => nomatch he)
    | _ => first | exact absurd rfl h | exact Or.inl (fun he => nomatch he)

variable [LawfulMessage RawImagePacketTypeDescriptor]
  [LawfulMessage GstreamerBufferPacketTypeDescriptor]
  [LawfulMessage ProtobufPacketTypeDescriptor] [LawfulMessage ControlSignalPacketTypeDescriptor]
  [LawfulMessage EosValue]

instance inverts : (T : PacketValueType) → Inverts T.Carrier
  | string => inferInstanceAs (Inverts Bytes)
  | jpegFrame => inferInstanceAs (Inverts JpegFrame)
  | rawImage => inferInstanceAs (Inverts RawImage)
  | gstreamerBuffer => inferInstanceAs (Inverts GstreamerBuffer)
  | eos => inferInstanceAs (Inverts Eos)
  | protobuf M => inverts_protobuf M

/-- **Every packet reads back as what it was made from, and as nothing else.**  For every
packet type, value, prior header and choice of the time, `MakePacket` succeeds; `PacketAs`
of the same type yields the value, `PacketAs` of any other type fails, and both keep the
packet's header. -/
theorem packetAs_makePacket (T : PacketValueType) (now : Timestamp) (passing : Passing)
    (t : T.Carrier) (header : PacketHeader) (setCurrentTime : Bool) :
    ∃ p, makePacket (some now) passing t header setCurrentTime = .value p ∧
      (∃ a : PacketAs T.Carrier, PacketAs.adapt p = .ok a ∧ a.ok = true ∧
        a.valueOrDie = .ok t ∧ a.header = p.header) ∧
      ∀ U : PacketValueType, T.kind ≠ U.kind →
        ∃ a : PacketAs U.Carrier, PacketAs.adapt p = .ok a ∧ a.ok = false ∧
          a.header = p.header := by
  obtain ⟨p, hp, hmade⟩ := makePacket_eq now passing t header setCurrentTime
  refine ⟨p, hp, adapt_of_madeFrom hmade, ?_⟩
  intro U hkind
  rcases kind_cases hkind with hid | ⟨M, N, _, _, _, _, rfl, rfl, hname⟩
  · exact adapt_of_wrong_type (hmade.typeId ▸ hid)
  · exact adapt_of_wrong_name hname hmade

end RoundTrip

open WireMessages in
/-- An end of stream, on the wire and back. -/
theorem packetAs_makePacket_eos :
    ∃ p, makePacket (some ⟨1600000000, 7⟩) .rvalue (⟨⟨"bye"⟩⟩ : Eos) .default true = .value p ∧
      (∃ a : PacketAs Eos, PacketAs.adapt p = .ok a ∧ a.ok = true ∧
        a.valueOrDie = .ok ⟨⟨"bye"⟩⟩ ∧ a.header = p.header) ∧
      ∃ a : PacketAs RawImage, PacketAs.adapt p = .ok a ∧ a.ok = false ∧ a.header = p.header := by
  obtain ⟨p, hp, hsame, hother⟩ :=
    packetAs_makePacket .eos ⟨1600000000, 7⟩ .rvalue ⟨⟨"bye"⟩⟩ .default true
  exact ⟨p, hp, hsame, hother .rawImage (by decide)⟩

end PacketValueType

end AIStreams
