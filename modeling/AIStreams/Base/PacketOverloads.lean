import AIStreams.Base.PacketTypes

/-!
# The copying and the moving codecs

`PackPayload` and `UnpackPayload` of `aistreams/base/types/packet_types/`, overload by overload
and with their pointer arguments.  `Pack` and `Unpack` pass references, which are never null;
`PacketAs` always ends in a moving overload, other callers in a copying one.

* `overloads_agree`: both overloads of a codec pack the same packet and unpack the same value.
* `Overloads.Models`: the codecs of `PacketTypeTraits` are these overloads.
* `unpack_eq_constRef`: it does not matter how a packet is passed to `Unpack`.
-/

namespace AIStreams

/-! ### Overloads -/

/-- The overloads of a codec.  The argument that is packed, or unpacked from, comes back as the
call leaves it; a null pointer is `none`. -/
structure Overloads (T : Type) where
  packPayload : Passing → T → Option Packet → Status × Option Packet × T
  unpackPayload : Passing → Packet → Option T → OrFatal (Status × Packet × Option T)

/-- The bytes in `[data, data + size)`. -/
def addressRange (data : Bytes) (size : ℕ) : Bytes := data.take size

section Family

variable {T D : Type}

/-- `PackPayload`: `bytes` is what the payload becomes, `rest` what is left of the value. -/
def packInto (bytes : T → Bytes) (rest : T → T) (t : T) :
    Option Packet → Status × Option Packet × T
  | none => (invalidArgumentError "Given a nullptr to a Packet", none, t)
  | some p => (okStatus, some (p.setPayload (bytes t)), rest t)

/-- `UnpackPayload`: the packet is validated, and then read into the destination by `read`;
`rest` is what is left of its payload. -/
def unpackFrom (typeName : String) (validate : Packet → StatusOr D)
    (read : D → Bytes → T → OrFatal T) (rest : Bytes → Bytes) (p : Packet) :
    Option T → OrFatal (Status × Packet × Option T)
  | none => .ok (invalidArgumentError ("Given a nullptr to a " ++ typeName), p, none)
  | some dst =>
    match validate p with
    | .error status _ => .ok (status, p, some dst)
    | .value desc =>
      match read desc p.payload dst with
      | .error e => .error e
      | .ok dst => .ok (okStatus, p.setPayload (rest p.payload), some dst)

end Family

theorem addressRange_length (data : Bytes) : addressRange data data.length = data :=
  List.take_length

/-- A type without a descriptor: every packet is good. -/
def noDescriptor (_ : Packet) : StatusOr Unit := .value ()

/-! ### `std::string` -/

namespace StringPacketType

/-- `PackPayload(const std::string&, Packet*)`. -/
def packPayload : Bytes → Option Packet → Status × Option Packet × Bytes :=
  packInto (fun s => addressRange s s.length) id

/-- `PackPayload(std::string&&, Packet*)`; `husk` is what a string is once it is moved from. -/
def packPayloadMoved (husk : Bytes → Bytes) :
    Bytes → Option Packet → Status × Option Packet × Bytes :=
  packInto id husk

/-- `UnpackPayload(const Packet&, std::string*)`. -/
def unpackPayload : Packet → Option Bytes → OrFatal (Status × Packet × Option Bytes) :=
  unpackFrom "std::string" noDescriptor
    (fun _ payload _ => .ok (addressRange payload payload.length)) id

/-- `UnpackPayload(Packet&&, std::string*)`. -/
def unpackPayloadMoved (husk : Bytes → Bytes) :
    Packet → Option Bytes → OrFatal (Status × Packet × Option Bytes) :=
  unpackFrom "std::string" noDescriptor (fun _ payload _ => .ok payload) husk

def overloads (husk : Bytes → Bytes) : Overloads Bytes where
  packPayload
    | .constRef => packPayload
    | .rvalue => packPayloadMoved husk
  unpackPayload
    | .constRef => unpackPayload
    | .rvalue => unpackPayloadMoved husk

end StringPacketType

/-! ### `JpegFrame` -/

namespace JpegFrame

def data (frame : JpegFrame) : Bytes := frame.bytes

def size (frame : JpegFrame) : ℕ := frame.bytes.length

end JpegFrame

namespace JpegFramePacketType

/-- `PackPayload(const JpegFrame&, Packet*)`. -/
def packPayload : JpegFrame → Option Packet → Status × Option Packet × JpegFrame :=
  packInto (fun frame => addressRange frame.data frame.size) id

/-- `PackPayload(JpegFrame&&, Packet*)`. -/
def packPayloadMoved (husk : Bytes → Bytes) :
    JpegFrame → Option Packet → Status × Option Packet × JpegFrame :=
  packInto JpegFrame.bytes (fun frame => ⟨husk frame.bytes⟩)

/-- `UnpackPayload(const Packet&, JpegFrame*)`. -/
def unpackPayload : Packet → Option JpegFrame → OrFatal (Status × Packet × Option JpegFrame) :=
  unpackFrom "JpegFrame" noDescriptor
    (fun _ payload _ => .ok ⟨addressRange payload payload.length⟩) id

/-- `UnpackPayload(Packet&&, JpegFrame*)`. -/
def unpackPayloadMoved (husk : Bytes → Bytes) :
    Packet → Option JpegFrame → OrFatal (Status × Packet × Option JpegFrame) :=
  unpackFrom "JpegFrame" noDescriptor (fun _ payload _ => .ok ⟨payload⟩) husk

def overloads (husk : Bytes → Bytes) : Overloads JpegFrame where
  packPayload
    | .constRef => packPayload
    | .rvalue => packPayloadMoved husk
  unpackPayload
    | .constRef => unpackPayload
    | .rvalue => unpackPayloadMoved husk

end JpegFramePacketType

/-! ### `RawImage` -/

/-- A `RawImage` at any time of its life.  `std::move(im).ReleaseBuffer()` leaves the dimensions
without the bytes, so that what the constructors establish does not last. -/
structure RawImage.Object where
  height : Int32
  width : Int32
  channels : Int32
  format : RawImageFormat
  data : Bytes
  deriving DecidableEq

namespace RawImage

def Object.size (o : Object) : ℕ := o.data.length

def Object.withData (o : Object) (bytes : Bytes) : Object := { o with data := bytes }

def object (im : RawImage) : Object := ⟨im.height, im.width, im.channels, im.format, im.data⟩

end RawImage

namespace RawImagePacketType

/-- `PackPayload(const RawImage&, Packet*)`. -/
def packPayload : RawImage.Object → Option Packet → Status × Option Packet × RawImage.Object :=
  packInto (fun im => addressRange im.data im.size) id

/-- `PackPayload(RawImage&&, Packet*)`. -/
def packPayloadMoved (husk : Bytes → Bytes) :
    RawImage.Object → Option Packet → Status × Option Packet × RawImage.Object :=
  packInto RawImage.Object.data (fun im => im.withData (husk im.data))

variable [Message RawImagePacketTypeDescriptor]

/-- `UnpackPayload(const Packet&, RawImage*)`. -/
def unpackPayload :
    Packet → Option RawImage.Object → OrFatal (Status × Packet × Option RawImage.Object) :=
  unpackFrom "RawImage" validateAndGetDescriptor
    (fun desc payload _ => (rawImageFromPayload .constRef desc payload).map RawImage.object) id

/-- `UnpackPayload(Packet&&, RawImage*)`. -/
def unpackPayloadMoved (husk : Bytes → Bytes) :
    Packet → Option RawImage.Object → OrFatal (Status × Packet × Option RawImage.Object) :=
  unpackFrom "RawImage" validateAndGetDescriptor
    (fun desc payload _ => (rawImageFromPayload .rvalue desc payload).map RawImage.object) husk

def overloads (husk : Bytes → Bytes) : Overloads RawImage.Object where
  packPayload
    | .constRef => packPayload
    | .rvalue => packPayloadMoved husk
  unpackPayload
    | .constRef => unpackPayload
    | .rvalue => unpackPayloadMoved husk

end RawImagePacketType

/-! ### `GstreamerBuffer` -/

namespace GstreamerBuffer

def data (buffer : GstreamerBuffer) : Bytes := buffer.bytes

def size (buffer : GstreamerBuffer) : ℕ := buffer.bytes.length

def setCapsString (buffer : GstreamerBuffer) (capsString : Bytes) : GstreamerBuffer :=
  { buffer with caps := capsString }

/-- `assign(s)`, which copies, and `assign(std::move(s))`. -/
def assign (buffer : GstreamerBuffer) (s : Bytes) : GstreamerBuffer := { buffer with bytes := s }

end GstreamerBuffer

namespace GstreamerBufferPacketType

/-- `PackPayload(const GstreamerBuffer&, Packet*)`. -/
def packPayload : GstreamerBuffer → Option Packet → Status × Option Packet × GstreamerBuffer :=
  packInto (fun buffer => addressRange buffer.data buffer.size) id

/-- `PackPayload(GstreamerBuffer&&, Packet*)`. -/
def packPayloadMoved (husk : Bytes → Bytes) :
    GstreamerBuffer → Option Packet → Status × Option Packet × GstreamerBuffer :=
  packInto GstreamerBuffer.bytes (fun buffer => buffer.assign (husk buffer.bytes))

variable [Message GstreamerBufferPacketTypeDescriptor]

def getTypeDescriptor (p : Packet) : StatusOr GstreamerBufferPacketTypeDescriptor :=
  match unpackTo p.header.type.typeDescriptor with
  | none =>
    .ofStatus (invalidArgumentError
      "Failed to Unpack the type decriptor as a GstreamerBufferPacketTypeDescriptor")
  | some desc => .value desc

/-- `UnpackPayload(const Packet&, GstreamerBuffer*)`. -/
def unpackPayload :
    Packet → Option GstreamerBuffer → OrFatal (Status × Packet × Option GstreamerBuffer) :=
  unpackFrom "GstreamerBuffer" getTypeDescriptor
    (fun desc payload dst => .ok ((dst.setCapsString desc.capsString).assign payload)) id

/-- `UnpackPayload(Packet&&, GstreamerBuffer*)`. -/
def unpackPayloadMoved (husk : Bytes → Bytes) :
    Packet → Option GstreamerBuffer → OrFatal (Status × Packet × Option GstreamerBuffer) :=
  unpackFrom "GstreamerBuffer" getTypeDescriptor
    (fun desc payload dst => .ok ((dst.setCapsString desc.capsString).assign payload)) husk

def overloads (husk : Bytes → Bytes) : Overloads GstreamerBuffer where
  packPayload
    | .constRef => packPayload
    | .rvalue => packPayloadMoved husk
  unpackPayload
    | .constRef => unpackPayload
    | .rvalue => unpackPayloadMoved husk

end GstreamerBufferPacketType

/-! ### They agree -/

/-- Copying and moving come to the same: the same status and packet from packing; from unpacking
the same status and destination, without a fatal check.  What is passed by const reference stays
as it is, and so does, where unpacking fails, what was to be moved from. -/
structure Overloads.Agree {T : Type} (o : Overloads T) : Prop where
  pack : ∀ t p, (o.packPayload .rvalue t p).1 = (o.packPayload .constRef t p).1 ∧
    (o.packPayload .rvalue t p).2.1 = (o.packPayload .constRef t p).2.1 ∧
    (o.packPayload .constRef t p).2.2 = t
  unpack : ∀ p dst, ∃ status p' dst',
    o.unpackPayload .constRef p dst = .ok (status, p, dst') ∧
    o.unpackPayload .rvalue p dst = .ok (status, p', dst') ∧
    (status.ok = false → p' = p ∧ dst' = dst)

section Family

variable {T D : Type} {bytes bytes' : T → Bytes} {restValue : T → T} {typeName : String}
  {validate : Packet → StatusOr D} {read read' : D → Bytes → T → OrFatal T} {rest : Bytes → Bytes}

theorem packInto_some (t : T) (p : Packet) :
    packInto bytes restValue t (some p) = (okStatus, some (p.setPayload (bytes t)), restValue t) :=
  rfl

theorem unpackFrom_of_error {p : Packet} {status : Status} {hs : status.ok = false}
    (h : validate p = .error status hs) (dst : T) :
    unpackFrom typeName validate read rest p (some dst) = .ok (status, p, some dst) := by
  simp only [unpackFrom, h]

theorem unpackFrom_of_value {p : Packet} {desc : D} (h : validate p = .value desc) (dst : T) :
    unpackFrom typeName validate read rest p (some dst) =
      (read desc p.payload dst).map fun t =>
        (okStatus, p.setPayload (rest p.payload), some t) := by
  simp only [unpackFrom, h]
  cases read desc p.payload dst <;> rfl

theorem packInto_agree (h : ∀ t, bytes' t = bytes t) (t : T) (p : Option Packet) :
    (packInto bytes' restValue t p).1 = (packInto bytes id t p).1 ∧
      (packInto bytes' restValue t p).2.1 = (packInto bytes id t p).2.1 ∧
      (packInto bytes id t p).2.2 = t := by
  cases p with
  | none => exact ⟨rfl, rfl, rfl⟩
  | some p => exact ⟨rfl, congrArg (fun s => some (p.setPayload s)) (h t), rfl⟩

/-- Validation comes first, so that a packet which is turned down has not been moved from. -/
theorem unpackFrom_agree (h : ∀ p desc dst, validate p = .value desc →
      ∃ t, read desc p.payload dst = .ok t ∧ read' desc p.payload dst = .ok t)
    (p : Packet) (dst : Option T) : ∃ status p' dst',
      unpackFrom typeName validate read id p dst = .ok (status, p, dst') ∧
      unpackFrom typeName validate read' rest p dst = .ok (status, p', dst') ∧
      (status.ok = false → p' = p ∧ dst' = dst) := by
  cases dst with
  | none => exact ⟨_, p, none, rfl, rfl, fun _ => ⟨rfl, rfl⟩⟩
  | some dst =>
    cases hvalid : validate p with
    | error status hs =>
      exact ⟨status, p, some dst, unpackFrom_of_error hvalid dst, unpackFrom_of_error hvalid dst,
        fun _ => ⟨rfl, rfl⟩⟩
    | value desc =>
      obtain ⟨t, hread, hread'⟩ := h p desc dst hvalid
      refine ⟨okStatus, p.setPayload (rest p.payload), some t, ?_, ?_, ?_⟩
      · rw [unpackFrom_of_value hvalid, hread]
        rfl
      · rw [unpackFrom_of_value hvalid, hread']
        rfl
      · intro hok
        simp at hok

end Family

theorem StringPacketType.agree (husk : Bytes → Bytes) : (overloads husk).Agree := by
  refine ⟨packInto_agree fun s => (addressRange_length s).symm, ?_⟩
  simp only [overloads, unpackPayload, unpackPayloadMoved]
  apply unpackFrom_agree
  intro p _ _ _
  exact ⟨p.payload, congrArg Except.ok (addressRange_length p.payload), rfl⟩

theorem JpegFramePacketType.agree (husk : Bytes → Bytes) : (overloads husk).Agree := by
  refine ⟨packInto_agree fun frame => (addressRange_length frame.bytes).symm, ?_⟩
  simp only [overloads, unpackPayload, unpackPayloadMoved]
  apply unpackFrom_agree
  intro p _ _ _
  refine ⟨⟨p.payload⟩, ?_, rfl⟩
  rw [addressRange_length]

/-- The blank image of the copying overload has room for the payload, and the constructor of the
moving one takes it, for the same reason: the descriptor has been validated. -/
theorem RawImagePacketType.agree [Message RawImagePacketTypeDescriptor] (husk : Bytes → Bytes) :
    (overloads husk).Agree := by
  refine ⟨packInto_agree fun im => (addressRange_length im.data).symm, ?_⟩
  simp only [overloads, unpackPayload, unpackPayloadMoved]
  apply unpackFrom_agree
  intro p desc _ hvalidate
  obtain ⟨_, hvalid, n, hsize, hlen⟩ := validateAndGetDescriptor_eq_value hvalidate
  obtain ⟨im, him, hdesc, hdata⟩ := rawImageFromPayload_eq_ok .constRef hvalid hsize hlen
  obtain ⟨im', him', hdesc', hdata'⟩ := rawImageFromPayload_eq_ok .rvalue hvalid hsize hlen
  have hsame : im' = im :=
    RawImage.ext_of_descriptor (hdesc'.trans hdesc.symm) (hdata'.trans hdata.symm)
  rw [hsame] at him'
  exact ⟨im.object, congrArg (Except.map RawImage.object) him,
    congrArg (Except.map RawImage.object) him'⟩

theorem GstreamerBufferPacketType.agree [Message GstreamerBufferPacketTypeDescriptor]
    (husk : Bytes → Bytes) : (overloads husk).Agree := by
  refine ⟨packInto_agree fun buffer => (addressRange_length buffer.bytes).symm, ?_⟩
  simp only [overloads, unpackPayload, unpackPayloadMoved]
  apply unpackFrom_agree
  intro _ _ _ _
  exact ⟨_, rfl, rfl⟩

/-- **The copying and the moving overloads agree**, for every type that has both, every value and
every packet, and whatever is left in a string that was moved from. -/
theorem overloads_agree [Message RawImagePacketTypeDescriptor]
    [Message GstreamerBufferPacketTypeDescriptor] (husk : Bytes → Bytes) :
    (StringPacketType.overloads husk).Agree ∧ (JpegFramePacketType.overloads husk).Agree ∧
      (RawImagePacketType.overloads husk).Agree ∧
      (GstreamerBufferPacketType.overloads husk).Agree :=
  ⟨StringPacketType.agree husk, JpegFramePacketType.agree husk, RawImagePacketType.agree husk,
    GstreamerBufferPacketType.agree husk⟩

/-! ### `Pack` and `Unpack` -/

/-- The codec of `PacketTypeTraits` is what the overloads do behind a pointer that is not null;
`view` takes a value for the object that holds it. -/
structure Overloads.Models {T O : Type} [PacketTypeTraits T] (o : Overloads O) (view : T → O) :
    Prop where
  pack : ∀ passing t p, ∃ t', o.packPayload passing (view t) (some p) =
    ((PacketTypeTraits.packPayload passing t p).1,
      some (PacketTypeTraits.packPayload passing t p).2, t')
  unpack : ∀ passing p dst, ∃ p', o.unpackPayload passing p (some (view dst)) =
    (PacketTypeTraits.unpackPayload passing p dst).map fun r => (r.1, p', some (view r.2))

theorem StringPacketType.models (husk : Bytes → Bytes) :
    (overloads husk).Models (id : Bytes → Bytes) := by
  constructor
  · intro passing s p
    cases passing with
    | constRef => simp [overloads, packPayload, packInto_some, addressRange_length,
        PacketTypeTraits.packPayload]
    | rvalue => exact ⟨husk s, rfl⟩
  · intro passing p dst
    cases passing with
    | constRef => simp [overloads, unpackPayload, unpackFrom, noDescriptor, addressRange_length,
        PacketTypeTraits.unpackPayload, Except.map]
    | rvalue => exact ⟨p.setPayload (husk p.payload), rfl⟩

theorem JpegFramePacketType.models (husk : Bytes → Bytes) :
    (overloads husk).Models (id : JpegFrame → JpegFrame) := by
  constructor
  · intro passing frame p
    cases passing with
    | constRef => simp [overloads, packPayload, packInto_some, JpegFrame.data, JpegFrame.size,
        addressRange_length, PacketTypeTraits.packPayload]
    | rvalue => exact ⟨⟨husk frame.bytes⟩, rfl⟩
  · intro passing p dst
    cases passing with
    | constRef => simp [overloads, unpackPayload, unpackFrom, noDescriptor, addressRange_length,
        PacketTypeTraits.unpackPayload, Except.map]
    | rvalue => exact ⟨p.setPayload (husk p.payload), rfl⟩

theorem RawImagePacketType.models [Message RawImagePacketTypeDescriptor] (husk : Bytes → Bytes) :
    (overloads husk).Models RawImage.object := by
  constructor
  · intro passing im p
    cases passing with
    | constRef => simp [overloads, packPayload, packInto_some, RawImage.object,
        RawImage.Object.size, addressRange_length, PacketTypeTraits.packPayload]
    | rvalue => exact ⟨im.object.withData (husk im.data), rfl⟩
  · intro passing p dst
    have hcodec : PacketTypeTraits.unpackPayload passing p dst = unpackRawImage passing p dst := rfl
    rw [hcodec, unpackRawImage]
    simp only [overloads, unpackPayload, unpackPayloadMoved]
    cases hvalid : validateAndGetDescriptor p with
    | error status hs =>
      cases passing with
      | constRef => exact ⟨p, unpackFrom_of_error hvalid dst.object⟩
      | rvalue => exact ⟨p, unpackFrom_of_error hvalid dst.object⟩
    | value desc =>
      cases passing with
      | constRef =>
        refine ⟨p, (unpackFrom_of_value hvalid dst.object).trans ?_⟩
        cases hread : rawImageFromPayload .constRef desc p.payload <;> simp only [hread] <;> rfl
      | rvalue =>
        refine ⟨p.setPayload (husk p.payload), (unpackFrom_of_value hvalid dst.object).trans ?_⟩
        cases hread : rawImageFromPayload .rvalue desc p.payload <;> simp only [hread] <;> rfl

theorem GstreamerBufferPacketType.unpackGstreamerBuffer_eq
    [Message GstreamerBufferPacketTypeDescriptor] (p : Packet) (dst : GstreamerBuffer) :
    unpackGstreamerBuffer p dst =
      match getTypeDescriptor p with
      | .error status _ => (status, dst)
      | .value desc => (okStatus, (dst.setCapsString desc.capsString).assign p.payload) := by
  unfold unpackGstreamerBuffer getTypeDescriptor
  cases (unpackTo p.header.type.typeDescriptor : Option GstreamerBufferPacketTypeDescriptor) with
  | none => simp only [StatusOr.ofStatus_of_not_ok (invalidArgumentError_ok _)]
  | some desc => rfl

theorem GstreamerBufferPacketType.models [Message GstreamerBufferPacketTypeDescriptor]
    (husk : Bytes → Bytes) : (overloads husk).Models (id : GstreamerBuffer → GstreamerBuffer) := by
  constructor
  · intro passing buffer p
    cases passing with
    | constRef => simp [overloads, packPayload, packInto_some, GstreamerBuffer.data,
        GstreamerBuffer.size, addressRange_length, PacketTypeTraits.packPayload]
    | rvalue => exact ⟨buffer.assign (husk buffer.bytes), rfl⟩
  · intro passing p dst
    have hcodec : PacketTypeTraits.unpackPayload passing p dst =
        .ok (unpackGstreamerBuffer p dst) := rfl
    rw [hcodec, unpackGstreamerBuffer_eq]
    simp only [overloads, unpackPayload, unpackPayloadMoved]
    cases hvalid : getTypeDescriptor p with
    | error status hs =>
      cases passing with
      | constRef => exact ⟨p, unpackFrom_of_error hvalid dst⟩
      | rvalue => exact ⟨p, unpackFrom_of_error hvalid dst⟩
    | value desc =>
      cases passing with
      | constRef => exact ⟨p, unpackFrom_of_value hvalid dst⟩
      | rvalue => exact ⟨p.setPayload (husk p.payload), unpackFrom_of_value hvalid dst⟩

/-- **It does not matter how a packet is passed to `UnpackPayload`**, if the overloads behind it
agree and the destination can be told from the object that holds it. -/
theorem Overloads.Agree.unpackPayload_eq {T O : Type} [PacketTypeTraits T] {o : Overloads O}
    {view : T → O} (h : o.Agree) (hmodels : o.Models view) (hview : Function.Injective view)
    (p : Packet) (dst : T) : PacketTypeTraits.unpackPayload .rvalue p dst =
      PacketTypeTraits.unpackPayload .constRef p dst := by
  obtain ⟨status, p', dst', hcopy, hmove, _⟩ := h.unpack p (some (view dst))
  obtain ⟨_, hcopy'⟩ := hmodels.unpack .constRef p dst
  obtain ⟨_, hmove'⟩ := hmodels.unpack .rvalue p dst
  rw [hcopy] at hcopy'
  rw [hmove] at hmove'
  cases hc : PacketTypeTraits.unpackPayload .constRef p dst with
  | error e => rw [hc] at hcopy'; cases hcopy'
  | ok r =>
    cases hm : PacketTypeTraits.unpackPayload .rvalue p dst with
    | error e => rw [hm] at hmove'; cases hmove'
    | ok r' =>
      rw [hc] at hcopy'
      rw [hm] at hmove'
      simp only [Except.map, Except.ok.injEq, Prod.mk.injEq] at hcopy' hmove'
      have hvalue : r'.2 = r.2 :=
        hview (Option.some.inj (hmove'.2.2.symm.trans hcopy'.2.2))
      rw [Prod.ext (hmove'.1.symm.trans hcopy'.1) hvalue]

theorem RawImage.object_injective : Function.Injective RawImage.object := by
  intro im im' h
  simp only [object, Object.mk.injEq] at h
  obtain ⟨hheight, hwidth, _, hformat, hdata⟩ := h
  exact ext_of_descriptor (by simp only [descriptor, hheight, hwidth, hformat]) hdata

theorem unpack_eq_of_unpackPayload {T : Type} [PacketTypeTraits T] {p : Packet} {dst : T}
    (h : PacketTypeTraits.unpackPayload .rvalue p dst =
      PacketTypeTraits.unpackPayload .constRef p dst) :
    unpack .rvalue p dst = unpack .constRef p dst := by
  unfold unpack
  rw [h]

section Unpack

variable [Message RawImagePacketTypeDescriptor] [Message GstreamerBufferPacketTypeDescriptor]
  [Message ProtobufPacketTypeDescriptor] [Message ControlSignalPacketTypeDescriptor]
  [Message EosValue]

/-- **It does not matter how a packet is passed to `Unpack`**, whatever the type of the
destination.  The messages and `Eos` have a single overload. -/
theorem unpack_eq_constRef (T : PacketValueType) (p : Packet) (dst : T.Carrier) :
    unpack .rvalue p dst = unpack .constRef p dst := by
  apply unpack_eq_of_unpackPayload
  cases T with
  | string =>
    exact (StringPacketType.agree id).unpackPayload_eq (StringPacketType.models id)
      Function.injective_id p dst
  | jpegFrame =>
    exact (JpegFramePacketType.agree id).unpackPayload_eq (JpegFramePacketType.models id)
      Function.injective_id p dst
  | rawImage =>
    exact (RawImagePacketType.agree id).unpackPayload_eq (RawImagePacketType.models id)
      RawImage.object_injective p dst
  | gstreamerBuffer =>
    exact (GstreamerBufferPacketType.agree id).unpackPayload_eq
      (GstreamerBufferPacketType.models id) Function.injective_id p dst
  | eos => rfl
  | protobuf M => rfl

end Unpack

end AIStreams
