import AIStreams.Gstreamer.RgbRoundTrip

/-!
# The buffers that `aissrc` hands out

`ais_src_create` of `aistreams/gstreamer/gst-plugins/aissrc.c`, with what it calls of
`aistreams/c/` and `aistreams/gstreamer/ais_type_utils.cc`.  What the receiver queue yields and
what GStreamer does are parameters.

* `aisSrcCreate_of_converted`, `aisSrcCreate_of_refused`: a packet that is not an EOS, by what
  `ToGstreamerBuffer` says.
* `handsOutBuffers`: a buffer that is handed out holds the payload, the rows of an RGB image
  padded.
-/

namespace AIStreams

/-! ### What a packet is converted to -/

/-- A successful adaptation is a successful `UnpackPayload` into a fresh value. -/
theorem unpackPayload_of_adapt {T : Type} [PacketTypeTraits T] {p : Packet} {a : PacketAs T}
    (h : PacketAs.adapt p = .ok a) (hok : a.ok = true) : ∃ status, status.ok = true ∧
      PacketTypeTraits.unpackPayload .rvalue p (PacketTypeTraits.fresh : T) =
        .ok (status, a.value) := by
  unfold PacketAs.adapt at h
  by_cases hargs : (validateUnpackArgs T p).ok = true
  · cases hu : PacketTypeTraits.unpackPayload .rvalue p (PacketTypeTraits.fresh : T) with
    | error e =>
      rw [unpack, if_neg (by simp [hargs]), hu] at h
      cases h
    | ok r =>
      obtain ⟨status, value⟩ := r
      cases hs : status.ok with
      | false =>
        rw [unpack_of_error hargs hu hs] at h
        cases h
        cases hok
      | true =>
        rw [unpack_of_ok hargs hu hs] at h
        cases h
        exact ⟨status, hs, rfl⟩
  · rw [Bool.not_eq_true] at hargs
    rw [unpack_of_wrong_type hargs] at h
    cases h
    rw [PacketAs.ok, hargs] at hok
    cases hok

/-- What is left of a conversion that adapts a packet first, if it gives a buffer. -/
theorem of_adapted {T : Type} [PacketTypeTraits T] {p : Packet} {error : Status}
    {convert : T → OrFatal (StatusOr GstreamerBuffer)} {buffer : GstreamerBuffer}
    (h : (do
      let packetAs ← (PacketAs.adapt p : OrFatal (PacketAs T))
      if packetAs.ok = false then .ok (StatusOr.ofStatus error)
      else
        let t ← packetAs.valueOrDie
        convert t) = .ok (.value buffer)) :
    ∃ status t, status.ok = true ∧
      PacketTypeTraits.unpackPayload .rvalue p (PacketTypeTraits.fresh : T) = .ok (status, t) ∧
      convert t = .ok (.value buffer) := by
  obtain ⟨a, ha, h⟩ := OrFatal.of_bind_eq_ok h
  cases hok : a.ok with
  | false =>
    rw [if_pos hok] at h
    exact absurd (Except.ok.inj h) (StatusOr.ofStatus_ne_value _ buffer)
  | true =>
    obtain ⟨status, hs, hu⟩ := unpackPayload_of_adapt ha hok
    rw [if_neg (by simp [hok])] at h
    obtain ⟨t, ht, h⟩ := OrFatal.of_bind_eq_ok h
    rw [PacketAs.valueOrDie, if_neg (by simp [hok])] at ht
    cases ht
    exact ⟨status, a.value, hs, hu, h⟩

section Packet

variable [Message RawImagePacketTypeDescriptor]

/-- The bytes are the payload of the packet; of an RGB image whose rows are not a multiple of
four bytes, with the rows padded. -/
def CarriesPayload (p : Packet) (bytes : Bytes) : Prop :=
  bytes = p.payload ∨
    getPacketTypeId p = .rawImage ∧ ∃ (im : RawImage) (w h : ℕ), im.data = p.payload ∧
      im.format = .srgb ∧
      unpackTo p.header.type.typeDescriptor =
        some (⟨im.descriptor⟩ : RawImagePacketTypeDescriptor) ∧
      im.width.toInt = w ∧ im.height.toInt = h ∧ 3 * w % 4 ≠ 0 ∧ Padded im w h h bytes

theorem carriesPayload_of_image {p : Packet} {im : RawImage} {buffer : GstreamerBuffer}
    (hid : getPacketTypeId p = .rawImage) (hdata : im.data = p.payload)
    (hany : unpackTo p.header.type.typeDescriptor =
      some (⟨im.descriptor⟩ : RawImagePacketTypeDescriptor))
    (h : toGstreamerBuffer im = .ok (.value buffer)) : CarriesPayload p buffer.bytes := by
  rw [toGstreamerBuffer] at h
  by_cases hf : im.format = .srgb
  · rw [if_neg (by simp [hf])] at h
    cases hb : rgbRawImageToGstreamerBuffer im with
    | error e =>
      rw [hb] at h
      cases h
    | ok b =>
      rw [hb] at h
      cases h
      obtain ⟨w, hw⟩ := Int.eq_ofNat_of_zero_le im.dims.2.1
      obtain ⟨h, hh⟩ := Int.eq_ofNat_of_zero_le im.dims.1
      have hpadded := rgbRawImageToGstreamerBuffer_padded hf hw hh hb
      by_cases h4 : 3 * w % 4 = 0
      · exact .inl ((hpadded.eq_data h4 (im.length_of_srgb hf hw hh)).trans hdata)
      · exact .inr ⟨hid, im, w, h, hdata, hf, hany, hw, hh, h4, hpadded⟩
  · rw [if_pos hf] at h
    exact absurd (Except.ok.inj h) (StatusOr.ofStatus_ne_value _ buffer)

variable [Message GstreamerBufferPacketTypeDescriptor]

/-- **What `ToGstreamerBuffer` makes of a packet** carries the payload of the packet. -/
theorem packetToGstreamerBuffer_carries {p : Packet} {buffer : GstreamerBuffer}
    (h : packetToGstreamerBuffer p = .ok (.value buffer)) : CarriesPayload p buffer.bytes := by
  unfold packetToGstreamerBuffer at h
  split at h
  · obtain ⟨status, b, hs, hu, h⟩ := of_adapted (T := GstreamerBuffer) h
    cases h
    have hu' : unpackGstreamerBuffer p (PacketTypeTraits.fresh) = (status, buffer) :=
      Except.ok.inj hu
    unfold unpackGstreamerBuffer at hu'
    split at hu'
    · cases hu'
      cases hs
    · cases hu'
      exact .inl rfl
  · obtain ⟨_, frame, _, hu, h⟩ := of_adapted (T := JpegFrame) h
    cases h
    have hu' : (okStatus, JpegFrame.mk p.payload) = (_, frame) := Except.ok.inj hu
    cases hu'
    exact .inl rfl
  · rename_i hid
    obtain ⟨status, im, hs, hu, h⟩ := of_adapted (T := RawImage) h
    rcases unpackRawImage_cases .rvalue p PacketTypeTraits.fresh with
      ⟨_, hs', hu'⟩ | ⟨_, hu', hany, hdata⟩
    · cases hu'.symm.trans hu
      rw [hs] at hs'
      cases hs'
    · cases hu'.symm.trans hu
      exact carriesPayload_of_image hid hdata hany h
  · exact absurd (Except.ok.inj h) (StatusOr.ofStatus_ne_value _ buffer)

end Packet

/-! ### What the element uses -/

/-- `GstFlowReturn`, as far as the element returns it. -/
inductive GstFlowReturn
  | ok
  | eos
  | error
  deriving DecidableEq

inductive AisLogLevel
  | info
  | error
  deriving DecidableEq

/-- What the element makes known: on the bus of its pipeline, in the log, and on the terminal. -/
inductive Notice
  | elementError (text debug : String)
  | elementWarning (text : String)
  | aisLog (level : AisLogLevel) (message : String)
  | print (text : String)
  deriving DecidableEq

/-- GStreamer.  Memory that is allocated holds anything. -/
structure GstCalls (Caps : Type) where
  capsFromString : Bytes → Option Caps
  capsIsEqual : Caps → Option Caps → Bool
  /-- The caps of a pad after `gst_base_src_set_caps`. -/
  setCaps : Option Caps → Option Caps → Option Caps
  bufferNewAndAlloc : (size : ℕ) → Option { bytes : Bytes // bytes.length = size }
  bufferMap : Bytes → Bool

/-- `gst_base_src_set_caps`: the caps of the pad afterwards.  `gst_event_new_caps` makes no event
of caps that are missing or not fixed. -/
def gstBaseSrcSetCaps {Caps : Type} (capsIsFixed : Caps → Bool)
    (capsIsEqual : Caps → Option Caps → Bool) (currentCaps caps : Option Caps) : Option Caps :=
  if currentCaps.any fun current => capsIsEqual current caps then currentCaps
  else
    match caps with
    | none => currentCaps
    | some newCaps => if capsIsFixed newCaps then some newCaps else currentCaps

/-- `c_str()`: a C string ends at the first NUL. -/
def cString (s : String) : String := String.ofList (s.toList.takeWhile (· ≠ Char.ofNat 0))

/-- `get_caps_cstr()`. -/
def GstreamerBuffer.getCapsCstr (buffer : GstreamerBuffer) : Bytes :=
  buffer.caps.takeWhile (· ≠ 0)

/-- The timeout of `AIS_ReceivePacket` in seconds; `none` is an infinite one. -/
def receiveTimeout (timeoutInSec : Int32) : Option ℕ :=
  if timeoutInSec < 0 then none else some timeoutInSec.toInt.toNat

/-- `AIS_ReceivePacket`; `tryPop` is what `TryPop` yields within a timeout. -/
def aisReceivePacket (tryPop : Option ℕ → Option Packet) (aisPacket : Packet)
    (timeoutInSec : Int32) : Packet × Status :=
  match tryPop (receiveTimeout timeoutInSec) with
  | none =>
    (aisPacket, deadlineExceededError
      ("The server did not deliver a packet within the given timeout (" ++
        toString timeoutInSec ++ " seconds)"))
  | some p => (p, okStatus)

/-- `AIS_GstreamerBufferCopyTo`. -/
def aisGstreamerBufferCopyTo (buffer : GstreamerBuffer) (dst : Bytes) : OrFatal Bytes :=
  if buffer.bytes.length ≤ dst.length then
    .ok (buffer.bytes ++ dst.drop buffer.bytes.length)
  else .error ⟨"std::copy past the end of a GstBuffer"⟩

/-! ### `ais_src_create` -/

/-- The fields of an `AisSrc` that are read here, and the current caps of its `srcpad`. -/
structure AisSrc (Caps : Type) where
  timeoutInSec : Int32
  aisStatus : Status
  srcpadCaps : Option Caps

/-- `AIS_Message(src->ais_status)`. -/
def AisSrc.message {Caps : Type} (src : AisSrc Caps) : String := cString src.aisStatus.errorMessage

/-- How `ais_src_create` returns: with `*outbuf`, the element, and what it made known. -/
structure Created (Caps : Type) where
  ret : GstFlowReturn
  outbuf : Option Bytes
  src : AisSrc Caps
  notices : List Notice

variable {Caps : Type}

/-- The caps of the `srcpad` are changed to those of the packet, if they are others. -/
def changeCaps (gst : GstCalls Caps) (src : AisSrc Caps) (capsString : Bytes) :
    AisSrc Caps × List Notice :=
  let newCaps := gst.capsFromString capsString
  let changed : AisSrc Caps × List Notice :=
    ({ src with srcpadCaps := gst.setCaps src.srcpadCaps newCaps },
      [.print ("Setting caps to " ++ bytesText capsString ++ "\n")])
  match src.srcpadCaps with
  | none => changed
  | some caps => if gst.capsIsEqual caps newCaps = false then changed else (src, [])

/-- The last part: a `GstBuffer` is allocated, and the payload copied into it.  The label
`failed_buffer_map` leaves `ret` as it is. -/
def handOut (gst : GstCalls Caps) (ret : GstFlowReturn) (src : AisSrc Caps) (notices : List Notice)
    (buffer : GstreamerBuffer) : OrFatal (Created Caps) :=
  let failedBufferMap : Notice := .elementWarning "Failed to gst_buffer_map the given GstBuffer"
  match gst.bufferNewAndAlloc buffer.bytes.length with
  | none => .ok ⟨ret, none, src, notices ++ [failedBufferMap]⟩
  | some mem =>
    if gst.bufferMap mem then
      match aisGstreamerBufferCopyTo buffer mem with
      | .error e => .error e
      | .ok mem => .ok ⟨ret, some mem, src, notices⟩
    else .ok ⟨ret, some mem, src, notices ++ [failedBufferMap]⟩

theorem aisGstreamerBufferCopyTo_eq {buffer : GstreamerBuffer} {mem : Bytes}
    (h : mem.length = buffer.bytes.length) :
    aisGstreamerBufferCopyTo buffer mem = .ok buffer.bytes := by
  rw [aisGstreamerBufferCopyTo, if_pos (Nat.le_of_eq h.symm),
    List.drop_eq_nil_of_le (Nat.le_of_eq h), List.append_nil]

/-- **Handing a buffer out**: the return value is the one given, and a `GstBuffer` that could be
mapped holds exactly the bytes. -/
theorem handOut_eq (gst : GstCalls Caps) (ret : GstFlowReturn) (src : AisSrc Caps)
    (notices : List Notice) (buffer : GstreamerBuffer) :
    ∃ c, handOut gst ret src notices buffer = .ok c ∧ c.ret = ret ∧
      ∀ mem, gst.bufferNewAndAlloc buffer.bytes.length = some mem → gst.bufferMap mem = true →
        c.outbuf = some buffer.bytes := by
  unfold handOut
  cases halloc : gst.bufferNewAndAlloc buffer.bytes.length with
  | none => exact ⟨_, rfl, rfl, nofun⟩
  | some mem =>
    by_cases hmap : gst.bufferMap mem = true
    · simp only [hmap, if_true, aisGstreamerBufferCopyTo_eq mem.property]
      exact ⟨_, rfl, rfl, fun _ _ _ => rfl⟩
    · simp only [hmap]
      refine ⟨_, rfl, rfl, fun mem' hmem hmap' => ?_⟩
      cases hmem
      exact absurd hmap' hmap

section Create

variable [Message RawImagePacketTypeDescriptor] [Message GstreamerBufferPacketTypeDescriptor]
  [Message ControlSignalPacketTypeDescriptor] [Message EosValue]

/-- `AIS_ToGstreamerBuffer`. -/
def aisToGstreamerBuffer (aisPacket : Packet) : OrFatal (Option GstreamerBuffer × Status) := do
  let bufferStatusor ← packetToGstreamerBuffer aisPacket
  match bufferStatusor with
  | .error status _ => .ok (none, status)
  | .value buffer => .ok (some buffer, okStatus)

def aisSrcCreate (gst : GstCalls Caps) (tryPop : Option ℕ → Option Packet) (src : AisSrc Caps)
    (outbuf : Option Bytes) : OrFatal (Created Caps) :=
  let ret := GstFlowReturn.ok
  let (aisPacket, status) := aisReceivePacket tryPop .default src.timeoutInSec
  let src := { src with aisStatus := status }
  if status.code ≠ .kOk then
    .ok ⟨.error, outbuf, src, [.elementError src.message src.message,
      .aisLog .error src.message, .aisLog .error "Failed to receive packets"]⟩
  else do
    let (eos, reason) ← isEosReason aisPacket ""
    if eos then .ok ⟨.eos, outbuf, src, [.aisLog .info (cString reason)]⟩
    else
      let (buffer, status) ← aisToGstreamerBuffer aisPacket
      let src := { src with aisStatus := status }
      match buffer with
      -- `failed_to_gstreamer_buffer` leaves `ret` as it is.
      | none => .ok ⟨ret, outbuf, src, [.elementError src.message src.message]⟩
      | some buffer =>
        let (src, notices) := changeCaps gst src buffer.getCapsCstr
        handOut gst ret src notices buffer

/-! ### The ways out -/

/-- What the receiver queue yields to this call. -/
def popped (tryPop : Option ℕ → Option Packet) (src : AisSrc Caps) : Option Packet :=
  tryPop (receiveTimeout src.timeoutInSec)

section Ways

variable {tryPop : Option ℕ → Option Packet} {src : AisSrc Caps} (gst : GstCalls Caps)
  (outbuf : Option Bytes)

theorem aisSrcCreate_of_timeout (h : popped tryPop src = none) :
    ∃ c, aisSrcCreate gst tryPop src outbuf = .ok c ∧ c.ret = .error ∧ c.outbuf = outbuf := by
  have hreceive : tryPop (receiveTimeout src.timeoutInSec) = none := h
  simp only [aisSrcCreate, aisReceivePacket, hreceive]
  exact ⟨_, rfl, rfl, rfl⟩

/-- With a packet, the outcome depends on whether it is an EOS, and then on its conversion. -/
theorem aisSrcCreate_of_popped {p : Packet} (h : popped tryPop src = some p) :
    ∃ reason, aisSrcCreate gst tryPop src outbuf =
      if isEos p then
        .ok ⟨.eos, outbuf, { src with aisStatus := okStatus }, [.aisLog .info (cString reason)]⟩
      else aisToGstreamerBuffer p >>= fun (buffer, status) =>
        let src := { src with aisStatus := status }
        match buffer with
        | none => .ok ⟨.ok, outbuf, src, [.elementError src.message src.message]⟩
        | some buffer =>
          let (src, notices) := changeCaps gst src buffer.getCapsCstr
          handOut gst .ok src notices buffer := by
  have hreceive : tryPop (receiveTimeout src.timeoutInSec) = some p := h
  obtain ⟨reason, hreason⟩ := isEosReason_eq p ""
  refine ⟨reason, ?_⟩
  simp only [aisSrcCreate, aisReceivePacket, hreceive, hreason, OrFatal.ok_bind]
  rfl

theorem aisSrcCreate_of_eos {p : Packet} (h : popped tryPop src = some p) (heos : isEos p = true) :
    ∃ c, aisSrcCreate gst tryPop src outbuf = .ok c ∧ c.ret = .eos ∧ c.outbuf = outbuf := by
  obtain ⟨reason, hcreate⟩ := aisSrcCreate_of_popped gst outbuf h
  rw [hcreate, if_pos heos]
  exact ⟨_, rfl, rfl, rfl⟩

/-- **A packet that `ToGstreamerBuffer` refuses**: an error is posted, and the call returns as
if a buffer had been handed out. -/
theorem aisSrcCreate_of_refused {p : Packet} {v : StatusOr GstreamerBuffer}
    (h : popped tryPop src = some p) (heos : isEos p = false)
    (hconvert : packetToGstreamerBuffer p = .ok v) (hv : v.ok = false) :
    ∃ c, aisSrcCreate gst tryPop src outbuf = .ok c ∧ c.ret = .ok ∧ c.outbuf = outbuf := by
  obtain ⟨reason, hcreate⟩ := aisSrcCreate_of_popped gst outbuf h
  rw [hcreate, if_neg (by simp [heos]), aisToGstreamerBuffer, hconvert]
  cases v with
  | error status hs => exact ⟨_, rfl, rfl, rfl⟩
  | value buffer => cases hv

/-- **A packet that is converted** is handed out in a `GstBuffer`. -/
theorem aisSrcCreate_of_converted {p : Packet} {buffer : GstreamerBuffer}
    (h : popped tryPop src = some p) (heos : isEos p = false)
    (hconvert : packetToGstreamerBuffer p = .ok (.value buffer)) :
    ∃ src' notices, aisSrcCreate gst tryPop src outbuf = handOut gst .ok src' notices buffer := by
  obtain ⟨reason, hcreate⟩ := aisSrcCreate_of_popped gst outbuf h
  rw [hcreate, if_neg (by simp [heos]), aisToGstreamerBuffer, hconvert]
  exact ⟨_, _, rfl⟩

end Ways

/-! ### What is handed out -/

/-- Only payloads are handed out, and every failure is an error. -/
structure HandsOutPayloads (gst : GstCalls Caps) (tryPop : Option ℕ → Option Packet)
    (src : AisSrc Caps) (outbuf : Option Bytes) : Prop where
  ok : ∀ c, aisSrcCreate gst tryPop src outbuf = .ok c → c.ret = .ok →
    ∃ p, popped tryPop src = some p ∧ c.outbuf = some p.payload
  failed : ∀ c, aisSrcCreate gst tryPop src outbuf = .ok c → popped tryPop src = none →
    c.ret = .error
  refused : ∀ c p v, aisSrcCreate gst tryPop src outbuf = .ok c → popped tryPop src = some p →
    isEos p = false → packetToGstreamerBuffer p = .ok v → v.ok = false → c.ret = .error
  unmapped : ∀ c p buffer, aisSrcCreate gst tryPop src outbuf = .ok c →
    popped tryPop src = some p → isEos p = false →
    packetToGstreamerBuffer p = .ok (.value buffer) →
    (∀ mem, gst.bufferNewAndAlloc buffer.bytes.length = some mem → gst.bufferMap mem = false) →
    c.ret = .error
  eos : ∀ c p, aisSrcCreate gst tryPop src outbuf = .ok c → popped tryPop src = some p →
    isEos p = true → c.ret = .eos

/-- The outcomes the code provides for: nothing received, an EOS, and a packet that is converted
and then copied. -/
structure HandsOutBuffers (gst : GstCalls Caps) (tryPop : Option ℕ → Option Packet)
    (src : AisSrc Caps) (outbuf : Option Bytes) : Prop where
  failed : popped tryPop src = none →
    ∃ c, aisSrcCreate gst tryPop src outbuf = .ok c ∧ c.ret = .error ∧ c.outbuf = outbuf
  eos : ∀ p, popped tryPop src = some p → isEos p = true →
    ∃ c, aisSrcCreate gst tryPop src outbuf = .ok c ∧ c.ret = .eos ∧ c.outbuf = outbuf
  delivered : ∀ p buffer mem, popped tryPop src = some p → isEos p = false →
    packetToGstreamerBuffer p = .ok (.value buffer) →
    gst.bufferNewAndAlloc buffer.bytes.length = some mem → gst.bufferMap mem = true →
    ∃ c, aisSrcCreate gst tryPop src outbuf = .ok c ∧ c.ret = .ok ∧
      c.outbuf = some buffer.bytes ∧ CarriesPayload p buffer.bytes
  only_ok : ∀ c, aisSrcCreate gst tryPop src outbuf = .ok c → c.ret = .ok →
    ∃ p, popped tryPop src = some p ∧ isEos p = false
  only_eos : ∀ c, aisSrcCreate gst tryPop src outbuf = .ok c → c.ret = .eos →
    ∃ p, popped tryPop src = some p ∧ isEos p = true

/-- A call that returns is one of three. -/
theorem aisSrcCreate_cases {gst : GstCalls Caps} {tryPop : Option ℕ → Option Packet}
    {src : AisSrc Caps} {outbuf : Option Bytes} {c : Created Caps}
    (h : aisSrcCreate gst tryPop src outbuf = .ok c) :
    (popped tryPop src = none ∧ c.ret = .error) ∨
      ∃ p, popped tryPop src = some p ∧
        (isEos p = true ∧ c.ret = .eos ∨ isEos p = false ∧ c.ret = .ok) := by
  cases hp : popped tryPop src with
  | none =>
    obtain ⟨c', hc', hret, _⟩ := aisSrcCreate_of_timeout gst outbuf hp
    cases hc'.symm.trans h
    exact .inl ⟨rfl, hret⟩
  | some p =>
    refine .inr ⟨p, rfl, ?_⟩
    cases heos : isEos p with
    | true =>
      obtain ⟨c', hc', hret, _⟩ := aisSrcCreate_of_eos gst outbuf hp heos
      cases hc'.symm.trans h
      exact .inl ⟨rfl, hret⟩
    | false =>
      refine .inr ⟨rfl, ?_⟩
      cases hconvert : packetToGstreamerBuffer p with
      | error e =>
        obtain ⟨_, hcreate⟩ := aisSrcCreate_of_popped gst outbuf hp
        rw [hcreate, if_neg (by simp [heos]), aisToGstreamerBuffer, hconvert] at h
        cases h
      | ok v =>
        cases v with
        | error status hs =>
          obtain ⟨c', hc', hret, _⟩ :=
            aisSrcCreate_of_refused gst outbuf hp heos hconvert hs
          cases hc'.symm.trans h
          exact hret
        | value buffer =>
          obtain ⟨_, _, hcreate⟩ :=
            aisSrcCreate_of_converted gst outbuf hp heos hconvert
          obtain ⟨c', hc', hret, _⟩ := handOut_eq gst .ok _ _ buffer
          cases (hcreate.trans hc').symm.trans h
          exact hret

/-- **What `ais_src_create` hands out**: without a packet an error, for an EOS an EOS, and for a
packet that is converted and can be copied exactly the bytes it was converted to, which carry its
payload. -/
theorem handsOutBuffers (gst : GstCalls Caps) (tryPop : Option ℕ → Option Packet)
    (src : AisSrc Caps) (outbuf : Option Bytes) : HandsOutBuffers gst tryPop src outbuf where
  failed := aisSrcCreate_of_timeout gst outbuf
  eos _ := aisSrcCreate_of_eos gst outbuf
  delivered p buffer mem h heos hconvert halloc hmap := by
    obtain ⟨src', notices, hcreate⟩ :=
      aisSrcCreate_of_converted gst outbuf h heos hconvert
    obtain ⟨c, hc, hret, houtbuf⟩ := handOut_eq gst .ok src' notices buffer
    exact ⟨c, hcreate.trans hc, hret, houtbuf mem halloc hmap,
      packetToGstreamerBuffer_carries hconvert⟩
  only_ok c h hret := by
    rcases aisSrcCreate_cases h with ⟨_, hret'⟩ | ⟨p, hp, ⟨_, hret'⟩ | ⟨heos, _⟩⟩
    · rw [hret] at hret'
      cases hret'
    · rw [hret] at hret'
      cases hret'
    · exact ⟨p, hp, heos⟩
  only_eos c h hret := by
    rcases aisSrcCreate_cases h with ⟨_, hret'⟩ | ⟨p, hp, ⟨heos, _⟩ | ⟨_, hret'⟩⟩
    · rw [hret] at hret'
      cases hret'
    · exact ⟨p, hp, heos⟩
    · rw [hret] at hret'
      cases hret'

end Create

/-! ### One padded pixel -/

open WireMessages

/-- GStreamer, of which every call succeeds and memory is zeroed; all caps but the empty ones are
fixed. -/
def succeedingCalls : GstCalls Bytes where
  capsFromString := some
  capsIsEqual caps newCaps := some caps == newCaps
  setCaps := gstBaseSrcSetCaps (fun caps => !caps.isEmpty) fun caps newCaps => some caps == newCaps
  bufferNewAndAlloc size := some ⟨List.replicate size 0, List.length_replicate⟩
  bufferMap _ := true

/-- The packet of an RGB image of one pixel: three bytes. -/
def pixelPacket : Packet :=
  { Packet.default with
    header.type := ⟨.rawImage, "", packFrom (⟨⟨.srgb, 1, 1⟩⟩ : RawImagePacketTypeDescriptor)⟩
    payload := [1, 2, 3] }

def pixelSrc : AisSrc Bytes := ⟨5, okStatus, none⟩

/-- **The row of the image is handed out with a fourth byte.** -/
theorem not_handsOutPayloads_pixel :
    ¬ HandsOutPayloads succeedingCalls (fun _ => some pixelPacket) pixelSrc none := by
  intro h
  have hconvert : packetToGstreamerBuffer pixelPacket =
      .ok (.value ⟨rgbCapsString 1 1, [1, 2, 3, 0]⟩) := rfl
  obtain ⟨src, notices, hcreate⟩ := aisSrcCreate_of_converted succeedingCalls none
    (show popped (fun _ => some pixelPacket) pixelSrc = some pixelPacket from rfl) rfl hconvert
  obtain ⟨c, hc, hret, houtbuf⟩ := handOut_eq succeedingCalls .ok src notices
    ⟨rgbCapsString 1 1, [1, 2, 3, 0]⟩
  obtain ⟨p, hp, hp'⟩ := h.ok c (hcreate.trans hc) hret
  cases hp
  rw [houtbuf _ rfl rfl] at hp'
  cases hp'

end AIStreams
