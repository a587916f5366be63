import AIStreams.Base.PacketUtils

/-!
# Raw images and GStreamer buffers

`aistreams/gstreamer/type_utils.cc`.  What GStreamer reads out of a caps string is a
parameter; the arithmetic of both conversions is that of `int`.

* `toRawImage_error_code`: an error of `ToRawImage` is `kInvalidArgument` or
  `kUnimplemented`, never an end of stream.
* `toGstreamerBuffer_error_iff`: the images that `ToGstreamerBuffer` refuses with a status.
* `toGstreamerBuffer_caps_ne_nil`: every buffer that it makes has caps.
-/

namespace AIStreams

/-- The caps string or payload `b` inside a message, one character a byte. -/
def bytesText (b : Bytes) : String := String.ofList (b.map fun c => Char.ofNat c.toNat)

/-- `RawImageFormat_Name`. -/
def RawImageFormat.name : RawImageFormat → String
  | .unknown => "RAW_IMAGE_FORMAT_UNKNOWN"
  | .srgb => "RAW_IMAGE_FORMAT_SRGB"
  | .unlisted _ _ => ""

def kRawImageGstreamerMimeType : String := "video/x-raw"

/-- `ROUND_UP_4`. -/
def roundUp4 (num : Int32) : Int32 := (num + 3) &&& ~~~3

/-! ### From a buffer to an image -/

/-- What `gst_video_info_from_caps` finds out. -/
structure GstVideoInfo where
  formatId : ℤ
  name : String
  planes : Int32
  components : Int32
  height : Int32
  width : Int32
  size : Int32
  planeStride : Int32
  compPstride : Int32

/-- What `gst_caps_from_string` builds: the name of its first structure, and the video
format described, if it describes one. -/
structure GstCaps where
  mediaType : String
  videoInfo : Option GstVideoInfo

structure GstreamerRawImageInfo where
  gstFormatId : ℤ
  formatName : String
  height : Int32
  width : Int32
  size : Int32
  planes : Int32
  components : Int32
  rstride : Int32
  pstride : Int32

/-- `GST_VIDEO_FORMAT_RGB`. -/
def gstVideoFormatRgb : ℤ := 15

def parseAsRawImageCaps (gstCapsFromString : Bytes → Option GstCaps) (capsString : Bytes) :
    StatusOr GstreamerRawImageInfo :=
  match gstCapsFromString capsString with
  | none =>
    .ofStatus (invalidArgumentError ("Failed to create a GstCaps from \"" ++
      bytesText capsString ++ "\"; make sure it is a valid cap string"))
  | some caps =>
    if caps.mediaType ≠ kRawImageGstreamerMimeType then
      .ofStatus (invalidArgumentError ("Given a GstCaps of \"" ++ bytesText capsString ++
        "\" which is not a raw image caps string"))
    else
      match caps.videoInfo with
      | none =>
        .ofStatus (invalidArgumentError
          ("Unable to get format information from caps " ++ bytesText capsString))
      | some info =>
        if info.planes = 1 then
          .value
            { gstFormatId := info.formatId
              formatName := info.name
              height := info.height
              width := info.width
              size := info.size
              planes := info.planes
              components := info.components
              rstride := info.planeStride
              pstride := info.compPstride }
        else if 1 < info.planes then
          .ofStatus (unimplementedError "We currently support only single planed images")
        else .ofStatus (invalidArgumentError "The given image has no planes")

/-- `data()[i]` for an `int` index.  A read outside of the buffer is no byte of it. -/
def readAt (bytes : Bytes) (i : Int32) : OrFatal UInt8 :=
  if i < 0 then .error ⟨"read before data()"⟩
  else
    match bytes[i.toInt.toNat]? with
    | none => .error ⟨"read past the end of data()"⟩
    | some b => .ok b

/-- `r(i) = b`, the `int` index converted to `size_t`. -/
def RawImage.writeAt (r : RawImage) (i : Int32) (b : UInt8) : OrFatal RawImage :=
  if toSizeT i < r.data.length then
    .ok { r with
      data := r.data.set (toSizeT i) b
      size_eq := by rw [List.length_set]; exact r.size_eq }
  else .error ⟨"write past the end of data_"⟩

/-- `for (int i = 0; i < n; ++i)` around a body that may be fatal. -/
def forInt {α : Type} (n : Int32) (body : Int32 → α → OrFatal α) (a : α) : OrFatal α :=
  (List.range n.toInt.toNat).foldlM (fun a i => body (.ofNat i) a) a

def toRgbRawImage (info : GstreamerRawImageInfo) (buffer : GstreamerBuffer) :
    OrFatal RawImage :=
  if info.pstride = info.components ∧ info.rstride = info.width * info.pstride ∧
      Int32.ofNat buffer.bytes.length = info.height * info.rstride then
    RawImage.ofBytes ⟨.srgb, info.height, info.width⟩ buffer.bytes
  else do
    let r ← RawImage.ofDims info.height info.width .srgb
    forInt info.height (fun i r =>
      let srcRowStart := info.rstride * i
      let dstRowStart := info.width * info.components * i
      forInt info.width (fun j r =>
        let srcPixStart := srcRowStart + info.pstride * j
        let dstPixStart := dstRowStart + info.components * j
        forInt info.components (fun k r => do
          let b ← readAt buffer.bytes (srcPixStart + k)
          r.writeAt (dstPixStart + k) b) r) r) r

def toRawImage (gstCapsFromString : Bytes → Option GstCaps) (buffer : GstreamerBuffer) :
    OrFatal (StatusOr RawImage) :=
  match parseAsRawImageCaps gstCapsFromString buffer.caps with
  | .error _ _ =>
    .ok (.ofStatus (invalidArgumentError "Failed to parse the given buffer as a raw image"))
  | .value info =>
    if info.gstFormatId = gstVideoFormatRgb then (toRgbRawImage info buffer).map .value
    else
      .ok (.ofStatus (unimplementedError
        ("We currently do not support \"" ++ info.formatName ++ "\"")))

/-- **An error of `ToRawImage` is never an end of stream**: its code is one of two. -/
theorem toRawImage_error_code {gstCapsFromString : Bytes → Option GstCaps}
    {buffer : GstreamerBuffer} {v : StatusOr RawImage}
    (h : toRawImage gstCapsFromString buffer = .ok v) (hv : v.ok = false) :
    v.status.code = .kInvalidArgument ∨ v.status.code = .kUnimplemented := by
  unfold toRawImage at h
  split at h
  · cases h
    exact .inl rfl
  · rename_i info _
    split at h
    · cases hr : toRgbRawImage info buffer with
      | error e =>
        rw [hr] at h
        cases h
      | ok r =>
        rw [hr] at h
        cases h
        cases hv
    · cases h
      exact .inr rfl

/-- What GStreamer finds in the caps of an RGB image. -/
def gstRgbInfo (width height : Int32) : GstVideoInfo where
  formatId := gstVideoFormatRgb
  name := "RGB"
  planes := 1
  components := 3
  height := height
  width := width
  size := roundUp4 (width * 3) * height
  planeStride := roundUp4 (width * 3)
  compPstride := 3

/-- A GStreamer to which all caps are those of a `width` by `height` RGB image. -/
def gstRgbCaps (width height : Int32) : Bytes → Option GstCaps :=
  fun _ => some ⟨kRawImageGstreamerMimeType, some (gstRgbInfo width height)⟩

/-! ### From an image to a buffer -/

/-- `gst_caps_to_string` of the caps that describe an RGB image. -/
def rgbCapsString (width height : Int32) : Bytes :=
  Wire.ofString (kRawImageGstreamerMimeType ++ ", format=(string)RGB, width=(int)" ++
    toString width ++ ", height=(int)" ++ toString height)

/-- `std::string::max_size()`. -/
def maxStringSize : ℕ := 2 ^ 63 - 1

/-- `bytes.resize(n)` of an empty string, the `int` converted to `size_t`. -/
def resizeEmpty (n : Int32) : OrFatal Bytes :=
  if toSizeT n ≤ maxStringSize then .ok (List.replicate (toSizeT n) 0)
  else .error ⟨"std::length_error"⟩

/-- `std::copy(src + lo, src + hi, dst + at)`. -/
def copyRange (src : Bytes) (lo hi : Int32) (dst : Bytes) (pos : Int32) : Bytes :=
  let row := (src.take hi.toInt.toNat).drop lo.toInt.toNat
  dst.take pos.toInt.toNat ++ row ++ dst.drop (pos.toInt.toNat + row.length)

def rgbRawImageToGstreamerBuffer (r : RawImage) : OrFatal GstreamerBuffer :=
  let caps := rgbCapsString r.width r.height
  if r.width * r.channels % 4 = 0 then .ok ⟨caps, r.data⟩
  else do
    let rowSize := r.width * r.channels
    let rowStride := roundUp4 rowSize
    let bytes ← resizeEmpty (rowStride * r.height)
    let bytes ← forInt r.height (fun i bytes =>
      .ok (copyRange r.data (rowSize * i) (rowSize * (i + 1)) bytes (rowStride * i))) bytes
    .ok ⟨caps, bytes⟩

/-- `ToGstreamerBuffer(RawImage)`. -/
def toGstreamerBuffer (r : RawImage) : OrFatal (StatusOr GstreamerBuffer) :=
  if r.format ≠ .srgb then
    .ok (.ofStatus (unimplementedError
      ("We currently do not support raw images with your given format (" ++
        r.format.name ++ ")")))
  else (rgbRawImageToGstreamerBuffer r).map .value

/-- **`ToGstreamerBuffer` refuses exactly the images that are not SRGB.** -/
theorem toGstreamerBuffer_error_iff (r : RawImage) :
    (∃ v, toGstreamerBuffer r = .ok v ∧ v.ok = false) ↔ r.format ≠ .srgb := by
  unfold toGstreamerBuffer
  by_cases h : r.format ≠ .srgb
  · rw [if_pos h]
    exact ⟨fun _ => h, fun _ => ⟨_, rfl, StatusOr.ok_ofStatus _⟩⟩
  · rw [if_neg h]
    refine ⟨fun hv => ?_, fun hne => absurd hne h⟩
    obtain ⟨v, hv, hok⟩ := hv
    cases hr : rgbRawImageToGstreamerBuffer r with
    | error e =>
      rw [hr] at hv
      cases hv
    | ok b =>
      rw [hr] at hv
      cases hv
      cases hok

theorem rgbCapsString_ne_nil (width height : Int32) : rgbCapsString width height ≠ [] := by
  intro h
  have hs := Wire.ofString_injective (h.trans (show [] = Wire.ofString "" from rfl))
  have hlist := congrArg String.toList hs
  simp only [kRawImageGstreamerMimeType, String.toList_append] at hlist
  exact absurd hlist (List.cons_ne_nil _ _)

/-- The caps that `RgbRawImageToGstreamerBuffer` sets do not depend on the path taken. -/
theorem rgbRawImageToGstreamerBuffer_caps {r : RawImage} {b : GstreamerBuffer}
    (h : rgbRawImageToGstreamerBuffer r = .ok b) : b.caps = rgbCapsString r.width r.height := by
  unfold rgbRawImageToGstreamerBuffer at h
  simp only at h
  split at h
  · cases h
    rfl
  · obtain ⟨bytes, _, h⟩ := OrFatal.of_bind_eq_ok h
    obtain ⟨bytes', _, h⟩ := OrFatal.of_bind_eq_ok h
    cases h
    rfl

/-- **Every buffer that `ToGstreamerBuffer` makes has caps.** -/
theorem toGstreamerBuffer_caps_ne_nil {r : RawImage} {b : GstreamerBuffer}
    (h : toGstreamerBuffer r = .ok (.value b)) : b.caps ≠ [] := by
  unfold toGstreamerBuffer at h
  split at h
  · exact absurd (Except.ok.inj h) (StatusOr.ofStatus_ne_value _ b)
  · cases hr : rgbRawImageToGstreamerBuffer r with
    | error e =>
      rw [hr] at h
      cases h
    | ok b' =>
      rw [hr] at h
      cases h
      rw [rgbRawImageToGstreamerBuffer_caps hr]
      exact rgbCapsString_ne_nil r.width r.height

/-! ### From a packet to a buffer -/

section Packet

variable [Message RawImagePacketTypeDescriptor] [Message GstreamerBufferPacketTypeDescriptor]

def kJpegGstreamerMimeType : String := "image/jpeg"

def gstreamerBufferPacketToGstreamerBuffer (p : Packet) : OrFatal (StatusOr GstreamerBuffer) := do
  let packetAs ← (PacketAs.adapt p : OrFatal (PacketAs GstreamerBuffer))
  if packetAs.ok = false then
    .ok (.ofStatus (internalError
      "Failed to adapt supposedly a GstreamerBuffer packet into a GstreamerBuffer"))
  else
    let buffer ← packetAs.valueOrDie
    .ok (.value buffer)

def jpegPacketToGstreamerBuffer (p : Packet) : OrFatal (StatusOr GstreamerBuffer) := do
  let packetAs ← (PacketAs.adapt p : OrFatal (PacketAs JpegFrame))
  if packetAs.ok = false then
    .ok (.ofStatus (internalError "Failed to adapt supposedly a JpegFrame packet into a JpegFrame"))
  else
    let frame ← packetAs.valueOrDie
    .ok (.value ⟨Wire.ofString kJpegGstreamerMimeType, frame.bytes⟩)

def rawImagePacketToGstreamerBuffer (p : Packet) : OrFatal (StatusOr GstreamerBuffer) := do
  let packetAs ← (PacketAs.adapt p : OrFatal (PacketAs RawImage))
  if packetAs.ok = false then
    .ok (.ofStatus (internalError "Failed to adapt supposedly a RawImage packet into a RawImage"))
  else
    let rawImage ← packetAs.valueOrDie
    toGstreamerBuffer rawImage

/-- `ToGstreamerBuffer(Packet)`. -/
def packetToGstreamerBuffer (p : Packet) : OrFatal (StatusOr GstreamerBuffer) :=
  match getPacketTypeId p with
  | .gstreamerBuffer => gstreamerBufferPacketToGstreamerBuffer p
  | .jpeg => jpegPacketToGstreamerBuffer p
  | .rawImage => rawImagePacketToGstreamerBuffer p
  | id =>
    .ok (.ofStatus (invalidArgumentError ("The given Packet has a type (" ++ id.name ++
      ") that cannot be converted into a GstreamerBuffer")))

end Packet

end AIStreams
