import AIStreams.Arith.CheckedInt
import AIStreams.Gstreamer.TypeUtils
import AIStreams.Loop.Counted

/-!
# The RGB conversions without undefined behaviour

`ToRgbRawImage` and `RgbRawImageToGstreamerBuffer` of `aistreams/gstreamer/type_utils.cc`
again, now with every signed sum and product, every read, every write and every copy
checked: what would be undefined behaviour is an error here.

* `toRgbRawImage_of_checked`, `toRawImage_of_checked`: where these conversions succeed, those
  of `TypeUtils` return the same.
* `closePadding_ok`, `readable_of_closePadding`: what the slow path needs and returns.
* `toRgbRawImageChecked_ok_iff`: the payloads that are converted safely.
* `toRgbRawImage_reindexes`: the two paths compute one function.
-/

namespace AIStreams

open Arith

def signedOverflow : Fatal := ⟨"signed integer overflow"⟩

/-- `a * b` of two `int`s. -/
def mulInt (a b : Int32) : OrFatal Int32 := checkedMul signedOverflow a b

/-- `a + b` of two `int`s. -/
def addInt (a b : Int32) : OrFatal Int32 := checkedAdd signedOverflow a b

/-! ### From a buffer to an image -/

/-- The condition of the fast path. -/
def noPadding (info : GstreamerRawImageInfo) (size : ℕ) : OrFatal Bool :=
  if info.pstride = info.components then do
    let rowSize ← mulInt info.width info.pstride
    if info.rstride = rowSize then do
      let total ← mulInt info.height info.rstride
      .ok (Int32.ofNat size == total)
    else .ok false
  else .ok false

/-- The body of the loop over the channels. -/
def copyChannel (buffer : GstreamerBuffer) (srcPixStart dstPixStart k : Int32) (r : RawImage) :
    OrFatal RawImage := do
  let src ← addInt srcPixStart k
  let b ← readAt buffer.bytes src
  let dst ← addInt dstPixStart k
  r.writeAt dst b

/-- The body of the loop over the columns. -/
def copyPixel (info : GstreamerRawImageInfo) (buffer : GstreamerBuffer)
    (srcRowStart dstRowStart j : Int32) (r : RawImage) : OrFatal RawImage := do
  let srcOffset ← mulInt info.pstride j
  let srcPixStart ← addInt srcRowStart srcOffset
  let dstOffset ← mulInt info.components j
  let dstPixStart ← addInt dstRowStart dstOffset
  forInt info.components (copyChannel buffer srcPixStart dstPixStart) r

/-- The body of the loop over the rows. -/
def copyRow (info : GstreamerRawImageInfo) (buffer : GstreamerBuffer) (i : Int32) (r : RawImage) :
    OrFatal RawImage := do
  let srcRowStart ← mulInt info.rstride i
  let rowSize ← mulInt info.width info.components
  let dstRowStart ← mulInt rowSize i
  forInt info.width (copyPixel info buffer srcRowStart dstRowStart) r

/-- The slow path, which closes the padding. -/
def closePadding (info : GstreamerRawImageInfo) (buffer : GstreamerBuffer) : OrFatal RawImage := do
  let r ← RawImage.ofDims info.height info.width .srgb
  forInt info.height (copyRow info buffer) r

/-- `ToRgbRawImage`, checked. -/
def toRgbRawImageChecked (info : GstreamerRawImageInfo) (buffer : GstreamerBuffer) :
    OrFatal RawImage :=
  match noPadding info buffer.bytes.length with
  | .error e => .error e
  | .ok true => RawImage.ofBytes ⟨.srgb, info.height, info.width⟩ buffer.bytes
  | .ok false => closePadding info buffer

/-- `ToRawImage`, checked. -/
def toRawImageChecked (gstCapsFromString : Bytes → Option GstCaps) (buffer : GstreamerBuffer) :
    OrFatal (StatusOr RawImage) :=
  match parseAsRawImageCaps gstCapsFromString buffer.caps with
  | .error _ _ =>
    .ok (.ofStatus (invalidArgumentError "Failed to parse the given buffer as a raw image"))
  | .value info =>
    if info.gstFormatId = gstVideoFormatRgb then (toRgbRawImageChecked info buffer).map .value
    else
      .ok (.ofStatus (unimplementedError
        ("We currently do not support \"" ++ info.formatName ++ "\"")))

/-! ### From an image to a buffer -/

/-- `ROUND_UP_4`, checked. -/
def roundUp4Checked (num : Int32) : OrFatal Int32 := do
  let sum ← addInt num 3
  .ok (sum &&& ~~~3)

/-- `std::copy`, both ranges of which have to lie in their buffers. -/
def copyRangeChecked (src : Bytes) (lo hi : Int32) (dst : Bytes) (pos : Int32) : OrFatal Bytes :=
  if 0 ≤ lo ∧ lo ≤ hi ∧ hi.toInt ≤ src.length ∧ 0 ≤ pos ∧
      pos.toInt + (hi.toInt - lo.toInt) ≤ dst.length then
    .ok (copyRange src lo hi dst pos)
  else .error ⟨"std::copy outside of a buffer"⟩

/-- The body of the loop over the rows. -/
def padRow (r : RawImage) (rowSize rowStride i : Int32) (bytes : Bytes) : OrFatal Bytes := do
  let lo ← mulInt rowSize i
  let next ← addInt i 1
  let hi ← mulInt rowSize next
  let pos ← mulInt rowStride i
  copyRangeChecked r.data lo hi bytes pos

/-- The slow path, which pads the rows. -/
def padRows (r : RawImage) : OrFatal Bytes := do
  let rowSize ← mulInt r.width r.channels
  let rowStride ← roundUp4Checked rowSize
  let total ← mulInt rowStride r.height
  let bytes ← resizeEmpty total
  forInt r.height (padRow r rowSize rowStride) bytes

/-- `RgbRawImageToGstreamerBuffer`, checked. -/
def rgbRawImageToGstreamerBufferChecked (r : RawImage) : OrFatal GstreamerBuffer :=
  match mulInt r.width r.channels with
  | .error e => .error e
  | .ok rowSize =>
    if rowSize % 4 = 0 then .ok ⟨rgbCapsString r.width r.height, r.data⟩
    else
      match padRows r with
      | .error e => .error e
      | .ok bytes => .ok ⟨rgbCapsString r.width r.height, bytes⟩

/-- `ToGstreamerBuffer(RawImage)`, checked. -/
def toGstreamerBufferChecked (r : RawImage) : OrFatal (StatusOr GstreamerBuffer) :=
  if r.format ≠ .srgb then
    .ok (.ofStatus (unimplementedError
      ("We currently do not support raw images with your given format (" ++
        r.format.name ++ ")")))
  else (rgbRawImageToGstreamerBufferChecked r).map .value

/-! ### The unchecked conversions -/

theorem mulInt_eq {a b c : Int32} (h : mulInt a b = .ok c) : c = a * b :=
  (checkedMul_eq_ok_iff.mp h).1

theorem addInt_eq {a b c : Int32} (h : addInt a b = .ok c) : c = a + b :=
  (checkedAdd_eq_ok_iff.mp h).1

theorem forInt_eq {α : Type} (n : Int32) (body : Int32 → α → OrFatal α) (a : α) :
    forInt n body a = Loop.count n.toInt.toNat (fun i => body (.ofNat i)) a := rfl

theorem forInt_mono {α : Type} {n : Int32} {body body' : Int32 → α → OrFatal α} {a b : α}
    (hbody : ∀ i x y, body i x = .ok y → body' i x = .ok y) (h : forInt n body a = .ok b) :
    forInt n body' a = .ok b :=
  Loop.count_mono (fun _ x y _ hy => hbody _ x y hy) h

/-- The condition of the fast path, where its products do not overflow. -/
theorem noPadding_eq {info : GstreamerRawImageInfo} {size : ℕ} {b : Bool}
    (h : noPadding info size = .ok b) :
    b = true ↔ info.pstride = info.components ∧ info.rstride = info.width * info.pstride ∧
      Int32.ofNat size = info.height * info.rstride := by
  rw [noPadding] at h
  by_cases hp : info.pstride = info.components
  · rw [if_pos hp] at h
    obtain ⟨rowSize, hrow, h⟩ := OrFatal.of_bind_eq_ok h
    rw [mulInt_eq hrow] at h
    by_cases hr : info.rstride = info.width * info.pstride
    · rw [if_pos hr] at h
      obtain ⟨total, htotal, h⟩ := OrFatal.of_bind_eq_ok h
      rw [mulInt_eq htotal] at h
      cases h
      rw [beq_iff_eq]
      exact ⟨fun hs => ⟨hp, hr, hs⟩, fun hs => hs.2.2⟩
    · rw [if_neg hr] at h
      cases h
      exact ⟨fun hf => absurd hf Bool.false_ne_true, fun hs => absurd hs.2.1 hr⟩
  · rw [if_neg hp] at h
    cases h
    exact ⟨fun hf => absurd hf Bool.false_ne_true, fun hs => absurd hs.1 hp⟩

/-- **Where the checked `ToRgbRawImage` succeeds, the unchecked one returns the same.** -/
theorem toRgbRawImage_of_checked {info : GstreamerRawImageInfo} {buffer : GstreamerBuffer}
    {r : RawImage} (h : toRgbRawImageChecked info buffer = .ok r) :
    toRgbRawImage info buffer = .ok r := by
  rw [toRgbRawImageChecked] at h
  cases hb : noPadding info buffer.bytes.length with
  | error e =>
    rw [hb] at h
    cases h
  | ok b =>
    rw [hb] at h
    rw [toRgbRawImage]
    cases b with
    | true =>
      rw [if_pos ((noPadding_eq hb).mp rfl)]
      exact h
    | false =>
      rw [if_neg fun hs => absurd ((noPadding_eq hb).mpr hs) Bool.false_ne_true]
      obtain ⟨r0, hr0, h⟩ := OrFatal.of_bind_eq_ok h
      rw [hr0, OrFatal.ok_bind]
      refine forInt_mono (fun i x y hy => ?_) h
      obtain ⟨_, hsrcRow, hy⟩ := OrFatal.of_bind_eq_ok hy
      obtain ⟨_, hrow, hy⟩ := OrFatal.of_bind_eq_ok hy
      obtain ⟨_, hdstRow, hy⟩ := OrFatal.of_bind_eq_ok hy
      cases mulInt_eq hsrcRow
      cases mulInt_eq hrow
      cases mulInt_eq hdstRow
      refine forInt_mono (fun j x y hy => ?_) hy
      obtain ⟨_, hsrcOff, hy⟩ := OrFatal.of_bind_eq_ok hy
      obtain ⟨_, hsrcPix, hy⟩ := OrFatal.of_bind_eq_ok hy
      obtain ⟨_, hdstOff, hy⟩ := OrFatal.of_bind_eq_ok hy
      obtain ⟨_, hdstPix, hy⟩ := OrFatal.of_bind_eq_ok hy
      cases mulInt_eq hsrcOff
      cases addInt_eq hsrcPix
      cases mulInt_eq hdstOff
      cases addInt_eq hdstPix
      refine forInt_mono (fun k x y hy => ?_) hy
      obtain ⟨_, hsrc, hy⟩ := OrFatal.of_bind_eq_ok hy
      obtain ⟨b, hread, hy⟩ := OrFatal.of_bind_eq_ok hy
      obtain ⟨_, hdst, hy⟩ := OrFatal.of_bind_eq_ok hy
      cases addInt_eq hsrc
      cases addInt_eq hdst
      rw [hread, OrFatal.ok_bind]
      exact hy

theorem toRawImage_of_checked {gstCapsFromString : Bytes → Option GstCaps}
    {buffer : GstreamerBuffer} {v : StatusOr RawImage}
    (h : toRawImageChecked gstCapsFromString buffer = .ok v) :
    toRawImage gstCapsFromString buffer = .ok v := by
  rw [toRawImageChecked] at h
  rw [toRawImage]
  cases hp : parseAsRawImageCaps gstCapsFromString buffer.caps with
  | error s hs =>
    rw [hp] at h
    exact h
  | value info =>
    rw [hp] at h
    simp only at h ⊢
    by_cases hf : info.gstFormatId = gstVideoFormatRgb
    · rw [if_pos hf] at h ⊢
      cases hr : toRgbRawImageChecked info buffer with
      | error e =>
        rw [hr] at h
        cases h
      | ok r =>
        rw [hr] at h
        rw [toRgbRawImage_of_checked hr]
        exact h
    · rw [if_neg hf] at h ⊢
      exact h

/-! ### Single accesses -/

theorem mulInt_of_fits {a b : Int32} (h : Fits (a.toInt * b.toInt)) :
    ∃ c, mulInt a b = .ok c ∧ c.toInt = a.toInt * b.toInt :=
  ⟨_, checkedMul_of_fits h, toInt_mul_of_fits h⟩

theorem addInt_of_fits {a b : Int32} (h : Fits (a.toInt + b.toInt)) :
    ∃ c, addInt a b = .ok c ∧ c.toInt = a.toInt + b.toInt :=
  ⟨_, checkedAdd_of_fits h, toInt_add_of_fits h⟩

theorem mulInt_toInt {a b c : Int32} (h : mulInt a b = .ok c) : c.toInt = a.toInt * b.toInt :=
  (checkedMul_eq_ok_iff.mp h).2

theorem addInt_toInt {a b c : Int32} (h : addInt a b = .ok c) : c.toInt = a.toInt + b.toInt :=
  (checkedAdd_eq_ok_iff.mp h).2

/-- A read that succeeds is one of a byte of the buffer. -/
theorem readAt_eq_ok_iff {bytes : Bytes} {i : Int32} {b : UInt8} :
    readAt bytes i = .ok b ↔ 0 ≤ i.toInt ∧ bytes[i.toInt.toNat]? = some b := by
  have hlt : i < 0 ↔ i.toInt < 0 := by rw [Int32.lt_iff_toInt_lt, Int32.toInt_zero]
  rw [readAt]
  by_cases h : i < 0
  · rw [if_pos h]
    constructor
    · intro hb
      cases hb
    · intro hb
      have := hlt.mp h
      omega
  · rw [if_neg h]
    rw [hlt] at h
    cases hget : bytes[i.toInt.toNat]? with
    | none =>
      constructor
      · intro hb
        cases hb
      · intro hb
        cases hb.2
    | some b' =>
      constructor
      · intro hb
        cases hb
        exact ⟨by omega, rfl⟩
      · intro hb
        cases hb.2
        rfl

theorem writeAt_of_lt {r : RawImage} {i : Int32} {d : ℕ} (hi : i.toInt = d)
    (hd : d < r.data.length) (b : UInt8) :
    ∃ r', r.writeAt i b = .ok r' ∧ r'.descriptor = r.descriptor ∧ r'.data = r.data.set d b := by
  have hsize : toSizeT i = d := by
    have := toSizeT_of_nonneg (n := i) (by omega)
    omega
  rw [RawImage.writeAt, if_pos (by rw [hsize]; exact hd)]
  refine ⟨_, rfl, rfl, ?_⟩
  show r.data.set (toSizeT i) b = _
  rw [hsize]

/-- The index of a loop is the number of its pass. -/
theorem toInt_index {n : Int32} {i : ℕ} (h : i < n.toInt.toNat) : (Int32.ofNat i).toInt = i := by
  have hlt := n.toInt_lt
  exact Int32.toInt_ofNat_of_lt (by omega)

theorem copyChannel_ok {buffer : GstreamerBuffer} {srcPixStart dstPixStart : Int32}
    {r : RawImage} {k s d : ℕ} (hk : k < 3) (hs : srcPixStart.toInt + k = s)
    (hslt : s < 2 ^ 31) (hlen : s < buffer.bytes.length) (hd : dstPixStart.toInt + k = d)
    (hdlt : d < r.data.length) :
    ∃ r', copyChannel buffer srcPixStart dstPixStart (.ofNat k) r = .ok r' ∧
      r'.descriptor = r.descriptor ∧ r'.data = r.data.set d (buffer.bytes[s]) := by
  have hk' : (Int32.ofNat k).toInt = k := Int32.toInt_ofNat_of_lt (by omega)
  have hsize := r.size_lt
  rw [RawImage.size] at hsize
  obtain ⟨src, hsrc, hsrc'⟩ := @addInt_of_fits srcPixStart (.ofNat k)
    (fits_of_nonneg (by omega) (by omega))
  obtain ⟨dst, hdst, hdst'⟩ := @addInt_of_fits dstPixStart (.ofNat k)
    (fits_of_nonneg (by omega) (by omega))
  have hread : readAt buffer.bytes src = .ok (buffer.bytes[s]) := by
    refine readAt_eq_ok_iff.mpr ⟨by omega, ?_⟩
    rw [show src.toInt.toNat = s by omega]
    exact List.getElem?_eq_getElem hlen
  obtain ⟨r', hr', hdesc, hdata⟩ := @writeAt_of_lt r dst d (by omega) hdlt (buffer.bytes[s])
  refine ⟨r', ?_, hdesc, hdata⟩
  rw [copyChannel, hsrc, OrFatal.ok_bind, hread, OrFatal.ok_bind, hdst, OrFatal.ok_bind, hr']

/-! ### The slow path -/

/-- The index that the loops read for a row, a column and a channel. -/
def srcIndex (info : GstreamerRawImageInfo) (i j k : ℕ) : ℤ :=
  info.rstride.toInt * i + info.pstride.toInt * j + k

/-- **The loops over `h` rows and `w` columns can read** a payload of `n` bytes: every index
lies in it, and every sum and product on the way is an `int`. -/
structure Readable (info : GstreamerRawImageInfo) (w h n : ℕ) : Prop where
  row : ∀ i, i < h → Fits (info.rstride.toInt * (i : ℕ))
  column : ∀ i j, i < h → j < w → Fits (info.pstride.toInt * (j : ℕ))
  index : ∀ i j k, i < h → j < w → k < 3 →
    0 ≤ srcIndex info i j k ∧ srcIndex info i j k < 2 ^ 31 ∧ srcIndex info i j k < n

/-- The image has its pixels up to the `m`-th byte. -/
structure Copied (info : GstreamerRawImageInfo) (buffer : GstreamerBuffer) (w h m : ℕ)
    (r : RawImage) : Prop where
  descriptor : r.descriptor = ⟨.srgb, info.height, info.width⟩
  bytes : ∀ i j k, i < h → j < w → k < 3 → 3 * (w * i + j) + k < m →
    r.data[3 * (w * i + j) + k]? = buffer.bytes[(srcIndex info i j k).toNat]?

/-- A position is that of one pixel and channel only. -/
theorem position_inj {w i j k i' j' k' : ℕ} (hj : j < w) (hk : k < 3) (hj' : j' < w)
    (hk' : k' < 3) (h : 3 * (w * i + j) + k = 3 * (w * i' + j') + k') :
    i = i' ∧ j = j' ∧ k = k' := by
  have hpix : w * i + j = w * i' + j' := by omega
  have hdiv : ∀ {a b : ℕ}, b < w → (w * a + b) / w = a := by
    intro a b hb
    rw [Nat.mul_add_div (by omega), Nat.div_eq_of_lt hb, Nat.add_zero]
  have hi : i = i' := by rw [← hdiv (a := i) hj, hpix, hdiv hj']
  subst hi
  exact ⟨rfl, by omega, by omega⟩

theorem position_lt {w h i j k : ℕ} (hi : i < h) (hj : j < w) (hk : k < 3) :
    3 * (w * i + j) + k < 3 * (w * h) := by
  have hrow : w * (i + 1) ≤ w * h := Nat.mul_le_mul_left w hi
  rw [Nat.mul_succ] at hrow
  omega

section Loops

variable {info : GstreamerRawImageInfo} {buffer : GstreamerBuffer} {w h : ℕ}

theorem Copied.length {m : ℕ} {r : RawImage} (hr : Copied info buffer w h m r)
    (hw : info.width.toInt = w) (hh : info.height.toInt = h) : r.data.length = 3 * (w * h) := by
  obtain ⟨hf, hheight, hwidth⟩ := RawImageDescriptor.mk.inj hr.descriptor
  obtain ⟨_, _, hsize⟩ := r.dims
  rw [r.channels_eq, hheight, hwidth, hf, hw, hh, RawImage.size] at hsize
  have : (h : ℤ) * w * (getNumChannels .srgb).toInt = (3 * (w * h) : ℕ) := by
    rw [show (getNumChannels .srgb).toInt = 3 from rfl]
    rw [Int.mul_comm, Int.mul_comm (h : ℤ)]
    rfl
  omega

/-- One byte more. -/
theorem Copied.set {i j k : ℕ} {r r' : RawImage}
    (hr : Copied info buffer w h (3 * (w * i + j) + k) r) (hj : j < w) (hk : k < 3)
    (hlen : 3 * (w * i + j) + k < r.data.length)
    (hsrc : (srcIndex info i j k).toNat < buffer.bytes.length)
    (hdesc : r'.descriptor = r.descriptor)
    (hdata : r'.data = r.data.set (3 * (w * i + j) + k) buffer.bytes[(srcIndex info i j k).toNat]) :
    Copied info buffer w h (3 * (w * i + j) + (k + 1)) r' where
  descriptor := hdesc.trans hr.descriptor
  bytes i' j' k' hi' hj' hk' hlt := by
    rw [hdata]
    by_cases heq : 3 * (w * i + j) + k = 3 * (w * i' + j') + k'
    · obtain ⟨rfl, rfl, rfl⟩ := position_inj hj hk hj' hk' heq
      rw [List.getElem?_set_self hlen, List.getElem?_eq_getElem hsrc]
    · rw [List.getElem?_set_ne heq]
      exact hr.bytes i' j' k' hi' hj' hk' (by omega)

/-- **One pixel.** -/
theorem copyPixel_ok (hw : info.width.toInt = w) (hh : info.height.toInt = h)
    (hc : info.components = 3) (hread : Readable info w h buffer.bytes.length) {i j : ℕ}
    (hi : i < h) (hj : j < w) {srcRowStart dstRowStart : Int32}
    (hs : srcRowStart.toInt = info.rstride.toInt * (i : ℕ))
    (hd : dstRowStart.toInt = (3 * (w * i) : ℕ)) {r : RawImage}
    (hr : Copied info buffer w h (3 * (w * i + j)) r) :
    ∃ r', copyPixel info buffer srcRowStart dstRowStart (.ofNat j) r = .ok r' ∧
      Copied info buffer w h (3 * (w * i + (j + 1))) r' := by
  have hlen := hr.length hw hh
  have hlast := position_lt hi hj (show 2 < 3 by omega)
  have hsize := r.size_lt
  rw [RawImage.size, hlen] at hsize
  have hj' : (Int32.ofNat j).toInt = j := Int32.toInt_ofNat_of_lt (by omega)
  obtain ⟨hpos, hlt, _⟩ := hread.index i j 0 hi hj (by omega)
  rw [srcIndex] at hpos hlt
  obtain ⟨srcOffset, he1, h1⟩ := @mulInt_of_fits info.pstride (.ofNat j)
    (by rw [hj']; exact hread.column i j hi hj)
  rw [hj'] at h1
  obtain ⟨srcPixStart, he2, h2⟩ := @addInt_of_fits srcRowStart srcOffset
    (fits_of_nonneg (by omega) (by omega))
  have hc' : info.components.toInt = 3 := by rw [hc]; rfl
  obtain ⟨dstOffset, he3, h3⟩ := @mulInt_of_fits info.components (.ofNat j)
    (by rw [hj', hc']; exact fits_of_nonneg (by omega) (by omega))
  rw [hj', hc'] at h3
  obtain ⟨dstPixStart, he4, h4⟩ := @addInt_of_fits dstRowStart dstOffset
    (fits_of_nonneg (by omega) (by omega))
  rw [copyPixel, he1, OrFatal.ok_bind, he2, OrFatal.ok_bind, he3, OrFatal.ok_bind, he4,
    OrFatal.ok_bind, forInt_eq, hc']
  -- Before channel `k`, the bytes up to that channel are in place.
  refine Loop.count_ok (fun k x => Copied info buffer w h (3 * (w * i + j) + k) x) hr ?_
  intro k x hk hx
  obtain ⟨hkpos, hklt, hkn⟩ := hread.index i j k hi hj hk
  have hdst := position_lt hi hj hk
  obtain ⟨x', he, hdesc, hdata⟩ := @copyChannel_ok buffer srcPixStart dstPixStart x k
    (srcIndex info i j k).toNat (3 * (w * i + j) + k) hk
    (by rw [srcIndex] at hkpos ⊢; omega) (by omega) (by omega) (by omega)
    (by rw [hx.length hw hh]; exact hdst)
  exact ⟨x', he, hx.set hj hk (by rw [hx.length hw hh]; exact hdst) (by omega) hdesc hdata⟩

/-- **One row.** -/
theorem copyRow_ok (hw : info.width.toInt = w) (hh : info.height.toInt = h)
    (hc : info.components = 3) (hread : Readable info w h buffer.bytes.length) {i : ℕ}
    (hi : i < h) {r : RawImage} (hr : Copied info buffer w h (3 * (w * i)) r) :
    ∃ r', copyRow info buffer (.ofNat i) r = .ok r' ∧
      Copied info buffer w h (3 * (w * (i + 1))) r' := by
  have hlen := hr.length hw hh
  have hsize := r.size_lt
  rw [RawImage.size, hlen] at hsize
  have hrow : w * (i + 1) ≤ w * h := Nat.mul_le_mul_left w hi
  have hw1 : w ≤ w * (i + 1) := Nat.le_mul_of_pos_right w (by omega)
  have hwi : w * i ≤ w * (i + 1) := Nat.mul_le_mul_left w (by omega)
  have hi' : (Int32.ofNat i).toInt = i := toInt_index (n := info.height) (by omega)
  have hc' : info.components.toInt = 3 := by rw [hc]; rfl
  obtain ⟨srcRowStart, he1, h1⟩ := @mulInt_of_fits info.rstride (.ofNat i)
    (by rw [hi']; exact hread.row i hi)
  rw [hi'] at h1
  obtain ⟨rowSize, he2, h2⟩ := @mulInt_of_fits info.width info.components
    (by rw [hw, hc']; exact fits_of_nonneg (by omega) (by omega))
  rw [hw, hc'] at h2
  have hprod : (w : ℤ) * 3 * i = (3 * (w * i) : ℕ) := by
    rw [Int.mul_right_comm, Int.mul_comm]
    rfl
  obtain ⟨dstRowStart, he3, h3⟩ := @mulInt_of_fits rowSize (.ofNat i)
    (by rw [h2, hi', hprod]; exact fits_of_nonneg (by omega) (by omega))
  rw [h2, hi', hprod] at h3
  rw [copyRow, he1, OrFatal.ok_bind, he2, OrFatal.ok_bind, he3, OrFatal.ok_bind, forInt_eq, hw]
  refine Loop.count_ok (fun j x => Copied info buffer w h (3 * (w * i + j)) x) hr ?_
  intro j x hj hx
  exact copyPixel_ok hw hh hc hread hi hj h1 h3 hx

/-- **The slow path returns the pixels**, where the image exists and the loops can read. -/
theorem closePadding_ok (hw : info.width.toInt = w) (hh : info.height.toInt = h)
    (hc : info.components = 3) (hsize : 3 * (w * h) < 2 ^ 31)
    (hread : Readable info w h buffer.bytes.length) :
    ∃ r, closePadding info buffer = .ok r ∧ Copied info buffer w h (3 * (w * h)) r := by
  have hprod : (h : ℤ) * w * 3 = (3 * (w * h) : ℕ) := by
    rw [Int.mul_comm, Int.mul_comm (h : ℤ)]
    rfl
  obtain ⟨r, hr⟩ := (@RawImage.ofDims_eq_ok_iff info.height info.width .srgb).mpr
    ⟨by omega, by omega, by
      rw [hw, hh, show (getNumChannels .srgb).toInt = 3 from rfl, hprod]
      exact_mod_cast hsize⟩
  rw [closePadding, hr, OrFatal.ok_bind, forInt_eq, hh]
  refine Loop.count_ok (fun i x => Copied info buffer w h (3 * (w * i)) x)
    ⟨RawImage.ofDims_descriptor hr, fun _ _ _ _ _ _ hlt => by omega⟩ ?_
  intro i x hi hx
  exact copyRow_ok hw hh hc hread hi hx

theorem fits_of_mulInt {a b c : Int32} (h : mulInt a b = .ok c) : Fits (a.toInt * b.toInt) :=
  fits_of_checkedMul h

/-- What a pass of the channel loop has read. -/
theorem index_of_copyChannel {srcPixStart dstPixStart k : Int32} {r r' : RawImage}
    (he : copyChannel buffer srcPixStart dstPixStart k r = .ok r') :
    0 ≤ srcPixStart.toInt + k.toInt ∧ srcPixStart.toInt + k.toInt < 2 ^ 31 ∧
      srcPixStart.toInt + k.toInt < buffer.bytes.length := by
  obtain ⟨src, hsrc, he⟩ := OrFatal.of_bind_eq_ok he
  obtain ⟨b, hread, he⟩ := OrFatal.of_bind_eq_ok he
  obtain ⟨hpos, hget⟩ := readAt_eq_ok_iff.mp hread
  have hlen := (List.getElem?_eq_some_iff.mp hget).1
  have hlt := src.toInt_lt
  rw [addInt_toInt hsrc] at hpos hlen hlt
  exact ⟨hpos, hlt, by omega⟩

/-- **A slow path that ends could read everything.** -/
theorem readable_of_closePadding (hw : info.width.toInt = w) (hh : info.height.toInt = h)
    (hc : info.components = 3) {r : RawImage} (he : closePadding info buffer = .ok r) :
    Readable info w h buffer.bytes.length := by
  have hc' : info.components.toInt = 3 := by rw [hc]; rfl
  obtain ⟨r0, _, he⟩ := OrFatal.of_bind_eq_ok he
  rw [forInt_eq, hh] at he
  have hrow : ∀ i, i < h → ∃ x y, copyRow info buffer (.ofNat i) x = .ok y :=
    fun i hi => Loop.exists_of_count he hi
  have hindex : ∀ i, i < h → (Int32.ofNat i).toInt = i :=
    fun i hi => toInt_index (n := info.height) (by omega)
  have hindex' : ∀ j, j < w → (Int32.ofNat j).toInt = j :=
    fun j hj => toInt_index (n := info.width) (by omega)
  refine ⟨fun i hi => ?_, fun i j hi hj => ?_, fun i j k hi hj hk => ?_⟩
  · obtain ⟨x, y, he⟩ := hrow i hi
    obtain ⟨_, h1, _⟩ := OrFatal.of_bind_eq_ok he
    rw [← hindex i hi]
    exact fits_of_mulInt h1
  · obtain ⟨x, y, he⟩ := hrow i hi
    obtain ⟨srcRowStart, h1, he⟩ := OrFatal.of_bind_eq_ok he
    obtain ⟨_, _, he⟩ := OrFatal.of_bind_eq_ok he
    obtain ⟨_, _, he⟩ := OrFatal.of_bind_eq_ok he
    rw [forInt_eq, hw] at he
    obtain ⟨_, _, he⟩ := Loop.exists_of_count he hj
    obtain ⟨_, h2, _⟩ := OrFatal.of_bind_eq_ok he
    rw [← hindex' j hj]
    exact fits_of_mulInt h2
  · obtain ⟨x, y, he⟩ := hrow i hi
    obtain ⟨srcRowStart, h1, he⟩ := OrFatal.of_bind_eq_ok he
    obtain ⟨_, _, he⟩ := OrFatal.of_bind_eq_ok he
    obtain ⟨_, _, he⟩ := OrFatal.of_bind_eq_ok he
    rw [forInt_eq, hw] at he
    obtain ⟨_, _, he⟩ := Loop.exists_of_count he hj
    obtain ⟨srcOffset, h2, he⟩ := OrFatal.of_bind_eq_ok he
    obtain ⟨srcPixStart, h3, he⟩ := OrFatal.of_bind_eq_ok he
    obtain ⟨_, _, he⟩ := OrFatal.of_bind_eq_ok he
    obtain ⟨_, _, he⟩ := OrFatal.of_bind_eq_ok he
    rw [forInt_eq, hc'] at he
    obtain ⟨_, _, he⟩ := Loop.exists_of_count he hk
    have hfinal := index_of_copyChannel he
    rw [addInt_toInt h3, mulInt_toInt h1, mulInt_toInt h2, hindex i hi, hindex' j hj,
      Int32.toInt_ofNat_of_lt (show k < 2 ^ 31 by omega)] at hfinal
    exact hfinal

/-! ### The sizes and strides of the slow path -/

/-- The corners of the index: the first pixel of the last row, the last pixel of the first
row, and the last byte of all. -/
structure Corners (info : GstreamerRawImageInfo) (n : ℕ) : Prop where
  /-- Without columns the row starts are computed all the same. -/
  rows : 0 < info.height.toInt → info.width.toInt = 0 →
    Fits (info.rstride.toInt * (info.height.toInt - 1))
  pixels : 0 < info.height.toInt → 0 < info.width.toInt →
    0 ≤ info.rstride.toInt * (info.height.toInt - 1) ∧
    0 ≤ info.pstride.toInt * (info.width.toInt - 1) ∧
    info.rstride.toInt * (info.height.toInt - 1) +
      info.pstride.toInt * (info.width.toInt - 1) + 2 < 2 ^ 31 ∧
    info.rstride.toInt * (info.height.toInt - 1) +
      info.pstride.toInt * (info.width.toInt - 1) + 2 < n

/-- **The loops can read exactly when the corners are in range.** -/
theorem readable_iff (hw : info.width.toInt = w) (hh : info.height.toInt = h) {n : ℕ} :
    Readable info w h n ↔ Corners info n := by
  constructor
  · intro hread
    refine ⟨fun hpos _ => ?_, fun hhpos hwpos => ?_⟩
    · have := hread.row (h - 1) (by omega)
      rw [show ((h - 1 : ℕ) : ℤ) = info.height.toInt - 1 by omega] at this
      exact this
    · have hrow := hread.index (h - 1) 0 0 (by omega) (by omega) (by omega)
      have hcol := hread.index 0 (w - 1) 0 (by omega) (by omega) (by omega)
      have hlast := hread.index (h - 1) (w - 1) 2 (by omega) (by omega) (by omega)
      simp only [srcIndex, show ((h - 1 : ℕ) : ℤ) = info.height.toInt - 1 by omega,
        show ((w - 1 : ℕ) : ℤ) = info.width.toInt - 1 by omega,
        Int.mul_zero, Int.natCast_zero] at hrow hcol hlast
      omega
  · intro hcorners
    have hpixel : ∀ i j, i < h → j < w →
        (0 ≤ info.rstride.toInt * (i : ℕ) ∧ info.rstride.toInt * (i : ℕ) ≤
          info.rstride.toInt * (info.height.toInt - 1)) ∧
        0 ≤ info.pstride.toInt * (j : ℕ) ∧ info.pstride.toInt * (j : ℕ) ≤
          info.pstride.toInt * (info.width.toInt - 1) := by
      intro i j hi hj
      obtain ⟨hrow, hcol, _⟩ := hcorners.pixels (by omega) (by omega)
      exact ⟨mul_between hrow (by omega) (by omega), mul_between hcol (by omega) (by omega)⟩
    refine ⟨fun i hi => ?_, fun i j hi hj => ?_, fun i j k hi hj hk => ?_⟩
    · by_cases hzero : info.width.toInt = 0
      · exact (hcorners.rows (by omega) hzero).mul_of_le (by omega) (by omega)
      · obtain ⟨hrow, hcol, hlt, _⟩ := hcorners.pixels (by omega) (by omega)
        obtain ⟨⟨h1, h2⟩, _⟩ := hpixel i 0 hi (by omega)
        exact fits_of_nonneg h1 (by omega)
    · obtain ⟨hrow, hcol, hlt, _⟩ := hcorners.pixels (by omega) (by omega)
      obtain ⟨_, h1, h2⟩ := hpixel i j hi hj
      exact fits_of_nonneg h1 (by omega)
    · obtain ⟨hrow, hcol, hlt, hn⟩ := hcorners.pixels (by omega) (by omega)
      obtain ⟨⟨h1, h2⟩, h3, h4⟩ := hpixel i j hi hj
      rw [srcIndex]
      omega

end Loops

/-! ### Both paths -/

/-- The condition of the fast path over the integers; the payload length is converted to
`int`. -/
def FastPath (info : GstreamerRawImageInfo) (n : ℕ) : Prop :=
  info.pstride = 3 ∧ info.rstride.toInt = info.width.toInt * 3 ∧
    (Int32.ofNat n).toInt = info.height.toInt * info.rstride.toInt

/-- **A payload of `n` bytes fits the caps**: the image exists, and the path that is taken
finds its bytes. -/
structure PayloadFits (info : GstreamerRawImageInfo) (n : ℕ) : Prop where
  height : 0 ≤ info.height.toInt
  width : 0 ≤ info.width.toInt
  size : info.height.toInt * info.width.toInt * 3 < 2 ^ 31
  /-- The fast path's own test computes the size of a row. -/
  row : info.pstride = 3 → info.width.toInt * 3 < 2 ^ 31
  fast : FastPath info n → (n : ℤ) = info.height.toInt * info.width.toInt * 3
  slow : ¬ FastPath info n → Corners info n

section ToRgbRawImage

variable {info : GstreamerRawImageInfo} {buffer : GstreamerBuffer}

theorem noPadding_fastPath (hc : info.components = 3) {n : ℕ} {b : Bool}
    (h : noPadding info n = .ok b) : b = true ↔ FastPath info n := by
  rw [noPadding, hc] at h
  by_cases hp : info.pstride = 3
  · rw [if_pos hp] at h
    obtain ⟨rowSize, hrow, h⟩ := OrFatal.of_bind_eq_ok h
    have hrow' := mulInt_toInt hrow
    rw [hp, show (3 : Int32).toInt = 3 from rfl] at hrow'
    by_cases hr : info.rstride = rowSize
    · rw [if_pos hr] at h
      obtain ⟨total, htotal, h⟩ := OrFatal.of_bind_eq_ok h
      cases h
      rw [beq_iff_eq, ← Int32.toInt_inj, mulInt_toInt htotal]
      exact ⟨fun hs => ⟨hp, by rw [hr, hrow'], hs⟩, fun hs => hs.2.2⟩
    · rw [if_neg hr] at h
      cases h
      refine ⟨fun hf => absurd hf Bool.false_ne_true, fun hs => absurd ?_ hr⟩
      exact Int32.toInt_inj.mp (hs.2.1.trans hrow'.symm)
  · rw [if_neg hp] at h
    cases h
    exact ⟨fun hf => absurd hf Bool.false_ne_true, fun hs => absurd hs.1 hp⟩

/-- The fast path's test overflows for no image that exists, but for one without rows. -/
theorem noPadding_ok (hc : info.components = 3) (hh : 0 ≤ info.height.toInt)
    (hw : 0 ≤ info.width.toInt) (hsize : info.height.toInt * info.width.toInt * 3 < 2 ^ 31)
    (hrow : info.pstride = 3 → info.width.toInt * 3 < 2 ^ 31) (n : ℕ) :
    ∃ b, noPadding info n = .ok b := by
  rw [noPadding, hc]
  by_cases hp : info.pstride = 3
  · have h3 : info.pstride.toInt = 3 := by rw [hp]; rfl
    obtain ⟨rowSize, he, he'⟩ := @mulInt_of_fits info.width info.pstride
      (by rw [h3]; exact fits_of_nonneg (by omega) (hrow hp))
    rw [if_pos hp, he, OrFatal.ok_bind]
    by_cases hr : info.rstride = rowSize
    · have htotal : info.height.toInt * info.rstride.toInt =
          info.height.toInt * info.width.toInt * 3 := by
        rw [hr, he', h3, Int.mul_assoc]
      have hnonneg : 0 ≤ info.height.toInt * info.width.toInt := Int.mul_nonneg hh hw
      obtain ⟨total, het, _⟩ := @mulInt_of_fits info.height info.rstride
        (by rw [htotal]; exact fits_of_nonneg (by omega) hsize)
      rw [if_pos hr, het, OrFatal.ok_bind]
      exact ⟨_, rfl⟩
    · rw [if_neg hr]
      exact ⟨_, rfl⟩
  · rw [if_neg hp]
    exact ⟨_, rfl⟩

/-- The test of the fast path has computed the size of a row, if it got there. -/
theorem row_of_noPadding (hc : info.components = 3) {n : ℕ} {b : Bool}
    (h : noPadding info n = .ok b) (hp : info.pstride = 3) : info.width.toInt * 3 < 2 ^ 31 := by
  rw [noPadding, hc, if_pos hp] at h
  obtain ⟨rowSize, hrow, _⟩ := OrFatal.of_bind_eq_ok h
  have hlt := rowSize.toInt_lt
  rw [mulInt_toInt hrow, hp] at hlt
  exact hlt

/-- On the fast path the payload already is the pixels. -/
theorem copied_of_fastPath {w h : ℕ} (hw : info.width.toInt = w)
    (hfast : FastPath info buffer.bytes.length) {r : RawImage}
    (hdesc : r.descriptor = ⟨.srgb, info.height, info.width⟩) (hdata : r.data = buffer.bytes) :
    Copied info buffer w h (3 * (w * h)) r where
  descriptor := hdesc
  bytes i j k _ _ _ _ := by
    obtain ⟨hp, hr, _⟩ := hfast
    have hrow : (w : ℤ) * 3 * i = (3 * (w * i) : ℕ) := by
      rw [Int.mul_right_comm, Int.mul_comm]
      rfl
    rw [hdata, srcIndex, hr, hp, hw, hrow, show (3 : Int32).toInt = 3 from rfl]
    congr 1
    omega

/-- **A payload that fits is converted pixel by pixel**, whichever path is taken. -/
theorem toRgbRawImageChecked_copied (hc : info.components = 3) {w h : ℕ}
    (hw : info.width.toInt = w) (hh : info.height.toInt = h)
    (hfits : PayloadFits info buffer.bytes.length) :
    ∃ r, toRgbRawImageChecked info buffer = .ok r ∧ Copied info buffer w h (3 * (w * h)) r := by
  have hprod : info.height.toInt * info.width.toInt * 3 = (3 * (w * h) : ℕ) := by
    rw [hh, hw, Int.mul_comm, Int.mul_comm (h : ℤ)]
    rfl
  have hsize := hfits.size
  obtain ⟨b, hb⟩ := noPadding_ok hc hfits.height hfits.width hsize hfits.row buffer.bytes.length
  rw [toRgbRawImageChecked, hb]
  cases b with
  | true =>
    have hfast := (noPadding_fastPath hc hb).mp rfl
    have hlen := hfits.fast hfast
    obtain ⟨r, hr⟩ := (@RawImage.ofBytes_eq_ok_iff ⟨.srgb, info.height, info.width⟩
      buffer.bytes).mpr ⟨hfits.height, hfits.width, hlen, by omega⟩
    obtain ⟨hdesc, hdata⟩ := RawImage.ofBytes_descriptor hr
    exact ⟨r, hr, copied_of_fastPath hw hfast hdesc hdata⟩
  | false =>
    have hslow : ¬ FastPath info buffer.bytes.length := fun hf =>
      absurd ((noPadding_fastPath hc hb).mpr hf) Bool.false_ne_true
    exact closePadding_ok hw hh hc (by omega) ((readable_iff hw hh).mpr (hfits.slow hslow))

/-- **`ToRgbRawImage` is free of undefined behaviour and of aborts exactly on the payloads
that fit.** -/
theorem toRgbRawImageChecked_ok_iff (hc : info.components = 3) :
    (∃ r, toRgbRawImageChecked info buffer = .ok r) ↔ PayloadFits info buffer.bytes.length := by
  constructor
  · rintro ⟨r, h⟩
    rw [toRgbRawImageChecked] at h
    cases hb : noPadding info buffer.bytes.length with
    | error e =>
      rw [hb] at h
      cases h
    | ok b =>
      rw [hb] at h
      have hiff := noPadding_fastPath hc hb
      cases b with
      | true =>
        obtain ⟨hh, hw, hlen, hlt⟩ := RawImage.ofBytes_eq_ok_iff.mp ⟨r, h⟩
        have hlen' : (buffer.bytes.length : ℤ) = info.height.toInt * info.width.toInt * 3 := hlen
        exact ⟨hh, hw, by omega, row_of_noPadding hc hb, fun _ => hlen',
          fun hslow => absurd (hiff.mp rfl) hslow⟩
      | false =>
        obtain ⟨r0, hr0, _⟩ := OrFatal.of_bind_eq_ok h
        obtain ⟨hh, hw, hsize⟩ := RawImage.ofDims_eq_ok_iff.mp ⟨r0, hr0⟩
        have hw' : info.width.toInt = (info.width.toInt.toNat : ℕ) := by omega
        have hh' : info.height.toInt = (info.height.toInt.toNat : ℕ) := by omega
        exact ⟨hh, hw, hsize, row_of_noPadding hc hb,
          fun hfast => absurd (hiff.mpr hfast) Bool.false_ne_true,
          fun _ => (readable_iff hw' hh').mp (readable_of_closePadding hw' hh' hc h)⟩
  · intro hfits
    obtain ⟨r, hr, _⟩ := @toRgbRawImageChecked_copied info buffer hc info.width.toInt.toNat
      info.height.toInt.toNat (by have := hfits.width; omega) (by have := hfits.height; omega) hfits
    exact ⟨r, hr⟩

end ToRgbRawImage

/-! ### One function, two paths -/

/-- **An image is its pixels.** -/
theorem RawImage.ext_of_pixels {r r' : RawImage} {w h : ℕ} (hdesc : r.descriptor = r'.descriptor)
    (hlen : r.data.length = 3 * (w * h)) (hlen' : r'.data.length = 3 * (w * h))
    (hpix : ∀ i j k, i < h → j < w → k < 3 →
      r.data[3 * (w * i + j) + k]? = r'.data[3 * (w * i + j) + k]?) : r = r' := by
  refine RawImage.ext_of_descriptor hdesc (List.ext_getElem? fun p => ?_)
  by_cases hp : p < 3 * (w * h)
  · have hw : 0 < w := Nat.pos_of_ne_zero fun h0 => by simp [h0] at hp
    have hpixel : p / 3 < w * h := by omega
    have hrow : p / 3 / w < h := Nat.div_lt_of_lt_mul hpixel
    have := hpix (p / 3 / w) (p / 3 % w) (p % 3) hrow (Nat.mod_lt _ hw) (by omega)
    rw [Nat.div_add_mod, Nat.div_add_mod] at this
    exact this
  · rw [List.getElem?_eq_none (by omega), List.getElem?_eq_none (by omega)]

section Reindex

variable {info : GstreamerRawImageInfo} {buffer : GstreamerBuffer}

/-- Two complete copies of one payload are one image. -/
theorem Copied.unique {w h : ℕ} {r r' : RawImage} (hw : info.width.toInt = w)
    (hh : info.height.toInt = h) (hr : Copied info buffer w h (3 * (w * h)) r)
    (hr' : Copied info buffer w h (3 * (w * h)) r') : r = r' := by
  refine RawImage.ext_of_pixels (hr.descriptor.trans hr'.descriptor.symm) (hr.length hw hh)
    (hr'.length hw hh) fun i j k hi hj hk => ?_
  have hlt := position_lt hi hj hk
  rw [hr.bytes i j k hi hj hk hlt, hr'.bytes i j k hi hj hk hlt]

/-- Rows that hold their pixels, and a payload that holds its rows. -/
theorem corners_of_strides (hp : 3 ≤ info.pstride.toInt) (hw : 0 ≤ info.width.toInt)
    (hr : info.width.toInt * info.pstride.toInt ≤ info.rstride.toInt)
    (htotal : info.height.toInt * info.rstride.toInt < 2 ^ 31) {n : ℕ}
    (hlen : info.height.toInt * info.rstride.toInt ≤ n) : Corners info n := by
  have hrow : 0 ≤ info.width.toInt * info.pstride.toInt := Int.mul_nonneg hw (by omega)
  have hlast : info.rstride.toInt * (info.height.toInt - 1) =
      info.height.toInt * info.rstride.toInt - info.rstride.toInt := by
    rw [Int.mul_sub, Int.mul_one, Int.mul_comm]
  have hend : info.pstride.toInt * (info.width.toInt - 1) =
      info.width.toInt * info.pstride.toInt - info.pstride.toInt := by
    rw [Int.mul_sub, Int.mul_one, Int.mul_comm]
  constructor
  · intro hh _
    exact fits_of_nonneg (Int.mul_nonneg (by omega) (by omega)) (by omega)
  · intro hh hwpos
    have h1 : 0 ≤ info.rstride.toInt * (info.height.toInt - 1) :=
      Int.mul_nonneg (by omega) (by omega)
    have h2 : 0 ≤ info.pstride.toInt * (info.width.toInt - 1) :=
      Int.mul_nonneg (by omega) (by omega)
    exact ⟨h1, h2, by omega, by omega⟩

/-- **The two paths of `ToRgbRawImage` compute one function**: with strides that hold their
rows and pixels, and a payload that holds the rows, the conversion, with or without its
checks, and the slow path alone return the same image, whose bytes are those that the
strides say. -/
theorem toRgbRawImage_reindexes (hc : info.components = 3) (hp : 3 ≤ info.pstride.toInt)
    (hw : 0 ≤ info.width.toInt) (hh : 0 ≤ info.height.toInt)
    (hr : info.width.toInt * info.pstride.toInt ≤ info.rstride.toInt)
    (htotal : info.height.toInt * info.rstride.toInt ≤ 2 ^ 31 - 1)
    (hsize : info.height.toInt * info.width.toInt * 3 ≤ 2 ^ 31 - 1)
    (hlen : info.height.toInt * info.rstride.toInt ≤ buffer.bytes.length)
    (hmax : buffer.bytes.length ≤ 2 ^ 31 - 1) :
    ∃ r, toRgbRawImageChecked info buffer = .ok r ∧ toRgbRawImage info buffer = .ok r ∧
      closePadding info buffer = .ok r ∧ r.height = info.height ∧ r.width = info.width ∧
      ∀ i j k : ℕ, i < info.height.toInt → j < info.width.toInt → k < 3 →
        ∃ b, r.data[3 * (info.width.toInt.toNat * i + j) + k]? = some b ∧
          buffer.bytes[info.rstride.toInt.toNat * i + info.pstride.toInt.toNat * j + k]? =
            some b := by
  obtain ⟨w, hw'⟩ := Int.eq_ofNat_of_zero_le hw
  obtain ⟨h, hh'⟩ := Int.eq_ofNat_of_zero_le hh
  have hcorners := corners_of_strides hp hw hr (by omega) hlen
  have hfits : PayloadFits info buffer.bytes.length := by
    refine ⟨hh, hw, by omega, fun h3 => ?_, fun hfast => ?_, fun _ => hcorners⟩
    · rw [h3, show (3 : Int32).toInt = 3 from rfl] at hr
      have hlt := info.rstride.toInt_lt
      omega
    · obtain ⟨_, hrow, hall⟩ := hfast
      rw [Int32.toInt_ofNat_of_lt (by omega), hrow, ← Int.mul_assoc] at hall
      exact hall
  obtain ⟨r, he, hcopied⟩ := toRgbRawImageChecked_copied hc hw' hh' hfits
  have hread := (readable_iff (n := buffer.bytes.length) hw' hh').mpr hcorners
  have hprod : info.height.toInt * info.width.toInt * 3 = (3 * (w * h) : ℕ) := by
    rw [hh', hw', Int.mul_comm, Int.mul_comm (h : ℤ)]
    rfl
  obtain ⟨r', he', hcopied'⟩ := closePadding_ok hw' hh' hc (by omega) hread
  cases hcopied.unique hw' hh' hcopied'
  obtain ⟨_, hheight, hwidth⟩ := RawImageDescriptor.mk.inj hcopied.descriptor
  refine ⟨r, he, toRgbRawImage_of_checked he, he', hheight, hwidth, fun i j k hi hj hk => ?_⟩
  have hi' : i < h := by omega
  have hj' : j < w := by omega
  have hlt := position_lt hi' hj' hk
  obtain ⟨hpos, _, hn⟩ := hread.index i j k hi' hj' hk
  have hindex : (srcIndex info i j k).toNat =
      info.rstride.toInt.toNat * i + info.pstride.toInt.toNat * j + k := by
    have hrs : (info.rstride.toInt.toNat : ℤ) = info.rstride.toInt := by
      have := Int.mul_nonneg hw (show 0 ≤ info.pstride.toInt by omega)
      omega
    have hps : (info.pstride.toInt.toNat : ℤ) = info.pstride.toInt := by omega
    have hcast : srcIndex info i j k =
        (info.rstride.toInt.toNat * i + info.pstride.toInt.toNat * j + k : ℕ) := by
      rw [srcIndex, ← hrs, ← hps]
      rfl
    rw [hcast]
    rfl
  have hin : (srcIndex info i j k).toNat < buffer.bytes.length := by omega
  refine ⟨buffer.bytes[(srcIndex info i j k).toNat], ?_, ?_⟩
  · rw [show info.width.toInt.toNat = w by omega, hcopied.bytes i j k hi' hj' hk hlt,
      List.getElem?_eq_getElem hin]
  · rw [← hindex, List.getElem?_eq_getElem hin]

end Reindex

/-- The padded image of one pixel. -/
theorem toRgbRawImage_reindexes_onePixel :
    ∃ r, toRgbRawImageChecked ⟨15, "RGB", 1, 1, 4, 1, 3, 4, 3⟩ ⟨[], [1, 2, 3, 0]⟩ = .ok r ∧
      toRgbRawImage ⟨15, "RGB", 1, 1, 4, 1, 3, 4, 3⟩ ⟨[], [1, 2, 3, 0]⟩ = .ok r ∧
      r.data[2]? = some 3 := by
  obtain ⟨r, h1, h2, _, _, _, hpix⟩ := @toRgbRawImage_reindexes
    ⟨15, "RGB", 1, 1, 4, 1, 3, 4, 3⟩ ⟨[], [1, 2, 3, 0]⟩ rfl (by decide) (by decide) (by decide)
    (by decide) (by decide) (by decide) (by decide) (by decide)
  obtain ⟨b, hb, hsrc⟩ := hpix 0 0 2 (by decide) (by decide) (by decide)
  cases hsrc
  exact ⟨r, h1, h2, hb⟩

/-! ### The whole conversion -/

/-- **`ToRawImage` on an RGB buffer is safe exactly where the payload fits the caps.** -/
theorem toRawImageChecked_ok_iff {gstCapsFromString : Bytes → Option GstCaps}
    {buffer : GstreamerBuffer} {info : GstreamerRawImageInfo}
    (hparse : parseAsRawImageCaps gstCapsFromString buffer.caps = .value info)
    (hrgb : info.gstFormatId = gstVideoFormatRgb) (hc : info.components = 3) :
    (∃ v, toRawImageChecked gstCapsFromString buffer = .ok v) ↔
      PayloadFits info buffer.bytes.length := by
  rw [← toRgbRawImageChecked_ok_iff hc, toRawImageChecked, hparse]
  simp only [hrgb, if_true]
  constructor
  · rintro ⟨v, h⟩
    cases hr : toRgbRawImageChecked info buffer with
    | error e =>
      rw [hr] at h
      cases h
    | ok r => exact ⟨r, rfl⟩
  · rintro ⟨r, hr⟩
    rw [hr]
    exact ⟨_, rfl⟩

theorem toRawImageChecked_onePixel :
    ∃ v, toRawImageChecked (gstRgbCaps 1 1) ⟨[], [1, 2, 3, 0]⟩ = .ok v :=
  (@toRawImageChecked_ok_iff (gstRgbCaps 1 1) ⟨[], [1, 2, 3, 0]⟩ _ rfl rfl rfl).mpr
    { height := by decide
      width := by decide
      size := by decide
      row := by decide
      fast := fun h => absurd h.2.1 (by decide)
      slow := fun _ => ⟨fun _ hw => absurd hw (by decide), fun _ _ => by decide⟩ }

/-- **A payload shorter than its caps is read past its end.** -/
theorem not_toRawImageChecked_emptyPayload :
    ¬ ∃ v, toRawImageChecked (gstRgbCaps 1 1) ⟨[], []⟩ = .ok v := by
  rintro ⟨v, h⟩
  cases h

end AIStreams
