import AIStreams.Arith.CheckedInt
import AIStreams.Base.Packet

/-!
# Raw images

`aistreams/proto/types/raw_image.proto`, `aistreams/base/types/raw_image_helpers.cc` and
`aistreams/base/types/raw_image.{h,cc}`.  A `RawImage` is what its constructors let through:
dimensions and format that `Validate` and `GetBufferSize` accept, and a buffer of that size.

* `getBufferSize_eq_value`: `GetBufferSize` is the product over the integers, or an error.
* `RawImage.ofDims_eq_ok_iff`, `RawImage.ofBytes_eq_ok_iff`: when the constructors do not
  abort.
* `RawImage.ofBytes_self`: every raw image is one that a constructor builds.
-/

namespace AIStreams

/-- `enum RawImageFormat`, which is open: a number without a name is kept. -/
inductive RawImageFormat
  | unknown
  | srgb
  | unlisted (value : Int32) (h : value ≠ 0 ∧ value ≠ 1)
  deriving DecidableEq

structure RawImageDescriptor where
  format : RawImageFormat
  height : Int32
  width : Int32
  deriving DecidableEq

/-! ### Helpers -/

def getNumChannels : RawImageFormat → Int32
  | .srgb => 3
  | .unknown => 1
  | .unlisted _ _ => 1

def validate (desc : RawImageDescriptor) : Status :=
  if desc.height < 0 then
    invalidArgumentError "Given a raw image descriptor of negative height"
  else if desc.width < 0 then
    invalidArgumentError "Given a raw image descriptor of negative width"
  else okStatus

/-- `__builtin_mul_overflow`: the wrapped product, and whether it is not the product. -/
def mulOverflow (a b : Int32) : Bool × Int32 := ((a * b).toInt != a.toInt * b.toInt, a * b)

def getBufferSize (desc : RawImageDescriptor) : StatusOr Int32 :=
  let height := desc.height
  let width := desc.width
  let channels := getNumChannels desc.format
  if height < 0 ∨ width < 0 ∨ channels < 0 then
    .ofStatus (invalidArgumentError
      ("The given raw image descriptor has negative dimensions/channels (height=" ++
        toString height ++ ", width=" ++ toString width ++ ", channels=" ++ toString channels ++
        "). They must be non-negative."))
  else
    let (overflow, pixels) := mulOverflow height width
    if overflow then
      .ofStatus (invalidArgumentError
        ("Multiplication overflow when multiplying height (" ++ toString height ++
          ") and width (" ++ toString width ++
          "). Please contact us if you really need an image this large."))
    else
      let (overflow, bufSize) := mulOverflow pixels channels
      if overflow then
        .ofStatus (invalidArgumentError
          ("Multiplication overflow when multiply number of pixels (" ++ toString pixels ++
            ") and the number of channels (" ++ toString channels ++
            "), Please contact us if you really need an image this large."))
      else .value bufSize

/-- `static_cast<size_t>` of an `int`. -/
def toSizeT (n : Int32) : ℕ := (n.toInt % 2 ^ 64).toNat

theorem getNumChannels_pos (format : RawImageFormat) : 0 < (getNumChannels format).toInt := by
  cases format with
  | unknown => decide
  | srgb => decide
  | unlisted _ _ => show 0 < (1 : Int32).toInt; decide

theorem toSizeT_of_nonneg {n : Int32} (h : 0 ≤ n.toInt) : (toSizeT n : ℤ) = n.toInt := by
  have hlt := n.toInt_lt
  unfold toSizeT
  omega

theorem mulOverflow_eq_false {a b : Int32} (h : (mulOverflow a b).1 = false) :
    (mulOverflow a b).2.toInt = a.toInt * b.toInt :=
  bne_eq_false_iff_eq.mp h

theorem validate_ok {desc : RawImageDescriptor} :
    (validate desc).ok = true ↔ 0 ≤ desc.height.toInt ∧ 0 ≤ desc.width.toInt := by
  unfold validate
  simp only [Int32.lt_iff_toInt_lt, Int32.toInt_zero]
  split
  · rename_i h
    simp only [invalidArgumentError_ok, Bool.false_eq_true, false_iff]
    omega
  · split
    · rename_i h
      simp only [invalidArgumentError_ok, Bool.false_eq_true, false_iff]
      omega
    · simp only [okStatus_ok, true_iff]
      omega

/-- **A buffer size that `GetBufferSize` returns is the true product**, of dimensions that
are not negative. -/
theorem getBufferSize_eq_value {desc : RawImageDescriptor} {n : Int32}
    (h : getBufferSize desc = .value n) :
    0 ≤ desc.height.toInt ∧ 0 ≤ desc.width.toInt ∧
      n.toInt = desc.height.toInt * desc.width.toInt * (getNumChannels desc.format).toInt := by
  unfold getBufferSize at h
  simp only [Int32.lt_iff_toInt_lt, Int32.toInt_zero] at h
  split at h
  · exact absurd h (StatusOr.ofStatus_ne_value _ n)
  · rename_i hneg
    split at h
    · exact absurd h (StatusOr.ofStatus_ne_value _ n)
    · rename_i hpixels
      split at h
      · exact absurd h (StatusOr.ofStatus_ne_value _ n)
      · rename_i hbuf
        cases h
        rw [mulOverflow_eq_false (Bool.eq_false_iff.mpr hbuf),
          mulOverflow_eq_false (Bool.eq_false_iff.mpr hpixels)]
        exact ⟨by omega, by omega, rfl⟩

theorem mulOverflow_of_fits {a b : Int32} (h : Arith.Fits (a.toInt * b.toInt)) :
    mulOverflow a b = (false, a * b) := by
  rw [mulOverflow, Arith.toInt_mul_of_fits h, bne_self_eq_false]

/-- **A buffer size that is an `int`** is what `GetBufferSize` returns. -/
theorem getBufferSize_of_lt {desc : RawImageDescriptor} (hh : 0 ≤ desc.height.toInt)
    (hw : 0 ≤ desc.width.toInt)
    (hlt : desc.height.toInt * desc.width.toInt * (getNumChannels desc.format).toInt < 2 ^ 31) :
    ∃ n, getBufferSize desc = .value n ∧
      n.toInt = desc.height.toInt * desc.width.toInt * (getNumChannels desc.format).toInt := by
  have hc := getNumChannels_pos desc.format
  have hpix : 0 ≤ desc.height.toInt * desc.width.toInt := Int.mul_nonneg hh hw
  have hle : desc.height.toInt * desc.width.toInt ≤
      desc.height.toInt * desc.width.toInt * (getNumChannels desc.format).toInt := by
    have := Int.mul_le_mul_of_nonneg_left (show 1 ≤ (getNumChannels desc.format).toInt from hc) hpix
    omega
  have hpixels := Arith.toInt_mul_of_fits (Arith.fits_of_nonneg hpix (by omega))
  have hfits : Arith.Fits ((desc.height * desc.width).toInt * (getNumChannels desc.format).toInt) :=
    by rw [hpixels]; exact Arith.fits_of_nonneg (by omega) hlt
  refine ⟨desc.height * desc.width * getNumChannels desc.format, ?_, ?_⟩
  · rw [getBufferSize, if_neg]
    · simp only [mulOverflow_of_fits (Arith.fits_of_nonneg hpix (by omega)),
        mulOverflow_of_fits hfits, Bool.false_eq_true, if_false]
    · simp only [Int32.lt_iff_toInt_lt, Int32.toInt_zero]
      omega
  · rw [Arith.toInt_mul_of_fits hfits, hpixels]

/-! ### The class -/

/-- `class RawImage`, with what holds of every object its constructors build. -/
structure RawImage where
  height : Int32
  width : Int32
  channels : Int32
  format : RawImageFormat
  data : Bytes
  channels_eq : channels = getNumChannels format
  size_eq : ∃ n, getBufferSize ⟨format, height, width⟩ = .value n ∧ data.length = toSizeT n

namespace RawImage

def size (im : RawImage) : ℕ := im.data.length

def descriptor (im : RawImage) : RawImageDescriptor := ⟨im.format, im.height, im.width⟩

/-- `RawImage(height, width, format)`. -/
def ofDims (height width : Int32) (format : RawImageFormat) : OrFatal RawImage :=
  let desc : RawImageDescriptor := ⟨format, height, width⟩
  if (validate desc).ok = false then .error ⟨(validate desc).toString⟩
  else
    match hsize : getBufferSize desc with
    | .error status _ => .error ⟨status.toString⟩
    | .value n =>
      .ok
        { height := height
          width := width
          channels := getNumChannels format
          format := format
          data := List.replicate (toSizeT n) 0
          channels_eq := rfl
          size_eq := ⟨n, hsize, List.length_replicate⟩ }

/-- `RawImage(desc)`. -/
def ofDescriptor (desc : RawImageDescriptor) : OrFatal RawImage :=
  ofDims desc.height desc.width desc.format

/-- `RawImage(desc, std::move(bytes))`. -/
def ofBytes (desc : RawImageDescriptor) (bytes : Bytes) : OrFatal RawImage :=
  if (validate desc).ok = false then .error ⟨(validate desc).toString⟩
  else
    match hsize : getBufferSize desc with
    | .error status _ => .error ⟨status.toString⟩
    | .value n =>
      if hlen : toSizeT n ≠ bytes.length then
        .error ⟨"Attempted to move construct a RawImage expecting " ++ toString n ++
          " bytes with a string containing " ++ toString bytes.length ++ " bytes"⟩
      else
        .ok
          { height := desc.height
            width := desc.width
            channels := getNumChannels desc.format
            format := desc.format
            data := bytes
            channels_eq := rfl
            size_eq := ⟨n, hsize, by omega⟩ }

theorem channels_srgb : 3 = getNumChannels .srgb := rfl

/-- `RawImage()`. -/
def default : RawImage where
  height := 0
  width := 0
  channels := 3
  format := .srgb
  data := []
  channels_eq := rfl
  size_eq := ⟨0, rfl, rfl⟩

/-- `std::copy(bytes.begin(), bytes.end(), im.data())`: the start of the buffer is
overwritten.  More bytes than it holds would be written behind it. -/
def copyToData (im : RawImage) (bytes : Bytes) : OrFatal RawImage :=
  if h : bytes.length ≤ im.data.length then
    .ok { im with
      data := bytes ++ im.data.drop bytes.length
      size_eq := by
        obtain ⟨n, hn, hlen⟩ := im.size_eq
        exact ⟨n, hn, by rw [List.length_append, List.length_drop]; omega⟩ }
  else .error ⟨"std::copy past the end of data_"⟩

/-- The size of a raw image is the `int` that `GetBufferSize` returned. -/
theorem size_eq_toInt (im : RawImage) : ∃ n : Int32, (im.size : ℤ) = n.toInt ∧
    n.toInt = im.height.toInt * im.width.toInt * im.channels.toInt := by
  obtain ⟨n, hn, hlen⟩ := im.size_eq
  obtain ⟨hh, hw, hprod⟩ := getBufferSize_eq_value hn
  have hc := getNumChannels_pos im.format
  have hnonneg : 0 ≤ n.toInt := by
    rw [hprod]
    exact Int.mul_nonneg (Int.mul_nonneg hh hw) (Int.le_of_lt hc)
  refine ⟨n, ?_, ?_⟩
  · rw [size, hlen, toSizeT_of_nonneg hnonneg]
  · rw [hprod, im.channels_eq]

theorem size_lt (im : RawImage) : im.size < 2 ^ 31 := by
  obtain ⟨n, hn, _⟩ := im.size_eq_toInt
  have hlt := n.toInt_lt
  omega

/-- The dimensions of a raw image are not negative, and its size is their product over the
integers. -/
theorem dims (im : RawImage) : 0 ≤ im.height.toInt ∧ 0 ≤ im.width.toInt ∧
    (im.size : ℤ) = im.height.toInt * im.width.toInt * im.channels.toInt := by
  obtain ⟨n, hn, _⟩ := im.size_eq
  obtain ⟨hh, hw, _⟩ := getBufferSize_eq_value hn
  obtain ⟨m, hm, hprod⟩ := im.size_eq_toInt
  exact ⟨hh, hw, hm.trans hprod⟩

theorem validate_descriptor (im : RawImage) : (validate im.descriptor).ok = true :=
  validate_ok.mpr ⟨im.dims.1, im.dims.2.1⟩

/-- **When `RawImage(desc)` does not abort**: `Validate` and `GetBufferSize` accept `desc`. -/
theorem ofDescriptor_eq_ok {desc : RawImageDescriptor} {n : Int32}
    (hvalid : (validate desc).ok = true) (hsize : getBufferSize desc = .value n) :
    ∃ im, ofDescriptor desc = .ok im ∧ im.descriptor = desc ∧
      im.data = List.replicate (toSizeT n) 0 := by
  unfold ofDescriptor ofDims
  rw [if_neg (by simp [hvalid])]
  split
  · rename_i h
    rw [hsize] at h
    cases h
  · rename_i m h
    rw [hsize] at h
    cases h
    exact ⟨_, rfl, rfl, rfl⟩

/-- **When `RawImage(desc, bytes)` does not abort**: both accept `desc`, and `bytes` has the
size asked for. -/
theorem ofBytes_eq_ok {desc : RawImageDescriptor} {n : Int32} {bytes : Bytes}
    (hvalid : (validate desc).ok = true) (hsize : getBufferSize desc = .value n)
    (hlen : bytes.length = toSizeT n) :
    ∃ im, ofBytes desc bytes = .ok im ∧ im.descriptor = desc ∧ im.data = bytes := by
  unfold ofBytes
  rw [if_neg (by simp [hvalid])]
  split
  · rename_i h
    rw [hsize] at h
    cases h
  · rename_i m h
    rw [hsize] at h
    cases h
    rw [dif_neg (by omega)]
    exact ⟨_, rfl, rfl, rfl⟩

theorem ofDims_descriptor {height width : Int32} {format : RawImageFormat} {im : RawImage}
    (h : ofDims height width format = .ok im) : im.descriptor = ⟨format, height, width⟩ := by
  unfold ofDims at h
  simp only at h
  split at h
  · cases h
  · split at h
    · cases h
    · cases h
      rfl

/-- **When `RawImage(height, width, format)` does not abort**, over the integers. -/
theorem ofDims_eq_ok_iff {height width : Int32} {format : RawImageFormat} :
    (∃ im, ofDims height width format = .ok im) ↔ 0 ≤ height.toInt ∧ 0 ≤ width.toInt ∧
      height.toInt * width.toInt * (getNumChannels format).toInt < 2 ^ 31 := by
  constructor
  · rintro ⟨im, h⟩
    obtain ⟨rfl, rfl, rfl⟩ := RawImageDescriptor.mk.inj (ofDims_descriptor h)
    obtain ⟨hh, hw, hsize⟩ := im.dims
    have hlt := im.size_lt
    rw [← im.channels_eq]
    exact ⟨hh, hw, by omega⟩
  · rintro ⟨hh, hw, hlt⟩
    obtain ⟨n, hn, _⟩ := @getBufferSize_of_lt ⟨format, height, width⟩ hh hw hlt
    obtain ⟨im, he, _⟩ := ofDescriptor_eq_ok (validate_ok.mpr ⟨hh, hw⟩) hn
    exact ⟨im, he⟩

theorem ofBytes_descriptor {desc : RawImageDescriptor} {bytes : Bytes} {im : RawImage}
    (h : ofBytes desc bytes = .ok im) : im.descriptor = desc ∧ im.data = bytes := by
  unfold ofBytes at h
  split at h
  · cases h
  · split at h
    · cases h
    · split at h
      · cases h
      · cases h
        exact ⟨rfl, rfl⟩

/-- **When `RawImage(desc, bytes)` does not abort**, over the integers. -/
theorem ofBytes_eq_ok_iff {desc : RawImageDescriptor} {bytes : Bytes} :
    (∃ im, ofBytes desc bytes = .ok im) ↔ 0 ≤ desc.height.toInt ∧ 0 ≤ desc.width.toInt ∧
      (bytes.length : ℤ) =
        desc.height.toInt * desc.width.toInt * (getNumChannels desc.format).toInt ∧
      bytes.length < 2 ^ 31 := by
  constructor
  · rintro ⟨im, h⟩
    obtain ⟨rfl, rfl⟩ := ofBytes_descriptor h
    obtain ⟨hh, hw, hsize⟩ := im.dims
    exact ⟨hh, hw, by rw [im.channels_eq] at hsize; exact hsize, im.size_lt⟩
  · rintro ⟨hh, hw, hlen, hlt⟩
    obtain ⟨n, hn, hprod⟩ := getBufferSize_of_lt hh hw (by omega)
    have hsize := toSizeT_of_nonneg (n := n) (by omega)
    obtain ⟨im, he, _⟩ := ofBytes_eq_ok (validate_ok.mpr ⟨hh, hw⟩) hn
      (show bytes.length = toSizeT n by omega)
    exact ⟨im, he⟩

theorem ext_of_descriptor {im im' : RawImage} (hdesc : im.descriptor = im'.descriptor)
    (hdata : im.data = im'.data) : im = im' := by
  obtain ⟨h, w, c, f, d, hc, _⟩ := im
  obtain ⟨h', w', c', f', d', hc', _⟩ := im'
  simp only [descriptor, RawImageDescriptor.mk.injEq] at hdesc hdata
  obtain ⟨rfl, rfl, rfl⟩ := hdesc
  subst hdata hc hc'
  rfl

/-- **Every raw image is built by a constructor**, from its own descriptor and bytes. -/
theorem ofBytes_self (im : RawImage) : ofBytes im.descriptor im.data = .ok im := by
  obtain ⟨n, hn, hlen⟩ := im.size_eq
  obtain ⟨im', he, hdesc, hdata⟩ := ofBytes_eq_ok im.validate_descriptor hn hlen
  rw [he, ext_of_descriptor hdesc hdata]

/-- Copying exactly as many bytes as the buffer holds replaces it. -/
theorem copyToData_eq_ok {im : RawImage} {bytes : Bytes} (h : bytes.length = im.data.length) :
    ∃ im', im.copyToData bytes = .ok im' ∧ im'.descriptor = im.descriptor ∧ im'.data = bytes := by
  unfold copyToData
  rw [dif_pos (Nat.le_of_eq h)]
  refine ⟨_, rfl, rfl, ?_⟩
  show bytes ++ im.data.drop bytes.length = bytes
  rw [List.drop_eq_nil_of_le (Nat.le_of_eq h.symm), List.append_nil]

end RawImage

end AIStreams
