import AIStreams.Gstreamer.RgbConversion

/-!
# From an RGB image to a buffer and back

`RgbRawImageToGstreamerBuffer`, checked: GStreamer wants rows of a multiple of four bytes,
so that a row is copied with padding unless its own size is one.

* `padsRows_iff`: the images that are padded without overflow.
* `rgbRawImageToGstreamerBuffer_padded`: the unchecked conversion pads no image wrongly.
* `rgb_roundTrip`: the image comes back from the buffer.
-/

namespace AIStreams

open Arith

/-- `ROUND_UP_4` of the size of a row of `w` pixels, over the integers. -/
def paddedRow (w : ℕ) : ℕ := (3 * w + 3) / 4 * 4

theorem le_paddedRow (w : ℕ) : 3 * w ≤ paddedRow w := by
  rw [paddedRow]
  omega

theorem paddedRow_of_mod {w : ℕ} (h : 3 * w % 4 = 0) : paddedRow w = 3 * w := by
  rw [paddedRow]
  omega

/-! ### Without the checks -/

theorem copyRange_of_checked {src dst bytes : Bytes} {lo hi pos : Int32}
    (h : copyRangeChecked src lo hi dst pos = .ok bytes) : bytes = copyRange src lo hi dst pos := by
  rw [copyRangeChecked] at h
  split at h
  · cases h
    rfl
  · cases h

/-- **Where the checked conversion succeeds, the unchecked one returns the same.** -/
theorem rgbRawImageToGstreamerBuffer_of_checked {r : RawImage} {b : GstreamerBuffer}
    (h : rgbRawImageToGstreamerBufferChecked r = .ok b) :
    rgbRawImageToGstreamerBuffer r = .ok b := by
  rw [rgbRawImageToGstreamerBufferChecked] at h
  cases hrow : mulInt r.width r.channels with
  | error e =>
    rw [hrow] at h
    cases h
  | ok rowSize =>
    rw [hrow] at h
    cases mulInt_eq hrow
    rw [rgbRawImageToGstreamerBuffer]
    simp only at h ⊢
    by_cases h4 : r.width * r.channels % 4 = 0
    · rw [if_pos h4] at h ⊢
      exact h
    · rw [if_neg h4] at h ⊢
      cases hpad : padRows r with
      | error e =>
        rw [hpad] at h
        cases h
      | ok bytes =>
        rw [hpad] at h
        obtain ⟨_, hsize, hrest⟩ := OrFatal.of_bind_eq_ok hpad
        cases mulInt_eq hsize
        obtain ⟨_, hstride, hrest⟩ := OrFatal.of_bind_eq_ok hrest
        obtain ⟨_, hsum, hstride⟩ := OrFatal.of_bind_eq_ok hstride
        cases addInt_eq hsum
        cases hstride
        obtain ⟨_, htotal, hloop⟩ := OrFatal.of_bind_eq_ok hrest
        cases mulInt_eq htotal
        obtain ⟨bytes0, hresize, hloop⟩ := OrFatal.of_bind_eq_ok hloop
        rw [roundUp4, hresize, OrFatal.ok_bind, forInt_mono (fun i x y hy => ?_) hloop,
          OrFatal.ok_bind]
        · exact h
        · obtain ⟨_, hlo, hy⟩ := OrFatal.of_bind_eq_ok hy
          obtain ⟨_, hnext, hy⟩ := OrFatal.of_bind_eq_ok hy
          obtain ⟨_, hhi, hy⟩ := OrFatal.of_bind_eq_ok hy
          obtain ⟨_, hpos, hy⟩ := OrFatal.of_bind_eq_ok hy
          cases mulInt_eq hlo
          cases addInt_eq hnext
          cases mulInt_eq hhi
          cases mulInt_eq hpos
          rw [copyRange_of_checked hy]

theorem toGstreamerBuffer_of_checked {r : RawImage} {v : StatusOr GstreamerBuffer}
    (h : toGstreamerBufferChecked r = .ok v) : toGstreamerBuffer r = .ok v := by
  rw [toGstreamerBufferChecked] at h
  rw [toGstreamerBuffer]
  by_cases hf : r.format ≠ .srgb
  · rw [if_pos hf] at h ⊢
    exact h
  · rw [if_neg hf] at h ⊢
    cases hb : rgbRawImageToGstreamerBufferChecked r with
    | error e =>
      rw [hb] at h
      cases h
    | ok b =>
      rw [hb] at h
      rw [rgbRawImageToGstreamerBuffer_of_checked hb]
      exact h

/-! ### Copying one row -/

section Copy

variable {src dst : Bytes} {lo hi pos : Int32} {l n d : ℕ}

/-- A copy of `n` bytes from `l` to `d`. -/
theorem copyRange_eq (hlo : lo.toInt = l) (hhi : hi.toInt = (l + n : ℕ)) (hpos : pos.toInt = d)
    (hsrc : l + n ≤ src.length) :
    copyRange src lo hi dst pos =
      dst.take d ++ (src.drop l).take n ++ dst.drop (d + n) := by
  have hlen : ((src.take (l + n)).drop l).length = n := by
    rw [List.length_drop, List.length_take]
    omega
  rw [copyRange, hlo, hhi, hpos]
  simp only [Int.toNat_natCast]
  rw [hlen, List.take_drop]

theorem copyRangeChecked_ok (hlo : lo.toInt = l) (hhi : hi.toInt = (l + n : ℕ))
    (hpos : pos.toInt = d) (hsrc : l + n ≤ src.length) (hdst : d + n ≤ dst.length) :
    copyRangeChecked src lo hi dst pos =
      .ok (dst.take d ++ (src.drop l).take n ++ dst.drop (d + n)) := by
  rw [copyRangeChecked, if_pos, copyRange_eq hlo hhi hpos hsrc]
  simp only [Int32.le_iff_toInt_le, Int32.toInt_zero]
  omega

theorem length_copied (hsrc : l + n ≤ src.length) (hdst : d + n ≤ dst.length) :
    (dst.take d ++ (src.drop l).take n ++ dst.drop (d + n)).length = dst.length := by
  simp only [List.length_append, List.length_take, List.length_drop]
  omega

theorem copied_before (hdst : d + n ≤ dst.length) {x : ℕ} (hx : x < d) :
    (dst.take d ++ (src.drop l).take n ++ dst.drop (d + n))[x]? = dst[x]? := by
  rw [List.append_assoc, List.getElem?_append_left (by rw [List.length_take]; omega),
    List.getElem?_take_of_lt hx]

theorem copied_inside (hsrc : l + n ≤ src.length) (hdst : d + n ≤ dst.length) {x : ℕ}
    (hx : x < n) :
    (dst.take d ++ (src.drop l).take n ++ dst.drop (d + n))[d + x]? = src[l + x]? := by
  have hd : (dst.take d).length = d := by rw [List.length_take]; omega
  have hn : ((src.drop l).take n).length = n := by
    rw [List.length_take, List.length_drop]
    omega
  rw [List.append_assoc, List.getElem?_append_right (by omega), hd, Nat.add_sub_cancel_left,
    List.getElem?_append_left (by omega), List.getElem?_take_of_lt hx, List.getElem?_drop]

end Copy

/-! ### Padding the rows -/

/-- The buffer has the rows of the image up to the `m`-th. -/
structure Padded (r : RawImage) (w h m : ℕ) (bytes : Bytes) : Prop where
  length : bytes.length = paddedRow w * h
  rows : ∀ i x, i < m → x < 3 * w → bytes[paddedRow w * i + x]? = r.data[3 * w * i + x]?

/-- Rows that need no padding are those of the image. -/
theorem Padded.eq_data {r : RawImage} {w h : ℕ} {bytes : Bytes} (hb : Padded r w h h bytes)
    (h4 : 3 * w % 4 = 0) (hlen : r.data.length = 3 * w * h) : bytes = r.data := by
  have hrow := paddedRow_of_mod h4
  have hlen' := hb.length
  rw [hrow, ← hlen] at hlen'
  refine List.ext_getElem? fun n => ?_
  by_cases hn : n < r.data.length
  · have hpos : 0 < 3 * w := Nat.pos_of_ne_zero fun h0 => by
      rw [hlen, h0, Nat.zero_mul] at hn
      exact absurd hn (Nat.not_lt_zero n)
    have hi : n / (3 * w) < h := Nat.div_lt_of_lt_mul (hlen ▸ hn)
    have hx := hb.rows (n / (3 * w)) (n % (3 * w)) hi (Nat.mod_lt n hpos)
    rw [hrow, Nat.div_add_mod] at hx
    exact hx
  · rw [List.getElem?_eq_none (by omega), List.getElem?_eq_none (by omega)]

/-- **An image is padded without overflow**: a row and, where there is padding to add, its
rounded size and that of all rows together are `int`s. -/
structure PaddingFits (r : RawImage) : Prop where
  row : r.width.toInt * 3 < 2 ^ 31
  padded : r.width.toInt * 3 % 4 ≠ 0 → r.width.toInt * 3 + 3 < 2 ^ 31 ∧
    (r.width.toInt * 3 + 3) / 4 * 4 * r.height.toInt < 2 ^ 31

section Pad

variable {r : RawImage} {w h : ℕ}

theorem RawImage.channels_of_srgb (hf : r.format = .srgb) : r.channels.toInt = 3 := by
  rw [r.channels_eq, hf]
  rfl

theorem RawImage.length_of_srgb (hf : r.format = .srgb) (hw : r.width.toInt = w)
    (hh : r.height.toInt = h) : r.data.length = 3 * w * h := by
  obtain ⟨_, _, hsize⟩ := r.dims
  rw [r.channels_of_srgb hf, hw, hh, RawImage.size] at hsize
  have hprod : (h : ℤ) * w * 3 = (3 * w * h : ℕ) := by
    rw [Int.mul_comm, Int.mul_comm (h : ℤ), ← Int.mul_assoc]
    rfl
  omega

/-- A row ends where the next one starts, or before. -/
theorem row_le {n : ℕ} {i : ℕ} (hi : i < h) : n * i + n ≤ n * h := by
  have := Nat.mul_le_mul_left n (show i + 1 ≤ h from hi)
  rw [Nat.mul_succ] at this
  exact this

/-- **One row.** -/
theorem padRow_ok (hf : r.format = .srgb) (hw : r.width.toInt = w) (hh : r.height.toInt = h)
    (hfit : paddedRow w * h < 2 ^ 31) {rowSize rowStride : Int32}
    (hsize : rowSize.toInt = (3 * w : ℕ)) (hstride : rowStride.toInt = paddedRow w) {i : ℕ}
    (hi : i < h) {bytes : Bytes} (hb : Padded r w h i bytes) :
    ∃ bytes', padRow r rowSize rowStride (.ofNat i) bytes = .ok bytes' ∧
      Padded r w h (i + 1) bytes' := by
  have hlen := r.length_of_srgb hf hw hh
  have hlt := r.size_lt
  rw [RawImage.size, hlen] at hlt
  have hsrc : 3 * w * i + 3 * w ≤ 3 * w * h := row_le hi
  have hdst : paddedRow w * i + paddedRow w ≤ paddedRow w * h := row_le hi
  have hle := le_paddedRow w
  have hi' : (Int32.ofNat i).toInt = i := toInt_index (n := r.height) (by omega)
  obtain ⟨lo, he1, h1⟩ := @mulInt_of_fits rowSize (.ofNat i)
    (by
      rw [hsize, hi', ← Int.natCast_mul]
      exact fits_of_nonneg (by omega) (by omega))
  obtain ⟨next, he2, h2⟩ := @addInt_of_fits (.ofNat i) 1
    (by
      have := r.height.toInt_lt
      rw [hi', show (1 : Int32).toInt = 1 from rfl]
      exact fits_of_nonneg (by omega) (by omega))
  rw [hi', show (1 : Int32).toInt = 1 from rfl] at h2
  have hnext : ((3 * w : ℕ) : ℤ) * (i + 1) = (3 * w * i + 3 * w : ℕ) := by
    rw [Int.mul_add, Int.mul_one]
    rfl
  obtain ⟨hi2, he3, h3⟩ := @mulInt_of_fits rowSize next
    (by rw [hsize, h2, hnext]; exact fits_of_nonneg (by omega) (by omega))
  obtain ⟨pos, he4, h4⟩ := @mulInt_of_fits rowStride (.ofNat i)
    (by
      rw [hstride, hi', ← Int.natCast_mul]
      exact fits_of_nonneg (by omega) (by omega))
  rw [hsize, hi', ← Int.natCast_mul] at h1
  rw [hsize, h2, hnext] at h3
  rw [hstride, hi', ← Int.natCast_mul] at h4
  have hsrc' : 3 * w * i + 3 * w ≤ r.data.length := by omega
  have hdst' : paddedRow w * i + 3 * w ≤ bytes.length := by rw [hb.length]; omega
  rw [padRow, he1, OrFatal.ok_bind, he2, OrFatal.ok_bind, he3, OrFatal.ok_bind, he4,
    OrFatal.ok_bind, copyRangeChecked_ok h1 h3 h4 hsrc' hdst']
  refine ⟨_, rfl, ?_, fun i' x hi' hx => ?_⟩
  · rw [length_copied hsrc' hdst', hb.length]
  · rcases Nat.lt_succ_iff_lt_or_eq.mp hi' with hlt' | rfl
    · have hrow : paddedRow w * i' + paddedRow w ≤ paddedRow w * i := row_le hlt'
      rw [copied_before hdst' (by omega)]
      exact hb.rows i' x hlt' hx
    · exact copied_inside hsrc' hdst' hx

/-- **All rows.** -/
theorem padRows_ok (hf : r.format = .srgb) (hw : r.width.toInt = w) (hh : r.height.toInt = h)
    (hrow : 3 * w + 3 < 2 ^ 31) (hfit : paddedRow w * h < 2 ^ 31) :
    ∃ bytes, padRows r = .ok bytes ∧ Padded r w h h bytes := by
  have hc := r.channels_of_srgb hf
  obtain ⟨rowSize, he1, h1⟩ := @mulInt_of_fits r.width r.channels
    (by rw [hw, hc]; exact fits_of_nonneg (by omega) (by omega))
  rw [hw, hc] at h1
  obtain ⟨sum, he2, h2⟩ := @addInt_of_fits rowSize 3
    (by
      rw [h1, show (3 : Int32).toInt = 3 from rfl]
      exact fits_of_nonneg (by omega) (by omega))
  rw [h1, show (3 : Int32).toInt = 3 from rfl] at h2
  have hround : roundUp4Checked rowSize = .ok (sum &&& ~~~3) := by
    rw [roundUp4Checked, he2, OrFatal.ok_bind]
  have hstride : (sum &&& ~~~3).toInt = paddedRow w := by
    rw [toInt_and_not_three (by omega), h2, paddedRow]
    omega
  obtain ⟨total, he3, h3⟩ := @mulInt_of_fits (sum &&& ~~~3) r.height
    (by
      rw [hstride, hh, ← Int.natCast_mul]
      exact fits_of_nonneg (by omega) (by omega))
  rw [hstride, hh, ← Int.natCast_mul] at h3
  have hsize : toSizeT total = paddedRow w * h := by
    have := toSizeT_of_nonneg (n := total) (by omega)
    omega
  have hresize : resizeEmpty total = .ok (List.replicate (paddedRow w * h) 0) := by
    rw [resizeEmpty, hsize, if_pos (by rw [maxStringSize]; omega)]
  rw [padRows, he1, OrFatal.ok_bind, hround, OrFatal.ok_bind, he3, OrFatal.ok_bind, hresize,
    OrFatal.ok_bind, forInt_eq, hh]
  refine Loop.count_ok (fun i bytes => Padded r w h i bytes)
    ⟨List.length_replicate, fun i x hi _ => absurd hi (by omega)⟩ ?_
  intro i bytes hi hb
  exact padRow_ok hf hw hh hfit (by omega) hstride hi hb

/-- The row of an image that has rows is an `int`. -/
theorem rowSize_toInt (hf : r.format = .srgb) (hw : r.width.toInt = w) (hh : r.height.toInt = h)
    (hpos : 0 < h) : 3 * w < 2 ^ 31 ∧ (r.width * r.channels).toInt = (3 * w : ℕ) := by
  have hlt := r.size_lt
  rw [RawImage.size, r.length_of_srgb hf hw hh] at hlt
  have hrow : 3 * w ≤ 3 * w * h := Nat.le_mul_of_pos_right _ hpos
  have hc := r.channels_of_srgb hf
  refine ⟨by omega, ?_⟩
  rw [toInt_mul_of_fits (by rw [hc, hw]; exact fits_of_nonneg (by omega) (by omega)), hc, hw]
  omega

theorem mod_four_iff {rowSize : Int32} (h : rowSize.toInt = (3 * w : ℕ)) :
    rowSize % 4 = 0 ↔ 3 * w % 4 = 0 := by
  rw [← Int32.toInt_inj, Int32.toInt_mod, h, show (4 : Int32).toInt = 4 from rfl,
    Int.tmod_eq_emod_of_nonneg (by omega), Int32.toInt_zero]
  omega

/-- **An image that can be padded is**, row by row. -/
theorem rgbRawImageToGstreamerBufferChecked_ok (hf : r.format = .srgb) (hw : r.width.toInt = w)
    (hh : r.height.toInt = h) (hfits : PaddingFits r) :
    ∃ bytes, rgbRawImageToGstreamerBufferChecked r =
        .ok ⟨rgbCapsString r.width r.height, bytes⟩ ∧ Padded r w h h bytes := by
  have hc := r.channels_of_srgb hf
  have hrow := hfits.row
  obtain ⟨rowSize, he, he'⟩ := @mulInt_of_fits r.width r.channels
    (by rw [hc]; exact fits_of_nonneg (by omega) hrow)
  rw [hc, hw] at he'
  have hmod : rowSize % 4 = 0 ↔ 3 * w % 4 = 0 := mod_four_iff (he'.trans (by omega))
  rw [rgbRawImageToGstreamerBufferChecked, he]
  simp only
  by_cases h4 : rowSize % 4 = 0
  · rw [if_pos h4]
    have hstride := paddedRow_of_mod (hmod.mp h4)
    refine ⟨r.data, rfl, ?_, fun i x _ _ => by rw [hstride]⟩
    rw [hstride]
    exact r.length_of_srgb hf hw hh
  · rw [if_neg h4]
    rw [hmod] at h4
    obtain ⟨hthree, htotal⟩ := hfits.padded (by rw [hw]; omega)
    have hround : (r.width.toInt * 3 + 3) / 4 * 4 = (paddedRow w : ℕ) := by
      rw [hw, paddedRow]
      omega
    rw [hround, hh, ← Int.natCast_mul] at htotal
    obtain ⟨bytes, hb, hpadded⟩ := padRows_ok hf hw hh (by omega) (Int.ofNat_lt.mp htotal)
    rw [hb]
    exact ⟨bytes, rfl, hpadded⟩

/-- A negative size is far more than a string can hold. -/
theorem resizeEmpty_of_neg {n : Int32} (h : n.toInt < 0) :
    resizeEmpty n = .error ⟨"std::length_error"⟩ := by
  have hlow := n.le_toInt
  have hhuge : ¬ toSizeT n ≤ maxStringSize := by
    unfold toSizeT maxStringSize
    omega
  rw [resizeEmpty, if_neg hhuge]

/-- The size of an image that cannot be padded wraps to a negative number. -/
theorem paddedSize_neg (hf : r.format = .srgb) (hw : r.width.toInt = w) (hh : r.height.toInt = h)
    (hpos : 0 < h) (hfits : ¬ PaddingFits r) :
    (roundUp4 (r.width * r.channels) * r.height).toInt < 0 := by
  have hlt := r.size_lt
  rw [RawImage.size, r.length_of_srgb hf hw hh] at hlt
  obtain ⟨hrow, hsize⟩ := rowSize_toInt hf hw hh hpos
  by_cases hsum : 3 * w + 3 < 2 ^ 31
  · have hround : (roundUp4 (r.width * r.channels)).toInt = (paddedRow w : ℕ) := by
      have hadd : (r.width * r.channels + 3).toInt = (3 * w + 3 : ℕ) := by
        have hthree : (3 : Int32).toInt = 3 := rfl
        rw [toInt_add_of_fits, hsize, hthree]
        · omega
        · rw [hsize, hthree]
          exact fits_of_nonneg (by omega) (by omega)
      rw [roundUp4, toInt_and_not_three (by omega), hadd, paddedRow]
      omega
    have hbig : 2 ^ 31 ≤ paddedRow w * h := by
      by_contra hsmall
      refine hfits ⟨by omega, fun _ => ⟨by omega, ?_⟩⟩
      rw [show (r.width.toInt * 3 + 3) / 4 * 4 = (paddedRow w : ℕ) by rw [hw, paddedRow]; omega, hh,
        ← Int.natCast_mul]
      omega
    have hlast : paddedRow w * h < 2 ^ 32 := by
      have hw1 : paddedRow w ≤ 2 * (3 * w) := by
        rw [paddedRow]
        rcases Nat.eq_zero_or_pos w with rfl | hw0
        · decide
        · omega
      calc paddedRow w * h ≤ 2 * (3 * w) * h := Nat.mul_le_mul_right h hw1
        _ = 2 * (3 * w * h) := by rw [Nat.mul_assoc]
        _ < 2 ^ 32 := by omega
    rw [Int32.toInt_mul, hround, hh, ← Int.natCast_mul]
    exact bmod_neg (by omega) (by omega)
  · have hone : h = 1 := by
      by_contra hne
      have htwo : 3 * w * 2 ≤ 3 * w * h := Nat.mul_le_mul_left _ (by omega)
      omega
    have hheight : r.height = 1 := by
      rw [← Int32.toInt_inj, hh, hone]
      rfl
    have hsum' : (r.width * r.channels + 3).toInt < 0 := by
      rw [Int32.toInt_add, hsize, show (3 : Int32).toInt = 3 from rfl]
      exact bmod_neg (by omega) (by omega)
    rw [hheight, Int32.mul_one, roundUp4]
    exact toInt_and_neg hsum' (by decide)

/-- **No image is padded wrongly**: one that cannot be padded has a negative size. -/
theorem rgbRawImageToGstreamerBuffer_padded (hf : r.format = .srgb) (hw : r.width.toInt = w)
    (hh : r.height.toInt = h) {b : GstreamerBuffer}
    (hb : rgbRawImageToGstreamerBuffer r = .ok b) : Padded r w h h b.bytes := by
  by_cases hfits : PaddingFits r
  · obtain ⟨bytes, he, hpadded⟩ := rgbRawImageToGstreamerBufferChecked_ok hf hw hh hfits
    rw [rgbRawImageToGstreamerBuffer_of_checked he] at hb
    cases hb
    exact hpadded
  · have hsize := r.length_of_srgb hf hw hh
    rw [rgbRawImageToGstreamerBuffer] at hb
    simp only at hb
    rcases Nat.eq_zero_or_pos h with rfl | hpos
    · have hbytes : b.bytes = [] := by
        split at hb
        · cases hb
          exact List.eq_nil_of_length_eq_zero (by omega)
        · have hheight : r.height = 0 := by
            rw [← Int32.toInt_inj, hh]
            rfl
          rw [hheight, Int32.mul_zero] at hb
          cases hb
          rfl
      rw [hbytes]
      exact ⟨rfl, fun i x hi _ => absurd hi (Nat.not_lt_zero i)⟩
    · split at hb
      · rename_i h4
        obtain ⟨hrow, hrowSize⟩ := rowSize_toInt hf hw hh hpos
        have hmod := (mod_four_iff hrowSize).mp h4
        exact absurd ⟨by omega, fun hne => absurd (by omega) hne⟩ hfits
      · rw [resizeEmpty_of_neg (paddedSize_neg hf hw hh hpos hfits)] at hb
        cases hb

/-- An image that was padded can be. -/
theorem paddingFits_of_padRows (hf : r.format = .srgb) {bytes : Bytes}
    (h : padRows r = .ok bytes) : PaddingFits r := by
  have hc := r.channels_of_srgb hf
  have hw := r.dims.2.1
  obtain ⟨rowSize, hrow, hrest⟩ := OrFatal.of_bind_eq_ok h
  obtain ⟨_, hstride, hrest⟩ := OrFatal.of_bind_eq_ok hrest
  obtain ⟨sum, hsum, hstride⟩ := OrFatal.of_bind_eq_ok hstride
  cases hstride
  obtain ⟨total, htotal, _⟩ := OrFatal.of_bind_eq_ok hrest
  have hsize := mulInt_toInt hrow
  have hlt := rowSize.toInt_lt
  rw [hc] at hsize
  have hsum' := addInt_toInt hsum
  rw [hsize, show (3 : Int32).toInt = 3 from rfl] at hsum'
  have hsumlt := sum.toInt_lt
  have htotal' := mulInt_toInt htotal
  rw [toInt_and_not_three (by omega), hsum'] at htotal'
  have htotallt := total.toInt_lt
  exact ⟨by omega, fun _ => ⟨by omega, by rw [← htotal']; exact htotallt⟩⟩

/-- **Padding overflows nowhere exactly for the images that can be padded**; then the
buffer has the padded size. -/
theorem padsRows_iff (hf : r.format = .srgb) :
    (∃ b, rgbRawImageToGstreamerBufferChecked r = .ok b ∧
      (b.bytes.length : ℤ) = (r.width.toInt * 3 + 3) / 4 * 4 * r.height.toInt) ↔
    PaddingFits r := by
  have hc := r.channels_of_srgb hf
  constructor
  · rintro ⟨b, hb, _⟩
    rw [rgbRawImageToGstreamerBufferChecked] at hb
    cases hrow : mulInt r.width r.channels with
    | error e =>
      rw [hrow] at hb
      cases hb
    | ok rowSize =>
      rw [hrow] at hb
      have hsize := mulInt_toInt hrow
      have hlt := rowSize.toInt_lt
      rw [hc] at hsize
      obtain ⟨w, hw⟩ := Int.eq_ofNat_of_zero_le r.dims.2.1
      by_cases h4 : rowSize % 4 = 0
      · have hmod := (mod_four_iff (w := w) (by rw [hsize, hw]; omega)).mp h4
        exact ⟨by omega, fun hne => absurd (by omega) hne⟩
      · simp only [if_neg h4] at hb
        cases hpad : padRows r with
        | error e =>
          rw [hpad] at hb
          cases hb
        | ok bytes => exact paddingFits_of_padRows hf hpad
  · intro hfits
    obtain ⟨w, hw⟩ := Int.eq_ofNat_of_zero_le r.dims.2.1
    obtain ⟨h, hh⟩ := Int.eq_ofNat_of_zero_le r.dims.1
    obtain ⟨bytes, hb, hpadded⟩ := rgbRawImageToGstreamerBufferChecked_ok hf hw hh hfits
    refine ⟨_, hb, ?_⟩
    have hround : (r.width.toInt * 3 + 3) / 4 * 4 = (paddedRow w : ℕ) := by
      rw [hw, paddedRow]
      omega
    rw [hround, hh, ← Int.natCast_mul]
    exact congrArg Int.ofNat hpadded.length

end Pad

/-- An image without rows that is `width` pixels wide. -/
def rowless (width : Int32) (h : getBufferSize ⟨.srgb, 0, width⟩ = .value 0) : RawImage where
  height := 0
  width := width
  channels := 3
  format := .srgb
  data := []
  channels_eq := RawImage.channels_srgb
  size_eq := ⟨0, h, rfl⟩

/-- Two rows of one pixel. -/
def twoRows : RawImage where
  height := 2
  width := 1
  channels := 3
  format := .srgb
  data := [1, 2, 3, 4, 5, 6]
  channels_eq := RawImage.channels_srgb
  size_eq := ⟨6, rfl, rfl⟩

/-- Both rows are padded. -/
theorem padsRows_twoRows :
    ∃ b, rgbRawImageToGstreamerBufferChecked twoRows = .ok b ∧
      (b.bytes.length : ℤ) =
        (twoRows.width.toInt * 3 + 3) / 4 * 4 * twoRows.height.toInt :=
  (padsRows_iff rfl).mpr ⟨by decide, fun _ => ⟨by decide, by decide⟩⟩

/-- **The width of an image without rows is not bounded**, and the size of its rows
overflows. -/
theorem not_padsRows_rowless :
    ¬ ∃ b, rgbRawImageToGstreamerBufferChecked (rowless 1073741824 rfl) = .ok b ∧
      (b.bytes.length : ℤ) = ((rowless 1073741824 rfl).width.toInt * 3 + 3) / 4 * 4 *
        (rowless 1073741824 rfl).height.toInt := by
  rintro ⟨b, h, _⟩
  cases h

/-! ### There and back -/

/-- **GStreamer parses the caps of RGB images** of these dimensions: one plane, three
components, and rows of a multiple of four bytes. -/
def ParsesRgbCaps (gstCapsFromString : Bytes → Option GstCaps) (width height : Int32) : Prop :=
  ∃ info : GstVideoInfo, gstCapsFromString (rgbCapsString width height) =
      some ⟨kRawImageGstreamerMimeType, some info⟩ ∧
    info.formatId = gstVideoFormatRgb ∧ info.planes = 1 ∧ info.components = 3 ∧
    info.height = height ∧ info.width = width ∧ info.compPstride = 3 ∧
    info.planeStride.toInt = (width.toInt * 3 + 3) / 4 * 4

section RoundTrip

variable {r : RawImage}

/-- An image with rows can be padded if the padded size is an `int`. -/
theorem paddingFits_of_lt (hw : 1 ≤ r.width.toInt) (hh : 1 ≤ r.height.toInt)
    (hfit : (r.width.toInt * 3 + 3) / 4 * 4 * r.height.toInt < 2 ^ 31) : PaddingFits r := by
  have hle : (r.width.toInt * 3 + 3) / 4 * 4 * 1 ≤
      (r.width.toInt * 3 + 3) / 4 * 4 * r.height.toInt :=
    Int.mul_le_mul_of_nonneg_left hh (by omega)
  exact ⟨by omega, fun h4 => ⟨by omega, hfit⟩⟩

/-- The buffer that an image is padded into fits its caps. -/
theorem payloadFits_of_padded {info : GstreamerRawImageInfo} {w h : ℕ}
    (hw : info.width.toInt = w) (hh : info.height.toInt = h) (hhpos : 1 ≤ h)
    (hp : info.pstride = 3) (hstride : info.rstride.toInt = paddedRow w)
    (hfit : paddedRow w * h < 2 ^ 31) : PayloadFits info (paddedRow w * h) := by
  have hle := le_paddedRow w
  have hrows : paddedRow w ≤ paddedRow w * h := Nat.le_mul_of_pos_right _ hhpos
  have hsize : 3 * w * h ≤ paddedRow w * h := Nat.mul_le_mul_right h hle
  have hprod : info.height.toInt * info.width.toInt * 3 = (3 * w * h : ℕ) := by
    rw [hw, hh, Int.mul_comm, Int.mul_comm (h : ℤ), ← Int.mul_assoc]
    rfl
  have htotal : info.height.toInt * info.rstride.toInt = (paddedRow w * h : ℕ) := by
    rw [hh, hstride, Int.mul_comm]
    rfl
  have h3 : info.pstride.toInt = 3 := by rw [hp]; rfl
  refine ⟨by omega, by omega, by omega, fun _ => by omega, fun hfast => ?_, fun _ => ?_⟩
  · obtain ⟨_, hrow, hall⟩ := hfast
    rw [Int32.toInt_ofNat_of_lt hfit, hrow, ← Int.mul_assoc] at hall
    exact hall
  · exact corners_of_strides (by omega) (by omega) (by rw [h3, hw, hstride]; omega) (by omega)
      (Int.le_of_eq htotal)

/-- **The pixels come back** from the padded rows. -/
theorem toRgbRawImageChecked_of_padded (hf : r.format = .srgb) {w h : ℕ}
    (hw : r.width.toInt = w) (hh : r.height.toInt = h) (hhpos : 1 ≤ h)
    (hfit : paddedRow w * h < 2 ^ 31) {info : GstreamerRawImageInfo} {buffer : GstreamerBuffer}
    (hwidth : info.width = r.width) (hheight : info.height = r.height)
    (hc : info.components = 3) (hp : info.pstride = 3)
    (hstride : info.rstride.toInt = paddedRow w) (hb : Padded r w h h buffer.bytes) :
    toRgbRawImageChecked info buffer = .ok r := by
  rw [← hwidth] at hw
  rw [← hheight] at hh
  have hfits := payloadFits_of_padded hw hh hhpos hp hstride hfit
  rw [← hb.length] at hfits
  obtain ⟨r', hr', hcopied⟩ := toRgbRawImageChecked_copied hc hw hh hfits
  have hlen := r.length_of_srgb hf (hwidth ▸ hw) (hheight ▸ hh)
  have hdesc : r'.descriptor = r.descriptor := by
    rw [hcopied.descriptor, hwidth, hheight, RawImage.descriptor, hf]
  rw [hr', RawImage.ext_of_pixels hdesc (hcopied.length hw hh)
    (hlen.trans (Nat.mul_assoc 3 w h)) fun i j k hi hj hk => ?_]
  have hindex : srcIndex info i j k = (paddedRow w * i + (3 * j + k) : ℕ) := by
    rw [srcIndex, hstride, hp, show (3 : Int32).toInt = 3 from rfl]
    push_cast
    omega
  rw [hcopied.bytes i j k hi hj hk (position_lt hi hj hk), hindex]
  show buffer.bytes[paddedRow w * i + (3 * j + k)]? = _
  rw [hb.rows i (3 * j + k) hi (by omega)]
  congr 1
  rw [Nat.mul_add, Nat.mul_assoc]
  omega

/-- **The round trip of RGB images**: the conversion to a buffer and the one back, with or
without their checks, return the image. -/
theorem rgb_roundTrip {gstCapsFromString : Bytes → Option GstCaps} (hf : r.format = .srgb)
    (hw : 1 ≤ r.width.toInt) (hh : 1 ≤ r.height.toInt)
    (hfit : (r.width.toInt * 3 + 3) / 4 * 4 * r.height.toInt < 2 ^ 31)
    (hparse : ParsesRgbCaps gstCapsFromString r.width r.height) :
    ∃ b, toGstreamerBufferChecked r = .ok (.value b) ∧ toGstreamerBuffer r = .ok (.value b) ∧
      (b.bytes.length : ℤ) = (r.width.toInt * 3 + 3) / 4 * 4 * r.height.toInt ∧
      toRawImageChecked gstCapsFromString b = .ok (.value r) ∧
      toRawImage gstCapsFromString b = .ok (.value r) := by
  obtain ⟨w, hw'⟩ := Int.eq_ofNat_of_zero_le r.dims.2.1
  obtain ⟨h, hh'⟩ := Int.eq_ofNat_of_zero_le r.dims.1
  have hround : (r.width.toInt * 3 + 3) / 4 * 4 = (paddedRow w : ℕ) := by
    rw [hw', paddedRow]
    omega
  obtain ⟨bytes, hb, hpadded⟩ :=
    rgbRawImageToGstreamerBufferChecked_ok hf hw' hh' (paddingFits_of_lt hw hh hfit)
  rw [hround, hh', ← Int.natCast_mul] at hfit
  have hto : toGstreamerBufferChecked r =
      .ok (.value ⟨rgbCapsString r.width r.height, bytes⟩) := by
    rw [toGstreamerBufferChecked, if_neg (not_not_intro hf), hb]
    rfl
  obtain ⟨info, hcaps, hformat, hplanes, hc, hheight, hwidth, hp, hstride⟩ := hparse
  have hback : toRawImageChecked gstCapsFromString ⟨rgbCapsString r.width r.height, bytes⟩ =
      .ok (.value r) := by
    rw [toRawImageChecked, parseAsRawImageCaps, hcaps]
    simp only [ne_eq, not_true_eq_false, if_false, hplanes, if_true, hformat]
    rw [toRgbRawImageChecked_of_padded hf hw' hh' (by omega) (Int.ofNat_lt.mp hfit) hwidth hheight
      hc hp (hstride.trans hround) hpadded]
    rfl
  refine ⟨_, hto, toGstreamerBuffer_of_checked hto, ?_, hback, toRawImage_of_checked hback⟩
  rw [hround, hh', ← Int.natCast_mul]
  exact congrArg Int.ofNat hpadded.length

end RoundTrip

/-- An image of one pixel. -/
def onePixel : RawImage where
  height := 1
  width := 1
  channels := 3
  format := .srgb
  data := [1, 2, 3]
  channels_eq := RawImage.channels_srgb
  size_eq := ⟨3, rfl, rfl⟩

theorem rgb_roundTrip_onePixel :
    ∃ b, toGstreamerBufferChecked onePixel = .ok (.value b) ∧
      toGstreamerBuffer onePixel = .ok (.value b) ∧
      (b.bytes.length : ℤ) =
        (onePixel.width.toInt * 3 + 3) / 4 * 4 * onePixel.height.toInt ∧
      toRawImageChecked (gstRgbCaps 1 1) b = .ok (.value onePixel) ∧
      toRawImage (gstRgbCaps 1 1) b = .ok (.value onePixel) :=
  rgb_roundTrip rfl (by decide) (by decide) (by decide)
    ⟨gstRgbInfo 1 1, rfl, rfl, rfl, rfl, rfl, rfl, rfl, by decide⟩

end AIStreams
