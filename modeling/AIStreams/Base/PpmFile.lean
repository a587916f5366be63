import AIStreams.Base.RawImage
import AIStreams.Text.InputStream
import AIStreams.Wire.Format

/-!
# PPM files

`ToPpmFile` and `FromPpmFile` of `aistreams/base/util/raw_image_utils.cc`, over the
`GetContents` and `SetContents` of `aistreams/util/file_helpers.cc`.

* `headerAt_iff`: what the four extractions of `FromPpmFile` accept, as a grammar.
* `validates_iff`: exactly when `FromPpmFile` returns a status or the image of the file.
* `fromPpmFile_toPpmFile`: what `ToPpmFile` has written reads back.
-/

namespace AIStreams

open Text
open Text.InputStream (Ready)

/-! ### The functions -/

/-- Files, as `GetContents` and `SetContents` show them: what was written is read. -/
structure FileSystem (F : Type) where
  getContents : F → String → StatusOr Bytes
  setContents : F → String → Bytes → Status × F
  get_set : ∀ fs fileName contents, (setContents fs fileName contents).1.ok = true →
    getContents (setContents fs fileName contents).2 fileName = .value contents

/-- The file contents that `ToPpmFile` puts together. -/
def ppmContents (rawImage : RawImage) : Bytes :=
  Wire.ofString "P6\n" ++ intDecimal rawImage.width.toInt ++ Wire.ofString " " ++
    intDecimal rawImage.height.toInt ++ Wire.ofString "\n255\n" ++ rawImage.data

def toPpmFile {F : Type} (files : FileSystem F) (fs : F) (fileName : String)
    (rawImage : RawImage) : Status × F :=
  files.setContents fs fileName (ppmContents rawImage)

/-- `is >> value` for an `int`. -/
def readInt32 (is : InputStream) (value : Int32) : Int32 × InputStream :=
  let (value, is) := InputStream.readInt (-2 ^ 31) (2 ^ 31 - 1) is value.toInt
  (Int32.ofInt value, is)

structure PpmHeader where
  ppmVersion : Bytes
  width : Int32
  height : Int32
  maxColorValue : Int32
  is : InputStream

/-- `is >> ppm_version >> width >> height >> max_color_value`.  What is not extracted has no
value; nothing reads it then. -/
def readPpmHeader (fileContents : Bytes) : PpmHeader :=
  let is := InputStream.ofBytes fileContents
  let (ppmVersion, is) := is.readWord []
  let (width, is) := readInt32 is 0
  let (height, is) := readInt32 is 0
  let (maxColorValue, is) := readInt32 is 0
  ⟨ppmVersion, width, height, maxColorValue, is⟩

/-- `s.substr(pos)`, the position converted to `size_t`. -/
def substr (s : Bytes) (pos : ℤ) : OrFatal Bytes :=
  if 0 ≤ pos ∧ pos ≤ s.length then .ok (s.drop pos.toNat) else .error ⟨"std::out_of_range"⟩

def fromPpmFile (fileName : String) (contents : StatusOr Bytes) (dst : RawImage) :
    OrFatal (Status × RawImage) :=
  match contents with
  | .error _ _ =>
    .ok (invalidArgumentError ("Failed to get contents from file " ++ fileName), dst)
  | .value fileContents =>
    let header := readPpmHeader fileContents
    if header.is.failbit then
      .ok (invalidArgumentError ("Failed to read the PPM file header from " ++ fileName ++
        " (is it written with ToPpmFile?)"), dst)
    else do
      let data ← substr header.is.str (header.is.tellg + 1)
      let im ← RawImage.ofBytes ⟨.srgb, header.height, header.width⟩ data
      .ok (okStatus, im)

/-! ### The header -/

/-- After white space, a numeral for an `int`; then `rest`. -/
def Int32At (bytes : Bytes) (value : Int32) (rest : Bytes) : Prop :=
  NumberAt (-2 ^ 31) (2 ^ 31 - 1) bytes value.toInt rest

/-- The header: a word, the two dimensions and a third number; then `after`. -/
def HeaderAt (contents : Bytes) (width height : Int32) (after : Bytes) : Prop :=
  ∃ ppmVersion maxColorValue rest₁ rest₂ rest₃, WordAt contents ppmVersion rest₁ ∧
    Int32At rest₁ width rest₂ ∧ Int32At rest₂ height rest₃ ∧ Int32At rest₃ maxColorValue after

section Header

variable {is : InputStream} {bytes rest : Bytes}

theorem readInt32_of_int32At {value : Int32} (h : Ready is bytes) (hv : Int32At bytes value rest)
    (old : Int32) : (readInt32 is old).1 = value ∧ Ready (readInt32 is old).2 rest ∧
      (readInt32 is old).2.eofbit = rest.isEmpty := by
  obtain ⟨he, hready, heof⟩ := InputStream.readInt_of_numberAt h hv old.toInt
  refine ⟨?_, hready, heof⟩
  show Int32.ofInt (InputStream.readInt _ _ is old.toInt).1 = value
  rw [he, Int32.ofInt_toInt]

theorem readInt32_iff (h : Ready is bytes) (old : Int32) :
    (readInt32 is old).2.failbit = false ↔ ∃ value rest, Int32At bytes value rest := by
  show (InputStream.readInt _ _ is old.toInt).2.failbit = false ↔ _
  rw [InputStream.readInt_iff h]
  constructor
  · rintro ⟨i, rest, hi⟩
    obtain ⟨space, num, hbytes, hspace, hnum, hrest, hlo, hhi⟩ := hi
    have hi : (Int32.ofInt i).toInt = i := Int32.toInt_ofInt_of_le hlo (by omega)
    exact ⟨Int32.ofInt i, rest, space, num, hbytes, hspace, hi.symm ▸ hnum, hrest, hi.symm ▸ hlo,
      hi.symm ▸ hhi⟩
  · rintro ⟨value, rest, hv⟩
    exact ⟨value.toInt, rest, hv⟩

/-- A stream that has failed stays so. -/
theorem not_failbit_of_readInt32 {old : Int32} (h : (readInt32 is old).2.failbit = false) :
    is.failbit = false := by
  rw [← Bool.not_eq_true]
  intro hfail
  have hbad : (readInt32 is old).2.failbit = true := InputStream.readInt_of_failbit hfail
  rw [h] at hbad
  cases hbad

/-- The four extractions, each on the stream that the one before leaves. -/
theorem readPpmHeader_eq {contents ppmVersion : Bytes} {width height maxColorValue : Int32}
    {is₁ is₂ is₃ is₄ : InputStream}
    (hversion : (InputStream.ofBytes contents).readWord [] = (ppmVersion, is₁))
    (hwidth : readInt32 is₁ 0 = (width, is₂)) (hheight : readInt32 is₂ 0 = (height, is₃))
    (hmax : readInt32 is₃ 0 = (maxColorValue, is₄)) :
    readPpmHeader contents = ⟨ppmVersion, width, height, maxColorValue, is₄⟩ := by
  simp only [readPpmHeader, hversion, hwidth, hheight, hmax]

/-- **On a header the extractions read it**, and the stream is at what follows. -/
theorem readPpmHeader_of_headerAt {contents after : Bytes} {width height : Int32}
    (h : HeaderAt contents width height after) :
    (readPpmHeader contents).width = width ∧ (readPpmHeader contents).height = height ∧
      Ready (readPpmHeader contents).is after ∧
      (readPpmHeader contents).is.eofbit = after.isEmpty := by
  obtain ⟨ppmVersion, maxColorValue, rest₁, rest₂, rest₃, hversion, hwidth, hheight, hmax⟩ := h
  obtain ⟨_, hready₁, _⟩ :=
    InputStream.readWord_of_wordAt (InputStream.ready_ofBytes contents) hversion []
  obtain ⟨hw, hready₂, _⟩ := readInt32_of_int32At hready₁ hwidth 0
  obtain ⟨hh, hready₃, _⟩ := readInt32_of_int32At hready₂ hheight 0
  obtain ⟨_, hready₄, heof⟩ := readInt32_of_int32At hready₃ hmax 0
  rw [readPpmHeader_eq Prod.mk.eta.symm Prod.mk.eta.symm Prod.mk.eta.symm Prod.mk.eta.symm]
  exact ⟨hw, hh, hready₄, heof⟩

/-- **The extractions succeed on a header only.** -/
theorem headerAt_iff (contents : Bytes) : (readPpmHeader contents).is.failbit = false ↔
    ∃ width height after, HeaderAt contents width height after := by
  constructor
  · intro hfail
    rw [readPpmHeader_eq Prod.mk.eta.symm Prod.mk.eta.symm Prod.mk.eta.symm Prod.mk.eta.symm]
      at hfail
    have hfail₃ := not_failbit_of_readInt32 hfail
    have hfail₂ := not_failbit_of_readInt32 hfail₃
    have hfail₁ := not_failbit_of_readInt32 hfail₂
    have hready := InputStream.ready_ofBytes contents
    obtain ⟨ppmVersion, rest₁, hversion⟩ := (InputStream.readWord_iff hready []).mp hfail₁
    have hready₁ := (InputStream.readWord_of_wordAt hready hversion []).2.1
    obtain ⟨width, rest₂, hwidth⟩ := (readInt32_iff hready₁ 0).mp hfail₂
    have hready₂ := (readInt32_of_int32At hready₁ hwidth 0).2.1
    obtain ⟨height, rest₃, hheight⟩ := (readInt32_iff hready₂ 0).mp hfail₃
    have hready₃ := (readInt32_of_int32At hready₂ hheight 0).2.1
    obtain ⟨maxColorValue, after, hmax⟩ := (readInt32_iff hready₃ 0).mp hfail
    exact ⟨width, height, after, ppmVersion, maxColorValue, rest₁, rest₂, rest₃, hversion, hwidth,
      hheight, hmax⟩
  · rintro ⟨width, height, after, h⟩
    exact (readPpmHeader_of_headerAt h).2.2.1.failbit

/-- **A file has one header.** -/
theorem HeaderAt.unique {contents after after' : Bytes} {width width' height height' : Int32}
    (h : HeaderAt contents width height after) (h' : HeaderAt contents width' height' after') :
    width = width' ∧ height = height' ∧ after = after' := by
  obtain ⟨hw, hh, hready, _⟩ := readPpmHeader_of_headerAt h
  obtain ⟨hw', hh', hready', _⟩ := readPpmHeader_of_headerAt h'
  exact ⟨hw.symm.trans hw', hh.symm.trans hh', hready.rest_eq.symm.trans hready'.rest_eq⟩

end Header

/-! ### What is read from a file -/

/-- A position is computed from a `tellg` that has failed. -/
def SeeksBlindly (fileContents : Bytes) : Prop :=
  (readPpmHeader fileContents).is.failbit = false ∧ (readPpmHeader fileContents).is.tellg = -1

/-- `FromPpmFile` returns: an error and the image it was given, or OK and an SRGB image with the
dimensions of the header and the bytes after it; the byte that ends the header is not looked
at.  And every position is one of the file. -/
structure Validates (fileName : String) (contents : StatusOr Bytes) (dst : RawImage) : Prop where
  returns : ∃ status im, fromPpmFile fileName contents dst = .ok (status, im) ∧
    (status.ok = false ∧ im = dst ∨
      status.ok = true ∧ ∃ fileContents sep data, contents = .value fileContents ∧
        HeaderAt fileContents im.width im.height (sep :: data) ∧ im.format = .srgb ∧
        im.data = data)
  position : ∀ fileContents, contents = .value fileContents → ¬ SeeksBlindly fileContents

/-- The header, if the file has one, ends in a further byte, and its dimensions are those of the
bytes that follow. -/
def WellFormed (fileContents : Bytes) : Prop :=
  ∀ width height after, HeaderAt fileContents width height after →
    ∃ sep data, after = sep :: data ∧ 0 ≤ height.toInt ∧ 0 ≤ width.toInt ∧
      (data.length : ℤ) = height.toInt * width.toInt * 3 ∧ data.length < 2 ^ 31

section FromPpmFile

variable {fileName : String} {fileContents data : Bytes} {dst : RawImage} {width height : Int32}
  {sep : UInt8}

theorem tellg_of_headerAt (h : HeaderAt fileContents width height (sep :: data)) :
    0 ≤ (readPpmHeader fileContents).is.tellg ∧
      substr (readPpmHeader fileContents).is.str ((readPpmHeader fileContents).is.tellg + 1) =
        .ok data := by
  obtain ⟨_, _, hready, heof⟩ := readPpmHeader_of_headerAt h
  have htell := InputStream.tellg_of_ready hready heof
  have hpos := hready.pos
  have hrest := hready.rest_eq
  rw [if_neg (List.cons_ne_nil _ _)] at htell
  rw [List.length_cons] at htell hpos
  have hnat : (readPpmHeader fileContents).is.tellg = (readPpmHeader fileContents).is.pos := by
    omega
  refine ⟨by omega, ?_⟩
  rw [hnat, substr, if_pos (by omega)]
  have hdrop : (readPpmHeader fileContents).is.str.drop
      ((readPpmHeader fileContents).is.pos + 1) = data := by
    rw [← List.drop_drop, show List.drop _ _ = sep :: data from hrest]
    rfl
  rw [show ((readPpmHeader fileContents).is.pos + 1 : ℤ).toNat =
    (readPpmHeader fileContents).is.pos + 1 by omega, hdrop]

/-- What `FromPpmFile` makes of a header and the bytes after it. -/
theorem fromPpmFile_of_headerAt (h : HeaderAt fileContents width height (sep :: data)) :
    fromPpmFile fileName (.value fileContents) dst =
      (RawImage.ofBytes ⟨.srgb, height, width⟩ data).map (okStatus, ·) := by
  obtain ⟨hw, hh, hready, _⟩ := readPpmHeader_of_headerAt h
  unfold fromPpmFile
  simp only [hready.failbit, Bool.false_eq_true, if_false, (tellg_of_headerAt h).2,
    OrFatal.ok_bind, hw, hh]
  rfl

theorem fromPpmFile_of_no_header (h : (readPpmHeader fileContents).is.failbit = true) :
    ∃ status, status.ok = false ∧
      fromPpmFile fileName (.value fileContents) dst = .ok (status, dst) := by
  unfold fromPpmFile
  simp only [h, if_true]
  exact ⟨_, invalidArgumentError_ok _, rfl⟩

theorem fromPpmFile_ok (h : (readPpmHeader fileContents).is.failbit = false) {status : Status}
    {im : RawImage} (hr : fromPpmFile fileName (.value fileContents) dst = .ok (status, im)) :
    status = okStatus := by
  unfold fromPpmFile at hr
  simp only [h, Bool.false_eq_true, if_false] at hr
  obtain ⟨data, _, hr⟩ := OrFatal.of_bind_eq_ok hr
  obtain ⟨im', _, hr⟩ := OrFatal.of_bind_eq_ok hr
  cases hr
  rfl

theorem validates_of_headerAt (h : HeaderAt fileContents width height (sep :: data))
    (hh : 0 ≤ height.toInt) (hw : 0 ≤ width.toInt)
    (hlen : (data.length : ℤ) = height.toInt * width.toInt * 3) (hlt : data.length < 2 ^ 31) :
    Validates fileName (.value fileContents) dst := by
  obtain ⟨im, him⟩ := (@RawImage.ofBytes_eq_ok_iff ⟨.srgb, height, width⟩ data).mpr
    ⟨hh, hw, hlen, hlt⟩
  obtain ⟨hdesc, hdata⟩ := RawImage.ofBytes_descriptor him
  obtain ⟨hformat, hheight, hwidth⟩ := RawImageDescriptor.mk.inj hdesc
  refine ⟨⟨okStatus, im, ?_, .inr ⟨rfl, fileContents, sep, data, rfl, ?_, hformat, hdata⟩⟩, ?_⟩
  · rw [fromPpmFile_of_headerAt h, him]
    rfl
  · rw [hwidth, hheight]
    exact h
  · intro contents hcontents hblind
    cases hcontents
    have := (tellg_of_headerAt h).1
    have := hblind.2
    omega

end FromPpmFile

/-- An image that is read has the size of its pixels. -/
theorem wellFormed_of_validates {fileName : String} {fileContents : Bytes} {dst : RawImage}
    (h : Validates fileName (.value fileContents) dst) : WellFormed fileContents := by
  intro width height after hheader
  have hfail := (headerAt_iff fileContents).mpr ⟨width, height, after, hheader⟩
  obtain ⟨status, im, hr, ⟨hs, _⟩ | ⟨_, _, sep, data, hcontents, hheader', hformat, hdata⟩⟩ :=
    h.returns
  · rw [fromPpmFile_ok hfail hr] at hs
    cases hs
  · cases hcontents
    obtain ⟨rfl, rfl, rfl⟩ := hheader.unique hheader'
    obtain ⟨hh, hw, hsize⟩ := im.dims
    rw [im.channels_eq, hformat] at hsize
    refine ⟨sep, data, rfl, hh, hw, ?_, hdata ▸ im.size_lt⟩
    rw [← hdata]
    exact hsize

theorem validates_of_wellFormed {fileContents : Bytes} (h : WellFormed fileContents)
    (fileName : String) (dst : RawImage) : Validates fileName (.value fileContents) dst := by
  by_cases hfail : (readPpmHeader fileContents).is.failbit = true
  · obtain ⟨status, hs, hr⟩ := @fromPpmFile_of_no_header fileName fileContents dst hfail
    refine ⟨⟨status, dst, hr, .inl ⟨hs, rfl⟩⟩, ?_⟩
    intro contents hcontents hblind
    cases hcontents
    exact absurd (hblind.1.symm.trans hfail) (by decide)
  · obtain ⟨width, height, after, hheader⟩ :=
      (headerAt_iff fileContents).mp (Bool.eq_false_iff.mpr hfail)
    obtain ⟨sep, data, rfl, hh, hw, hlen, hlt⟩ := h width height after hheader
    exact validates_of_headerAt hheader hh hw hlen hlt

/-- **When `FromPpmFile` validates**: exactly if the file cannot be read, or has no header, or a
header that ends before the end of the file and gives the dimensions of what follows it. -/
theorem validates_iff (fileName : String) (contents : StatusOr Bytes) (dst : RawImage) :
    Validates fileName contents dst ↔
      ∀ fileContents, contents = .value fileContents → WellFormed fileContents := by
  cases contents with
  | error status hs =>
    refine ⟨fun _ => nofun, fun _ => ⟨⟨_, dst, rfl, .inl ⟨invalidArgumentError_ok _, rfl⟩⟩, nofun⟩⟩
  | value fileContents =>
    constructor
    · intro hvalid _ hcontents
      cases hcontents
      exact wellFormed_of_validates hvalid
    · intro h
      exact validates_of_wellFormed (h fileContents rfl) fileName dst

/-! ### What is written to a file -/

theorem ppmContents_eq (rawImage : RawImage) : ppmContents rawImage =
    [80, 54] ++ (10 :: (intDecimal rawImage.width.toInt ++ (32 ::
      (intDecimal rawImage.height.toInt ++ (10 :: ([50, 53, 53] ++ (10 :: rawImage.data))))))) := by
  have hmagic : Wire.ofString "P6\n" = [80, 54, 10] := by decide
  have hblank : Wire.ofString " " = [32] := by decide
  have hmax : Wire.ofString "\n255\n" = [10, 50, 53, 53, 10] := by decide
  simp [ppmContents, hmagic, hblank, hmax]

/-- After one space character, the digits of a number that other bytes follow. -/
theorem int32At_intDecimal {b c : UInt8} {rest : Bytes} (value : Int32) (hb : isSpace b = true)
    (hc : isDigit c = false) :
    Int32At (b :: (intDecimal value.toInt ++ (c :: rest))) value (c :: rest) := by
  refine ⟨[b], intDecimal value.toInt, rfl, ?_, numeral_intDecimal _, stops_cons.mpr hc,
    value.le_toInt, ?_⟩
  · intro d hd
    rwa [List.mem_singleton.mp hd]
  · have := value.toInt_lt
    omega

/-- A header as `ToPpmFile` spells it. -/
theorem headerAt_spelled (width height : Int32) (after : Bytes) :
    HeaderAt ([80, 54] ++ (10 :: (intDecimal width.toInt ++ (32 :: (intDecimal height.toInt ++
      (10 :: ([50, 53, 53] ++ (10 :: after)))))))) width height (10 :: after) := by
  have hmax : intDecimal (255 : Int32).toInt = [50, 53, 53] := by decide
  refine ⟨[80, 54], 255, _, _, _, ⟨[], rfl, nofun, by decide, by simp [isSpace], ?_⟩,
    int32At_intDecimal _ (by decide) (by decide), int32At_intDecimal _ (by decide) (by decide), ?_⟩
  · rw [stops_cons]
    decide
  · rw [← hmax]
    exact int32At_intDecimal 255 (by decide) (by decide)

/-- The header that `ToPpmFile` writes. -/
theorem headerAt_ppmContents (rawImage : RawImage) :
    HeaderAt (ppmContents rawImage) rawImage.width rawImage.height (10 :: rawImage.data) := by
  rw [ppmContents_eq]
  exact headerAt_spelled _ _ _

/-- **A raw image reads back from its file**, whatever its bytes are: the header ends in exactly
one byte of white space. -/
theorem fromPpmFile_ppmContents (fileName : String) {rawImage : RawImage}
    (hformat : rawImage.format = .srgb) (dst : RawImage) :
    fromPpmFile fileName (.value (ppmContents rawImage)) dst = .ok (okStatus, rawImage) := by
  rw [fromPpmFile_of_headerAt (headerAt_ppmContents rawImage)]
  have hself := rawImage.ofBytes_self
  rw [RawImage.descriptor, hformat] at hself
  rw [hself]
  rfl

/-- **What `ToPpmFile` has written, `FromPpmFile` reads**, on every file system that gives back
what it was given. -/
theorem fromPpmFile_toPpmFile {F : Type} (files : FileSystem F) (fs : F) (fileName : String)
    (rawImage dst : RawImage) (hformat : rawImage.format = .srgb)
    (hsaved : (toPpmFile files fs fileName rawImage).1.ok = true) :
    fromPpmFile fileName
        (files.getContents (toPpmFile files fs fileName rawImage).2 fileName) dst =
      .ok (okStatus, rawImage) := by
  rw [show files.getContents (toPpmFile files fs fileName rawImage).2 fileName =
    .value (ppmContents rawImage) from files.get_set _ _ _ hsaved]
  exact fromPpmFile_ppmContents fileName hformat dst

/-! ### Two files -/

/-- Files in memory. -/
def memoryFiles : FileSystem (String → Option Bytes) where
  getContents fs fileName :=
    match fs fileName with
    | none => .ofStatus (invalidArgumentError ("Can't find file: " ++ fileName))
    | some contents => .value contents
  setContents fs fileName contents := (okStatus, Function.update fs fileName (some contents))
  get_set fs fileName contents _ := by simp

/-- One pixel, of a blank and two digits. -/
def blankPixel : RawImage where
  height := 1
  width := 1
  channels := 3
  format := .srgb
  data := [32, 49, 50]
  channels_eq := RawImage.channels_srgb
  size_eq := ⟨3, rfl, rfl⟩

theorem fromPpmFile_toPpmFile_blankPixel :
    (toPpmFile memoryFiles (fun _ => none) "pixel.ppm" blankPixel).1.ok = true ∧
      fromPpmFile "pixel.ppm" (memoryFiles.getContents
        (toPpmFile memoryFiles (fun _ => none) "pixel.ppm" blankPixel).2 "pixel.ppm") .default =
          .ok (okStatus, blankPixel) :=
  ⟨rfl, fromPpmFile_toPpmFile memoryFiles _ "pixel.ppm" blankPixel .default rfl rfl⟩

/-- The file of one pixel, without its last byte. -/
def truncatedFile : Bytes := Wire.ofString "P6\n1 1\n255\nab"

/-- **A truncated file is not turned into a status.** -/
theorem not_validates_truncatedFile :
    ¬ Validates "pixel.ppm" (.value truncatedFile) .default := by
  intro h
  have hspelled : truncatedFile = [80, 54] ++ (10 :: (intDecimal (1 : Int32).toInt ++ (32 ::
      (intDecimal (1 : Int32).toInt ++ (10 :: ([50, 53, 53] ++ (10 :: [97, 98]))))))) := by
    decide
  have hheader : HeaderAt truncatedFile 1 1 [10, 97, 98] := by
    rw [hspelled]
    exact headerAt_spelled 1 1 [97, 98]
  obtain ⟨sep, data, hafter, _, _, hlen, _⟩ := wellFormed_of_validates h 1 1 _ hheader
  cases hafter
  exact absurd hlen (by decide)

end AIStreams
