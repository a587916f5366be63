import AIStreams.Base.ReplayRequest
import AIStreams.Text.GstLaunch
import AIStreams.Text.Printed
import Mathlib.Data.Rat.Floor

/-!
# The pipelines of the ingester

`DecideGstLaunchPipeline` of `aistreams/cc/ingesters.cc`, with the builder of
`aistreams/gstreamer/gst-plugins/cli_builders/aissink_cli_builder.{h,cc}`, and the elements that
the pipeline is meant to have.

* `exists_pipeline`: the pipeline is these elements, written down without quotes.
* `yieldsIntended_iff`: for which values `gst-launch` reads these elements.
* `not_yieldsIntended_blank`: the name of a file with a blank in it.
-/

namespace AIStreams

open GstLaunch (AllKept Element IsPlain Linked Word joined written)

/-! ### Numbers as text -/

/-- The nearest natural number, the even one of two. -/
def roundHalfEven (x : ℚ) : ℕ :=
  let n := ⌊x⌋.toNat
  if x - n < 1 / 2 ∨ (x - n = 1 / 2 ∧ n % 2 = 0) then n else n + 1

/-- `std::to_string(double)`: `%f`, with six decimals. -/
def toStringDouble (val : ℚ) : String :=
  let n := roundHalfEven (|val| * 1000000)
  (if val < 0 then "-" else "") ++ toString (n / 1000000) ++ "." ++
    String.ofList ((toString (n % 1000000)).toList.leftpad 6 '0')

def toStringBool (b : Bool) : String := if b then "true" else "false"

/-! ### `AissinkCliBuilder` -/

/-- `SetPluginParam`, of both files. -/
def setPluginParam (parameterName value : String) : String :=
  parameterName ++ "=" ++ if value = "" then "\"\"" else value

structure AissinkCliBuilder where
  targetAddress : String := ""
  authenticateWithGoogle : Bool := false
  streamName : String := ""
  useInsecureChannel : Bool := false
  sslDomainName : String := ""
  sslRootCertPath : String := ""
  traceProbability : ℚ := 0

namespace AissinkCliBuilder

def setSslOptions (b : AissinkCliBuilder) (options : SslOptions) : AissinkCliBuilder :=
  let b := { b with useInsecureChannel := options.useInsecureChannel }
  if b.useInsecureChannel = false then
    { b with
      sslDomainName := options.sslDomainName
      sslRootCertPath := options.sslRootCertPath }
  else b

def validateSettings (b : AissinkCliBuilder) : Status :=
  if b.targetAddress = "" then invalidArgumentError "Given an empty target address"
  else if b.streamName = "" then invalidArgumentError "Given an empty stream name"
  else if b.useInsecureChannel = false ∧ b.sslDomainName = "" then
    invalidArgumentError "Given an empty ssl domain name"
  else if b.useInsecureChannel = false ∧ b.sslRootCertPath = "" then
    invalidArgumentError "Given an empty path to the ssl root cert"
  else if b.traceProbability < 0 ∨ 1 < b.traceProbability then
    invalidArgumentError "Given an invalid trace probability."
  else okStatus

/-- The properties of `aissink`, in order. -/
def properties (b : AissinkCliBuilder) : List (String × String) :=
  [("target-address", b.targetAddress),
    ("authenticate-with-google", toStringBool b.authenticateWithGoogle),
    ("stream-name", b.streamName),
    ("use-insecure-channel", toStringBool b.useInsecureChannel),
    ("ssl-domain-name", b.sslDomainName),
    ("ssl-root-cert-path", b.sslRootCertPath),
    ("trace-probability", toStringDouble b.traceProbability)]

def finalize (b : AissinkCliBuilder) : StatusOr String :=
  if b.validateSettings.ok = false then .ofStatus b.validateSettings
  else
    .value (" ".intercalate
      ("aissink" :: b.properties.map fun (name, value) => setPluginParam name value))

end AissinkCliBuilder

/-! ### The functions -/

inductive IngesterOptions.SendCodec
  | kNative
  | kH264
  | kJpeg
  | kRawRgb
  deriving DecidableEq

structure IngesterOptions where
  connectionOptions : ConnectionOptions := {}
  targetStreamName : String := ""
  sendCodec : IngesterOptions.SendCodec := .kNative
  resizeHeight : Int32 := 0
  resizeWidth : Int32 := 0
  traceProbability : ℚ := 0

namespace Ingesters

/-- `^.*://`; a `.` is no end of a line. -/
def hasProtocolPrefix (sourceUri : String) : Bool :=
  decide ("://".toList <:+: sourceUri.toList.takeWhile fun c => c ≠ '\n' ∧ c ≠ '\r')

inductive InputSrcType
  | kFileSrc
  | kRtspSrc
  | kGeneralSrc

def getInputSrcType (sourceUri : String) : InputSrcType :=
  if hasProtocolPrefix sourceUri = false then .kFileSrc
  else if "rtsp://".toList <+: sourceUri.toList then .kRtspSrc
  else .kGeneralSrc

def decideInputPlugin (sourceUri : String) : String :=
  match getInputSrcType sourceUri with
  | .kFileSrc => "filesrc " ++ setPluginParam "location" sourceUri
  | .kRtspSrc => "rtspsrc " ++ setPluginParam "location" sourceUri
  | .kGeneralSrc => "urisourcebin " ++ setPluginParam "uri" sourceUri

def decideParserPlugin (sourceUri : String) : String :=
  match getInputSrcType sourceUri with
  | .kRtspSrc => "rtph264depay ! h264parse"
  | _ => "parsebin"

section Options

variable (options : IngesterOptions)

def isTranscodeRequired : Bool :=
  options.sendCodec ≠ .kNative || (0 < options.resizeHeight || 0 < options.resizeWidth)

/-- The empty string if no resizing is called for. -/
def decideResizePlugin : String :=
  if 0 < options.resizeWidth ∨ 0 < options.resizeHeight then
    "videoscale ! video/x-raw" ++
      (if 0 < options.resizeWidth then ",width=" ++ toString options.resizeWidth.toInt else "") ++
      if 0 < options.resizeHeight then ",height=" ++ toString options.resizeHeight.toInt else ""
  else ""

/-- The empty string if no transcoding is necessary. -/
def decideEncoderPlugins : String :=
  if isTranscodeRequired options = false then ""
  else
    let sendCodec := if options.sendCodec = .kNative then .kH264 else options.sendCodec
    match sendCodec with
    | IngesterOptions.SendCodec.kJpeg => "jpegenc"
    | .kRawRgb => "videoconvert ! video/x-raw,format=RGB"
    | _ => "h264enc"

def aissinkCliBuilder : AissinkCliBuilder :=
  let b : AissinkCliBuilder :=
    { targetAddress := options.connectionOptions.targetAddress
      authenticateWithGoogle := options.connectionOptions.authenticateWithGoogle
      streamName := options.targetStreamName }
  { b.setSslOptions options.connectionOptions.sslOptions with
    traceProbability := options.traceProbability }

def decideGstLaunchPipeline (sourceUri : String) : StatusOr String :=
  let gstPipeline := [decideInputPlugin sourceUri, decideParserPlugin sourceUri]
  let gstPipeline :=
    if isTranscodeRequired options then
      gstPipeline ++ ["decodebin"] ++
        (if decideResizePlugin options = "" then [] else [decideResizePlugin options]) ++
        if decideEncoderPlugins options = "" then [] else [decideEncoderPlugins options]
    else gstPipeline
  match (aissinkCliBuilder options).finalize with
  | .error _ _ => .ofStatus (invalidArgumentError "Could not get a valid configuration for aissink")
  | .value aissink => .value (" ! ".intercalate (gstPipeline ++ [aissink]))

/-! ### The elements that are meant -/

/-- An element, with the values of its properties. -/
def element (name : String) (properties : List (String × String)) : Element :=
  .plain name.toList (properties.map fun p => (p.1.toList, p.2.toList))

def sourceElement (sourceUri : String) : Element :=
  match getInputSrcType sourceUri with
  | .kFileSrc => element "filesrc" [("location", sourceUri)]
  | .kRtspSrc => element "rtspsrc" [("location", sourceUri)]
  | .kGeneralSrc => element "urisourcebin" [("uri", sourceUri)]

def parserElements (sourceUri : String) : List Element :=
  match getInputSrcType sourceUri with
  | .kRtspSrc => [element "rtph264depay" [], element "h264parse" []]
  | _ => [element "parsebin" []]

/-- The caps that the frames are scaled to. -/
def resizeCaps : String :=
  "video/x-raw" ++
    (if 0 < options.resizeWidth then ",width=" ++ toString options.resizeWidth.toInt else "") ++
    if 0 < options.resizeHeight then ",height=" ++ toString options.resizeHeight.toInt else ""

def resizeElements : List Element :=
  if 0 < options.resizeWidth ∨ 0 < options.resizeHeight then
    [element "videoscale" [], .filter (resizeCaps options).toList]
  else []

def encoderElements : List Element :=
  match options.sendCodec with
  | .kJpeg => [element "jpegenc" []]
  | .kRawRgb => [element "videoconvert" [], .filter "video/x-raw,format=RGB".toList]
  | _ => [element "h264enc" []]

def transcodeElements : List Element :=
  if isTranscodeRequired options then
    element "decodebin" [] :: (resizeElements options ++ encoderElements options)
  else []

/-- One source, the parser, the elements for transcoding, and the sink. -/
def intendedElements (sourceUri : String) : List Element :=
  sourceElement sourceUri :: parserElements sourceUri ++ transcodeElements options ++
    [element "aissink" (aissinkCliBuilder options).properties]

/-- The pipeline is read as the elements that are meant. -/
def YieldsIntended (sourceUri : String) : Prop :=
  ∃ text, decideGstLaunchPipeline options sourceUri = .value text ∧
    GstLaunch.split text.toList = some (intendedElements options sourceUri)

/-- The values that come from outside, in the order in which they are written down.  On an insecure
channel the last two are empty. -/
def givenValues (sourceUri : String) : List String :=
  [sourceUri, options.connectionOptions.targetAddress, options.targetStreamName] ++
    if options.connectionOptions.sslOptions.useInsecureChannel then ["", ""]
    else [options.connectionOptions.sslOptions.sslDomainName,
      options.connectionOptions.sslOptions.sslRootCertPath]

end Options

/-! ### Texts of elements -/

theorem toList_setPluginParam (name value : String) :
    (setPluginParam name value).toList = (Word.property name.toList value.toList).text := by
  by_cases hvalue : value = ""
  · simp [setPluginParam, Word.text, GstLaunch.valueText, hvalue]
  · simp [setPluginParam, Word.text, GstLaunch.valueText, hvalue, String.toList_eq_nil_iff]

theorem written_singleton (e : Element) : written [e] = e.text := List.intercalate_singleton

/-- An element and its properties, with a blank before each. -/
theorem toList_element (name : String) (properties : List (String × String)) :
    (" ".intercalate (name :: properties.map fun p => setPluginParam p.1 p.2)).toList =
      written [element name properties] := by
  rw [String.toList_intercalate, written_singleton, element, Element.text, joined,
    GstLaunch.plainWords]
  simp [Word.text, toList_setPluginParam, Function.comp_def]

theorem toList_decideInputPlugin (sourceUri : String) :
    (decideInputPlugin sourceUri).toList = written [sourceElement sourceUri] := by
  unfold decideInputPlugin sourceElement
  cases getInputSrcType sourceUri with
  | kFileSrc =>
    rw [← toList_element]
    rfl
  | kRtspSrc =>
    rw [← toList_element]
    rfl
  | kGeneralSrc =>
    rw [← toList_element]
    rfl

theorem toList_decideParserPlugin (sourceUri : String) :
    (decideParserPlugin sourceUri).toList = written (parserElements sourceUri) := by
  unfold decideParserPlugin parserElements
  cases getInputSrcType sourceUri with
  | kFileSrc => rfl
  | kRtspSrc => rfl
  | kGeneralSrc => rfl

section Options

variable (options : IngesterOptions)

theorem toList_decideResizePlugin (h : 0 < options.resizeWidth ∨ 0 < options.resizeHeight) :
    decideResizePlugin options ≠ "" ∧
      (decideResizePlugin options).toList = written (resizeElements options) := by
  have hscale : "videoscale ! video/x-raw" = "videoscale ! " ++ "video/x-raw" := by decide
  have htext : decideResizePlugin options = "videoscale ! " ++ resizeCaps options := by
    rw [decideResizePlugin, if_pos h, resizeCaps, hscale, ← String.append_assoc,
      ← String.append_assoc]
  constructor
  · rw [htext]
    intro hempty
    exact absurd (String.append_eq_empty_iff.mp hempty).1 (by decide)
  · have hbegins : "videoscale ! ".toList = "videoscale".toList ++ [' ', '!', ' '] := by decide
    rw [htext, resizeElements, if_pos h, GstLaunch.written_cons _ (List.cons_ne_nil _ _),
      written_singleton, String.toList_append, hbegins, List.append_assoc]
    rfl

theorem toList_decideEncoderPlugins (h : isTranscodeRequired options = true) :
    decideEncoderPlugins options ≠ "" ∧
      (decideEncoderPlugins options).toList = written (encoderElements options) := by
  unfold decideEncoderPlugins encoderElements
  rw [if_neg (by rw [h]; decide)]
  cases options.sendCodec with
  | kNative => exact ⟨by decide, rfl⟩
  | kH264 => exact ⟨by decide, rfl⟩
  | kJpeg => exact ⟨by decide, rfl⟩
  | kRawRgb => exact ⟨by decide, rfl⟩

/-- The parts of a pipeline, with an exclamation mark between them. -/
theorem toList_pipeline {texts : List String} (parts : List (List Element))
    (hne : ∀ es ∈ parts, es ≠ []) (htexts : texts.map String.toList = parts.map written) :
    (" ! ".intercalate texts).toList = written parts.flatten := by
  rw [String.toList_intercalate, htexts, GstLaunch.written_flatten hne]
  rfl

theorem toList_finalize (b : AissinkCliBuilder) (hvalid : b.validateSettings.ok = true) :
    ∃ aissink, b.finalize = .value aissink ∧
      aissink.toList = written [element "aissink" b.properties] := by
  refine ⟨_, ?_, toList_element "aissink" b.properties⟩
  rw [AissinkCliBuilder.finalize, hvalid]
  rfl

/-- The texts of the elements for transcoding. -/
def transcodePlugins : List String :=
  if isTranscodeRequired options then
    ["decodebin"] ++
      (if decideResizePlugin options = "" then [] else [decideResizePlugin options]) ++
      if decideEncoderPlugins options = "" then [] else [decideEncoderPlugins options]
  else []

theorem exists_transcodeParts : ∃ parts : List (List Element), (∀ es ∈ parts, es ≠ []) ∧
    parts.flatten = transcodeElements options ∧
    (transcodePlugins options).map String.toList = parts.map written := by
  unfold transcodePlugins transcodeElements
  cases htranscode : isTranscodeRequired options with
  | false => exact ⟨[], fun es hes => (nomatch hes), rfl, rfl⟩
  | true =>
    obtain ⟨hencoder, hencoderText⟩ := toList_decideEncoderPlugins options htranscode
    have hencoderNe : encoderElements options ≠ [] := by
      unfold encoderElements
      split <;> exact List.cons_ne_nil _ _
    by_cases hresize : 0 < options.resizeWidth ∨ 0 < options.resizeHeight
    · obtain ⟨hresizeNe, hresizeText⟩ := toList_decideResizePlugin options hresize
      refine ⟨[[element "decodebin" []], resizeElements options, encoderElements options], ?_, ?_,
        ?_⟩
      · have hresizeElements : resizeElements options ≠ [] := by
          rw [resizeElements, if_pos hresize]
          exact List.cons_ne_nil _ _
        simp [hencoderNe, hresizeElements]
      · simp
      · simp [hresizeNe, hencoder, hresizeText, hencoderText]
        rfl
    · have hresizeEmpty : decideResizePlugin options = "" := if_neg hresize
      have hresizeElements : resizeElements options = [] := if_neg hresize
      refine ⟨[[element "decodebin" []], encoderElements options], ?_, ?_, ?_⟩
      · simp [hencoderNe]
      · simp [hresizeElements]
      · simp [hresizeEmpty, hencoder, hencoderText]
        rfl

/-- **The pipeline is the elements that are meant**, written down as they are. -/
theorem exists_pipeline (sourceUri : String)
    (hvalid : (aissinkCliBuilder options).validateSettings.ok = true) :
    ∃ text, decideGstLaunchPipeline options sourceUri = .value text ∧
      text.toList = written (intendedElements options sourceUri) := by
  obtain ⟨aissink, hfinalize, haissink⟩ := toList_finalize _ hvalid
  obtain ⟨parts, hparts, hflatten, htexts⟩ := exists_transcodeParts options
  have htext : decideGstLaunchPipeline options sourceUri = .value (" ! ".intercalate
      ([decideInputPlugin sourceUri, decideParserPlugin sourceUri] ++ transcodePlugins options ++
        [aissink])) := by
    unfold decideGstLaunchPipeline transcodePlugins
    rw [hfinalize]
    cases isTranscodeRequired options with
    | false => rfl
    | true => simp
  refine ⟨_, htext, ?_⟩
  rw [toList_pipeline ([[sourceElement sourceUri], parserElements sourceUri] ++ parts ++
    [[element "aissink" (aissinkCliBuilder options).properties]])]
  · simp [intendedElements, hflatten]
  · have hparser : parserElements sourceUri ≠ [] := by
      unfold parserElements
      split <;> exact List.cons_ne_nil _ _
    intro es hes
    simp only [List.mem_append, List.mem_cons, List.not_mem_nil, or_false] at hes
    rcases hes with ((rfl | rfl) | hes) | rfl
    · exact List.cons_ne_nil _ _
    · exact hparser
    · exact hparts es hes
    · exact List.cons_ne_nil _ _
  · simp [toList_decideInputPlugin, toList_decideParserPlugin, htexts, haissink]

end Options

/-! ### Plain values -/

/-- The characters of a number. -/
def isNumberChar (c : Char) : Bool := c.isDigit || c = '-' || c = '.'

theorem isPlainChar_of_isNumberChar {c : Char} (hc : isNumberChar c = true) :
    GstLaunch.isPlainChar c = true :=
  GstLaunch.isPlainChar_of (p := isNumberChar) (by decide) hc

theorem isPlain_of_isNumberChar {v : List Char} (hne : v ≠ [])
    (hv : ∀ c ∈ v, isNumberChar c = true) : IsPlain v := by
  refine ⟨hne, ?_, List.all_eq_true.mpr fun c hc => isPlainChar_of_isNumberChar (hv c hc)⟩
  rintro rfl
  cases hv 'N' List.mem_cons_self

theorem isNumberChar_toString (n : ℕ) : ∀ c ∈ (toString n).toList, isNumberChar c = true := by
  intro c hc
  simp [isNumberChar, Text.isDigit_of_mem_toString hc]

theorem isNumberChar_toString_int (i : ℤ) : ∀ c ∈ (toString i).toList, isNumberChar c = true := by
  intro c hc
  rcases Text.isDigit_or_minus_of_mem hc with hdigit | rfl
  · simp [isNumberChar, hdigit]
  · decide

theorem isPlain_toStringDouble (val : ℚ) : IsPlain (toStringDouble val).toList := by
  have hpoint : '.' ∈ (toStringDouble val).toList := by simp [toStringDouble]
  refine isPlain_of_isNumberChar (List.ne_nil_of_mem hpoint) fun c hc => ?_
  simp only [toStringDouble, String.toList_append, String.toList_ofList, List.mem_append,
    List.leftpad] at hc
  rcases hc with ((hc | hc) | hc) | hc | hc
  · split at hc
    · obtain rfl := List.mem_singleton.mp hc
      decide
    · cases hc
  · exact isNumberChar_toString _ c hc
  · obtain rfl := List.mem_singleton.mp hc
    decide
  · obtain rfl := List.eq_of_mem_replicate hc
    decide
  · exact isNumberChar_toString _ c hc

theorem isPlain_toStringBool (b : Bool) : IsPlain (toStringBool b).toList := by
  cases b <;> decide

/-! ### The chain -/

section Options

variable (options : IngesterOptions)

theorem isCaps_resizeCaps : GstLaunch.IsCaps (resizeCaps options).toList := by
  have hfield : ∀ (P : Prop) [Decidable P] (field : String) (i : Int32),
      field.toList.all GstLaunch.isPlainChar = true →
      ∀ c ∈ (if P then field ++ toString i.toInt else "").toList,
        GstLaunch.isPlainChar c = true := by
    intro P _ field i hplain c hc
    split at hc
    · rw [String.toList_append] at hc
      rcases List.mem_append.mp hc with hc | hc
      · exact List.all_eq_true.mp hplain c hc
      · exact isPlainChar_of_isNumberChar (isNumberChar_toString_int i.toInt c hc)
    · cases hc
  have htype : "video/x-raw".toList = "video".toList ++ '/' :: "x-raw".toList := by decide
  rw [resizeCaps, String.toList_append, String.toList_append, htype, List.append_assoc,
    List.append_assoc, List.cons_append]
  exact GstLaunch.isCaps_of (by decide) (List.forall_mem_append.mpr
    ⟨hfield _ ",width=" _ (by decide), hfield _ ",height=" _ (by decide)⟩)

theorem wellNamed_element {name : String} {properties : List (String × String)}
    (names : List String) (hname : GstLaunch.isName name.toList = true)
    (hnames : properties.map Prod.fst = names)
    (hproperties : names.all (fun n => GstLaunch.isName n.toList) = true) :
    (element name properties).WellNamed := by
  refine ⟨hname, List.forall_mem_map.mpr fun p hp => List.all_eq_true.mp hproperties p.1 ?_⟩
  rw [← hnames]
  exact List.mem_map_of_mem hp

/-- An element without properties. -/
theorem wellNamed_bare {name : String} (hname : GstLaunch.isName name.toList = true) :
    (element name []).WellNamed :=
  wellNamed_element [] hname rfl rfl

theorem wellNamed_sourceElement (sourceUri : String) : (sourceElement sourceUri).WellNamed := by
  unfold sourceElement
  cases getInputSrcType sourceUri with
  | kFileSrc => exact wellNamed_element ["location"] (by decide) rfl (by decide)
  | kRtspSrc => exact wellNamed_element ["location"] (by decide) rfl (by decide)
  | kGeneralSrc => exact wellNamed_element ["uri"] (by decide) rfl (by decide)

theorem wellNamed_parserElements (sourceUri : String) :
    ∀ e ∈ parserElements sourceUri, e.WellNamed := by
  have hparsebin : ∀ e ∈ [element "parsebin" []], Element.WellNamed e :=
    List.forall_mem_singleton.mpr (wellNamed_bare (by decide))
  unfold parserElements
  cases getInputSrcType sourceUri with
  | kFileSrc => exact hparsebin
  | kRtspSrc =>
    exact List.forall_mem_cons.mpr ⟨wellNamed_bare (by decide),
      List.forall_mem_singleton.mpr (wellNamed_bare (by decide))⟩
  | kGeneralSrc => exact hparsebin

theorem wellNamed_transcodeElements : ∀ e ∈ transcodeElements options, e.WellNamed := by
  have hresize : ∀ e ∈ resizeElements options, e.WellNamed := by
    unfold resizeElements
    split
    · exact List.forall_mem_cons.mpr ⟨wellNamed_bare (by decide),
        List.forall_mem_singleton.mpr (isCaps_resizeCaps options)⟩
    · exact fun e he => nomatch he
  have hrgb : GstLaunch.IsCaps "video/x-raw,format=RGB".toList :=
    GstLaunch.isCaps_of (a := "video".toList) (b := "x-raw".toList) (by decide)
      (List.all_eq_true.mp (by decide))
  have hencoder : ∀ e ∈ encoderElements options, e.WellNamed := by
    unfold encoderElements
    cases options.sendCodec with
    | kNative => exact List.forall_mem_singleton.mpr (wellNamed_bare (by decide))
    | kH264 => exact List.forall_mem_singleton.mpr (wellNamed_bare (by decide))
    | kJpeg => exact List.forall_mem_singleton.mpr (wellNamed_bare (by decide))
    | kRawRgb =>
      exact List.forall_mem_cons.mpr ⟨wellNamed_bare (by decide),
        List.forall_mem_singleton.mpr hrgb⟩
  unfold transcodeElements
  split
  · exact List.forall_mem_cons.mpr ⟨wellNamed_bare (by decide),
      List.forall_mem_append.mpr ⟨hresize, hencoder⟩⟩
  · exact fun e he => nomatch he

theorem wellNamed_aissink (b : AissinkCliBuilder) : (element "aissink" b.properties).WellNamed :=
  wellNamed_element ["target-address", "authenticate-with-google", "stream-name",
    "use-insecure-channel", "ssl-domain-name", "ssl-root-cert-path", "trace-probability"]
    (by decide) rfl (by decide)

/-- **The elements that are meant have proper names.** -/
theorem wellNamed_intendedElements (sourceUri : String) :
    ∀ e ∈ intendedElements options sourceUri, e.WellNamed :=
  List.forall_mem_append.mpr ⟨List.forall_mem_append.mpr
    ⟨List.forall_mem_cons.mpr ⟨wellNamed_sourceElement sourceUri,
      wellNamed_parserElements sourceUri⟩, wellNamed_transcodeElements options⟩,
    List.forall_mem_singleton.mpr (wellNamed_aissink _)⟩

/-- **They are a chain.** -/
theorem linked_intendedElements (sourceUri : String) :
    Linked (intendedElements options sourceUri) := by
  have hnext : ∀ {es} (name : String), Linked es → Linked (element name [] :: es) :=
    fun name h => h.next _ _
  have hsource : ∀ {es}, Linked es → Linked (sourceElement sourceUri :: es) := by
    intro es h
    unfold sourceElement
    cases getInputSrcType sourceUri <;> exact h.next _ _
  have hparser : ∀ {es}, Linked es → Linked (parserElements sourceUri ++ es) := by
    intro es h
    unfold parserElements
    cases getInputSrcType sourceUri with
    | kFileSrc => exact hnext _ h
    | kRtspSrc => exact hnext _ (hnext _ h)
    | kGeneralSrc => exact hnext _ h
  have hresize : ∀ {es}, Linked es → Linked (resizeElements options ++ es) := by
    intro es h
    unfold resizeElements
    split
    · exact h.filtered _ _ _
    · exact h
  have hencoder : ∀ {es}, Linked es → Linked (encoderElements options ++ es) := by
    intro es h
    unfold encoderElements
    cases options.sendCodec with
    | kNative => exact hnext _ h
    | kH264 => exact hnext _ h
    | kJpeg => exact hnext _ h
    | kRawRgb => exact h.filtered _ _ _
  have htranscode : ∀ {es}, Linked es → Linked (transcodeElements options ++ es) := by
    intro es h
    unfold transcodeElements
    split
    · rw [List.cons_append, List.append_assoc]
      exact hnext _ (hresize (hencoder h))
    · exact h
  rw [intendedElements, List.cons_append, List.cons_append, List.append_assoc]
  exact hsource (hparser (htranscode (.last _ _)))

/-! ### The values of the pipeline -/

/-- The parser and the elements for transcoding have no properties. -/
theorem values_eq_nil (sourceUri : String) :
    (parserElements sourceUri ++ transcodeElements options).flatMap Element.values = [] := by
  rw [List.flatMap_append]
  have hparser : (parserElements sourceUri).flatMap Element.values = [] := by
    unfold parserElements
    split <;> rfl
  have htranscode : (transcodeElements options).flatMap Element.values = [] := by
    unfold transcodeElements resizeElements encoderElements
    split
    · split <;> split <;> rfl
    · rfl
  rw [hparser, htranscode]
  rfl

theorem values_sourceElement (sourceUri : String) :
    (sourceElement sourceUri).values = [sourceUri.toList] := by
  unfold sourceElement
  cases getInputSrcType sourceUri <;> rfl

/-- The values of the source and the sink, without the plain ones. -/
theorem allKept_sink_iff {uri address name domain cert google insecure trace : List Char}
    (hgoogle : IsPlain google) (hinsecure : IsPlain insecure) (htrace : IsPlain trace) :
    AllKept false [uri, address, google, name, insecure, domain, cert, trace] ↔
      AllKept true [uri, address, name, domain, cert] := by
  have hlast : AllKept false ([uri, address, google, name, insecure, domain, cert] ++ [trace]) ↔
      _ := GstLaunch.allKept_concat_iff htrace
  have hfirst : AllKept true ([uri, address] ++ google :: [name, insecure, domain, cert]) ↔ _ :=
    GstLaunch.allKept_append_cons_iff hgoogle rfl
  have hsecond : AllKept true ([uri, address, name] ++ insecure :: [domain, cert]) ↔ _ :=
    GstLaunch.allKept_append_cons_iff hinsecure rfl
  exact hlast.trans (hfirst.trans hsecond)

/-- **The values of the elements that are meant**: those that are given, and plain ones. -/
theorem allKept_intendedElements_iff (sourceUri : String) :
    AllKept ((intendedElements options sourceUri).getLast?.all Element.isBare)
        ((intendedElements options sourceUri).flatMap Element.values) ↔
      AllKept true ((givenValues options sourceUri).map String.toList) := by
  have hbare : (intendedElements options sourceUri).getLast?.all Element.isBare = false := by
    rw [intendedElements, List.getLast?_concat]
    rfl
  have hvalues : (intendedElements options sourceUri).flatMap Element.values =
      sourceUri.toList :: (aissinkCliBuilder options).properties.map fun p => p.2.toList := by
    rw [intendedElements, List.cons_append, List.cons_append, List.flatMap_cons,
      List.flatMap_append, values_eq_nil, values_sourceElement]
    simp [element, Element.values, Function.comp_def]
  have hgiven : (givenValues options sourceUri).map String.toList =
      [sourceUri.toList, (aissinkCliBuilder options).targetAddress.toList,
        (aissinkCliBuilder options).streamName.toList,
        (aissinkCliBuilder options).sslDomainName.toList,
        (aissinkCliBuilder options).sslRootCertPath.toList] := by
    cases hinsecure : options.connectionOptions.sslOptions.useInsecureChannel <;>
      simp [givenValues, aissinkCliBuilder, AissinkCliBuilder.setSslOptions, hinsecure]
  rw [hbare, hvalues, hgiven]
  exact allKept_sink_iff (isPlain_toStringBool _) (isPlain_toStringBool _)
    (isPlain_toStringDouble _)

theorem split_pipeline_iff {sourceUri : String} {text : List Char}
    (htext : text = written (intendedElements options sourceUri)) :
    GstLaunch.split text = some (intendedElements options sourceUri) ↔
      AllKept true ((givenValues options sourceUri).map String.toList) := by
  rw [htext, GstLaunch.split_written_iff (linked_intendedElements options sourceUri)
    (wellNamed_intendedElements options sourceUri), allKept_intendedElements_iff]

/-- **When the pipeline is read as the elements that are meant**: exactly if the lexer and the
parser of `gst-launch` keep every value that is given. -/
theorem yieldsIntended_iff {options : IngesterOptions} (sourceUri : String)
    (hvalid : (aissinkCliBuilder options).validateSettings.ok = true) :
    YieldsIntended options sourceUri ↔
      AllKept true ((givenValues options sourceUri).map String.toList) := by
  obtain ⟨text, hpipeline, htext⟩ := exists_pipeline options sourceUri hvalid
  rw [← split_pipeline_iff options htext]
  constructor
  · rintro ⟨text', hpipeline', hsplit⟩
    obtain rfl := StatusOr.value.inj (hpipeline.symm.trans hpipeline')
    exact hsplit
  · exact fun hsplit => ⟨text, hpipeline, hsplit⟩

end Options

/-! ### Names of files -/

/-- An insecure channel to a local server. -/
def localOptions : IngesterOptions where
  connectionOptions := { targetAddress := "localhost:50051", sslOptions := ⟨true, "", ""⟩ }
  targetStreamName := "stream"

/-- Apostrophes around a name stay, and a backslash in it does not. -/
theorem yieldsIntended_video : YieldsIntended localOptions "video.mp4" ∧
    YieldsIntended localOptions "'my video.mp4'" ∧
      ¬ YieldsIntended localOptions "my\\ video.mp4" :=
  ⟨(yieldsIntended_iff "video.mp4" (by decide)).mpr (by decide +kernel),
    (yieldsIntended_iff "'my video.mp4'" (by decide)).mpr (by decide +kernel),
    fun h => absurd ((yieldsIntended_iff "my\\ video.mp4" (by decide)).mp h) (by decide +kernel)⟩

/-- **The name of a file with a blank in it is not read as one value.** -/
theorem not_yieldsIntended_blank : ¬ YieldsIntended localOptions "my video.mp4" := by
  rintro ⟨text, hpipeline, hsplit⟩
  obtain ⟨text', hpipeline', htext⟩ := exists_pipeline localOptions "my video.mp4" (by decide)
  obtain rfl := StatusOr.value.inj (hpipeline.symm.trans hpipeline')
  rw [split_pipeline_iff localOptions htext] at hsplit
  exact absurd hsplit (by decide +kernel)

end Ingesters

end AIStreams
