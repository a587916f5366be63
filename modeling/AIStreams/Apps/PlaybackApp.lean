import AIStreams.Cc.Ingesters
import AIStreams.Cli.Commands

/-!
# The playback app

The pipeline of `aistreams/python/apps/playback_app.cc`, with the builder of
`aistreams/gstreamer/gst-plugins/cli_builders/aissrc_cli_builder.{h,cc}`, from the options of
`aisctl playback` to the elements that `gst-launch` reads.

* `parse_argv`: the flags of the app.
* `split_command_iff`: which of them are read as the elements that are meant.
* `plays_iff`: which options of the command are.
-/

namespace AIStreams

open GstLaunch (AllKept Element IsPlain Linked written)
open Ingesters (element)

/-! ### `AissrcCliBuilder` -/

structure AissrcCliBuilder where
  targetAddress : String
  authenticateWithGoogle : Bool
  streamName : String
  useInsecureChannel : Bool
  timeoutInSec : ℤ
  sslDomainName : String := ""
  sslRootCertPath : String := ""

namespace AissrcCliBuilder

def setSslOptions (b : AissrcCliBuilder) (options : SslOptions) : AissrcCliBuilder :=
  let b := { b with useInsecureChannel := options.useInsecureChannel }
  if b.useInsecureChannel = false then
    { b with
      sslDomainName := options.sslDomainName
      sslRootCertPath := options.sslRootCertPath }
  else b

def validateSettings (b : AissrcCliBuilder) : Status :=
  if b.targetAddress = "" then invalidArgumentError "Given an empty target address"
  else if b.streamName = "" then invalidArgumentError "Given an empty stream name"
  else if b.useInsecureChannel = false then
    if b.sslDomainName = "" then invalidArgumentError "Given an empty ssl domain name"
    else if b.sslRootCertPath = "" then
      invalidArgumentError "Given an empty path to the ssl root cert"
    else okStatus
  else okStatus

/-- The properties of `aissrc`, in order. -/
def properties (b : AissrcCliBuilder) : List (String × String) :=
  [("target-address", b.targetAddress),
    ("authenticate-with-google", toStringBool b.authenticateWithGoogle),
    ("stream-name", b.streamName),
    ("use-insecure-channel", toStringBool b.useInsecureChannel),
    ("ssl-domain-name", b.sslDomainName),
    ("ssl-root-cert-path", b.sslRootCertPath),
    ("timeout-in-sec", toString b.timeoutInSec)]

def finalize (b : AissrcCliBuilder) : StatusOr String :=
  if b.validateSettings.ok = false then .ofStatus b.validateSettings
  else
    .value (" ".intercalate
      ("aissrc" :: b.properties.map fun (name, value) => setPluginParam name value))

end AissrcCliBuilder

namespace PlaybackApp

open Cli (PlaybackOptions parseFlag parseBool parseInt)

/-! ### The app -/

structure Flags where
  targetAddress : String := "localhost:50052"
  authenticateWithGoogle : Bool := false
  streamName : String := ""
  useInsecureChannel : Bool := true
  sslDomainName : String := "aistreams.googleapis.com"
  sslRootCertPath : String := ""
  timeoutInSec : ℤ := 5
  playbackDurationInSec : ℤ := -1
  outputMp4 : String := ""

/-- `absl::ParseCommandLine`: a flag that is not known, or cannot be parsed, ends the program. -/
def parseCommandLine (argv : List (List Char)) : Option Flags := do
  guard (argv.tail.all fun arg =>
    (Cli.abslFlags Cli.kPlaybackAppName).any fun name => (Cli.valueIn name arg).isSome)
  let targetAddress ← parseFlag some "target_address" "localhost:50052" argv
  let authenticateWithGoogle ← parseFlag parseBool "authenticate_with_google" false argv
  let streamName ← parseFlag some "stream_name" "" argv
  let useInsecureChannel ← parseFlag parseBool "use_insecure_channel" true argv
  let sslDomainName ← parseFlag some "ssl_domain_name" "aistreams.googleapis.com" argv
  let sslRootCertPath ← parseFlag some "ssl_root_cert_path" "" argv
  let timeoutInSec ← parseFlag parseInt "timeout_in_sec" 5 argv
  let playbackDurationInSec ← parseFlag parseInt "playback_duration_in_sec" (-1) argv
  let outputMp4 ← parseFlag some "output_mp4" "" argv
  some
    { targetAddress := targetAddress
      authenticateWithGoogle := authenticateWithGoogle
      streamName := streamName
      useInsecureChannel := useInsecureChannel
      sslDomainName := sslDomainName
      sslRootCertPath := sslRootCertPath
      timeoutInSec := timeoutInSec
      playbackDurationInSec := playbackDurationInSec
      outputMp4 := outputMp4 }

section App

variable (flags : Flags)

def aissrcCliBuilder : AissrcCliBuilder :=
  let b : AissrcCliBuilder :=
    { targetAddress := flags.targetAddress
      authenticateWithGoogle := flags.authenticateWithGoogle
      streamName := flags.streamName
      useInsecureChannel := false
      timeoutInSec := flags.timeoutInSec }
  b.setSslOptions
    { useInsecureChannel := flags.useInsecureChannel
      sslDomainName := flags.sslDomainName
      sslRootCertPath := flags.sslRootCertPath }

/-- The `gstlaunch_command` of `RunPlayback`. -/
def gstlaunchCommand : StatusOr String :=
  match (aissrcCliBuilder flags).finalize with
  | .error _ _ => .ofStatus (invalidArgumentError "Could not get a valid configuration for aissrc")
  | .value aissrc =>
    let gstPipeline := [aissrc, "decodebin", "videoconvert"]
    let gstPipeline :=
      if flags.outputMp4 ≠ "" then
        gstPipeline ++ ["x264enc", "mp4mux", "filesink location=" ++ flags.outputMp4]
      else gstPipeline ++ ["autovideosink"]
    .value (" ! ".intercalate gstPipeline)

/-- `RunPlayback`, with what `GstLaunchPipeline` does. -/
def runPlayback (gstLaunchPipeline : String → ℤ → Status) : Status :=
  match gstlaunchCommand flags with
  | .error status _ => status
  | .value command =>
    if (gstLaunchPipeline command flags.playbackDurationInSec).ok = false then
      unknownError "Gstreamer launch did not complete successfully"
    else okStatus

/-! ### The elements that are meant -/

def outputElements : List Element :=
  if flags.outputMp4 ≠ "" then
    [element "x264enc" [], element "mp4mux" [],
      element "filesink" [("location", flags.outputMp4)]]
  else [element "autovideosink" []]

/-- The source, the decoder, and the file or the window. -/
def intendedElements : List Element :=
  [element "aissrc" (aissrcCliBuilder flags).properties, element "decodebin" [],
    element "videoconvert" []] ++ outputElements flags

/-- The values that come from outside, in the order in which they are written down.  On an insecure
channel the two of the channel are empty. -/
def givenValues : List String :=
  [flags.targetAddress, flags.streamName] ++
    (if flags.useInsecureChannel then ["", ""] else [flags.sslDomainName, flags.sslRootCertPath]) ++
    if flags.outputMp4 = "" then [] else [flags.outputMp4]

/-- `gst-launch` keeps these values; a window is behind the last of them, and nothing behind a
file. -/
def KeepsGiven : Prop :=
  AllKept (flags.outputMp4 = "") ((givenValues flags).map String.toList)

instance : Decidable (KeepsGiven flags) :=
  inferInstanceAs (Decidable (AllKept _ ((givenValues flags).map String.toList)))

/-! ### The command for `gst-launch` -/

theorem toList_finalize (b : AissrcCliBuilder) (hvalid : b.validateSettings.ok = true) :
    ∃ aissrc, b.finalize = .value aissrc ∧
      aissrc.toList = written [element "aissrc" b.properties] := by
  refine ⟨_, ?_, Ingesters.toList_element "aissrc" b.properties⟩
  rw [AissrcCliBuilder.finalize, hvalid]
  rfl

/-- The texts behind the source. -/
def outputPlugins : List String :=
  if flags.outputMp4 ≠ "" then ["x264enc", "mp4mux", "filesink location=" ++ flags.outputMp4]
  else ["autovideosink"]

theorem toList_outputPlugins : (outputPlugins flags).map String.toList =
    (outputElements flags).map fun e => written [e] := by
  unfold outputPlugins outputElements
  by_cases hmp4 : flags.outputMp4 ≠ ""
  · have hfilesink := Ingesters.toList_element "filesink" [("location", flags.outputMp4)]
    have htext : "filesink location=" ++ flags.outputMp4 =
        " ".intercalate ["filesink", setPluginParam "location" flags.outputMp4] := by
      rw [setPluginParam, if_neg hmp4]
      apply String.toList_inj.mp
      simp [String.toList_append]
    rw [if_pos hmp4, if_pos hmp4]
    simp only [List.map_cons, List.map_nil, htext]
    rw [show (" ".intercalate ["filesink", setPluginParam "location" flags.outputMp4]).toList = _
      from hfilesink]
    rfl
  · rw [if_neg hmp4, if_neg hmp4]
    rfl

/-- The command is the elements that are meant, written down as they are. -/
theorem exists_command (hvalid : (aissrcCliBuilder flags).validateSettings.ok = true) :
    ∃ command, gstlaunchCommand flags = .value command ∧
      command.toList = written (intendedElements flags) := by
  obtain ⟨aissrc, hfinalize, haissrc⟩ := toList_finalize _ hvalid
  have hcommand : gstlaunchCommand flags = .value
      (" ! ".intercalate ([aissrc, "decodebin", "videoconvert"] ++ outputPlugins flags)) := by
    rw [gstlaunchCommand, hfinalize]
    by_cases hmp4 : flags.outputMp4 ≠ "" <;> simp [outputPlugins, hmp4]
  refine ⟨_, hcommand, ?_⟩
  rw [Ingesters.toList_pipeline ((intendedElements flags).map fun e => [e])]
  · rw [← List.flatMap_def, List.flatMap_singleton']
  · intro es hes
    obtain ⟨e, _, rfl⟩ := List.mem_map.mp hes
    exact List.cons_ne_nil _ _
  · rw [intendedElements, List.map_append, toList_outputPlugins, List.map_append, List.map_append]
    simp only [List.map_cons, List.map_nil, haissrc, List.map_map]
    rfl

theorem valid_of_command {command : String} (h : gstlaunchCommand flags = .value command) :
    (aissrcCliBuilder flags).validateSettings.ok = true := by
  by_contra hvalid
  have hfinalize : (aissrcCliBuilder flags).finalize =
      .ofStatus (aissrcCliBuilder flags).validateSettings := if_pos (Bool.eq_false_iff.mpr hvalid)
  cases hresult : (aissrcCliBuilder flags).finalize with
  | error status hstatus =>
    rw [gstlaunchCommand, hresult] at h
    exact StatusOr.ofStatus_ne_value _ _ h
  | value aissrc => exact StatusOr.ofStatus_ne_value _ _ (hfinalize.symm.trans hresult)

theorem wellNamed_intendedElements : ∀ e ∈ intendedElements flags, e.WellNamed := by
  have hbare : ∀ name ∈ ["decodebin", "videoconvert", "x264enc", "mp4mux", "autovideosink"],
      (element name []).WellNamed := by
    intro name hname
    simp only [List.mem_cons, List.not_mem_nil, or_false] at hname
    rcases hname with rfl | rfl | rfl | rfl | rfl <;> exact Ingesters.wellNamed_bare (by decide)
  have hsource : (element "aissrc" (aissrcCliBuilder flags).properties).WellNamed :=
    Ingesters.wellNamed_element ["target-address", "authenticate-with-google", "stream-name",
      "use-insecure-channel", "ssl-domain-name", "ssl-root-cert-path", "timeout-in-sec"]
      (by decide) rfl (by decide)
  have hfilesink : (element "filesink" [("location", flags.outputMp4)]).WellNamed :=
    Ingesters.wellNamed_element ["location"] (by decide) rfl (by decide)
  unfold intendedElements outputElements
  split <;>
    simp only [List.cons_append, List.nil_append, List.forall_mem_cons] <;>
    simp [hbare, hsource, hfilesink]

theorem linked_intendedElements : Linked (intendedElements flags) := by
  have houtput : Linked (outputElements flags) := by
    unfold outputElements
    split
    · exact ((Linked.last _ _).next _ _).next _ _
    · exact .last _ _
  exact ((houtput.next _ _).next _ _).next _ _

/-- The values of the source and of what is behind it, without the plain ones. -/
theorem allKept_source_iff {followed : Bool} {address name domain cert : List Char}
    {google insecure timeout : List Char} {vs : List (List Char)} (hgoogle : IsPlain google)
    (hinsecure : IsPlain insecure) (htimeout : IsPlain timeout)
    (hvs : (followed || !vs.isEmpty) = true) :
    AllKept followed ([address, google, name, insecure, domain, cert, timeout] ++ vs) ↔
      AllKept followed ([address, name, domain, cert] ++ vs) := by
  have hlast : AllKept followed ([address, google, name, insecure, domain, cert] ++ timeout :: vs) ↔
      _ := GstLaunch.allKept_append_cons_iff htimeout hvs
  have hsecond : AllKept followed ([address, google, name] ++ insecure :: ([domain, cert] ++ vs)) ↔
      _ := GstLaunch.allKept_append_cons_iff hinsecure (by simp)
  have hfirst : AllKept followed ([address] ++ google :: ([name, domain, cert] ++ vs)) ↔ _ :=
    GstLaunch.allKept_append_cons_iff hgoogle (by simp)
  exact hlast.trans (hsecond.trans hfirst)

/-- **The values of the elements that are meant**: those that are given, and plain ones. -/
theorem allKept_intendedElements_iff :
    AllKept ((intendedElements flags).getLast?.all Element.isBare)
      ((intendedElements flags).flatMap Element.values) ↔ KeepsGiven flags := by
  have htimeout : IsPlain (toString (aissrcCliBuilder flags).timeoutInSec).toList :=
    Ingesters.isPlain_of_isNumberChar (fun h => Text.toString_ne_empty _
      (String.toList_eq_nil_iff.mp h)) (Ingesters.isNumberChar_toString_int _)
  have hgiven : [flags.targetAddress, flags.streamName] ++
      (if flags.useInsecureChannel then ["", ""]
        else [flags.sslDomainName, flags.sslRootCertPath]) =
        [(aissrcCliBuilder flags).targetAddress, (aissrcCliBuilder flags).streamName,
          (aissrcCliBuilder flags).sslDomainName, (aissrcCliBuilder flags).sslRootCertPath] := by
    cases hinsecure : flags.useInsecureChannel <;>
      simp [aissrcCliBuilder, AissrcCliBuilder.setSslOptions, hinsecure]
  have hgoogle := Ingesters.isPlain_toStringBool (aissrcCliBuilder flags).authenticateWithGoogle
  have hinsecure := Ingesters.isPlain_toStringBool (aissrcCliBuilder flags).useInsecureChannel
  rw [KeepsGiven, givenValues, hgiven]
  by_cases hmp4 : flags.outputMp4 = ""
  · have houtput : outputElements flags = [element "autovideosink" []] := if_neg (not_not.mpr hmp4)
    have hwindow : (true || !([] : List (List Char)).isEmpty) = true := rfl
    rw [intendedElements, houtput, if_pos hmp4, decide_eq_true hmp4]
    exact allKept_source_iff hgoogle hinsecure htimeout hwindow
  · have houtput : outputElements flags = [element "x264enc" [], element "mp4mux" [],
        element "filesink" [("location", flags.outputMp4)]] := if_pos hmp4
    have hfile : (false || !([flags.outputMp4.toList].isEmpty)) = true := rfl
    rw [intendedElements, houtput, if_neg hmp4, decide_eq_false hmp4]
    exact allKept_source_iff hgoogle hinsecure htimeout hfile

/-- **Which flags are read as the elements that are meant**. -/
theorem split_command_iff {text : List Char} (htext : text = written (intendedElements flags)) :
    GstLaunch.split text = some (intendedElements flags) ↔ KeepsGiven flags := by
  rw [htext, GstLaunch.split_written_iff (linked_intendedElements flags)
    (wellNamed_intendedElements flags), allKept_intendedElements_iff]

end App

/-! ### From the command line -/

/-- What is played: the elements that `gst-launch` reads, and for how long. -/
def played (argv : List (List Char)) : Option (List Element × ℤ) :=
  (parseCommandLine argv).bind fun flags =>
    match gstlaunchCommand flags with
    | .error _ _ => none
    | .value command => (GstLaunch.split command.toList).map (·, flags.playbackDurationInSec)

def flagsOf (o : PlaybackOptions) : Flags where
  targetAddress := o.targetAddress
  authenticateWithGoogle := o.authenticateWithGoogle
  streamName := o.streamName
  useInsecureChannel := o.useInsecureChannel
  sslDomainName := o.sslDomainName
  sslRootCertPath := o.sslRootCertPath.getD ""
  timeoutInSec := o.receiverTimeout
  playbackDurationInSec := o.playbackDuration
  outputMp4 := o.outputMp4

def isInt (i : ℤ) : Bool := -2147483648 ≤ i ∧ i ≤ 2147483647

/-- What a command means to be played; there is nothing for numbers that are no `int`s, or for
settings that are not valid. -/
def meant (o : PlaybackOptions) : Option (List Element × ℤ) :=
  if isInt o.receiverTimeout ∧ isInt o.playbackDuration ∧
      (aissrcCliBuilder (flagsOf o)).validateSettings.ok = true then
    some (intendedElements (flagsOf o), o.playbackDuration)
  else none

theorem parse_argv (dir : String) (o : PlaybackOptions) :
    parseCommandLine ((Cli.playback o).argv dir) =
      if isInt o.receiverTimeout ∧ isInt o.playbackDuration then some (flagsOf o) else none := by
  have hknown := Cli.known_argv dir (.playback o)
  have hflag := fun {α : Type} (parse : String → Option α) {name : String}
    (hname : '=' ∉ name.toList) (default : α) =>
      Cli.parseFlag_argv parse hname default dir (.playback o)
  have hint : ∀ i : ℤ, parseInt i.repr = if isInt i then some i else none := by
    intro i
    rw [← Int.toString_eq_repr, Cli.parseInt_repr, Option.filter_some]
    rfl
  rw [show (Cli.Command.playback o).invocation = Cli.playback o from rfl] at hflag hknown
  rw [show (Cli.playback o).app = Cli.kPlaybackAppName from rfl] at hknown
  unfold parseCommandLine
  simp only [hknown, guard]
  simp (disch := decide) only [hflag]
  cases htimeout : isInt o.receiverTimeout <;> cases hduration : isInt o.playbackDuration <;>
    simp [Cli.playback, List.lookup_cons, Cli.Inserted.value, Cli.parse_toCppBoolString, hint,
      flagsOf, htimeout, hduration]

/-- **When what is meant is played**: the options of a command survive on the command line, and so
`gst-launch` must keep the values that are given. -/
theorem plays_iff {dir : String} (hdir : ∀ c ∈ dir.toList, Shlex.isPlain c = true)
    (o : PlaybackOptions) (hflags : ∀ f ∈ (Cli.playback o).flags, f.2.Survives) :
    ((Cli.playback o).exec dir).bind played = meant o ↔
      ((meant o).isSome = true → KeepsGiven (flagsOf o)) := by
  have hexec := Cli.exec_of_survives hdir (Cli.wellNamed_invocation (.playback o)) hflags
  rw [show (Cli.playback o).exec dir = some ((Cli.playback o).argv dir) from hexec,
    Option.bind_some, played, parse_argv]
  by_cases hints : isInt o.receiverTimeout ∧ isInt o.playbackDuration
  · rw [if_pos hints, Option.bind_some]
    by_cases hvalid : (aissrcCliBuilder (flagsOf o)).validateSettings.ok = true
    · obtain ⟨command, hcommand, htext⟩ := exists_command (flagsOf o) hvalid
      have hmeant : meant o = some (intendedElements (flagsOf o), o.playbackDuration) :=
        if_pos ⟨hints.1, hints.2, hvalid⟩
      rw [hcommand, hmeant, Option.isSome_some, imp_iff_right (rfl : true = true),
        ← split_command_iff _ htext]
      simp only [Option.map_eq_some_iff, Prod.mk.injEq]
      constructor
      · rintro ⟨elements, hsplit, rfl, -⟩
        exact hsplit
      · exact fun hsplit => ⟨_, hsplit, rfl, rfl⟩
    · have hmeant : meant o = none := if_neg fun h => hvalid h.2.2
      cases hcommand : gstlaunchCommand (flagsOf o) with
      | error status hstatus => simp [hmeant]
      | value command => exact absurd (valid_of_command _ hcommand) hvalid
  · have hmeant : meant o = none := if_neg fun h => hints ⟨h.1, h.2.1⟩
    simp [if_neg hints, hmeant]

/-- A stream is played into a file. -/
def intoFile (name : String) : PlaybackOptions where
  useInsecureChannel := true
  streamName := "stream"
  outputMp4 := name

theorem survives_intoFile {name : String} (hblank : ' ' ∈ name.toList)
    (hname : Shlex.isQuotable false name.toList = true) :
    ∀ f ∈ (Cli.playback (intoFile name)).flags, f.2.Survives := by
  have hdomain := Cli.survives_of_all (s := "aistreams.googleapis.com") (by decide +kernel)
  have haddress := Cli.survives_of_all (s := "localhost:50051") (by decide +kernel)
  have hstream := Cli.survives_of_all (s := "stream") (by decide +kernel)
  have hmp4 : Cli.Survives name := by
    rw [Cli.Survives, if_pos hblank]
    exact hname
  simp only [intoFile, Cli.playback, List.forall_mem_cons, Cli.Inserted.Survives, hdomain,
    haddress, hstream, hmp4, true_and]
  intro f hf
  cases hf

/-- A file name with a blank in it is quoted for the command line, but not for `gst-launch`, which
wants apostrophes for it. -/
theorem plays_iff_blankFile :
    ((Cli.playback (intoFile "my video.mp4")).exec "usr/lib/apps").bind played ≠
        meant (intoFile "my video.mp4") ∧
      ((Cli.playback (intoFile "'my video.mp4'")).exec "usr/lib/apps").bind played =
        meant (intoFile "'my video.mp4'") := by
  have hdir : ∀ c ∈ "usr/lib/apps".toList, Shlex.isPlain c = true :=
    List.all_eq_true.mp (by decide)
  constructor
  · intro h
    have hsome : (meant (intoFile "my video.mp4")).isSome = true := by decide
    have hkept := (plays_iff hdir _ (survives_intoFile (by decide) (by decide +kernel))).mp h hsome
    exact absurd hkept (by decide +kernel)
  · refine (plays_iff hdir _ (survives_intoFile (by decide) (by decide +kernel))).mpr fun _ => ?_
    decide +kernel

end PlaybackApp

end AIStreams
