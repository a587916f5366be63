import AIStreams.Text.Printed
import AIStreams.Text.Shlex

/-!
# The command line tool

`aisctl`, of `aistreams/python/cli`: the command line that each command writes for one of the apps,
and what `shlex.split` and `os.execlp` make of it.

* `exec_iff`: for which options the app is executed with the flags that are meant.
* `flagValue_argv`: what the app then finds in its flags.
* `wellNamed_invocation`: no command passes a flag twice, or one that its app does not have.
-/

namespace AIStreams.Cli

open Shlex (Segment isPlain isQuotable)

/-! ### `util.py` -/

def toCppBoolString (b : Bool) : String := if b then "true" else "false"

/-- An option that is not given is `None`. -/
def normalizeStringForCommandline : Option String → String
  | none => "\"\""
  | some s => if s = "" then "\"\"" else if ' ' ∈ s.toList then "\"" ++ s ++ "\"" else s

/-! ### Templates -/

/-- What is put into a template; a number that is no integer is given as Python prints it. -/
inductive Inserted
  | string (s : Option String)
  | bool (b : Bool)
  | int (i : ℤ)
  | float (text : String)

namespace Inserted

def text : Inserted → String
  | string s => normalizeStringForCommandline s
  | bool b => toCppBoolString b
  | int i => toString i
  | float text => text

/-- What the flag is meant to be. -/
def value : Inserted → String
  | string s => s.getD ""
  | bool b => toCppBoolString b
  | int i => toString i
  | float text => text

end Inserted

/-- An app, and the flags in the order of the template. -/
structure Invocation where
  app : String
  flags : List (String × Inserted)

/-- The apps are in one directory, which has an absolute path. -/
def appPath (dir app : String) : String := "/" ++ dir ++ "/" ++ app

def flagText (name value : String) : String := "--" ++ name ++ "=" ++ value

namespace Invocation

/-- The command line: the template, with everything put in. -/
def format (dir : String) (inv : Invocation) : String :=
  appPath dir inv.app ++ " " ++ String.join (inv.flags.map fun f => flagText f.1 f.2.text ++ " ")

/-- What the app is executed with. -/
def exec (dir : String) (inv : Invocation) : Option (List (List Char)) :=
  Shlex.split (inv.format dir).toList

/-- What it is meant to be executed with. -/
def argv (dir : String) (inv : Invocation) : List (List Char) :=
  (appPath dir inv.app).toList :: inv.flags.map fun f => (flagText f.1 f.2.value).toList

end Invocation

/-! ### The commands -/

def kIngestionAppName : String := "ingester_app"

structure IngestOptions where
  targetAddress : String := "localhost:50051"
  sslRootCertPath : Option String := none
  sslDomainName : String := "aistreams.googleapis.com"
  authenticateWithGoogle : Bool := false
  useInsecureChannel : Bool := false
  streamName : String
  sourceUri : String
  loop : Bool := false
  traceProbability : String := "0.0"

/-- `cli` of `ingest/commands.py`. -/
def ingest (o : IngestOptions) : Invocation where
  app := kIngestionAppName
  flags :=
    [("target_address", .string o.targetAddress),
      ("authenticate_with_google", .bool o.authenticateWithGoogle),
      ("ssl_root_cert_path", .string o.sslRootCertPath),
      ("ssl_domain_name", .string o.sslDomainName),
      ("stream_name", .string o.streamName),
      ("loop", .bool o.loop),
      ("source_uri", .string o.sourceUri),
      ("trace_probability", .float o.traceProbability),
      ("use_insecure_channel", .bool o.useInsecureChannel)]

def kPrinterAppName : String := "printer_app"

structure PrintOptions where
  targetAddress : String := "localhost:50051"
  authenticateWithGoogle : Bool := false
  sslRootCertPath : Option String := none
  sslDomainName : String := "aistreams.googleapis.com"
  useInsecureChannel : Bool := false
  streamName : String
  receiverTimeout : ℤ := 15

/-- `cli` of `printer/commands.py`. -/
def print (o : PrintOptions) : Invocation where
  app := kPrinterAppName
  flags :=
    [("target_address", .string o.targetAddress),
      ("authenticate_with_google", .bool o.authenticateWithGoogle),
      ("ssl_root_cert_path", .string o.sslRootCertPath),
      ("ssl_domain_name", .string o.sslDomainName),
      ("stream_name", .string o.streamName),
      ("timeout_in_sec", .int o.receiverTimeout),
      ("use_insecure_channel", .bool o.useInsecureChannel)]

def kPlaybackAppName : String := "playback_app"

structure PlaybackOptions where
  targetAddress : String := "localhost:50051"
  authenticateWithGoogle : Bool := false
  sslRootCertPath : Option String := none
  sslDomainName : String := "aistreams.googleapis.com"
  useInsecureChannel : Bool := false
  streamName : String
  receiverTimeout : ℤ := 15
  playbackDuration : ℤ := -1
  outputMp4 : String := ""

/-- `cli` of `playback/commands.py`. -/
def playback (o : PlaybackOptions) : Invocation where
  app := kPlaybackAppName
  flags :=
    [("target_address", .string o.targetAddress),
      ("authenticate_with_google", .bool o.authenticateWithGoogle),
      ("ssl_root_cert_path", .string o.sslRootCertPath),
      ("ssl_domain_name", .string o.sslDomainName),
      ("stream_name", .string o.streamName),
      ("playback_duration_in_sec", .int o.playbackDuration),
      ("output_mp4", .string o.outputMp4),
      ("timeout_in_sec", .int o.receiverTimeout),
      ("use_insecure_channel", .bool o.useInsecureChannel)]

namespace Chunk

def kChunkerAppName : String := "chunker_app"

/-- What `stream` adds to the arguments. -/
structure StreamArgs where
  targetAddress : String
  sslRootCertPath : Option String := none
  sslDomainName : String := "aistreams.googleapis.com"
  authenticateWithGoogle : Bool := false
  useInsecureChannel : Bool := false
  streamName : String
  receiverTimeoutInSec : ℤ := 15

/-- The arguments, and which of the commands has added to them. -/
inductive Source
  | stream (args : StreamArgs)
  | uri (sourceUri : String)
  | gstreamer (inputPipeline : String)

structure Args where
  maxFramesPerFile : ℤ := 200
  outputDir : String := ""
  outputFilePrefix : String := ""
  gcsBucketName : String := ""
  gcsBucketSubdirName : String := ""
  uploadKeepLocal : Bool := false
  workingBufferSize : ℤ := 100
  finalizationDeadlineInSec : ℤ := 5
  source : Source

/-- The flags that depend on which arguments there are. -/
def Source.flags : Source → List (String × Inserted)
  | uri sourceUri => [("source_uri", .string sourceUri)]
  | gstreamer inputPipeline =>
    [("use_gstreamer_input_source", .bool true),
      ("gstreamer_input_pipeline", .string inputPipeline)]
  | stream args =>
    [("receiver_timeout_in_sec", .int args.receiverTimeoutInSec),
      ("authenticate_with_google", .bool args.authenticateWithGoogle),
      ("use_insecure_channel", .bool args.useInsecureChannel),
      ("target_address", .string args.targetAddress),
      ("ssl_domain_name", .string args.sslDomainName),
      ("ssl_root_cert_path", .string args.sslRootCertPath),
      ("stream_name", .string args.streamName)]

def Source.isUri : Source → Bool
  | uri _ => true
  | _ => false

/-- `_exec_chunker_app`. -/
def execChunkerApp (args : Args) : Invocation where
  app := kChunkerAppName
  flags :=
    [("max_frames_per_file", .int args.maxFramesPerFile),
      ("output_dir", .string args.outputDir),
      ("file_prefix", .string args.outputFilePrefix),
      ("upload_to_gcs", .bool (args.gcsBucketName ≠ "")),
      ("gcs_bucket_name", .string args.gcsBucketName),
      ("gcs_object_dir", .string args.gcsBucketSubdirName),
      ("keep_local", .bool args.uploadKeepLocal),
      ("use_uri_source", .bool args.source.isUri),
      ("working_buffer_size", .int args.workingBufferSize),
      ("finalization_deadline_in_sec", .int args.finalizationDeadlineInSec)] ++ args.source.flags

end Chunk

def kManagementAppName : String := "manager_app"

/-- An argument that a command may have left out. -/
def given (name : String) : Option String → List (String × Inserted)
  | none => []
  | some s => [(name, .string s)]

namespace ManagedCluster

/-- The arguments of all commands of the group. -/
structure Context where
  serviceAddress : String := "aistreams.googleapis.com"
  projectId : String

structure Args extends Context where
  clusterName : Option String := none
  region : Option String := none

/-- `_exec_manager_app` of `managed/cluster/commands.py`. -/
def execManagerApp (opId : ℤ) (args : Args) : Invocation where
  app := kManagementAppName
  flags :=
    [("op_id", .int opId),
      ("target_address", .string args.serviceAddress),
      ("project", .string args.projectId),
      ("use_google_managed_service", .bool true)] ++
        given "cluster_name" args.clusterName ++ given "location" args.region

end ManagedCluster

namespace ManagedStream

structure Context where
  serviceAddress : String := "aistreams.googleapis.com"
  projectId : String
  clusterName : String
  region : String := "us-central1"

structure Args extends Context where
  streamName : Option String := none

/-- `_exec_manager_app` of `managed/stream/commands.py`. -/
def execManagerApp (opId : ℤ) (args : Args) : Invocation where
  app := kManagementAppName
  flags :=
    [("op_id", .int opId),
      ("target_address", .string args.serviceAddress),
      ("project", .string args.projectId),
      ("cluster_name", .string args.clusterName),
      ("location", .string args.region),
      ("use_google_managed_service", .bool true)] ++ given "stream_name" args.streamName

end ManagedStream

namespace OnpremStream

structure Context where
  targetAddress : Option String := none
  sslRootCertPath : Option String := none
  sslDomainName : String := "aistreams.googleapis.com"
  useInsecureChannel : Bool := false

structure Args extends Context where
  streamName : Option String := none
  streamRetentionSeconds : Option ℤ := none

/-- `_exec_manager_app` of `onprem/stream/commands.py`; it does not look for the retention. -/
def execManagerApp (opId : ℤ) (args : Args) : Invocation where
  app := kManagementAppName
  flags :=
    [("op_id", .int opId),
      ("ssl_domain_name", .string args.sslDomainName),
      ("ssl_root_cert_path", .string args.sslRootCertPath),
      ("target_address", .string args.targetAddress),
      ("use_google_managed_service", .bool false),
      ("use_insecure_channel", .bool args.useInsecureChannel)] ++
        given "stream_name" args.streamName

end OnpremStream

/-- The commands that are run by the manager app. -/
inductive Management
  | createCluster (ctx : ManagedCluster.Context) (clusterName : String)
      (region : String := "us-central1")
  | deleteCluster (ctx : ManagedCluster.Context) (clusterName : String)
      (region : String := "us-central1")
  | listClusters (ctx : ManagedCluster.Context)
  | createManagedStream (ctx : ManagedStream.Context) (streamName : String)
  | deleteManagedStream (ctx : ManagedStream.Context) (streamName : String)
  | listManagedStreams (ctx : ManagedStream.Context)
  | createOnpremStream (ctx : OnpremStream.Context) (streamName : String)
      (streamRetentionSeconds : ℤ := 86400)
  | deleteOnpremStream (ctx : OnpremStream.Context) (streamName : String)
  | listOnpremStreams (ctx : OnpremStream.Context)

def Management.invocation : Management → Invocation
  | createCluster ctx clusterName region =>
    ManagedCluster.execManagerApp 3
      { toContext := ctx, clusterName := some clusterName, region := some region }
  | deleteCluster ctx clusterName region =>
    ManagedCluster.execManagerApp 5
      { toContext := ctx, clusterName := some clusterName, region := some region }
  | listClusters ctx => ManagedCluster.execManagerApp 4 { toContext := ctx }
  | createManagedStream ctx streamName =>
    ManagedStream.execManagerApp 0 { toContext := ctx, streamName := some streamName }
  | deleteManagedStream ctx streamName =>
    ManagedStream.execManagerApp 2 { toContext := ctx, streamName := some streamName }
  | listManagedStreams ctx => ManagedStream.execManagerApp 1 { toContext := ctx }
  | createOnpremStream ctx streamName streamRetentionSeconds =>
    OnpremStream.execManagerApp 0
      { toContext := ctx
        streamName := some streamName
        streamRetentionSeconds := some streamRetentionSeconds }
  | deleteOnpremStream ctx streamName =>
    OnpremStream.execManagerApp 2 { toContext := ctx, streamName := some streamName }
  | listOnpremStreams ctx => OnpremStream.execManagerApp 1 { toContext := ctx }

/-- The commands of `aisctl`. -/
inductive Command
  | ingest (o : IngestOptions)
  | print (o : PrintOptions)
  | playback (o : PlaybackOptions)
  | chunk (args : Chunk.Args)
  | manage (command : Management)

def Command.invocation : Command → Invocation
  | ingest o => Cli.ingest o
  | print o => Cli.print o
  | playback o => Cli.playback o
  | chunk args => Chunk.execChunkerApp args
  | manage command => command.invocation

/-! ### The words of a command line -/

/-- How the lexer is to read what was put in. -/
def Inserted.segment : Inserted → Segment
  | .string none => .quoted []
  | .string (some s) =>
    if s = "" then .quoted [] else if ' ' ∈ s.toList then .quoted s.toList else .bare s.toList
  | .bool b => .bare (toCppBoolString b).toList
  | .int i => .bare (toString i).toList
  | .float text => .bare text.toList

theorem text_segment (v : Inserted) : v.text.toList = v.segment.text := by
  cases v with
  | string s =>
    cases s with
    | none => rfl
    | some s =>
      unfold Inserted.text Inserted.segment normalizeStringForCommandline
      simp only
      split_ifs
      · rfl
      · simp [Segment.text, String.toList_append]
      · rfl
  | bool b => rfl
  | int i => rfl
  | float text => rfl

theorem value_segment (v : Inserted) : v.value.toList = v.segment.chars := by
  cases v with
  | string s =>
    cases s with
    | none => rfl
    | some s =>
      unfold Inserted.value Inserted.segment
      simp only
      split_ifs with hempty
      · rw [hempty]
        rfl
      · rfl
      · rfl
  | bool b => rfl
  | int i => rfl
  | float text => rfl

def appWord (dir app : String) : Shlex.Word := ⟨'/', [.bare (dir ++ "/" ++ app).toList]⟩

def flagWord (f : String × Inserted) : Shlex.Word :=
  ⟨'-', [.bare ("-" ++ f.1 ++ "=").toList, f.2.segment]⟩

def Invocation.words (dir : String) (inv : Invocation) : List Shlex.Word :=
  appWord dir inv.app :: inv.flags.map flagWord

theorem flagWord_text (f : String × Inserted) :
    (flagWord f).text = (flagText f.1 f.2.text).toList := by
  simp [flagWord, Shlex.Word.text, flagText, String.toList_append, text_segment, Segment.text]

theorem flagWord_chars (f : String × Inserted) :
    (flagWord f).chars = (flagText f.1 f.2.value).toList := by
  simp [flagWord, Shlex.Word.chars, flagText, String.toList_append, value_segment, Segment.chars]

theorem format_words (dir : String) (inv : Invocation) :
    (inv.format dir).toList = Shlex.written (inv.words dir) := by
  have happ : (appWord dir inv.app).text = (appPath dir inv.app).toList := by
    simp [appWord, Shlex.Word.text, appPath, String.toList_append, Segment.text]
  rw [Invocation.format, String.toList_append, String.toList_append, String.toList_join,
    Shlex.written, Invocation.words, List.flatMap_cons, happ, List.flatMap_map, List.flatMap_map]
  have hflags : (fun f => (flagText f.1 f.2.text ++ " ").toList) =
      fun f => (flagWord f).text ++ [' '] := by
    funext f
    rw [String.toList_append, flagWord_text]
    rfl
  rw [hflags]
  rfl

theorem argv_words (dir : String) (inv : Invocation) :
    inv.argv dir = (inv.words dir).map Shlex.Word.chars := by
  have happ : (appWord dir inv.app).chars = (appPath dir inv.app).toList := by
    simp [appWord, Shlex.Word.chars, appPath, String.toList_append, Segment.chars]
  rw [Invocation.argv, Invocation.words, List.map_cons, happ, List.map_map]
  congr 1
  exact List.map_congr_left fun f _ => (flagWord_chars f).symm

/-! ### The names of flags -/

/-- The name of a flag, or of an app. -/
def isFlagName (name : String) : Bool := name.toList.all fun c => c.isAlphanum || c = '_'

theorem plain_of_isFlagName {name : String} (h : isFlagName name = true) :
    ∀ c ∈ name.toList, isPlain c = true ∧ c ≠ '=' := by
  intro c hc
  have hname := List.all_eq_true.mp h c hc
  have hne : ∀ d : Char, (d.isAlphanum || d = '_') = false → c ≠ d := by
    rintro d hd rfl
    rw [hname] at hd
    cases hd
  refine ⟨Shlex.isPlain_iff.mpr ⟨?_, hne _ rfl, hne _ rfl, hne _ rfl⟩, hne _ rfl⟩
  simp [Shlex.isWhitespace, hne ' ' rfl, hne '\t' rfl, hne '\r' rfl, hne '\n' rfl]

/-- The flags that an app defines, in `aistreams/python/apps`. -/
def abslFlags (app : String) : List String :=
  if app = kIngestionAppName then
    ["target_address", "authenticate_with_google", "stream_name", "source_uri",
      "use_insecure_channel", "ssl_domain_name", "ssl_root_cert_path", "loop",
      "trace_probability"]
  else if app = kPrinterAppName then
    ["target_address", "stream_name", "authenticate_with_google", "use_insecure_channel",
      "ssl_domain_name", "ssl_root_cert_path", "timeout_in_sec"]
  else if app = kPlaybackAppName then
    ["target_address", "authenticate_with_google", "stream_name", "use_insecure_channel",
      "ssl_domain_name", "ssl_root_cert_path", "timeout_in_sec", "playback_duration_in_sec",
      "output_mp4"]
  else if app = Chunk.kChunkerAppName then
    ["max_frames_per_file", "output_dir", "file_prefix", "upload_to_gcs", "keep_local",
      "gcs_bucket_name", "gcs_object_dir", "use_uri_source", "source_uri",
      "use_gstreamer_input_source", "gstreamer_input_pipeline", "target_address",
      "authenticate_with_google", "stream_name", "use_insecure_channel", "ssl_domain_name",
      "ssl_root_cert_path", "receiver_timeout_in_sec", "working_buffer_size",
      "finalization_deadline_in_sec"]
  else if app = kManagementAppName then
    ["target_address", "stream_name", "use_insecure_channel", "ssl_root_cert_path",
      "ssl_domain_name", "op_id", "use_google_managed_service", "project", "location",
      "cluster_name", "stream_retention_seconds"]
  else []

/-- The app and the flags have proper names, the flags are all different, and the app has them. -/
structure Invocation.WellNamed (inv : Invocation) : Prop where
  app : isFlagName inv.app = true
  flags : (inv.flags.map Prod.fst).all isFlagName = true
  nodup : (inv.flags.map Prod.fst).Nodup
  known : (inv.flags.map Prod.fst).all (abslFlags inv.app).contains = true

theorem wellNamed_invocation (c : Command) : c.invocation.WellNamed := by
  have h : isFlagName c.invocation.app = true ∧
      (c.invocation.flags.map Prod.fst).all isFlagName = true ∧
      (c.invocation.flags.map Prod.fst).Nodup ∧
      (c.invocation.flags.map Prod.fst).all (abslFlags c.invocation.app).contains = true := by
    cases c with
    | chunk args =>
      obtain ⟨_, _, _, _, _, _, _, _, source⟩ := args
      cases source <;>
        simp only [Command.invocation, Chunk.execChunkerApp, Chunk.Source.flags, List.map_cons,
          List.map_nil, List.cons_append, List.nil_append] <;> decide
    | manage command =>
      cases command <;>
        simp only [Command.invocation, Management.invocation, ManagedCluster.execManagerApp,
          ManagedStream.execManagerApp, OnpremStream.execManagerApp, given, List.map_cons,
          List.map_nil, List.cons_append, List.nil_append, List.append_nil] <;> decide
    | _ =>
      simp only [Command.invocation, ingest, print, playback, List.map_cons, List.map_nil]
      decide
  exact ⟨h.1, h.2.1, h.2.2.1, h.2.2.2⟩

/-! ### What survives -/

/-- A string that can be quoted, if it has a blank in it, and is plain, if it has none. -/
def Survives (s : String) : Prop :=
  if ' ' ∈ s.toList then isQuotable false s.toList = true else ∀ c ∈ s.toList, isPlain c = true

def Inserted.Survives : Inserted → Prop
  | string none => True
  | string (some s) => Cli.Survives s
  | bool _ => True
  | int _ => True
  | float text => ∀ c ∈ text.toList, isPlain c = true

theorem survives_of_all {s : String} (h : s.toList.all isPlain = true) : Survives s := by
  have hplain := List.all_eq_true.mp h
  rw [Survives, if_neg]
  · exact hplain
  · exact fun hblank => absurd (hplain ' ' hblank) (by decide)

theorem plain_toString (i : ℤ) : ∀ c ∈ (toString i).toList, isPlain c = true := by
  intro c hc
  have hne : ∀ d : Char, d.isDigit = false → d ≠ '-' → c ≠ d := by
    rintro d hd hminus rfl
    rcases Text.isDigit_or_minus_of_mem hc with hdigit | rfl
    · rw [hdigit] at hd
      cases hd
    · exact hminus rfl
  refine Shlex.isPlain_iff.mpr ⟨?_, hne _ rfl (by decide), hne _ rfl (by decide),
    hne _ rfl (by decide)⟩
  simp [Shlex.isWhitespace, hne ' ' rfl (by decide), hne '\t' rfl (by decide),
    hne '\r' rfl (by decide), hne '\n' rfl (by decide)]

theorem plain_segment_iff (v : Inserted) : v.segment.Plain ↔ v.Survives := by
  cases v with
  | string s =>
    cases s with
    | none => exact ⟨fun _ => trivial, fun _ => rfl⟩
    | some s =>
      unfold Inserted.segment Inserted.Survives Survives
      simp only
      split_ifs with hempty hblank hblank
      · rw [hempty] at hblank
        cases hblank
      · rw [hempty]
        exact ⟨fun _ c hc => (nomatch hc), fun _ => rfl⟩
      · rfl
      · rfl
  | bool b =>
    refine ⟨fun _ => trivial, fun _ => ?_⟩
    have htext : isFlagName (toCppBoolString b) = true := by cases b <;> decide
    exact fun c hc => (plain_of_isFlagName htext c hc).1
  | int i => exact ⟨fun _ => trivial, fun _ => plain_toString i⟩
  | float text => exact Iff.rfl

theorem plain_flagWord_iff {f : String × Inserted} (hname : isFlagName f.1 = true) :
    (∀ s ∈ (flagWord f).segments, s.Plain) ↔ f.2.Survives := by
  have hplain : Segment.Plain (.bare ("-" ++ f.1 ++ "=").toList) := by
    intro c hc
    simp only [String.toList_append, List.mem_append] at hc
    rcases hc with (hc | hc) | hc
    · obtain rfl := List.mem_singleton.mp hc
      decide
    · exact (plain_of_isFlagName hname c hc).1
    · obtain rfl := List.mem_singleton.mp hc
      decide
  rw [← plain_segment_iff, flagWord, List.forall_mem_cons, List.forall_mem_singleton,
    and_iff_right hplain]

theorem plain_appWord_iff {dir app : String} (happ : isFlagName app = true) :
    (∀ s ∈ (appWord dir app).segments, s.Plain) ↔ ∀ c ∈ dir.toList, isPlain c = true := by
  have hslash : ∀ c ∈ "/".toList, isPlain c = true := by
    intro c hc
    obtain rfl := List.mem_singleton.mp hc
    decide
  have hplain : ∀ c ∈ app.toList, isPlain c = true := fun c hc => (plain_of_isFlagName happ c hc).1
  rw [appWord, List.forall_mem_singleton, Segment.Plain, String.toList_append,
    String.toList_append, List.forall_mem_append, List.forall_mem_append, and_iff_left hplain,
    and_iff_left hslash]

theorem heads_words (dir : String) (inv : Invocation) :
    ∀ w ∈ inv.words dir, isPlain w.head = true := by
  have hslash : isPlain '/' = true := by decide
  have hminus : isPlain '-' = true := by decide
  refine List.forall_mem_cons.mpr ⟨hslash, ?_⟩
  rw [List.forall_mem_map]
  exact fun f _ => hminus

theorem plain_words_iff (dir : String) {inv : Invocation} (h : inv.WellNamed) :
    (∀ w ∈ inv.words dir, ∀ s ∈ w.segments, s.Plain) ↔
      (∀ c ∈ dir.toList, isPlain c = true) ∧ ∀ f ∈ inv.flags, f.2.Survives := by
  have hflags : (∀ w ∈ inv.flags.map flagWord, ∀ s ∈ w.segments, s.Plain) ↔
      ∀ f ∈ inv.flags, f.2.Survives := by
    rw [List.forall_mem_map]
    refine forall₂_congr fun f hf => plain_flagWord_iff ?_
    exact List.all_eq_true.mp h.flags f.1 (List.mem_map_of_mem hf)
  rw [Invocation.words, List.forall_mem_cons, plain_appWord_iff h.app, hflags]

theorem exec_of_survives {dir : String} (hdir : ∀ c ∈ dir.toList, isPlain c = true)
    {inv : Invocation} (h : inv.WellNamed) (hflags : ∀ f ∈ inv.flags, f.2.Survives) :
    inv.exec dir = some (inv.argv dir) := by
  rw [Invocation.exec, format_words, argv_words]
  exact Shlex.split_written (heads_words dir inv) ((plain_words_iff dir h).mpr ⟨hdir, hflags⟩)

/-- **When an app is executed with the flags that are meant**: exactly if the path of the apps is
plain, and all that is put into the template survives. -/
theorem exec_iff (dir : String) (c : Command) :
    c.invocation.exec dir = some (c.invocation.argv dir) ↔
      (∀ ch ∈ dir.toList, isPlain ch = true) ∧ ∀ f ∈ c.invocation.flags, f.2.Survives := by
  rw [Invocation.exec, format_words, argv_words,
    Shlex.split_written_iff (heads_words dir c.invocation),
    plain_words_iff dir (wellNamed_invocation c)]

/-! ### What the app finds in its flags -/

/-- The value that an argument gives to a flag. -/
def valueIn (name : String) (arg : List Char) : Option (List Char) :=
  if ("--" ++ name ++ "=").toList <+: arg then
    some (arg.drop ("--" ++ name ++ "=").toList.length)
  else none

/-- The text of a flag after `absl::ParseCommandLine`: the last one that is given. -/
def flagValue (name : String) (argv : List (List Char)) : Option (List Char) :=
  (argv.tail.filterMap (valueIn name)).getLast?

theorem valueIn_flagText {name name' : String} (h : '=' ∉ name.toList) (h' : '=' ∉ name'.toList)
    (value : String) : valueIn name (flagText name' value).toList =
      if name' = name then some value.toList else none := by
  have htext : (flagText name' value).toList =
      '-' :: '-' :: name'.toList ++ '=' :: value.toList := by
    simp [flagText, String.toList_append]
  have hprefix : ("--" ++ name ++ "=").toList = '-' :: '-' :: name.toList ++ ['='] := by
    simp [String.toList_append]
  unfold valueIn
  by_cases hname : name' = name
  · subst hname
    rw [if_pos rfl, htext, hprefix, if_pos ⟨value.toList, by simp⟩]
    simp
  · rw [if_neg hname, if_neg]
    rw [htext, hprefix]
    rintro ⟨rest, hrest⟩
    rw [List.append_assoc, List.singleton_append] at hrest
    have hmem : ∀ n : String, '=' ∉ n.toList → '=' ∉ '-' :: '-' :: n.toList := by
      intro n hn
      simpa using hn
    have hsplit := (Text.append_cons_inj_of_not_mem (hmem name h) (hmem name' h') hrest).1
    exact hname (String.toList_inj.mp (List.cons.inj (List.cons.inj hsplit).2).2).symm

theorem filterMap_valueIn {flags : List (String × Inserted)} {name : String}
    (hname : '=' ∉ name.toList) (hflags : ∀ f ∈ flags, '=' ∉ f.1.toList)
    (hnodup : (flags.map Prod.fst).Nodup) :
    (flags.map fun f => (flagText f.1 f.2.value).toList).filterMap (valueIn name) =
      ((flags.lookup name).map fun v => v.value.toList).toList := by
  induction flags with
  | nil => rfl
  | cons f flags ih =>
    obtain ⟨name', v⟩ := f
    have htail :=
      ih (fun f hf => hflags f (List.mem_cons_of_mem _ hf)) (List.nodup_cons.mp hnodup).2
    have hhead := valueIn_flagText hname (hflags _ List.mem_cons_self) v.value
    rw [List.map_cons, List.filterMap_cons, hhead]
    by_cases heq : name' = name
    · subst heq
      have habsent : flags.lookup name' = none := by
        refine List.lookup_eq_none_iff.mpr fun f hf => ?_
        have hne : name' ≠ f.1 := by
          rintro rfl
          exact (List.nodup_cons.mp hnodup).1 (List.mem_map.mpr ⟨f, hf, rfl⟩)
        simpa using hne
      rw [if_pos rfl, htail, habsent, List.lookup_cons_self]
      rfl
    · have hbeq : (name == name') = false := by simpa using fun h : name = name' => heq h.symm
      rw [if_neg heq, htail, List.lookup_cons, hbeq]

/-- **What the app finds in a flag** is the value that the command means it to have, and nothing
else is given. -/
theorem flagValue_argv (dir : String) (c : Command) {name : String} (hname : '=' ∉ name.toList) :
    flagValue name (c.invocation.argv dir) =
      (c.invocation.flags.lookup name).map fun v => v.value.toList := by
  have hnamed := wellNamed_invocation c
  have hflags : ∀ f ∈ c.invocation.flags, '=' ∉ f.1.toList := by
    intro f hf hmem
    have hf' := List.all_eq_true.mp hnamed.flags f.1 (List.mem_map_of_mem hf)
    exact (plain_of_isFlagName hf' '=' hmem).2 rfl
  rw [flagValue, Invocation.argv, List.tail_cons, filterMap_valueIn hname hflags hnamed.nodup]
  cases c.invocation.flags.lookup name <;> rfl

/-- Every argument is of a flag that the app has. -/
theorem known_argv (dir : String) (c : Command) : ((c.invocation.argv dir).tail.all fun arg =>
    (abslFlags c.invocation.app).any fun name => (valueIn name arg).isSome) = true := by
  have hnamed := wellNamed_invocation c
  refine List.all_eq_true.mpr fun arg harg => ?_
  obtain ⟨f, hf, rfl⟩ := List.mem_map.mp harg
  have hname := List.mem_map_of_mem (f := Prod.fst) hf
  have hequals : '=' ∉ f.1.toList := fun hmem =>
    (plain_of_isFlagName (List.all_eq_true.mp hnamed.flags f.1 hname) '=' hmem).2 rfl
  refine List.any_eq_true.mpr ⟨f.1, ?_, ?_⟩
  · simpa using List.all_eq_true.mp hnamed.known f.1 hname
  · rw [valueIn_flagText hequals hequals, if_pos rfl]
    rfl

/-! ### The values of flags -/

/-- The texts of a boolean flag. -/
def parseBool (text : String) : Option Bool :=
  if text ∈ ["true", "t", "yes", "y", "1"] then some true
  else if text ∈ ["false", "f", "no", "n", "0"] then some false
  else none

def parseNat (digits : List Char) : Option ℕ :=
  if digits ≠ [] ∧ digits.all Char.isDigit then some (Nat.ofDigitChars 10 digits 0) else none

/-- The decimal texts of an `int`. -/
def parseInt (text : String) : Option ℤ :=
  let n : Option ℤ :=
    match text.toList with
    | '-' :: digits => (parseNat digits).map fun n : ℕ => -(n : ℤ)
    | digits => (parseNat digits).map fun n : ℕ => (n : ℤ)
  n.filter fun n => -2147483648 ≤ n ∧ n ≤ 2147483647

/-- A flag that is not given keeps its default. -/
def parseFlag {α : Type} (parse : String → Option α) (name : String) (default : α)
    (argv : List (List Char)) : Option α :=
  match flagValue name argv with
  | none => some default
  | some text => parse (String.ofList text)

theorem parseFlag_argv {α : Type} (parse : String → Option α) {name : String}
    (hname : '=' ∉ name.toList) (default : α) (dir : String) (c : Command) :
    parseFlag parse name default (c.invocation.argv dir) =
      match c.invocation.flags.lookup name with
      | none => some default
      | some v => parse v.value := by
  rw [parseFlag, flagValue_argv dir c hname]
  cases c.invocation.flags.lookup name with
  | none => rfl
  | some v => exact congrArg parse (String.ofList_toList)

theorem parse_toCppBoolString (b : Bool) : parseBool (toCppBoolString b) = some b := by
  cases b <;> rfl

theorem parseNat_repr (n : ℕ) : parseNat n.repr.toList = some n := by
  have hdigits : ∀ c ∈ n.repr.toList, c.isDigit = true := fun c hc =>
    Text.isDigit_of_mem_toString (n := n) (by rwa [Nat.toString_eq_repr])
  have hne : n.repr.toList ≠ [] := by
    rw [Nat.toList_repr]
    exact Nat.toDigits_ne_nil
  rw [parseNat, if_pos ⟨hne, List.all_eq_true.mpr hdigits⟩, Nat.toList_repr,
    Nat.ofDigitChars_ten_toDigits]

theorem parseInt_repr (i : ℤ) : parseInt (toString i) =
    (some i).filter fun n : ℤ => -2147483648 ≤ n ∧ n ≤ 2147483647 := by
  rw [Int.toString_eq_repr, Int.repr_eq_if]
  split
  · rename_i hnonneg
    have hminus : ∀ digits, i.toNat.repr.toList ≠ '-' :: digits := by
      intro digits heq
      have hdigit := Text.isDigit_of_mem_toString (n := i.toNat) (c := '-')
        (by rw [Nat.toString_eq_repr, heq]; exact List.mem_cons_self)
      exact absurd hdigit (by decide)
    unfold parseInt
    split
    · rename_i digits heq
      exact absurd heq (hminus digits)
    · rw [parseNat_repr, Option.map_some, Int.toNat_of_nonneg (by omega)]
  · have htext : ("-" ++ (-i).toNat.repr).toList = '-' :: (-i).toNat.repr.toList :=
      String.toList_append
    rw [parseInt, htext]
    simp only [parseNat_repr, Option.map_some]
    rw [Int.toNat_of_nonneg (by omega), Int.neg_neg]

/-- **A number that is printed is parsed again**, if it is an `int`. -/
theorem parseInt_toString {i : ℤ} (h : -2147483648 ≤ i ∧ i ≤ 2147483647) :
    parseInt (toString i) = some i := by
  rw [parseInt_repr, Option.filter_some, if_pos (decide_eq_true h)]

end AIStreams.Cli
