import AIStreams.Gstreamer.Channel
import AIStreams.Gstreamer.TypeUtils

/-!
# `GstreamerRunner`

`aistreams/gstreamer/gstreamer_runner.{h,cc}`, and `GstInit` of
`aistreams/gstreamer/gstreamer_utils.cc`: how a runner is created, and how what was created
is torn down again when a step of the creation fails.  GStreamer is a parameter: every call
made during the initialization may fail.

* `initializeImpl_cases`: `Initialize` sets all three members, or it fails and sets none.
* `destroy_of_set`, `destroy_of_unset`: the teardown in the two cases.
* `createsSafely_iff`: a creation is safe exactly when it does not fail after `GstInit`.
-/

namespace AIStreams

/-- The GStreamer calls of a creation. -/
structure Gst (Element : Type) where
  /-- `gst_init_check`, with the text of its error. -/
  initCheck : Option String
  parseLaunch : String → Option Element
  binGetByName : Element → String → Option Element
  capsFromString : Bytes → Option GstCaps
  /-- Whether the bus has reported an end of stream or an error by the time of `Finalize`. -/
  completed : Bool

/-- `GstInit`. -/
def gstInit {Element : Type} (gst : Gst Element) : Status :=
  match gst.initCheck with
  | some gerror => internalError gerror
  | none => okStatus

def kAppSrcName : String := "feed"
def kAppSinkName : String := "fetch"

/-- `GstreamerRunner::Options`. -/
structure GstreamerRunner.Options where
  processingPipelineString : String
  appsrcCapsString : Bytes
  receiverCallback : Option (GstreamerBuffer → Status)
  appsinkSync : Bool

/-- `ValidateOptions`. -/
def GstreamerRunner.validateOptions (options : Options) : Status :=
  if options.processingPipelineString = "" then
    invalidArgumentError "Given an empty processing pipeline string"
  else okStatus

/-- What GStreamer is asked to do with a pipeline. -/
inductive GstCall (Element : Type)
  | setStatePlaying (pipeline : Element)
  | endOfStream (appsrc : Element)
  | sendEos (pipeline : Element)
  | setStateNull (pipeline : Element)

/-! ### `GstreamerPipeline` -/

/-- `class GstreamerPipeline`, with the properties that were set on its elements. -/
structure GstreamerPipeline (Element : Type) where
  gstPipeline : Option Element
  gstAppsrc : Option Element
  gstAppsink : Option Element
  appsrcCaps : Option GstCaps
  appsinkSync : Option Bool

namespace GstreamerPipeline

variable {Element : Type}

/-- `GstreamerPipeline()`. -/
def default : GstreamerPipeline Element := ⟨none, none, none, none, none⟩

/-- `gst_object_unref`. -/
def unref (p : Option Element) : OrFatal Unit :=
  match p with
  | none => .error ⟨"null dereference"⟩
  | some _ => .ok ()

/-- `Cleanup`. -/
def cleanup (p : GstreamerPipeline Element) : OrFatal Unit := do
  if p.gstPipeline.isSome then unref p.gstPipeline
  if p.gstAppsrc.isSome then unref p.gstAppsrc
  if p.gstAppsink.isSome then unref p.gstAppsink

/-- A return from `Create` with an error: the pipeline made so far is destroyed. -/
def abandon (p : GstreamerPipeline Element) (status : Status) :
    OrFatal (StatusOr (GstreamerPipeline Element)) :=
  match p.cleanup with
  | .error e => .error e
  | .ok _ => .ok (.ofStatus status)

def pipelineString (options : GstreamerRunner.Options) : String :=
  " ! ".intercalate
    ((if options.appsrcCapsString ≠ [] then
        ["appsrc name=" ++ kAppSrcName ++ " is-live=true do-timestamp=true format=3"]
      else []) ++
      [options.processingPipelineString] ++
      if options.receiverCallback.isSome then ["appsink name=" ++ kAppSinkName] else [])

/-- The end of `Create`: the appsink. -/
def configureAppsink (gst : Gst Element) (options : GstreamerRunner.Options) (bin : Element)
    (p : GstreamerPipeline Element) : OrFatal (StatusOr (GstreamerPipeline Element)) :=
  if options.receiverCallback.isSome then
    match gst.binGetByName bin kAppSinkName with
    | none => p.abandon (internalError "Failed to get a pointer to the appsink element")
    | some sink =>
      .ok (.value { p with gstAppsink := some sink, appsinkSync := some options.appsinkSync })
  else .ok (.value p)

/-- `Create` from where the pipeline `bin` has been made. -/
def configureAppsrc (gst : Gst Element) (options : GstreamerRunner.Options) (bin : Element)
    (p : GstreamerPipeline Element) : OrFatal (StatusOr (GstreamerPipeline Element)) :=
  if options.appsrcCapsString ≠ [] then
    match gst.binGetByName bin kAppSrcName with
    | none => p.abandon (internalError "Failed to get a pointer to the appsrc element")
    | some src =>
      match gst.capsFromString options.appsrcCapsString with
      | none =>
        { p with gstAppsrc := some src }.abandon (invalidArgumentError
          ("Failed to create a GstCaps from \"" ++ bytesText options.appsrcCapsString ++
            "\"; make sure it is a valid cap string"))
      | some caps =>
        configureAppsink gst options bin { p with gstAppsrc := some src, appsrcCaps := some caps }
  else configureAppsink gst options bin p

def create (gst : Gst Element) (options : GstreamerRunner.Options) :
    OrFatal (StatusOr (GstreamerPipeline Element)) :=
  if (GstreamerRunner.validateOptions options).ok = false then
    .ok (.ofStatus (invalidArgumentError "The given GstreamerRunner::Options has errors"))
  else if options.processingPipelineString = "" then
    default.abandon (invalidArgumentError "Given an empty processing pipeline string")
  else
    match gst.parseLaunch (pipelineString options) with
    | none =>
      default.abandon (invalidArgumentError
        ("Failed to create a gstreamer pipeline using \"" ++ pipelineString options ++
          "\". Make sure you've given a valid processing pipeline string"))
    | some bin => configureAppsrc gst options bin { default with gstPipeline := some bin }

end GstreamerPipeline

/-! ### `GstreamerRunnerImpl` -/

/-- `GMainLoopManager`: a glib main loop that runs. -/
structure GMainLoopManager where

/-- `class GstreamerRunnerImpl`; the members are null until `Initialize` sets them. -/
structure GstreamerRunnerImpl (Element : Type) where
  options : GstreamerRunner.Options
  gstreamerPipeline : Option (GstreamerPipeline Element)
  completionSignal : Option CompletionSignal
  glibLoopManager : Option GMainLoopManager

namespace GstreamerRunnerImpl

variable {Element : Type}

/-- `GstreamerRunnerImpl(options)`. -/
def construct (options : GstreamerRunner.Options) : GstreamerRunnerImpl Element :=
  ⟨options, none, none, none⟩

def initializeImpl (gst : Gst Element) (impl : GstreamerRunnerImpl Element) :
    OrFatal (Status × GstreamerRunnerImpl Element) :=
  match GstreamerPipeline.create gst impl.options with
  | .error e => .error e
  | .ok (.error status _) => .ok (status, impl)
  | .ok (.value p) =>
    .ok (okStatus,
      { impl with
        gstreamerPipeline := some p
        completionSignal := some CompletionSignal.default.start
        glibLoopManager := some {} })

/-- `Finalize`, with what it asks of GStreamer.  How the wait for the end ends decides about
a log line only. -/
def finalize (gst : Gst Element) (impl : GstreamerRunnerImpl Element) :
    OrFatal (Status × List (GstCall Element)) :=
  match impl.completionSignal with
  | none => .error ⟨"null dereference"⟩
  | some signal =>
    match impl.gstreamerPipeline with
    | none => .error ⟨"null dereference"⟩
    | some p =>
      .ok (okStatus,
        (if (signal.isCompleted || gst.completed) = false then
          match p.gstAppsrc with
          | some src => [.endOfStream src]
          | none => p.gstPipeline.toList.map .sendEos
        else []) ++
        p.gstPipeline.toList.map .setStateNull)

/-- `~GstreamerRunnerImpl()`: `Finalize`, and then the pipeline's own destructor. -/
def destroy (gst : Gst Element) (impl : GstreamerRunnerImpl Element) : OrFatal Unit :=
  match impl.finalize gst with
  | .error e => .error e
  | .ok _ =>
    match impl.gstreamerPipeline with
    | none => .ok ()
    | some p => p.cleanup

/-- `Create`; a runner that cannot be initialized is destroyed on the way out. -/
def create (gst : Gst Element) (options : GstreamerRunner.Options) :
    OrFatal (StatusOr (GstreamerRunnerImpl Element)) :=
  match (construct options).initializeImpl gst with
  | .error e => .error e
  | .ok (status, impl) =>
    if status.ok = false then
      match impl.destroy gst with
      | .error e => .error e
      | .ok _ => .ok (.ofStatus status)
    else .ok (.value impl)

end GstreamerRunnerImpl

/-! ### `GstreamerRunner` -/

structure GstreamerRunner (Element : Type) where
  gstreamerRunnerImpl : Option (GstreamerRunnerImpl Element)

namespace GstreamerRunner

variable {Element : Type}

def create (gst : Gst Element) (options : Options) :
    OrFatal (StatusOr (GstreamerRunner Element)) :=
  if (gstInit gst).ok = false then
    .ok (.ofStatus (internalError "Could not initialize GStreamer"))
  else
    match GstreamerRunnerImpl.create gst options with
    | .error e => .error e
    | .ok (.error _ _) => .ok (.ofStatus (unknownError "Failed to create a gstreamer runner"))
    | .ok (.value impl) => .ok (.value ⟨some impl⟩)

/-- `~GstreamerRunner()`. -/
def destroy (gst : Gst Element) (runner : GstreamerRunner Element) : OrFatal Unit :=
  match runner.gstreamerRunnerImpl with
  | none => .ok ()
  | some impl => impl.destroy gst

/-! ### Teardown -/

/-- The pointers that `Cleanup` follows are the ones it has checked. -/
theorem cleanup_ok (p : GstreamerPipeline Element) : p.cleanup = .ok () := by
  obtain ⟨pipeline, src, sink, caps, sync⟩ := p
  cases pipeline <;> cases src <;> cases sink <;> rfl

theorem abandon_eq (p : GstreamerPipeline Element) (status : Status) :
    p.abandon status = .ok (.ofStatus status) := by
  rw [GstreamerPipeline.abandon, cleanup_ok]

/-- GStreamer can make the pipeline that the options describe. -/
structure PipelineMade (gst : Gst Element) (options : Options) (bin : Element) : Prop where
  nonempty : options.processingPipelineString ≠ ""
  parsed : gst.parseLaunch (GstreamerPipeline.pipelineString options) = some bin
  appsrc : options.appsrcCapsString ≠ [] →
    (gst.binGetByName bin kAppSrcName).isSome = true ∧
      (gst.capsFromString options.appsrcCapsString).isSome = true
  appsink : options.receiverCallback.isSome = true →
    (gst.binGetByName bin kAppSinkName).isSome = true

/-- An outcome of `GstreamerPipeline::Create`: a pipeline if `good`, an error otherwise. -/
def Settles (good : Prop) (x : OrFatal (StatusOr (GstreamerPipeline Element))) : Prop :=
  (good ∧ ∃ p, x = .ok (.value p) ∧ p.gstPipeline.isSome = true) ∨
    (¬ good ∧ ∃ status h, x = .ok (.error status h))

theorem settles_abandon {good : Prop} (hgood : ¬ good) (p : GstreamerPipeline Element)
    {status : Status} (h : status.ok = false) : Settles good (p.abandon status) := by
  rw [abandon_eq, StatusOr.ofStatus_of_not_ok h]
  exact Or.inr ⟨hgood, status, h, rfl⟩

theorem configureAppsink_settles (gst : Gst Element) (options : Options) (bin : Element)
    {p : GstreamerPipeline Element} (hp : p.gstPipeline.isSome = true) :
    Settles (options.receiverCallback.isSome = true →
      (gst.binGetByName bin kAppSinkName).isSome = true)
      (GstreamerPipeline.configureAppsink gst options bin p) := by
  rw [GstreamerPipeline.configureAppsink]
  by_cases hcallback : options.receiverCallback.isSome = true
  · rw [if_pos hcallback]
    cases hsink : gst.binGetByName bin kAppSinkName with
    | none => exact settles_abandon (by simp [hcallback]) p rfl
    | some sink => exact Or.inl ⟨fun _ => rfl, _, rfl, hp⟩
  · rw [if_neg hcallback]
    exact Or.inl ⟨fun h => absurd h hcallback, p, rfl, hp⟩

theorem configureAppsrc_settles (gst : Gst Element) (options : Options) (bin : Element)
    {p : GstreamerPipeline Element} (hp : p.gstPipeline.isSome = true) :
    Settles
      ((options.appsrcCapsString ≠ [] → (gst.binGetByName bin kAppSrcName).isSome = true ∧
        (gst.capsFromString options.appsrcCapsString).isSome = true) ∧
      (options.receiverCallback.isSome = true →
        (gst.binGetByName bin kAppSinkName).isSome = true))
      (GstreamerPipeline.configureAppsrc gst options bin p) := by
  rw [GstreamerPipeline.configureAppsrc]
  by_cases hcaps : options.appsrcCapsString ≠ []
  · rw [if_pos hcaps]
    cases hsrc : gst.binGetByName bin kAppSrcName with
    | none => exact settles_abandon (by simp [hcaps]) p rfl
    | some src =>
      cases hparsed : gst.capsFromString options.appsrcCapsString with
      | none => exact settles_abandon (by simp [hcaps]) _ rfl
      | some caps =>
        rw [and_iff_right fun _ => ⟨rfl, rfl⟩]
        exact configureAppsink_settles gst options bin hp
  · rw [if_neg hcaps, and_iff_right fun h => absurd h hcaps]
    exact configureAppsink_settles gst options bin hp

/-- **`GstreamerPipeline::Create`** makes the pipeline exactly when GStreamer can, and
returns an error otherwise. -/
theorem pipeline_create_settles (gst : Gst Element) (options : Options) :
    Settles (∃ bin, PipelineMade gst options bin) (GstreamerPipeline.create gst options) := by
  rw [GstreamerPipeline.create]
  by_cases hempty : options.processingPipelineString = ""
  · rw [validateOptions, if_pos hempty, if_pos (by simp)]
    exact Or.inr ⟨fun ⟨_, h⟩ => h.nonempty hempty, _, rfl, rfl⟩
  · rw [validateOptions, if_neg hempty, if_neg (by simp), if_neg hempty]
    cases hparsed : gst.parseLaunch (GstreamerPipeline.pipelineString options) with
    | none =>
      refine settles_abandon ?_ _ rfl
      rintro ⟨bin, h⟩
      cases hparsed.symm.trans h.parsed
    | some bin =>
      have hiff : (∃ bin, PipelineMade gst options bin) ↔
          (options.appsrcCapsString ≠ [] → (gst.binGetByName bin kAppSrcName).isSome = true ∧
            (gst.capsFromString options.appsrcCapsString).isSome = true) ∧
          (options.receiverCallback.isSome = true →
            (gst.binGetByName bin kAppSinkName).isSome = true) := by
        constructor
        · rintro ⟨bin', h⟩
          cases hparsed.symm.trans h.parsed
          exact ⟨h.appsrc, h.appsink⟩
        · rintro ⟨hsrc, hsink⟩
          exact ⟨bin, hempty, hparsed, hsrc, hsink⟩
      rw [hiff]
      exact configureAppsrc_settles gst options bin rfl

/-- **`Initialize` sets all three members, or it fails and sets none.** -/
theorem initializeImpl_cases (gst : Gst Element) (options : Options) :
    ((∃ bin, PipelineMade gst options bin) ∧ ∃ p signal manager,
        (GstreamerRunnerImpl.construct options).initializeImpl gst =
          .ok (okStatus, ⟨options, some p, some signal, some manager⟩)) ∨
      ((¬ ∃ bin, PipelineMade gst options bin) ∧ ∃ status : Status, status.ok = false ∧
        (GstreamerRunnerImpl.construct options).initializeImpl gst =
          .ok (status, ⟨options, none, none, none⟩)) := by
  rw [GstreamerRunnerImpl.initializeImpl, GstreamerRunnerImpl.construct]
  rcases pipeline_create_settles gst options with ⟨hmade, p, he, _⟩ | ⟨hmade, status, h, he⟩
  · rw [he]
    exact Or.inl ⟨hmade, p, _, _, rfl⟩
  · rw [he]
    exact Or.inr ⟨hmade, status, h, rfl⟩

/-- The teardown of a runner whose members are set follows them all. -/
theorem destroy_of_set (gst : Gst Element) (options : Options) (p : GstreamerPipeline Element)
    (signal : CompletionSignal) (manager : GMainLoopManager) :
    (GstreamerRunnerImpl.mk options (some p) (some signal) (some manager)).destroy gst =
      .ok () := by
  simp only [GstreamerRunnerImpl.destroy, GstreamerRunnerImpl.finalize, cleanup_ok]

/-- The teardown of a runner with no member set begins with a null pointer. -/
theorem destroy_of_unset (gst : Gst Element) (options : Options) :
    (GstreamerRunnerImpl.mk options none none none).destroy gst =
      .error ⟨"null dereference"⟩ := rfl

/-- **A safe creation**: it returns, not with OK where the initialization failed, and the
destructor of what `Initialize` leaves behind follows set pointers only. -/
structure CreatesSafely (gst : Gst Element) (options : Options) : Prop where
  returns : ∃ result, create gst options = .ok result ∧
    ((gstInit gst).ok = false ∨
      (∃ status impl, (GstreamerRunnerImpl.construct options).initializeImpl gst =
        .ok (status, impl) ∧ status.ok = false) → result.ok = false)
  destroys : (gstInit gst).ok = true → ∀ status impl,
    (GstreamerRunnerImpl.construct options).initializeImpl gst = .ok (status, impl) →
      impl.destroy gst = .ok ()

/-- **A creation is safe exactly when `GstInit` fails or GStreamer can make the pipeline.**
Where the pipeline cannot be made, the destructor of the runner that was not initialized
follows a null pointer. -/
theorem createsSafely_iff (gst : Gst Element) (options : Options) :
    CreatesSafely gst options ↔
      (gstInit gst).ok = false ∨ ∃ bin, PipelineMade gst options bin := by
  constructor
  · intro h
    by_cases hinit : (gstInit gst).ok = false
    · exact Or.inl hinit
    · rcases initializeImpl_cases gst options with ⟨hmade, _⟩ | ⟨_, status, _, he⟩
      · exact Or.inr hmade
      · have := h.destroys (Bool.of_not_eq_false hinit) _ _ he
        rw [destroy_of_unset] at this
        cases this
  · rintro (hinit | hmade)
    · refine ⟨⟨_, if_pos hinit, fun _ => StatusOr.ok_ofStatus _⟩, fun hok => ?_⟩
      rw [hinit] at hok
      cases hok
    · obtain ⟨_, p, signal, manager, he⟩ | ⟨hnot, _⟩ := initializeImpl_cases gst options
      · refine ⟨?_, fun _ status impl hi => ?_⟩
        · by_cases hinit : (gstInit gst).ok = false
          · exact ⟨_, if_pos hinit, fun _ => StatusOr.ok_ofStatus _⟩
          · refine ⟨.value ⟨some ⟨options, some p, some signal, some manager⟩⟩, ?_, ?_⟩
            · rw [create, if_neg hinit, GstreamerRunnerImpl.create, he]
              rfl
            · rintro (h | ⟨status, impl, hi, h⟩)
              · exact absurd h hinit
              · rw [he] at hi
                cases hi
                cases h
        · rw [he] at hi
          cases hi
          exact destroy_of_set gst options p signal manager
      · exact absurd hmade hnot

/-- A GStreamer that parses every pipeline and no caps. -/
def gstWithoutCaps : Gst Unit where
  initCheck := none
  parseLaunch _ := some ()
  binGetByName _ _ := some ()
  capsFromString _ := none
  completed := false

/-- **Caps that do not parse bring the process down**, such as the caps of a packet that
was received. -/
theorem not_createsSafely_unparsableCaps :
    ¬ CreatesSafely gstWithoutCaps ⟨"fakesink", [0x3f], none, false⟩ := by
  rw [createsSafely_iff]
  rintro (h | ⟨bin, h⟩)
  · cases h
  · cases (h.appsrc (by decide)).2

end GstreamerRunner

end AIStreams
