import AIStreams.Gstreamer.GcsUploader
import AIStreams.Gstreamer.ReceiverTimeout

/-!
# A run of the video exporter

`Worker::Work`, `Join` and `~Worker`, `Attach`, and `Create` and `Run` of
`aistreams/gstreamer/gstreamer_video_exporter.cc`: the thread that calls `Run`, the threads of
the three workers that it starts, and the completion signals between them.  What a `WorkImpl`
returns, and when, is left open.

* `verdict_of_done`: the first `Run` returns OK exactly if every worker has returned OK and was
  joined in time; every later one is refused.
* `joined_of_ok`: after an OK `Run` no thread of a worker is left.
* `canReach_outlives_iff`: when the thread of a worker can outlive its worker.
-/

namespace AIStreams

namespace GstreamerVideoExporter

/-! ### The exporter -/

/-- All of `GstreamerVideoExporter::Options`. -/
structure ExporterOptions extends Options where
  maxFramesPerFile : Int32 := 200
  outputDir : String := ""
  filePrefix : String := ""
  uploadToGcs : Bool := false
  keepLocal : Bool := true
  gcsBucketName : String := ""
  gcsObjectDir : String := ""
  useGstreamerInputSource : Bool := false
  gstreamerInputPipeline : String := ""
  workingBufferSize : Int32 := 100
  finalizationDeadline : Duration := .seconds 5

end GstreamerVideoExporter

open GstreamerVideoExporter (ExporterOptions)

structure GstreamerVideoExporter where
  options : ExporterOptions
  hasBeenRun : Bool

def GstreamerVideoExporter.create (options : ExporterOptions) : StatusOr GstreamerVideoExporter :=
  if options.workingBufferSize ≤ 0 then
    .ofStatus (invalidArgumentError "You must supply a positive value for the working buffer size")
  else .value ⟨options, false⟩

namespace ExporterRun

/-! ### The workers and their channels -/

/-- The workers that `Run` makes. -/
inductive Role
  | gcsUploader
  | localVideoSaver
  | streamServerSource
  | gstreamerInputSource
  deriving DecidableEq

def Role.name : Role → String
  | .gcsUploader => "GcsUploader"
  | .localVideoSaver => "LocalVideoSaver"
  | .streamServerSource => GstreamerVideoExporter.kStreamServerSourceName
  | .gstreamerInputSource => "GstreamerInputSource"

/-- The source that `Run` attaches and starts. -/
def videoSource (options : ExporterOptions) : Role :=
  if options.useGstreamerInputSource then .gstreamerInputSource else .streamServerSource

/-- `Channel(size)`. -/
def newChannel (size : Int32) : OrFatal Channel :=
  if size ≤ 0 then .error ⟨"Check failed: size > 0"⟩ else .ok ⟨false, false⟩

/-- `Attach`, with the channel as it is afterwards. -/
def attach (channel : Option Channel) (srcWorker dstWorker : Option Role) :
    Status × Option Channel :=
  match channel, srcWorker, dstWorker with
  | none, _, _ => (invalidArgumentError "Given a nullptr to the Channel.", none)
  | some c, none, _ => (invalidArgumentError "Given a nullptr to the source Worker.", some c)
  | some c, some _, none =>
    (invalidArgumentError "Given a nullptr to the destination Worker.", some c)
  | some c, some _, some _ => (okStatus, some { c with hasSrc := true, hasDst := true })

def failedToAttach (src dst : Role) : Status :=
  unknownError ("Failed to Attach workers \"" ++ src.name ++ "\" and \"" ++ dst.name ++ "\".")

/-- `Run` up to the start of the workers: what it returns early, or the two channels. -/
def connect (options : ExporterOptions) :
    OrFatal (Except Status (Option Channel × Option Channel)) := do
  let filePathChannel ← newChannel options.workingBufferSize
  let (status, filePathChannel) :=
    attach (some filePathChannel) (some .localVideoSaver) (some .gcsUploader)
  if status.ok = false then .ok (.error (failedToAttach .localVideoSaver .gcsUploader))
  else
    let rawImageChannel ← newChannel options.workingBufferSize
    let (status, rawImageChannel) :=
      attach (some rawImageChannel) (some (videoSource options)) (some .localVideoSaver)
    if status.ok = false then .ok (.error (failedToAttach (videoSource options) .localVideoSaver))
    else .ok (.ok (filePathChannel, rawImageChannel))

/-- The exporter that `Create` makes connects its workers. -/
theorem connect_eq {options : ExporterOptions} (h : 0 < options.workingBufferSize) :
    connect options = .ok (.ok (some ⟨true, true⟩, some ⟨true, true⟩)) := by
  have hnew : newChannel options.workingBufferSize = .ok ⟨false, false⟩ :=
    if_neg (Int32.not_le.mpr h)
  simp only [connect, hnew, OrFatal.ok_bind, attach]
  rfl

def gcsUploader (options : ExporterOptions) (inChannel : Option Channel) : GcsUploader.Worker where
  name := Role.gcsUploader.name
  options := ⟨options.uploadToGcs, options.gcsBucketName, options.gcsObjectDir, options.keepLocal⟩
  inChannel := inChannel

def localVideoSaver (options : ExporterOptions) (inChannel outChannel : Option Channel) :
    LocalVideoSaver.Worker where
  name := Role.localVideoSaver.name
  options :=
    ⟨options.filePrefix, options.outputDir, options.maxFramesPerFile, options.uploadToGcs⟩
  inChannel := inChannel
  outChannel := outChannel

/-- **The workers of a run are attached**: the saver's preconditions are about its frame count,
and the uploader's about its bucket. -/
theorem preconditions_of_connect {options : ExporterOptions} {paths images : Option Channel}
    (h : connect options = .ok (.ok (paths, images))) :
    ((LocalVideoSaver.validatePreconditions (localVideoSaver options images paths)).ok = true ↔
      0 < options.maxFramesPerFile) ∧
    ((GcsUploader.validatePreconditions (gcsUploader options paths)).ok = true ↔
      options.gcsBucketName ≠ "") := by
  have hsize : 0 < options.workingBufferSize := by
    by_contra hneg
    simp only [connect, newChannel, if_pos (Int32.not_lt.mp hneg)] at h
    cases h
  rw [connect_eq hsize] at h
  cases h
  constructor
  · by_cases hframes : options.maxFramesPerFile ≤ 0
    · simp [LocalVideoSaver.validatePreconditions, localVideoSaver, hframes]
    · simp [LocalVideoSaver.validatePreconditions, localVideoSaver, hframes,
        Int32.not_le.mp hframes]
  · by_cases hbucket : options.gcsBucketName = ""
    · simp [GcsUploader.validatePreconditions, gcsUploader, hbucket]
    · simp [GcsUploader.validatePreconditions, gcsUploader, hbucket]

/-! ### The program -/

open Transition

/-- The thread of a worker: none, in `WorkImpl`, past it, past `SetStatus`, and past `End`. -/
inductive Thread
  | none
  | working
  | returned (status : Status)
  | statusSet (status : Status)
  | ended (status : Status)
  deriving DecidableEq

/-- The thread is still to use its worker. -/
def Thread.Live : Thread → Prop
  | .none => False
  | .working => True
  | .returned _ => True
  | .statusSet _ => True
  | .ended _ => False

/-- A worker with its thread.  `late`: it has not been completed by the deadline of its `Join`. -/
structure Worker where
  signal : CompletionSignal
  thread : Thread
  joinable : Bool
  destroyed : Bool
  late : Bool

def Worker.fresh : Worker := ⟨.default, .none, false, false, false⟩

/-- `~Worker()`: a thread that was not joined is detached. -/
def Worker.destroy (x : Worker) : Worker := { x with joinable := false, destroyed := true }

/-- Where the caller of `Run` is: not in it yet, in `Work` in front of `Start` and of the thread, in
`Join` in front of the wait and of the thread's `join`, in front of `GetStatus`, at the report, at
the end of a worker, or past `Run`. -/
inductive Pc
  | idle
  | start (w : Role)
  | spawn (w : Role)
  | join (w : Role)
  | reclaim (w : Role)
  | getStatus (w : Role)
  | report
  | destroy (w : Role)
  | done
  deriving DecidableEq

section Order

variable (source : Role)

def afterSpawn : Role → Pc
  | .gcsUploader => .start .localVideoSaver
  | .localVideoSaver => .start source
  | _ => .join source

def afterJoin : Role → Pc
  | .gcsUploader => .report
  | .localVideoSaver => .join .gcsUploader
  | _ => .join .localVideoSaver

def afterDestroy : Role → Pc
  | .gstreamerInputSource => .destroy .streamServerSource
  | .streamServerSource => .destroy .localVideoSaver
  | .localVideoSaver => .destroy .gcsUploader
  | .gcsUploader => .done

end Order

/-- `statuses` are the variables `video_source_status`, `local_video_saver_status` and
`gcs_uploader_status`, by worker; `results` is what the calls of `Run` have returned. -/
structure State where
  exporter : GstreamerVideoExporter
  pc : Pc
  worker : Role → Worker
  statuses : Role → Status
  returnStatus : Status
  results : List Status

def alreadyRun : Status :=
  failedPreconditionError
    "This video exporter has already been Run. Please Create a new instance and try again."

def errorStatus : Status := unknownError "The Run() did not complete successfully."

def deadlineExceeded (w : Role) : Status :=
  deadlineExceededError
    ("\"" ++ w.name ++ "\" did not finalize its work in time. It will be detached.")

/-- The last part of `Run`. -/
def report (videoSourceStatus localVideoSaverStatus gcsUploaderStatus : Status) : Status :=
  let returnStatus := if videoSourceStatus.ok = false then errorStatus else okStatus
  let returnStatus := if localVideoSaverStatus.ok = false then errorStatus else returnStatus
  if gcsUploaderStatus.ok = false then errorStatus else returnStatus

namespace State

def source (s : State) : Role := videoSource s.exporter.options

def setWorker (s : State) (w : Role) (x : Worker) : State :=
  { s with worker := Function.update s.worker w x }

theorem worker_setWorker_self (s : State) (w : Role) (x : Worker) :
    (s.setWorker w x).worker w = x := Function.update_self _ _ _

theorem worker_setWorker_of_ne (s : State) {w v : Role} (h : v ≠ w) (x : Worker) :
    (s.setWorker w x).worker v = s.worker v := Function.update_of_ne h _ _

end State

inductive Label
  | run
  | main
  | late (w : Role)
  | thread (w : Role)

/-- The steps of the caller of `Run`, whose calls do not overlap, and of the workers' threads.  A
`Join` of the source goes round until it is completed; that of another worker gives up when the
finalization deadline has passed, which an infinite one never does. -/
inductive Step : State → Label → State → Prop
  | runAgain {s : State} : s.pc = .done → s.exporter.hasBeenRun = true →
      Step s .run { s with results := s.results ++ [alreadyRun] }
  | runFailed {s : State} {status : Status} : s.pc = .idle → s.exporter.hasBeenRun = false →
      connect s.exporter.options = .ok (.error status) →
      Step s .run { s with
        exporter := { s.exporter with hasBeenRun := true }
        pc := .done
        results := s.results ++ [status] }
  | run {s : State} {channels : Option Channel × Option Channel} :
      s.pc = .idle → s.exporter.hasBeenRun = false →
      connect s.exporter.options = .ok (.ok channels) →
      Step s .run { s with
        exporter := { s.exporter with hasBeenRun := true }
        pc := .start .gcsUploader }
  | start {s : State} (w : Role) : s.pc = .start w →
      Step s .main { s.setWorker w { s.worker w with signal := (s.worker w).signal.start } with
        pc := .spawn w }
  | spawn {s : State} (w : Role) : s.pc = .spawn w →
      Step s .main { s.setWorker w { s.worker w with thread := .working, joinable := true } with
        pc := afterSpawn s.source w }
  | completed {s : State} (w : Role) : s.pc = .join w → (s.worker w).signal.isCompleted = true →
      Step s .main { s with pc := .reclaim w }
  | waiting {s : State} : s.pc = .join s.source →
      (s.worker s.source).signal.isCompleted = false → Step s .main s
  | late {s : State} (w : Role) : s.pc = .join w → w ≠ s.source →
      (s.worker w).signal.isCompleted = false →
      s.exporter.options.finalizationDeadline ≠ .infinite →
      Step s (.late w) { s.setWorker w { s.worker w with late := true } with
        statuses := Function.update s.statuses w (deadlineExceeded w)
        pc := afterJoin w }
  | reclaim {s : State} (w : Role) : s.pc = .reclaim w →
      ((s.worker w).joinable = true → ∃ status, (s.worker w).thread = .ended status) →
      Step s .main { s.setWorker w { s.worker w with joinable := false } with pc := .getStatus w }
  | getStatus {s : State} (w : Role) : s.pc = .getStatus w →
      Step s .main { s with
        statuses := Function.update s.statuses w (s.worker w).signal.status
        pc := afterJoin w }
  | report {s : State} : s.pc = .report →
      Step s .main { s with
        returnStatus := report (s.statuses s.source) (s.statuses .localVideoSaver)
          (s.statuses .gcsUploader)
        pc := .destroy .gstreamerInputSource }
  | destroy {s : State} (w : Role) : s.pc = .destroy w → w ≠ .gcsUploader →
      Step s .main { s.setWorker w (s.worker w).destroy with pc := afterDestroy w }
  | leave {s : State} : s.pc = .destroy .gcsUploader →
      Step s .main { s.setWorker .gcsUploader (s.worker .gcsUploader).destroy with
        pc := .done
        results := s.results ++ [s.returnStatus] }
  | workImpl {s : State} (w : Role) (status : Status) : (s.worker w).thread = .working →
      Step s (.thread w) (s.setWorker w { s.worker w with thread := .returned status })
  | setStatus {s : State} (w : Role) (status : Status) :
      (s.worker w).thread = .returned status →
      Step s (.thread w) (s.setWorker w { s.worker w with
        thread := .statusSet status, signal := (s.worker w).signal.setStatus status })
  | finish {s : State} (w : Role) (status : Status) : (s.worker w).thread = .statusSet status →
      Step s (.thread w) (s.setWorker w { s.worker w with
        thread := .ended status, signal := (s.worker w).signal.finish })

def initial (exporter : GstreamerVideoExporter) : State where
  exporter := exporter
  pc := .idle
  worker _ := .fresh
  statuses _ := okStatus
  returnStatus := okStatus
  results := []

/-- The life of an exporter that `Create` has made. -/
def system (options : ExporterOptions) : System State Label where
  init s := ∃ exporter, GstreamerVideoExporter.create options = .value exporter ∧
    s = initial exporter
  step := Step

/-! ### How far a worker has come -/

/-- A worker, seen from the caller of `Run`: not started, started, with its thread, found completed,
joined, and joined or given up. -/
inductive Stage
  | fresh
  | started
  | spawned
  | completed
  | reclaimed
  | decided
  deriving DecidableEq

section Stages

variable (source : Role)

/-- The workers that take part. -/
def participants : List Role := [.gcsUploader, .localVideoSaver, source]

def spawnedBefore : Role → List Role
  | .gcsUploader => []
  | .localVideoSaver => [.gcsUploader]
  | _ => [.gcsUploader, .localVideoSaver]

def joinedBefore : Role → List Role
  | .gcsUploader => [source, .localVideoSaver]
  | .localVideoSaver => [source]
  | _ => []

def stageAtJoin (w v : Role) : Stage :=
  if w ∈ joinedBefore source v then .decided
  else if w ∈ participants source then .spawned
  else .fresh

/-- The stage of the worker `w`, by where the caller is. -/
def stageAt (w : Role) : Pc → Stage
  | .idle => .fresh
  | .start v => if w ∈ spawnedBefore v then .spawned else .fresh
  | .spawn v => if w = v then .started else if w ∈ spawnedBefore v then .spawned else .fresh
  | .join v => stageAtJoin source w v
  | .reclaim v => if w = v then .completed else stageAtJoin source w v
  | .getStatus v => if w = v then .reclaimed else stageAtJoin source w v
  | .report => if w ∈ participants source then .decided else .fresh
  | .destroy _ => if w ∈ participants source then .decided else .fresh
  | .done => if w ∈ participants source then .decided else .fresh

end Stages

/-- The signal tells how far the thread is. -/
structure Worker.Coherent (x : Worker) : Prop where
  spawned : x.thread ≠ .none
  completed : x.signal.isCompleted = true ↔ ∃ status, x.thread = .ended status
  status : ∀ status, x.thread = .statusSet status ∨ x.thread = .ended status →
    x.signal.status = status

/-- What is known of a worker at a stage; `status` is the variable for its status. -/
def Stage.Holds (w : Role) (x : Worker) (status : Status) : Stage → Prop
  | .fresh => x.thread = .none ∧ x.joinable = false ∧ x.late = false
  | .started => x.thread = .none ∧ x.signal.isCompleted = false ∧ x.late = false
  | .spawned => x.Coherent ∧ x.late = false
  | .completed => x.Coherent ∧ x.late = false ∧ x.signal.isCompleted = true
  | .reclaimed => x.Coherent ∧ x.late = false ∧ x.signal.isCompleted = true ∧ x.joinable = false
  | .decided => x.Coherent ∧
    (x.late = true ∧ status = deadlineExceeded w ∨
      x.late = false ∧ x.joinable = false ∧ x.thread = .ended status)

section Threads

variable {w : Role} {x : Worker} {status result : Status} {stage : Stage}

/-- A thread that runs has been spawned, and is not known to have ended. -/
theorem Stage.Holds.of_live (h : stage.Holds w x status) (hlive : x.thread.Live) :
    x.Coherent ∧ ((stage = .spawned ∧ x.late = false) ∨
      (stage = .decided ∧ x.late = true ∧ status = deadlineExceeded w)) := by
  have hended : ∀ {st}, x.thread ≠ .ended st := by
    intro st he
    rw [he] at hlive
    exact hlive
  cases stage with
  | fresh =>
    rw [h.1] at hlive
    exact hlive.elim
  | started =>
    rw [h.1] at hlive
    exact hlive.elim
  | spawned => exact ⟨h.1, Or.inl ⟨rfl, h.2⟩⟩
  | completed =>
    obtain ⟨st, he⟩ := h.1.completed.mp h.2.2
    exact absurd he hended
  | reclaimed =>
    obtain ⟨st, he⟩ := h.1.completed.mp h.2.2.1
    exact absurd he hended
  | decided =>
    obtain ⟨hcoh, hlate | ⟨_, _, he⟩⟩ := h
    · exact ⟨hcoh, Or.inr ⟨rfl, hlate⟩⟩
    · exact absurd he hended

/-- A step of a thread that runs keeps what is known at a stage. -/
theorem Stage.Holds.of_coherent (h : stage.Holds w x status) (hlive : x.thread.Live) {y : Worker}
    (hy : y.Coherent) (hlate : y.late = x.late) : stage.Holds w y status := by
  obtain ⟨_, ⟨rfl, hx⟩ | ⟨rfl, hx, hstatus⟩⟩ := h.of_live hlive
  · exact ⟨hy, hlate.trans hx⟩
  · exact ⟨hy, Or.inl ⟨hlate.trans hx, hstatus⟩⟩

theorem coherent_returned (h : x.Coherent) (ht : x.thread = .working) :
    Worker.Coherent { x with thread := .returned result } where
  spawned := nofun
  completed := by
    rw [h.completed, ht]
    exact ⟨nofun, nofun⟩
  status := by
    rintro st (h | h) <;> cases h

theorem coherent_statusSet (h : x.Coherent) (ht : x.thread = .returned result) :
    Worker.Coherent
      { x with thread := .statusSet result, signal := x.signal.setStatus result } where
  spawned := nofun
  completed := by
    rw [CompletionSignal.isCompleted_setStatus, h.completed, ht]
    exact ⟨nofun, nofun⟩
  status := by
    rintro st (h | h) <;> cases h
    rfl

theorem coherent_ended (h : x.Coherent) (ht : x.thread = .statusSet result) :
    Worker.Coherent { x with thread := .ended result, signal := x.signal.finish } where
  spawned := nofun
  completed := ⟨fun _ => ⟨result, rfl⟩, fun _ => rfl⟩
  status := by
    rintro st (hst | hst) <;> cases hst
    exact h.status result (Or.inl ht)

theorem coherent_spawned (hsignal : x.signal.isCompleted = false) :
    Worker.Coherent { x with thread := .working, joinable := true } where
  spawned := nofun
  completed := by
    rw [hsignal]
    exact ⟨nofun, nofun⟩
  status := by
    rintro st (h | h) <;> cases h

end Threads

/-! ### The order of a run -/

/-- The worker that the caller is concerned with. -/
def Pc.role : Pc → Option Role
  | .start w => some w
  | .spawn w => some w
  | .join w => some w
  | .reclaim w => some w
  | .getStatus w => some w
  | _ => none

theorem State.source_cases (s : State) :
    s.source = .streamServerSource ∨ s.source = .gstreamerInputSource := by
  unfold source videoSource
  split
  · exact Or.inr rfl
  · exact Or.inl rfl

section Moves

variable {source w : Role}
  (hsource : source = .streamServerSource ∨ source = .gstreamerInputSource)
  (hw : w ∈ participants source)

include hsource hw

theorem stageAt_start (v : Role) : stageAt source v (.spawn w) =
    if v = w then .started else stageAt source v (.start w) := by
  rcases hsource with rfl | rfl <;> revert hw <;> cases w <;> cases v <;> decide

theorem stageAt_afterSpawn (v : Role) : stageAt source v (afterSpawn source w) =
    if v = w then .spawned else stageAt source v (.spawn w) := by
  rcases hsource with rfl | rfl <;> revert hw <;> cases w <;> cases v <;> decide

theorem stageAt_afterJoin (v : Role) : stageAt source v (afterJoin w) =
    if v = w then .decided else stageAt source v (.join w) := by
  rcases hsource with rfl | rfl <;> revert hw <;> cases w <;> cases v <;> decide

theorem stageAt_before :
    stageAt source w (.start w) = .fresh ∧ stageAt source w (.join w) = .spawned := by
  rcases hsource with rfl | rfl <;> revert hw <;> cases w <;> decide

theorem role_afterSpawn : ∀ v ∈ (afterSpawn source w).role, v ∈ participants source := by
  rcases hsource with rfl | rfl <;> revert hw <;> cases w <;> decide

theorem role_afterJoin : ∀ v ∈ (afterJoin w).role, v ∈ participants source := by
  rcases hsource with rfl | rfl <;> revert hw <;> cases w <;> decide

end Moves

/-- **The invariant of a run**: the caller is at a worker that takes part, and every worker is as
its stage says. -/
structure Inv (s : State) : Prop where
  size : 0 < s.exporter.options.workingBufferSize
  hasBeenRun : s.exporter.hasBeenRun = true ↔ s.pc ≠ .idle
  role : ∀ w ∈ s.pc.role, w ∈ participants s.source
  stage : ∀ w, (stageAt s.source w s.pc).Holds w (s.worker w) (s.statuses w)

/-- The caller moves on, and one worker with it. -/
theorem Inv.move {s : State} (h : Inv s) (hpc : s.pc ≠ .idle) (pc : Pc) (hpc' : pc ≠ .idle)
    (hrole : ∀ w ∈ pc.role, w ∈ participants s.source) (w : Role) (x : Worker)
    (statuses : Role → Status) (hstatuses : ∀ v ≠ w, statuses v = s.statuses v)
    (hmove : ∀ v ≠ w, stageAt s.source v pc = stageAt s.source v s.pc)
    (hw : (stageAt s.source w pc).Holds w x (statuses w)) :
    Inv { s.setWorker w x with pc := pc, statuses := statuses } where
  size := h.size
  hasBeenRun := ⟨fun _ => hpc', fun _ => h.hasBeenRun.mpr hpc⟩
  role := hrole
  stage v := by
    show (stageAt s.source v pc).Holds v ((s.setWorker w x).worker v) (statuses v)
    by_cases hv : v = w
    · subst hv
      rw [State.worker_setWorker_self]
      exact hw
    · rw [State.worker_setWorker_of_ne s hv, hmove v hv, hstatuses v hv]
      exact h.stage v

/-- Nothing but the handle of the thread, and the worker's end. -/
def Worker.Keeps (y x : Worker) : Prop :=
  y.signal = x.signal ∧ y.thread = x.thread ∧ y.late = x.late ∧
    (y.joinable = x.joinable ∨ y.joinable = false)

theorem keeps_refl (x : Worker) : x.Keeps x := ⟨rfl, rfl, rfl, Or.inl rfl⟩

theorem keeps_destroy (s : State) (w v : Role) :
    ((s.setWorker w (s.worker w).destroy).worker v).Keeps (s.worker v) := by
  by_cases hv : v = w
  · rw [hv, State.worker_setWorker_self]
    exact ⟨rfl, rfl, rfl, Or.inr rfl⟩
  · rw [State.worker_setWorker_of_ne s hv]
    exact keeps_refl _

/-- The caller moves on at the end of a run. -/
theorem Inv.move_last {s : State} (h : Inv s) (hpc : s.pc ≠ .idle) (pc : Pc) (hpc' : pc ≠ .idle)
    (hrole : pc.role = none) (hmove : ∀ v, stageAt s.source v pc = stageAt s.source v s.pc)
    {worker : Role → Worker}
    (hworker : ∀ v, (worker v).Keeps (s.worker v))
    (returnStatus : Status) (results : List Status) :
    Inv { s with
      pc := pc, worker := worker, returnStatus := returnStatus, results := results } where
  size := h.size
  hasBeenRun := ⟨fun _ => hpc', fun _ => h.hasBeenRun.mpr hpc⟩
  role := by
    rw [hrole]
    exact nofun
  stage v := by
    show (stageAt s.source v pc).Holds v (worker v) (s.statuses v)
    rw [hmove v]
    have hstage := h.stage v
    obtain ⟨hsignal, hthread, hlate, hjoinable⟩ := hworker v
    have hfalse : (s.worker v).joinable = false → (worker v).joinable = false := by
      rcases hjoinable with hj | hj
      · rw [hj]
        exact id
      · exact fun _ => hj
    have hcoherent : (s.worker v).Coherent → (worker v).Coherent := by
      rintro ⟨h₁, h₂, h₃⟩
      refine ⟨?_, ?_, ?_⟩
      · rw [hthread]
        exact h₁
      · rw [hthread, hsignal]
        exact h₂
      · rw [hthread, hsignal]
        exact h₃
    revert hstage
    cases stageAt s.source v s.pc with
    | fresh =>
      rintro ⟨h₁, h₂, h₃⟩
      exact ⟨hthread.trans h₁, hfalse h₂, hlate.trans h₃⟩
    | started =>
      rintro ⟨h₁, h₂, h₃⟩
      exact ⟨hthread.trans h₁, (congrArg _ hsignal).trans h₂, hlate.trans h₃⟩
    | spawned => exact fun ⟨h₁, h₂⟩ => ⟨hcoherent h₁, hlate.trans h₂⟩
    | completed =>
      exact fun ⟨h₁, h₂, h₃⟩ => ⟨hcoherent h₁, hlate.trans h₂, (congrArg _ hsignal).trans h₃⟩
    | reclaimed =>
      exact fun ⟨h₁, h₂, h₃, h₄⟩ =>
        ⟨hcoherent h₁, hlate.trans h₂, (congrArg _ hsignal).trans h₃, hfalse h₄⟩
    | decided =>
      rintro ⟨h₁, ⟨h₂, h₃⟩ | ⟨h₂, h₃, h₄⟩⟩
      · exact ⟨hcoherent h₁, Or.inl ⟨hlate.trans h₂, h₃⟩⟩
      · exact ⟨hcoherent h₁, Or.inr ⟨hlate.trans h₂, hfalse h₃, hthread.trans h₄⟩⟩

/-- A step of a thread. -/
theorem Inv.thread {s : State} (h : Inv s) {w : Role} (hlive : (s.worker w).thread.Live)
    {y : Worker} (hy : (s.worker w).Coherent → y.Coherent) (hlate : y.late = (s.worker w).late) :
    Inv (s.setWorker w y) where
  size := h.size
  hasBeenRun := h.hasBeenRun
  role := h.role
  stage v := by
    show (stageAt s.source v s.pc).Holds v ((s.setWorker w y).worker v) (s.statuses v)
    by_cases hv : v = w
    · subst hv
      rw [State.worker_setWorker_self]
      exact (h.stage v).of_coherent hlive (hy ((h.stage v).of_live hlive).1) hlate
    · rw [State.worker_setWorker_of_ne s hv]
      exact h.stage v

theorem create_eq {options : ExporterOptions} {exporter : GstreamerVideoExporter}
    (h : GstreamerVideoExporter.create options = .value exporter) :
    0 < options.workingBufferSize ∧ exporter = ⟨options, false⟩ := by
  unfold GstreamerVideoExporter.create at h
  split at h
  · exact absurd h (StatusOr.ofStatus_ne_value _ _)
  · rename_i hsize
    cases h
    exact ⟨Int32.not_le.mp hsize, rfl⟩

theorem inv_initial {options : ExporterOptions} {exporter : GstreamerVideoExporter}
    (h : GstreamerVideoExporter.create options = .value exporter) : Inv (initial exporter) := by
  obtain ⟨hsize, rfl⟩ := create_eq h
  exact ⟨hsize, ⟨nofun, fun h => absurd rfl h⟩, nofun, fun _ => ⟨rfl, rfl, rfl⟩⟩

/-- What the caller does with one worker. -/
theorem inv_of_main {s s' : State} (h : Inv s) (hs : Step s .main s') : Inv s' := by
  have hsource := s.source_cases
  cases hs with
  | start w hpc =>
    have hw : w ∈ participants s.source := h.role w (by rw [hpc]; rfl)
    have hmove := stageAt_start hsource hw
    have hfresh := h.stage w
    rw [hpc, (stageAt_before hsource hw).1] at hfresh
    refine h.move (by rw [hpc]; exact nofun) (.spawn w) nofun (by rintro v ⟨⟩; exact hw) w _
      s.statuses (fun _ _ => rfl) (fun v hv => ?_) ?_
    · rw [hpc]
      exact (hmove v).trans (if_neg hv)
    · rw [show stageAt s.source w (.spawn w) = .started from (hmove w).trans (if_pos rfl)]
      exact ⟨hfresh.1, rfl, hfresh.2.2⟩
  | spawn w hpc =>
    have hw : w ∈ participants s.source := h.role w (by rw [hpc]; rfl)
    have hmove := stageAt_afterSpawn hsource hw
    have hstarted := h.stage w
    rw [hpc, stageAt, if_pos rfl] at hstarted
    refine h.move (by rw [hpc]; exact nofun) (afterSpawn s.source w) (by cases w <;> exact nofun)
      (role_afterSpawn hsource hw) w _ s.statuses (fun _ _ => rfl) (fun v hv => ?_) ?_
    · rw [hpc]
      exact (hmove v).trans (if_neg hv)
    · rw [show stageAt s.source w (afterSpawn s.source w) = .spawned from
        (hmove w).trans (if_pos rfl)]
      exact ⟨coherent_spawned hstarted.2.1, hstarted.2.2⟩
  | completed w hpc hcompleted =>
    have hw : w ∈ participants s.source := h.role w (by rw [hpc]; rfl)
    have hspawned := h.stage w
    rw [hpc, (stageAt_before hsource hw).2] at hspawned
    have hmoved := h.move (by rw [hpc]; exact nofun) (.reclaim w) nofun
      (by rintro v ⟨⟩; exact hw) w (s.worker w) s.statuses (fun _ _ => rfl)
      (fun v hv => by rw [hpc]; exact if_neg hv)
      (by rw [stageAt, if_pos rfl]; exact ⟨hspawned.1, hspawned.2, hcompleted⟩)
    rwa [State.setWorker, Function.update_eq_self] at hmoved
  | waiting _ _ => exact h
  | reclaim w hpc _ =>
    have hw : w ∈ participants s.source := h.role w (by rw [hpc]; rfl)
    have hcompleted := h.stage w
    rw [hpc, stageAt, if_pos rfl] at hcompleted
    refine h.move (by rw [hpc]; exact nofun) (.getStatus w) nofun (by rintro v ⟨⟩; exact hw) w _
      s.statuses (fun _ _ => rfl) (fun v hv => ?_) ?_
    · rw [hpc, stageAt, stageAt, if_neg hv, if_neg hv]
    · rw [stageAt, if_pos rfl]
      exact ⟨⟨hcompleted.1.spawned, hcompleted.1.completed, hcompleted.1.status⟩,
        hcompleted.2.1, hcompleted.2.2, rfl⟩
  | getStatus w hpc =>
    have hw : w ∈ participants s.source := h.role w (by rw [hpc]; rfl)
    have hmove := stageAt_afterJoin hsource hw
    have hreclaimed := h.stage w
    rw [hpc, stageAt, if_pos rfl] at hreclaimed
    obtain ⟨hcoherent, hlate, hcompleted, hjoinable⟩ := hreclaimed
    obtain ⟨status, hended⟩ := hcoherent.completed.mp hcompleted
    have hmoved := h.move (by rw [hpc]; exact nofun) (afterJoin w) (by cases w <;> exact nofun)
      (role_afterJoin hsource hw) w (s.worker w)
      (Function.update s.statuses w (s.worker w).signal.status)
      (fun v hv => Function.update_of_ne hv _ _)
      (fun v hv => by
        rw [hpc, stageAt, if_neg hv]
        exact (hmove v).trans (if_neg hv))
      (by
        rw [show stageAt s.source w (afterJoin w) = .decided from (hmove w).trans (if_pos rfl),
          Function.update_self, hcoherent.status status (Or.inr hended)]
        exact ⟨hcoherent, Or.inr ⟨hlate, hjoinable, hended⟩⟩)
    rwa [State.setWorker, Function.update_eq_self] at hmoved
  | report hpc =>
    refine h.move_last (by rw [hpc]; exact nofun) (.destroy .gstreamerInputSource) nofun rfl
      (fun v => ?_) (fun v => keeps_refl _) _ s.results
    rw [hpc]
    rfl
  | destroy w hpc hw =>
    refine h.move_last (by rw [hpc]; exact nofun) (afterDestroy w) (by cases w <;> exact nofun)
      (by cases w <;> rfl) (fun v => ?_) (keeps_destroy s w) s.returnStatus s.results
    rw [hpc]
    cases w <;> rfl
  | leave hpc =>
    refine h.move_last (by rw [hpc]; exact nofun) .done nofun rfl (fun v => ?_)
      (keeps_destroy s .gcsUploader) s.returnStatus _
    rw [hpc]
    rfl

theorem inv_of_step {s s' : State} {l : Label} (h : Inv s) (hs : Step s l s') : Inv s' := by
  have hsource := s.source_cases
  cases l with
  | main => exact inv_of_main h hs
  | run =>
    cases hs with
    | runAgain hpc _ => exact ⟨h.size, h.hasBeenRun, h.role, h.stage⟩
    | runFailed hpc _ hconnect =>
      rw [connect_eq h.size] at hconnect
      cases hconnect
    | run hpc _ _ =>
      refine ⟨h.size, ⟨fun _ => nofun, fun _ => rfl⟩, ?_, fun v => ?_⟩
      · rintro v ⟨⟩
        exact List.mem_cons_self
      · have hstage := h.stage v
        rw [hpc] at hstage
        exact hstage
  | late w =>
    cases hs with
    | late w hpc hw hcompleted _ =>
      have hmem : w ∈ participants s.source := h.role w (by rw [hpc]; rfl)
      have hmove := stageAt_afterJoin hsource hmem
      have hspawned := h.stage w
      rw [hpc, (stageAt_before hsource hmem).2] at hspawned
      refine h.move (by rw [hpc]; exact nofun) (afterJoin w) (by cases w <;> exact nofun)
        (role_afterJoin hsource hmem) w _ _ (fun v hv => Function.update_of_ne hv _ _)
        (fun v hv => ?_) ?_
      · rw [hpc]
        exact (hmove v).trans (if_neg hv)
      · rw [show stageAt s.source w (afterJoin w) = .decided from (hmove w).trans (if_pos rfl),
          Function.update_self]
        exact ⟨⟨hspawned.1.spawned, hspawned.1.completed, hspawned.1.status⟩,
          Or.inl ⟨rfl, rfl⟩⟩
  | thread w =>
    cases hs with
    | workImpl w status ht =>
      exact h.thread (by rw [ht]; trivial) (fun hc => coherent_returned hc ht) rfl
    | setStatus w status ht =>
      exact h.thread (by rw [ht]; trivial) (fun hc => coherent_statusSet hc ht) rfl
    | finish w status ht =>
      exact h.thread (by rw [ht]; trivial) (fun hc => coherent_ended hc ht) rfl

theorem inv_of_reachable {options : ExporterOptions} {s : State}
    (h : (system options).Reachable s) : Inv s := by
  refine h.invariant ?_ ?_
  · rintro _ ⟨exporter, hcreate, rfl⟩
    exact inv_initial hcreate
  · intro s l s' _ ih hs
    exact inv_of_step ih hs

/-- The options stay as they were given. -/
theorem options_of_reachable {options : ExporterOptions} {s : State}
    (h : (system options).Reachable s) : s.exporter.options = options := by
  refine h.invariant (I := fun s => s.exporter.options = options) ?_ ?_
  · rintro _ ⟨exporter, hcreate, rfl⟩
    rw [initial, (create_eq hcreate).2]
  · intro s l s' _ ih hs
    cases hs <;> exact ih

/-! ### The end of a run -/

/-- The report has been made, and the workers come to their end. -/
def Pc.Tearing : Pc → Prop
  | .destroy _ => True
  | .done => True
  | _ => False

def destroyedBefore : Role → List Role
  | .gstreamerInputSource => []
  | .streamServerSource => [.gstreamerInputSource]
  | .localVideoSaver => [.gstreamerInputSource, .streamServerSource]
  | .gcsUploader => [.gstreamerInputSource, .streamServerSource, .localVideoSaver]

/-- What the report makes of the variables. -/
def State.reported (s : State) : Status :=
  report (s.statuses s.source) (s.statuses .localVideoSaver) (s.statuses .gcsUploader)

structure Ending (s : State) : Prop where
  early : ¬ s.pc.Tearing → (∀ w, (s.worker w).destroyed = false) ∧ s.results = []
  reported : s.pc.Tearing → s.returnStatus = s.reported
  destroyed : ∀ v, s.pc = .destroy v →
    (∀ w ∈ destroyedBefore v, (s.worker w).destroyed = true) ∧ s.results = []
  done : s.pc = .done → (∀ w, (s.worker w).destroyed = true) ∧
    ∃ refused, s.results = s.returnStatus :: refused ∧ ∀ status ∈ refused, status = alreadyRun

/-- A step before the report. -/
theorem Ending.of_early {s s' : State} (h : Ending s) (hpc : ¬ s.pc.Tearing)
    (hpc' : ¬ s'.pc.Tearing) (hworker : ∀ w, (s'.worker w).destroyed = (s.worker w).destroyed)
    (hresults : s'.results = s.results) : Ending s' where
  early _ := by
    obtain ⟨hdestroyed, hnone⟩ := h.early hpc
    exact ⟨fun w => (hworker w).trans (hdestroyed w), hresults.trans hnone⟩
  reported ht := absurd ht hpc'
  destroyed v hv := by
    rw [hv] at hpc'
    exact absurd trivial hpc'
  done hdone := by
    rw [hdone] at hpc'
    exact absurd trivial hpc'

theorem destroyed_setWorker (s : State) (w v : Role) {x : Worker}
    (hx : x.destroyed = (s.worker w).destroyed) :
    ((s.setWorker w x).worker v).destroyed = (s.worker v).destroyed := by
  by_cases hv : v = w
  · rw [hv, State.worker_setWorker_self]
    exact hx
  · rw [State.worker_setWorker_of_ne s hv]

theorem destroyed_destroy (s : State) {w v : Role}
    (h : v = w ∨ (s.worker v).destroyed = true) :
    ((s.setWorker w (s.worker w).destroy).worker v).destroyed = true := by
  by_cases hv : v = w
  · rw [hv, State.worker_setWorker_self]
    rfl
  · rw [State.worker_setWorker_of_ne s hv]
    exact h.resolve_left hv

/-- A step of a thread. -/
theorem Ending.thread {s : State} (h : Ending s) {w : Role} {x : Worker}
    (hx : x.destroyed = (s.worker w).destroyed) : Ending (s.setWorker w x) where
  early ht := by
    obtain ⟨hdestroyed, hnone⟩ := h.early ht
    exact ⟨fun v => (destroyed_setWorker s w v hx).trans (hdestroyed v), hnone⟩
  reported := h.reported
  destroyed v hv := by
    obtain ⟨hdestroyed, hnone⟩ := h.destroyed v hv
    exact ⟨fun u hu => (destroyed_setWorker s w u hx).trans (hdestroyed u hu), hnone⟩
  done hdone := by
    obtain ⟨hdestroyed, hresults⟩ := h.done hdone
    exact ⟨fun v => (destroyed_setWorker s w v hx).trans (hdestroyed v), hresults⟩

theorem not_tearing_afterSpawn (source w : Role) : ¬ (afterSpawn source w).Tearing := by
  cases w <;> exact id

theorem not_tearing_afterJoin (w : Role) : ¬ (afterJoin w).Tearing := by
  cases w <;> exact id

theorem ending_of_step {s s' : State} {l : Label} (hinv : Inv s) (h : Ending s)
    (hs : Step s l s') : Ending s' := by
  cases hs with
  | runAgain hpc _ =>
    obtain ⟨hdestroyed, refused, hresults, hrefused⟩ := h.done hpc
    refine ⟨fun ht => absurd (show s.pc.Tearing by rw [hpc]; trivial) ht, h.reported,
      fun v hv => ?_, fun _ => ⟨hdestroyed, refused ++ [alreadyRun], ?_, ?_⟩⟩
    · rw [hpc] at hv
      cases hv
    · show s.results ++ [alreadyRun] = _
      rw [hresults, List.cons_append]
    · intro status hmem
      rcases List.mem_append.mp hmem with hmem | hmem
      · exact hrefused status hmem
      · exact List.mem_singleton.mp hmem
  | runFailed _ _ hconnect =>
    rw [connect_eq hinv.size] at hconnect
    cases hconnect
  | run hpc _ _ => exact h.of_early (by rw [hpc]; exact id) id (fun _ => rfl) rfl
  | start w hpc =>
    exact h.of_early (by rw [hpc]; exact id) id (fun v => destroyed_setWorker s w v rfl) rfl
  | spawn w hpc =>
    exact h.of_early (by rw [hpc]; exact id) (not_tearing_afterSpawn s.source w)
      (fun v => destroyed_setWorker s w v rfl) rfl
  | completed w hpc _ => exact h.of_early (by rw [hpc]; exact id) id (fun _ => rfl) rfl
  | waiting _ _ => exact h
  | late w hpc _ _ _ =>
    exact h.of_early (by rw [hpc]; exact id) (not_tearing_afterJoin w)
      (fun v => destroyed_setWorker s w v rfl) rfl
  | reclaim w hpc _ =>
    exact h.of_early (by rw [hpc]; exact id) id (fun v => destroyed_setWorker s w v rfl) rfl
  | getStatus w hpc =>
    exact h.of_early (by rw [hpc]; exact id) (not_tearing_afterJoin w) (fun _ => rfl) rfl
  | report hpc =>
    obtain ⟨_, hnone⟩ := h.early (by rw [hpc]; exact id)
    refine ⟨fun ht => absurd trivial ht, fun _ => rfl, ?_, nofun⟩
    rintro v ⟨⟩
    exact ⟨nofun, hnone⟩
  | destroy w hpc hw =>
    obtain ⟨hdestroyed, hnone⟩ := h.destroyed w hpc
    refine ⟨fun ht => absurd (by cases w <;> trivial) ht,
      fun _ => h.reported (by rw [hpc]; trivial), fun v hv => ⟨fun u hu => ?_, hnone⟩, ?_⟩
    · refine destroyed_destroy s ?_
      have hnext : u = w ∨ u ∈ destroyedBefore w := by
        have hv' : afterDestroy w = .destroy v := hv
        revert hu
        cases w <;> cases hv' <;> cases u <;> decide
      exact hnext.imp_right (hdestroyed u)
    · intro hdone
      cases w <;> first | exact absurd rfl hw | cases hdone
  | leave hpc =>
    obtain ⟨hdestroyed, hnone⟩ := h.destroyed .gcsUploader hpc
    refine ⟨fun ht => absurd trivial ht, fun _ => h.reported (by rw [hpc]; trivial), nofun,
      fun _ => ⟨fun v => destroyed_destroy s ?_, [], ?_, nofun⟩⟩
    · cases v with
      | gcsUploader => exact Or.inl rfl
      | localVideoSaver => exact Or.inr (hdestroyed _ (by decide))
      | streamServerSource => exact Or.inr (hdestroyed _ (by decide))
      | gstreamerInputSource => exact Or.inr (hdestroyed _ (by decide))
    · show s.results ++ [s.returnStatus] = [s.returnStatus]
      rw [hnone, List.nil_append]
  | workImpl w status _ => exact h.thread rfl
  | setStatus w status _ => exact h.thread rfl
  | finish w status _ => exact h.thread rfl

theorem ending_of_reachable {options : ExporterOptions} {s : State}
    (h : (system options).Reachable s) : Ending s := by
  refine h.invariant ?_ ?_
  · rintro _ ⟨exporter, _, rfl⟩
    exact ⟨fun _ => ⟨fun _ => rfl, rfl⟩, False.elim, nofun, nofun⟩
  · intro s l s' hr ih hs
    exact ending_of_step (inv_of_reachable hr) ih hs

/-! ### The verdict -/

theorem report_cases (source saver uploader : Status) :
    (report source saver uploader = okStatus ∧
        source.ok = true ∧ saver.ok = true ∧ uploader.ok = true) ∨
      (report source saver uploader = errorStatus ∧
        (source.ok = false ∨ saver.ok = false ∨ uploader.ok = false)) := by
  unfold report
  cases source.ok <;> cases saver.ok <;> cases uploader.ok <;> simp

/-- The worker has returned OK, and was joined in time. -/
def Worker.Succeeded (x : Worker) : Prop :=
  x.late = false ∧ x.joinable = false ∧ ∃ status, x.thread = .ended status ∧ status.ok = true

/-- **What the calls of `Run` return**, the first one and then the others. -/
structure Verdict (s : State) (status : Status) (others : List Status) : Prop where
  results : s.results = status :: others
  others : ∀ other ∈ others, other = alreadyRun
  reports : status = okStatus ∨ status = errorStatus
  ok_iff : status.ok = true ↔ ∀ w ∈ participants s.source, (s.worker w).Succeeded

/-- The status variable of a worker that was joined or given up. -/
theorem Stage.Holds.ok_iff {w : Role} {x : Worker} {status : Status}
    (h : Stage.decided.Holds w x status) : status.ok = true ↔ x.Succeeded := by
  obtain ⟨_, ⟨hlate, hstatus⟩ | ⟨hlate, hjoinable, hended⟩⟩ := h
  · constructor
    · intro hok
      rw [hstatus] at hok
      cases hok
    · intro hsucc
      rw [hsucc.1] at hlate
      cases hlate
  · constructor
    · exact fun hok => ⟨hlate, hjoinable, status, hended, hok⟩
    · rintro ⟨_, _, status', hended', hok⟩
      rw [hended] at hended'
      cases hended'
      exact hok

/-- **The verdict of a run.**  For all options that `Create` accepts, whatever the workers do and in
whatever interleaving: once `Run` has returned, its first call has returned OK exactly if every
worker that took part has returned OK and was joined before its deadline, and an error otherwise;
every later call was refused. -/
theorem verdict_of_done {options : ExporterOptions} {s : State}
    (h : (system options).Reachable s) (hdone : s.pc = .done) :
    ∃ status others, Verdict s status others := by
  have hinv := inv_of_reachable h
  have hend := ending_of_reachable h
  obtain ⟨_, others, hresults, hothers⟩ := hend.done hdone
  have hstatus : s.returnStatus = s.reported := hend.reported (by rw [hdone]; trivial)
  have hdecided : ∀ w ∈ participants s.source,
      ((s.statuses w).ok = true ↔ (s.worker w).Succeeded) := by
    intro w hw
    have hstage := hinv.stage w
    rw [hdone, stageAt, if_pos hw] at hstage
    exact hstage.ok_iff
  refine ⟨s.returnStatus, others, hresults, hothers, ?_, ?_⟩
  · rw [hstatus, State.reported]
    rcases report_cases (s.statuses s.source) (s.statuses .localVideoSaver)
      (s.statuses .gcsUploader) with ⟨h, _⟩ | ⟨h, _⟩
    · exact Or.inl h
    · exact Or.inr h
  · have hall : (∀ w ∈ participants s.source, (s.worker w).Succeeded) ↔
        (s.statuses s.source).ok = true ∧ (s.statuses .localVideoSaver).ok = true ∧
          (s.statuses .gcsUploader).ok = true := by
      constructor
      · intro hsucc
        have hok : ∀ w ∈ participants s.source, (s.statuses w).ok = true :=
          fun w hw => (hdecided w hw).mpr (hsucc w hw)
        exact ⟨hok _ (by simp [participants]), hok _ (by simp [participants]),
          hok _ (by simp [participants])⟩
      · rintro ⟨hsource, hsaver, huploader⟩ w hw
        refine (hdecided w hw).mp ?_
        rcases List.mem_cons.mp hw with rfl | hw
        · exact huploader
        · rcases List.mem_cons.mp hw with rfl | hw
          · exact hsaver
          · rw [List.mem_singleton.mp hw]
            exact hsource
    rw [hall, hstatus, State.reported]
    rcases report_cases (s.statuses s.source) (s.statuses .localVideoSaver)
      (s.statuses .gcsUploader) with ⟨h, hok⟩ | ⟨h, hok⟩
    · rw [h]
      exact ⟨fun _ => hok, fun _ => rfl⟩
    · rw [h]
      constructor
      · exact nofun
      · rintro ⟨h₁, h₂, h₃⟩
        rcases hok with hok | hok | hok
        · exact absurd h₁ (by rw [hok]; exact nofun)
        · exact absurd h₂ (by rw [hok]; exact nofun)
        · exact absurd h₃ (by rw [hok]; exact nofun)

/-! ### Coming to the end -/

/-- The steps of all but the thread of `w`. -/
def without (w : Role) (options : ExporterOptions) : System State Label :=
  (system options).restrict fun _ l _ => l ≠ .thread w

section Progress

variable {options : ExporterOptions} {w : Role}

/-- `Run` can come to its end without a step of the thread of `w`. -/
def CanLeave (options : ExporterOptions) (w : Role) (s : State) : Prop :=
  (without w options).CanReach (fun t => t.pc = .done) s

theorem canLeave_step {s s' : State} {l : Label} (hs : Step s l s') (hl : l ≠ .thread w)
    (h : CanLeave options w s') : CanLeave options w s := .step ⟨hs, hl⟩ h

theorem canLeave_of_destroy {s : State} {v : Role} (hpc : s.pc = .destroy v) :
    CanLeave options w s := by
  have huploader : ∀ {s : State}, s.pc = .destroy .gcsUploader → CanLeave options w s :=
    fun hpc => canLeave_step (.leave hpc) nofun (.here rfl)
  have hsaver : ∀ {s : State}, s.pc = .destroy .localVideoSaver → CanLeave options w s :=
    fun hpc => canLeave_step (.destroy _ hpc nofun) nofun (huploader rfl)
  have hserver : ∀ {s : State}, s.pc = .destroy .streamServerSource → CanLeave options w s :=
    fun hpc => canLeave_step (.destroy _ hpc nofun) nofun (hsaver rfl)
  cases v with
  | gcsUploader => exact huploader hpc
  | localVideoSaver => exact hsaver hpc
  | streamServerSource => exact hserver hpc
  | gstreamerInputSource => exact canLeave_step (.destroy _ hpc nofun) nofun (hserver rfl)

theorem canLeave_of_report {s : State} (hpc : s.pc = .report) : CanLeave options w s :=
  canLeave_step (.report hpc) nofun (canLeave_of_destroy rfl)

/-- What the caller can do from a place, for every state of a run. -/
def LeavesFrom (options : ExporterOptions) (w source : Role) (pc : Pc) : Prop :=
  ∀ s : State, (system options).Reachable s → s.source = source → s.pc = pc → CanLeave options w s

variable {source : Role}

theorem leavesFrom_getStatus {v : Role} (hnext : LeavesFrom options w source (afterJoin v)) :
    LeavesFrom options w source (.getStatus v) := by
  intro s hr hsource hpc
  have hstep := Step.getStatus v hpc
  exact canLeave_step hstep nofun (hnext _ (hr.step hstep) hsource rfl)

/-- A worker that was found completed has ended its thread. -/
theorem leavesFrom_reclaim {v : Role} (hnext : LeavesFrom options w source (afterJoin v)) :
    LeavesFrom options w source (.reclaim v) := by
  intro s hr hsource hpc
  have hstage := (inv_of_reachable hr).stage v
  rw [hpc, stageAt, if_pos rfl] at hstage
  have hstep := Step.reclaim v hpc fun _ => hstage.1.completed.mp hstage.2.2
  exact canLeave_step hstep nofun (leavesFrom_getStatus hnext _ (hr.step hstep) hsource rfl)

/-- A `Join` with a deadline comes to an end in any case. -/
theorem leavesFrom_join (hfinite : options.finalizationDeadline ≠ .infinite) {v : Role}
    (hv : v ≠ source) (hnext : LeavesFrom options w source (afterJoin v)) :
    LeavesFrom options w source (.join v) := by
  intro s hr hsource hpc
  cases hcompleted : (s.worker v).signal.isCompleted with
  | true =>
    have hstep := Step.completed v hpc hcompleted
    exact canLeave_step hstep nofun (leavesFrom_reclaim hnext _ (hr.step hstep) hsource rfl)
  | false =>
    have hstep := Step.late v hpc (by rw [hsource]; exact hv) hcompleted
      (by rw [options_of_reachable hr]; exact hfinite)
    exact canLeave_step hstep nofun (hnext _ (hr.step hstep) hsource rfl)

/-- The `Join` of the source waits for its thread, which can end. -/
theorem leavesFrom_joinSource (hw : w ≠ source)
    (hnext : LeavesFrom options w source (afterJoin source)) :
    LeavesFrom options w source (.join source) := by
  have hlabel : Label.thread source ≠ .thread w := fun h => hw (Label.thread.inj h).symm
  have hended : ∀ s : State, (system options).Reachable s → s.source = source →
      s.pc = .join source → (∃ status, (s.worker source).thread = .ended status) →
      CanLeave options w s := by
    intro s hr hsource hpc hthread
    have hmem : source ∈ participants s.source := by
      rw [hsource]
      simp [participants]
    have hstage := (inv_of_reachable hr).stage source
    rw [hpc, (stageAt_before s.source_cases hmem).2] at hstage
    have hstep := Step.completed source hpc (hstage.1.completed.mpr hthread)
    exact canLeave_step hstep nofun (leavesFrom_reclaim hnext _ (hr.step hstep) hsource rfl)
  have hstatusSet : ∀ s : State, (system options).Reachable s → s.source = source →
      s.pc = .join source → (∃ status, (s.worker source).thread = .statusSet status) →
      CanLeave options w s := by
    rintro s hr hsource hpc ⟨status, hthread⟩
    have hstep := Step.finish source status hthread
    refine canLeave_step hstep hlabel (hended _ (hr.step hstep) hsource hpc ⟨status, ?_⟩)
    rw [State.worker_setWorker_self]
  have hreturned : ∀ s : State, (system options).Reachable s → s.source = source →
      s.pc = .join source → (∃ status, (s.worker source).thread = .returned status) →
      CanLeave options w s := by
    rintro s hr hsource hpc ⟨status, hthread⟩
    have hstep := Step.setStatus source status hthread
    refine canLeave_step hstep hlabel (hstatusSet _ (hr.step hstep) hsource hpc ⟨status, ?_⟩)
    rw [State.worker_setWorker_self]
  intro s hr hsource hpc
  cases hthread : (s.worker source).thread with
  | none =>
    have hmem : source ∈ participants s.source := by
      rw [hsource]
      simp [participants]
    have hstage := (inv_of_reachable hr).stage source
    rw [hpc, (stageAt_before s.source_cases hmem).2] at hstage
    exact absurd hthread hstage.1.spawned
  | working =>
    have hstep := Step.workImpl source okStatus hthread
    refine canLeave_step hstep hlabel (hreturned _ (hr.step hstep) hsource hpc ⟨okStatus, ?_⟩)
    rw [State.worker_setWorker_self]
  | returned status => exact hreturned s hr hsource hpc ⟨status, hthread⟩
  | statusSet status => exact hstatusSet s hr hsource hpc ⟨status, hthread⟩
  | ended status => exact hended s hr hsource hpc ⟨status, hthread⟩

theorem leavesFrom_spawn {v : Role} (hnext : LeavesFrom options w source (afterSpawn source v)) :
    LeavesFrom options w source (.spawn v) := by
  intro s hr hsource hpc
  have hstep := Step.spawn v hpc
  refine canLeave_step hstep nofun (hnext _ (hr.step hstep) hsource ?_)
  rw [← hsource]

theorem leavesFrom_start {v : Role} (hnext : LeavesFrom options w source (afterSpawn source v)) :
    LeavesFrom options w source (.start v) := by
  intro s hr hsource hpc
  have hstep := Step.start v hpc
  exact canLeave_step hstep nofun (leavesFrom_spawn hnext _ (hr.step hstep) hsource rfl)

/-- **`Run` can always come to its end**, the thread of one of the two workers that are joined by a
finite deadline standing still. -/
theorem canLeave_of_reachable (hfinite : options.finalizationDeadline ≠ .infinite) {s : State}
    (hr : (system options).Reachable s) (hw : w ≠ s.source) : CanLeave options w s := by
  have hsource := s.source_cases
  have huploader : LeavesFrom options w s.source (.join .gcsUploader) :=
    leavesFrom_join hfinite (by rcases hsource with h | h <;> rw [h] <;> decide)
      fun _ _ _ => canLeave_of_report
  have hsaver : LeavesFrom options w s.source (.join .localVideoSaver) :=
    leavesFrom_join hfinite (by rcases hsource with h | h <;> rw [h] <;> decide) huploader
  have hafter : afterJoin s.source = .join .localVideoSaver := by
    rcases hsource with h | h <;> rw [h] <;> rfl
  have hjoin : LeavesFrom options w s.source (.join s.source) :=
    leavesFrom_joinSource hw (by rw [hafter]; exact hsaver)
  have hspawned : afterSpawn s.source s.source = .join s.source := by
    rcases hsource with h | h <;> rw [h] <;> rfl
  have hstartSource : LeavesFrom options w s.source (.start s.source) :=
    leavesFrom_start (by rw [hspawned]; exact hjoin)
  have hstartSaver : LeavesFrom options w s.source (.start .localVideoSaver) :=
    leavesFrom_start hstartSource
  have hstart : LeavesFrom options w s.source (.start .gcsUploader) := leavesFrom_start hstartSaver
  have hinv := inv_of_reachable hr
  -- the worker that the caller is concerned with takes part
  have hrole : ∀ v, s.pc.role = some v →
      v = .gcsUploader ∨ v = .localVideoSaver ∨ v = s.source := by
    intro v hv
    have hmem := hinv.role v hv
    simpa [participants] using hmem
  cases hpc : s.pc with
  | idle =>
    have hrun : s.exporter.hasBeenRun = false := by
      by_contra hrun
      exact hinv.hasBeenRun.mp (Bool.of_not_eq_false hrun) hpc
    have hstep := Step.run hpc hrun (connect_eq hinv.size)
    exact canLeave_step hstep nofun (hstart _ (hr.step hstep) rfl rfl)
  | start v =>
    rcases hrole v (by rw [hpc]; rfl) with rfl | rfl | rfl
    · exact hstart s hr rfl hpc
    · exact hstartSaver s hr rfl hpc
    · exact hstartSource s hr rfl hpc
  | spawn v =>
    rcases hrole v (by rw [hpc]; rfl) with rfl | rfl | rfl
    · exact leavesFrom_spawn hstartSaver s hr rfl hpc
    · exact leavesFrom_spawn hstartSource s hr rfl hpc
    · exact leavesFrom_spawn (by rw [hspawned]; exact hjoin) s hr rfl hpc
  | join v =>
    rcases hrole v (by rw [hpc]; rfl) with rfl | rfl | rfl
    · exact huploader s hr rfl hpc
    · exact hsaver s hr rfl hpc
    · exact hjoin s hr rfl hpc
  | reclaim v =>
    rcases hrole v (by rw [hpc]; rfl) with rfl | rfl | rfl
    · exact leavesFrom_reclaim (v := .gcsUploader) (fun _ _ _ => canLeave_of_report) s hr rfl hpc
    · exact leavesFrom_reclaim huploader s hr rfl hpc
    · exact leavesFrom_reclaim (by rw [hafter]; exact hsaver) s hr rfl hpc
  | getStatus v =>
    rcases hrole v (by rw [hpc]; rfl) with rfl | rfl | rfl
    · exact leavesFrom_getStatus (v := .gcsUploader) (fun _ _ _ => canLeave_of_report) s hr rfl hpc
    · exact leavesFrom_getStatus huploader s hr rfl hpc
    · exact leavesFrom_getStatus (by rw [hafter]; exact hsaver) s hr rfl hpc
  | report => exact canLeave_of_report hpc
  | destroy v => exact canLeave_of_destroy hpc
  | done => exact .here hpc

end Progress

/-- A run of an exporter with the default options comes to its end, and has a verdict. -/
theorem verdict_of_done_default : ∃ s : State, (system {}).Reachable s ∧ s.pc = .done ∧
    ∃ status others, Verdict s status others := by
  have hinit : (system {}).Reachable (initial ⟨{}, false⟩) := .init ⟨_, rfl, rfl⟩
  have hleave := (canLeave_of_reachable (w := .gcsUploader) (by decide) hinit nofun).of_restrict
  obtain ⟨s, hdone, hr⟩ :=
    (hleave.and_invariant (fun _ _ _ hr hs => System.Reachable.step hr hs) hinit).exists
  exact ⟨s, hr, hdone, verdict_of_done hr hdone⟩

/-! ### Threads that outlive their workers -/

/-- The worker is gone, and its thread is still to use it. -/
def Outlives (w : Role) (s : State) : Prop :=
  (s.worker w).destroyed = true ∧ (s.worker w).thread.Live

/-- A worker comes to its end after the report. -/
theorem tearing_of_destroyed {options : ExporterOptions} {s : State}
    (h : (system options).Reachable s) {w : Role} (hw : (s.worker w).destroyed = true) :
    s.pc.Tearing := by
  by_contra hearly
  have hnot := ((ending_of_reachable h).early hearly).1 w
  rw [hw] at hnot
  cases hnot

/-- **Only a worker whose `Join` ran out of time** is outlived by its thread. -/
theorem late_of_outlives {options : ExporterOptions} {s : State}
    (h : (system options).Reachable s) {w : Role} (hw : Outlives w s) :
    (s.worker w).late = true := by
  have hstage := (inv_of_reachable h).stage w
  obtain ⟨_, ⟨hspawned, _⟩ | ⟨_, hlate, _⟩⟩ := hstage.of_live hw.2
  · have htearing := tearing_of_destroyed h hw.1
    cases hpc : s.pc with
    | destroy v =>
      rw [hpc, stageAt] at hspawned
      split at hspawned <;> cases hspawned
    | done =>
      rw [hpc, stageAt] at hspawned
      split at hspawned <;> cases hspawned
    | idle => rw [hpc] at htearing; exact htearing.elim
    | start v => rw [hpc] at htearing; exact htearing.elim
    | spawn v => rw [hpc] at htearing; exact htearing.elim
    | join v => rw [hpc] at htearing; exact htearing.elim
    | reclaim v => rw [hpc] at htearing; exact htearing.elim
    | getStatus v => rw [hpc] at htearing; exact htearing.elim
    | report => rw [hpc] at htearing; exact htearing.elim
  · exact hlate

/-- The threads that a step leaves alone. -/
theorem thread_of_step {s s' : State} {l : Label} (hs : Step s l s') (w : Role) :
    (s'.worker w).thread = (s.worker w).thread ∨ l = .thread w ∨
      (s.pc = .spawn w ∧ (s'.worker w).thread = .working) := by
  have hkeep : ∀ (v : Role) (x : Worker), x.thread = (s.worker v).thread →
      ((s.setWorker v x).worker w).thread = (s.worker w).thread := by
    intro v x hx
    by_cases hv : w = v
    · rw [hv, State.worker_setWorker_self]
      exact hx
    · rw [State.worker_setWorker_of_ne s hv]
  have hother : ∀ (v : Role) (x : Worker), ((s.setWorker v x).worker w).thread =
      (s.worker w).thread ∨ Label.thread v = .thread w := by
    intro v x
    by_cases hv : w = v
    · exact Or.inr (by rw [hv])
    · exact Or.inl (by rw [State.worker_setWorker_of_ne s hv])
  cases hs with
  | runAgain _ _ => exact Or.inl rfl
  | runFailed _ _ _ => exact Or.inl rfl
  | run _ _ _ => exact Or.inl rfl
  | start v _ => exact Or.inl (hkeep v _ rfl)
  | spawn v hpc =>
    by_cases hv : w = v
    · subst hv
      refine Or.inr (Or.inr ⟨hpc, ?_⟩)
      show ((s.setWorker w _).worker w).thread = _
      rw [State.worker_setWorker_self]
    · exact Or.inl (congrArg Worker.thread (State.worker_setWorker_of_ne s hv _))
  | completed _ _ _ => exact Or.inl rfl
  | waiting _ _ => exact Or.inl rfl
  | late v _ _ _ _ => exact Or.inl (hkeep v _ rfl)
  | reclaim v _ _ => exact Or.inl (hkeep v _ rfl)
  | getStatus _ _ => exact Or.inl rfl
  | report _ => exact Or.inl rfl
  | destroy v _ _ => exact Or.inl (hkeep v _ rfl)
  | leave _ => exact Or.inl (hkeep .gcsUploader _ rfl)
  | workImpl v _ _ => exact (hother v _).imp_right Or.inl
  | setStatus v _ _ => exact (hother v _).imp_right Or.inl
  | finish v _ _ => exact (hother v _).imp_right Or.inl

/-- A worker that is late is joined by a deadline. -/
theorem mem_of_late {options : ExporterOptions} {s : State} (h : (system options).Reachable s)
    {w : Role} (hw : (s.worker w).late = true) : options.finalizationDeadline ≠ .infinite ∧
      (w = .localVideoSaver ∨ w = .gcsUploader) := by
  revert hw
  refine h.invariant (I := fun s => (s.worker w).late = true →
    options.finalizationDeadline ≠ .infinite ∧ (w = .localVideoSaver ∨ w = .gcsUploader)) ?_ ?_
  · rintro _ ⟨exporter, _, rfl⟩
    exact nofun
  · intro s l s' hr ih hs
    have hkeep : ∀ (v : Role) (x : Worker), x.late = (s.worker v).late →
        ((s.setWorker v x).worker w).late = true →
          options.finalizationDeadline ≠ .infinite ∧
            (w = .localVideoSaver ∨ w = .gcsUploader) := by
      intro v x hx hlate
      by_cases hv : w = v
      · rw [hv, State.worker_setWorker_self, hx, ← hv] at hlate
        exact ih hlate
      · rw [State.worker_setWorker_of_ne s hv] at hlate
        exact ih hlate
    cases hs with
    | runAgain _ _ => exact ih
    | runFailed _ _ _ => exact ih
    | run _ _ _ => exact ih
    | start v _ => exact hkeep v _ rfl
    | spawn v _ => exact hkeep v _ rfl
    | completed _ _ _ => exact ih
    | waiting _ _ => exact ih
    | late v hpc hv _ hfinite =>
      rw [options_of_reachable hr] at hfinite
      intro hlate
      by_cases hwv : w = v
      · refine ⟨hfinite, ?_⟩
        have hmem := (inv_of_reachable hr).role v (by rw [hpc]; rfl)
        rcases List.mem_cons.mp hmem with he | hmem
        · exact Or.inr (hwv.trans he)
        · rcases List.mem_cons.mp hmem with he | hmem
          · exact Or.inl (hwv.trans he)
          · exact absurd (List.mem_singleton.mp hmem) hv
      · have hsame := State.worker_setWorker_of_ne s hwv { s.worker v with late := true }
        exact ih ((congrArg Worker.late hsame).symm.trans hlate)
    | reclaim v _ _ => exact hkeep v _ rfl
    | getStatus _ _ => exact ih
    | report _ => exact ih
    | destroy v _ _ => exact hkeep v _ rfl
    | leave _ => exact hkeep .gcsUploader _ rfl
    | workImpl v _ _ => exact hkeep v _ rfl
    | setStatus v _ _ => exact hkeep v _ rfl
    | finish v _ _ => exact hkeep v _ rfl

/-- A thread that has ended stays so. -/
theorem ended_of_step {options : ExporterOptions} {s s' : State} {l : Label}
    (hr : (system options).Reachable s) (hs : Step s l s') {w : Role}
    (hended : ∃ status, (s.worker w).thread = .ended status) :
    ∃ status, (s'.worker w).thread = .ended status := by
  obtain ⟨status, hthread⟩ := hended
  rcases thread_of_step hs w with hsame | rfl | ⟨hpc, _⟩
  · exact ⟨status, hsame.trans hthread⟩
  · cases hs with
    | workImpl _ _ ht => cases ht.symm.trans hthread
    | setStatus _ _ ht => cases ht.symm.trans hthread
    | finish _ _ ht => cases ht.symm.trans hthread
  · have hstage := (inv_of_reachable hr).stage w
    rw [hpc, stageAt, if_pos rfl] at hstage
    cases hstage.1.symm.trans hthread

/-- **When a thread can come to outlive its worker**: with a finite finalization deadline that of
the saver and that of the uploader, at any time before it has ended; that of a source never, and
with an infinite deadline none. -/
theorem canReach_outlives_iff {options : ExporterOptions} {s : State}
    (h : (system options).Reachable s) (w : Role) :
    (system options).CanReach (Outlives w) s ↔
      (options.finalizationDeadline ≠ .infinite ∧ (w = .localVideoSaver ∨ w = .gcsUploader)) ∧
        ∀ status, (s.worker w).thread ≠ .ended status := by
  have hreach : ∀ t l t', (system options).Reachable t → (system options).step t l t' →
      (system options).Reachable t' := fun _ _ _ hr hs => hr.step hs
  constructor
  · intro hcan
    refine ⟨?_, fun status hended => ?_⟩
    · obtain ⟨t, houtlives, hr⟩ := (hcan.and_invariant hreach h).exists
      exact mem_of_late hr (late_of_outlives hr houtlives)
    · refine System.not_canReach_of_trap (T := fun t => (system options).Reachable t ∧
        ∃ status, (t.worker w).thread = .ended status) ?_ ?_ ⟨h, status, hended⟩ hcan
      · rintro t l t' ⟨hr, hended⟩ hs
        exact ⟨hr.step hs, ended_of_step hr hs hended⟩
      · rintro t ⟨_, status, hended⟩ ⟨_, hlive⟩
        rw [hended] at hlive
        exact hlive
  · rintro ⟨⟨hfinite, hw⟩, hrunning⟩
    have hne : w ≠ s.source := by
      rcases s.source_cases with hs | hs <;> rcases hw with rfl | rfl <;> rw [hs] <;> decide
    have hcan := (canLeave_of_reachable hfinite h hne).and_invariant
      (I := fun t => (system options).Reachable t ∧
        ∀ status, (t.worker w).thread ≠ .ended status) ?_ ⟨h, hrunning⟩
    · refine (hcan.mono ?_).of_restrict
      rintro t ⟨hdone, hr, hrunning⟩
      refine ⟨((ending_of_reachable hr).done hdone).1 w, ?_⟩
      have hmem : w ∈ participants t.source := by
        rcases hw with rfl | rfl <;> simp [participants]
      have hstage := (inv_of_reachable hr).stage w
      rw [hdone, stageAt, if_pos hmem] at hstage
      cases hthread : (t.worker w).thread with
      | none => exact hstage.1.spawned hthread
      | working => trivial
      | returned status => trivial
      | statusSet status => trivial
      | ended status => exact hrunning status hthread
    · rintro t l t' ⟨hr, hrunning⟩ ⟨hs, hl⟩
      refine ⟨hr.step hs, fun status hended => ?_⟩
      rcases thread_of_step hs w with hsame | hthread | ⟨_, hworking⟩
      · exact hrunning status (hsame.symm.trans hended)
      · exact hl hthread
      · cases hworking.symm.trans hended

/-- As soon as `Run` is called, the thread of the saver can come to outlive it. -/
theorem canReach_outlives_iff_initial :
    (system {}).CanReach (Outlives .localVideoSaver) (initial ⟨{}, false⟩) :=
  (canReach_outlives_iff (.init ⟨_, rfl, rfl⟩) .localVideoSaver).mpr
    ⟨⟨by decide, Or.inl rfl⟩, nofun⟩

/-- **After an OK `Run` no thread is left**: each one that was started has been joined. -/
theorem joined_of_ok {options : ExporterOptions} {s : State} (h : (system options).Reachable s)
    {status : Status} {others : List Status} (hv : Verdict s status others)
    (hok : status.ok = true) (w : Role) :
    ¬ Outlives w s ∧ (w ∈ participants s.source → (s.worker w).joinable = false ∧
      ∃ status, (s.worker w).thread = .ended status) := by
  have hsucc := hv.ok_iff.mp hok
  refine ⟨fun houtlives => ?_, fun hw => ?_⟩
  · have hlate := late_of_outlives h houtlives
    have hmem : w ∈ participants s.source := by
      rcases (mem_of_late h hlate).2 with rfl | rfl <;> simp [participants]
    rw [(hsucc w hmem).1] at hlate
    cases hlate
  · obtain ⟨_, hjoinable, status, hended, _⟩ := hsucc w hw
    exact ⟨hjoinable, status, hended⟩

end ExporterRun

end AIStreams
