import AIStreams.Gstreamer.Channel
import AIStreams.Gstreamer.TypeUtils

/-!
# The local video saver

`LocalVideoSaver` of `aistreams/gstreamer/gstreamer_video_exporter.cc`, and
`aistreams/gstreamer/gstreamer_video_writer.cc`.  One poll of the input channel is one step;
what the file system, GStreamer, the clock and the downstream worker answer is asked of an
environment, call by call.
-/

namespace AIStreams

/-! ### `GstreamerVideoWriter` -/

/-- The options of a `GstreamerRunner` that a video writer sets. -/
structure GstreamerRunnerOptions where
  appsrcCapsString : Bytes
  processingPipelineString : String

structure GstreamerVideoWriter.Options where
  filePath : String
  capsString : Bytes

/-- A video writer, with the buffers that its runner was fed. -/
structure GstreamerVideoWriter where
  options : GstreamerVideoWriter.Options
  frames : List GstreamerBuffer

namespace GstreamerVideoWriter

def validateOptions (options : Options) : Status :=
  if options.filePath = "" then
    invalidArgumentError "You must supply the name of the output video file"
  else if options.capsString = [] then
    invalidArgumentError
      "You must supply the expected caps string of the incoming gstreamer buffers"
  else okStatus

def assembleGstreamerPipeline (options : Options) : String :=
  " ! ".intercalate
    ["decodebin", "videoconvert", "x264enc", "mp4mux", "filesink location=" ++ options.filePath]

/-- `Create`; `runner` is the status of `GstreamerRunner::Create`. -/
def create (runner : GstreamerRunnerOptions → Status) (options : Options) :
    StatusOr GstreamerVideoWriter :=
  if (validateOptions options).ok = false then .ofStatus (validateOptions options)
  else if (runner ⟨options.capsString, assembleGstreamerPipeline options⟩).ok = false then
    .ofStatus (internalError "Failed to Initialize the GstreamerVideoWriter")
  else .value ⟨options, []⟩

/-- `Put`; `feed` is the status of the runner's `Feed`. -/
def put (w : GstreamerVideoWriter) (feed : Status) (buffer : GstreamerBuffer) :
    Status × GstreamerVideoWriter :=
  (feed, if feed.ok then { w with frames := w.frames ++ [buffer] } else w)

section Create

variable {runner : GstreamerRunnerOptions → Status} {options : Options}

theorem validateOptions_eq (hpath : options.filePath ≠ "") (hcaps : options.capsString ≠ []) :
    validateOptions options = okStatus := by
  rw [validateOptions, if_neg hpath, if_neg hcaps]

/-- For a path and caps that are not empty, the runner decides whether there is a writer. -/
theorem create_of_ok (hpath : options.filePath ≠ "") (hcaps : options.capsString ≠ [])
    (hrunner : (runner ⟨options.capsString, assembleGstreamerPipeline options⟩).ok = true) :
    create runner options = .value ⟨options, []⟩ := by
  rw [create, validateOptions_eq hpath hcaps, if_neg (by simp), if_neg (by simp [hrunner])]

theorem create_of_error (hpath : options.filePath ≠ "") (hcaps : options.capsString ≠ [])
    (hrunner : (runner ⟨options.capsString, assembleGstreamerPipeline options⟩).ok = false) :
    create runner options =
      .ofStatus (internalError "Failed to Initialize the GstreamerVideoWriter") := by
  rw [create, validateOptions_eq hpath hcaps, if_neg (by simp), if_pos hrunner]

end Create

end GstreamerVideoWriter

namespace LocalVideoSaver

/-! ### The program -/

structure Options where
  filePrefix : String
  outputDir : String
  maxFramesPerFile : Int32
  forwardFilePaths : Bool

/-- The worker: its name and options, and the channels that were attached to it. -/
structure Worker where
  name : String
  options : Options
  inChannel : Option Channel
  outChannel : Option Channel

/-- What is asked of the world outside, the `n`-th call of each kind. -/
structure Env where
  sessionString : String
  timeString : ℕ → String
  createRunner : ℕ → GstreamerRunnerOptions → Status
  feed : ℕ → Status
  isDstCompleted : ℕ → Bool
  tryEmplace : ℕ → Bool

/-- The variables of `WorkImpl`, and then what it has done: the values it popped, the files
it flushed, the paths it removed, what the output channel accepted, and how often it has
asked for a writer, a `Put`, the downstream worker and a place in the channel. -/
structure State where
  videoWriter : Option GstreamerVideoWriter
  outputVideoFilePath : String
  imageIndex : ℕ
  startNewFile : Bool
  returnStatus : Status
  outcome : Outcome
  popped : List (StatusOr RawImage)
  written : List GstreamerVideoWriter
  removed : List String
  forwarded : List (StatusOr String)
  opened : ℕ
  puts : ℕ
  dstChecks : ℕ
  emplaced : ℕ

def initial : State where
  videoWriter := none
  outputVideoFilePath := ""
  imageIndex := 0
  startNewFile := true
  returnStatus := okStatus
  outcome := .running
  popped := []
  written := []
  removed := []
  forwarded := []
  opened := 0
  puts := 0
  dstChecks := 0
  emplaced := 0

def validatePreconditions (w : Worker) : Status :=
  if w.options.maxFramesPerFile ≤ 0 then
    invalidArgumentError (w.name ++
      ": A positive value for the maximum frame count is expected (given " ++
        toString w.options.maxFramesPerFile ++ ")")
  else
    match w.inChannel with
    | none =>
      failedPreconditionError (w.name ++ ": No input channel found; please Attach() one.")
    | some input =>
      if input.hasSrc = false then
        internalError (w.name ++ ": The input channel has no source.")
      else if w.options.forwardFilePaths then
        match w.outChannel with
        | none =>
          failedPreconditionError (w.name ++ ": No output channel found; please Attach() one.")
        | some output =>
          if output.hasDst = false then
            internalError (w.name ++ ": The output channel has no destination.")
          else okStatus
      else okStatus

/-- `GenerateVideoFilePath`, for the `n`-th time. -/
def generateVideoFilePath (env : Env) (options : Options) (n : ℕ) : String :=
  let components :=
    (if options.filePrefix = "" then [] else [options.filePrefix]) ++
      [env.sessionString, env.timeString n]
  let fileName := "-".intercalate components ++ ".mp4"
  if options.outputDir = "" then fileName else options.outputDir ++ "/" ++ fileName

section Program

variable (env : Env) (w : Worker)

/-- The file is opened when the first frame is there. -/
def openVideoWriter (capsString : Bytes) (s : State) : State :=
  match s.videoWriter with
  | some _ => s
  | none =>
    let n := s.opened
    let path := generateVideoFilePath env w.options n
    let s := { s with outputVideoFilePath := path, opened := n + 1 }
    match GstreamerVideoWriter.create (env.createRunner n) ⟨path, capsString⟩ with
    | .error status _ =>
      { s with
        returnStatus := internalError ("Failed to create a new video writer: " ++ status.message) }
    | .value writer => { s with videoWriter := some writer }

def putFrame (buffer : GstreamerBuffer) (s : State) : State :=
  match s.videoWriter with
  | none => s
  | some writer =>
    let (status, writer) := writer.put (env.feed s.puts) buffer
    let s := { s with videoWriter := some writer, puts := s.puts + 1 }
    if status.ok = false then
      { s with returnStatus := unknownError ("Failed to write a raw image: " ++ status.message) }
    else s

/-- What follows the loops: the EOS for the downstream worker, and the return. -/
def cleanup (s : State) : State :=
  let s :=
    if w.options.forwardFilePaths then
      { s with
        forwarded := s.forwarded ++
          if env.tryEmplace s.emplaced then [.ofStatus (notFoundError "Reached EOS.")] else []
        emplaced := s.emplaced + 1 }
    else s
  { s with outcome := .returned s.returnStatus }

def flush (s : State) : State :=
  { s with videoWriter := none, written := s.written ++ s.videoWriter.toList }

/-- Forward the video path if downstream is still running. -/
def forward (s : State) : State :=
  let s' := { s with dstChecks := s.dstChecks + 1 }
  if env.isDstCompleted s.dstChecks = false then
    { s' with
      forwarded := s.forwarded ++
        if env.tryEmplace s.emplaced then [.value s.outputVideoFilePath] else []
      emplaced := s.emplaced + 1 }
  else { s' with startNewFile := false }

/-- Remove the file of a round that failed, or pass it on. -/
def settle (s : State) : State :=
  if s.returnStatus.ok = false then
    { s with removed := s.removed ++ [s.outputVideoFilePath], startNewFile := false }
  else if w.options.forwardFilePaths then forward env s
  else s

/-- What follows the inner loop. -/
def endRound (s : State) : State :=
  let s := settle env w (flush s)
  if s.startNewFile then { s with videoWriter := none, outputVideoFilePath := "", imageIndex := 0 }
  else cleanup env w s

/-- The inner loop's end: the next image, or the next file. -/
def nextImage (s : State) : State :=
  let s := { s with imageIndex := s.imageIndex + 1 }
  if (s.imageIndex : ℤ) < w.options.maxFramesPerFile.toInt then s else endRound env w s

def writeFrame (buffer : GstreamerBuffer) (s : State) : State :=
  let s := openVideoWriter env w buffer.caps s
  let s := if s.returnStatus.ok = false then s else putFrame env buffer s
  if s.returnStatus.ok = false then endRound env w s else nextImage env w s

/-- What the inner loop does with a value of `raw_image_statusor`. -/
def receive (v : StatusOr RawImage) (s : State) : State :=
  if v.status.code = .kNotFound then endRound env w { s with startNewFile := false }
  else
    match v.valueOrDie with
    | .error e => { s with outcome := .crashed e }
    | .ok rawImage =>
      match toGstreamerBuffer rawImage with
      | .error e => { s with outcome := .crashed e }
      | .ok (.error status _) =>
        endRound env w { s with
          returnStatus := unknownError
            ("Could not convert a raw image into a gstreamer buffer: " ++ status.message) }
      | .ok (.value buffer) => writeFrame env w buffer s

/-- What a source that has completed counts as. -/
def srcCompletedValue : StatusOr RawImage :=
  .ofStatus (notFoundError "The image source completed without delivering an EOS.")

/-- One turn of the receive loop. -/
def poll (p : Poll RawImage) (s : State) : State :=
  if s.outcome = .running then
    match p with
    | .popped v => receive env w v { s with popped := s.popped ++ [v] }
    | .timedOut true => receive env w srcCompletedValue s
    | .timedOut false => s
  else s

def run (polls : List (Poll RawImage)) (s : State) : State :=
  polls.foldl (fun s p => poll env w p s) s

def workImpl (polls : List (Poll RawImage)) : State :=
  if (validatePreconditions w).ok = false then
    { initial with outcome := .returned (validatePreconditions w) }
  else run env w polls initial

end Program

/-! ### The rounds of an undisturbed run -/

/-- The buffer of a value that `ToGstreamerBuffer` converts. -/
def converted : StatusOr RawImage → Option GstreamerBuffer
  | .error _ _ => none
  | .value rawImage =>
    match toGstreamerBuffer rawImage with
    | .ok (.value buffer) => some buffer
    | _ => none

/-- No writer error, and a downstream worker that keeps running. -/
structure Env.Quiet (env : Env) : Prop where
  createRunner : ∀ n o, (env.createRunner n o).ok = true
  feed : ∀ n, (env.feed n).ok = true
  isDstCompleted : ∀ n, env.isDstCompleted n = false

def Worker.maxFrames (w : Worker) : ℕ := w.options.maxFramesPerFile.toInt.toNat

/-- The file of the current round: none before its first frame. -/
def CurrentFile (s : State) : Prop :=
  match s.videoWriter with
  | none => s.imageIndex = 0 ∧ s.outputVideoFilePath = ""
  | some f =>
    0 < s.imageIndex ∧ f.frames.length = s.imageIndex ∧
      f.options.filePath = s.outputVideoFilePath ∧ f.options.filePath ≠ ""

theorem CurrentFile.path_of_zero {s : State} (h : CurrentFile s) (hzero : s.imageIndex = 0) :
    s.outputVideoFilePath = "" := by
  unfold CurrentFile at h
  split at h
  · exact h.2
  · omega

theorem CurrentFile.file_of_ne_zero {s : State} (h : CurrentFile s) (hne : s.imageIndex ≠ 0) :
    ∃ f, s.videoWriter = some f ∧ 0 < s.imageIndex ∧ f.frames.length = s.imageIndex ∧
      f.options.filePath = s.outputVideoFilePath ∧ f.options.filePath ≠ "" := by
  unfold CurrentFile at h
  split at h
  · exact absurd h.1 hne
  · rename_i f hf
    exact ⟨f, hf, h⟩

theorem converted_eq_some {v : StatusOr RawImage} {buffer : GstreamerBuffer}
    (h : converted v = some buffer) :
    ∃ rawImage, v = .value rawImage ∧ toGstreamerBuffer rawImage = .ok (.value buffer) := by
  cases v with
  | error status hs => cases h
  | value rawImage =>
    refine ⟨rawImage, rfl, ?_⟩
    cases hr : toGstreamerBuffer rawImage with
    | error e => simp [converted, hr] at h
    | ok r =>
      cases r with
      | error status hs => simp [converted, hr] at h
      | value b =>
        simp only [converted, hr, Option.some.injEq] at h
        rw [h]

theorem generateVideoFilePath_ne (env : Env) (options : Options) (n : ℕ) :
    generateVideoFilePath env options n ≠ "" := by
  intro h
  have hlen := congrArg String.length h
  unfold generateVideoFilePath at hlen
  simp only at hlen
  split at hlen
  · simp only [String.length_append] at hlen
    exact absurd hlen (by simp)
  · simp only [String.length_append] at hlen
    exact absurd hlen (by simp)

section Rounds

variable {env : Env} {w : Worker}

/-- A frame that follows no error goes into an open file. -/
theorem openVideoWriter_eq (hq : env.Quiet) {capsString : Bytes} (hcaps : capsString ≠ [])
    {s : State} (hs : CurrentFile s) :
    ∃ f n, f.frames.length = s.imageIndex ∧ f.options.filePath ≠ "" ∧
      f.frames = s.videoWriter.toList.flatMap GstreamerVideoWriter.frames ∧
      openVideoWriter env w capsString s =
        { s with
          videoWriter := some f
          outputVideoFilePath := f.options.filePath
          opened := n } := by
  unfold CurrentFile at hs
  unfold openVideoWriter
  cases hv : s.videoWriter with
  | some f =>
    rw [hv] at hs
    obtain ⟨_, hlen, hpath, hne⟩ := hs
    refine ⟨f, s.opened, hlen, hne, by simp, ?_⟩
    rw [hpath]
    simp only
    rw [← hv]
  | none =>
    rw [hv] at hs
    obtain ⟨hzero, _⟩ := hs
    have hne := generateVideoFilePath_ne env w.options s.opened
    have hcreate : GstreamerVideoWriter.create (env.createRunner s.opened)
        ⟨generateVideoFilePath env w.options s.opened, capsString⟩ = .value ⟨⟨_, _⟩, []⟩ :=
      GstreamerVideoWriter.create_of_ok hne hcaps (hq.createRunner s.opened _)
    refine ⟨⟨⟨generateVideoFilePath env w.options s.opened, capsString⟩, []⟩, s.opened + 1,
      hzero.symm, hne, rfl, ?_⟩
    simp only [hcreate]

theorem putFrame_eq (hq : env.Quiet) (buffer : GstreamerBuffer) {s : State}
    {f : GstreamerVideoWriter} (hv : s.videoWriter = some f) :
    putFrame env buffer s =
      { s with
        videoWriter := some { f with frames := f.frames ++ [buffer] }
        puts := s.puts + 1 } := by
  unfold putFrame
  rw [hv]
  simp [GstreamerVideoWriter.put, hq.feed]

/-- A frame that follows no error is written. -/
theorem writeFrame_eq (hq : env.Quiet) {buffer : GstreamerBuffer} (hcaps : buffer.caps ≠ [])
    {s : State} (hs : CurrentFile s) (hok : s.returnStatus.ok = true) :
    ∃ f n, f.frames = s.videoWriter.toList.flatMap GstreamerVideoWriter.frames ++ [buffer] ∧
      f.frames.length = s.imageIndex + 1 ∧ f.options.filePath ≠ "" ∧
      writeFrame env w buffer s = nextImage env w
        { s with
          videoWriter := some f
          outputVideoFilePath := f.options.filePath
          opened := n
          puts := s.puts + 1 } := by
  obtain ⟨f, n, hlen, hpath, hframes, hopen⟩ := openVideoWriter_eq (w := w) hq hcaps hs
  refine ⟨{ f with frames := f.frames ++ [buffer] }, n, ?_, ?_, hpath, ?_⟩
  · rw [← hframes]
  · simp only [List.length_append, hlen, List.length_singleton]
  · simp only [writeFrame, hopen, hok, Bool.true_eq_false, if_false]
    rw [putFrame_eq (f := f) hq buffer rfl]
    simp only [hok, Bool.true_eq_false, if_false]

theorem receive_eq_writeFrame {v : StatusOr RawImage} {rawImage : RawImage}
    {buffer : GstreamerBuffer} (hv : v = .value rawImage)
    (hconv : toGstreamerBuffer rawImage = .ok (.value buffer)) (s : State) :
    receive env w v s = writeFrame env w buffer s := by
  rw [hv, receive, if_neg (by simp [StatusOr.status])]
  simp only [StatusOr.valueOrDie, hconv]

/-- What the end of a round puts on the output channel. -/
def roundForwards (env : Env) (w : Worker) (s : State) : List (StatusOr String) :=
  if w.options.forwardFilePaths = true ∧ env.tryEmplace s.emplaced = true then
    [.value s.outputVideoFilePath]
  else []

/-- A round that ends without an error flushes its file, and forwards its path if paths are
forwarded, whether there is a file or not. -/
theorem endRound_eq (hq : env.Quiet) {s : State} (hok : s.returnStatus.ok = true) :
    ∃ n, endRound env w s =
      let s' :=
        { s with
          videoWriter := none
          written := s.written ++ s.videoWriter.toList
          forwarded := s.forwarded ++ roundForwards env w s
          emplaced := if w.options.forwardFilePaths then s.emplaced + 1 else s.emplaced
          dstChecks := n }
      if s.startNewFile then { s' with outputVideoFilePath := "", imageIndex := 0 }
      else cleanup env w s' := by
  unfold endRound settle flush forward roundForwards
  by_cases hf : w.options.forwardFilePaths = true
  · refine ⟨s.dstChecks + 1, ?_⟩
    simp [hok, hf, hq.isDstCompleted]
  · refine ⟨s.dstChecks, ?_⟩
    simp [hok, hf]

/-- **The state of an undisturbed run after `buffers`**: the files flushed are full, the
rest of the frames is in the current file, and the paths forwarded are those of full files. -/
structure Chunked (w : Worker) (buffers : List GstreamerBuffer) (s : State) : Prop where
  running : s.outcome = .running
  returnStatus : s.returnStatus = okStatus
  startNewFile : s.startNewFile = true
  imageIndex : s.imageIndex = buffers.length % w.maxFrames
  files : s.written.length = buffers.length / w.maxFrames
  full : ∀ f ∈ s.written, f.frames.length = w.maxFrames ∧ f.options.filePath ≠ ""
  current : CurrentFile s
  frames : (s.written ++ s.videoWriter.toList).flatMap GstreamerVideoWriter.frames = buffers
  forwarded : ∀ v ∈ s.forwarded, ∃ f ∈ s.written, v = .value f.options.filePath
  emplaced : w.options.forwardFilePaths = true → s.emplaced = buffers.length / w.maxFrames

theorem chunked_initial (w : Worker) : Chunked w [] initial where
  running := rfl
  returnStatus := rfl
  startNewFile := rfl
  imageIndex := (Nat.zero_mod _).symm
  files := (Nat.zero_div _).symm
  full := fun _ hf => nomatch hf
  current := ⟨rfl, rfl⟩
  frames := rfl
  forwarded := fun _ hv => nomatch hv
  emplaced := fun _ => (Nat.zero_div _).symm

theorem Chunked.popped {buffers : List GstreamerBuffer} {s : State} (h : Chunked w buffers s)
    (popped : List (StatusOr RawImage)) : Chunked w buffers { s with popped := popped } where
  running := h.running
  returnStatus := h.returnStatus
  startNewFile := h.startNewFile
  imageIndex := h.imageIndex
  files := h.files
  full := h.full
  current := h.current
  frames := h.frames
  forwarded := h.forwarded
  emplaced := h.emplaced

theorem mod_div_succ_of_lt {n m : ℕ} (h : n % m + 1 < m) :
    (n + 1) % m = n % m + 1 ∧ (n + 1) / m = n / m := by
  have hm : 0 < m := by omega
  have hn := Nat.div_add_mod n m
  have hsum : n + 1 = (n % m + 1) + m * (n / m) := by omega
  rw [hsum, Nat.add_mul_mod_self_left, Nat.add_mul_div_left _ _ hm, Nat.mod_eq_of_lt h,
    Nat.div_eq_of_lt h]
  omega

theorem mod_div_succ_of_eq {n m : ℕ} (h : n % m + 1 = m) :
    (n + 1) % m = 0 ∧ (n + 1) / m = n / m + 1 := by
  have hm : 0 < m := by omega
  have hn := Nat.div_add_mod n m
  have hsum : n + 1 = m * (n / m + 1) := by rw [Nat.mul_add]; omega
  rw [hsum, Nat.mul_mod_right, Nat.mul_div_cancel_left _ hm]
  exact ⟨rfl, rfl⟩

theorem roundForwards_mem {s : State} {v : StatusOr String} (h : v ∈ roundForwards env w s) :
    w.options.forwardFilePaths = true ∧ env.tryEmplace s.emplaced = true ∧
      v = .value s.outputVideoFilePath := by
  unfold roundForwards at h
  split at h
  · rename_i hround
    exact ⟨hround.1, hround.2, List.mem_singleton.mp h⟩
  · cases h

/-- The loop goes on with the next image of a file that is not full. -/
theorem Chunked.nextImage_of_lt {buffers : List GstreamerBuffer} {s : State}
    (h : Chunked w buffers s) {buffer : GstreamerBuffer} {f : GstreamerVideoWriter} (n k : ℕ)
    (hframes : f.frames = s.videoWriter.toList.flatMap GstreamerVideoWriter.frames ++ [buffer])
    (hlen : f.frames.length = s.imageIndex + 1) (hpath : f.options.filePath ≠ "")
    (hlt : s.imageIndex + 1 < w.maxFrames) :
    Chunked w (buffers ++ [buffer]) (nextImage env w
      { s with
        videoWriter := some f
        outputVideoFilePath := f.options.filePath
        opened := n
        puts := k }) := by
  have hmd := mod_div_succ_of_lt (h.imageIndex ▸ hlt)
  have hint : ((s.imageIndex + 1 : ℕ) : ℤ) < w.options.maxFramesPerFile.toInt := by
    unfold Worker.maxFrames at hlt
    omega
  rw [nextImage]
  simp only
  rw [if_pos hint]
  exact
    { running := h.running
      returnStatus := h.returnStatus
      startNewFile := h.startNewFile
      imageIndex := by
        rw [List.length_append, List.length_singleton, hmd.1, ← h.imageIndex]
      files := by
        rw [List.length_append, List.length_singleton, hmd.2]
        exact h.files
      full := h.full
      current := ⟨Nat.succ_pos _, hlen, rfl, hpath⟩
      frames := by
        rw [← h.frames]
        simp [hframes]
      forwarded := h.forwarded
      emplaced := by
        intro hf
        rw [List.length_append, List.length_singleton, hmd.2]
        exact h.emplaced hf }

/-- A full file is flushed, its path forwarded, and a new round begins. -/
theorem Chunked.nextImage_of_eq (hq : env.Quiet) {buffers : List GstreamerBuffer} {s : State}
    (h : Chunked w buffers s) {buffer : GstreamerBuffer} {f : GstreamerVideoWriter} (n k : ℕ)
    (hframes : f.frames = s.videoWriter.toList.flatMap GstreamerVideoWriter.frames ++ [buffer])
    (hlen : f.frames.length = s.imageIndex + 1) (hpath : f.options.filePath ≠ "")
    (heq : s.imageIndex + 1 = w.maxFrames) :
    Chunked w (buffers ++ [buffer]) (nextImage env w
      { s with
        videoWriter := some f
        outputVideoFilePath := f.options.filePath
        opened := n
        puts := k }) := by
  have hmd := mod_div_succ_of_eq (h.imageIndex ▸ heq)
  have hint : ¬ ((s.imageIndex + 1 : ℕ) : ℤ) < w.options.maxFramesPerFile.toInt := by
    unfold Worker.maxFrames at heq
    omega
  let s' : State :=
    { s with
      videoWriter := some f
      outputVideoFilePath := f.options.filePath
      imageIndex := s.imageIndex + 1
      opened := n
      puts := k }
  obtain ⟨m, hend⟩ := endRound_eq (w := w) (s := s') hq (by rw [h.returnStatus]; rfl)
  rw [nextImage]
  simp only
  rw [if_neg hint, hend]
  simp only
  rw [if_pos h.startNewFile]
  exact
    { running := h.running
      returnStatus := h.returnStatus
      startNewFile := h.startNewFile
      imageIndex := by
        rw [List.length_append, List.length_singleton, hmd.1]
      files := by
        show (s.written ++ [f]).length = _
        simp only [List.length_append, List.length_singleton, hmd.2, h.files]
      full := by
        intro g hg
        rcases List.mem_append.mp hg with hg | hg
        · exact h.full g hg
        · obtain rfl : g = f := List.mem_singleton.mp hg
          exact ⟨hlen.trans heq, hpath⟩
      current := ⟨rfl, rfl⟩
      frames := by
        rw [← h.frames]
        simp [s', hframes]
      forwarded := by
        intro v hv
        rcases List.mem_append.mp hv with hv | hv
        · obtain ⟨g, hg, hgv⟩ := h.forwarded v hv
          exact ⟨g, List.mem_append_left _ hg, hgv⟩
        · exact ⟨f, List.mem_append_right _ List.mem_cons_self, (roundForwards_mem hv).2.2⟩
      emplaced := by
        intro hf
        rw [List.length_append, List.length_singleton, hmd.2, ← h.emplaced hf]
        exact if_pos hf }

/-- **One more frame**: it goes into the current file, which is flushed when it is full. -/
theorem Chunked.receive (hq : env.Quiet) {buffers : List GstreamerBuffer} {s : State}
    (h : Chunked w buffers s) {v : StatusOr RawImage} {buffer : GstreamerBuffer}
    (hv : converted v = some buffer) (hmax : 0 < w.maxFrames) :
    Chunked w (buffers ++ [buffer]) (receive env w v s) := by
  obtain ⟨rawImage, himage, hconv⟩ := converted_eq_some hv
  obtain ⟨f, n, hframes, hlen, hpath, hwrite⟩ := writeFrame_eq (w := w) hq
    (toGstreamerBuffer_caps_ne_nil hconv) h.current (by rw [h.returnStatus]; rfl)
  have hlt : s.imageIndex < w.maxFrames := by
    rw [h.imageIndex]
    exact Nat.mod_lt _ hmax
  rw [receive_eq_writeFrame himage hconv, hwrite]
  by_cases hnext : s.imageIndex + 1 < w.maxFrames
  · exact h.nextImage_of_lt n _ hframes hlen hpath hnext
  · exact h.nextImage_of_eq hq n _ hframes hlen hpath (by omega)

/-- **EOS ends the run**: the file of the last round is flushed, and its path forwarded
whether there is such a file or not. -/
theorem Chunked.receive_eos (hq : env.Quiet) {buffers : List GstreamerBuffer} {s : State}
    (h : Chunked w buffers s) {eos : StatusOr RawImage} (heos : eos.status.code = .kNotFound) :
    (LocalVideoSaver.receive env w eos s).outcome = .returned okStatus ∧
      (LocalVideoSaver.receive env w eos s).written = s.written ++ s.videoWriter.toList ∧
      ∃ status, (LocalVideoSaver.receive env w eos s).forwarded =
        s.forwarded ++ roundForwards env w s ++ status ∧
        ∀ path, StatusOr.value path ∉ status := by
  have hok : s.returnStatus.ok = true := by rw [h.returnStatus]; rfl
  obtain ⟨n, hend⟩ := endRound_eq (w := w) (s := { s with startNewFile := false }) hq hok
  have hrec : LocalVideoSaver.receive env w eos s =
      endRound env w { s with startNewFile := false } := by
    rw [LocalVideoSaver.receive, if_pos heos]
  rw [hrec, hend]
  simp only [Bool.false_eq_true, if_false, cleanup]
  by_cases hf : w.options.forwardFilePaths = true
  · simp only [hf, if_true]
    refine ⟨by rw [h.returnStatus], trivial, _, rfl, ?_⟩
    intro path hmem
    split at hmem
    · exact StatusOr.ofStatus_ne_value _ path (List.mem_singleton.mp hmem).symm
    · cases hmem
  · simp only [hf]
    refine ⟨by rw [h.returnStatus]; rfl, rfl, [], (List.append_nil _).symm, fun _ => nofun⟩

end Rounds

/-! ### Whole runs -/

section Runs

variable {env : Env} {w : Worker}

theorem run_cons (p : Poll RawImage) (polls : List (Poll RawImage)) (s : State) :
    run env w (p :: polls) s = run env w polls (poll env w p s) := rfl

theorem run_append (polls polls' : List (Poll RawImage)) (s : State) :
    run env w (polls ++ polls') s = run env w polls' (run env w polls s) :=
  List.foldl_append

/-- One turn of the receive loop takes a value, or changes nothing. -/
theorem poll_popped {s : State} (h : s.outcome = .running) (v : StatusOr RawImage) :
    poll env w (.popped v) s = receive env w v { s with popped := s.popped ++ [v] } := if_pos h

theorem poll_completed {s : State} (h : s.outcome = .running) :
    poll env w (.timedOut true) s = receive env w srcCompletedValue s := if_pos h

theorem poll_waiting (s : State) : poll env w (.timedOut false) s = s := ite_self s

theorem poll_of_over (p : Poll RawImage) {s : State} (h : s.outcome ≠ .running) :
    poll env w p s = s := if_neg h

/-- A worker that has returned or crashed does nothing more. -/
theorem run_of_over (polls : List (Poll RawImage)) {s : State} (h : s.outcome ≠ .running) :
    run env w polls s = s := by
  induction polls with
  | nil => rfl
  | cons p polls ih => rw [run_cons, poll_of_over p h, ih]

/-- The preconditions leave no room for a file without frames. -/
theorem maxFrames_pos (h : (validatePreconditions w).ok = true) : 0 < w.maxFrames := by
  unfold validatePreconditions at h
  split at h
  · cases h
  · rename_i hmax
    have hlt : ¬ w.options.maxFramesPerFile.toInt ≤ 0 :=
      fun hle => hmax (Int32.le_iff_toInt_le.mpr hle)
    unfold Worker.maxFrames
    omega

/-- **An undisturbed run over convertible images keeps the chunks.** -/
theorem Chunked.run (hq : env.Quiet) (hmax : 0 < w.maxFrames) {polls : List (Poll RawImage)}
    (hsrc : .timedOut true ∉ polls) (hconv : ∀ v ∈ pollValues polls, (converted v).isSome) :
    ∀ {buffers : List GstreamerBuffer} {s : State}, Chunked w buffers s →
      Chunked w (buffers ++ (pollValues polls).filterMap converted) (run env w polls s) := by
  induction polls with
  | nil =>
    intro buffers s h
    rw [pollValues_nil, List.filterMap_nil, List.append_nil]
    exact h
  | cons p polls ih =>
    intro buffers s h
    have hsrc' : .timedOut true ∉ polls := fun hmem => hsrc (List.mem_cons_of_mem _ hmem)
    rw [run_cons]
    cases p with
    | timedOut completed =>
      cases completed with
      | true => exact absurd List.mem_cons_self hsrc
      | false =>
        rw [poll_waiting]
        exact ih hsrc' hconv h
    | popped v =>
      have hv := hconv v List.mem_cons_self
      obtain ⟨buffer, hbuffer⟩ := Option.isSome_iff_exists.mp hv
      rw [poll_popped h.running, pollValues_popped, List.filterMap_cons, hbuffer,
        List.append_cons]
      exact ih hsrc' (fun u hu => hconv u (List.mem_cons_of_mem _ hu))
        ((h.popped _).receive hq hbuffer hmax)

/-- After convertible images the next value is received with their frames in chunks. -/
theorem workImpl_append (hq : env.Quiet) (hpre : (validatePreconditions w).ok = true)
    {before : List (Poll RawImage)} (hsrc : .timedOut true ∉ before)
    (hconv : ∀ v ∈ pollValues before, (converted v).isSome) (v : StatusOr RawImage)
    (after : List (Poll RawImage)) :
    ∃ s, Chunked w ((pollValues before).filterMap converted) s ∧ v ∈ s.popped ∧
      workImpl env w (before ++ .popped v :: after) = run env w after (receive env w v s) := by
  have hchunked := (chunked_initial w).run hq (maxFrames_pos hpre) hsrc hconv
  rw [List.nil_append] at hchunked
  refine ⟨_, hchunked.popped ((run env w before initial).popped ++ [v]),
    List.mem_append_right _ List.mem_cons_self, ?_⟩
  rw [workImpl, if_neg (by simp [hpre]), run_append, run_cons, poll_popped hchunked.running]

/-- A run over convertible images and EOS ends where EOS is received. -/
theorem workImpl_eos (hq : env.Quiet) (hpre : (validatePreconditions w).ok = true)
    {polls : List (Poll RawImage)} {images : List (StatusOr RawImage)} {eos : StatusOr RawImage}
    (hsrc : .timedOut true ∉ polls) (hvalues : pollValues polls = images ++ [eos])
    (hconv : ∀ v ∈ images, (converted v).isSome) (heos : eos.status.code = .kNotFound) :
    ∃ s, Chunked w (images.filterMap converted) s ∧ workImpl env w polls = receive env w eos s := by
  obtain ⟨before, after, rfl, rfl⟩ := pollValues_eq_append_cons hvalues
  obtain ⟨s, hchunked, _, hwork⟩ := workImpl_append hq hpre
    (fun hmem => hsrc (List.mem_append_left _ hmem)) hconv eos after
  refine ⟨s, hchunked, hwork.trans (run_of_over after ?_)⟩
  rw [(hchunked.receive_eos hq heos).1]
  exact fun h => nomatch h

/-- A path of a file that was written, with at least one frame and no more than a file has. -/
def NamesFile (w : Worker) (s : State) (path : String) : Prop :=
  path ≠ "" ∧ ∃ f ∈ s.written, f.options.filePath = path ∧
    0 < f.frames.length ∧ f.frames.length ≤ w.maxFrames

/-- **When every path forwarded names a file**: paths are not forwarded at all, or EOS finds
a file that is open, or the output channel has no place for the empty path of the last
round. -/
theorem forwarded_namesFile_iff (hq : env.Quiet) (hpre : (validatePreconditions w).ok = true)
    {polls : List (Poll RawImage)} {images : List (StatusOr RawImage)} {eos : StatusOr RawImage}
    (hsrc : .timedOut true ∉ polls) (hvalues : pollValues polls = images ++ [eos])
    (hconv : ∀ v ∈ images, (converted v).isSome) (heos : eos.status.code = .kNotFound) :
    (∀ path, .value path ∈ (workImpl env w polls).forwarded →
        NamesFile w (workImpl env w polls) path) ↔
      w.options.forwardFilePaths = false ∨ images.length % w.maxFrames ≠ 0 ∨
        env.tryEmplace (images.length / w.maxFrames) = false := by
  obtain ⟨s, hs, hwork⟩ := workImpl_eos hq hpre hsrc hvalues hconv heos
  obtain ⟨_, hwritten, status, hforwarded, hstatus⟩ := hs.receive_eos hq heos
  have hlen : (images.filterMap converted).length = images.length :=
    List.filterMap_length_eq_length.mpr hconv
  have hindex : s.imageIndex = images.length % w.maxFrames := hlen ▸ hs.imageIndex
  rw [hwork]
  constructor
  · intro h
    by_cases hf : w.options.forwardFilePaths = true
    · by_cases hzero : images.length % w.maxFrames = 0
      · refine Or.inr (Or.inr (Bool.eq_false_iff.mpr fun hplace => ?_))
        have hempty : s.outputVideoFilePath = "" := hs.current.path_of_zero (hindex.trans hzero)
        have hround : roundForwards env w s = [.value ""] := by
          rw [roundForwards, if_pos ⟨hf, by rw [hs.emplaced hf, hlen]; exact hplace⟩, hempty]
        refine (h "" ?_).1 rfl
        rw [hforwarded, hround]
        exact List.mem_append_left _ (List.mem_append_right _ List.mem_cons_self)
      · exact Or.inr (Or.inl hzero)
    · exact Or.inl (Bool.eq_false_iff.mpr hf)
  · intro h path hpath
    rw [hforwarded] at hpath
    rcases List.mem_append.mp hpath with hpath | hpath
    · rcases List.mem_append.mp hpath with hpath | hpath
      · -- a file that was full when its path was forwarded
        obtain ⟨f, hf, hvalue⟩ := hs.forwarded _ hpath
        obtain ⟨hframes, hne⟩ := hs.full f hf
        cases hvalue
        refine ⟨hne, f, ?_, rfl, ?_, Nat.le_of_eq hframes⟩
        · rw [hwritten]
          exact List.mem_append_left _ hf
        · rw [hframes]
          exact maxFrames_pos hpre
      · -- the file of the last round
        obtain ⟨hf, hplace, hvalue⟩ := roundForwards_mem hpath
        rw [hs.emplaced hf, hlen] at hplace
        cases hvalue
        have hopen : images.length % w.maxFrames ≠ 0 := by
          rcases h with h | h | h
          · rw [hf] at h
            cases h
          · exact h
          · rw [hplace] at h
            cases h
        obtain ⟨f, hv, hpos, hframes, hfile, hne⟩ :=
          hs.current.file_of_ne_zero (by rw [hindex]; exact hopen)
        refine ⟨hfile ▸ hne, f, ?_, hfile, by omega, ?_⟩
        · rw [hwritten, hv]
          exact List.mem_append_right _ List.mem_cons_self
        · rw [hframes, hindex]
          exact Nat.le_of_lt (Nat.mod_lt _ (maxFrames_pos hpre))
    · exact absurd hpath (hstatus path)

end Runs

/-! ### Values that are not images -/

/-- `EOSStatus()` of the raw image yielder, as it arrives on the channel. -/
def eosValue : StatusOr RawImage := .ofStatus (.make .kNotFound "Reached EOS")

/-- An OK value whose conversion fails with a status. -/
def Refused : StatusOr RawImage → Prop
  | .error _ _ => False
  | .value rawImage => rawImage.format ≠ .srgb

/-- The worker does not abort, and it reports every value that it took which is neither OK
nor the EOS. -/
def ReportsErrors (s : State) : Prop :=
  (∀ e, s.outcome ≠ .crashed e) ∧
    ∀ v ∈ s.popped, v.ok = false → v ≠ eosValue →
      ∃ status, s.outcome = .returned status ∧ status.ok = false

/-- What every part of the loop body does, `ValueOrDie` and the conversion apart: it may
return, and it pops nothing. -/
def Continues (s s' : State) : Prop :=
  s'.popped = s.popped ∧ (s'.outcome = s.outcome ∨ ∃ status, s'.outcome = .returned status)

theorem Continues.rfl {s : State} : Continues s s := ⟨Eq.refl _, Or.inl (Eq.refl _)⟩

theorem Continues.trans {s s' s'' : State} (h : Continues s s') (h' : Continues s' s'') :
    Continues s s'' := by
  refine ⟨h'.1.trans h.1, ?_⟩
  rcases h'.2 with he | he
  · rw [he]
    exact h.2
  · exact Or.inr he

section Values

variable (env : Env) (w : Worker)

theorem openVideoWriter_continues (capsString : Bytes) (s : State) :
    Continues s (openVideoWriter env w capsString s) := by
  unfold openVideoWriter
  split
  · exact .rfl
  · simp only
    split
    · exact ⟨rfl, Or.inl rfl⟩
    · exact ⟨rfl, Or.inl rfl⟩

theorem putFrame_continues (buffer : GstreamerBuffer) (s : State) :
    Continues s (putFrame env buffer s) := by
  unfold putFrame
  split
  · exact .rfl
  · simp only
    split
    · exact ⟨rfl, Or.inl rfl⟩
    · exact ⟨rfl, Or.inl rfl⟩

theorem cleanup_continues (s : State) :
    (cleanup env w s).popped = s.popped ∧
      ∃ status, (cleanup env w s).outcome = .returned status := by
  unfold cleanup
  by_cases hf : w.options.forwardFilePaths = true
  · exact ⟨by simp [hf], _, rfl⟩
  · exact ⟨by simp [hf], _, rfl⟩

theorem settle_continues (s : State) : Continues s (settle env w s) := by
  unfold settle forward
  split
  · exact ⟨rfl, Or.inl rfl⟩
  · split
    · simp only
      split
      · exact ⟨rfl, Or.inl rfl⟩
      · exact ⟨rfl, Or.inl rfl⟩
    · exact .rfl

/-- After an error, or the end of the stream, no file follows. -/
theorem settle_startNewFile {s : State}
    (h : s.returnStatus.ok = false ∨ s.startNewFile = false) :
    (settle env w s).startNewFile = false := by
  unfold settle forward
  split
  · rfl
  · rename_i hok
    have hstop : s.startNewFile = false := h.resolve_left hok
    split
    · simp only
      split
      · exact hstop
      · rfl
    · exact hstop

theorem endRound_continues (s : State) : Continues s (endRound env w s) := by
  have hflush : Continues s (flush s) := ⟨rfl, Or.inl rfl⟩
  have hsettle := hflush.trans (settle_continues env w (flush s))
  unfold endRound
  simp only
  split
  · exact hsettle.trans ⟨rfl, Or.inl rfl⟩
  · obtain ⟨hpopped, hover⟩ := cleanup_continues env w (settle env w (flush s))
    exact hsettle.trans ⟨hpopped, Or.inr hover⟩

theorem endRound_returns {s : State} (h : s.returnStatus.ok = false ∨ s.startNewFile = false) :
    ∃ status, (endRound env w s).outcome = .returned status := by
  have hstop : (settle env w (flush s)).startNewFile = false := settle_startNewFile env w h
  unfold endRound
  simp only [hstop]
  exact (cleanup_continues env w _).2

theorem writeFrame_continues (buffer : GstreamerBuffer) (s : State) :
    Continues s (writeFrame env w buffer s) := by
  have hopen := openVideoWriter_continues env w buffer.caps s
  have hend := fun s₁ : State => endRound_continues env w s₁
  have hnext : ∀ s₁ : State, Continues s₁ (nextImage env w s₁) := by
    intro s₁
    unfold nextImage
    simp only
    split
    · exact ⟨rfl, Or.inl rfl⟩
    · exact Continues.trans ⟨rfl, Or.inl rfl⟩ (hend _)
  unfold writeFrame
  simp only
  split
  · exact hopen.trans (hend _)
  · have hput := hopen.trans (putFrame_continues env buffer _)
    split
    · exact hput.trans (hend _)
    · exact hput.trans (hnext _)

/-- An EOS, or an image that the conversion refuses, makes the worker return. -/
theorem receive_returns {v : StatusOr RawImage} (hv : v.status.code = .kNotFound ∨ Refused v)
    (s : State) : (receive env w v s).popped = s.popped ∧
      ∃ status, (receive env w v s).outcome = .returned status := by
  by_cases hcode : v.status.code = .kNotFound
  · have hrec : receive env w v s = endRound env w { s with startNewFile := false } := by
      rw [receive, if_pos hcode]
    rw [hrec]
    exact ⟨(endRound_continues env w _).1, endRound_returns env w (Or.inr rfl)⟩
  · cases v with
    | error status hs => exact False.elim (hv.resolve_left hcode)
    | value rawImage =>
      obtain ⟨r, hr, hok⟩ := (toGstreamerBuffer_error_iff rawImage).mpr (hv.resolve_left hcode)
      cases r with
      | value buffer => cases hok
      | error status hs =>
        have hrec : receive env w (.value rawImage) s = endRound env w { s with
            returnStatus := unknownError
              ("Could not convert a raw image into a gstreamer buffer: " ++ status.message) } := by
          rw [receive, if_neg hcode]
          simp only [StatusOr.valueOrDie, hr]
        rw [hrec]
        exact ⟨(endRound_continues env w _).1, endRound_returns env w (Or.inl rfl)⟩

theorem receive_continues {v : StatusOr RawImage} (hv : (converted v).isSome) (s : State) :
    Continues s (receive env w v s) := by
  obtain ⟨buffer, hbuffer⟩ := Option.isSome_iff_exists.mp hv
  obtain ⟨rawImage, himage, hconv⟩ := converted_eq_some hbuffer
  rw [receive_eq_writeFrame himage hconv]
  exact writeFrame_continues env w buffer s

/-- Any other value aborts the process. -/
theorem receive_crashes {v : StatusOr RawImage} (hconv : converted v = none)
    (hcode : v.status.code ≠ .kNotFound) (href : ¬ Refused v) (s : State) :
    ∃ e, (receive env w v s).outcome = .crashed e := by
  rw [receive, if_neg hcode]
  cases v with
  | error status hs => exact ⟨_, rfl⟩
  | value rawImage =>
    simp only [StatusOr.valueOrDie]
    cases hr : toGstreamerBuffer rawImage with
    | error e => exact ⟨e, rfl⟩
    | ok r =>
      cases r with
      | error status hs =>
        exact absurd ((toGstreamerBuffer_error_iff rawImage).mp ⟨_, hr, hs⟩) href
      | value buffer => simp [converted, hr] at hconv

/-- The first value that cannot be converted, if there is one, is the EOS or an image that
the conversion refuses. -/
def EndsWell (values : List (StatusOr RawImage)) : Prop :=
  ∀ v, values.find? (fun v => (converted v).isNone) = some v → v = eosValue ∨ Refused v

theorem Refused.ok {v : StatusOr RawImage} (h : Refused v) : v.ok = true := by
  cases v with
  | error status hs => exact False.elim h
  | value rawImage => rfl

theorem reportsErrors_of_popped {s : State} (hcrash : ∀ e, s.outcome ≠ .crashed e)
    (hpopped : ∀ v ∈ s.popped, v.ok = true ∨ v = eosValue) : ReportsErrors s := by
  refine ⟨hcrash, fun v hv hok hne => ?_⟩
  rcases hpopped v hv with h | h
  · rw [h] at hok
    cases hok
  · exact absurd h hne

/-- **The invariant**: no abort, no value taken that is neither OK nor the EOS, and values to
come that end well. -/
structure Reporting (values : List (StatusOr RawImage)) (s : State) : Prop where
  noCrash : ∀ e, s.outcome ≠ .crashed e
  popped : ∀ v ∈ s.popped, v.ok = true ∨ v = eosValue
  endsWell : s.outcome = .running → EndsWell values

theorem reporting_of_returned {s : State} (h : ∃ status, s.outcome = .returned status)
    (hpopped : ∀ v ∈ s.popped, v.ok = true ∨ v = eosValue) (values : List (StatusOr RawImage)) :
    Reporting values s := by
  obtain ⟨status, h⟩ := h
  refine ⟨fun e he => ?_, hpopped, fun hrun => ?_⟩
  · cases h.symm.trans he
  · cases h.symm.trans hrun

/-- An image that is converted leaves the rest of the values as they end. -/
theorem reporting_image {v : StatusOr RawImage} {values : List (StatusOr RawImage)} {s : State}
    (h : Reporting (v :: values) s) (hrun : s.outcome = .running) (hv : (converted v).isSome) :
    Reporting values (receive env w v { s with popped := s.popped ++ [v] }) := by
  have hok : v.ok = true := by
    obtain ⟨buffer, hbuffer⟩ := Option.isSome_iff_exists.mp hv
    obtain ⟨rawImage, rfl, _⟩ := converted_eq_some hbuffer
    rfl
  obtain ⟨hpopped, houtcome⟩ := receive_continues env w hv { s with popped := s.popped ++ [v] }
  have htaken : ∀ u ∈ (receive env w v { s with popped := s.popped ++ [v] }).popped,
      u.ok = true ∨ u = eosValue := by
    intro u hu
    rw [hpopped] at hu
    rcases List.mem_append.mp hu with hu | hu
    · exact h.popped u hu
    · rw [List.mem_singleton.mp hu]
      exact Or.inl hok
  have hnone : (converted v).isNone = false := by
    rw [Option.isNone_eq_false_iff]
    exact hv
  rcases houtcome with ho | ho
  · refine ⟨fun e he => ?_, htaken, fun _ u hu => h.endsWell hrun u ?_⟩
    · cases (ho.trans hrun).symm.trans he
    · rw [List.find?_cons_of_neg (by simp [hnone])]
      exact hu
  · exact reporting_of_returned ho htaken values

/-- The first value that is not converted is the EOS, or an image that is refused. -/
theorem reporting_end {v : StatusOr RawImage} {values : List (StatusOr RawImage)} {s : State}
    (h : Reporting (v :: values) s) (hrun : s.outcome = .running) (hv : converted v = none) :
    Reporting values (receive env w v { s with popped := s.popped ++ [v] }) := by
  have hend := h.endsWell hrun v (List.find?_cons_of_pos (by simp [hv]))
  have hreturns : v.status.code = .kNotFound ∨ Refused v := by
    rcases hend with rfl | href
    · exact Or.inl rfl
    · exact Or.inr href
  obtain ⟨hpopped, ho⟩ := receive_returns env w hreturns { s with popped := s.popped ++ [v] }
  refine reporting_of_returned ho (fun u hu => ?_) values
  rw [hpopped] at hu
  rcases List.mem_append.mp hu with hu | hu
  · exact h.popped u hu
  · rw [List.mem_singleton.mp hu]
    rcases hend with heos | href
    · exact Or.inr heos
    · exact Or.inl href.ok

/-- **The step lemma.** -/
theorem reporting_poll {p : Poll RawImage} {polls : List (Poll RawImage)} {s : State}
    (h : Reporting (pollValues (p :: polls)) s) :
    Reporting (pollValues polls) (poll env w p s) := by
  by_cases hrun : s.outcome = .running
  · cases p with
    | timedOut completed =>
      cases completed with
      | false =>
        rw [poll_waiting]
        exact h
      | true =>
        obtain ⟨hpopped, ho⟩ := receive_returns env w (v := srcCompletedValue) (Or.inl rfl) s
        rw [poll_completed hrun]
        exact reporting_of_returned ho (by rw [hpopped]; exact h.popped) _
    | popped v =>
      rw [poll_popped hrun]
      rw [pollValues_popped] at h
      cases hconv : converted v with
      | some buffer => exact reporting_image env w h hrun (by rw [hconv]; rfl)
      | none => exact reporting_end env w h hrun hconv
  · rw [poll_of_over p hrun]
    exact ⟨h.noCrash, h.popped, fun hrun' => absurd hrun' hrun⟩

/-- **The run lemma**: values that end well are taken without an abort, and the only value
taken that is not OK is the EOS. -/
theorem reportsErrors_run {polls : List (Poll RawImage)} {s : State}
    (h : Reporting (pollValues polls) s) : ReportsErrors (run env w polls s) := by
  induction polls generalizing s with
  | nil => exact reportsErrors_of_popped h.noCrash h.popped
  | cons p polls ih => exact ih (reporting_poll env w h)

end Values

/-- An environment without errors. -/
def undisturbed : Env where
  sessionString := "abcde"
  timeString _ := "1970-01-01T00:00:00+00:00"
  createRunner _ _ := okStatus
  feed _ := okStatus
  isDstCompleted _ := false
  tryEmplace _ := true

theorem undisturbed_quiet : undisturbed.Quiet := ⟨fun _ _ => rfl, fun _ => rfl, fun _ => rfl⟩

theorem endsWell_append_eos (values : List (StatusOr RawImage)) :
    EndsWell (values ++ [eosValue]) ↔ EndsWell values := by
  unfold EndsWell
  cases hf : values.find? (fun v => (converted v).isNone) with
  | some u => simp [List.find?_append, hf]
  | none =>
    refine ⟨fun _ _ hv => (nomatch hv), fun _ v hv => Or.inl ?_⟩
    rw [List.find?_append, hf] at hv
    exact (Option.some.inj hv).symm

/-- **When the saver never aborts and reports every error**: for every environment and
whatever the polls in between, exactly if the preconditions fail or the first value that
cannot be converted is the EOS or an image of another format. -/
theorem reportsErrors_iff (w : Worker) (values : List (StatusOr RawImage)) :
    (∀ env polls, pollValues polls = values ++ [eosValue] →
        ReportsErrors (workImpl env w polls)) ↔
      (validatePreconditions w).ok = false ∨ EndsWell values := by
  constructor
  · intro h
    by_cases hpre : (validatePreconditions w).ok = true
    · refine Or.inr fun v hv => ?_
      by_contra hbad
      obtain ⟨heos, href⟩ := not_or.mp hbad
      obtain ⟨hnone, before, after, rfl, hbefore⟩ := List.find?_eq_some_iff_append.mp hv
      have hconv : converted v = none := Option.isNone_iff_eq_none.mp hnone
      -- without errors outside, `v` is taken after the images before it
      obtain ⟨s, hchunked, hmem, hwork⟩ := workImpl_append undisturbed_quiet hpre
        (popped_not_timedOut before) (by
          intro u hu
          rw [pollValues_map_popped] at hu
          simpa using hbefore u hu) v ((after ++ [eosValue]).map .popped)
      obtain ⟨hcrash, hreport⟩ := h undisturbed
        (before.map .popped ++ .popped v :: (after ++ [eosValue]).map .popped) (by
          rw [← List.map_cons, ← List.map_append, pollValues_map_popped, List.append_assoc]
          rfl)
      rw [hwork] at hcrash hreport
      by_cases hcode : v.status.code = .kNotFound
      · have hover := (hchunked.receive_eos undisturbed_quiet hcode).1
        rw [run_of_over _ (by rw [hover]; exact fun h => nomatch h)] at hreport
        have hok : v.ok = false := by
          rw [StatusOr.ok, Bool.eq_false_iff, ne_eq, Status.ok_iff_code, hcode]
          exact fun h => nomatch h
        have htaken : v ∈ (receive undisturbed w v s).popped := by
          rw [(receive_returns undisturbed w (Or.inl hcode) s).1]
          exact hmem
        obtain ⟨status, hstatus, herror⟩ := hreport v htaken hok heos
        rw [hover] at hstatus
        cases hstatus
        cases herror
      · obtain ⟨e, he⟩ := receive_crashes undisturbed w hconv hcode href s
        rw [run_of_over _ (by rw [he]; exact fun h => nomatch h)] at hcrash
        exact hcrash e he
    · exact Or.inl (Bool.eq_false_iff.mpr hpre)
  · rintro h env polls hvalues
    by_cases hpre : (validatePreconditions w).ok = true
    · rw [workImpl, if_neg (by simp [hpre])]
      refine reportsErrors_run env w
        ⟨fun _ he => (nomatch he), fun _ hv => (nomatch hv), fun _ => ?_⟩
      rw [hvalues, endsWell_append_eos]
      exact h.resolve_left (by simp [hpre])
    · rw [workImpl, if_pos (Bool.eq_false_iff.mpr hpre)]
      exact ⟨fun _ he => (nomatch he), fun _ hv => (nomatch hv)⟩

/-- A saver with both channels attached that forwards the paths of its files. -/
def attachedSaver (maxFramesPerFile : Int32) : Worker where
  name := "LocalVideoSaver"
  options := ⟨"", "", maxFramesPerFile, true⟩
  inChannel := some ⟨true, true⟩
  outChannel := some ⟨true, true⟩

/-- **The yielder's own errors abort it**: a decoded buffer whose caps cannot be parsed is
delivered as an error, and `ValueOrDie` is called on it. -/
theorem not_reportsErrors_unparsableCaps :
    ∃ v, toRawImage (fun _ => none) ⟨[], []⟩ = .ok v ∧
      ¬ ∀ env polls, pollValues polls = [v] ++ [eosValue] →
        ReportsErrors (workImpl env (attachedSaver 1) polls) := by
  refine ⟨_, rfl, fun h => ?_⟩
  exact (h undisturbed [.popped _, .popped eosValue] rfl).1 _ rfl

end LocalVideoSaver

end AIStreams
