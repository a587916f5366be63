import AIStreams.Gstreamer.LocalVideoSaver

/-!
# The files that the local video saver leaves

What is on disk when `LocalVideoSaver::WorkImpl` returns.  Writers may fail to be created and
frames may fail to be put; a frame that is accepted is treated as without errors, so that the
rounds of an undisturbed run carry over.

* `endRound_of_error`: a round that failed removes its own file and no other.
* `chunks_exact`: the files that remain are consecutive chunks of the frames.
-/

namespace AIStreams

namespace LocalVideoSaver

/-! ### What is left on disk -/

/-- The files that were flushed and not removed, in the order of their creation. -/
def remaining (s : State) : List GstreamerVideoWriter :=
  s.written.filter fun f => decide (f.options.filePath ∉ s.removed)

/-- The path of a file. -/
def filePath (f : GstreamerVideoWriter) : String := f.options.filePath

section Accepts

variable (env : Env) (w : Worker)

/-- The options of the writer of the `k`-th file, whose first frame has the caps. -/
def writerOptions (k : ℕ) (capsString : Bytes) : GstreamerVideoWriter.Options :=
  ⟨generateVideoFilePath env w.options k, capsString⟩

def runnerOptions (k : ℕ) (capsString : Bytes) : GstreamerRunnerOptions :=
  ⟨capsString, GstreamerVideoWriter.assembleGstreamerPipeline (writerOptions env w k capsString)⟩

/-- The frame after `n` others is accepted: its writer can be created, if it is the first of
a file, and `Put` succeeds. -/
def Accepts (n : ℕ) (buffer : GstreamerBuffer) : Prop :=
  (n % w.maxFrames = 0 →
    (env.createRunner (n / w.maxFrames)
      (runnerOptions env w (n / w.maxFrames) buffer.caps)).ok = true) ∧
    (env.feed n).ok = true

/-- The poll delivers an image that, after `n` others, cannot be converted or is not
accepted. -/
def Fails (n : ℕ) : Poll RawImage → Prop
  | .popped (.value rawImage) =>
    ∃ r, toGstreamerBuffer rawImage = .ok r ∧
      (r.ok = false ∨ ∃ buffer, r = .value buffer ∧ ¬ Accepts env w n buffer)
  | .popped (.error _ _) => False
  | .timedOut _ => False

/-- **What EOS leaves**: all frames, in files that are full, and at most one shorter file
that is not empty. -/
structure WroteAll (input : List GstreamerBuffer) (s : State) : Prop where
  returned : s.outcome = .returned okStatus
  names : (remaining s).map filePath =
    (List.range (remaining s).length).map (generateVideoFilePath env w.options)
  frames : (remaining s).flatMap GstreamerVideoWriter.frames = input
  chunks : ∃ (full : List GstreamerVideoWriter) (tail : Option GstreamerVideoWriter),
    remaining s = full ++ tail.toList ∧ (∀ f ∈ full, f.frames.length = w.maxFrames) ∧
      ∀ f ∈ tail, 0 < f.frames.length ∧ f.frames.length < w.maxFrames

/-- **What a failure leaves**: the full files.  Any other name that was generated is removed,
and not forwarded. -/
structure WroteFullChunks (input : List GstreamerBuffer) (s : State) : Prop where
  returned : ∃ status, s.outcome = .returned status ∧ status.ok = false
  names : (remaining s).map filePath =
    (List.range (remaining s).length).map (generateVideoFilePath env w.options)
  frames : (remaining s).flatMap GstreamerVideoWriter.frames =
    input.take (input.length / w.maxFrames * w.maxFrames)
  chunks : ∀ f ∈ remaining s, f.frames.length = w.maxFrames
  written : s.written.flatMap GstreamerVideoWriter.frames = input
  cleaned : ∀ k, (remaining s).length ≤ k → k < s.opened →
    generateVideoFilePath env w.options k ∈ s.removed ∧
      .value (generateVideoFilePath env w.options k) ∉ s.forwarded

end Accepts

/-! ### The end of a round -/

section EndRound

variable (env : Env) (w : Worker)

/-- The files, and the calls that made them, are the same. -/
structure SameFiles (s s' : State) : Prop where
  written : s'.written = s.written
  videoWriter : s'.videoWriter = s.videoWriter
  removed : s'.removed = s.removed
  opened : s'.opened = s.opened
  puts : s'.puts = s.puts

theorem cleanup_files (s : State) : SameFiles s (cleanup env w s) := by
  rw [cleanup]
  by_cases hf : w.options.forwardFilePaths = true
  · rw [if_pos hf]
    exact ⟨rfl, rfl, rfl, rfl, rfl⟩
  · rw [if_neg hf]
    exact ⟨rfl, rfl, rfl, rfl, rfl⟩

theorem settle_files {s : State} (hok : s.returnStatus.ok = true) :
    SameFiles s (settle env w s) := by
  rw [settle, if_neg (by simp [hok])]
  by_cases hf : w.options.forwardFilePaths = true
  · rw [if_pos hf, forward]
    cases env.isDstCompleted s.dstChecks with
    | false => exact ⟨rfl, rfl, rfl, rfl, rfl⟩
    | true => exact ⟨rfl, rfl, rfl, rfl, rfl⟩
  · rw [if_neg hf]
    exact ⟨rfl, rfl, rfl, rfl, rfl⟩

/-- A round without an error flushes its file, and removes none. -/
theorem endRound_of_ok {s : State} (hok : s.returnStatus.ok = true) :
    SameFiles (flush s) (endRound env w s) := by
  have hsettle : SameFiles (flush s) (settle env w (flush s)) := settle_files env w hok
  rw [endRound]
  by_cases hstart : (settle env w (flush s)).startNewFile = true
  · rw [if_pos hstart]
    exact ⟨hsettle.written, rfl, hsettle.removed, hsettle.opened, hsettle.puts⟩
  · rw [if_neg hstart]
    have hcleanup := cleanup_files env w (settle env w (flush s))
    exact ⟨hcleanup.written.trans hsettle.written,
      hcleanup.videoWriter.trans hsettle.videoWriter, hcleanup.removed.trans hsettle.removed,
      hcleanup.opened.trans hsettle.opened, hcleanup.puts.trans hsettle.puts⟩

/-- **A round that failed** removes its file and ends the run, and its path is not
forwarded. -/
theorem endRound_of_error {s : State} (herr : s.returnStatus.ok = false) :
    (endRound env w s).written = s.written ++ s.videoWriter.toList ∧
      (endRound env w s).removed = s.removed ++ [s.outputVideoFilePath] ∧
      (endRound env w s).opened = s.opened ∧
      (endRound env w s).outcome = .returned s.returnStatus ∧
      ∀ path, .value path ∈ (endRound env w s).forwarded → .value path ∈ s.forwarded := by
  have hsettle : settle env w (flush s) =
      { flush s with
        removed := s.removed ++ [s.outputVideoFilePath]
        startNewFile := false } := if_pos herr
  rw [endRound, hsettle]
  show (cleanup env w _).written = _ ∧ _
  have hcleanup := cleanup_files env w
    { flush s with
      removed := s.removed ++ [s.outputVideoFilePath]
      startNewFile := false }
  refine ⟨hcleanup.written, hcleanup.removed, hcleanup.opened, ?_, ?_⟩
  · rw [cleanup]
    by_cases hf : w.options.forwardFilePaths = true
    · rw [if_pos hf]
      rfl
    · rw [if_neg hf]
      rfl
  · intro path hpath
    rw [cleanup] at hpath
    by_cases hf : w.options.forwardFilePaths = true
    · rw [if_pos hf] at hpath
      rcases List.mem_append.mp hpath with hpath | hpath
      · exact hpath
      · split at hpath
        · exact absurd (List.mem_singleton.mp hpath).symm (StatusOr.ofStatus_ne_value _ path)
        · cases hpath
    · rw [if_neg hf] at hpath
      exact hpath

end EndRound

/-! ### The names of the files -/

/-- The files have the names that were generated, in order, and none was removed. -/
structure Named (env : Env) (w : Worker) (n : ℕ) (s : State) : Prop where
  names : (s.written ++ s.videoWriter.toList).map filePath =
    (List.range s.opened).map (generateVideoFilePath env w.options)
  removed : s.removed = []
  puts : s.puts = n

section Names

variable {env : Env} {w : Worker} {n : ℕ} {s : State}

theorem named_initial (env : Env) (w : Worker) : Named env w 0 initial := ⟨rfl, rfl, rfl⟩

theorem Named.popped (h : Named env w n s) (popped : List (StatusOr RawImage)) :
    Named env w n { s with popped := popped } := ⟨h.names, h.removed, h.puts⟩

/-- A file was opened for every name. -/
theorem Named.opened (h : Named env w n s) :
    s.opened = s.written.length + s.videoWriter.toList.length := by
  have hlen := congrArg List.length h.names
  rw [List.length_map, List.length_map, List.length_range, List.length_append] at hlen
  exact hlen.symm

theorem Named.written (h : Named env w n s) :
    s.written.map filePath =
      (List.range s.written.length).map (generateVideoFilePath env w.options) := by
  have htake := congrArg (List.take s.written.length) h.names
  rw [← List.map_take, ← List.map_take, List.take_left, List.take_range, h.opened,
    Nat.min_eq_left (Nat.le_add_right _ _)] at htake
  exact htake

theorem Named.current (h : Named env w n s) {f : GstreamerVideoWriter}
    (hf : s.videoWriter = some f) :
    filePath f = generateVideoFilePath env w.options s.written.length := by
  have hnames := h.names
  rw [h.opened, hf, Option.toList_some, List.length_singleton, List.range_succ, List.map_append,
    List.map_append, h.written] at hnames
  exact List.singleton_inj.mp (List.append_cancel_left hnames)

/-- With distinct names, no file before has the name of a file that is opened later. -/
theorem Named.fresh (h : Named env w n s)
    (hnames : Function.Injective (generateVideoFilePath env w.options)) {k : ℕ}
    (hk : s.written.length ≤ k) :
    ∀ f ∈ s.written, filePath f ≠ generateVideoFilePath env w.options k := by
  intro f hf heq
  have hmem : filePath f ∈ s.written.map filePath := List.mem_map_of_mem hf
  rw [h.written] at hmem
  obtain ⟨j, hj, hjf⟩ := List.mem_map.mp hmem
  obtain rfl : j = k := hnames (hjf.trans heq)
  exact absurd (List.mem_range.mp hj) (Nat.not_lt.mpr hk)

theorem Named.endRound (h : Named env w n s) (hok : s.returnStatus.ok = true) :
    Named env w n (endRound env w s) := by
  have hsame := endRound_of_ok env w hok
  refine ⟨?_, hsame.removed.trans h.removed, hsame.puts.trans h.puts⟩
  rw [hsame.written, hsame.videoWriter, hsame.opened, flush]
  simp only [Option.toList_none, List.append_nil]
  exact h.names

theorem Named.nextImage (h : Named env w n s) (hok : s.returnStatus.ok = true) :
    Named env w n (nextImage env w s) := by
  have hnext : Named env w n { s with imageIndex := s.imageIndex + 1 } :=
    ⟨h.names, h.removed, h.puts⟩
  rw [LocalVideoSaver.nextImage]
  simp only
  by_cases hlt : ((s.imageIndex + 1 : ℕ) : ℤ) < w.options.maxFramesPerFile.toInt
  · rw [if_pos hlt]
    exact hnext
  · rw [if_neg hlt]
    exact hnext.endRound hok

theorem openVideoWriter_of_some {f : GstreamerVideoWriter} (hf : s.videoWriter = some f)
    (capsString : Bytes) : openVideoWriter env w capsString s = s := by
  rw [openVideoWriter, hf]

/-- A file is opened under the next name. -/
theorem openVideoWriter_of_ok (hf : s.videoWriter = none) {capsString : Bytes}
    (hcaps : capsString ≠ [])
    (hrunner : (env.createRunner s.opened (runnerOptions env w s.opened capsString)).ok = true) :
    openVideoWriter env w capsString s =
      { s with
        videoWriter := some ⟨writerOptions env w s.opened capsString, []⟩
        outputVideoFilePath := generateVideoFilePath env w.options s.opened
        opened := s.opened + 1 } := by
  have hcreate : GstreamerVideoWriter.create (env.createRunner s.opened)
      ⟨generateVideoFilePath env w.options s.opened, capsString⟩ = .value ⟨⟨_, _⟩, []⟩ :=
    GstreamerVideoWriter.create_of_ok (generateVideoFilePath_ne env w.options s.opened) hcaps
      hrunner
  rw [openVideoWriter, hf]
  simp only [hcreate, writerOptions]

/-- A writer that is not created leaves the next name without a file. -/
theorem openVideoWriter_of_error (hf : s.videoWriter = none) {capsString : Bytes}
    (hcaps : capsString ≠ [])
    (hrunner : (env.createRunner s.opened (runnerOptions env w s.opened capsString)).ok = false) :
    openVideoWriter env w capsString s =
      { s with
        returnStatus := internalError ("Failed to create a new video writer: " ++
          "Failed to Initialize the GstreamerVideoWriter")
        outputVideoFilePath := generateVideoFilePath env w.options s.opened
        opened := s.opened + 1 } := by
  have hcreate : GstreamerVideoWriter.create (env.createRunner s.opened)
      ⟨generateVideoFilePath env w.options s.opened, capsString⟩ = .ofStatus _ :=
    GstreamerVideoWriter.create_of_error (generateVideoFilePath_ne env w.options s.opened) hcaps
      hrunner
  rw [openVideoWriter, hf]
  simp only [hcreate]
  rfl

theorem Named.openVideoWriter (h : Named env w n s) {capsString : Bytes} (hcaps : capsString ≠ [])
    (hrunner : ∀ k o, (env.createRunner k o).ok = true) :
    Named env w n (openVideoWriter env w capsString s) ∧
      (openVideoWriter env w capsString s).returnStatus = s.returnStatus := by
  cases hf : s.videoWriter with
  | some f =>
    rw [openVideoWriter_of_some hf]
    exact ⟨h, rfl⟩
  | none =>
    have hnames := h.names
    rw [hf, Option.toList_none, List.append_nil] at hnames
    rw [openVideoWriter_of_ok hf hcaps (hrunner _ _)]
    refine ⟨⟨?_, h.removed, h.puts⟩, rfl⟩
    simp only [Option.toList_some, List.map_append, List.map_singleton, List.range_succ, hnames]
    rfl

theorem Named.putFrame (h : Named env w n s) (hf : s.videoWriter ≠ none)
    (hfeed : ∀ k, (env.feed k).ok = true) (buffer : GstreamerBuffer) :
    Named env w (n + 1) (putFrame env buffer s) ∧
      (putFrame env buffer s).returnStatus = s.returnStatus := by
  cases hv : s.videoWriter with
  | none => exact absurd hv hf
  | some f =>
    have hnames := h.names
    rw [hv] at hnames
    rw [LocalVideoSaver.putFrame, hv]
    simp only [GstreamerVideoWriter.put, hfeed, if_true, Bool.true_eq_false, if_false]
    refine ⟨⟨?_, h.removed, congrArg (· + 1) h.puts⟩, trivial⟩
    simp only [Option.toList_some, List.map_append, List.map_singleton] at hnames ⊢
    exact hnames

/-- The next name, or the current file, goes with the number of frames before. -/
theorem Named.opened_of_none {input : List GstreamerBuffer} (h : Named env w n s)
    (hs : Chunked w input s) (hf : s.videoWriter = none) :
    s.opened = input.length / w.maxFrames ∧ input.length % w.maxFrames = 0 := by
  have hcurrent := hs.current
  rw [CurrentFile, hf] at hcurrent
  refine ⟨?_, hs.imageIndex ▸ hcurrent.1⟩
  rw [h.opened, hf, hs.files]
  rfl

end Names

/-! ### A frame that is accepted -/

/-- The environment without its errors. -/
def Env.quieted (env : Env) : Env :=
  { env with createRunner := fun _ _ => okStatus, feed := fun _ => okStatus }

theorem Env.quieted_quiet {env : Env} (hdst : ∀ n, env.isDstCompleted n = false) :
    env.quieted.Quiet := ⟨fun _ _ => rfl, fun _ => rfl, hdst⟩

section Frames

variable {env : Env} {w : Worker} {input : List GstreamerBuffer} {s : State}
  {v : StatusOr RawImage} {buffer : GstreamerBuffer}

/-- **An accepted frame is treated as without errors.** -/
theorem receive_quieted (hs : Chunked w input s) (hn : Named env w input.length s)
    (hv : converted v = some buffer) (haccepts : Accepts env w input.length buffer) :
    receive env w v s = receive env.quieted w v s := by
  obtain ⟨rawImage, himage, hconv⟩ := converted_eq_some hv
  have hcaps := toGstreamerBuffer_caps_ne_nil hconv
  have hopen : openVideoWriter env w buffer.caps s = openVideoWriter env.quieted w buffer.caps s ∧
      (openVideoWriter env w buffer.caps s).puts = input.length := by
    cases hf : s.videoWriter with
    | some f =>
      rw [openVideoWriter_of_some hf, openVideoWriter_of_some hf]
      exact ⟨rfl, hn.puts⟩
    | none =>
      obtain ⟨hopened, hmod⟩ := hn.opened_of_none hs hf
      rw [openVideoWriter_of_ok hf hcaps (hopened ▸ haccepts.1 hmod),
        openVideoWriter_of_ok hf hcaps rfl]
      exact ⟨rfl, hn.puts⟩
  have hput : ∀ s' : State, s'.puts = input.length →
      putFrame env buffer s' = putFrame env.quieted buffer s' := by
    intro s' hputs
    rw [putFrame, putFrame]
    cases s'.videoWriter with
    | none => rfl
    | some f =>
      simp only [GstreamerVideoWriter.put, hputs, haccepts.2, Env.quieted, okStatus_ok,
        Bool.true_eq_false, if_false]
  rw [receive_eq_writeFrame himage hconv, receive_eq_writeFrame himage hconv, writeFrame,
    writeFrame]
  simp only [← hopen.1, ← hput _ hopen.2]
  rfl

/-- Without errors, a frame goes into a file that has the next name. -/
theorem Named.receive (hq : env.Quiet) {n : ℕ} (hn : Named env w n s)
    (hok : s.returnStatus.ok = true) (hv : converted v = some buffer) :
    Named env w (n + 1) (receive env w v s) := by
  obtain ⟨rawImage, himage, hconv⟩ := converted_eq_some hv
  have hcaps := toGstreamerBuffer_caps_ne_nil hconv
  obtain ⟨hopen, hstatus⟩ := hn.openVideoWriter hcaps hq.createRunner
  have hfile : (LocalVideoSaver.openVideoWriter env w buffer.caps s).videoWriter ≠ none := by
    cases hf : s.videoWriter with
    | some f =>
      rw [openVideoWriter_of_some hf, hf]
      exact Option.some_ne_none f
    | none =>
      rw [openVideoWriter_of_ok hf hcaps (hq.createRunner _ _)]
      exact Option.some_ne_none _
  obtain ⟨hput, hstatus'⟩ := hopen.putFrame hfile hq.feed buffer
  have hok' := hstatus.symm ▸ hok
  have hok'' := hstatus'.symm ▸ hok'
  rw [receive_eq_writeFrame himage hconv, writeFrame]
  simp only [hok', hok'', Bool.true_eq_false, if_false]
  exact hput.nextImage hok''

/-- **One more frame that is accepted.** -/
theorem receive_accepted (hdst : ∀ n, env.isDstCompleted n = false) (hmax : 0 < w.maxFrames)
    (hs : Chunked w input s) (hn : Named env w input.length s) (hv : converted v = some buffer)
    (haccepts : Accepts env w input.length buffer) :
    Chunked w (input ++ [buffer]) (receive env w v s) ∧
      Named env w (input ++ [buffer]).length (receive env w v s) := by
  have hq := Env.quieted_quiet hdst
  have hquiet : Named env.quieted w input.length s := ⟨hn.names, hn.removed, hn.puts⟩
  have hnext := hquiet.receive hq (by rw [hs.returnStatus]; rfl) hv
  rw [receive_quieted hs hn hv haccepts, List.length_append, List.length_singleton]
  exact ⟨hs.receive hq hv hmax, hnext.names, hnext.removed, hnext.puts⟩

/-! ### A frame that fails -/

/-- **The state in which a round fails**: the files flushed are those before it, and the
path is that of the file in progress, the next name, or empty. -/
structure Broken (env : Env) (w : Worker) (s s' : State) : Prop where
  returnStatus : s'.returnStatus.ok = false
  written : s'.written = s.written
  removed : s'.removed = s.removed
  forwarded : s'.forwarded = s.forwarded
  frames : s'.videoWriter.toList.flatMap GstreamerVideoWriter.frames =
    s.videoWriter.toList.flatMap GstreamerVideoWriter.frames
  path : ∀ f ∈ s'.videoWriter, filePath f = s'.outputVideoFilePath
  opened : (s'.opened = s.written.length ∧ s'.outputVideoFilePath = "") ∨
    (s'.opened = s.written.length + 1 ∧
      s'.outputVideoFilePath = generateVideoFilePath env w.options s.written.length)

/-- Where a round stands before its next frame. -/
theorem Named.broken {n : ℕ} (hn : Named env w n s) (hs : Chunked w input s) (status : Status)
    (herr : status.ok = false) : Broken env w s { s with returnStatus := status } where
  returnStatus := herr
  written := rfl
  removed := rfl
  forwarded := rfl
  frames := rfl
  path := by
    intro f hf
    have hcurrent := hs.current
    rw [CurrentFile, Option.mem_def.mp hf] at hcurrent
    exact hcurrent.2.2.1
  opened := by
    have hcurrent := hs.current
    have hopened := hn.opened
    cases hf : s.videoWriter with
    | none =>
      rw [CurrentFile, hf] at hcurrent
      rw [hf] at hopened
      exact Or.inl ⟨hopened, hcurrent.2⟩
    | some f =>
      rw [CurrentFile, hf] at hcurrent
      rw [hf] at hopened
      exact Or.inr ⟨hopened, hcurrent.2.2.1.symm.trans (hn.current hf)⟩

theorem putFrame_of_error {f : GstreamerVideoWriter} (hf : s.videoWriter = some f)
    (hfeed : (env.feed s.puts).ok = false) (buffer : GstreamerBuffer) :
    putFrame env buffer s =
      { s with
        puts := s.puts + 1
        returnStatus :=
          unknownError ("Failed to write a raw image: " ++ (env.feed s.puts).message) } := by
  rw [putFrame, hf]
  simp only [GstreamerVideoWriter.put, hfeed, Bool.false_eq_true, if_false, if_true, ← hf]

/-- A `Put` that fails ends the round of the file that is open. -/
theorem writeFrame_of_put_error {s₁ : State} {f : GstreamerVideoWriter}
    (hopen : openVideoWriter env w buffer.caps s = s₁) (hok : s₁.returnStatus.ok = true)
    (hf : s₁.videoWriter = some f) (hfeed : (env.feed s₁.puts).ok = false) :
    writeFrame env w buffer s = endRound env w (putFrame env buffer s₁) := by
  have hput := putFrame_of_error hf hfeed buffer
  rw [writeFrame, hopen]
  simp only [hok, Bool.true_eq_false, if_false]
  exact if_pos (by rw [hput]; rfl)

/-- A frame that is not the first of its file fails at `Put`. -/
theorem broken_current (hs : Chunked w input s) (hn : Named env w input.length s)
    (haccepts : ¬ Accepts env w input.length buffer) {f : GstreamerVideoWriter}
    (hf : s.videoWriter = some f) :
    ∃ s', writeFrame env w buffer s = endRound env w s' ∧ Broken env w s s' := by
  have hmod : input.length % w.maxFrames ≠ 0 := by
    have hcurrent := hs.current
    rw [CurrentFile, hf, hs.imageIndex] at hcurrent
    omega
  have hfeed : (env.feed s.puts).ok = false := by
    rw [hn.puts, Bool.eq_false_iff]
    exact fun hfeed => haccepts ⟨fun hzero => absurd hzero hmod, hfeed⟩
  have hput := putFrame_of_error hf hfeed buffer
  have hbroken := hn.broken hs (putFrame env buffer s).returnStatus (by rw [hput]; rfl)
  refine ⟨_, writeFrame_of_put_error (openVideoWriter_of_some hf _)
    (by rw [hs.returnStatus]; rfl) hf hfeed, ?_⟩
  rw [hput]
  exact ⟨rfl, rfl, rfl, rfl, rfl, hbroken.path, hbroken.opened⟩

/-- The first frame of a file fails at the creation of its writer, or at `Put`. -/
theorem broken_first (hs : Chunked w input s) (hn : Named env w input.length s)
    (hcaps : buffer.caps ≠ []) (haccepts : ¬ Accepts env w input.length buffer)
    (hf : s.videoWriter = none) :
    ∃ s', writeFrame env w buffer s = endRound env w s' ∧ Broken env w s s' := by
  obtain ⟨hopened, hmod⟩ := hn.opened_of_none hs hf
  have hlen : s.opened = s.written.length := hopened.trans hs.files.symm
  have hname : generateVideoFilePath env w.options s.opened =
      generateVideoFilePath env w.options s.written.length := by rw [hlen]
  by_cases hrunner :
      (env.createRunner s.opened (runnerOptions env w s.opened buffer.caps)).ok = true
  · have hfeed : (env.feed s.puts).ok = false := by
      rw [hn.puts, Bool.eq_false_iff]
      exact fun hfeed => haccepts ⟨fun _ => hopened ▸ hrunner, hfeed⟩
    let s₁ : State :=
      { s with
        videoWriter := some ⟨writerOptions env w s.opened buffer.caps, []⟩
        outputVideoFilePath := generateVideoFilePath env w.options s.opened
        opened := s.opened + 1 }
    have hput := putFrame_of_error (s := s₁) rfl hfeed buffer
    refine ⟨putFrame env buffer s₁, writeFrame_of_put_error (openVideoWriter_of_ok hf hcaps hrunner)
      (by rw [hs.returnStatus]; rfl) rfl hfeed, ?_⟩
    rw [hput]
    refine ⟨rfl, rfl, rfl, rfl, by rw [hf]; rfl, ?_, Or.inr ⟨congrArg (· + 1) hlen, hname⟩⟩
    intro f hmem
    obtain rfl := Option.some.inj (Option.mem_def.mp hmem)
    rfl
  · have hopen := openVideoWriter_of_error hf hcaps (Bool.eq_false_iff.mpr hrunner)
    refine ⟨openVideoWriter env w buffer.caps s, ?_, ?_⟩
    · rw [writeFrame, hopen]
      rfl
    · rw [hopen]
      refine ⟨rfl, rfl, rfl, rfl, rfl, ?_, Or.inr ⟨congrArg (· + 1) hlen, hname⟩⟩
      intro f hmem
      rw [Option.mem_def, hf] at hmem
      cases hmem

/-- **An image that fails ends its round**, and leaves the files before it as they are. -/
theorem receive_failed (hs : Chunked w input s) (hn : Named env w input.length s)
    (hfails : Fails env w input.length (.popped v)) :
    ∃ s', receive env w v s = endRound env w s' ∧ Broken env w s s' := by
  cases v with
  | error status hstatus => exact False.elim hfails
  | value rawImage =>
    obtain ⟨r, hconv, hbad⟩ := hfails
    cases r with
    | error status hstatus =>
      refine ⟨_, ?_, hn.broken hs (unknownError
        ("Could not convert a raw image into a gstreamer buffer: " ++ status.message)) rfl⟩
      rw [receive, if_neg (by simp [StatusOr.status])]
      simp only [StatusOr.valueOrDie, hconv]
    | value buffer =>
      rcases hbad with hok | ⟨b, hb, haccepts⟩
      · cases hok
      · obtain rfl := StatusOr.value.inj hb
        rw [receive_eq_writeFrame rfl hconv]
        cases hf : s.videoWriter with
        | some f => exact broken_current hs hn haccepts hf
        | none => exact broken_first hs hn (toGstreamerBuffer_caps_ne_nil hconv) haccepts hf

/-! ### What a run leaves -/

theorem length_flatMap_of_full {files : List GstreamerVideoWriter} {m : ℕ}
    (h : ∀ f ∈ files, f.frames.length = m) :
    (files.flatMap GstreamerVideoWriter.frames).length = files.length * m := by
  induction files with
  | nil => rw [List.flatMap_nil, List.length_nil, List.length_nil, Nat.zero_mul]
  | cons f files ih =>
    rw [List.flatMap_cons, List.length_append, h f List.mem_cons_self,
      ih fun g hg => h g (List.mem_cons_of_mem _ hg), List.length_cons, Nat.succ_mul, Nat.add_comm]

/-- No file flushed before has the path of a round that fails. -/
theorem Broken.fresh {s' : State} {n : ℕ} (hb : Broken env w s s') (hs : Chunked w input s)
    (hn : Named env w n s)
    (hnames : Function.Injective (generateVideoFilePath env w.options)) :
    ∀ f ∈ s.written, filePath f ≠ s'.outputVideoFilePath := by
  intro f hf
  rcases hb.opened with ⟨_, hpath⟩ | ⟨_, hpath⟩
  · rw [hpath]
    exact (hs.full f hf).2
  · rw [hpath]
    exact hn.fresh hnames (Nat.le_refl _) f hf

/-- **A round that fails leaves the files before it.** -/
theorem Broken.remaining_eq {s' : State} {n : ℕ} (hb : Broken env w s s') (hs : Chunked w input s)
    (hn : Named env w n s)
    (hnames : Function.Injective (generateVideoFilePath env w.options)) :
    remaining (endRound env w s') = s.written := by
  obtain ⟨hwritten, hremoved, _⟩ := endRound_of_error env w hb.returnStatus
  rw [hb.written] at hwritten
  rw [hb.removed, hn.removed, List.nil_append] at hremoved
  rw [remaining, hwritten, hremoved, List.filter_append, List.filter_eq_self.mpr,
    List.filter_eq_nil_iff.mpr, List.append_nil]
  · intro f hf
    have hpath := hb.path f (Option.mem_toList.mp hf)
    rw [filePath] at hpath
    simp [hpath]
  · intro f hf
    exact decide_eq_true fun hmem => hb.fresh hs hn hnames f hf (List.mem_singleton.mp hmem)

/-- **A failed round leaves the full files**, and cleans up its own. -/
theorem Broken.wroteFullChunks {s' : State} {n : ℕ} (hb : Broken env w s s')
    (hs : Chunked w input s) (hn : Named env w n s)
    (hnames : Function.Injective (generateVideoFilePath env w.options)) :
    WroteFullChunks env w input (endRound env w s') := by
  obtain ⟨hwritten, hremoved, hopened, houtcome, hforwarded⟩ :=
    endRound_of_error env w hb.returnStatus
  have hremaining := hb.remaining_eq hs hn hnames
  have hfull : ∀ f ∈ s.written, f.frames.length = w.maxFrames := fun f hf => (hs.full f hf).1
  have hframes := hs.frames
  rw [List.flatMap_append] at hframes
  refine ⟨⟨_, houtcome, hb.returnStatus⟩, ?_, ?_, ?_, ?_, ?_⟩
  · rw [hremaining]
    exact hn.written
  · rw [hremaining, ← hs.files]
    conv_rhs => rw [← hframes]
    exact (List.take_left' (length_flatMap_of_full hfull)).symm
  · rw [hremaining]
    exact hfull
  · rw [hwritten, hb.written, List.flatMap_append, hb.frames]
    exact hframes
  · intro k hle hlt
    rw [hremaining] at hle
    rw [hopened] at hlt
    rcases hb.opened with ⟨hlen, _⟩ | ⟨hlen, hpath⟩
    · omega
    · obtain rfl : k = s.written.length := by omega
      rw [hremoved, ← hpath]
      refine ⟨List.mem_append_right _ (List.mem_singleton_self _), fun hmem => ?_⟩
      have hmem' := hforwarded _ hmem
      rw [hb.forwarded] at hmem'
      obtain ⟨f, hf, hvalue⟩ := hs.forwarded _ hmem'
      exact hb.fresh hs hn hnames f hf (StatusOr.value.inj hvalue).symm

/-- **The end of the stream leaves all frames.** -/
theorem receive_ends (hdst : ∀ n, env.isDstCompleted n = false) (hmax : 0 < w.maxFrames)
    (hs : Chunked w input s) {n : ℕ} (hn : Named env w n s) {eos : StatusOr RawImage}
    (heos : eos.status.code = .kNotFound) : WroteAll env w input (receive env w eos s) := by
  have hreceive : receive env w eos s = endRound env w { s with startNewFile := false } := by
    rw [receive, if_pos heos]
  have hquieted : receive env.quieted w eos s = receive env w eos s := by
    rw [receive, if_pos heos, hreceive]
    rfl
  obtain ⟨houtcome, hwritten, _⟩ := hs.receive_eos (Env.quieted_quiet hdst) heos
  rw [hquieted] at houtcome hwritten
  have hend : Named env w n (receive env w eos s) := by
    rw [hreceive]
    exact Named.endRound ⟨hn.names, hn.removed, hn.puts⟩ (by rw [hs.returnStatus]; rfl)
  have hremaining : remaining (receive env w eos s) = s.written ++ s.videoWriter.toList := by
    rw [remaining, hend.removed, hwritten]
    exact List.filter_eq_self.mpr fun f _ => decide_eq_true List.not_mem_nil
  refine ⟨houtcome, ?_, by rw [hremaining]; exact hs.frames, s.written, s.videoWriter,
    hremaining, fun f hf => (hs.full f hf).1, ?_⟩
  · rw [hremaining, ← hwritten]
    exact hend.written
  · intro f hf
    have hcurrent := hs.current
    rw [CurrentFile, Option.mem_def.mp hf] at hcurrent
    obtain ⟨hpos, hlen, _⟩ := hcurrent
    rw [hlen, hs.imageIndex]
    rw [hs.imageIndex] at hpos
    exact ⟨hpos, Nat.mod_lt _ hmax⟩

/-- **The run lemma**: frames that are all accepted keep the chunks, and the names. -/
theorem run_accepted (hdst : ∀ n, env.isDstCompleted n = false) (hmax : 0 < w.maxFrames)
    {polls : List (Poll RawImage)} (hsrc : .timedOut true ∉ polls) :
    ∀ {input frames : List GstreamerBuffer} {s : State}, Chunked w input s →
      Named env w input.length s → (pollValues polls).map converted = frames.map some →
      (∀ k (hk : k < frames.length), Accepts env w (input.length + k) frames[k]) →
      Chunked w (input ++ frames) (run env w polls s) ∧
        Named env w (input ++ frames).length (run env w polls s) := by
  induction polls with
  | nil =>
    intro input frames s hs hn hvalues _
    obtain rfl : frames = [] := List.map_eq_nil_iff.mp hvalues.symm
    rw [List.append_nil]
    exact ⟨hs, hn⟩
  | cons p polls ih =>
    intro input frames s hs hn hvalues haccepts
    have hsrc' : .timedOut true ∉ polls := fun hmem => hsrc (List.mem_cons_of_mem _ hmem)
    rw [run_cons]
    cases p with
    | timedOut completed =>
      cases completed with
      | true => exact absurd List.mem_cons_self hsrc
      | false =>
        rw [poll_waiting]
        exact ih hsrc' hs hn hvalues haccepts
    | popped v =>
      cases frames with
      | nil => cases hvalues
      | cons buffer frames =>
        rw [pollValues_popped, List.map_cons, List.map_cons] at hvalues
        obtain ⟨hv, hrest⟩ := List.cons.inj hvalues
        have hfirst := haccepts 0 (Nat.succ_pos _)
        obtain ⟨hs', hn'⟩ := receive_accepted hdst hmax
          (hs.popped (s.popped ++ [v])) (hn.popped _) hv hfirst
        rw [poll_popped hs.running, List.append_cons]
        refine ih hsrc' hs' hn' hrest fun k hk => ?_
        have hnext := haccepts (k + 1) (Nat.succ_lt_succ hk)
        rw [List.length_append, List.length_singleton, Nat.add_assoc, Nat.add_comm 1 k]
        exact hnext

/-- **Chunking is exact.**  Frames are delivered and accepted, then a poll ends the stream or
fails.  If names are distinct and downstream keeps running, the files that remain hold, in
the order of their creation, consecutive chunks of `maxFrames` frames: after the end of the
stream all frames, with a last file that may be shorter, and after a failure the chunks that
were full. -/
theorem chunks_exact (hpre : (validatePreconditions w).ok = true)
    (hdst : ∀ n, env.isDstCompleted n = false)
    (hnames : Function.Injective (generateVideoFilePath env w.options))
    {before after : List (Poll RawImage)} {p : Poll RawImage} (hsrc : .timedOut true ∉ before)
    (hinput : (pollValues before).map converted = input.map some)
    (haccepts : ∀ n (hn : n < input.length), Accepts env w n input[n]) :
    (p.Ends → WroteAll env w input (workImpl env w (before ++ p :: after))) ∧
      (Fails env w input.length p →
        WroteFullChunks env w input (workImpl env w (before ++ p :: after))) := by
  have hmax := maxFrames_pos hpre
  obtain ⟨hs, hn⟩ := run_accepted hdst hmax hsrc (chunked_initial w) (named_initial env w) hinput
    (by simpa using haccepts)
  rw [List.nil_append] at hs hn
  have hwork : workImpl env w (before ++ p :: after) =
      run env w after (poll env w p (run env w before initial)) := by
    rw [workImpl, if_neg (by simp [hpre]), run_append, run_cons]
  rw [hwork]
  constructor
  · intro hends
    have hall : WroteAll env w input (poll env w p (run env w before initial)) := by
      cases p with
      | popped v =>
        rw [poll_popped hs.running]
        exact receive_ends hdst hmax (hs.popped _) (hn.popped _) hends
      | timedOut completed =>
        obtain rfl : completed = true := hends
        rw [poll_completed hs.running]
        exact receive_ends hdst hmax hs hn rfl
    rw [run_of_over _ (by simp [hall.returned])]
    exact hall
  · intro hfails
    cases p with
    | timedOut completed => exact False.elim hfails
    | popped v =>
      rw [poll_popped hs.running]
      obtain ⟨s', hreceive, hbroken⟩ := receive_failed
        (hs.popped ((run env w before initial).popped ++ [v])) (hn.popped _) hfails
      have hfull := hbroken.wroteFullChunks (hs.popped _) (hn.popped _) hnames
      rw [hreceive]
      obtain ⟨status, houtcome, _⟩ := hfull.returned
      rw [run_of_over _ (by simp [houtcome])]
      exact hfull

end Frames

/-- Names that grow, and a second `Put` that fails. -/
def secondPutFails : Env :=
  { undisturbed with
    timeString := fun n => String.ofList (List.replicate n '0')
    feed := fun n => if n = 1 then unavailableError "" else okStatus }

theorem secondPutFails_names :
    Function.Injective (generateVideoFilePath secondPutFails (attachedSaver 1).options) := by
  intro j k h
  have hlen := congrArg String.length h
  simpa [generateVideoFilePath, secondPutFails, attachedSaver, String.intercalate_cons_cons]
    using hlen

/-- One frame and EOS, and two frames of which the second fails. -/
theorem chunks_exact_secondPutFails : ∃ buffer, converted (.value .default) = some buffer ∧
    WroteAll secondPutFails (attachedSaver 1) [buffer]
      (workImpl secondPutFails (attachedSaver 1) [.popped (.value .default), .popped eosValue]) ∧
    WroteFullChunks secondPutFails (attachedSaver 1) [buffer]
      (workImpl secondPutFails (attachedSaver 1)
        [.popped (.value .default), .popped (.value .default)]) := by
  obtain ⟨buffer, hbuffer⟩ :=
    Option.isSome_iff_exists.mp (show (converted (.value .default)).isSome = true from rfl)
  obtain ⟨rawImage, himage, hconv⟩ := converted_eq_some hbuffer
  have hinput : (pollValues [.popped (.value .default)]).map converted = [buffer].map some := by
    rw [pollValues_popped, List.map_cons, hbuffer]
    rfl
  have haccepts : ∀ n (hn : n < [buffer].length),
      Accepts secondPutFails (attachedSaver 1) n [buffer][n] := by
    intro n hn
    obtain rfl : n = 0 := Nat.lt_one_iff.mp hn
    exact ⟨fun _ => rfl, rfl⟩
  have hrun := fun p => @chunks_exact secondPutFails (attachedSaver 1) [buffer] rfl
    (fun _ => rfl) secondPutFails_names [.popped (.value .default)] [] p
    (popped_not_timedOut [.value RawImage.default]) hinput haccepts
  refine ⟨buffer, hbuffer, (hrun (.popped eosValue)).1 rfl, (hrun (.popped _)).2 ?_⟩
  refine ⟨.value buffer, StatusOr.value.inj himage ▸ hconv, Or.inr ⟨buffer, rfl, ?_⟩⟩
  exact fun h => nomatch h.2

end LocalVideoSaver

end AIStreams
