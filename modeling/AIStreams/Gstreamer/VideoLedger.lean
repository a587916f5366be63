import AIStreams.Gstreamer.GcsUploader
import AIStreams.Gstreamer.VideoChunking

/-!
# What the saver forwards

The paths that `LocalVideoSaver::WorkImpl` of `aistreams/gstreamer/gstreamer_video_exporter.cc` puts
on its output channel, whatever goes wrong on the way.

* `RoundEnded`, `endRound_ended`: what the end of a round does.
* `Ledger`: the paths forwarded are those of files that were written, in order, and the files hold
  what was taken.
* `Ledger.poll_popped`, `Ledger.poll_timedOut`: every poll keeps that.
-/

namespace AIStreams

theorem Outcome.over_of_returned {outcome : Outcome} {status : Status}
    (h : outcome = .returned status) : outcome ≠ .running := by
  intro hrun
  cases h.symm.trans hrun

namespace LocalVideoSaver

/-- The channel of paths takes every one, and its other end keeps running. -/
structure Willing (env : Env) (w : Worker) : Prop where
  forwards : w.options.forwardFilePaths = true
  isDstCompleted : ∀ n, env.isDstCompleted n = false
  tryEmplace : ∀ n, env.tryEmplace n = true

/-- The path of a file, as it is forwarded. -/
def sentPath (f : GstreamerVideoWriter) : StatusOr String := .value (filePath f)

/-! ### The end of a round -/

/-- From the end of the inner loop to the next round, or to the return: `round` is what the round
forwards, and `ends` what the cleanup does. -/
structure RoundEnded (env : Env) (w : Worker) (s s' : State) (round ends : List (StatusOr String)) :
    Prop where
  written : s'.written = s.written ++ s.videoWriter.toList
  forwarded : s'.forwarded = s.forwarded ++ (round ++ ends)
  ofRound : round = [] ∨ s.returnStatus.ok = true ∧ round = [.value s.outputVideoFilePath]
  ofEnds : ends = [] ∨ ends = [GcsUploader.eosValue]
  willing : Willing env w → s.returnStatus.ok = true → round = [.value s.outputVideoFilePath]
  next : (s'.outcome = .returned s.returnStatus ∧
      (Willing env w → ends = [GcsUploader.eosValue])) ∨
    (s.returnStatus.ok = true ∧ s.startNewFile = true ∧ ends = [] ∧ s'.outcome = s.outcome ∧
      s'.returnStatus = s.returnStatus ∧ s'.startNewFile = true ∧ s'.videoWriter = none ∧
      s'.outputVideoFilePath = "" ∧ s'.imageIndex = 0)

section EndRound

variable (env : Env) (w : Worker)

theorem cleanup_ended (s : State) : ∃ ends, (cleanup env w s).forwarded = s.forwarded ++ ends ∧
    (ends = [] ∨ ends = [GcsUploader.eosValue]) ∧
    (Willing env w → ends = [GcsUploader.eosValue]) ∧
    (cleanup env w s).outcome = .returned s.returnStatus ∧
    (cleanup env w s).written = s.written := by
  by_cases hf : w.options.forwardFilePaths = true
  · refine ⟨if env.tryEmplace s.emplaced then [GcsUploader.eosValue] else [], ?_, ?_, ?_, ?_, ?_⟩
    · rw [cleanup, if_pos hf]
      rfl
    · by_cases htry : env.tryEmplace s.emplaced = true
      · exact Or.inr (if_pos htry)
      · exact Or.inl (if_neg htry)
    · intro hwilling
      exact if_pos (hwilling.tryEmplace _)
    · rw [cleanup, if_pos hf]
    · rw [cleanup, if_pos hf]
  · refine ⟨[], ?_, Or.inl rfl, fun hwilling => absurd hwilling.forwards hf, ?_, ?_⟩
    · rw [cleanup, if_neg hf, List.append_nil]
    · rw [cleanup, if_neg hf]
    · rw [cleanup, if_neg hf]

/-- What `settle` leaves alone. -/
structure Settled (env : Env) (w : Worker) (s s' : State) (round : List (StatusOr String)) :
    Prop where
  written : s'.written = s.written
  returnStatus : s'.returnStatus = s.returnStatus
  outcome : s'.outcome = s.outcome
  forwarded : s'.forwarded = s.forwarded ++ round
  ofRound : round = [] ∨ s.returnStatus.ok = true ∧ round = [.value s.outputVideoFilePath]
  willing : Willing env w → s.returnStatus.ok = true → round = [.value s.outputVideoFilePath]
  startNewFile : s'.startNewFile = true → s.returnStatus.ok = true ∧ s.startNewFile = true

theorem settle_settled (s : State) : ∃ round, Settled env w s (settle env w s) round := by
  by_cases hok : s.returnStatus.ok = true
  · have hnot : ¬ s.returnStatus.ok = false := by simp [hok]
    by_cases hf : w.options.forwardFilePaths = true
    · rw [settle, if_neg hnot, if_pos hf, forward]
      by_cases hdst : env.isDstCompleted s.dstChecks = false
      · refine ⟨if env.tryEmplace s.emplaced then [.value s.outputVideoFilePath] else [], ?_⟩
        rw [if_pos hdst]
        refine ⟨rfl, rfl, rfl, rfl, ?_, fun hwilling _ => if_pos (hwilling.tryEmplace _),
          fun hstart => ⟨hok, hstart⟩⟩
        by_cases htry : env.tryEmplace s.emplaced = true
        · exact Or.inr ⟨hok, if_pos htry⟩
        · exact Or.inl (if_neg htry)
      · rw [if_neg hdst]
        refine ⟨[], rfl, rfl, rfl, (List.append_nil _).symm, Or.inl rfl, ?_, fun hstart => ?_⟩
        · exact fun hwilling => absurd (hwilling.isDstCompleted _) hdst
        · cases hstart
    · rw [settle, if_neg hnot, if_neg hf]
      exact ⟨[], rfl, rfl, rfl, (List.append_nil _).symm, Or.inl rfl,
        fun hwilling => absurd hwilling.forwards hf, fun hstart => ⟨hok, hstart⟩⟩
  · rw [settle, if_pos (Bool.eq_false_iff.mpr hok)]
    refine ⟨[], rfl, rfl, rfl, (List.append_nil _).symm, Or.inl rfl,
      fun _ hok' => absurd hok' hok, fun hstart => ?_⟩
    cases hstart

theorem endRound_ended (s : State) :
    ∃ round ends, RoundEnded env w s (endRound env w s) round ends := by
  obtain ⟨round, hsettled⟩ := settle_settled env w (flush s)
  have hwritten : (settle env w (flush s)).written = s.written ++ s.videoWriter.toList :=
    hsettled.written
  by_cases hstart : (settle env w (flush s)).startNewFile = true
  · obtain ⟨hok, hnew⟩ := hsettled.startNewFile hstart
    refine ⟨round, [], ?_⟩
    rw [endRound]
    simp only [hstart, if_true]
    exact ⟨hwritten, hsettled.forwarded.trans (by rw [List.append_nil]; rfl), hsettled.ofRound,
      Or.inl rfl, hsettled.willing, Or.inr ⟨hok, hnew, rfl, hsettled.outcome,
        hsettled.returnStatus, rfl, rfl, rfl, rfl⟩⟩
  · obtain ⟨ends, hforwarded, hends, hwilling, houtcome, hcleanup⟩ :=
      cleanup_ended env w (settle env w (flush s))
    refine ⟨round, ends, ?_⟩
    rw [endRound]
    simp only [hstart]
    refine ⟨hcleanup.trans hwritten, ?_, hsettled.ofRound, hends, hsettled.willing,
      Or.inl ⟨houtcome.trans (by rw [hsettled.returnStatus]; rfl), hwilling⟩⟩
    exact hforwarded.trans (by rw [hsettled.forwarded, List.append_assoc]; rfl)

end EndRound

/-! ### The ledger -/

/-- The file has a frame, and no more than there may be. -/
def Sized (w : Worker) (f : GstreamerVideoWriter) : Prop :=
  0 < f.frames.length ∧ f.frames.length ≤ w.maxFrames

/-- What was forwarded: the paths of files that were written, in order, and something more. -/
structure Forwards (w : Worker) (s : State) (files : List GstreamerVideoWriter)
    (more : List (StatusOr String)) : Prop where
  forwarded : s.forwarded = files.map sentPath ++ more
  written : files.Sublist s.written
  sized : ∀ f ∈ files, Sized w f

/-- In the loop, after the values `taken`. -/
structure Open (env : Env) (w : Worker) (taken : List (StatusOr RawImage)) (s : State) : Prop where
  running : s.outcome = .running
  returnStatus : s.returnStatus.ok = true
  startNewFile : s.startNewFile = true
  current : CurrentFile s
  imageIndex : s.imageIndex < w.maxFrames
  frames : (s.written ++ s.videoWriter.toList).flatMap GstreamerVideoWriter.frames =
    taken.filterMap converted
  forwarded : ∃ files, Forwards w s files [] ∧ (Willing env w → files = s.written)

/-- Past the loop: the last path may be empty, and an EOS may follow. -/
structure Closed (env : Env) (w : Worker) (taken : List (StatusOr RawImage)) (s : State) :
    Prop where
  finished : s.outcome ≠ .running
  frames : s.written.flatMap GstreamerVideoWriter.frames <+: taken.filterMap converted
  forwarded : ∃ files last ends, Forwards w s files (last ++ ends) ∧
    (last = [] ∨ last = [.value ""]) ∧ (ends = [] ∨ ends = [GcsUploader.eosValue]) ∧
    (Willing env w → ∀ status, s.outcome = .returned status → status.ok = true →
      files = s.written ∧ ends = [GcsUploader.eosValue])

def Ledger (env : Env) (w : Worker) (taken : List (StatusOr RawImage)) (s : State) : Prop :=
  Open env w taken s ∨ Closed env w taken s

/-- In front of the end of a round. -/
structure Ending (env : Env) (w : Worker) (taken : List (StatusOr RawImage)) (s : State) :
    Prop where
  running : s.outcome = .running
  frames : (s.written ++ s.videoWriter.toList).flatMap GstreamerVideoWriter.frames <+:
    taken.filterMap converted
  forwarded : ∃ files, Forwards w s files [] ∧ (Willing env w → files = s.written)
  path : s.returnStatus.ok = true → s.outputVideoFilePath = s.videoWriter.elim "" filePath
  sized : s.returnStatus.ok = true → ∀ f ∈ s.videoWriter, Sized w f
  goesOn : s.returnStatus.ok = true → s.startNewFile = true → s.videoWriter ≠ none ∧
    (s.written ++ s.videoWriter.toList).flatMap GstreamerVideoWriter.frames =
      taken.filterMap converted

section Ledger

variable {env : Env} {w : Worker} {taken : List (StatusOr RawImage)} {s : State}

theorem Forwards.same {s' : State} {files : List GstreamerVideoWriter}
    {more : List (StatusOr String)} (h : Forwards w s files more)
    (hforwarded : s'.forwarded = s.forwarded) (hwritten : s'.written = s.written) :
    Forwards w s' files more :=
  ⟨hforwarded.trans h.forwarded, hwritten ▸ h.written, h.sized⟩

/-- A file that is flushed and forwarded, or only flushed. -/
theorem Forwards.flush {s' : State} {files : List GstreamerVideoWriter}
    (h : Forwards w s files []) {f : GstreamerVideoWriter} (hf : Sized w f)
    (hwritten : s'.written = s.written ++ [f]) {round more : List (StatusOr String)}
    (hforwarded : s'.forwarded = s.forwarded ++ (round ++ more)) :
    (round = [] → Forwards w s' files more) ∧
      (round = [sentPath f] → Forwards w s' (files ++ [f]) more) := by
  constructor
  · rintro rfl
    refine ⟨?_, ?_, h.sized⟩
    · rw [hforwarded, h.forwarded, List.append_nil, List.nil_append]
    · rw [hwritten]
      exact h.written.trans (List.sublist_append_left _ _)
  · rintro rfl
    refine ⟨?_, ?_, ?_⟩
    · rw [hforwarded, h.forwarded, List.append_nil, List.map_append, List.append_assoc]
      rfl
    · rw [hwritten]
      exact h.written.append (List.Sublist.refl _)
    · exact List.forall_mem_append.mpr ⟨h.sized, List.forall_mem_singleton.mpr hf⟩

/-- **The end of a round keeps the ledger.** -/
theorem Ending.endRound (hmax : 0 < w.maxFrames) (h : Ending env w taken s) :
    Ledger env w taken (endRound env w s) := by
  obtain ⟨round, ends, hended⟩ := endRound_ended env w s
  obtain ⟨files, hfiles, hall⟩ := h.forwarded
  have hframes : (LocalVideoSaver.endRound env w s).written.flatMap GstreamerVideoWriter.frames <+:
      taken.filterMap converted := by
    rw [hended.written]
    exact h.frames
  by_cases hok : s.returnStatus.ok = true
  · cases hv : s.videoWriter with
    | none =>
      have hpath : s.outputVideoFilePath = "" := by rw [h.path hok, hv]; rfl
      have hwritten : (LocalVideoSaver.endRound env w s).written = s.written := by
        rw [hended.written, hv, Option.toList_none, List.append_nil]
      rcases hended.next with ⟨hreturned, hwilling⟩ | ⟨_, hnew, _⟩
      · refine Or.inr ⟨Outcome.over_of_returned hreturned, hframes, files, round, ends,
          ⟨?_, ?_, ?_⟩, ?_, hended.ofEnds, fun hw status _ _ => ⟨?_, hwilling hw⟩⟩
        · rw [hended.forwarded, hfiles.forwarded, List.append_nil]
        · rw [hwritten]
          exact hfiles.written
        · exact hfiles.sized
        · rcases hended.ofRound with hround | ⟨_, hround⟩
          · exact Or.inl hround
          · exact Or.inr (by rw [hround, hpath])
        · rw [hwritten]
          exact hall hw
      · exact absurd hv (h.goesOn hok hnew).1
    | some f =>
      have hpath : s.outputVideoFilePath = filePath f := by rw [h.path hok, hv]; rfl
      have hwritten : (LocalVideoSaver.endRound env w s).written = s.written ++ [f] := by
        rw [hended.written, hv, Option.toList_some]
      obtain ⟨hskipped, hsent⟩ := hfiles.flush (h.sized hok f hv) hwritten hended.forwarded
      have hforwards : ∃ files', Forwards w (LocalVideoSaver.endRound env w s) files' ends ∧
          (Willing env w → files' = (LocalVideoSaver.endRound env w s).written) := by
        have hround : round = [] ∨ round = [sentPath f] := by
          rcases hended.ofRound with hround | ⟨_, hround⟩
          · exact Or.inl hround
          · exact Or.inr (by rw [hround, hpath]; rfl)
        rcases hround with hround | hround
        · refine ⟨files, hskipped hround, fun hw => ?_⟩
          have hsome := hended.willing hw hok
          rw [hround] at hsome
          cases hsome
        · refine ⟨files ++ [f], hsent hround, fun hw => ?_⟩
          rw [hwritten, hall hw]
      obtain ⟨files', hfiles', hall'⟩ := hforwards
      rcases hended.next with ⟨hreturned, hwilling⟩ | ⟨_, hnew, hends, hrunning, hstatus, hstart,
          hnone, hempty, hindex⟩
      · exact Or.inr ⟨Outcome.over_of_returned hreturned, hframes, files', [], ends, hfiles',
          Or.inl rfl, hended.ofEnds, fun hw status _ _ => ⟨hall' hw, hwilling hw⟩⟩
      · rw [hends] at hfiles'
        refine Or.inl ⟨hrunning.trans h.running, by rw [hstatus]; exact hok, hstart, ?_, ?_, ?_,
          files', hfiles', hall'⟩
        · rw [CurrentFile, hnone]
          exact ⟨hindex, hempty⟩
        · rw [hindex]
          exact hmax
        · rw [hnone, Option.toList_none, List.append_nil, hended.written]
          exact (h.goesOn hok hnew).2
  · have hround : round = [] := by
      rcases hended.ofRound with hround | ⟨hok', _⟩
      · exact hround
      · exact absurd hok' hok
    rcases hended.next with ⟨hreturned, _⟩ | ⟨hok', _⟩
    · refine Or.inr ⟨Outcome.over_of_returned hreturned, hframes, files, [], ends, ⟨?_, ?_, ?_⟩,
        Or.inl rfl, hended.ofEnds, fun _ status hstatus hok' => ?_⟩
      · rw [hended.forwarded, hround, hfiles.forwarded, List.append_nil]
      · rw [hended.written]
        exact hfiles.written.trans (List.sublist_append_left _ _)
      · exact hfiles.sized
      · obtain rfl := Outcome.returned.inj (hreturned.symm.trans hstatus)
        exact absurd hok' hok
    · exact absurd hok' hok

end Ledger

/-! ### One value -/

section Steps

variable {env : Env} {w : Worker} {taken : List (StatusOr RawImage)} {s : State}

theorem Open.popped (h : Open env w taken s) (popped : List (StatusOr RawImage)) :
    Open env w taken { s with popped := popped } :=
  ⟨h.running, h.returnStatus, h.startNewFile, h.current, h.imageIndex, h.frames, h.forwarded.imp
    fun _ hfiles => ⟨hfiles.1.same rfl rfl, hfiles.2⟩⟩

/-- The file of the current round. -/
theorem Open.file (h : Open env w taken s) :
    s.outputVideoFilePath = s.videoWriter.elim "" filePath ∧
      ∀ f ∈ s.videoWriter, Sized w f ∧ f.frames.length = s.imageIndex ∧ filePath f ≠ "" := by
  have hcurrent := h.current
  have hindex := h.imageIndex
  unfold CurrentFile at hcurrent
  cases hv : s.videoWriter with
  | none =>
    rw [hv] at hcurrent
    refine ⟨hcurrent.2, fun f hf => ?_⟩
    cases hf
  | some f =>
    rw [hv] at hcurrent
    obtain ⟨hpos, hlen, hpath, hne⟩ := hcurrent
    refine ⟨hpath.symm, fun f' hf' => ?_⟩
    obtain rfl := Option.some.inj hf'
    exact ⟨⟨by omega, by omega⟩, hlen, hne⟩

/-- A round that ends with an EOS, or that fails before its file is touched. -/
theorem Open.ending (h : Open env w taken s) {taken' : List (StatusOr RawImage)}
    (htaken : taken.filterMap converted <+: taken'.filterMap converted) {s' : State}
    (hstop : s'.startNewFile = false ∨ s'.returnStatus.ok = false)
    (hsame : s'.outcome = s.outcome ∧ s'.written = s.written ∧ s'.forwarded = s.forwarded ∧
      s'.videoWriter = s.videoWriter)
    (hpath : s'.returnStatus.ok = true → s'.outputVideoFilePath = s.outputVideoFilePath) :
    Ending env w taken' s' := by
  obtain ⟨houtcome, hwritten, hforwarded, hwriter⟩ := hsame
  obtain ⟨files, hfiles, hall⟩ := h.forwarded
  refine ⟨houtcome.trans h.running, ?_, ⟨files, ⟨?_, ?_, hfiles.sized⟩, ?_⟩, fun hok => ?_,
    fun _ => ?_, fun hok hnew => ?_⟩
  · rw [hwritten, hwriter, h.frames]
    exact htaken
  · rw [hforwarded]
    exact hfiles.forwarded
  · rw [hwritten]
    exact hfiles.written
  · rw [hwritten]
    exact hall
  · rw [hpath hok, hwriter]
    exact h.file.1
  · rw [hwriter]
    exact fun f hf => (h.file.2 f hf).1
  · rcases hstop with hstop | hstop
    · rw [hstop] at hnew
      cases hnew
    · rw [hstop] at hok
      cases hok

/-- What stands for the end of the stream. -/
theorem Open.receive_eos (hmax : 0 < w.maxFrames) (h : Open env w taken s) {v : StatusOr RawImage}
    (hv : v.status.code = .kNotFound) : Ledger env w taken (receive env w v s) := by
  rw [receive, if_pos hv]
  have hending : Ending env w taken { s with startNewFile := false } :=
    h.ending (List.prefix_refl _) (Or.inl rfl) ⟨rfl, rfl, rfl, rfl⟩ fun _ => rfl
  exact hending.endRound hmax

/-- An abort leaves everything as it is. -/
theorem Open.crash (h : Open env w taken s) {taken' : List (StatusOr RawImage)}
    (htaken : taken.filterMap converted <+: taken'.filterMap converted) (e : Fatal) :
    Ledger env w taken' { s with outcome := .crashed e } := by
  obtain ⟨files, hfiles, hall⟩ := h.forwarded
  refine Or.inr ⟨?_, ?_, files, [], [], hfiles.same rfl rfl,
    Or.inl rfl, Or.inl rfl, fun _ status hstatus => ?_⟩
  · intro hrun
    cases hrun
  · refine List.IsPrefix.trans ?_ (h.frames ▸ htaken)
    rw [List.flatMap_append]
    exact List.prefix_append _ _
  · cases hstatus

theorem writer_of_create {runner : GstreamerRunnerOptions → Status}
    {options : GstreamerVideoWriter.Options} {f : GstreamerVideoWriter}
    (h : GstreamerVideoWriter.create runner options = .value f) : f = ⟨options, []⟩ := by
  unfold GstreamerVideoWriter.create at h
  split at h
  · exact absurd h (StatusOr.ofStatus_ne_value _ _)
  · split at h
    · exact absurd h (StatusOr.ofStatus_ne_value _ _)
    · exact (StatusOr.value.inj h).symm

/-- The file that a frame goes into is open, or cannot be opened. -/
theorem Open.openVideoWriter (h : Open env w taken s) (capsString : Bytes) :
    (∃ f n, openVideoWriter env w capsString s =
        { s with videoWriter := some f, outputVideoFilePath := filePath f, opened := n } ∧
      f.frames = s.videoWriter.toList.flatMap GstreamerVideoWriter.frames ∧
      f.frames.length = s.imageIndex ∧ filePath f ≠ "") ∨
    ∃ path n status, status.ok = false ∧ s.videoWriter = none ∧
      openVideoWriter env w capsString s =
        { s with returnStatus := status, outputVideoFilePath := path, opened := n } := by
  cases hv : s.videoWriter with
  | some f =>
    obtain ⟨_, hlen, hne⟩ := h.file.2 f hv
    have hpath : s.outputVideoFilePath = filePath f := by rw [h.file.1, hv]; rfl
    refine Or.inl ⟨f, s.opened, ?_, by simp, hlen, hne⟩
    rw [LocalVideoSaver.openVideoWriter, hv]
    simp only
    rw [← hpath, ← hv]
  | none =>
    have hcurrent := h.current
    rw [CurrentFile, hv] at hcurrent
    rw [LocalVideoSaver.openVideoWriter, hv]
    simp only
    cases hcreate : GstreamerVideoWriter.create (env.createRunner s.opened)
      ⟨generateVideoFilePath env w.options s.opened, capsString⟩ with
    | error status hstatus => exact Or.inr ⟨_, _, _, rfl, trivial, by rw [← hv]⟩
    | value f =>
      obtain rfl := writer_of_create hcreate
      exact Or.inl ⟨_, _, rfl, rfl, hcurrent.1.symm, generateVideoFilePath_ne env w.options _⟩

/-- A frame that is put into its file. -/
theorem Open.nextImage (hmax : 0 < w.maxFrames) (h : Open env w taken s) {f : GstreamerVideoWriter}
    (n k : ℕ) {v : StatusOr RawImage} {buffer : GstreamerBuffer} (hv : converted v = some buffer)
    (hframes : f.frames = s.videoWriter.toList.flatMap GstreamerVideoWriter.frames ++ [buffer])
    (hlen : f.frames.length = s.imageIndex + 1) (hne : filePath f ≠ "") :
    Ledger env w (taken ++ [v]) (nextImage env w
      { s with
        videoWriter := some f
        outputVideoFilePath := filePath f
        opened := n
        puts := k }) := by
  have hall : (s.written ++ [f]).flatMap GstreamerVideoWriter.frames =
      (taken ++ [v]).filterMap converted := by
    have hold := h.frames
    rw [List.flatMap_append] at hold
    rw [List.flatMap_append, List.flatMap_singleton, hframes, ← List.append_assoc, hold,
      List.filterMap_append]
    simp [hv]
  obtain ⟨files, hfiles, hwilling⟩ := h.forwarded
  have hindex := h.imageIndex
  have hbound : ((s.imageIndex + 1 : ℕ) : ℤ) < w.options.maxFramesPerFile.toInt ↔
      s.imageIndex + 1 < w.maxFrames := by
    unfold Worker.maxFrames at *
    omega
  rw [LocalVideoSaver.nextImage]
  simp only
  by_cases hlt : s.imageIndex + 1 < w.maxFrames
  · rw [if_pos (hbound.mpr hlt)]
    exact Or.inl ⟨h.running, h.returnStatus, h.startNewFile,
      ⟨Nat.succ_pos _, hlen, rfl, hne⟩, hlt, hall, files,
      hfiles.same rfl rfl, hwilling⟩
  · rw [if_neg fun hlt' => hlt (hbound.mp hlt')]
    refine Ending.endRound hmax ⟨h.running, ?_, ⟨files,
      hfiles.same rfl rfl, hwilling⟩, fun _ => rfl, fun _ f' hf' => ?_,
      fun _ _ => ⟨Option.some_ne_none _, hall⟩⟩
    · exact ⟨[], (List.append_nil _).trans hall⟩
    · obtain rfl := Option.some.inj hf'
      exact ⟨by omega, by omega⟩

theorem Open.writeFrame (hmax : 0 < w.maxFrames) (h : Open env w taken s) {v : StatusOr RawImage}
    {buffer : GstreamerBuffer} (hv : converted v = some buffer) :
    Ledger env w (taken ++ [v]) (writeFrame env w buffer s) := by
  have htaken : taken.filterMap converted <+: (taken ++ [v]).filterMap converted := by
    rw [List.filterMap_append]
    exact List.prefix_append _ _
  have hok := h.returnStatus
  rcases h.openVideoWriter buffer.caps with ⟨f, n, hopen, hframes, hlen, hne⟩ |
    ⟨path, n, status, hstatus, hnone, hopen⟩
  · rw [LocalVideoSaver.writeFrame, hopen]
    simp only [hok, Bool.true_eq_false, if_false, putFrame, GstreamerVideoWriter.put]
    by_cases hfeed : (env.feed s.puts).ok = true
    · simp only [hfeed, if_true, Bool.true_eq_false, if_false, hok]
      let f' : GstreamerVideoWriter := { f with frames := f.frames ++ [buffer] }
      have hne' : filePath f' ≠ "" := hne
      refine h.nextImage hmax n (s.puts + 1) hv ?_ ?_ hne'
      · rw [← hframes]
      · simp [hlen]
    · have herror : (unknownError
          ("Failed to write a raw image: " ++ (env.feed s.puts).message)).ok = false := rfl
      simp only [hfeed, Bool.false_eq_true, if_false, if_true]
      rw [if_pos herror]
      obtain ⟨files, hfiles, hwilling⟩ := h.forwarded
      refine Ending.endRound hmax ⟨h.running, ?_, ⟨files,
        hfiles.same rfl rfl, hwilling⟩, fun hok' => ?_,
        fun hok' => ?_, fun hok' => ?_⟩
      rotate_left
      · cases hok'
      · cases hok'
      · cases hok'
      have hold := h.frames
      rw [List.flatMap_append] at hold
      simp only [Option.toList_some]
      rw [List.flatMap_append, List.flatMap_singleton, hframes, hold]
      exact htaken
  · rw [LocalVideoSaver.writeFrame, hopen]
    simp only [hstatus, if_true]
    refine Ending.endRound hmax (h.ending htaken (Or.inr ?_) ⟨?_, ?_, ?_, ?_⟩ fun hok' => ?_)
    · exact hstatus
    · rfl
    · rfl
    · rfl
    · rfl
    · exact absurd hok' (by simp [hstatus])

/-- **One value keeps the ledger**, whatever it is and whatever goes wrong. -/
theorem Open.receive (hmax : 0 < w.maxFrames) (h : Open env w taken s) (v : StatusOr RawImage) :
    Ledger env w (taken ++ [v]) (receive env w v s) := by
  have htaken : taken.filterMap converted <+: (taken ++ [v]).filterMap converted := by
    rw [List.filterMap_append]
    exact List.prefix_append _ _
  by_cases hcode : v.status.code = .kNotFound
  · have hsame : (taken ++ [v]).filterMap converted = taken.filterMap converted := by
      cases v with
      | error status hstatus => simp [converted]
      | value rawImage => cases hcode
    rcases h.receive_eos hmax hcode with hopen | hclosed
    · exact Or.inl ⟨hopen.running, hopen.returnStatus, hopen.startNewFile, hopen.current,
        hopen.imageIndex, hopen.frames.trans hsame.symm, hopen.forwarded⟩
    · exact Or.inr ⟨hclosed.finished, hsame ▸ hclosed.frames, hclosed.forwarded⟩
  · rw [LocalVideoSaver.receive, if_neg hcode]
    cases v with
    | error status hstatus => exact h.crash htaken _
    | value rawImage =>
      simp only [StatusOr.valueOrDie]
      cases hconv : toGstreamerBuffer rawImage with
      | error e => exact h.crash htaken e
      | ok r =>
        cases r with
        | error status hstatus =>
          refine Ending.endRound hmax (h.ending htaken (Or.inr ?_) ⟨?_, ?_, ?_, ?_⟩ fun hok' => ?_)
          · rfl
          · rfl
          · rfl
          · rfl
          · rfl
          · cases hok'
        | value buffer => exact h.writeFrame hmax (by simp [converted, hconv])

theorem Ledger.poll_popped (hmax : 0 < w.maxFrames) (h : Ledger env w taken s)
    (hrun : s.outcome = .running) (v : StatusOr RawImage) :
    Ledger env w (taken ++ [v]) (poll env w (.popped v) s) := by
  rw [LocalVideoSaver.poll_popped hrun]
  rcases h with hopen | hclosed
  · exact (hopen.popped _).receive hmax v
  · exact absurd hrun hclosed.finished

theorem Ledger.poll_timedOut (hmax : 0 < w.maxFrames) (h : Ledger env w taken s)
    (hrun : s.outcome = .running) (completed : Bool) :
    Ledger env w taken (poll env w (.timedOut completed) s) := by
  cases completed with
  | false =>
    rw [poll_waiting]
    exact h
  | true =>
    rw [poll_completed hrun]
    rcases h with hopen | hclosed
    · exact hopen.receive_eos hmax rfl
    · exact absurd hrun hclosed.finished

/-- The ledger of a worker that has not polled yet. -/
theorem ledger_workImpl (env : Env) (w : Worker) : Ledger env w [] (workImpl env w []) := by
  by_cases hpre : (validatePreconditions w).ok = false
  · rw [workImpl, if_pos hpre]
    refine Or.inr ⟨Outcome.over_of_returned rfl, List.prefix_refl _, [], [], [],
      ⟨rfl, List.Sublist.refl _, List.forall_mem_nil _⟩, Or.inl rfl, Or.inl rfl,
      fun _ status hstatus hok => ?_⟩
    obtain rfl := Outcome.returned.inj hstatus
    rw [hpre] at hok
    cases hok
  · have hmax := maxFrames_pos (Bool.eq_true_of_not_eq_false hpre)
    rw [workImpl, if_neg hpre]
    exact Or.inl ⟨rfl, rfl, rfl, ⟨rfl, rfl⟩, hmax, rfl, [],
      ⟨rfl, List.Sublist.refl _, List.forall_mem_nil _⟩, fun _ => rfl⟩

end Steps

/-! ### Paths are only added -/

section Growth

variable (env : Env) (w : Worker)

theorem endRound_forwarded (s : State) : s.forwarded <+: (endRound env w s).forwarded := by
  obtain ⟨round, ends, hended⟩ := endRound_ended env w s
  rw [hended.forwarded]
  exact List.prefix_append _ _

theorem writeFrame_forwarded (buffer : GstreamerBuffer) (s : State) :
    s.forwarded <+: (writeFrame env w buffer s).forwarded := by
  have hopen : (openVideoWriter env w buffer.caps s).forwarded = s.forwarded := by
    unfold openVideoWriter
    split
    · rfl
    · simp only
      split <;> rfl
  have hput : ∀ t : State, (putFrame env buffer t).forwarded = t.forwarded := by
    intro t
    unfold putFrame
    split
    · rfl
    · simp only
      split <;> rfl
  have hnext : ∀ t : State, t.forwarded <+: (nextImage env w t).forwarded := by
    intro t
    rw [nextImage]
    simp only
    split
    · exact List.prefix_refl _
    · exact endRound_forwarded env w { t with imageIndex := t.imageIndex + 1 }
  have hend := endRound_forwarded env w
  rw [writeFrame]
  split
  · exact hopen ▸ hend _
  · split
    · exact (hput _).trans hopen ▸ hend _
    · exact (hput _).trans hopen ▸ hnext _

theorem receive_forwarded (v : StatusOr RawImage) (s : State) :
    s.forwarded <+: (receive env w v s).forwarded := by
  unfold receive
  split
  · exact endRound_forwarded env w { s with startNewFile := false }
  · split
    · exact List.prefix_refl _
    · split
      · exact List.prefix_refl _
      · refine List.IsPrefix.trans ?_ (endRound_forwarded env w _)
        exact List.prefix_refl _
      · exact writeFrame_forwarded env w _ s

/-- **What was forwarded stays so.** -/
theorem poll_forwarded (p : Poll RawImage) (s : State) :
    s.forwarded <+: (poll env w p s).forwarded := by
  by_cases hrun : s.outcome = .running
  · cases p with
    | popped v =>
      rw [poll_popped hrun]
      exact receive_forwarded env w v { s with popped := s.popped ++ [v] }
    | timedOut completed =>
      cases completed with
      | false =>
        rw [poll_waiting]
      | true =>
        rw [poll_completed hrun]
        exact receive_forwarded env w srcCompletedValue s
  · rw [poll_of_over p hrun]

end Growth

/-! ### A downstream worker that is found running -/

/-- No writer fails. -/
structure Env.Writes (env : Env) : Prop where
  createRunner : ∀ n o, (env.createRunner n o).ok = true
  feed : ∀ n, (env.feed n).ok = true

/-- The downstream worker keeps running. -/
def Env.kept (env : Env) : Env := { env with isDstCompleted := fun _ => false }

theorem Env.Writes.kept {env : Env} (h : env.Writes) : env.kept.Quiet :=
  ⟨h.createRunner, h.feed, fun _ => rfl⟩

theorem willing_kept {env : Env} {w : Worker} (hforwards : w.options.forwardFilePaths = true)
    (hplaces : ∀ n, env.tryEmplace n = true) : Willing env.kept w :=
  ⟨hforwards, fun _ => rfl, hplaces⟩

/-- Between these states, the saver did not find its downstream worker completed. -/
def FoundRunning (env : Env) (s s' : State) : Prop :=
  s.dstChecks < s'.dstChecks → env.isDstCompleted s.dstChecks = false

section Looks

variable {env : Env} {w : Worker} {s : State}

theorem settle_kept (h : FoundRunning env s (settle env w s)) :
    settle env.kept w s = settle env w s := by
  have hforward : (forward env s).dstChecks = s.dstChecks + 1 := by
    unfold forward
    simp only
    split <;> rfl
  unfold settle at h ⊢
  split
  · rfl
  · rename_i hok
    rw [if_neg hok] at h
    split
    · rename_i hf
      rw [if_pos hf] at h
      have hlook : env.isDstCompleted s.dstChecks = false := h (by omega)
      unfold forward
      rw [if_pos hlook]
      rfl
    · rfl

theorem endRound_dstChecks (env : Env) (w : Worker) (s : State) :
    (endRound env w s).dstChecks = (settle env w (flush s)).dstChecks := by
  have hcleanup : ∀ t : State, (cleanup env w t).dstChecks = t.dstChecks := by
    intro t
    unfold cleanup
    split <;> rfl
  unfold endRound
  simp only
  split
  · rfl
  · exact hcleanup _

theorem endRound_kept (h : FoundRunning env s (endRound env w s)) :
    endRound env.kept w s = endRound env w s := by
  have hsettle : settle env.kept w (flush s) = settle env w (flush s) := by
    refine settle_kept ?_
    rw [FoundRunning, ← endRound_dstChecks]
    exact h
  unfold endRound
  rw [hsettle]
  rfl

theorem nextImage_kept (h : FoundRunning env s (nextImage env w s)) :
    nextImage env.kept w s = nextImage env w s := by
  unfold nextImage at h ⊢
  simp only at h ⊢
  split
  · rfl
  · rename_i hlast
    rw [if_neg hlast] at h
    exact endRound_kept (s := { s with imageIndex := s.imageIndex + 1 }) h

theorem writeFrame_kept {buffer : GstreamerBuffer}
    (h : FoundRunning env s (writeFrame env w buffer s)) :
    writeFrame env.kept w buffer s = writeFrame env w buffer s := by
  have hopen : (openVideoWriter env w buffer.caps s).dstChecks = s.dstChecks := by
    unfold openVideoWriter
    split
    · rfl
    · simp only
      split <;> rfl
  have hput : ∀ t : State, (putFrame env buffer t).dstChecks = t.dstChecks := by
    intro t
    unfold putFrame
    split
    · rfl
    · simp only
      split <;> rfl
  have hrest : ∀ t : State, t.dstChecks = s.dstChecks →
      FoundRunning env s (if t.returnStatus.ok = false then endRound env w t
        else nextImage env w t) →
      (if t.returnStatus.ok = false then endRound env.kept w t else nextImage env.kept w t) =
        if t.returnStatus.ok = false then endRound env w t else nextImage env w t := by
    intro t ht hfound
    rw [FoundRunning, ← ht] at hfound
    split
    · rename_i hok
      rw [if_pos hok] at hfound
      exact endRound_kept hfound
    · rename_i hok
      rw [if_neg hok] at hfound
      exact nextImage_kept hfound
  refine hrest _ ?_ h
  split
  · exact hopen
  · exact (hput _).trans hopen

theorem receive_kept {v : StatusOr RawImage} (h : FoundRunning env s (receive env w v s)) :
    receive env.kept w v s = receive env w v s := by
  unfold receive at h ⊢
  split
  · rename_i heos
    rw [if_pos heos] at h
    exact endRound_kept (s := { s with startNewFile := false }) h
  · rename_i heos
    rw [if_neg heos] at h
    split
    · rfl
    · rename_i himage
      rw [himage] at h
      simp only at h
      split
      · rfl
      · rename_i hconv
        rw [hconv] at h
        exact endRound_kept (s := { s with returnStatus := _ }) h
      · rename_i hconv
        rw [hconv] at h
        exact writeFrame_kept h

/-- **A poll whose look finds the downstream worker running** is one of a worker that keeps
running. -/
theorem poll_kept {p : Poll RawImage} (h : FoundRunning env s (poll env w p s)) :
    poll env.kept w p s = poll env w p s := by
  by_cases hrun : s.outcome = .running
  · cases p with
    | popped v =>
      rw [poll_popped hrun] at h
      rw [poll_popped hrun, poll_popped hrun]
      exact receive_kept (s := { s with popped := s.popped ++ [v] }) h
    | timedOut completed =>
      cases completed with
      | false =>
        rw [poll_waiting, poll_waiting]
      | true =>
        rw [poll_completed hrun] at h
        rw [poll_completed hrun, poll_completed hrun]
        exact receive_kept h
  · rw [poll_of_over p hrun, poll_of_over p hrun]

end Looks

end LocalVideoSaver

end AIStreams
