import AIStreams.Gstreamer.ExporterChannel
import AIStreams.Gstreamer.VideoLedger

/-!
# The three workers of the exporter

Source, saver and uploader of `aistreams/gstreamer/gstreamer_video_exporter.cc` under every
interleaving: `ExporterChannel` with the channel of file paths behind it.

* `toImages`, `toPaths`: the steps on each channel.
* `uploads_of_reachable`: what is attempted, written and removed, in every reachable state.
* `delivered_of_reachable`: when nothing is lost on the way from the source to the uploads.
-/

namespace AIStreams.ExporterPipeline

open Transition
open ExporterChannel (SourcePc)
open LocalVideoSaver (converted filePath sentPath Ledger Sized Willing)
open ProducerConsumerQueue (Call Ended)

/-! ### The program -/

/-- The threads that use the channel of paths. -/
inductive Role
  | saver
  | uploader
  deriving DecidableEq

/-- `saver` and `uploaderThread` are where the two threads are, with their signals; the variables
of the saver are in `images`.  `checking`: the uploader's `TryPop` has timed out, and it is about to
look at the saver's signal. -/
structure State where
  images : ExporterChannel.State
  saver : SourcePc
  signal : CompletionSignal
  paths : ProducerConsumerQueue.State Role (StatusOr String)
  checking : Bool
  uploader : GcsUploader.State
  uploaderThread : SourcePc
  uploaderSignal : CompletionSignal

/-- What the saver has still to put on the channel before it goes on. -/
def State.outbox (s : State) : List (StatusOr String) :=
  s.images.saver.forwarded.drop s.paths.accepted.length

inductive Label
  | spawn
  | images (l : ExporterChannel.Label)
  | forward
  | setStatus
  | finish
  | pop
  | check
  | wake (t : Role)
  | setUploaderStatus
  | finishUploader

/-- The saver takes a step that ends in its next poll. -/
def Polls : ExporterChannel.Label → Prop
  | .pop => True
  | .check => True
  | _ => False

section Program

variable (env : LocalVideoSaver.Env) (w : LocalVideoSaver.Worker)
variable (storage : GcsUploader.Env) (u : GcsUploader.Worker)

/-- Where the uploader goes when a stretch of its `TryPop` has ended. -/
def afterTryPop : Ended (StatusOr String) → State → State
  | .done (.tryPop true v), s =>
    { s with uploader := GcsUploader.poll storage u (.popped v) s.uploader }
  | .done (.tryPop false _), s => { s with checking := true }
  | _, s => s

/-- The steps.  `Run` has started the uploader; it starts the saver, and then the source.
`env` has the answers to the saver's `TryEmplace`s: `forward` is one that is accepted.  When the
saver looks whether its output channel's destination is completed, it finds the uploader's
signal. -/
inductive Step : State → Label → State → Prop
  | spawn {s : State} : s.saver = .idle →
      Step s .spawn { s with saver := .working, signal := s.signal.start }
  | images {s : State} (l : ExporterChannel.Label) {images : ExporterChannel.State} :
      s.saver ≠ .idle → (Polls l → s.outbox = []) →
      (s.images.saver.dstChecks < images.saver.dstChecks →
        env.isDstCompleted s.images.saver.dstChecks = s.uploaderSignal.isCompleted) →
      ExporterChannel.Step env w s.images l images →
      Step s (.images l) { s with images := images }
  | forward {s : State} (v : StatusOr String) (rest : List (StatusOr String))
      {paths : ProducerConsumerQueue.State Role (StatusOr String)} : s.outbox = v :: rest →
      ProducerConsumerQueue.Step s.paths
        (.run .saver (.tryEmplace v) (.done (.tryEmplace true))) paths →
      Step s .forward { s with paths := paths }
  | setStatus {s : State} (status : Status) : s.saver = .working →
      s.images.saver.outcome = .returned status → s.outbox = [] →
      Step s .setStatus { s with saver := .statusSet, signal := s.signal.setStatus status }
  | finish {s : State} : s.saver = .statusSet →
      Step s .finish { s with saver := .ended, signal := s.signal.finish }
  | pop {s : State} (elem : StatusOr String) (e : Ended (StatusOr String))
      {paths : ProducerConsumerQueue.State Role (StatusOr String)} :
      s.uploader.outcome = .running → s.checking = false →
      ProducerConsumerQueue.Step s.paths (.run .uploader (.tryPop elem (.seconds 5)) e) paths →
      Step s .pop (afterTryPop storage u e { s with paths := paths })
  | check {s : State} : s.uploader.outcome = .running → s.checking = true →
      Step s .check { s with
        checking := false
        uploader := GcsUploader.poll storage u (.timedOut s.signal.isCompleted) s.uploader }
  | wake {s : State} (t : Role)
      {paths : ProducerConsumerQueue.State Role (StatusOr String)} :
      ProducerConsumerQueue.Step s.paths (.wake t) paths →
      Step s (.wake t) { s with paths := paths }
  | setUploaderStatus {s : State} (status : Status) : s.uploaderThread = .working →
      s.uploader.outcome = .returned status →
      Step s .setUploaderStatus { s with
        uploaderThread := .statusSet
        uploaderSignal := s.uploaderSignal.setStatus status }
  | finishUploader {s : State} : s.uploaderThread = .statusSet →
      Step s .finishUploader { s with
        uploaderThread := .ended
        uploaderSignal := s.uploaderSignal.finish }

def initial (images : ProducerConsumerQueue (StatusOr RawImage))
    (paths : ProducerConsumerQueue (StatusOr String)) : State where
  images := ExporterChannel.initial env w images
  saver := .idle
  signal := .default
  paths := ProducerConsumerQueue.initial Role paths
  checking := false
  uploader := GcsUploader.workImpl storage u []
  uploaderThread := .working
  uploaderSignal := CompletionSignal.default.start

/-- The pipeline, with channels of the same size. -/
def system (workingBufferSize : Int32) : System State Label where
  init s := ∃ images paths,
    ProducerConsumerQueue.create (StatusOr RawImage) workingBufferSize = .ok images ∧
    ProducerConsumerQueue.create (StatusOr String) workingBufferSize = .ok paths ∧
    s = initial env w storage u images paths
  step := Step env w storage u

end Program

/-! ### The two channels -/

section Channels

variable {env : LocalVideoSaver.Env} {w : LocalVideoSaver.Worker}
variable {storage : GcsUploader.Env} {u : GcsUploader.Worker}

theorem afterTryPop_images (e : Ended (StatusOr String)) (s : State) :
    (afterTryPop storage u e s).images = s.images := by
  unfold afterTryPop
  split
  · rfl
  · rfl
  · rfl

theorem afterTryPop_paths (e : Ended (StatusOr String)) (s : State) :
    (afterTryPop storage u e s).paths = s.paths := by
  unfold afterTryPop
  split
  · rfl
  · rfl
  · rfl

theorem afterTryPop_thread (e : Ended (StatusOr String)) (s : State) :
    (afterTryPop storage u e s).uploaderThread = s.uploaderThread ∧
      (afterTryPop storage u e s).uploaderSignal = s.uploaderSignal := by
  unfold afterTryPop
  split
  · exact ⟨rfl, rfl⟩
  · exact ⟨rfl, rfl⟩
  · exact ⟨rfl, rfl⟩

/-- A step leaves the channel of images alone, or is one of it. -/
theorem Step.images_cases {s s' : State} {l : Label} (h : Step env w storage u s l s') :
    s'.images = s.images ∨
      ∃ k, l = .images k ∧ (Polls k → s.outbox = []) ∧ s'.paths = s.paths ∧
        s'.uploader = s.uploader ∧ ExporterChannel.Step env w s.images k s'.images := by
  cases h with
  | images l _ hpolls _ hstep => exact Or.inr ⟨l, rfl, hpolls, rfl, rfl, hstep⟩
  | pop _ e _ _ _ => exact Or.inl (afterTryPop_images e _)
  | spawn _ => exact Or.inl rfl
  | forward _ _ _ _ => exact Or.inl rfl
  | setStatus _ _ _ _ => exact Or.inl rfl
  | finish _ => exact Or.inl rfl
  | check _ _ => exact Or.inl rfl
  | wake _ _ => exact Or.inl rfl
  | setUploaderStatus _ _ _ => exact Or.inl rfl
  | finishUploader _ => exact Or.inl rfl

/-- A step leaves the channel of paths alone, or is one of its threads. -/
theorem Step.paths_cases {s s' : State} {l : Label} (h : Step env w storage u s l s') :
    s'.paths = s.paths ∨ ∃ k, ProducerConsumerQueue.Step s.paths k s'.paths := by
  cases h with
  | forward _ _ _ hstep => exact Or.inr ⟨_, hstep⟩
  | pop _ e _ _ hstep =>
    rw [afterTryPop_paths]
    exact Or.inr ⟨_, hstep⟩
  | wake _ hstep => exact Or.inr ⟨_, hstep⟩
  | spawn _ => exact Or.inl rfl
  | images _ _ _ _ _ => exact Or.inl rfl
  | setStatus _ _ _ _ => exact Or.inl rfl
  | finish _ => exact Or.inl rfl
  | check _ _ => exact Or.inl rfl
  | setUploaderStatus _ _ _ => exact Or.inl rfl
  | finishUploader _ => exact Or.inl rfl

/-- **Source and saver run as they do without an uploader.** -/
def toImages (env : LocalVideoSaver.Env) (w : LocalVideoSaver.Worker) (storage : GcsUploader.Env)
    (u : GcsUploader.Worker) (workingBufferSize : Int32) :
    Refinement (system env w storage u workingBufferSize)
      (ExporterChannel.system env w workingBufferSize) where
  abs := State.images
  init := by
    rintro s ⟨images, paths, himages, _, rfl⟩
    exact ⟨images, himages, rfl⟩
  step := by
    intro s l s' _ h
    rcases h.images_cases with hsame | ⟨k, _, _, _, _, hstep⟩
    · exact Or.inl hsame
    · exact Or.inr ⟨k, hstep⟩

/-- The channel of paths is a queue of two threads. -/
def toPaths (env : LocalVideoSaver.Env) (w : LocalVideoSaver.Worker) (storage : GcsUploader.Env)
    (u : GcsUploader.Worker) (workingBufferSize : Int32) :
    Refinement (system env w storage u workingBufferSize)
      (ProducerConsumerQueue.system Role (StatusOr String) workingBufferSize) where
  abs := State.paths
  init := by
    rintro s ⟨images, paths, _, hpaths, rfl⟩
    exact ⟨paths, hpaths, rfl⟩
  step := by
    intro s l s' _ h
    exact h.paths_cases

end Channels

/-! ### What the uploader attempts -/

/-- The path that a value of the channel of paths carries. -/
def sentFile : StatusOr String → Option String
  | .value filePath => some filePath
  | .error _ _ => none

section Uploader

variable (storage : GcsUploader.Env) (u : GcsUploader.Worker)

/-- **A path is attempted at once**, and only once. -/
theorem receive_attempts (v : StatusOr String) (s : GcsUploader.State) :
    (GcsUploader.receive storage u v s).uploads =
      s.uploads ++ (sentFile v).toList.map (GcsUploader.attempt u) := by
  cases v with
  | error status hstatus =>
    rw [GcsUploader.receive, sentFile, Option.toList_none, List.map_nil, List.append_nil]
    split
    · rfl
    · rfl
  | value filePath =>
    rw [GcsUploader.receive_value, sentFile, Option.toList_some, List.map_singleton]
    cases storage.uploadFile s.uploads.length with
    | some message => exact GcsUploader.connect_uploads storage u _
    | none =>
      simp only
      split
      · rfl
      · rfl

theorem poll_removesUploaded {p : Poll String} {s : GcsUploader.State}
    (hrun : s.outcome = .running) (h : GcsUploader.RemovesUploaded storage u s) :
    GcsUploader.RemovesUploaded storage u (GcsUploader.poll storage u p s) := by
  cases p with
  | popped v =>
    rw [GcsUploader.poll_popped storage u hrun]
    exact GcsUploader.receive_removesUploaded storage u v h
  | timedOut completed =>
    cases completed with
    | false =>
      rw [GcsUploader.poll_waiting]
      exact h
    | true =>
      rw [GcsUploader.poll_completed storage u hrun]
      exact GcsUploader.receive_removesUploaded storage u _ h

theorem poll_timedOut_uploads {s : GcsUploader.State} (hrun : s.outcome = .running)
    (completed : Bool) :
    (GcsUploader.poll storage u (.timedOut completed) s).uploads = s.uploads := by
  cases completed with
  | false => rw [GcsUploader.poll_waiting]
  | true =>
    rw [GcsUploader.poll_completed storage u hrun, receive_attempts]
    exact List.append_nil _

theorem workImpl_nil_uploads : (GcsUploader.workImpl storage u []).uploads = [] := by
  rw [GcsUploader.workImpl]
  split
  · rfl
  · split
    · rfl
    · exact GcsUploader.connect_uploads storage u _

end Uploader

/-! ### The invariant -/

/-- The ledger of the saver, the paths sent of those forwarded, and an attempt for each path
taken. -/
structure Inv (env : LocalVideoSaver.Env) (w : LocalVideoSaver.Worker) (storage : GcsUploader.Env)
    (u : GcsUploader.Worker) (s : State) : Prop where
  ledger : Ledger env w s.images.shared.popped s.images.saver
  maxFrames : s.images.saver.outcome = .running → 0 < w.maxFrames
  sent : s.paths.accepted <+: s.images.saver.forwarded
  uploads : s.uploader.uploads =
    (s.paths.popped.filterMap sentFile).map (GcsUploader.attempt u)
  removed : GcsUploader.RemovesUploaded storage u s.uploader

section Steps

variable {env : LocalVideoSaver.Env} {w : LocalVideoSaver.Worker}
variable {storage : GcsUploader.Env} {u : GcsUploader.Worker}

/-- The saver polls, or is left alone with what it has taken. -/
theorem polls_cases {s s' : ExporterChannel.State} {k : ExporterChannel.Label}
    (h : ExporterChannel.Step env w s k s') :
    (s'.saver = s.saver ∧ s'.shared.popped = s.shared.popped) ∨
      s.saver.outcome = .running ∧
        ((∃ v, s'.saver = LocalVideoSaver.poll env w (.popped v) s.saver ∧
            s'.shared.popped = s.shared.popped ++ [v]) ∨
          ∃ completed, s'.saver = LocalVideoSaver.poll env w (.timedOut completed) s.saver ∧
            s'.shared.popped = s.shared.popped) := by
  cases h with
  | start _ => exact Or.inl ⟨rfl, rfl⟩
  | emplace _ _ _ _ hq => exact Or.inl ⟨rfl, hq.tryEmplace_history.1⟩
  | eos _ _ _ _ hq => exact Or.inl ⟨rfl, hq.tryEmplace_history.1⟩
  | leave _ => exact Or.inl ⟨rfl, rfl⟩
  | setStatus _ _ => exact Or.inl ⟨rfl, rfl⟩
  | finish _ => exact Or.inl ⟨rfl, rfl⟩
  | pop elem e hrun _ hq =>
    obtain ⟨_, _, hpop, _⟩ := hq.queue_run
    rcases hq.tryPop_ended with ⟨f, rfl, _⟩ | ⟨rfl, _⟩ | ⟨v, rest, rfl, _, _⟩
    · exact Or.inl ⟨rfl, hpop.trans (List.append_nil _)⟩
    · exact Or.inl ⟨rfl, hpop.trans (List.append_nil _)⟩
    · exact Or.inr ⟨hrun, Or.inl ⟨v, rfl, hpop⟩⟩
  | check hrun _ => exact Or.inr ⟨hrun, Or.inr ⟨_, rfl, rfl⟩⟩
  | wake _ hq => exact Or.inl ⟨rfl, hq.queue_wake.2.2⟩

theorem inv_initial (images : ProducerConsumerQueue (StatusOr RawImage))
    (paths : ProducerConsumerQueue (StatusOr String)) :
    Inv env w storage u (initial env w storage u images paths) where
  ledger := LocalVideoSaver.ledger_workImpl env w
  maxFrames := by
    intro hrun
    by_cases hpre : (LocalVideoSaver.validatePreconditions w).ok = true
    · exact LocalVideoSaver.maxFrames_pos hpre
    · have hover : (LocalVideoSaver.workImpl env w []).outcome = .running := hrun
      rw [LocalVideoSaver.workImpl, if_pos (Bool.eq_false_iff.mpr hpre)] at hover
      cases hover
  sent := List.nil_prefix
  uploads := workImpl_nil_uploads storage u
  removed := GcsUploader.workImpl_removesUploaded storage u []

theorem Inv.of_saver {s : State} (h : Inv env w storage u s) {images : ExporterChannel.State}
    (hledger : Ledger env w images.shared.popped images.saver)
    (hmax : images.saver.outcome = .running → 0 < w.maxFrames)
    (hforwarded : s.images.saver.forwarded <+: images.saver.forwarded) :
    Inv env w storage u { s with images := images } :=
  ⟨hledger, hmax, h.sent.trans hforwarded, h.uploads, h.removed⟩

/-- Source and saver. -/
theorem Inv.images {s : State} (h : Inv env w storage u s) {k : ExporterChannel.Label}
    {images : ExporterChannel.State} (hstep : ExporterChannel.Step env w s.images k images) :
    Inv env w storage u { s with images := images } := by
  rcases polls_cases hstep with ⟨hsaver, hpopped⟩ | ⟨hrun, hpoll⟩
  · refine h.of_saver ?_ ?_ ?_
    · rw [hsaver, hpopped]
      exact h.ledger
    · rw [hsaver]
      exact h.maxFrames
    · rw [hsaver]
  · have hmax := h.maxFrames hrun
    rcases hpoll with ⟨v, hsaver, hpopped⟩ | ⟨completed, hsaver, hpopped⟩
    · refine h.of_saver ?_ (fun _ => hmax) ?_
      · rw [hsaver, hpopped]
        exact h.ledger.poll_popped hmax hrun v
      · rw [hsaver]
        exact LocalVideoSaver.poll_forwarded env w _ _
    · refine h.of_saver ?_ (fun _ => hmax) ?_
      · rw [hsaver, hpopped]
        exact h.ledger.poll_timedOut hmax hrun completed
      · rw [hsaver]
        exact LocalVideoSaver.poll_forwarded env w _ _

/-- A path that the saver puts on its channel. -/
theorem Inv.forward {s : State} (h : Inv env w storage u s) {v : StatusOr String}
    {rest : List (StatusOr String)} (hout : s.outbox = v :: rest)
    {paths : ProducerConsumerQueue.State Role (StatusOr String)}
    (hq : ProducerConsumerQueue.Step s.paths
      (.run .saver (.tryEmplace v) (.done (.tryEmplace true))) paths) :
    Inv env w storage u { s with paths := paths } := by
  obtain ⟨_, hacc, hpop, _⟩ := hq.queue_run
  have hacc' : paths.accepted = s.paths.accepted ++ [v] := hacc
  have hpop' : paths.popped = s.paths.popped := hpop.trans (List.append_nil _)
  refine ⟨h.ledger, h.maxFrames, ?_, ?_, h.removed⟩
  · obtain ⟨more, hmore⟩ := h.sent
    rw [State.outbox, ← hmore, List.drop_left] at hout
    show paths.accepted <+: s.images.saver.forwarded
    rw [hacc', ← hmore, hout]
    exact ⟨rest, by rw [List.append_assoc]; rfl⟩
  · show _ = (paths.popped.filterMap sentFile).map _
    rw [hpop']
    exact h.uploads

/-- A step that moves nothing on the channel of paths. -/
theorem Inv.paths {s : State} (h : Inv env w storage u s)
    {paths : ProducerConsumerQueue.State Role (StatusOr String)}
    (hacc : paths.accepted = s.paths.accepted) (hpop : paths.popped = s.paths.popped) :
    Inv env w storage u { s with paths := paths } := by
  refine ⟨h.ledger, h.maxFrames, ?_, ?_, h.removed⟩
  · show paths.accepted <+: _
    rw [hacc]
    exact h.sent
  · show _ = (paths.popped.filterMap sentFile).map _
    rw [hpop]
    exact h.uploads

/-- A stretch of the uploader's `TryPop`. -/
theorem Inv.pop {s : State} (h : Inv env w storage u s) (hrun : s.uploader.outcome = .running)
    {elem : StatusOr String} {e : Ended (StatusOr String)}
    {paths : ProducerConsumerQueue.State Role (StatusOr String)}
    (hq : ProducerConsumerQueue.Step s.paths (.run .uploader (.tryPop elem (.seconds 5)) e) paths) :
    Inv env w storage u (afterTryPop storage u e { s with paths := paths }) := by
  obtain ⟨_, hacc, hpop, _⟩ := hq.queue_run
  have hacc' : paths.accepted = s.paths.accepted := hacc.trans (List.append_nil _)
  rcases hq.tryPop_ended with ⟨f, rfl, _⟩ | ⟨rfl, _⟩ | ⟨v, rest, rfl, _, _⟩
  · exact h.paths hacc' (hpop.trans (List.append_nil _))
  · have hsame := h.paths hacc' (hpop.trans (List.append_nil _))
    exact ⟨hsame.ledger, hsame.maxFrames, hsame.sent, hsame.uploads, hsame.removed⟩
  · have hpop' : paths.popped = s.paths.popped ++ [v] := hpop
    refine ⟨h.ledger, h.maxFrames, ?_, ?_, poll_removesUploaded storage u hrun h.removed⟩
    · show paths.accepted <+: _
      rw [hacc']
      exact h.sent
    · show (GcsUploader.poll storage u (.popped v) s.uploader).uploads =
        (paths.popped.filterMap sentFile).map _
      rw [GcsUploader.poll_popped storage u hrun, receive_attempts, h.uploads, hpop',
        List.filterMap_append, List.map_append]
      cases hv : sentFile v with
      | none => simp [hv]
      | some filePath => simp [hv]

/-- **The invariant holds in every reachable state.** -/
theorem inv_of_reachable {workingBufferSize : Int32} {s : State}
    (h : (system env w storage u workingBufferSize).Reachable s) : Inv env w storage u s := by
  refine h.invariant ?_ ?_
  · rintro s ⟨images, paths, _, _, rfl⟩
    exact inv_initial images paths
  · intro s l s' _ ih hs
    cases hs with
    | spawn _ => exact ⟨ih.ledger, ih.maxFrames, ih.sent, ih.uploads, ih.removed⟩
    | images k _ _ _ hstep => exact ih.images hstep
    | forward v rest hout hq => exact ih.forward hout hq
    | setStatus status _ _ _ => exact ⟨ih.ledger, ih.maxFrames, ih.sent, ih.uploads, ih.removed⟩
    | finish _ => exact ⟨ih.ledger, ih.maxFrames, ih.sent, ih.uploads, ih.removed⟩
    | pop elem e hrun _ hq => exact ih.pop hrun hq
    | check hrun _ =>
      refine ⟨ih.ledger, ih.maxFrames, ih.sent, ?_, poll_removesUploaded storage u hrun ih.removed⟩
      exact (poll_timedOut_uploads storage u hrun _).trans ih.uploads
    | wake t hq => exact ih.paths hq.queue_wake.2.1 hq.queue_wake.2.2
    | setUploaderStatus status _ _ =>
      exact ⟨ih.ledger, ih.maxFrames, ih.sent, ih.uploads, ih.removed⟩
    | finishUploader _ => exact ⟨ih.ledger, ih.maxFrames, ih.sent, ih.uploads, ih.removed⟩

end Steps

/-! ### What is safe -/

/-- The files of the attempts, with an empty path at the end perhaps. -/
def Attempts (u : GcsUploader.Worker) (files : List GstreamerVideoWriter)
    (uploads : List GcsUploader.Upload) : Prop :=
  ∃ last, (last = [] ∨ last = [""]) ∧
    uploads = (files.map filePath ++ last).map (GcsUploader.attempt u)

/-- **Safety**: the frames written are images that the channel accepted, in order; the attempts
are for files that were written, each file once, in order and of the right size; no file is
removed before its own upload; and when the saver has returned OK and the uploader has taken the
EOS, all files were attempted. -/
structure Safe (env : LocalVideoSaver.Env) (w : LocalVideoSaver.Worker)
    (storage : GcsUploader.Env) (u : GcsUploader.Worker) (s : State) : Prop where
  frames : s.images.saver.written.flatMap GstreamerVideoWriter.frames <+:
    s.images.shared.accepted.filterMap converted
  attempts : ∃ files uploads, files.Sublist s.images.saver.written ∧ (∀ f ∈ files, Sized w f) ∧
    Attempts u files uploads ∧ s.uploader.uploads <+: uploads
  removed : GcsUploader.RemovesUploaded storage u s.uploader
  complete : Willing env w → ∀ status, s.images.saver.outcome = .returned status →
    status.ok = true → (∃ v ∈ s.paths.popped, v.ok = false) →
    Attempts u s.images.saver.written s.uploader.uploads

section Safety

variable {env : LocalVideoSaver.Env} {w : LocalVideoSaver.Worker}
variable {storage : GcsUploader.Env} {u : GcsUploader.Worker}

theorem filterMap_sentPath (files : List GstreamerVideoWriter) :
    (files.map sentPath).filterMap sentFile = files.map filePath := by
  induction files with
  | nil => rfl
  | cons f files ih =>
    rw [List.map_cons, List.filterMap_cons, ih]
    rfl

/-- The values of the channel of paths: those of files, an empty path perhaps, and then at most
an EOS. -/
theorem Inv.forwarded {s : State} (h : Inv env w storage u s) :
    ∃ files last ends, s.images.saver.forwarded = (files.map sentPath ++ last) ++ ends ∧
      files.Sublist s.images.saver.written ∧ (∀ f ∈ files, Sized w f) ∧
      (last = [] ∨ last = [.value ""]) ∧
      (ends = [] ∨ ends = [GcsUploader.eosValue] ∧ s.images.saver.outcome ≠ .running ∧
        (Willing env w → ∀ status, s.images.saver.outcome = .returned status →
          status.ok = true → files = s.images.saver.written)) := by
  rcases h.ledger with hopen | hclosed
  · obtain ⟨files, hfiles, _⟩ := hopen.forwarded
    exact ⟨files, [], [], hfiles.forwarded.trans (List.append_nil _).symm, hfiles.written,
      hfiles.sized, Or.inl rfl, Or.inl rfl⟩
  · obtain ⟨files, last, ends, hfiles, hlast, hends, hwilling⟩ := hclosed.forwarded
    refine ⟨files, last, ends, by rw [hfiles.forwarded, List.append_assoc], hfiles.written,
      hfiles.sized, hlast, ?_⟩
    rcases hends with hends | hends
    · exact Or.inl hends
    · exact Or.inr ⟨hends, hclosed.finished, fun hw status hstatus hok =>
        (hwilling hw status hstatus hok).1⟩

/-- What the values before an EOS carry. -/
theorem attempts_of_values {files : List GstreamerVideoWriter} {last : List (StatusOr String)}
    (hlast : last = [] ∨ last = [.value ""]) :
    Attempts u files (((files.map sentPath ++ last).filterMap sentFile).map
      (GcsUploader.attempt u)) := by
  refine ⟨last.filterMap sentFile, ?_, ?_⟩
  · rcases hlast with rfl | rfl
    · exact Or.inl rfl
    · exact Or.inr rfl
  · rw [List.filterMap_append, filterMap_sentPath]

theorem attempts_of_eos {files : List GstreamerVideoWriter} {last : List (StatusOr String)}
    (hlast : last = [] ∨ last = [.value ""]) :
    Attempts u files ((((files.map sentPath ++ last) ++ [GcsUploader.eosValue]).filterMap
      sentFile).map (GcsUploader.attempt u)) := by
  have hnone : [GcsUploader.eosValue].filterMap sentFile = [] := rfl
  rw [List.filterMap_append, hnone, List.append_nil]
  exact attempts_of_values hlast

theorem ok_of_values {files : List GstreamerVideoWriter} {last : List (StatusOr String)}
    (hlast : last = [] ∨ last = [.value ""]) {v : StatusOr String}
    (hv : v ∈ files.map sentPath ++ last) : v.ok = true := by
  rcases List.mem_append.mp hv with hv | hv
  · obtain ⟨f, _, rfl⟩ := List.mem_map.mp hv
    rfl
  · rcases hlast with rfl | rfl
    · cases hv
    · rw [List.mem_singleton.mp hv]
      rfl

/-- **An EOS is taken last**, after all that was forwarded, by an uploader whose saver is past
its loop. -/
theorem Inv.taken_eos {s : State} (h : Inv env w storage u s)
    (hpopped : s.paths.popped <+: s.paths.accepted) {v : StatusOr String}
    (hv : v ∈ s.paths.popped) (hnot : v.ok = false) :
    s.images.saver.outcome ≠ .running ∧ ∃ files last, (last = [] ∨ last = [.value ""]) ∧
      s.paths.popped = (files.map sentPath ++ last) ++ [GcsUploader.eosValue] ∧
      (Willing env w → ∀ status, s.images.saver.outcome = .returned status →
        status.ok = true → files = s.images.saver.written) := by
  obtain ⟨files, last, ends, hforwarded, _, _, hlast, hends⟩ := h.forwarded
  have hprefix : s.paths.popped <+: (files.map sentPath ++ last) ++ ends :=
    hforwarded ▸ hpopped.trans h.sent
  have hcases : s.paths.popped = (files.map sentPath ++ last) ++ [GcsUploader.eosValue] ∧
      ends = [GcsUploader.eosValue] ∨ s.paths.popped <+: files.map sentPath ++ last := by
    rcases hends with rfl | ⟨rfl, _⟩
    · rw [List.append_nil] at hprefix
      exact Or.inr hprefix
    · exact (List.prefix_concat_iff.mp hprefix).imp (fun heq => ⟨heq, rfl⟩) id
  rcases hcases with ⟨heq, hends'⟩ | hbefore
  · rcases hends with hnil | ⟨_, hover, hwritten⟩
    · rw [hends'] at hnil
      cases hnil
    · exact ⟨hover, files, last, hlast, heq, hwritten⟩
  · rw [ok_of_values hlast (hbefore.subset hv)] at hnot
    cases hnot

/-- **Safety in every reachable state**, whatever fails and in whatever order the threads run. -/
theorem uploads_of_reachable {workingBufferSize : Int32} {s : State}
    (h : (system env w storage u workingBufferSize).Reachable s) : Safe env w storage u s := by
  have hinv := inv_of_reachable h
  have himages : s.images.shared.popped <+: s.images.shared.accepted :=
    ⟨_, ProducerConsumerQueue.history_of_reachable ((ExporterChannel.toQueue env w
      workingBufferSize).reachable ((toImages env w storage u workingBufferSize).reachable h))⟩
  have hpaths : s.paths.popped <+: s.paths.accepted :=
    ⟨_, ProducerConsumerQueue.history_of_reachable
      ((toPaths env w storage u workingBufferSize).reachable h)⟩
  refine ⟨?_, ?_, hinv.removed, ?_⟩
  · refine List.IsPrefix.trans ?_ (himages.filterMap converted)
    rcases hinv.ledger with hopen | hclosed
    · rw [← hopen.frames, List.flatMap_append]
      exact List.prefix_append _ _
    · exact hclosed.frames
  · obtain ⟨files, last, ends, hforwarded, hwritten, hsized, hlast, hends⟩ := hinv.forwarded
    refine ⟨files, _, hwritten, hsized, attempts_of_values hlast, ?_⟩
    have htaken : s.paths.popped.filterMap sentFile <+:
        ((files.map sentPath ++ last) ++ ends).filterMap sentFile :=
      (hforwarded ▸ hpaths.trans hinv.sent).filterMap sentFile
    have hnone : ends.filterMap sentFile = [] := by
      rcases hends with rfl | ⟨rfl, _⟩
      · rfl
      · rfl
    rw [List.filterMap_append, hnone, List.append_nil] at htaken
    rw [hinv.uploads]
    exact htaken.map _
  · rintro hw status hstatus hok ⟨v, hv, hnot⟩
    obtain ⟨_, files, last, hlast, heq, hwritten⟩ := hinv.taken_eos hpaths hv hnot
    rw [← hwritten hw status hstatus hok, hinv.uploads, heq]
    exact attempts_of_eos hlast

end Safety

/-! ### When nothing is lost -/

/-- No race on either channel: on that of paths, the saver is started before the uploader looks
at its signal, and does not end between a timed-out `TryPop` and that look with paths on the
channel. -/
def NoRace (s : State) : Label → Prop
  | .images k => ExporterChannel.NoRace s.images k
  | .check => s.saver ≠ .idle
  | .finish => s.checking = true → s.paths.queue.q = []
  | _ => True

/-- **From the source to the uploads**: every image that the channel accepted is a frame of a
file, in order, and every file was attempted, and uploaded if no upload fails. -/
structure Delivered (storage : GcsUploader.Env) (u : GcsUploader.Worker) (s : State) : Prop where
  returned : s.images.saver.outcome = .returned okStatus
  frames : s.images.saver.written.flatMap GstreamerVideoWriter.frames =
    s.images.shared.accepted.filterMap converted
  attempts : Attempts u s.images.saver.written s.uploader.uploads
  uploaded : (∀ n, storage.uploadFile n = none) → ∃ last, (last = [] ∨ last = [""]) ∧
    GcsUploader.uploaded storage s.uploader = s.images.saver.written.map filePath ++ last

section Delivery

variable {env : LocalVideoSaver.Env} {w : LocalVideoSaver.Worker}
variable {storage : GcsUploader.Env} {u : GcsUploader.Worker}

/-- Without a race, and with nothing that fails, the saver returns OK when it returns. -/
theorem returns_of_noRace (hq : env.Quiet)
    (hpre : (LocalVideoSaver.validatePreconditions w).ok = true) {workingBufferSize : Int32}
    {s : ExporterChannel.State}
    (h : ((ExporterChannel.system env w workingBufferSize).restrict
      fun s l _ => ExporterChannel.NoRace s l).Reachable s) :
    s.saver.outcome = .running ∨ s.saver.outcome = .returned okStatus := by
  refine h.invariant (I := fun s : ExporterChannel.State =>
    s.saver.outcome = .running ∨ s.saver.outcome = .returned okStatus) ?_ ?_
  · rintro s ⟨queue, _, rfl⟩
    refine Or.inl ?_
    show (LocalVideoSaver.workImpl env w []).outcome = .running
    rw [ExporterChannel.workImpl_nil hpre]
    rfl
  · rintro s k s' hr ih ⟨hs, _⟩
    have hinv := ExporterChannel.inv_of_reachable hq hpre hr
    have heos : ∀ {v : StatusOr RawImage} (popped : List (StatusOr RawImage)),
        s.saver.outcome = .running → v.status.code = .kNotFound →
        (LocalVideoSaver.receive env w v { s.saver with popped := popped }).outcome =
          .returned okStatus :=
      fun popped hrun hv => (((hinv.taking hrun).1.popped popped).receive_eos hq hv).1
    have hhist : s.shared.popped ++ s.shared.queue.q = s.shared.accepted :=
      ProducerConsumerQueue.history_of_reachable
        ((ExporterChannel.toQueue env w workingBufferSize).reachable hr.of_restrict)
    cases hs with
    | pop elem e hrun _ hstep =>
      rcases hstep.tryPop_ended with ⟨f, rfl, _⟩ | ⟨rfl, _⟩ | ⟨v, rest, rfl, hv, _⟩
      · exact ih
      · exact ih
      · show (LocalVideoSaver.poll env w (.popped v) s.saver).outcome = .running ∨
          (LocalVideoSaver.poll env w (.popped v) s.saver).outcome = .returned okStatus
        rw [LocalVideoSaver.poll_popped hrun]
        cases hconv : converted v with
        | some buffer =>
          have hnext := ((hinv.taking hrun).1.popped (s.saver.popped ++ [v])).receive hq hconv
            (LocalVideoSaver.maxFrames_pos hpre)
          exact Or.inl hnext.running
        | none =>
          obtain ⟨_, hcode, _⟩ := hinv.eos_of_not_converted (hv ▸ hhist) hconv
          exact Or.inr (heos _ hrun hcode)
    | check hrun _ =>
      show (LocalVideoSaver.poll env w (.timedOut s.signal.isCompleted) s.saver).outcome =
        .running ∨ (LocalVideoSaver.poll env w (.timedOut s.signal.isCompleted) s.saver).outcome =
          .returned okStatus
      cases s.signal.isCompleted with
      | false =>
        rw [LocalVideoSaver.poll_waiting]
        exact ih
      | true =>
        rw [LocalVideoSaver.poll_completed hrun]
        exact Or.inr (heos s.saver.popped hrun rfl)
    | start _ => exact ih
    | emplace _ _ _ _ _ => exact ih
    | eos _ _ _ _ _ => exact ih
    | leave _ => exact ih
    | setStatus _ _ => exact ih
    | finish _ => exact ih
    | wake _ _ => exact ih

/-- The source and the saver of a run without a race. -/
theorem images_reachable {workingBufferSize : Int32} {s : State}
    (h : ((system env w storage u workingBufferSize).restrict
      fun s l _ => NoRace s l).Reachable s) :
    ((ExporterChannel.system env w workingBufferSize).restrict
      fun s l _ => ExporterChannel.NoRace s l).Reachable s.images := by
  induction h with
  | init hi =>
    obtain ⟨images, paths, himages, _, rfl⟩ := hi
    exact .init ⟨images, himages, rfl⟩
  | step _ hs ih =>
    rcases hs.1.images_cases with hsame | ⟨k, rfl, _, _, _, hstep⟩
    · rw [hsame]
      exact ih
    · exact ih.step ⟨hstep, hs.2⟩

/-- The saver's thread is past `WorkImpl`. -/
def Past (s : State) : Prop := s.saver = .statusSet ∨ s.saver = .ended

/-- **The invariant of a run without a race**: past `WorkImpl` the saver has sent all that it
forwards, and the uploader ends with an EOS, or when there is nothing left to come. -/
structure Taking (s : State) : Prop where
  signal : s.signal.isCompleted = true → s.saver = .idle ∨ s.saver = .ended
  past : Past s → s.images.saver.outcome ≠ .running ∧ s.outbox = []
  checked : s.uploader.outcome = .running → s.checking = true → s.saver = .ended →
    s.paths.queue.q = []
  finished : s.uploader.outcome ≠ .running →
    (∃ v ∈ s.paths.popped, v.ok = false) ∨ s.saver = .ended ∧ s.paths.queue.q = []

theorem workImpl_nil_running (hwork : u.options.doWork = true)
    (hpre : (GcsUploader.validatePreconditions u).ok = true)
    (hclient : ∀ n, storage.createDefaultClient n = none) :
    (GcsUploader.workImpl storage u []).outcome = .running := by
  rw [GcsUploader.workImpl, if_neg (by simp [hwork]), if_neg (by simp [hpre])]
  exact GcsUploader.connect_running hclient GcsUploader.initial

/-- Source and saver: past `WorkImpl` the saver polls no more. -/
theorem Taking.images {s : State} (h : Taking s) {k : ExporterChannel.Label}
    {images : ExporterChannel.State} (hstep : ExporterChannel.Step env w s.images k images) :
    Taking { s with images := images } := by
  refine ⟨h.signal, fun hpast => ?_, h.checked, h.finished⟩
  obtain ⟨hover, hout⟩ := h.past hpast
  rcases polls_cases hstep with ⟨hsaver, _⟩ | ⟨hrun, _⟩
  · refine ⟨?_, ?_⟩
    · show images.saver.outcome ≠ .running
      rw [hsaver]
      exact hover
    · show images.saver.forwarded.drop s.paths.accepted.length = []
      rw [hsaver]
      exact hout
  · exact absurd hrun hover

/-- A step that moves nothing on the channel of paths. -/
theorem Taking.paths {s : State} (h : Taking s)
    {paths : ProducerConsumerQueue.State Role (StatusOr String)}
    (hqueue : paths.queue.q = s.paths.queue.q) (hacc : paths.accepted = s.paths.accepted)
    (hpop : paths.popped = s.paths.popped) : Taking { s with paths := paths } := by
  refine ⟨h.signal, ?_, ?_, ?_⟩
  · intro hpast
    show _ ∧ s.images.saver.forwarded.drop paths.accepted.length = []
    rw [hacc]
    exact h.past hpast
  · show _ → _ → _ → paths.queue.q = []
    rw [hqueue]
    exact h.checked
  · show _ → (∃ v ∈ paths.popped, v.ok = false) ∨ _ ∧ paths.queue.q = []
    rw [hqueue, hpop]
    exact h.finished

/-- A saver that still has something to send is not past `WorkImpl`. -/
theorem Taking.forward {s : State} (h : Taking s) {v : StatusOr String}
    {rest : List (StatusOr String)} (hout : s.outbox = v :: rest)
    {paths : ProducerConsumerQueue.State Role (StatusOr String)}
    (hpop : paths.popped = s.paths.popped) : Taking { s with paths := paths } := by
  have hnot : ¬ Past s := by
    intro hpast
    rw [(h.past hpast).2] at hout
    cases hout
  refine ⟨h.signal, fun hpast => absurd hpast hnot, fun _ _ hended => ?_, fun hover => ?_⟩
  · exact absurd (Or.inr hended) hnot
  · rcases h.finished hover with hv | ⟨hended, _⟩
    · refine Or.inl ?_
      show ∃ v ∈ paths.popped, v.ok = false
      rw [hpop]
      exact hv
    · exact absurd (Or.inr hended) hnot

/-- A stretch of the uploader's `TryPop`. -/
theorem Taking.pop (hclient : ∀ n, storage.createDefaultClient n = none) {s : State}
    (h : Taking s) (hinv : Inv env w storage u s) (hrun : s.uploader.outcome = .running)
    (hcheck : s.checking = false) {elem : StatusOr String} {e : Ended (StatusOr String)}
    {paths : ProducerConsumerQueue.State Role (StatusOr String)}
    (hq : ProducerConsumerQueue.Step s.paths (.run .uploader (.tryPop elem (.seconds 5)) e) paths) :
    Taking (afterTryPop storage u e { s with paths := paths }) := by
  obtain ⟨_, hacc, hpop, hqueue⟩ := hq.queue_run
  have hacc' : paths.accepted = s.paths.accepted := hacc.trans (List.append_nil _)
  rcases hq.tryPop_ended with ⟨f, rfl, hempty⟩ | ⟨rfl, hempty⟩ | ⟨v, rest, rfl, _, _⟩
  · exact h.paths (by rw [hqueue, hempty]; rfl) hacc' (hpop.trans (List.append_nil _))
  · have hsame := h.paths (by rw [hqueue, hempty]; rfl) hacc' (hpop.trans (List.append_nil _))
    refine ⟨hsame.signal, hsame.past, fun _ _ _ => ?_, hsame.finished⟩
    show paths.queue.q = []
    rw [hqueue, hempty]
    rfl
  · have hpop' : paths.popped = s.paths.popped ++ [v] := hpop
    refine ⟨h.signal, ?_, fun _ hc => ?_, fun hover => Or.inl ⟨v, ?_, ?_⟩⟩
    · intro hpast
      show _ ∧ s.images.saver.forwarded.drop paths.accepted.length = []
      rw [hacc']
      exact h.past hpast
    · cases hcheck.symm.trans hc
    · show v ∈ paths.popped
      rw [hpop']
      exact List.mem_append_right _ List.mem_cons_self
    · cases v with
      | error status hstatus => exact hstatus
      | value filePath =>
        refine absurd ?_ hover
        show (GcsUploader.poll storage u (.popped (.value filePath)) s.uploader).outcome = .running
        rw [GcsUploader.poll_popped storage u hrun]
        exact (GcsUploader.Uploading.receive hclient ⟨hrun, hinv.uploads⟩ filePath).running

/-- The uploader's look at the signal of a saver that was started. -/
theorem Taking.check {s : State} (h : Taking s) (hrun : s.uploader.outcome = .running)
    (hcheck : s.checking = true) (hstarted : s.saver ≠ .idle) :
    Taking { s with
      checking := false
      uploader := GcsUploader.poll storage u (.timedOut s.signal.isCompleted) s.uploader } := by
  cases hsignal : s.signal.isCompleted with
  | false =>
    rw [GcsUploader.poll_waiting]
    refine ⟨?_, h.past, fun _ hc => ?_, h.finished⟩
    · exact h.signal
    · cases hc
  | true =>
    have hended : s.saver = .ended := (h.signal hsignal).resolve_left hstarted
    refine ⟨h.signal, h.past, fun _ hc => ?_, fun _ => Or.inr ⟨hended, ?_⟩⟩
    · cases hc
    · exact h.checked hrun hcheck hended

theorem taking_of_reachable (hwork : u.options.doWork = true)
    (hpre : (GcsUploader.validatePreconditions u).ok = true)
    (hclient : ∀ n, storage.createDefaultClient n = none) {workingBufferSize : Int32} {s : State}
    (h : ((system env w storage u workingBufferSize).restrict
      fun s l _ => NoRace s l).Reachable s) : Taking s := by
  refine h.invariant ?_ ?_
  · rintro s ⟨images, paths, _, _, rfl⟩
    refine ⟨fun _ => Or.inl rfl, fun hpast => ?_, fun _ hc => ?_, fun hover => ?_⟩
    · rcases hpast with hpast | hpast
      · cases hpast
      · cases hpast
    · cases hc
    · exact absurd (workImpl_nil_running hwork hpre hclient) hover
  · rintro s l s' hr ih ⟨hs, hrace⟩
    cases hs with
    | spawn hidle =>
      refine ⟨fun hc => ?_, fun hpast => ?_, fun _ _ hended => ?_, fun hover => ?_⟩
      · cases hc
      · rcases hpast with hpast | hpast
        · cases hpast
        · cases hpast
      · cases hended
      · rcases ih.finished hover with hv | ⟨hended, _⟩
        · exact Or.inl hv
        · cases hidle.symm.trans hended
    | images k _ _ _ hstep => exact ih.images hstep
    | forward v rest hout hq => exact ih.forward hout hq.tryEmplace_history.1
    | setStatus status hworking hreturned hout =>
      refine ⟨fun hc => ?_, fun _ => ⟨?_, hout⟩, fun _ _ hended => ?_, fun hover => ?_⟩
      · rcases ih.signal hc with he | he
        · cases hworking.symm.trans he
        · cases hworking.symm.trans he
      · exact Outcome.over_of_returned hreturned
      · cases hended
      · rcases ih.finished hover with hv | ⟨hended, _⟩
        · exact Or.inl hv
        · cases hworking.symm.trans hended
    | finish hset =>
      refine ⟨fun _ => Or.inr rfl, fun _ => ih.past (Or.inl hset), fun _ hc _ => hrace hc,
        fun hover => ?_⟩
      rcases ih.finished hover with hv | ⟨hended, _⟩
      · exact Or.inl hv
      · cases hset.symm.trans hended
    | pop elem e hrun hcheck hq =>
      exact ih.pop hclient (inv_of_reachable hr.of_restrict) hrun hcheck hq
    | check hrun hcheck => exact ih.check hrun hcheck hrace
    | wake t hq =>
      obtain ⟨hqueue, hacc, hpop⟩ := hq.queue_wake
      exact ih.paths (by rw [hqueue]) hacc hpop
    | setUploaderStatus status _ _ => exact ⟨ih.signal, ih.past, ih.checked, ih.finished⟩
    | finishUploader _ => exact ⟨ih.signal, ih.past, ih.checked, ih.finished⟩

/-- **An uploader that has returned has taken the EOS.** -/
theorem Taking.taken {s : State} (h : Taking s) (hinv : Inv env w storage u s)
    (hhist : s.paths.popped ++ s.paths.queue.q = s.paths.accepted) (hwilling : Willing env w)
    (hreturns : s.images.saver.outcome = .running ∨ s.images.saver.outcome = .returned okStatus)
    (hover : s.uploader.outcome ≠ .running) : ∃ v ∈ s.paths.popped, v.ok = false := by
  rcases h.finished hover with hv | ⟨hended, hempty⟩
  · exact hv
  · obtain ⟨hpast, hout⟩ := h.past (Or.inr hended)
    rw [hempty, List.append_nil] at hhist
    obtain ⟨more, hmore⟩ := hinv.sent
    rw [State.outbox, ← hmore, List.drop_left] at hout
    rw [hout, List.append_nil, ← hhist] at hmore
    rcases hinv.ledger with hopen | hclosed
    · exact absurd hopen.running hpast
    · obtain ⟨files, last, ends, hfiles, _, _, hwritten⟩ := hclosed.forwarded
      obtain ⟨_, hends⟩ := hwritten hwilling okStatus (hreturns.resolve_left hpast) rfl
      refine ⟨GcsUploader.eosValue, ?_, rfl⟩
      rw [hmore, hfiles.forwarded, hends]
      exact List.mem_append_right _ (List.mem_append_right _ List.mem_cons_self)

/-- Nothing is lost without a race, by a saver that finds its uploader running all the time. -/
theorem delivered_of_quiet (hq : env.Quiet) (hwilling : Willing env w)
    (hpre : (LocalVideoSaver.validatePreconditions w).ok = true)
    (hwork : u.options.doWork = true) (hupload : (GcsUploader.validatePreconditions u).ok = true)
    (hclient : ∀ n, storage.createDefaultClient n = none) {workingBufferSize : Int32} {s : State}
    (h : ((system env w storage u workingBufferSize).restrict
      fun s l _ => NoRace s l).Reachable s)
    (hover : s.uploader.outcome ≠ .running) : Delivered storage u s := by
  have hinv := inv_of_reachable h.of_restrict
  have himages := images_reachable h
  have hhist : s.paths.popped ++ s.paths.queue.q = s.paths.accepted :=
    ProducerConsumerQueue.history_of_reachable
      ((toPaths env w storage u workingBufferSize).reachable h.of_restrict)
  have hreturns := returns_of_noRace hq hpre himages
  obtain ⟨v, hv, hnot⟩ := (taking_of_reachable hwork hupload hclient h).taken hinv hhist hwilling
    hreturns hover
  obtain ⟨hpast, files, last, hlast, heq, hwritten⟩ := hinv.taken_eos ⟨_, hhist⟩ hv hnot
  have hreturned := hreturns.resolve_left hpast
  have hattempts : Attempts u s.images.saver.written s.uploader.uploads := by
    rw [← hwritten hwilling okStatus hreturned rfl, hinv.uploads, heq]
    exact attempts_of_eos hlast
  refine ⟨hreturned, (ExporterChannel.inv_of_reachable hq hpre himages).noFrameLost.written hpast,
    hattempts, fun hstorage => ?_⟩
  obtain ⟨last', hlast', huploads⟩ := hattempts
  exact ⟨last', hlast', (GcsUploader.uploaded_eq_iff storage huploads).mpr fun n _ => hstorage n⟩

/-- **The uploader is not completed while it runs.** -/
theorem signal_of_running {workingBufferSize : Int32} {s : State}
    (h : (system env w storage u workingBufferSize).Reachable s) :
    s.uploader.outcome = .running →
      s.uploaderThread = .working ∧ s.uploaderSignal.isCompleted = false := by
  refine h.invariant (I := fun s : State => s.uploader.outcome = .running →
    s.uploaderThread = .working ∧ s.uploaderSignal.isCompleted = false) ?_ ?_
  · rintro s ⟨images, paths, _, _, rfl⟩ _
    exact ⟨rfl, rfl⟩
  · intro s l s' _ ih hs hrun
    cases hs with
    | pop elem e hbefore _ _ =>
      rw [(afterTryPop_thread e _).1, (afterTryPop_thread e _).2]
      exact ih hbefore
    | check hbefore _ => exact ih hbefore
    | setUploaderStatus status _ hover => exact absurd hrun (Outcome.over_of_returned hover)
    | finishUploader hset =>
      cases hset.symm.trans (ih hrun).1
    | spawn _ => exact ih hrun
    | images _ _ _ _ _ => exact ih hrun
    | forward _ _ _ _ => exact ih hrun
    | setStatus _ _ _ _ => exact ih hrun
    | finish _ => exact ih hrun
    | wake _ _ => exact ih hrun

/-- **A saver that still polls has an uploader that runs.** -/
theorem Taking.uploading {s : State} (h : Taking s) (hinv : Inv env w storage u s)
    (hhist : s.paths.popped ++ s.paths.queue.q = s.paths.accepted)
    (hpolling : s.images.saver.outcome = .running) : s.uploader.outcome = .running := by
  by_contra hover
  rcases h.finished hover with ⟨v, hv, hnot⟩ | ⟨hended, _⟩
  · exact (hinv.taken_eos ⟨_, hhist⟩ hv hnot).1 hpolling
  · exact (h.past (Or.inr hended)).1 hpolling

/-- A stretch of the saver that does not find its uploader completed. -/
theorem channelStep_kept {s s' : ExporterChannel.State} {k : ExporterChannel.Label}
    (hlook : LocalVideoSaver.FoundRunning env s.saver s'.saver)
    (h : ExporterChannel.Step env w s k s') : ExporterChannel.Step env.kept w s k s' := by
  cases h with
  | start hidle => exact .start hidle
  | emplace image e hworking hconv hq => exact .emplace image e hworking hconv hq
  | eos eos e hworking hcode hq => exact .eos eos e hworking hcode hq
  | leave hworking => exact .leave hworking
  | setStatus status hreturning => exact .setStatus status hreturning
  | finish hset => exact .finish hset
  | pop elem e hrun hcheck hq =>
    have hsame : ∀ t : ExporterChannel.State,
        LocalVideoSaver.FoundRunning env t.saver (ExporterChannel.afterTryPop env w e t).saver →
        ExporterChannel.afterTryPop env w e t = ExporterChannel.afterTryPop env.kept w e t := by
      intro t ht
      unfold ExporterChannel.afterTryPop at ht ⊢
      split
      · rw [LocalVideoSaver.poll_kept ht]
      · rfl
      · rfl
    rw [hsame _ hlook]
    exact .pop elem e hrun hcheck hq
  | check hrun hcheck =>
    rw [← LocalVideoSaver.poll_kept hlook]
    exact .check hrun hcheck
  | wake t hq => exact .wake t hq

/-- **No look finds the uploader completed** in a run without a race. -/
theorem kept_reachable (hwork : u.options.doWork = true)
    (hupload : (GcsUploader.validatePreconditions u).ok = true)
    (hclient : ∀ n, storage.createDefaultClient n = none) {workingBufferSize : Int32} {s : State}
    (h : ((system env w storage u workingBufferSize).restrict
      fun s l _ => NoRace s l).Reachable s) :
    ((system env.kept w storage u workingBufferSize).restrict
      fun s l _ => NoRace s l).Reachable s := by
  induction h with
  | init hi => exact .init hi
  | @step s _ _ hr hs ih =>
    obtain ⟨hs, hrace⟩ := hs
    refine ih.step ⟨?_, hrace⟩
    cases hs with
    | @images k images hidle hpolls hlook hstep =>
      have hhist := ProducerConsumerQueue.history_of_reachable
        ((toPaths env w storage u workingBufferSize).reachable hr.of_restrict)
      have hrunning : s.images.saver.dstChecks < images.saver.dstChecks →
          s.uploaderSignal.isCompleted = false := by
        intro hlooked
        rcases polls_cases hstep with ⟨hsaver, _⟩ | ⟨hpolling, _⟩
        · rw [hsaver] at hlooked
          exact absurd hlooked (Nat.lt_irrefl _)
        · have huploading := (taking_of_reachable hwork hupload hclient hr).uploading
            (inv_of_reachable hr.of_restrict) hhist hpolling
          exact (signal_of_running hr.of_restrict huploading).2
      have hfound : LocalVideoSaver.FoundRunning env s.images.saver images.saver :=
        fun hlooked => (hlook hlooked).trans (hrunning hlooked)
      exact .images k hidle hpolls (fun hlooked => (hrunning hlooked).symm)
        (channelStep_kept hfound hstep)
    | spawn hidle => exact .spawn hidle
    | forward v rest hout hq => exact .forward v rest hout hq
    | setStatus status hworking hreturned hout => exact .setStatus status hworking hreturned hout
    | finish hset => exact .finish hset
    | pop elem e hrun hcheck hq => exact .pop elem e hrun hcheck hq
    | check hrun hcheck => exact .check hrun hcheck
    | wake t hq => exact .wake t hq
    | setUploaderStatus status hworking hreturned =>
      exact .setUploaderStatus status hworking hreturned
    | finishUploader hset => exact .finishUploader hset

/-- **Nothing is lost without a race**: when no writer fails, the channel of paths takes every
path and clients can be created, the files that an uploader has attempted when it returns have
all the images. -/
theorem delivered_of_reachable (hwrites : env.Writes)
    (hforwards : w.options.forwardFilePaths = true) (hplaces : ∀ n, env.tryEmplace n = true)
    (hpre : (LocalVideoSaver.validatePreconditions w).ok = true)
    (hwork : u.options.doWork = true) (hupload : (GcsUploader.validatePreconditions u).ok = true)
    (hclient : ∀ n, storage.createDefaultClient n = none) {workingBufferSize : Int32} {s : State}
    (h : ((system env w storage u workingBufferSize).restrict
      fun s l _ => NoRace s l).Reachable s)
    (hover : s.uploader.outcome ≠ .running) : Delivered storage u s :=
  delivered_of_quiet hwrites.kept (LocalVideoSaver.willing_kept hforwards hplaces) hpre hwork
    hupload hclient (kept_reachable hwork hupload hclient h) hover

end Delivery

/-! ### A run -/

section Run

/-- A client that can always be created, and uploads that succeed. -/
def reliable : GcsUploader.Env := ⟨fun _ => none, fun _ => none⟩

/-- Files of two frames, and nothing that disturbs the workers. -/
def quietSystem : System State Label :=
  system LocalVideoSaver.undisturbed (LocalVideoSaver.attachedSaver 2) reliable
    GcsUploader.attachedUploader 1

/-- The pipeline when the uploader is started. -/
def ready : State :=
  initial LocalVideoSaver.undisturbed (LocalVideoSaver.attachedSaver 2) reliable
    GcsUploader.attachedUploader (.onePlace _) (.onePlace _)

/-- One image and the EOS go through all three workers. -/
theorem reachable_oneImage : ∃ s : State,
    (quietSystem.restrict fun s l _ => NoRace s l).Reachable s ∧
      s.uploader.outcome = .returned okStatus ∧ s.images.shared.accepted.length = 2 ∧
      s.uploader.uploads.length = 1 := by
  let image : StatusOr RawImage := .value .default
  let eos : StatusOr RawImage := LocalVideoSaver.eosValue
  let path : StatusOr String := .value (LocalVideoSaver.generateVideoFilePath
    LocalVideoSaver.undisturbed (LocalVideoSaver.attachedSaver 2).options 0)
  let last : StatusOr String := GcsUploader.eosValue
  let i₁ := ready.images.shared.called .source (.tryEmplace image)
  let i₂ := i₁.called .saver (.tryPop eos (.seconds 5))
  let i₃ := i₂.called .source (.tryEmplace eos)
  let i₄ := i₃.called .saver (.tryPop eos (.seconds 5))
  let p₁ := ready.paths.called .saver (.tryEmplace path)
  let p₂ := p₁.called .uploader (.tryPop last (.seconds 5))
  let p₃ := p₂.called .saver (.tryEmplace last)
  let p₄ := p₃.called .uploader (.tryPop last (.seconds 5))
  have hi₁ : ProducerConsumerQueue.Step ready.images.shared
      (.run .source (.tryEmplace image) (.done (.tryEmplace true))) i₁ :=
    ProducerConsumerQueue.called_step (fun _ => rfl) ExporterChannel.Role.source _
  have hi₂ : ProducerConsumerQueue.Step i₁
      (.run .saver (.tryPop eos (.seconds 5)) (.done (.tryPop true image))) i₂ :=
    ProducerConsumerQueue.called_step (fun t => by cases t <;> rfl) ExporterChannel.Role.saver _
  have hi₃ : ProducerConsumerQueue.Step i₂
      (.run .source (.tryEmplace eos) (.done (.tryEmplace true))) i₃ :=
    ProducerConsumerQueue.called_step (fun t => by cases t <;> rfl) ExporterChannel.Role.source _
  have hi₄ : ProducerConsumerQueue.Step i₃
      (.run .saver (.tryPop eos (.seconds 5)) (.done (.tryPop true eos))) i₄ :=
    ProducerConsumerQueue.called_step (fun t => by cases t <;> rfl) ExporterChannel.Role.saver _
  have hp₁ : ProducerConsumerQueue.Step ready.paths
      (.run .saver (.tryEmplace path) (.done (.tryEmplace true))) p₁ :=
    ProducerConsumerQueue.called_step (fun _ => rfl) Role.saver _
  have hp₂ : ProducerConsumerQueue.Step p₁
      (.run .uploader (.tryPop last (.seconds 5)) (.done (.tryPop true path))) p₂ :=
    ProducerConsumerQueue.called_step (fun t => by cases t <;> rfl) Role.uploader _
  have hp₃ : ProducerConsumerQueue.Step p₂
      (.run .saver (.tryEmplace last) (.done (.tryEmplace true))) p₃ :=
    ProducerConsumerQueue.called_step (fun t => by cases t <;> rfl) Role.saver _
  have hp₄ : ProducerConsumerQueue.Step p₃
      (.run .uploader (.tryPop last (.seconds 5)) (.done (.tryPop true last))) p₄ :=
    ProducerConsumerQueue.called_step (fun t => by cases t <;> rfl) Role.uploader _
  have hinit : (quietSystem.restrict fun s l _ => NoRace s l).Reachable ready :=
    .init ⟨_, _, rfl, rfl, rfl⟩
  have hspawn := hinit.step ⟨Step.spawn rfl, trivial⟩
  have hstart := hspawn.step ⟨Step.images .start (by decide) False.elim (by decide)
    (ExporterChannel.Step.start rfl), trivial⟩
  have himage := hstart.step ⟨Step.images .emplace (by decide) False.elim (by decide)
    (ExporterChannel.Step.emplace image _ rfl rfl hi₁), trivial⟩
  have htaken := himage.step ⟨Step.images .pop (by decide) (fun _ => rfl) (fun _ => rfl)
    (ExporterChannel.Step.pop eos _ rfl rfl hi₂), trivial⟩
  have heos := htaken.step ⟨Step.images .eos (by decide) False.elim (by decide)
    (ExporterChannel.Step.eos eos _ rfl rfl hi₃), trivial⟩
  have hended := heos.step ⟨Step.images .pop (by decide) (fun _ => rfl) (fun _ => rfl)
    (ExporterChannel.Step.pop eos _ rfl rfl hi₄), trivial⟩
  have hpath := hended.step ⟨Step.forward path [last] rfl hp₁, trivial⟩
  have hattempt := hpath.step ⟨Step.pop last _ rfl rfl hp₂, trivial⟩
  have hlast := hattempt.step ⟨Step.forward last [] rfl hp₃, trivial⟩
  have hover := hlast.step ⟨Step.pop last _ rfl rfl hp₄, trivial⟩
  exact ⟨_, hover, rfl, rfl, rfl⟩

theorem safe_oneImage : ∃ s : State, s.uploader.uploads.length = 1 ∧
    Safe LocalVideoSaver.undisturbed (LocalVideoSaver.attachedSaver 2) reliable
      GcsUploader.attachedUploader s := by
  obtain ⟨s, h, _, _, hlen⟩ := reachable_oneImage
  exact ⟨s, hlen, uploads_of_reachable h.of_restrict⟩

theorem delivered_oneImage : ∃ s : State, s.uploader.uploads.length = 1 ∧
    Delivered reliable GcsUploader.attachedUploader s := by
  obtain ⟨s, h, hover, _, hlen⟩ := reachable_oneImage
  exact ⟨s, hlen, delivered_of_reachable ⟨fun _ _ => rfl, fun _ => rfl⟩ rfl (fun _ => rfl) rfl rfl
    rfl (fun _ => rfl) h (Outcome.over_of_returned hover)⟩

/-- The same with channels of two places. -/
def roomy : State :=
  initial LocalVideoSaver.undisturbed (LocalVideoSaver.attachedSaver 2) reliable
    GcsUploader.attachedUploader (.twoPlaces _) (.twoPlaces _)

/-- **A file is left behind when the uploader looks too late**: its `TryPop` times out, the saver
sends a path and the EOS and ends, and the uploader returns OK without an attempt. -/
theorem not_delivered_lateLook : ∃ s : State,
    (system LocalVideoSaver.undisturbed (LocalVideoSaver.attachedSaver 2) reliable
      GcsUploader.attachedUploader 2).Reachable s ∧
      s.images.saver.outcome = .returned okStatus ∧ s.images.saver.written.length = 1 ∧
      s.uploader.outcome = .returned okStatus ∧ s.uploader.uploads = [] ∧
      ¬ Delivered reliable GcsUploader.attachedUploader s := by
  let image : StatusOr RawImage := .value .default
  let eos : StatusOr RawImage := LocalVideoSaver.eosValue
  let path : StatusOr String := .value (LocalVideoSaver.generateVideoFilePath
    LocalVideoSaver.undisturbed (LocalVideoSaver.attachedSaver 2).options 0)
  let last : StatusOr String := GcsUploader.eosValue
  let timeout : Duration := .seconds 5
  let wait : ProducerConsumerQueue.Frame (StatusOr String) :=
    .tryPop last timeout (Time.after 0 timeout)
  let i₁ := roomy.images.shared.called .source (.tryEmplace image)
  let i₂ := i₁.called .saver (.tryPop eos timeout)
  let i₃ := i₂.called .source (.tryEmplace eos)
  let i₄ := i₃.called .saver (.tryPop eos timeout)
  let p₁ := roomy.paths.called .uploader (.tryPop last timeout)
  let p₂ : ProducerConsumerQueue.State Role (StatusOr String) :=
    { p₁ with threads := Function.update p₁.threads .uploader (.awake wait) }
  let p₃ := p₂.after .uploader wait.call (wait.resume 20000000000 p₂.queue) p₂.threads
  let p₄ := p₃.called .saver (.tryEmplace path)
  let p₅ := p₄.called .saver (.tryEmplace last)
  have hi₁ : ProducerConsumerQueue.Step roomy.images.shared
      (.run .source (.tryEmplace image) (.done (.tryEmplace true))) i₁ :=
    ProducerConsumerQueue.called_step (fun _ => rfl) ExporterChannel.Role.source _
  have hi₂ : ProducerConsumerQueue.Step i₁
      (.run .saver (.tryPop eos timeout) (.done (.tryPop true image))) i₂ :=
    ProducerConsumerQueue.called_step (fun t => by cases t <;> rfl) ExporterChannel.Role.saver _
  have hi₃ : ProducerConsumerQueue.Step i₂
      (.run .source (.tryEmplace eos) (.done (.tryEmplace true))) i₃ :=
    ProducerConsumerQueue.called_step (fun t => by cases t <;> rfl) ExporterChannel.Role.source _
  have hi₄ : ProducerConsumerQueue.Step i₃
      (.run .saver (.tryPop eos timeout) (.done (.tryPop true eos))) i₄ :=
    ProducerConsumerQueue.called_step (fun t => by cases t <;> rfl) ExporterChannel.Role.saver _
  have hp₁ : ProducerConsumerQueue.Step roomy.paths
      (.run .uploader (.tryPop last timeout) (.wait wait)) p₁ :=
    ProducerConsumerQueue.called_step (fun _ => rfl) Role.uploader _
  have hp₂ : ProducerConsumerQueue.Step p₁ (.wake .uploader) p₂ := .wake Role.uploader wait rfl
  have hp₃ : ProducerConsumerQueue.Step p₂
      (.run .uploader (.tryPop last timeout) (.done (.tryPop false last))) p₃ :=
    .resume Role.uploader wait 20000000000 (Or.inr rfl) (.none _)
  have hp₄ : ProducerConsumerQueue.Step p₃
      (.run .saver (.tryEmplace path) (.done (.tryEmplace true))) p₄ :=
    ProducerConsumerQueue.called_step (fun t => by cases t <;> rfl) Role.saver _
  have hp₅ : ProducerConsumerQueue.Step p₄
      (.run .saver (.tryEmplace last) (.done (.tryEmplace true))) p₅ :=
    ProducerConsumerQueue.called_step (fun t => by cases t <;> rfl) Role.saver _
  have hinit : (system LocalVideoSaver.undisturbed (LocalVideoSaver.attachedSaver 2) reliable
      GcsUploader.attachedUploader 2).Reachable roomy := .init ⟨_, _, rfl, rfl, rfl⟩
  have hspawn := hinit.step (Step.spawn rfl)
  have hwait := hspawn.step (Step.pop last _ rfl rfl hp₁)
  have hwoken := hwait.step (Step.wake Role.uploader hp₂)
  have htimedOut := hwoken.step (Step.pop last _ rfl rfl hp₃)
  have hstart := htimedOut.step (Step.images .start (by decide) False.elim (by decide)
    (ExporterChannel.Step.start rfl))
  have himage := hstart.step (Step.images .emplace (by decide) False.elim (by decide)
    (ExporterChannel.Step.emplace image _ rfl rfl hi₁))
  have htaken := himage.step (Step.images .pop (by decide) (fun _ => rfl) (fun _ => rfl)
    (ExporterChannel.Step.pop eos _ rfl rfl hi₂))
  have heos := htaken.step (Step.images .eos (by decide) False.elim (by decide)
    (ExporterChannel.Step.eos eos _ rfl rfl hi₃))
  have hended := heos.step (Step.images .pop (by decide) (fun _ => rfl) (fun _ => rfl)
    (ExporterChannel.Step.pop eos _ rfl rfl hi₄))
  have hpath := hended.step (Step.forward path [last] rfl hp₄)
  have hlast := hpath.step (Step.forward last [] rfl hp₅)
  have hset := hlast.step (Step.setStatus okStatus rfl rfl rfl)
  have hfinish := hset.step (Step.finish rfl)
  have hover := hfinish.step (Step.check rfl rfl)
  refine ⟨_, hover, rfl, rfl, rfl, rfl, fun h => ?_⟩
  obtain ⟨last', _, huploads⟩ := h.attempts
  cases huploads

end Run

end AIStreams.ExporterPipeline
