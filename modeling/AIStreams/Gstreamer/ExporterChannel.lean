import AIStreams.Gstreamer.LocalVideoSaver
import AIStreams.Util.QueueClient

/-!
# The channel between a video source and the saver

`Worker::Work`, the sources' cleanup and the receive loop of `LocalVideoSaver::WorkImpl` in
`aistreams/gstreamer/gstreamer_video_exporter.cc`.  The saver is started first; the source
marks its `CompletionSignal` as started when it is started in turn.  A timed-out `TryPop` of
the saver and its look at the signal are two steps.

* `noFrameLost_of_noRace`: no image is lost in a run in which the saver looks at the signal
  only after the source was started, and the source does not end while images are on the
  channel and the saver is between its `TryPop` and that look.
* `not_noFrameLost_startOrder`: an image is lost when the source is started too late.
-/

namespace AIStreams.ExporterChannel

open Transition
open LocalVideoSaver (Chunked converted)
open ProducerConsumerQueue (Call Ended)

/-! ### The program -/

inductive Role
  | source
  | saver
  deriving DecidableEq

/-- Where the source worker is: not started, in `WorkImpl` (its callback included), past
`WorkImpl`, past `SetStatus`, past `End`. -/
inductive SourcePc
  | idle
  | working
  | returning
  | statusSet
  | ended
  deriving DecidableEq

/-- `checking`: the saver's `TryPop` has timed out, and it is about to look at the signal;
`seenCompleted`: it has found the signal completed. -/
structure State where
  shared : ProducerConsumerQueue.State Role (StatusOr RawImage)
  signal : CompletionSignal
  source : SourcePc
  checking : Bool
  saver : LocalVideoSaver.State
  seenCompleted : Bool

inductive Label
  | start
  | emplace
  | eos
  | leave
  | setStatus
  | finish
  | pop
  | check
  | wake (t : Role)

section Program

variable (env : LocalVideoSaver.Env) (w : LocalVideoSaver.Worker)

/-- Where the saver goes when a stretch of its `TryPop` has ended. -/
def afterTryPop : Ended (StatusOr RawImage) → State → State
  | .done (.tryPop true v), s =>
    { s with saver := LocalVideoSaver.poll env w (.popped v) s.saver }
  | .done (.tryPop false _), s => { s with checking := true }
  | _, s => s

/-- The steps of the source, of the saver and of the clock.  The source's images can be
converted; a `TryEmplace` may fail, that of the EOS included, and `WorkImpl` may return
without an EOS. -/
inductive Step : State → Label → State → Prop
  | start {s : State} : s.source = .idle →
      Step s .start { s with source := .working, signal := s.signal.start }
  | emplace {s : State} (image : StatusOr RawImage) (e : Ended (StatusOr RawImage))
      {shared : ProducerConsumerQueue.State Role (StatusOr RawImage)} : s.source = .working →
      (converted image).isSome →
      ProducerConsumerQueue.Step s.shared (.run .source (.tryEmplace image) e) shared →
      Step s .emplace { s with shared := shared }
  | eos {s : State} (eos : StatusOr RawImage) (e : Ended (StatusOr RawImage))
      {shared : ProducerConsumerQueue.State Role (StatusOr RawImage)} : s.source = .working →
      eos.status.code = .kNotFound →
      ProducerConsumerQueue.Step s.shared (.run .source (.tryEmplace eos) e) shared →
      Step s .eos { s with shared := shared, source := .returning }
  | leave {s : State} : s.source = .working → Step s .leave { s with source := .returning }
  | setStatus {s : State} (status : Status) : s.source = .returning →
      Step s .setStatus { s with source := .statusSet, signal := s.signal.setStatus status }
  | finish {s : State} : s.source = .statusSet →
      Step s .finish { s with source := .ended, signal := s.signal.finish }
  | pop {s : State} (elem : StatusOr RawImage) (e : Ended (StatusOr RawImage))
      {shared : ProducerConsumerQueue.State Role (StatusOr RawImage)} :
      s.saver.outcome = .running → s.checking = false →
      ProducerConsumerQueue.Step s.shared (.run .saver (.tryPop elem (.seconds 5)) e) shared →
      Step s .pop (afterTryPop env w e { s with shared := shared })
  | check {s : State} : s.saver.outcome = .running → s.checking = true →
      Step s .check { s with
        checking := false
        saver := LocalVideoSaver.poll env w (.timedOut s.signal.isCompleted) s.saver
        seenCompleted := s.seenCompleted || s.signal.isCompleted }
  | wake {s : State} (t : Role)
      {shared : ProducerConsumerQueue.State Role (StatusOr RawImage)} :
      ProducerConsumerQueue.Step s.shared (.wake t) shared →
      Step s (.wake t) { s with shared := shared }

/-- `Run` has made the channel and started the saver, and not yet the source. -/
def initial (queue : ProducerConsumerQueue (StatusOr RawImage)) : State where
  shared := ProducerConsumerQueue.initial Role queue
  signal := .default
  source := .idle
  checking := false
  saver := LocalVideoSaver.workImpl env w []
  seenCompleted := false

def system (workingBufferSize : Int32) : System State Label where
  init s := ∃ queue, ProducerConsumerQueue.create (StatusOr RawImage) workingBufferSize =
    .ok queue ∧ s = initial env w queue
  step := Step env w

end Program

theorem afterTryPop_shared (env : LocalVideoSaver.Env) (w : LocalVideoSaver.Worker)
    (e : Ended (StatusOr RawImage)) (s : State) : (afterTryPop env w e s).shared = s.shared := by
  unfold afterTryPop
  split
  · rfl
  · rfl
  · rfl

/-- **Every step is a step of the queue, or leaves it alone.** -/
def toQueue (env : LocalVideoSaver.Env) (w : LocalVideoSaver.Worker) (workingBufferSize : Int32) :
    Refinement (system env w workingBufferSize)
      (ProducerConsumerQueue.system Role (StatusOr RawImage) workingBufferSize) where
  abs := State.shared
  init := by
    rintro s ⟨queue, hq, rfl⟩
    exact ⟨queue, hq, rfl⟩
  step := by
    intro s l s' _ h
    cases h with
    | start _ => exact Or.inl rfl
    | emplace _ _ _ _ hq => exact Or.inr ⟨_, hq⟩
    | eos _ _ _ _ hq => exact Or.inr ⟨_, hq⟩
    | leave _ => exact Or.inl rfl
    | setStatus _ _ => exact Or.inl rfl
    | finish _ => exact Or.inl rfl
    | pop _ e _ _ hq =>
      rw [afterTryPop_shared]
      exact Or.inr ⟨_, hq⟩
    | check _ _ => exact Or.inl rfl
    | wake _ hq => exact Or.inr ⟨_, hq⟩

/-! ### What is lost, and when nothing is -/

/-- When the saver has returned, every image that the channel accepted was popped, and is a
frame of a file, in order; and the saver took the source for completed only when it had
started and ended, and the channel was empty. -/
structure NoFrameLost (s : State) : Prop where
  popped : s.saver.outcome ≠ .running →
    s.shared.popped.filterMap converted = s.shared.accepted.filterMap converted
  written : s.saver.outcome ≠ .running →
    s.saver.written.flatMap GstreamerVideoWriter.frames = s.shared.accepted.filterMap converted
  completed : s.seenCompleted = true → s.source = .ended ∧ s.shared.queue.q = []

/-- The source is started before the saver looks at its signal, and it does not end between
a timed-out `TryPop` and that look while the queue is not empty. -/
def NoRace (s : State) : Label → Prop
  | .check => s.source ≠ .idle
  | .finish => s.checking = true → s.shared.queue.q = []
  | _ => True

/-- The source puts no more images on the channel. -/
def SourcePc.past : SourcePc → Prop
  | .idle => False
  | .working => False
  | _ => True

/-- **The invariant.**  `ends` is the EOS, if the channel had a place for it. -/
structure Inv (w : LocalVideoSaver.Worker) (s : State) : Prop where
  signal : s.signal.isCompleted = true → s.source = .idle ∨ s.source = .ended
  sent : ∃ images ends, s.shared.accepted = images ++ ends ∧
    (∀ v ∈ images, (converted v).isSome) ∧
    (ends = [] ∨ s.source.past ∧ ∃ eos : StatusOr RawImage,
      ends = [eos] ∧ eos.status.code = .kNotFound)
  taking : s.saver.outcome = .running →
    Chunked w (s.shared.popped.filterMap converted) s.saver ∧
      ∀ v ∈ s.shared.popped, (converted v).isSome
  checked : s.saver.outcome = .running → s.checking = true → s.source = .ended →
    s.shared.queue.q = []
  afterwards : s.saver.outcome ≠ .running → s.source.past ∧
    s.shared.popped.filterMap converted = s.shared.accepted.filterMap converted ∧
    s.saver.written.flatMap GstreamerVideoWriter.frames = s.shared.accepted.filterMap converted
  seen : s.seenCompleted = true →
    s.saver.outcome ≠ .running ∧ s.source = .ended ∧ s.shared.queue.q = []

theorem Inv.noFrameLost {w : LocalVideoSaver.Worker} {s : State} (h : Inv w s) : NoFrameLost s where
  popped hover := (h.afterwards hover).2.1
  written hover := (h.afterwards hover).2.2
  completed hseen := (h.seen hseen).2

section Steps

variable {env : LocalVideoSaver.Env} {w : LocalVideoSaver.Worker}

/-- `WorkImpl` before its first poll. -/
theorem workImpl_nil (hpre : (LocalVideoSaver.validatePreconditions w).ok = true) :
    LocalVideoSaver.workImpl env w [] = LocalVideoSaver.initial := by
  rw [LocalVideoSaver.workImpl, if_neg (by simp [hpre])]
  rfl

theorem inv_initial (hpre : (LocalVideoSaver.validatePreconditions w).ok = true)
    {queue : ProducerConsumerQueue (StatusOr RawImage)} : Inv w (initial env w queue) := by
  have hsaver : LocalVideoSaver.workImpl env w [] = LocalVideoSaver.initial := workImpl_nil hpre
  refine ⟨fun _ => Or.inl rfl, ⟨[], [], rfl, fun _ hv => (nomatch hv), Or.inl rfl⟩, ?_, ?_, ?_,
    fun h => nomatch h⟩
  · intro _
    refine ⟨?_, fun _ hv => nomatch hv⟩
    show Chunked w [] (LocalVideoSaver.workImpl env w [])
    rw [hsaver]
    exact LocalVideoSaver.chunked_initial w
  · intro _ hcheck
    cases hcheck
  · intro hover
    refine absurd ?_ hover
    show (LocalVideoSaver.workImpl env w []).outcome = .running
    rw [hsaver]
    rfl

/-- A source that has not left `WorkImpl` leaves the saver running. -/
theorem Inv.running {s : State} (h : Inv w s) (hs : ¬ s.source.past) :
    s.saver.outcome = .running := by
  by_contra hover
  exact hs (h.afterwards hover).1

/-- Before the EOS the channel has accepted images only. -/
theorem Inv.images_of_working {s : State} (h : Inv w s) (hs : ¬ s.source.past) :
    ∀ v ∈ s.shared.accepted, (converted v).isSome := by
  obtain ⟨images, ends, hsent, himages, hends⟩ := h.sent
  rcases hends with hends | ⟨hpast, _⟩
  · rw [hsent, hends, List.append_nil]
    exact himages
  · exact absurd hpast hs

/-- An image, or an EOS after which no image follows, joins what was sent. -/
theorem inv_send {s : State} (h : Inv w s) (hs : s.source = .working)
    {shared : ProducerConsumerQueue.State Role (StatusOr RawImage)} (source : SourcePc)
    (hpopped : shared.popped = s.shared.popped) (hsource : source ≠ .ended ∧ source ≠ .idle)
    (hsent : ∃ images ends, shared.accepted = images ++ ends ∧
      (∀ v ∈ images, (converted v).isSome) ∧
      (ends = [] ∨ source.past ∧ ∃ eos : StatusOr RawImage,
        ends = [eos] ∧ eos.status.code = .kNotFound)) :
    Inv w { s with shared := shared, source := source } := by
  have hrun : s.saver.outcome = .running := h.running (by rw [hs]; exact id)
  refine ⟨?_, hsent, ?_, ?_, fun hover => absurd hrun hover, fun hseen => ?_⟩
  · intro hcompleted
    rcases h.signal hcompleted with he | he
    · rw [hs] at he
      cases he
    · rw [hs] at he
      cases he
  · intro _
    show Chunked w (shared.popped.filterMap converted) s.saver ∧
      ∀ v ∈ shared.popped, (converted v).isSome
    rw [hpopped]
    exact h.taking hrun
  · intro _ _ hended
    exact absurd hended hsource.1
  · exact absurd hrun (h.seen hseen).1

theorem inv_emplace {s : State} (h : Inv w s) (hs : s.source = .working)
    {image : StatusOr RawImage} (hconv : (converted image).isSome) {e : Ended (StatusOr RawImage)}
    {shared : ProducerConsumerQueue.State Role (StatusOr RawImage)}
    (hq : ProducerConsumerQueue.Step s.shared (.run .source (.tryEmplace image) e) shared) :
    Inv w { s with shared := shared } := by
  obtain ⟨hpopped, haccepted⟩ := hq.tryEmplace_history
  have himages := h.images_of_working (by rw [hs]; exact id)
  refine inv_send h hs s.source hpopped (by rw [hs]; exact ⟨nofun, nofun⟩)
    ⟨shared.accepted, [], (List.append_nil _).symm, ?_, Or.inl rfl⟩
  rcases haccepted with hacc | hacc
  · rw [hacc]
    exact himages
  · intro v hv
    rw [hacc] at hv
    rcases List.mem_append.mp hv with hv | hv
    · exact himages v hv
    · rw [List.mem_singleton.mp hv]
      exact hconv

theorem inv_eos {s : State} (h : Inv w s) (hs : s.source = .working) {eos : StatusOr RawImage}
    (heos : eos.status.code = .kNotFound) {e : Ended (StatusOr RawImage)}
    {shared : ProducerConsumerQueue.State Role (StatusOr RawImage)}
    (hq : ProducerConsumerQueue.Step s.shared (.run .source (.tryEmplace eos) e) shared) :
    Inv w { s with shared := shared, source := .returning } := by
  obtain ⟨hpopped, haccepted⟩ := hq.tryEmplace_history
  have himages := h.images_of_working (by rw [hs]; exact id)
  refine inv_send h hs .returning hpopped ⟨nofun, nofun⟩ ?_
  rcases haccepted with hacc | hacc
  · exact ⟨s.shared.accepted, [], by rw [hacc, List.append_nil], himages, Or.inl rfl⟩
  · exact ⟨s.shared.accepted, [eos], hacc, himages, Or.inr ⟨trivial, eos, rfl, heos⟩⟩

/-- The source moves on, and leaves the channel as it is. -/
theorem inv_source {s : State} (h : Inv w s) (signal : CompletionSignal) (source : SourcePc)
    (hsignal : signal.isCompleted = true → source = .idle ∨ source = .ended)
    (hpast : s.source.past → source.past)
    (hstart : s.source ≠ .ended)
    (hended : source = .ended → s.checking = true → s.shared.queue.q = []) :
    Inv w { s with signal := signal, source := source } := by
  refine ⟨hsignal, ?_, h.taking, fun _ hcheck he => hended he hcheck, ?_, fun hseen => ?_⟩
  · obtain ⟨images, ends, hsent, himages, hends⟩ := h.sent
    refine ⟨images, ends, hsent, himages, ?_⟩
    rcases hends with hends | ⟨hp, heos⟩
    · exact Or.inl hends
    · exact Or.inr ⟨hpast hp, heos⟩
  · intro hover
    obtain ⟨hp, hrest⟩ := h.afterwards hover
    exact ⟨hpast hp, hrest⟩
  · exact absurd (h.seen hseen).2.1 hstart

/-- The saver returns at an EOS, or at what stands for one: the current file is flushed, and
all frames are in files. -/
theorem Inv.returns (hq : env.Quiet) {s : State} (h : Inv w s)
    (hrun : s.saver.outcome = .running) {v : StatusOr RawImage}
    (hv : v.status.code = .kNotFound) (popped : List (StatusOr RawImage)) :
    (LocalVideoSaver.receive env w v { s.saver with popped := popped }).outcome ≠ .running ∧
      (LocalVideoSaver.receive env w v { s.saver with popped := popped }).written.flatMap
        GstreamerVideoWriter.frames = s.shared.popped.filterMap converted := by
  have hchunked := (h.taking hrun).1.popped popped
  obtain ⟨hover, hwritten, _⟩ := hchunked.receive_eos hq hv
  refine ⟨by rw [hover]; exact nofun, ?_⟩
  rw [hwritten]
  exact hchunked.frames

/-- A step that moves nothing on the channel. -/
theorem inv_shared {s : State} (h : Inv w s)
    {shared : ProducerConsumerQueue.State Role (StatusOr RawImage)}
    (hqueue : shared.queue.q = s.shared.queue.q) (hacc : shared.accepted = s.shared.accepted)
    (hpop : shared.popped = s.shared.popped) : Inv w { s with shared := shared } := by
  refine ⟨h.signal, ?_, ?_, ?_, ?_, ?_⟩
  · show ∃ images ends, shared.accepted = images ++ ends ∧ _
    rw [hacc]
    exact h.sent
  · show s.saver.outcome = .running →
      Chunked w (shared.popped.filterMap converted) s.saver ∧
        ∀ v ∈ shared.popped, (converted v).isSome
    rw [hpop]
    exact h.taking
  · show _ → _ → _ → shared.queue.q = []
    rw [hqueue]
    exact h.checked
  · show s.saver.outcome ≠ .running → s.source.past ∧
      shared.popped.filterMap converted = shared.accepted.filterMap converted ∧
      s.saver.written.flatMap GstreamerVideoWriter.frames = shared.accepted.filterMap converted
    rw [hacc, hpop]
    exact h.afterwards
  · show _ → _ ∧ _ ∧ shared.queue.q = []
    rw [hqueue]
    exact h.seen

/-- What is not an image is the EOS: the last value sent, after all images. -/
theorem Inv.eos_of_not_converted {s : State} (h : Inv w s) {v : StatusOr RawImage}
    {before rest : List (StatusOr RawImage)} (hhist : before ++ v :: rest = s.shared.accepted)
    (hconv : converted v = none) :
    s.source.past ∧ v.status.code = .kNotFound ∧
      before.filterMap converted = s.shared.accepted.filterMap converted := by
  obtain ⟨images, ends, hsent, himages, hends⟩ := h.sent
  rw [hsent] at hhist
  have hnot : v ∉ images := by
    intro hmem
    have := himages v hmem
    rw [hconv] at this
    cases this
  rcases hends with rfl | ⟨hpast, eos, rfl, heos⟩
  · rw [List.append_nil] at hhist
    exact absurd (hhist ▸ List.mem_append_right _ List.mem_cons_self) hnot
  · rcases List.eq_nil_or_concat rest with rfl | ⟨rest', x, rfl⟩
    · obtain ⟨rfl, hv⟩ := List.append_inj' hhist rfl
      obtain rfl := List.singleton_inj.mp hv
      refine ⟨hpast, heos, ?_⟩
      rw [hsent, List.filterMap_append, List.filterMap_cons, hconv, List.filterMap_nil,
        List.append_nil]
    · rw [List.concat_eq_append, ← List.cons_append, ← List.append_assoc] at hhist
      obtain ⟨himg, _⟩ := List.append_inj' hhist rfl
      exact absurd (himg ▸ List.mem_append_right _ List.mem_cons_self) hnot

/-- The saver takes a value off the channel. -/
theorem inv_popped (hq : env.Quiet) (hpre : (LocalVideoSaver.validatePreconditions w).ok = true)
    {s : State} (h : Inv w s) (hrun : s.saver.outcome = .running) (hcheck : s.checking = false)
    {v : StatusOr RawImage} {rest : List (StatusOr RawImage)}
    (hhist : s.shared.popped ++ v :: rest = s.shared.accepted)
    {shared : ProducerConsumerQueue.State Role (StatusOr RawImage)}
    (hacc : shared.accepted = s.shared.accepted) (hpop : shared.popped = s.shared.popped ++ [v]) :
    Inv w { s with
      shared := shared, saver := LocalVideoSaver.poll env w (.popped v) s.saver } := by
  obtain ⟨hchunked, himages⟩ := h.taking hrun
  have hsent : ∃ images ends, shared.accepted = images ++ ends ∧
      (∀ v ∈ images, (converted v).isSome) ∧
      (ends = [] ∨ s.source.past ∧ ∃ eos : StatusOr RawImage,
        ends = [eos] ∧ eos.status.code = .kNotFound) := by
    rw [hacc]
    exact h.sent
  rw [LocalVideoSaver.poll_popped hrun]
  cases hconv : converted v with
  | some buffer =>
    have hnext := (hchunked.popped (s.saver.popped ++ [v])).receive hq hconv
      (LocalVideoSaver.maxFrames_pos hpre)
    refine ⟨h.signal, hsent, fun _ => ?_, fun _ hc => ?_, fun hover => ?_, fun hseen => ?_⟩
    · show Chunked w (shared.popped.filterMap converted) _ ∧
        ∀ u ∈ shared.popped, (converted u).isSome
      rw [hpop, List.filterMap_append, List.filterMap_cons, hconv, List.filterMap_nil]
      refine ⟨hnext, fun u hu => ?_⟩
      rcases List.mem_append.mp hu with hu | hu
      · exact himages u hu
      · rw [List.mem_singleton.mp hu, hconv]
        rfl
    · exact absurd (hcheck.symm.trans hc) nofun
    · exact absurd hnext.running hover
    · exact absurd hrun (h.seen hseen).1
  | none =>
    obtain ⟨hpast, hcode, hframes⟩ := h.eos_of_not_converted hhist hconv
    obtain ⟨hover, hwritten⟩ := h.returns hq hrun hcode (s.saver.popped ++ [v])
    refine ⟨h.signal, hsent, fun hrun' => absurd hrun' hover, fun hrun' => absurd hrun' hover,
      fun _ => ⟨hpast, ?_, ?_⟩, fun hseen => ?_⟩
    · show shared.popped.filterMap converted = shared.accepted.filterMap converted
      rw [hpop, hacc, List.filterMap_append, List.filterMap_cons, hconv, List.filterMap_nil,
        List.append_nil, hframes]
    · show _ = shared.accepted.filterMap converted
      rw [hwritten, hacc, hframes]
    · exact absurd hrun (h.seen hseen).1

/-- A stretch of the saver's `TryPop`. -/
theorem inv_pop (hq : env.Quiet) (hpre : (LocalVideoSaver.validatePreconditions w).ok = true)
    {s : State} (h : Inv w s)
    (hhist : s.shared.popped ++ s.shared.queue.q = s.shared.accepted)
    (hrun : s.saver.outcome = .running) (hcheck : s.checking = false)
    {elem : StatusOr RawImage} {e : Ended (StatusOr RawImage)}
    {shared : ProducerConsumerQueue.State Role (StatusOr RawImage)}
    (hs : ProducerConsumerQueue.Step s.shared (.run .saver (.tryPop elem (.seconds 5)) e) shared) :
    Inv w (afterTryPop env w e { s with shared := shared }) := by
  obtain ⟨_, hacc, hpop, hqueue⟩ := hs.queue_run
  rcases hs.tryPop_ended with ⟨f, rfl, hempty⟩ | ⟨rfl, hempty⟩ | ⟨v, rest, rfl, hv, _⟩
  · exact inv_shared h (by rw [hqueue, hempty]; rfl) (hacc.trans (List.append_nil _))
      (hpop.trans (List.append_nil _))
  · have hsame : Inv w { s with shared := shared } :=
      inv_shared h (by rw [hqueue, hempty]; rfl) (hacc.trans (List.append_nil _))
        (hpop.trans (List.append_nil _))
    refine ⟨hsame.signal, hsame.sent, hsame.taking, fun _ _ _ => ?_, hsame.afterwards, hsame.seen⟩
    show shared.queue.q = []
    rw [hqueue, hempty]
    rfl
  · exact inv_popped hq hpre h hrun hcheck (hv ▸ hhist) (hacc.trans (List.append_nil _)) hpop

/-- The saver's look at the signal of a source that was started. -/
theorem inv_check (hq : env.Quiet) {s : State} (h : Inv w s)
    (hhist : s.shared.popped ++ s.shared.queue.q = s.shared.accepted)
    (hrun : s.saver.outcome = .running) (hcheck : s.checking = true) (hstarted : s.source ≠ .idle) :
    Inv w { s with
      checking := false
      saver := LocalVideoSaver.poll env w (.timedOut s.signal.isCompleted) s.saver
      seenCompleted := s.seenCompleted || s.signal.isCompleted } := by
  cases hsignal : s.signal.isCompleted with
  | false =>
    rw [LocalVideoSaver.poll_waiting, Bool.or_false]
    refine ⟨?_, h.sent, h.taking, fun _ hc => absurd hc nofun, h.afterwards, h.seen⟩
    exact h.signal
  | true =>
    have hended : s.source = .ended := (h.signal hsignal).resolve_left hstarted
    have hempty := h.checked hrun hcheck hended
    have hall : s.shared.popped = s.shared.accepted := by
      rw [← hhist, hempty, List.append_nil]
    obtain ⟨hover, hwritten⟩ := h.returns hq hrun (v := LocalVideoSaver.srcCompletedValue) rfl
      s.saver.popped
    rw [LocalVideoSaver.poll_completed hrun]
    refine ⟨h.signal, h.sent, fun hrun' => absurd hrun' hover, fun hrun' => absurd hrun' hover,
      fun _ => ⟨?_, ?_, ?_⟩, fun _ => ⟨hover, hended, hempty⟩⟩
    · rw [hended]
      trivial
    · rw [hall]
    · rw [← hall]
      exact hwritten

theorem inv_of_reachable (hq : env.Quiet)
    (hpre : (LocalVideoSaver.validatePreconditions w).ok = true) {workingBufferSize : Int32}
    {s : State}
    (h : ((system env w workingBufferSize).restrict fun s l _ => NoRace s l).Reachable s) :
    Inv w s := by
  refine h.invariant ?_ ?_
  · rintro s ⟨queue, _, rfl⟩
    exact inv_initial hpre
  · rintro s l s' hr ih ⟨hs, hrace⟩
    have hhist : s.shared.popped ++ s.shared.queue.q = s.shared.accepted :=
      ProducerConsumerQueue.history_of_reachable
        ((toQueue env w workingBufferSize).reachable hr.of_restrict)
    cases hs with
    | start hidle =>
      refine inv_source ih s.signal.start .working nofun ?_ ?_ nofun
      · rw [hidle]
        exact False.elim
      · rw [hidle]
        exact nofun
    | emplace image e hw hconv hstep => exact inv_emplace ih hw hconv hstep
    | eos eos e hw heos hstep => exact inv_eos ih hw heos hstep
    | leave hw =>
      refine inv_source ih s.signal .returning ?_ ?_ ?_ nofun
      · intro hsig
        rcases ih.signal hsig with he | he
        · rw [hw] at he
          cases he
        · rw [hw] at he
          cases he
      · exact fun _ => trivial
      · rw [hw]
        exact nofun
    | setStatus status hw =>
      refine inv_source ih (s.signal.setStatus status) .statusSet ?_ (fun _ => trivial) ?_ nofun
      · intro hsig
        rcases ih.signal hsig with he | he
        · rw [hw] at he
          cases he
        · rw [hw] at he
          cases he
      · rw [hw]
        exact nofun
    | finish hw =>
      refine inv_source ih s.signal.finish .ended (fun _ => Or.inr rfl) (fun _ => trivial) ?_ ?_
      · rw [hw]
        exact nofun
      · exact fun _ => hrace
    | pop elem e hrun hcheck hstep => exact inv_pop hq hpre ih hhist hrun hcheck hstep
    | check hrun hcheck => exact inv_check hq ih hhist hrun hcheck hrace
    | wake t hstep =>
      obtain ⟨hqueue, hacc, hpop⟩ := hstep.queue_wake
      exact inv_shared ih (by rw [hqueue]) hacc hpop

/-- **No frame is lost without a race**: in every run, of whatever interleaving, in which the
saver looks at the signal only after the source was started, and the source does not end while
the queue is not empty and the saver is between a timed-out `TryPop` and that look. -/
theorem noFrameLost_of_noRace (hq : env.Quiet)
    (hpre : (LocalVideoSaver.validatePreconditions w).ok = true) {workingBufferSize : Int32}
    {s : State}
    (h : ((system env w workingBufferSize).restrict fun s l _ => NoRace s l).Reachable s) :
    NoFrameLost s :=
  (inv_of_reachable hq hpre h).noFrameLost

end Steps

/-! ### Runs -/

section Runs

/-- A saver with files of one frame, and nothing that disturbs it. -/
def quietSystem : System State Label :=
  system LocalVideoSaver.undisturbed (LocalVideoSaver.attachedSaver 1) 1

/-- The channel as it is when the saver is started. -/
def ready : State :=
  initial LocalVideoSaver.undisturbed (LocalVideoSaver.attachedSaver 1)
    (.onePlace _)

/-- The source is started in time: its image is taken and written before the saver returns. -/
theorem noFrameLost_oneImage : ∃ s : State,
    (quietSystem.restrict fun s l _ => NoRace s l).Reachable s ∧
      s.saver.outcome = .returned okStatus ∧ s.shared.accepted.length = 2 ∧ NoFrameLost s := by
  let image : StatusOr RawImage := .value .default
  let eos : StatusOr RawImage := LocalVideoSaver.eosValue
  let q₁ := ready.shared.called .source (.tryEmplace image)
  let q₂ := q₁.called .saver (.tryPop eos (.seconds 5))
  let q₃ := q₂.called .source (.tryEmplace eos)
  let q₄ := q₃.called .saver (.tryPop eos (.seconds 5))
  have hq₁ : ProducerConsumerQueue.Step ready.shared
      (.run .source (.tryEmplace image) (.done (.tryEmplace true))) q₁ :=
    ProducerConsumerQueue.called_step (fun _ => rfl) Role.source _
  have hq₂ : ProducerConsumerQueue.Step q₁
      (.run .saver (.tryPop eos (.seconds 5)) (.done (.tryPop true image))) q₂ :=
    ProducerConsumerQueue.called_step (fun t => by cases t <;> rfl) Role.saver _
  have hq₃ : ProducerConsumerQueue.Step q₂
      (.run .source (.tryEmplace eos) (.done (.tryEmplace true))) q₃ :=
    ProducerConsumerQueue.called_step (fun t => by cases t <;> rfl) Role.source _
  have hq₄ : ProducerConsumerQueue.Step q₃
      (.run .saver (.tryPop eos (.seconds 5)) (.done (.tryPop true eos))) q₄ :=
    ProducerConsumerQueue.called_step (fun t => by cases t <;> rfl) Role.saver _
  have hinit : (quietSystem.restrict fun s l _ => NoRace s l).Reachable ready :=
    .init ⟨_, rfl, rfl⟩
  have hstart := hinit.step ⟨Step.start rfl, trivial⟩
  have himage := hstart.step ⟨Step.emplace image _ rfl rfl hq₁, trivial⟩
  have htaken := himage.step ⟨Step.pop eos _ rfl rfl hq₂, trivial⟩
  have heos := htaken.step ⟨Step.eos eos _ rfl rfl hq₃, trivial⟩
  have hover := heos.step ⟨Step.pop eos _ rfl rfl hq₄, trivial⟩
  exact ⟨_, hover, rfl, rfl, noFrameLost_of_noRace LocalVideoSaver.undisturbed_quiet rfl hover⟩

/-- **An image is lost when the source is started too late**: the saver's `TryPop` times out,
the signal of a source that was never started counts as completed, and the image that comes
then stays on the channel. -/
theorem not_noFrameLost_startOrder :
    ∃ s : State, quietSystem.Reachable s ∧ s.saver.outcome = .returned okStatus ∧
      s.shared.accepted.length = 1 ∧ s.shared.popped = [] ∧ ¬ NoFrameLost s := by
  let image : StatusOr RawImage := .value .default
  let eos : StatusOr RawImage := LocalVideoSaver.eosValue
  let timeout : Duration := .seconds 5
  let wait : ProducerConsumerQueue.Frame (StatusOr RawImage) :=
    .tryPop eos timeout (Time.after 0 timeout)
  let q₁ := ready.shared.called .saver (.tryPop eos timeout)
  let q₂ : ProducerConsumerQueue.State Role (StatusOr RawImage) :=
    { q₁ with threads := Function.update q₁.threads .saver (.awake wait) }
  let q₃ := q₂.after .saver wait.call (wait.resume 20000000000 q₂.queue) q₂.threads
  let q₄ := q₃.called .source (.tryEmplace image)
  have hq₁ : ProducerConsumerQueue.Step ready.shared
      (.run .saver (.tryPop eos timeout) (.wait wait)) q₁ :=
    ProducerConsumerQueue.called_step (fun _ => rfl) Role.saver _
  have hq₂ : ProducerConsumerQueue.Step q₁ (.wake .saver) q₂ := .wake Role.saver wait rfl
  have hq₃ : ProducerConsumerQueue.Step q₂
      (.run .saver (.tryPop eos timeout) (.done (.tryPop false eos))) q₃ :=
    .resume Role.saver wait 20000000000 (Or.inr rfl) (.none _)
  have hq₄ : ProducerConsumerQueue.Step q₃
      (.run .source (.tryEmplace image) (.done (.tryEmplace true))) q₄ :=
    ProducerConsumerQueue.called_step (fun t => by cases t <;> rfl) Role.source _
  have hinit : quietSystem.Reachable ready := .init ⟨_, rfl, rfl⟩
  have hwait := hinit.step (Step.pop eos _ rfl rfl hq₁)
  have hwoken := hwait.step (Step.wake Role.saver hq₂)
  have htimedOut := hwoken.step (Step.pop eos _ rfl rfl hq₃)
  have hover := htimedOut.step (Step.check rfl rfl)
  have hstart := hover.step (Step.start rfl)
  have hlost := hstart.step (Step.emplace image _ rfl rfl hq₄)
  refine ⟨_, hlost, rfl, rfl, rfl, fun h => ?_⟩
  exact absurd (h.popped nofun) nofun

end Runs

end AIStreams.ExporterChannel
