import AIStreams.Gstreamer.GstreamerRunner
import AIStreams.Transition.System

/-!
# The end of the raw images

`aistreams/gstreamer/gstreamer_raw_image_yielder.cc`, with `GstreamerRunner::Feed`.  The thread
that owns the yielder calls `Feed` and `SignalEOS` and destroys it in the end; the pipeline hands
samples to the callback all the while, also while it is torn down.

* `yieldsEosOnce_iff`: the callback gets one EOS, and nothing after it, exactly if `SignalEOS` is
  called at most once.
* `feed_of_signaled`: nothing is fed after the first `SignalEOS`.
-/

namespace AIStreams

/-! ### `GstreamerRunner::Feed` -/

namespace GstreamerRunner

variable {Element : Type}

/-- `GstreamerRunnerImpl::Feed`.  `completed` is whether the bus has reported the end of the
pipeline, `pushed` whether the `push-buffer` signal returns `GST_FLOW_OK`; the list is what the
appsrc is given. -/
def feedImpl (completed pushed : Bool) (buffer : GstreamerBuffer)
    (impl : GstreamerRunnerImpl Element) : OrFatal (Status × List GstreamerBuffer) :=
  match impl.completionSignal, impl.gstreamerPipeline with
  | some signal, some p =>
    if signal.isCompleted || completed then
      .ok (failedPreconditionError
        "The runner has already completed. Please Create() it again and retry", [])
    else if p.gstAppsrc.isNone then
      .ok (invalidArgumentError "This runner is not configured for Feeding", [])
    else if buffer.caps ≠ impl.options.appsrcCapsString then
      .ok (invalidArgumentError ("Feeding the runner with caps \"" ++ bytesText buffer.caps ++
        "\" when \"" ++ bytesText impl.options.appsrcCapsString ++ "\" is expected"), [])
    else if pushed = false then .ok (internalError "Failed to push a GstBuffer", [buffer])
    else .ok (okStatus, [buffer])
  | _, _ => .error ⟨"null dereference"⟩

/-- `GstreamerRunner::Feed`. -/
def feed (completed pushed : Bool) (buffer : GstreamerBuffer) (runner : GstreamerRunner Element) :
    OrFatal (Status × List GstreamerBuffer) :=
  match runner.gstreamerRunnerImpl with
  | none => .error ⟨"null dereference"⟩
  | some impl =>
    match feedImpl completed pushed buffer impl with
    | .error e => .error e
    | .ok (status, fed) =>
      if status.ok = false then .ok (unknownError "Failed to Feed the GstreamerRunner", fed)
      else .ok (okStatus, fed)

/-- A runner whose members are set. -/
def Live (runner : GstreamerRunner Element) : Prop :=
  ∃ options p signal manager,
    runner.gstreamerRunnerImpl = some ⟨options, some p, some signal, some manager⟩

theorem live_of_create {gst : Gst Element} {options : Options} {runner : GstreamerRunner Element}
    (h : create gst options = .ok (.value runner)) : runner.Live := by
  rw [create] at h
  split at h
  · exact absurd (Except.ok.inj h) (StatusOr.ofStatus_ne_value _ runner)
  · rcases initializeImpl_cases gst options with
      ⟨_, p, signal, manager, he⟩ | ⟨_, status, hs, he⟩
    · rw [GstreamerRunnerImpl.create, he] at h
      cases h
      exact ⟨options, p, signal, manager, rfl⟩
    · rw [GstreamerRunnerImpl.create, he] at h
      simp only [hs, if_true, destroy_of_unset] at h
      cases h

theorem Live.destroy_eq {runner : GstreamerRunner Element} (h : runner.Live) (gst : Gst Element) :
    runner.destroy gst = .ok () := by
  obtain ⟨options, p, signal, manager, himpl⟩ := h
  rw [destroy, himpl]
  exact destroy_of_set gst options p signal manager

end GstreamerRunner

namespace RawImageYielder

open Transition

/-! ### The class -/

def kGenericDecodeString : String := "decodebin ! videoconvert ! video/x-raw,format=RGB"

/-- `EOSStatus()`. -/
def eosStatus : Status := .make .kNotFound "Reached EOS"

/-- Where the thread that owns the yielder is: outside of it, in the destructor of its runner, or
in the last part of `SignalEOS`, the destructor of the yielder being further out or not; or past
its destructor. -/
inductive Pc (Element : Type)
  | idle
  | finalizing (runner : Option (GstreamerRunner Element)) (inDestructor : Bool)
  | delivering (inDestructor : Bool)
  | destroyed
  | crashed (e : Fatal)

/-- `completed` is whether the pipeline has reported its end, `fed` what its appsrc was given,
`delivered` what the callback was called with, and `signals` how often `SignalEOS` was called
from outside. -/
structure State (Element : Type) where
  pc : Pc Element
  eosSignaled : Bool
  gstreamerRunner : Option (GstreamerRunner Element)
  completed : Bool
  fed : List GstreamerBuffer
  delivered : List (StatusOr RawImage)
  signals : ℕ

variable {Element : Type}

/-- `GstreamerRawImageYielder(options)`. -/
def construct : State Element := ⟨.idle, false, none, false, [], [], 0⟩

/-- The options of the runner; its callback hands images on, and always returns OK. -/
def runnerOptions (capsString : Bytes) : GstreamerRunner.Options where
  processingPipelineString := kGenericDecodeString
  appsrcCapsString := capsString
  receiverCallback := some fun _ => okStatus
  appsinkSync := false

/-- `Create`, with `Initialize`. -/
def create (gst : Gst Element) (capsString : Bytes) : OrFatal (StatusOr (State Element)) :=
  match GstreamerRunner.create gst (runnerOptions capsString) with
  | .error e => .error e
  | .ok (.error _ _) =>
    .ok (.ofStatus (internalError "Failed to Initialize the GstreamerRawImageYielder"))
  | .ok (.value runner) => .ok (.value { construct with gstreamerRunner := some runner })

/-- `Feed`. -/
def feed (pushed : Bool) (buffer : GstreamerBuffer) (s : State Element) :
    OrFatal (Status × State Element) :=
  if s.eosSignaled then .ok (failedPreconditionError "Cannot feed after EOS is signaled", s)
  else
    match s.gstreamerRunner with
    | none => .error ⟨"null dereference"⟩
    | some runner =>
      match runner.feed s.completed pushed buffer with
      | .error e => .error e
      | .ok (status, fed) => .ok (status, { s with fed := s.fed ++ fed })

/-- The beginning of `SignalEOS`: the flag is set, and the pointer to the runner reset. -/
def signalEos (inDestructor : Bool) (s : State Element) : State Element :=
  { s with
    eosSignaled := true
    gstreamerRunner := none
    pc := .finalizing s.gstreamerRunner inDestructor }

/-- The beginning of the destructor. -/
def destroy (s : State Element) : State Element :=
  if s.eosSignaled = false then signalEos true s else { s with pc := .destroyed }

/-- The runner has been destroyed. -/
def afterFinalize (gst : Gst Element) (runner : Option (GstreamerRunner Element))
    (inDestructor : Bool) (s : State Element) : State Element :=
  match runner with
  | none => { s with pc := .delivering inDestructor }
  | some runner =>
    match runner.destroy gst with
    | .error e => { s with pc := .crashed e }
    | .ok _ => { s with pc := .delivering inDestructor }

/-- The callback has been given the EOS; its status only goes to the log. -/
def afterDeliver (inDestructor : Bool) (s : State Element) : State Element :=
  { s with
    delivered := s.delivered ++ [.ofStatus eosStatus]
    pc := if inDestructor then .destroyed else .idle }

/-- The pipeline has a sample, which goes to the callback as an image. -/
def onSample (gstCapsFromString : Bytes → Option GstCaps) (buffer : GstreamerBuffer)
    (s : State Element) : State Element :=
  match toRawImage gstCapsFromString buffer with
  | .error e => { s with pc := .crashed e }
  | .ok v => { s with delivered := s.delivered ++ [v] }

/-- There is a pipeline that may have samples. -/
def State.running (s : State Element) : Bool :=
  match s.pc with
  | .idle => s.gstreamerRunner.isSome
  | .finalizing runner _ => runner.isSome
  | .delivering _ => s.gstreamerRunner.isSome
  | .destroyed => false
  | .crashed _ => false

inductive Label
  | feed (buffer : GstreamerBuffer)
  | signalEos
  | destroy
  | finalized
  | deliver
  | sample (buffer : GstreamerBuffer)
  | complete

/-- The steps of the owner and of the pipeline. -/
inductive Step (gst : Gst Element) : State Element → Label → State Element → Prop
  | feed {s s' : State Element} {status : Status} (pushed : Bool) (buffer : GstreamerBuffer) :
      s.pc = .idle → RawImageYielder.feed pushed buffer s = .ok (status, s') →
      Step gst s (.feed buffer) s'
  | feedFatal {s : State Element} {e : Fatal} (pushed : Bool) (buffer : GstreamerBuffer) :
      s.pc = .idle → RawImageYielder.feed pushed buffer s = .error e →
      Step gst s (.feed buffer) { s with pc := .crashed e }
  | signalEos {s : State Element} : s.pc = .idle →
      Step gst s .signalEos { RawImageYielder.signalEos false s with signals := s.signals + 1 }
  | destroy {s : State Element} : s.pc = .idle → Step gst s .destroy (RawImageYielder.destroy s)
  | finalized {s : State Element} {runner : Option (GstreamerRunner Element)}
      {inDestructor : Bool} : s.pc = .finalizing runner inDestructor →
      Step gst s .finalized (afterFinalize gst runner inDestructor s)
  | deliver {s : State Element} {inDestructor : Bool} : s.pc = .delivering inDestructor →
      Step gst s .deliver (afterDeliver inDestructor s)
  | sample {s : State Element} (buffer : GstreamerBuffer) : s.running = true →
      Step gst s (.sample buffer) (onSample gst.capsFromString buffer s)
  | complete {s : State Element} : s.running = true →
      Step gst s .complete { s with completed := true }

/-- A yielder that was created, until it is destroyed. -/
def system (gst : Gst Element) (capsString : Bytes) : System (State Element) Label where
  init s := create gst capsString = .ok (.value s)
  step := Step gst

/-! ### What the callback is called with -/

/-- The status by which an end of stream is told. -/
def isEosStatus (v : StatusOr RawImage) : Bool := v.status.code == .kNotFound

/-- `k` times an end of stream, after everything else. -/
def Delivered (k : ℕ) (delivered : List (StatusOr RawImage)) : Prop :=
  ∃ images, delivered = images ++ List.replicate k (.ofStatus eosStatus) ∧
    ∀ v ∈ images, isEosStatus v = false

/-- One end of stream, and nothing after it. -/
def EosOnceAndLast (delivered : List (StatusOr RawImage)) : Prop :=
  ∃ images, delivered = images ++ [.ofStatus eosStatus] ∧ ∀ v ∈ images, isEosStatus v = false

theorem isEosStatus_eosStatus : isEosStatus (.ofStatus eosStatus) = true := rfl

/-- **An image is not an end of stream, and neither is an error of `ToRawImage`.** -/
theorem isEosStatus_toRawImage {gstCapsFromString : Bytes → Option GstCaps}
    {buffer : GstreamerBuffer} {v : StatusOr RawImage}
    (h : toRawImage gstCapsFromString buffer = .ok v) : isEosStatus v = false := by
  cases hok : v.ok with
  | true =>
    obtain ⟨im, rfl⟩ := StatusOr.ok_iff.mp hok
    rfl
  | false =>
    rcases toRawImage_error_code h hok with hcode | hcode
    · rw [isEosStatus, hcode]
      rfl
    · rw [isEosStatus, hcode]
      rfl

section Delivered

variable {k : ℕ} {l : List (StatusOr RawImage)} {v : StatusOr RawImage}

theorem delivered_nil : Delivered 0 [] := ⟨[], rfl, nofun⟩

theorem Delivered.image (h : Delivered 0 l) (hv : isEosStatus v = false) :
    Delivered 0 (l ++ [v]) := by
  obtain ⟨images, rfl, himages⟩ := h
  refine ⟨images ++ [v], by simp, fun w hw => ?_⟩
  rcases List.mem_append.mp hw with hw | hw
  · exact himages w hw
  · rw [List.mem_singleton.mp hw]
    exact hv

theorem Delivered.eos (h : Delivered k l) : Delivered (k + 1) (l ++ [.ofStatus eosStatus]) := by
  obtain ⟨images, rfl, himages⟩ := h
  exact ⟨images, by rw [List.replicate_succ', List.append_assoc], himages⟩

theorem countP_images {images : List (StatusOr RawImage)}
    (h : ∀ v ∈ images, isEosStatus v = false) : images.countP isEosStatus = 0 := by
  rw [List.countP_eq_zero]
  intro v hv
  rw [h v hv]
  exact Bool.false_ne_true

theorem Delivered.countP (h : Delivered k l) : l.countP isEosStatus = k := by
  obtain ⟨images, rfl, himages⟩ := h
  rw [List.countP_append, countP_images himages, List.countP_replicate, isEosStatus_eosStatus]
  simp

/-- It is told once exactly if it is told once, all in all. -/
theorem Delivered.once_iff (h : Delivered k l) : EosOnceAndLast l ↔ k = 1 := by
  constructor
  · rintro ⟨images, hl, himages⟩
    rw [← h.countP, hl, List.countP_append, countP_images himages]
    rfl
  · rintro rfl
    exact h

end Delivered

/-! ### The invariant -/

/-- Outside of the yielder: as many ends of stream as calls of `SignalEOS`, and a runner until
the first of them. -/
structure InvIdle (s : State Element) : Prop where
  delivered : Delivered s.signals s.delivered
  fresh : s.eosSignaled = false → s.signals = 0 ∧ ∃ r, s.gstreamerRunner = some r ∧ r.Live
  signaled : s.eosSignaled = true → 0 < s.signals ∧ s.gstreamerRunner = none

/-- In `SignalEOS`, with `runner` still to be destroyed: this call has told no end of stream yet,
and where there is a runner no other call has. -/
structure InvSignaling (s : State Element) (runner : Option (GstreamerRunner Element))
    (inDestructor : Bool) : Prop where
  signaled : s.eosSignaled = true
  released : s.gstreamerRunner = none
  delivered : Delivered (if inDestructor then 0 else s.signals - 1) s.delivered
  called : if inDestructor then s.signals = 0 else 0 < s.signals
  live : ∀ r, runner = some r → r.Live ∧ s.signals ≤ 1

def Inv (s : State Element) : Prop :=
  match s.pc with
  | .idle => InvIdle s
  | .finalizing runner inDestructor => InvSignaling s runner inDestructor
  | .delivering inDestructor => InvSignaling s none inDestructor
  | .destroyed => s.eosSignaled = true ∧ Delivered (max 1 s.signals) s.delivered
  | .crashed _ => True

section Pc

variable {s : State Element}

theorem inv_idle (hpc : s.pc = .idle) : Inv s ↔ InvIdle s := by
  simp only [Inv, hpc]

theorem inv_finalizing {runner : Option (GstreamerRunner Element)} {inDestructor : Bool}
    (hpc : s.pc = .finalizing runner inDestructor) :
    Inv s ↔ InvSignaling s runner inDestructor := by
  simp only [Inv, hpc]

theorem inv_delivering {inDestructor : Bool} (hpc : s.pc = .delivering inDestructor) :
    Inv s ↔ InvSignaling s none inDestructor := by
  simp only [Inv, hpc]

theorem inv_destroyed (hpc : s.pc = .destroyed) :
    Inv s ↔ s.eosSignaled = true ∧ Delivered (max 1 s.signals) s.delivered := by
  simp only [Inv, hpc]

end Pc

theorem inv_create {gst : Gst Element} {capsString : Bytes} {s : State Element}
    (h : create gst capsString = .ok (.value s)) : Inv s := by
  rw [create] at h
  cases hcreate : GstreamerRunner.create gst (runnerOptions capsString) with
  | error e =>
    rw [hcreate] at h
    cases h
  | ok v =>
    rw [hcreate] at h
    cases v with
    | error status hs => exact absurd (Except.ok.inj h) (StatusOr.ofStatus_ne_value _ s)
    | value runner =>
      cases h
      exact ⟨delivered_nil, fun _ => ⟨rfl, runner, rfl, GstreamerRunner.live_of_create hcreate⟩,
        nofun⟩

/-- **Nothing is fed once `SignalEOS` has been called**, and the call fails. -/
theorem feed_of_signaled {s : State Element} (h : s.eosSignaled = true) (pushed : Bool)
    (buffer : GstreamerBuffer) : feed pushed buffer s =
      .ok (failedPreconditionError "Cannot feed after EOS is signaled", s) := by
  rw [feed, if_pos h]

/-- Feeding touches nothing but what was fed. -/
theorem feed_frame {s s' : State Element} {pushed : Bool} {buffer : GstreamerBuffer}
    {status : Status} (h : feed pushed buffer s = .ok (status, s')) :
    ∃ fed, s' = { s with fed := s.fed ++ fed } := by
  rw [feed] at h
  split at h
  · cases h
    exact ⟨[], by rw [List.append_nil]⟩
  · split at h
    · cases h
    · split at h
      · cases h
      · cases h
        exact ⟨_, rfl⟩

theorem inv_signalEos {s : State Element} (h : InvIdle s) :
    Inv { signalEos false s with signals := s.signals + 1 } := by
  refine ⟨rfl, rfl, h.delivered, Nat.succ_pos _, fun r hr => ?_⟩
  cases hs : s.eosSignaled with
  | false =>
    obtain ⟨hzero, r', hr', hlive⟩ := h.fresh hs
    cases hr'.symm.trans hr
    exact ⟨hlive, by rw [hzero]⟩
  | true =>
    rw [(h.signaled hs).2] at hr
    cases hr

theorem inv_destroy {s : State Element} (h : InvIdle s) : Inv (destroy s) := by
  rw [destroy]
  cases hs : s.eosSignaled with
  | false =>
    rw [if_pos rfl]
    obtain ⟨hzero, r, hr, hlive⟩ := h.fresh hs
    have hdelivered := h.delivered
    rw [hzero] at hdelivered
    refine ⟨rfl, rfl, hdelivered, hzero, fun r' hr' => ?_⟩
    cases hr.symm.trans hr'
    exact ⟨hlive, hzero.trans_le (Nat.zero_le 1)⟩
  | true =>
    rw [if_neg Bool.noConfusion]
    have hpos := (h.signaled hs).1
    refine ⟨rfl, ?_⟩
    rw [show max 1 s.signals = s.signals from Nat.max_eq_right hpos]
    exact h.delivered

theorem InvSignaling.finalized {s : State Element} {runner : Option (GstreamerRunner Element)}
    {inDestructor : Bool} (h : InvSignaling s runner inDestructor) :
    InvSignaling { s with pc := .delivering inDestructor } none inDestructor where
  signaled := h.signaled
  released := h.released
  delivered := h.delivered
  called := h.called
  live _ hr := by cases hr

/-- The destructor of the runner follows set pointers only. -/
theorem afterFinalize_eq {runner : Option (GstreamerRunner Element)}
    (h : ∀ r, runner = some r → r.Live) (gst : Gst Element) (inDestructor : Bool)
    (s : State Element) :
    afterFinalize gst runner inDestructor s = { s with pc := .delivering inDestructor } := by
  cases runner with
  | none => rfl
  | some r => rw [afterFinalize, (h r rfl).destroy_eq gst]

theorem inv_afterFinalize {gst : Gst Element} {s : State Element}
    {runner : Option (GstreamerRunner Element)} {inDestructor : Bool}
    (h : InvSignaling s runner inDestructor) : Inv (afterFinalize gst runner inDestructor s) := by
  rw [afterFinalize_eq fun r hr => (h.live r hr).1]
  exact h.finalized

theorem inv_afterDeliver {s : State Element} {inDestructor : Bool}
    (h : InvSignaling s none inDestructor) : Inv (afterDeliver inDestructor s) := by
  cases inDestructor with
  | true =>
    have hzero : s.signals = 0 := h.called
    have hdelivered := h.delivered.eos
    refine ⟨h.signaled, ?_⟩
    show Delivered (max 1 s.signals) _
    rw [hzero]
    exact hdelivered
  | false =>
    have hpos : 0 < s.signals := h.called
    have hdelivered := h.delivered.eos
    rw [if_neg Bool.false_ne_true, Nat.sub_add_cancel hpos] at hdelivered
    refine ⟨hdelivered, fun hs => ?_, fun _ => ⟨hpos, h.released⟩⟩
    exact absurd (h.signaled.symm.trans hs) Bool.true_eq_false.mp

/-- While there is a runner no end of stream has been told, outside of the yielder, -/
theorem InvIdle.image {s : State Element} (h : InvIdle s)
    (hrunning : s.gstreamerRunner.isSome = true) {v : StatusOr RawImage}
    (hv : isEosStatus v = false) : InvIdle { s with delivered := s.delivered ++ [v] } := by
  have hzero : s.signals = 0 := by
    cases hs : s.eosSignaled with
    | false => exact (h.fresh hs).1
    | true =>
      rw [(h.signaled hs).2] at hrunning
      cases hrunning
  refine ⟨?_, h.fresh, h.signaled⟩
  have hdelivered := h.delivered
  show Delivered s.signals _
  rw [hzero] at hdelivered ⊢
  exact hdelivered.image hv

/-- nor in a `SignalEOS` that waits for it. -/
theorem InvSignaling.image {s : State Element} {runner : Option (GstreamerRunner Element)}
    {inDestructor : Bool} (h : InvSignaling s runner inDestructor)
    (hrunning : runner.isSome = true) {v : StatusOr RawImage} (hv : isEosStatus v = false) :
    InvSignaling { s with delivered := s.delivered ++ [v] } runner inDestructor := by
  obtain ⟨r, hr⟩ := Option.isSome_iff_exists.mp hrunning
  have hzero : (if inDestructor then 0 else s.signals - 1) = 0 := by
    have hle := (h.live r hr).2
    cases inDestructor with
    | true => rfl
    | false => exact Nat.sub_eq_zero_of_le hle
  refine ⟨h.signaled, h.released, ?_, h.called, h.live⟩
  have hdelivered := h.delivered
  show Delivered (if inDestructor then 0 else s.signals - 1) _
  rw [hzero] at hdelivered ⊢
  exact hdelivered.image hv

theorem Inv.image {s : State Element} (h : Inv s) (hrunning : s.running = true)
    {v : StatusOr RawImage} (hv : isEosStatus v = false) :
    Inv { s with delivered := s.delivered ++ [v] } := by
  obtain ⟨pc, hpc⟩ : ∃ pc, s.pc = pc := ⟨_, rfl⟩
  cases pc with
  | idle =>
    simp only [State.running, hpc] at hrunning
    refine (inv_idle ?_).mpr (((inv_idle hpc).mp h).image hrunning hv)
    exact hpc
  | finalizing runner inDestructor =>
    simp only [State.running, hpc] at hrunning
    refine (inv_finalizing ?_).mpr (((inv_finalizing hpc).mp h).image hrunning hv)
    exact hpc
  | delivering inDestructor =>
    simp only [State.running, hpc, ((inv_delivering hpc).mp h).released] at hrunning
    cases hrunning
  | destroyed =>
    simp only [State.running, hpc] at hrunning
    cases hrunning
  | crashed e =>
    simp only [State.running, hpc] at hrunning
    cases hrunning

theorem inv_onSample {gst : Gst Element} {s : State Element} (h : Inv s)
    (hrunning : s.running = true) (buffer : GstreamerBuffer) :
    Inv (onSample gst.capsFromString buffer s) := by
  rw [onSample]
  cases hv : toRawImage gst.capsFromString buffer with
  | error e => trivial
  | ok v => exact h.image hrunning (isEosStatus_toRawImage hv)

/-- What the invariant says does not depend on the buffers, or on the bus. -/
theorem Inv.frame {s : State Element} (h : Inv s) (fed : List GstreamerBuffer) (completed : Bool) :
    Inv { s with fed := fed, completed := completed } := by
  obtain ⟨pc, hpc⟩ : ∃ pc, s.pc = pc := ⟨_, rfl⟩
  cases pc with
  | idle =>
    have hidle := (inv_idle hpc).mp h
    refine (inv_idle ?_).mpr ⟨hidle.delivered, hidle.fresh, hidle.signaled⟩
    exact hpc
  | finalizing runner inDestructor =>
    have hsig := (inv_finalizing hpc).mp h
    refine (inv_finalizing ?_).mpr
      ⟨hsig.signaled, hsig.released, hsig.delivered, hsig.called, hsig.live⟩
    exact hpc
  | delivering inDestructor =>
    have hsig := (inv_delivering hpc).mp h
    refine (inv_delivering ?_).mpr
      ⟨hsig.signaled, hsig.released, hsig.delivered, hsig.called, hsig.live⟩
    exact hpc
  | destroyed =>
    refine (inv_destroyed ?_).mpr ((inv_destroyed hpc).mp h)
    exact hpc
  | crashed e =>
    rw [Inv, hpc]
    trivial

theorem inv_step {gst : Gst Element} {s s' : State Element} {l : Label} (h : Inv s)
    (hs : Step gst s l s') : Inv s' := by
  cases hs with
  | feed pushed buffer _ hfeed =>
    obtain ⟨fed, rfl⟩ := feed_frame hfeed
    exact h.frame _ s.completed
  | feedFatal pushed buffer _ _ => trivial
  | signalEos hpc => exact inv_signalEos ((inv_idle hpc).mp h)
  | destroy hpc => exact inv_destroy ((inv_idle hpc).mp h)
  | finalized hpc => exact inv_afterFinalize ((inv_finalizing hpc).mp h)
  | deliver hpc => exact inv_afterDeliver ((inv_delivering hpc).mp h)
  | sample buffer hrunning => exact inv_onSample h hrunning buffer
  | complete hrunning => exact h.frame s.fed true

theorem inv_of_reachable {gst : Gst Element} {capsString : Bytes} {s : State Element}
    (h : (system gst capsString).Reachable s) : Inv s := by
  refine h.invariant ?_ ?_
  · intro s hs
    exact inv_create hs
  · intro s l s' _ hi hs
    exact inv_step hi hs

/-! ### Every run of the owner -/

section Runs

variable {gst : Gst Element} {capsString : Bytes} {s : State Element}

/-- A call of `SignalEOS` from begin to end. -/
theorem reachable_signalEos (h : (system gst capsString).Reachable s) (hpc : s.pc = .idle) :
    (system gst capsString).Reachable
      { s with
        pc := .idle
        eosSignaled := true
        gstreamerRunner := none
        delivered := s.delivered ++ [.ofStatus eosStatus]
        signals := s.signals + 1 } := by
  have hinv := inv_signalEos ((inv_idle hpc).mp (inv_of_reachable h))
  have hfinal := (h.step (.signalEos hpc)).step (.finalized rfl)
  rw [afterFinalize_eq fun r hr => (((inv_finalizing rfl).mp hinv).live r hr).1] at hfinal
  exact hfinal.step (.deliver rfl : Step gst _ .deliver (afterDeliver false _))

theorem canReach_of_delivering (hpc : s.pc = .delivering true) :
    (system gst capsString).CanReach (fun s => s.pc = .destroyed) s :=
  .step (.deliver hpc) (.here rfl)

theorem canReach_of_finalizing {runner : Option (GstreamerRunner Element)}
    (hpc : s.pc = .finalizing runner true) (hlive : ∀ r, runner = some r → r.Live) :
    (system gst capsString).CanReach (fun s => s.pc = .destroyed) s := by
  refine .step (.finalized hpc) (canReach_of_delivering ?_)
  rw [afterFinalize_eq hlive]

theorem canReach_of_idle (h : InvIdle s) (hpc : s.pc = .idle) :
    (system gst capsString).CanReach (fun s => s.pc = .destroyed) s := by
  refine .step (.destroy hpc) ?_
  rw [destroy]
  split
  · rename_i hs
    obtain ⟨_, r, hr, hlive⟩ := h.fresh hs
    refine canReach_of_finalizing rfl fun r' hr' => ?_
    cases hr.symm.trans hr'
    exact hlive
  · exact .here rfl

/-- **The destructor can always be run to its end**, unless a sample has brought the program
down. -/
theorem canReach_destroyed (h : Inv s) (hrunning : ∀ e, s.pc ≠ .crashed e) :
    (system gst capsString).CanReach (fun s => s.pc = .destroyed) s := by
  obtain ⟨pc, hpc⟩ : ∃ pc, s.pc = pc := ⟨_, rfl⟩
  have hdelivering : ∀ s : State Element, Inv s → ∀ inDestructor,
      s.pc = .delivering inDestructor →
      (system gst capsString).CanReach (fun s => s.pc = .destroyed) s := by
    intro s h inDestructor hpc
    cases inDestructor with
    | true => exact canReach_of_delivering hpc
    | false =>
      have hinv : Inv (afterDeliver false s) := inv_afterDeliver ((inv_delivering hpc).mp h)
      exact .step (.deliver hpc) (canReach_of_idle ((inv_idle rfl).mp hinv) rfl)
  cases pc with
  | idle => exact canReach_of_idle ((inv_idle hpc).mp h) hpc
  | finalizing runner inDestructor =>
    have hsig := (inv_finalizing hpc).mp h
    refine .step (.finalized hpc) (hdelivering _ (inv_afterFinalize hsig) inDestructor ?_)
    rw [afterFinalize_eq fun r hr => (hsig.live r hr).1]
  | delivering inDestructor => exact hdelivering s h inDestructor hpc
  | destroyed => exact .here hpc
  | crashed e => exact absurd hpc (hrunning e)

/-- **The callback gets one end of stream, and nothing after it, exactly if `SignalEOS` is called
at most once** before the yielder is destroyed.  In any case nothing is fed once it has been
called, and the yielder can be destroyed. -/
theorem yieldsEosOnce_iff (h : (system gst capsString).Reachable s) :
    (s.pc = .destroyed → (EosOnceAndLast s.delivered ↔ s.signals ≤ 1)) ∧
    (s.pc = .idle → 0 < s.signals → ∀ pushed buffer, ∃ status,
      feed pushed buffer s = .ok (status, s) ∧ status.ok = false) ∧
    ((∀ e, s.pc ≠ .crashed e) →
      (system gst capsString).CanReach (fun s => s.pc = .destroyed) s) := by
  have hinv := inv_of_reachable h
  refine ⟨fun hpc => ?_, fun hpc hpos pushed buffer => ?_, canReach_destroyed hinv⟩
  · rw [((inv_destroyed hpc).mp hinv).2.once_iff]
    omega
  · cases hs : s.eosSignaled with
    | true => exact ⟨_, feed_of_signaled hs pushed buffer, rfl⟩
    | false =>
      rw [(((inv_idle hpc).mp hinv).fresh hs).1] at hpos
      exact absurd hpos (Nat.lt_irrefl 0)

end Runs

/-! ### Calling it twice -/

/-- A GStreamer that parses every pipeline and all caps. -/
def gstWithCaps : Gst Unit where
  initCheck := none
  parseLaunch _ := some ()
  binGetByName _ _ := some ()
  capsFromString _ := some ⟨"image/jpeg", none⟩
  completed := false

def jpegCaps : Bytes := Wire.ofString "image/jpeg"

theorem created_reachable : ∃ r, (system gstWithCaps jpegCaps).Reachable
    { construct with gstreamerRunner := some r } :=
  ⟨_, .init rfl⟩

/-- One whose samples are RGB images of one pixel. -/
def gstWithImages : Gst Unit := { gstWithCaps with capsFromString := gstRgbCaps 1 1 }

/-- A yielder that is fed, has a sample, and is told the end of stream before it is destroyed. -/
theorem yieldsEosOnce_oneImage : ∃ image, ∃ s, (system gstWithImages jpegCaps).Reachable s ∧
    s.pc = .destroyed ∧ s.signals = 1 ∧ s.fed = [⟨jpegCaps, [7]⟩] ∧
      s.delivered = [.value image, .ofStatus eosStatus] ∧ EosOnceAndLast s.delivered := by
  obtain ⟨image, himage⟩ : ∃ image,
      toRawImage gstWithImages.capsFromString ⟨[], [1, 2, 3, 0]⟩ = .ok (.value image) := ⟨_, rfl⟩
  have hcreated := System.Reachable.init (M := system gstWithImages jpegCaps) rfl
  have hfed := hcreated.step (.feed true ⟨jpegCaps, [7]⟩ rfl rfl)
  have hsample := hfed.step (.sample ⟨[], [1, 2, 3, 0]⟩ rfl)
  rw [onSample, himage] at hsample
  have hsignaled := reachable_signalEos hsample rfl
  have hend := hsignaled.step (.destroy rfl)
  exact ⟨image, _, hend, rfl, rfl, rfl, rfl, ((yieldsEosOnce_iff hend).1 rfl).mpr le_rfl⟩

/-- **Two calls of `SignalEOS` tell the end of stream twice.** -/
theorem not_eosOnceAndLast_twice :
    ¬ ∀ s, (system gstWithCaps jpegCaps).Reachable s → s.pc = .destroyed →
      EosOnceAndLast s.delivered := by
  intro hall
  obtain ⟨r, h⟩ := created_reachable
  have htwice := reachable_signalEos (reachable_signalEos h rfl) rfl
  obtain ⟨images, hl, himages⟩ := hall _ (htwice.step (.destroy rfl)) rfl
  have hcount := congrArg (List.countP isEosStatus) hl
  rw [List.countP_append, countP_images himages] at hcount
  cases hcount

end RawImageYielder

end AIStreams
