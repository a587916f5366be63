import AIStreams.Transition.System
import AIStreams.Util.Status
import Mathlib.Order.Basic

/-!
# `GstLaunchPipeline`

`aistreams/gstreamer/gstreamer_utils.{h,cc}`: the thread that launches a pipeline and waits for its
end, the `stopper` that it detaches, and the pipeline, which posts messages on its bus.  The calls
on the pipeline are the steps; the stopper wakes up at any time.

* `endedBy_of_reachable`: what a run was ended by.
* `reportsEnd_iff`: for which outcomes and messages every run reports its end and leaves a released
  pipeline alone.
* `not_reportsEnd_error`, `not_reportsEnd_early`: an error message is reported as a success, and an
  end before the duration has expired leaves the stopper with a released pipeline.
-/

namespace AIStreams.GstLaunchPipeline

open Transition

/-! ### The program -/

structure GError where
  domain : String
  code : Int32
  message : String

/-- `print_gerror`. -/
def printGerror (gerr : GError) : String :=
  gerr.domain ++ " (" ++ toString gerr.code ++ "): " ++ gerr.message

/-- The messages that the wait is for, and all others. -/
inductive GstMessage
  | error
  | eos
  | other
  deriving DecidableEq

/-- `GST_MESSAGE_ERROR | GST_MESSAGE_EOS`. -/
def GstMessage.passes : GstMessage → Bool
  | .error => true
  | .eos => true
  | .other => false

/-- The status of `GstInit`, the error of `gst_parse_launch`, whether the pipeline can be set to
`PLAYING`, whether it has a bus, and the messages that it posts there by itself. -/
structure Env where
  gstInit : Status
  parseError : Option GError
  startsPlaying : Bool
  hasBus : Bool
  posts : ℕ → GstMessage

/-- The call of the main thread that comes next. -/
inductive Pc
  | gstInit
  | parseLaunch
  | setStatePlaying
  | launchStopper
  | getBus
  | timedPop
  | setStateNull
  | unref
  | returned (status : Status)
  deriving DecidableEq

inductive Stopper
  | none
  | sleeping
  | done
  deriving DecidableEq

/-- `eosSent`: an EOS event is on its way through the pipeline; `posted`: how many messages it has
posted by itself. -/
structure State where
  pc : Pc
  stopper : Stopper
  playing : Bool
  released : Bool
  eosSent : Bool
  posted : ℕ
  bus : List GstMessage
  msg : Option GstMessage
  deriving DecidableEq

def initial : State where
  pc := .gstInit
  stopper := .none
  playing := false
  released := false
  eosSent := false
  posted := 0
  bus := []
  msg := none

section Program

variable (env : Env) (playDurationInSeconds : Int32)

/-- The next call of the main thread, unless it waits for a message. -/
def mainStep (s : State) : Option State :=
  match s.pc with
  | .gstInit =>
    if env.gstInit.ok = false then
      some { s with pc := .returned (internalError "Could not initialize Gstreamer") }
    else some { s with pc := .parseLaunch }
  | .parseLaunch =>
    match env.parseError with
    | some gerr => some { s with pc := .returned (internalError (printGerror gerr)) }
    | none => some { s with pc := .setStatePlaying }
  | .setStatePlaying =>
    if env.startsPlaying = false then
      some { s with pc := .returned (internalError "Failed to start playing the pipeline") }
    else some { s with pc := .launchStopper, playing := true }
  | .launchStopper =>
    if 0 ≤ playDurationInSeconds then some { s with pc := .getBus, stopper := .sleeping }
    else some { s with pc := .getBus }
  | .getBus =>
    if env.hasBus = false then
      some { s with pc := .returned (internalError "Failed to get the message bus") }
    else some { s with pc := .timedPop }
  | .timedPop =>
    match s.bus with
    | [] => none
    | m :: rest =>
      if m.passes then some { s with pc := .setStateNull, bus := rest, msg := some m }
      else some { s with bus := rest }
  | .setStateNull => some { s with pc := .unref, playing := false }
  | .unref => some { s with pc := .returned okStatus, released := true }
  | .returned _ => none

inductive Label
  | main
  | stopper
  | post
  | postEos
  deriving DecidableEq

/-- The steps of the main thread, of the stopper, and of the pipeline, which posts a message of its
own, or the EOS that it was sent. -/
inductive Step : State → Label → State → Prop
  | main {s s' : State} : mainStep env playDurationInSeconds s = some s' → Step s .main s'
  | stopper {s : State} : s.stopper = .sleeping →
      Step s .stopper { s with stopper := .done, eosSent := s.playing }
  | post {s : State} : s.playing = true →
      Step s .post { s with bus := s.bus ++ [env.posts s.posted], posted := s.posted + 1 }
  | postEos {s : State} : s.playing = true → s.eosSent = true →
      Step s .postEos { s with bus := s.bus ++ [.eos], eosSent := false }

def system : System State Label where
  init s := s = initial
  step := Step env playDurationInSeconds

end Program

/-- A step that is a call on the pipeline. -/
def UsesPipeline (s : State) : Label → Prop
  | .main => s.pc = .setStatePlaying ∨ s.pc = .getBus ∨ s.pc = .setStateNull ∨ s.pc = .unref
  | .stopper => True
  | _ => False

/-- It returns OK only if the run was ended by an EOS, and an error if it was ended by an error. -/
def Reports (s : State) : Prop :=
  ∀ status, s.pc = .returned status →
    (status.ok = true → s.msg = some .eos) ∧ (s.msg = some .error → status.ok = false)

/-- Every run reports its end, and uses the pipeline only while it is not released. -/
structure ReportsEnd (env : Env) (playDurationInSeconds : Int32) : Prop where
  reports : ∀ s, (system env playDurationInSeconds).Reachable s → Reports s
  alive : ∀ s l s', (system env playDurationInSeconds).Reachable s →
    Step env playDurationInSeconds s l s' → UsesPipeline s l → s.released = false

/-- The pipeline is launched, and has a bus. -/
structure Launches (env : Env) : Prop where
  gstInit : env.gstInit.ok = true
  parseError : env.parseError = none
  startsPlaying : env.startsPlaying = true
  hasBus : env.hasBus = true

/-- The pipeline by itself posts `m` before any other error or EOS. -/
def FirstPost (env : Env) (m : GstMessage) : Prop :=
  m.passes = true ∧ ∃ n, env.posts n = m ∧ ∀ k < n, (env.posts k).passes = false

/-! ### What holds of every run -/

/-- The stopper may have been launched. -/
def Pc.launched : Pc → Bool
  | .gstInit => false
  | .parseLaunch => false
  | .setStatePlaying => false
  | .launchStopper => false
  | _ => true

/-- The wait for a message is over. -/
def Pc.popped : Pc → Bool
  | .setStateNull => true
  | .unref => true
  | .returned status => status.ok
  | _ => false

/-- What has succeeded on the way to a call. -/
def Passed (env : Env) : Pc → Prop
  | .gstInit => True
  | .parseLaunch => env.gstInit.ok = true
  | .setStatePlaying => env.gstInit.ok = true ∧ env.parseError = none
  | .launchStopper => env.gstInit.ok = true ∧ env.parseError = none ∧ env.startsPlaying = true
  | .getBus => env.gstInit.ok = true ∧ env.parseError = none ∧ env.startsPlaying = true
  | .timedPop => Launches env
  | .setStateNull => Launches env
  | .unref => Launches env
  | .returned status => status.ok = true → Launches env

/-- The first message that the wait takes: the one that it has taken, or the first on the bus. -/
def State.first (s : State) : Option GstMessage := s.msg.or (s.bus.find? GstMessage.passes)

structure Inv (env : Env) (playDurationInSeconds : Int32) (s : State) : Prop where
  passed : Passed env s.pc
  popped : s.pc.popped = s.msg.isSome
  released : s.released = true → ∃ status, s.pc = .returned status ∧ status.ok = true
  unlaunched : s.pc.launched = false → s.stopper = .none
  stopper : s.stopper ≠ .none → 0 ≤ playDurationInSeconds
  eosSent : s.eosSent = true → s.stopper = .done
  awaited : s.first = none → ∀ k < s.posted, (env.posts k).passes = false
  first : ∀ m, s.first = some m → FirstPost env m ∨ (m = .eos ∧ s.stopper = .done)

section Run

variable {env : Env} {playDurationInSeconds : Int32}

theorem inv_initial : Inv env playDurationInSeconds initial where
  passed := trivial
  popped := rfl
  released h := by cases h
  unlaunched _ := rfl
  stopper h := absurd rfl h
  eosSent h := by cases h
  awaited _ k hk := absurd hk (Nat.not_lt_zero k)
  first m h := by cases h

/-- The main thread goes on to another call. -/
theorem Inv.goTo {s : State} (hs : Inv env playDurationInSeconds s) {pc : Pc}
    (playing : Bool) {released : Bool} (hpassed : Passed env pc)
    (hpopped : pc.popped = s.pc.popped)
    (hreleased : released = true → ∃ status, pc = .returned status ∧ status.ok = true)
    (hlaunched : pc.launched = false → s.pc.launched = false) :
    Inv env playDurationInSeconds
      { s with pc := pc, playing := playing, released := released } where
  passed := hpassed
  popped := hpopped.trans hs.popped
  released := hreleased
  unlaunched h := hs.unlaunched (hlaunched h)
  stopper := hs.stopper
  eosSent := hs.eosSent
  awaited := hs.awaited
  first := hs.first

/-- Before it returns, the pipeline is not released. -/
theorem Inv.not_released {s : State} (hs : Inv env playDurationInSeconds s)
    (hpc : ∀ status, s.pc ≠ .returned status) {P : Prop} (h : s.released = true) : P := by
  obtain ⟨status, hstatus, _⟩ := hs.released h
  exact absurd hstatus (hpc status)

/-- A call of the main thread fails. -/
theorem Inv.fail {s : State} (hs : Inv env playDurationInSeconds s)
    (hpc : ∀ status, s.pc ≠ .returned status) (hpopped : s.pc.popped = false) {status : Status}
    (hstatus : status.ok = false) :
    Inv env playDurationInSeconds { s with pc := .returned status } := by
  refine hs.goTo s.playing (fun h => ?_) (hstatus.trans hpopped.symm) (hs.not_released hpc)
    (fun h => by cases h)
  rw [hstatus] at h
  cases h

theorem Inv.msg_eq_none {s : State} (hs : Inv env playDurationInSeconds s)
    (hpc : s.pc.popped = false) : s.msg = none := by
  have hpopped := hs.popped
  rw [hpc] at hpopped
  exact Option.not_isSome_iff_eq_none.mp (Bool.eq_false_iff.mp hpopped.symm)

/-- The stopper is launched. -/
theorem Inv.launch {s : State} (hs : Inv env playDurationInSeconds s)
    (hpc : s.pc = .launchStopper) (hduration : 0 ≤ playDurationInSeconds) :
    Inv env playDurationInSeconds { s with pc := .getBus, stopper := .sleeping } := by
  have hnone := hs.unlaunched (by rw [hpc]; rfl)
  have hnot : s.stopper ≠ .done := by
    rw [hnone]
    intro h
    cases h
  have hpassed := hs.passed
  have hpopped := hs.popped
  rw [hpc] at hpassed hpopped
  constructor
  · exact hpassed
  · exact hpopped
  · exact hs.not_released (by rw [hpc]; exact fun _ h => nomatch h)
  · intro h
    cases h
  · exact fun _ => hduration
  · exact fun h => absurd (hs.eosSent h) hnot
  · exact hs.awaited
  · intro m hm
    rcases hs.first m hm with hfirst | ⟨_, hdone⟩
    · exact Or.inl hfirst
    · exact absurd hdone hnot

/-- The message waited for is taken from the bus. -/
theorem Inv.pop {s : State} (hs : Inv env playDurationInSeconds s) (hpc : s.pc = .timedPop)
    {m : GstMessage} {rest : List GstMessage} (hbus : s.bus = m :: rest)
    (hm : m.passes = true) :
    Inv env playDurationInSeconds { s with pc := .setStateNull, bus := rest, msg := some m } := by
  have hfirst : s.first = some m := by
    rw [State.first, hs.msg_eq_none (by rw [hpc]; rfl), hbus, List.find?_cons_of_pos hm]
    rfl
  have hpassed := hs.passed
  rw [hpc] at hpassed
  constructor
  · exact hpassed
  · rfl
  · exact hs.not_released (by rw [hpc]; exact fun _ h => nomatch h)
  · intro h
    cases h
  · exact hs.stopper
  · exact hs.eosSent
  · intro h
    cases h
  · intro m' hm'
    obtain rfl := Option.some.inj hm'
    exact hs.first m hfirst

/-- Another message is dropped. -/
theorem Inv.drop {s : State} (hs : Inv env playDurationInSeconds s) {m : GstMessage}
    {rest : List GstMessage} (hbus : s.bus = m :: rest) (hm : m.passes = false) :
    Inv env playDurationInSeconds { s with bus := rest } := by
  have hfirst : State.first { s with bus := rest } = s.first := by
    have hnot : ¬ m.passes = true := by
      rw [hm]
      exact Bool.false_ne_true
    rw [State.first, State.first, hbus, List.find?_cons_of_neg hnot]
  constructor
  · exact hs.passed
  · exact hs.popped
  · exact hs.released
  · exact hs.unlaunched
  · exact hs.stopper
  · exact hs.eosSent
  · rw [hfirst]
    exact hs.awaited
  · rw [hfirst]
    exact hs.first

/-- **A step of the main thread.** -/
theorem Inv.main {s s' : State} (hs : Inv env playDurationInSeconds s)
    (h : mainStep env playDurationInSeconds s = some s') : Inv env playDurationInSeconds s' := by
  have hpassed := hs.passed
  have hreturned : ∀ status, s.pc ≠ .returned status := by
    intro status hpc
    simp only [mainStep, hpc] at h
    cases h
  cases hpc : s.pc with
  | returned status => exact absurd hpc (hreturned status)
  | gstInit =>
    rw [hpc] at hpassed
    simp only [mainStep, hpc] at h
    split at h
    · cases h
      exact hs.fail hreturned (by rw [hpc]; rfl) rfl
    · rename_i hinit
      cases h
      exact hs.goTo s.playing ((Bool.not_eq_false _).mp hinit) (by rw [hpc]; rfl)
        (hs.not_released hreturned) (by rw [hpc]; exact id)
  | parseLaunch =>
    rw [hpc] at hpassed
    simp only [mainStep, hpc] at h
    split at h
    · cases h
      exact hs.fail hreturned (by rw [hpc]; rfl) rfl
    · rename_i hparse
      cases h
      exact hs.goTo s.playing ⟨hpassed, hparse⟩ (by rw [hpc]; rfl) (hs.not_released hreturned)
        (by rw [hpc]; exact id)
  | setStatePlaying =>
    rw [hpc] at hpassed
    simp only [mainStep, hpc] at h
    split at h
    · cases h
      exact hs.fail hreturned (by rw [hpc]; rfl) rfl
    · rename_i hplaying
      cases h
      exact hs.goTo true ⟨hpassed.1, hpassed.2, (Bool.not_eq_false _).mp hplaying⟩
        (by rw [hpc]; rfl) (hs.not_released hreturned) (by rw [hpc]; exact id)
  | launchStopper =>
    rw [hpc] at hpassed
    simp only [mainStep, hpc] at h
    split at h
    · rename_i hduration
      cases h
      exact hs.launch hpc hduration
    · cases h
      exact hs.goTo s.playing hpassed (by rw [hpc]; rfl) (hs.not_released hreturned)
        (fun h => by cases h)
  | getBus =>
    rw [hpc] at hpassed
    simp only [mainStep, hpc] at h
    split at h
    · cases h
      exact hs.fail hreturned (by rw [hpc]; rfl) rfl
    · rename_i hbus
      cases h
      obtain ⟨hinit, hparse, hplaying⟩ := hpassed
      exact hs.goTo s.playing ⟨hinit, hparse, hplaying, (Bool.not_eq_false _).mp hbus⟩
        (by rw [hpc]; rfl) (hs.not_released hreturned) (fun h => by cases h)
  | timedPop =>
    simp only [mainStep, hpc] at h
    split at h
    · cases h
    · rename_i m rest hbus
      split at h
      · rename_i hm
        cases h
        exact hs.pop hpc hbus hm
      · rename_i hm
        cases h
        have hdropped := hs.drop hbus ((Bool.not_eq_true _).mp hm)
        rw [hpc] at hdropped
        exact hdropped
  | setStateNull =>
    rw [hpc] at hpassed
    simp only [mainStep, hpc] at h
    cases h
    exact hs.goTo false hpassed (by rw [hpc]; rfl) (hs.not_released hreturned)
      (fun h => by cases h)
  | unref =>
    rw [hpc] at hpassed
    simp only [mainStep, hpc] at h
    cases h
    exact hs.goTo s.playing (fun _ => hpassed) (by rw [hpc]; rfl) (fun _ => ⟨_, rfl, rfl⟩)
      (fun h => by cases h)

/-- **The stopper sends its EOS.** -/
theorem Inv.send {s : State} (hs : Inv env playDurationInSeconds s)
    (hsleeping : s.stopper = .sleeping) :
    Inv env playDurationInSeconds { s with stopper := .done, eosSent := s.playing } := by
  have hlaunched : s.stopper ≠ .none := by
    rw [hsleeping]
    intro h
    cases h
  constructor
  · exact hs.passed
  · exact hs.popped
  · exact hs.released
  · exact fun h => absurd (hs.unlaunched h) hlaunched
  · exact fun _ => hs.stopper hlaunched
  · exact fun _ => rfl
  · exact hs.awaited
  · intro m hm
    rcases hs.first m hm with hfirst | ⟨heos, _⟩
    · exact Or.inl hfirst
    · exact Or.inr ⟨heos, rfl⟩

/-- A message that is posted comes after the first one. -/
theorem first_post (s : State) (m : GstMessage) (posted : ℕ) (eosSent : Bool) :
    State.first { s with bus := s.bus ++ [m], posted := posted, eosSent := eosSent } =
      s.first.or (if m.passes then some m else none) := by
  unfold State.first
  rw [List.find?_append, ← Option.or_assoc, List.find?_singleton]

/-- The first message after a post: the first one before, or else the one that was posted. -/
theorem first_of_post {s : State} {m m' : GstMessage} {posted : ℕ} {eosSent : Bool}
    (h : State.first { s with bus := s.bus ++ [m], posted := posted, eosSent := eosSent } =
      some m') : s.first = some m' ∨ (s.first = none ∧ m.passes = true ∧ m' = m) := by
  rw [first_post] at h
  cases hfirst : s.first with
  | some first =>
    rw [hfirst, Option.some_or] at h
    exact Or.inl h
  | none =>
    rw [hfirst, Option.none_or] at h
    split at h
    · rename_i hpasses
      exact Or.inr ⟨rfl, hpasses, (Option.some.inj h).symm⟩
    · cases h

/-- **The pipeline posts a message of its own.** -/
theorem Inv.post {s : State} (hs : Inv env playDurationInSeconds s) :
    Inv env playDurationInSeconds
      { s with bus := s.bus ++ [env.posts s.posted], posted := s.posted + 1 } := by
  constructor
  · exact hs.passed
  · exact hs.popped
  · exact hs.released
  · exact hs.unlaunched
  · exact hs.stopper
  · exact hs.eosSent
  · rw [first_post s (env.posts s.posted) (s.posted + 1) s.eosSent]
    intro h k hk
    obtain ⟨hnone, hpasses⟩ := Option.or_eq_none_iff.mp h
    rcases Nat.lt_succ_iff_lt_or_eq.mp hk with hk | rfl
    · exact hs.awaited hnone k hk
    · by_contra hpass
      rw [if_pos ((Bool.not_eq_false _).mp hpass)] at hpasses
      cases hpasses
  · intro m hm
    rcases first_of_post hm with hbefore | ⟨hnone, hpasses, rfl⟩
    · exact hs.first m hbefore
    · exact Or.inl ⟨hpasses, s.posted, rfl, hs.awaited hnone⟩

/-- **The pipeline posts the EOS that it was sent.** -/
theorem Inv.postEos {s : State} (hs : Inv env playDurationInSeconds s)
    (heos : s.eosSent = true) :
    Inv env playDurationInSeconds { s with bus := s.bus ++ [.eos], eosSent := false } := by
  constructor
  · exact hs.passed
  · exact hs.popped
  · exact hs.released
  · exact hs.unlaunched
  · exact hs.stopper
  · intro h
    cases h
  · rw [first_post s .eos s.posted false]
    intro h
    cases (Option.or_eq_none_iff.mp h).2
  · intro m hm
    rcases first_of_post hm with hbefore | ⟨_, _, rfl⟩
    · exact hs.first m hbefore
    · exact Or.inr ⟨rfl, hs.eosSent heos⟩

theorem inv_of_reachable {s : State} (h : (system env playDurationInSeconds).Reachable s) :
    Inv env playDurationInSeconds s := by
  refine h.invariant ?_ ?_
  · rintro s rfl
    exact inv_initial
  · intro s l s' _ hs hstep
    cases hstep with
    | main hmain => exact hs.main hmain
    | stopper hsleeping => exact hs.send hsleeping
    | post _ => exact hs.post
    | postEos _ heos => exact hs.postEos heos

/-- **What a run was ended by** that returns OK: the first error or EOS of the pipeline, or the EOS
of a stopper that has woken up. -/
theorem endedBy_of_reachable {s : State} (h : (system env playDurationInSeconds).Reachable s)
    {status : Status} (hpc : s.pc = .returned status) (hok : status.ok = true) :
    Launches env ∧ ∃ m, s.msg = some m ∧ (FirstPost env m ∨ (m = .eos ∧ s.stopper = .done)) := by
  have hs := inv_of_reachable h
  have hpassed := hs.passed
  have hpopped := hs.popped
  rw [hpc] at hpassed hpopped
  obtain ⟨m, hm⟩ := Option.isSome_iff_exists.mp (hpopped.symm.trans hok)
  refine ⟨hpassed hok, m, hm, hs.first m ?_⟩
  rw [State.first, hm, Option.some_or]

/-- A run that returns an error was ended by no message. -/
theorem msg_eq_none_of_reachable {s : State}
    (h : (system env playDurationInSeconds).Reachable s) {status : Status}
    (hpc : s.pc = .returned status) (hok : status.ok = false) : s.msg = none :=
  (inv_of_reachable h).msg_eq_none (by rw [hpc]; exact hok)

/-! ### A run to the end -/

/-- The main thread waits, the pipeline has posted `k` messages and nothing is on the bus. -/
def waiting (playDurationInSeconds : Int32) (k : ℕ) : State :=
  { initial with
    pc := .timedPop
    stopper := if 0 ≤ playDurationInSeconds then .sleeping else .none
    playing := true
    posted := k }

/-- The end of a run that was ended by `m`, with the stopper as it was launched. -/
def ended (playDurationInSeconds : Int32) (k : ℕ) (m : GstMessage) : State :=
  { waiting playDurationInSeconds k with
    pc := .returned okStatus
    playing := false
    released := true
    msg := some m }

/-- It posts one more. -/
theorem reachable_posted {k : ℕ}
    (h : (system env playDurationInSeconds).Reachable (waiting playDurationInSeconds k)) :
    (system env playDurationInSeconds).Reachable
      { waiting playDurationInSeconds (k + 1) with bus := [env.posts k] } := by
  have hpost : Step env playDurationInSeconds (waiting playDurationInSeconds k) .post
      { waiting playDurationInSeconds (k + 1) with bus := [env.posts k] } :=
    Step.post rfl
  exact h.step hpost

theorem reachable_waiting (henv : Launches env) {k : ℕ}
    (hposts : ∀ j < k, (env.posts j).passes = false) :
    (system env playDurationInSeconds).Reachable (waiting playDurationInSeconds k) := by
  induction k with
  | zero =>
    have hstart : (system env playDurationInSeconds).Reachable initial := .init rfl
    have hparse : (system env playDurationInSeconds).Reachable
        { initial with pc := .parseLaunch } :=
      hstart.step (l := .main) (.main (by simp [mainStep, initial, henv.gstInit]))
    have hplay : (system env playDurationInSeconds).Reachable
        { initial with pc := .setStatePlaying } :=
      hparse.step (l := .main) (.main (by simp [mainStep, initial, henv.parseError]))
    have hlaunch : (system env playDurationInSeconds).Reachable
        { initial with pc := .launchStopper, playing := true } :=
      hplay.step (l := .main) (.main (by simp [mainStep, initial, henv.startsPlaying]))
    have hbus : (system env playDurationInSeconds).Reachable
        { waiting playDurationInSeconds 0 with pc := .getBus } := by
      refine hlaunch.step (l := .main) (.main ?_)
      by_cases hduration : 0 ≤ playDurationInSeconds <;>
        simp [mainStep, initial, waiting, hduration]
    exact hbus.step (l := .main) (.main (by simp [mainStep, waiting, henv.hasBus]))
  | succ k ih =>
    have hpost := reachable_posted (ih fun j hj => hposts j (Nat.lt_succ_of_lt hj))
    refine hpost.step (l := .main) (.main ?_)
    simp [mainStep, waiting, initial, hposts k (Nat.lt_succ_self k)]

/-- **The first error or EOS of the pipeline can end the run**, whatever the stopper does. -/
theorem reachable_ended (henv : Launches env) {n : ℕ} (hn : (env.posts n).passes = true)
    (hposts : ∀ k < n, (env.posts k).passes = false) :
    (system env playDurationInSeconds).Reachable
      (ended playDurationInSeconds (n + 1) (env.posts n)) := by
  have hwait : (system env playDurationInSeconds).Reachable (waiting playDurationInSeconds n) :=
    reachable_waiting henv hposts
  have hpost := reachable_posted hwait
  have hpop : (system env playDurationInSeconds).Reachable
      { waiting playDurationInSeconds (n + 1) with
        pc := .setStateNull
        msg := some (env.posts n) } :=
    hpost.step (l := .main) (.main (by simp [mainStep, waiting, initial, hn]))
  have hstop : (system env playDurationInSeconds).Reachable
      { waiting playDurationInSeconds (n + 1) with
        pc := .unref
        playing := false
        msg := some (env.posts n) } :=
    hpop.step (l := .main) (.main rfl)
  exact hstop.step (l := .main) (.main rfl)

/-! ### When a run reports its end -/

/-- If the pipeline posts no error before an EOS, what is returned is right. -/
theorem reports_of_reachable (h : Launches env → ∀ m, FirstPost env m → m = .eos) {s : State}
    (hs : (system env playDurationInSeconds).Reachable s) : Reports s := by
  intro status hpc
  cases hok : status.ok with
  | false =>
    rw [msg_eq_none_of_reachable hs hpc hok]
    exact ⟨nofun, fun _ => rfl⟩
  | true =>
    obtain ⟨henv, m, hm, hend⟩ := endedBy_of_reachable hs hpc hok
    have heos : m = .eos := by
      rcases hend with hfirst | ⟨heos, _⟩
      · exact h henv m hfirst
      · exact heos
    rw [hm, heos]
    exact ⟨fun _ => rfl, nofun⟩

/-- If the pipeline does not end before its time, it is used only while it is not released. -/
theorem not_released_of_uses
    (h : Launches env → ∀ m, FirstPost env m → playDurationInSeconds < 0) {s s' : State} {l : Label}
    (hs : (system env playDurationInSeconds).Reachable s)
    (hstep : Step env playDurationInSeconds s l s') (huses : UsesPipeline s l) :
    s.released = false := by
  refine Bool.eq_false_iff.mpr fun hreleased => ?_
  obtain ⟨status, hpc, hok⟩ := (inv_of_reachable hs).released hreleased
  cases hstep with
  | main _ =>
    simp only [UsesPipeline, hpc] at huses
    rcases huses with h | h | h | h <;> cases h
  | stopper hsleeping =>
    -- the stopper sleeps on, so that the run was ended by the pipeline
    obtain ⟨henv, m, _, hend⟩ := endedBy_of_reachable hs hpc hok
    rcases hend with hfirst | ⟨_, hdone⟩
    · have hduration := (inv_of_reachable hs).stopper (by rw [hsleeping]; exact nofun)
      exact absurd (h henv m hfirst) (Int32.not_lt.mpr hduration)
    · rw [hdone] at hsleeping
      cases hsleeping
  | post _ => exact huses
  | postEos _ _ => exact huses

/-- **When every run reports its end and leaves a released pipeline alone**: exactly if the
pipeline cannot be launched, or the first error or EOS that it posts by itself, if any, is an EOS
and there is no bound on the duration. -/
theorem reportsEnd_iff (env : Env) (playDurationInSeconds : Int32) :
    ReportsEnd env playDurationInSeconds ↔
      (Launches env → ∀ m, FirstPost env m → m = .eos ∧ playDurationInSeconds < 0) := by
  constructor
  · rintro ⟨hreports, halive⟩ henv m ⟨hm, n, rfl, hposts⟩
    have hended : (system env playDurationInSeconds).Reachable
        (ended playDurationInSeconds (n + 1) (env.posts n)) := reachable_ended henv hm hposts
    refine ⟨Option.some.inj ((hreports _ hended okStatus rfl).1 rfl), ?_⟩
    by_contra hduration
    have hsleeping : (ended playDurationInSeconds (n + 1) (env.posts n)).stopper = .sleeping :=
      if_pos (Int32.not_lt.mp hduration)
    cases halive _ .stopper _ hended (.stopper hsleeping) trivial
  · intro h
    exact ⟨fun s => reports_of_reachable fun henv m hm => (h henv m hm).1,
      fun s l s' => not_released_of_uses fun henv m hm => (h henv m hm).2⟩

/-! ### An error, and an early end -/

end Run

/-- Everything succeeds, and the pipeline posts one message of interest. -/
def posting (m : GstMessage) : Env where
  gstInit := okStatus
  parseError := none
  startsPlaying := true
  hasBus := true
  posts n := if n = 0 then m else .other

theorem launches_posting (m : GstMessage) : Launches (posting m) := ⟨rfl, rfl, rfl, rfl⟩

/-- **An error is reported as a success.** -/
theorem not_reportsEnd_error : ¬ ReportsEnd (posting .error) (-1) := by
  rintro ⟨hreports, _⟩
  have hended : (system (posting .error) (-1)).Reachable (ended (-1) 1 .error) :=
    reachable_ended (launches_posting .error) (n := 0) rfl fun k hk => absurd hk (Nat.not_lt_zero k)
  cases (hreports _ hended okStatus rfl).1 rfl

/-- **After an early end the stopper uses a released pipeline.** -/
theorem not_reportsEnd_early : ¬ ReportsEnd (posting .eos) 5 := by
  rintro ⟨_, halive⟩
  have hended : (system (posting .eos) 5).Reachable (ended 5 1 .eos) :=
    reachable_ended (launches_posting .eos) (n := 0) rfl fun k hk => absurd hk (Nat.not_lt_zero k)
  cases halive _ .stopper _ hended (.stopper rfl) trivial

end AIStreams.GstLaunchPipeline
