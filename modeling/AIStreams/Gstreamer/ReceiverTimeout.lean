import AIStreams.Base.UnaryReceive
import AIStreams.Gstreamer.StreamServerSource
import Mathlib.Order.Bounds.Basic
import Mathlib.Order.WellFounded

/-!
# The timeout of the video exporter's receiver

The options of the stream server source that `GstreamerVideoExporter::Run` of
`aistreams/gstreamer/gstreamer_video_exporter.cc` makes, and a run of that source on the clock:
each `TryPop` waits until the next packet is there or its deadline has come.

* `failsAt_iff`: a source fails at the first gap that is longer than its own timeout.
* `Runs.reachable`: without its clock, a run is one of the source and its receiver worker.
* `honoursTimeout_iff`: for which options and schedules that is the timeout asked for.
* `not_honoursTimeout_oneSecond`: a timeout of one second lets a gap of five seconds pass.
-/

namespace AIStreams

open ProducerConsumerQueue (Ended Frame Stretch)

namespace GstreamerVideoExporter

/-! ### The options -/

/-- `GstreamerVideoExporter::Options`, as far as its stream server source is concerned. -/
structure Options where
  receiverOptions : ReceiverOptions := {}
  receiverTimeout : Duration := .seconds 10

def kStreamServerSourceName : String := "StreamServerSource"

/-- `StreamServerSource::Options`, as they are declared. -/
def declaredOptions : StreamServerSource.Options where
  bufferCapacity := ({} : ReceiverOptions).bufferCapacity
  receiverTimeout := .seconds 10

/-- `stream_server_source_options` of `Run`. -/
def streamServerSourceOptions (options : Options) : StreamServerSource.Options :=
  { declaredOptions with bufferCapacity := options.receiverOptions.bufferCapacity }

/-- The `stream_server_source` of `Run`, attached to the saver. -/
def streamServerSource (options : Options) : StreamServerSource.Worker where
  name := kStreamServerSourceName
  options := streamServerSourceOptions options
  outChannel := some ⟨true, true⟩

end GstreamerVideoExporter

namespace Duration

@[simp] theorem le_self (d : Duration) : d.le d = true := by
  cases d <;> simp [le]

@[simp] theorem infinite_lt (d : Duration) : infinite.lt d = false := by
  cases d <;> rfl

end Duration

namespace Time

@[simp] theorem after_ticks (now n : ℤ) : after now (.ticks n) = .ticks (n + now) := rfl

@[simp] theorem after_le_after (now : ℤ) (d d' : Duration) :
    (after now d).le (after now d') = d.le d' := by
  cases d <;> cases d' <;> simp [after, Duration.addTicks, Duration.le]

@[simp] theorem after_lt_after (now : ℤ) (d d' : Duration) :
    (after now d).lt (after now d') = d.lt d' := by
  rw [Duration.lt, after_le_after, Duration.lt]

end Time

namespace StreamServerSource

/-! ### A `TryPop` on the clock -/

/-- `TryPop` when the clock shows `now` and the next packet, `p`, is pushed after `gap`, with the
time at which it returns.  A wait ends when the packet is there, or at the deadline. -/
def timedTryPop (queue : ProducerConsumerQueue Packet) (timeout : Duration) (now : ℤ)
    (gap : Duration) (p : Packet) : Stretch Packet × ℤ :=
  let called := queue.tryPop .default timeout now
  match called.ended with
  | .done _ => (called, now)
  | .wait frame =>
    let arrival := Time.after now gap
    match arrival.min (Time.after now timeout) with
    | .ticks woken =>
      let queue := if arrival.le (.ticks woken) then called.queue.pushBack p else called.queue
      (frame.resume woken queue, woken)
    | _ => (called, now)

/-- How a timed `TryPop` on the empty queue ends: with the packet, unless the gap is longer than the
timeout; when neither the packet nor the deadline comes, it does not. -/
inductive Waited (timeout gap : Duration) (p : Packet) : Stretch Packet × ℤ → Prop
  | popped (queue : ProducerConsumerQueue Packet) (now : ℤ) : queue.q = [] →
      timeout.lt gap = false →
      Waited timeout gap p (⟨queue, some .notFull, .done (.tryPop true p)⟩, now)
  | timedOut (queue : ProducerConsumerQueue Packet) (now : ℤ) : queue.q = [] →
      timeout.lt gap = true →
      Waited timeout gap p (⟨queue, none, .done (.tryPop false .default)⟩, now)
  | never (queue : ProducerConsumerQueue Packet) (frame : Frame Packet) (now : ℤ) :
      timeout = .infinite → Waited timeout gap p (⟨queue, none, .wait frame⟩, now)

/-- A call on the empty queue waits. -/
theorem tryPop_waits {queue : ProducerConsumerQueue Packet} (hq : queue.q = []) {timeout : Duration}
    (hpos : timeout.isPositive = true) (now : ℤ) : queue.tryPop .default timeout now =
      ⟨queue, none, .wait (.tryPop .default timeout (Time.after now timeout))⟩ := by
  simp only [ProducerConsumerQueue.tryPop, ProducerConsumerQueue.tryPopLoop, hq, hpos, if_true]

/-- A wait that ends with the packet in the queue. -/
theorem resume_pushed {queue : ProducerConsumerQueue Packet} (hq : queue.q = [])
    (timeout : Duration) (deadline : Time) (woken : ℤ) (p : Packet) :
    (Frame.tryPop .default timeout deadline).resume woken (queue.pushBack p) =
      ⟨queue.withRest [], some .notFull, .done (.tryPop true p)⟩ := by
  simp only [Frame.resume, ProducerConsumerQueue.tryPopLoop, ProducerConsumerQueue.pushBack_q, hq,
    List.nil_append]
  rfl

/-- A wait that ends at its deadline. -/
theorem resume_late {queue : ProducerConsumerQueue Packet} (hq : queue.q = []) (timeout : Duration)
    (woken : ℤ) :
    (Frame.tryPop .default timeout (.ticks woken)).resume woken queue =
      ⟨queue, none, .done (.tryPop false .default)⟩ := by
  have hleft : (Time.left (.ticks woken) woken).isPositive = false := by
    simp [Time.left, Duration.addTicks, Duration.isPositive]
  simp only [Frame.resume, ProducerConsumerQueue.tryPopLoop, hq, hleft, Bool.false_eq_true,
    if_false]

theorem timedTryPop_waited {queue : ProducerConsumerQueue Packet} (hq : queue.q = [])
    {timeout : Duration} (hpos : timeout.isPositive = true) (now : ℤ) {gap : Duration}
    (hgap : Duration.zero.le gap = true) (p : Packet) :
    Waited timeout gap p (timedTryPop queue timeout now gap p) := by
  simp only [timedTryPop, tryPop_waits hq hpos, Duration.min, Time.after_lt_after]
  cases hlt : timeout.lt gap with
  | false =>
    -- the packet comes first, if it comes
    cases gap with
    | negInfinite => cases hgap
    | infinite =>
      cases timeout with
      | negInfinite => cases hpos
      | ticks m => cases hlt
      | infinite => exact .never queue _ now rfl
    | ticks n =>
      simp only [Bool.false_eq_true, if_false, Time.after_ticks, Duration.le_self, if_true]
      rw [resume_pushed hq]
      exact .popped _ _ rfl hlt
  | true =>
    cases timeout with
    | negInfinite => cases hpos
    | infinite =>
      rw [Duration.infinite_lt] at hlt
      cases hlt
    | ticks m =>
      have hlate : (Time.after now gap).le (.ticks (m + now)) = false := by
        rw [← Time.after_ticks, Time.after_le_after]
        simpa [Duration.lt] using hlt
      simp only [if_true, Time.after_ticks, hlate, Bool.false_eq_true, if_false]
      rw [resume_late hq]
      exact .timedOut queue _ hq hlt

section Program

variable [Message RawImagePacketTypeDescriptor] [Message GstreamerBufferPacketTypeDescriptor]
  [Message ControlSignalPacketTypeDescriptor]

/-! ### A source on the clock -/

/-- The packets of a stream that goes on, and how long the source waits for each of them. -/
structure Schedule where
  packet : ℕ → Packet
  gap : ℕ → Duration
  consumed : ∀ k, Consumed (packet k)
  gap_nonneg : ∀ k, Duration.zero.le (gap k) = true

/-- The source, its queue and the clock, in front of a `TryPop`. -/
structure Timed where
  source : State
  queue : ProducerConsumerQueue Packet
  now : ℤ

/-- `Runs k s`: `s` is reached with the `k`-th `TryPop` to return. -/
inductive Runs (env : Env) (w : Worker) (schedule : Schedule) (start : Timed) : ℕ → Timed → Prop
  | start : Runs env w schedule start 0 start
  | tryPop {k : ℕ} {s : Timed} {r : ProducerConsumerQueue.Return Packet} {stretch : Stretch Packet}
      {now : ℤ} : Runs env w schedule start k s → s.source.outcome = .running →
      timedTryPop s.queue w.options.receiverTimeout s.now (schedule.gap k) (schedule.packet k) =
        (stretch, now) →
      stretch.ended = .done r →
      Runs env w schedule start (k + 1) ⟨afterTryPop env w (.done r) s.source, stretch.queue, now⟩

/-- The source fails with a receive error at the `k`-th gap. -/
def FailsAt (env : Env) (w : Worker) (schedule : Schedule) (start : Timed) (k : ℕ) : Prop :=
  ∃ s, Runs env w schedule start (k + 1) s ∧ ∃ reason, s.source.outcome =
    .returned (unknownError ("Failed to receive a packet from upstream: " ++ reason))

/-- A source that is connected, in front of its first `TryPop`. -/
def Connected (env : Env) (w : Worker) (start : Timed) : Prop :=
  ∃ r, connect env w = .ok (okStatus, some r) ∧ start.source = initial ∧
    start.queue = r.shared.queue

/-- The source in front of a `TryPop`: everything that came was fed. -/
structure Waiting (s : Timed) : Prop where
  running : s.source.outcome = .running
  feeding : ∀ y, s.source.yielder = some y → y.eosSignaled = false
  empty : s.queue.q = []

section Runs

variable {env : Env} {w : Worker} {schedule : Schedule} {start : Timed}

omit [Message RawImagePacketTypeDescriptor] [Message GstreamerBufferPacketTypeDescriptor]
  [Message ControlSignalPacketTypeDescriptor] in
theorem Connected.waiting (h : Connected env w start) : Waiting start := by
  obtain ⟨r, hconnect, hsource, hqueue⟩ := h
  obtain ⟨queue, hcreate, rfl⟩ := ReceiverWorker.init_eq (connect_eq_some hconnect)
  refine ⟨by rw [hsource]; rfl, ?_, ?_⟩
  · rw [hsource]
    exact fun y hy => nomatch hy
  · rw [hqueue]
    exact (ProducerConsumerQueue.create_eq_ok hcreate).1

/-- What a timed-out `TryPop` makes of the source. -/
theorem receive_none_outcome (s : State) : ∃ reason, (receive env w none s).outcome =
    .returned (unknownError ("Failed to receive a packet from upstream: " ++ reason)) := by
  rw [receive]
  cases s.yielder with
  | none => exact ⟨_, rfl⟩
  | some y => exact ⟨_, rfl⟩

/-- **A `TryPop` of the source that returns**: the source goes on with the packet, unless the gap
is too long, which is a receive error. -/
theorem Waiting.tryPop (henv : Undisturbed env) (hpos : w.options.receiverTimeout.isPositive = true)
    {s : Timed} (hs : Waiting s) {k : ℕ} {r : ProducerConsumerQueue.Return Packet}
    {stretch : Stretch Packet} {now : ℤ}
    (htry : timedTryPop s.queue w.options.receiverTimeout s.now (schedule.gap k)
      (schedule.packet k) = (stretch, now)) (hended : stretch.ended = .done r) :
    (w.options.receiverTimeout.lt (schedule.gap k) = false ∧
        Waiting ⟨afterTryPop env w (.done r) s.source, stretch.queue, now⟩) ∨
      (w.options.receiverTimeout.lt (schedule.gap k) = true ∧
        ∃ reason, (afterTryPop env w (.done r) s.source).outcome =
          .returned (unknownError ("Failed to receive a packet from upstream: " ++ reason))) := by
  have hwaited := timedTryPop_waited hs.empty hpos s.now (schedule.gap_nonneg k)
    (schedule.packet k)
  rw [htry] at hwaited
  cases hwaited with
  | popped queue now hempty hlt =>
    obtain rfl := Ended.done.inj hended
    obtain ⟨hrun, y, hy, hsignal⟩ :=
      receive_consumed w henv (schedule.consumed k) hs.running hs.feeding
    refine Or.inl ⟨hlt, hrun, fun y' hy' => ?_, hempty⟩
    obtain rfl := Option.some.inj (hy.symm.trans hy')
    exact hsignal
  | timedOut queue now hempty hlt =>
    obtain rfl := Ended.done.inj hended
    exact Or.inr ⟨hlt, receive_none_outcome s.source⟩
  | never queue frame now hinfinite => cases hended

/-- With a finite timeout it returns. -/
theorem Waiting.exists_tryPop (hpos : w.options.receiverTimeout.isPositive = true)
    (hfinite : w.options.receiverTimeout ≠ .infinite) {s : Timed} (hs : Waiting s) (k : ℕ) :
    ∃ stretch now r, timedTryPop s.queue w.options.receiverTimeout s.now (schedule.gap k)
      (schedule.packet k) = (stretch, now) ∧ stretch.ended = .done r := by
  have hwaited := timedTryPop_waited hs.empty hpos s.now (schedule.gap_nonneg k)
    (schedule.packet k)
  generalize timedTryPop s.queue w.options.receiverTimeout s.now (schedule.gap k)
    (schedule.packet k) = returned at hwaited ⊢
  cases hwaited with
  | popped queue now hempty hlt => exact ⟨_, _, _, rfl, rfl⟩
  | timedOut queue now hempty hlt => exact ⟨_, _, _, rfl, rfl⟩
  | never queue frame now hinfinite => exact absurd hinfinite hfinite

section Timeout

variable (henv : Undisturbed env) (hpos : w.options.receiverTimeout.isPositive = true)
  (hstart : Connected env w start)

include henv hpos hstart

/-- A source that still runs has waited for no gap that is too long. -/
theorem Runs.waiting {k : ℕ} {s : Timed} (h : Runs env w schedule start k s)
    (hrun : s.source.outcome = .running) :
    Waiting s ∧ ∀ j < k, w.options.receiverTimeout.lt (schedule.gap j) = false := by
  induction h with
  | start => exact ⟨hstart.waiting, fun j hj => absurd hj (Nat.not_lt_zero j)⟩
  | tryPop hprior hprun htry hended ih =>
    obtain ⟨hs, hbefore⟩ := ih hprun
    rcases hs.tryPop henv hpos htry hended with ⟨hlt, hs'⟩ | ⟨_, reason, hreason⟩
    · refine ⟨hs', fun j hj => ?_⟩
      rcases Nat.lt_succ_iff_lt_or_eq.mp hj with hj | rfl
      · exact hbefore j hj
      · exact hlt
    · rw [hreason] at hrun
      cases hrun

/-- As long as no gap is too long, the source goes on. -/
theorem exists_runs (hfinite : w.options.receiverTimeout ≠ .infinite) {k : ℕ}
    (hbefore : ∀ j < k, w.options.receiverTimeout.lt (schedule.gap j) = false) :
    ∃ s, Runs env w schedule start k s ∧ Waiting s := by
  induction k with
  | zero => exact ⟨start, .start, hstart.waiting⟩
  | succ k ih =>
    obtain ⟨s, hruns, hs⟩ := ih fun j hj => hbefore j (Nat.lt_succ_of_lt hj)
    obtain ⟨stretch, now, r, htry, hended⟩ := hs.exists_tryPop hpos hfinite k
    refine ⟨_, hruns.tryPop hs.running htry hended, ?_⟩
    rcases hs.tryPop henv hpos htry hended with ⟨_, hs'⟩ | ⟨hlt, _⟩
    · exact hs'
    · rw [hbefore k (Nat.lt_succ_self k)] at hlt
      cases hlt

/-- **A source fails at the first gap that is longer than its timeout**, and at no other. -/
theorem failsAt_iff (k : ℕ) : FailsAt env w schedule start k ↔
    IsLeast {k | w.options.receiverTimeout.lt (schedule.gap k) = true} k := by
  constructor
  · rintro ⟨s, hruns, reason, hreason⟩
    cases hruns with
    | tryPop hprior hrun htry hended =>
      obtain ⟨hs, hbefore⟩ := hprior.waiting henv hpos hstart hrun
      rcases hs.tryPop henv hpos htry hended with ⟨_, hs'⟩ | ⟨hlt, _⟩
      · rw [hs'.running] at hreason
        cases hreason
      · refine ⟨hlt, fun j hj => ?_⟩
        by_contra hjk
        exact Bool.false_ne_true ((hbefore j (Nat.lt_of_not_le hjk)).symm.trans hj)
  · rintro ⟨hlt, hleast⟩
    have hfinite : w.options.receiverTimeout ≠ .infinite := by
      intro hinfinite
      have hnot : w.options.receiverTimeout.lt (schedule.gap k) = false := by
        rw [hinfinite, Duration.infinite_lt]
      exact Bool.false_ne_true (hnot.symm.trans hlt)
    have hbefore : ∀ j < k, w.options.receiverTimeout.lt (schedule.gap j) = false := by
      intro j hj
      exact Bool.eq_false_iff.mpr fun h => absurd (hleast h) (Nat.not_le_of_lt hj)
    obtain ⟨s, hruns, hs⟩ := exists_runs henv hpos hstart hfinite hbefore
    obtain ⟨stretch, now, r, htry, hended⟩ := hs.exists_tryPop hpos hfinite k
    refine ⟨_, hruns.tryPop hs.running htry hended, ?_⟩
    rcases hs.tryPop henv hpos htry hended with ⟨hnot, _⟩ | ⟨_, hreason⟩
    · exact absurd (hnot.symm.trans hlt) Bool.false_ne_true
    · exact hreason

end Timeout

/-! ### The clock taken away -/

section Untimed

variable [Message EosValue]

/-- A receiver worker that receives the packets of the schedule. -/
def Schedule.receiver (schedule : Schedule) : ReceiverWorker.Env where
  receive k := (okStatus, schedule.packet k)
  now := none

theorem Connected.resting (h : Connected env w start) :
    ∃ j, (system env w schedule.receiver).Reachable j ∧ Resting schedule.receiver 0 j ∧
      j.source = start.source := by
  obtain ⟨r, hconnect, hsource, hqueue⟩ := h
  obtain ⟨queue, hcreate, rfl⟩ := ReceiverWorker.init_eq (connect_eq_some hconnect)
  refine ⟨_, .init ⟨_, hconnect, rfl⟩, ?_, hsource.symm⟩
  exact ⟨rfl, rfl, rfl, fun _ => rfl, (ProducerConsumerQueue.create_eq_ok hcreate).1, rfl, rfl,
    fun _ hy => (nomatch hy), fun h => absurd h (Nat.lt_irrefl 0)⟩

omit [Message RawImagePacketTypeDescriptor] [Message GstreamerBufferPacketTypeDescriptor]
  [Message ControlSignalPacketTypeDescriptor] [Message EosValue] in
/-- A `TryPop` on the empty queue waits, wakes up and times out. -/
theorem exists_timeout {s : ProducerConsumerQueue.State ReceiverWorker.Role Packet}
    {t : ReceiverWorker.Role} (ho : s.threads t = .outside) (hq : s.queue.q = [])
    {timeout : Duration} (hpos : timeout.isPositive = true) (hfinite : timeout ≠ .infinite) :
    ∃ frame s₁ s₂ s₃,
      ProducerConsumerQueue.Step s (.run t (.tryPop .default timeout) (.wait frame)) s₁ ∧
      ProducerConsumerQueue.Step s₁ (.wake t) s₂ ∧
      ProducerConsumerQueue.Step s₂
        (.run t (.tryPop .default timeout) (.done (.tryPop false .default))) s₃ := by
  cases timeout with
  | negInfinite => cases hpos
  | infinite => exact absurd rfl hfinite
  | ticks m =>
    let call : ProducerConsumerQueue.Call Packet := .tryPop .default (.ticks m)
    let frame : Frame Packet := .tryPop .default (.ticks m) (.ticks (m + 0))
    -- called at the time 0, it waits until its deadline
    have hfirst : call.first 0 s.queue = ⟨s.queue, none, .wait frame⟩ := tryPop_waits hq hpos 0
    have hresume : frame.resume (m + 0) s.queue =
        ⟨s.queue, none, .done (.tryPop false .default)⟩ := resume_late hq (.ticks m) (m + 0)
    let s₁ := s.after t call ⟨s.queue, none, .wait frame⟩ s.threads
    let s₂ := { s₁ with threads := Function.update s₁.threads t (.awake frame) }
    have hcall : ProducerConsumerQueue.Step s (.run t call (.wait frame)) s₁ := by
      have hstep := ProducerConsumerQueue.Step.call (s := s) t call 0 ho
        (by rw [hfirst]; exact .none s.threads)
      rw [hfirst] at hstep
      exact hstep
    have hwake : ProducerConsumerQueue.Step s₁ (.wake t) s₂ :=
      .wake t frame (Function.update_self _ _ _)
    have hreturn := ProducerConsumerQueue.Step.resume (s := s₂) t frame (m + 0)
      (Or.inr (Function.update_self _ _ _)) (by
        rw [show frame.resume (m + 0) s₂.queue = _ from hresume]
        exact .none s₂.threads)
    rw [show frame.resume (m + 0) s₂.queue = _ from hresume] at hreturn
    exact ⟨frame, s₁, s₂, _, hcall, hwake, hreturn⟩

/-- A source that rests can time out. -/
theorem Resting.timesOut {receiver : ReceiverWorker.Env} {k : ℕ} {j : Joined}
    (hj : Resting receiver k j) (h : (system env w receiver).Reachable j)
    (hpos : w.options.receiverTimeout.isPositive = true)
    (hfinite : w.options.receiverTimeout ≠ .infinite) :
    ∃ j', (system env w receiver).Reachable j' ∧ j'.source = receive env w none j.source := by
  obtain ⟨frame, s₁, s₂, s₃, hcall, hwake, hreturn⟩ :=
    exists_timeout (hj.outside .consumer) hj.empty hpos hfinite
  have h₁ := h.step (Step.pop .default _ hj.running hj.holds hcall)
  have h₂ := h₁.step (Step.worker (l := .wake .consumer) trivial (.wake .consumer hwake))
  exact ⟨_, h₂.step (Step.pop .default _ hj.running hj.holds hreturn), rfl⟩

/-- **A run on the clock is a run of the source and its receiver worker.** -/
theorem Runs.reachable (henv : Undisturbed env)
    (hpos : w.options.receiverTimeout.isPositive = true) (hstart : Connected env w start) {k : ℕ}
    {s : Timed} (h : Runs env w schedule start k s) :
    ∃ j, (system env w schedule.receiver).Reachable j ∧ j.source = s.source ∧
      (s.source.outcome = .running → Resting schedule.receiver k j) := by
  induction h with
  | start =>
    have hresting : ∃ j, (system env w schedule.receiver).Reachable j ∧
        Resting schedule.receiver 0 j ∧ j.source = start.source := hstart.resting
    obtain ⟨j, hj, hresting, hsource⟩ := hresting
    exact ⟨j, hj, hsource, fun _ => hresting⟩
  | @tryPop k s r stretch now hprior hrun htry hended ih =>
    obtain ⟨j, hj, hsource, hresting⟩ := ih
    have hs := (hprior.waiting henv hpos hstart hrun).1
    have hwaited := timedTryPop_waited hs.empty hpos s.now (schedule.gap_nonneg k)
      (schedule.packet k)
    rw [htry] at hwaited
    cases hwaited with
    | popped queue now hempty hlt =>
      obtain rfl := Ended.done.inj hended
      obtain ⟨j', hj', hresting', hsource'⟩ :=
        (hresting hrun).next w henv hj rfl (schedule.consumed k)
      refine ⟨j', hj', hsource'.trans ?_, fun _ => hresting'⟩
      rw [hsource]
      rfl
    | timedOut queue now hempty hlt =>
      obtain rfl := Ended.done.inj hended
      have hfinite : w.options.receiverTimeout ≠ .infinite := by
        intro hinfinite
        rw [hinfinite, Duration.infinite_lt] at hlt
        cases hlt
      obtain ⟨j', hj', hsource'⟩ := (hresting hrun).timesOut hj hpos hfinite
      refine ⟨j', hj', hsource'.trans (by rw [hsource]; rfl), fun hrun' => ?_⟩
      obtain ⟨status, hstatus, _⟩ := receive_none env w s.source
      cases hrun'.symm.trans hstatus
    | never queue frame now hinfinite => cases hended

end Untimed

end Runs

/-! ### The timeout asked for -/

/-- The exporter's source fails at the first gap that is longer than the `receiver_timeout` of the
options, and at no other. -/
def HonoursTimeout (options : GstreamerVideoExporter.Options) (schedule : Schedule) : Prop :=
  ∀ env start, Undisturbed env →
    Connected env (GstreamerVideoExporter.streamServerSource options) start →
    ∀ k, FailsAt env (GstreamerVideoExporter.streamServerSource options) schedule start k ↔
      IsLeast {k | options.receiverTimeout.lt (schedule.gap k) = true} k

omit [Message RawImagePacketTypeDescriptor] [Message GstreamerBufferPacketTypeDescriptor]
  [Message ControlSignalPacketTypeDescriptor] in
/-- Some source of the options is connected. -/
theorem exists_connected (options : GstreamerVideoExporter.Options) :
    ∃ start, Connected smooth (GstreamerVideoExporter.streamServerSource options) start := by
  obtain ⟨r, hr⟩ :=
    ReceiverWorker.exists_makePacketReceiverQueue options.receiverOptions.bufferCapacity okStatus_ok
  refine ⟨⟨initial, r.shared.queue, 0⟩, r, ?_, rfl, rfl⟩
  have hpre : (validatePreconditions (GstreamerVideoExporter.streamServerSource options)).ok =
      true := rfl
  have hqueue : ReceiverWorker.makePacketReceiverQueue
      (GstreamerVideoExporter.streamServerSource options).options.bufferCapacity
      smooth.createReceiver = .ok (okStatus, r) := hr
  rw [connect, hpre, hqueue]
  rfl

omit [Message RawImagePacketTypeDescriptor] [Message GstreamerBufferPacketTypeDescriptor]
  [Message ControlSignalPacketTypeDescriptor] in
/-- Two sets of numbers have the same least element, if any, exactly if they agree up to the first
number that is in one of them. -/
theorem forall_isLeast_iff (A B : Set ℕ) : (∀ k, IsLeast A k ↔ IsLeast B k) ↔
    ∀ k, (∀ j < k, j ∉ A ∧ j ∉ B) → (k ∈ A ↔ k ∈ B) := by
  constructor
  · intro h k hbefore
    have hA : k ∈ A ↔ IsLeast A k :=
      ⟨fun hk => ⟨hk, fun j hj => le_of_not_gt fun hjk => (hbefore j hjk).1 hj⟩, And.left⟩
    have hB : k ∈ B ↔ IsLeast B k :=
      ⟨fun hk => ⟨hk, fun j hj => le_of_not_gt fun hjk => (hbefore j hjk).2 hj⟩, And.left⟩
    rw [hA, hB, h k]
  · intro h k
    -- up to the first element of one of them, the other has none
    have hnone : ∀ C D : Set ℕ, (∀ k, (∀ j < k, j ∉ C ∧ j ∉ D) → (k ∈ C ↔ k ∈ D)) →
        IsLeast C k → IsLeast D k := by
      intro C D hagree hC
      have hbefore : ∀ j < k, j ∉ C ∧ j ∉ D := by
        intro j
        induction j using Nat.strong_induction_on with
        | _ j ih =>
          intro hjk
          have hjC : j ∉ C := fun hj => absurd (hC.2 hj) (not_le_of_gt hjk)
          have hiff := hagree j fun i hij => ih i hij (hij.trans hjk)
          exact ⟨hjC, fun hj => hjC (hiff.mpr hj)⟩
      exact ⟨(hagree k hbefore).mp hC.1,
        fun j hj => le_of_not_gt fun hjk => (hbefore j hjk).2 hj⟩
    refine ⟨hnone A B h, hnone B A fun k hbefore => (h k fun j hj => ?_).symm⟩
    exact ⟨(hbefore j hj).2, (hbefore j hj).1⟩

/-- The source has its own timeout, of ten seconds. -/
theorem honoursTimeout_iff_isLeast (options : GstreamerVideoExporter.Options)
    (schedule : Schedule) : HonoursTimeout options schedule ↔
      ∀ k, IsLeast {k | options.receiverTimeout.lt (schedule.gap k) = true} k ↔
        IsLeast {k | (Duration.seconds 10).lt (schedule.gap k) = true} k := by
  constructor
  · intro h k
    obtain ⟨start, hstart⟩ := exists_connected options
    rw [← h smooth start undisturbed_smooth hstart k]
    exact failsAt_iff undisturbed_smooth rfl hstart k
  · intro h env start henv hstart k
    rw [h k]
    exact failsAt_iff henv rfl hstart k

/-- **When the timeout asked for is honoured**: exactly if the first gap that is longer than it or
than ten seconds is longer than both. -/
theorem honoursTimeout_iff (options : GstreamerVideoExporter.Options) (schedule : Schedule) :
    HonoursTimeout options schedule ↔
      ∀ k, (∀ j < k, options.receiverTimeout.lt (schedule.gap j) = false ∧
          (Duration.seconds 10).lt (schedule.gap j) = false) →
        options.receiverTimeout.lt (schedule.gap k) =
          (Duration.seconds 10).lt (schedule.gap k) := by
  rw [honoursTimeout_iff_isLeast, forall_isLeast_iff]
  refine forall_congr' fun k => ?_
  simp only [Set.mem_ofPred_eq, Bool.not_eq_true, Bool.coe_iff_coe]

end Program

open WireMessages in
/-- A frame every five seconds. -/
def everyFiveSeconds : Schedule where
  packet _ := { Packet.default with header.type.typeId := .jpeg }
  gap _ := .seconds 5
  consumed _ := ⟨rfl, _, rfl⟩
  gap_nonneg _ := rfl

open WireMessages in
/-- **With a timeout of one second, a gap of five seconds passes.** -/
theorem not_honoursTimeout_oneSecond :
    ¬ HonoursTimeout { receiverTimeout := .seconds 1 } everyFiveSeconds := by
  intro h
  have hfirst := ((honoursTimeout_iff_isLeast _ _).mp h 0).mp ⟨rfl, fun j _ => Nat.zero_le j⟩
  cases hfirst.1

end StreamServerSource

end AIStreams
