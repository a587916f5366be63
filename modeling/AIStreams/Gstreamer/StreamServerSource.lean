import AIStreams.Base.PacketUtils
import AIStreams.Base.ReceiverWorker
import AIStreams.Gstreamer.LocalVideoSaver

/-!
# The stream server source

`StreamServerSource` of `aistreams/gstreamer/gstreamer_video_exporter.cc`, joined to the
worker that `MakePacketReceiverQueue` launches for it.  Each result of a `TryPop` is one step
of the source; what the decoder and the downstream worker answer is asked of an environment.

* `toReceiver`: the joined system is a run of the receiver worker with a consumer.
* `reportsBrokenStreams_iff`: for which behaviours of the receiver every run reports a broken
  stream as an error.
* `not_reportsBrokenStreams_oneFrame`: a failed `Receive` after one frame is reported as a
  clean end.
-/

namespace AIStreams

open Transition
open ProducerConsumerQueue (Call Ended)

/-! ### `GstreamerRawImageYielder` -/

/-- The yielder, without the images that its decoder gives to the callback. -/
structure GstreamerRawImageYielder where
  capsString : Bytes
  eosSignaled : Bool

namespace GstreamerRawImageYielder

def kGenericDecodeString : String := "decodebin ! videoconvert ! video/x-raw,format=RGB"

/-- `Create`; `runner` is the status of `GstreamerRunner::Create`. -/
def create (runner : GstreamerRunnerOptions → Status) (capsString : Bytes) :
    StatusOr GstreamerRawImageYielder :=
  if (runner ⟨capsString, kGenericDecodeString⟩).ok = false then
    .ofStatus (internalError "Failed to Initialize the GstreamerRawImageYielder")
  else .value ⟨capsString, false⟩

/-- `Feed`; `status` is that of the runner's `Feed`. -/
def feed (yielder : GstreamerRawImageYielder) (status : Status) : Status :=
  if yielder.eosSignaled then failedPreconditionError "Cannot feed after EOS is signaled"
  else status

def signalEos (yielder : GstreamerRawImageYielder) : GstreamerRawImageYielder :=
  { yielder with eosSignaled := true }

end GstreamerRawImageYielder

namespace StreamServerSource

/-! ### The program -/

/-- `bufferCapacity` is a field of `receiver_options`. -/
structure Options where
  bufferCapacity : Int32
  receiverTimeout : Duration

structure Worker where
  name : String
  options : Options
  outChannel : Option Channel

/-- What is asked of the world outside, the `n`-th call of each kind: the statuses of
`PacketReceiver::Create`, of the decoder's runner and of its `Feed`, the downstream worker,
the place on the output channel for an EOS, and the text of a duration. -/
structure Env where
  createReceiver : Status
  createRunner : GstreamerRunnerOptions → Status
  feed : ℕ → Status
  isDstCompleted : ℕ → Bool
  tryEmplaceEos : Bool
  formatDuration : Duration → String

/-- The variables of `WorkImpl`, and what it has done.  There is no yielder before the first
packet; `dstCompleted`: the test of the loop has found the downstream worker completed. -/
structure State where
  yielder : Option GstreamerRawImageYielder
  outcome : Outcome
  feeds : ℕ
  dstChecks : ℕ
  dstCompleted : Bool
  delivered : List (StatusOr RawImage)

def initial : State where
  yielder := none
  outcome := .running
  feeds := 0
  dstChecks := 0
  dstCompleted := false
  delivered := []

def validatePreconditions (w : Worker) : Status :=
  match w.outChannel with
  | none =>
    failedPreconditionError (w.name ++ ": No output channel found; please Attach() one.")
  | some output =>
    if output.hasDst = false then
      internalError (w.name ++ ": The output channel has no destination.")
    else okStatus

/-- `WorkImpl` up to its first `TryPop`.  Without a receiver worker the status is returned. -/
def connect (env : Env) (w : Worker) : OrFatal (Status × Option ReceiverWorker.State) :=
  if (validatePreconditions w).ok = false then .ok (validatePreconditions w, none)
  else
    match ReceiverWorker.makePacketReceiverQueue w.options.bufferCapacity env.createReceiver with
    | .error e => .error e
    | .ok (status, receiver) =>
      if status.ok = false then
        .ok (invalidArgumentError
          ("Failed to create a packet receiver queue: " ++ status.message), none)
      else .ok (okStatus, some receiver)

/-- A source that goes on has a receiver worker that was launched. -/
theorem connect_eq_some {env : Env} {w : Worker} {status : Status} {r : ReceiverWorker.State}
    (h : connect env w = .ok (status, some r)) :
    ReceiverWorker.makePacketReceiverQueue w.options.bufferCapacity okStatus =
      .ok (okStatus, r) := by
  rw [connect] at h
  split at h
  · cases congrArg Prod.snd (Except.ok.inj h)
  · unfold ReceiverWorker.makePacketReceiverQueue at h ⊢
    cases hcreate : ProducerConsumerQueue.create Packet
        (ReceiverWorker.queueCapacity w.options.bufferCapacity) with
    | error e =>
      rw [hcreate] at h
      cases h
    | ok queue =>
      rw [hcreate] at h
      cases hcreated : env.createReceiver.ok with
      | false =>
        simp only [hcreated, if_true] at h
        cases h
      | true =>
        simp only [hcreated, Bool.true_eq_false, if_false] at h
        cases h
        rfl

/-- A source that returns before its first `TryPop` returns an error. -/
theorem connect_eq_none {env : Env} {w : Worker} {status : Status}
    (h : connect env w = .ok (status, none)) : status.ok = false := by
  rw [connect] at h
  split at h
  · rename_i hpre
    obtain rfl : validatePreconditions w = status := congrArg Prod.fst (Except.ok.inj h)
    exact hpre
  · split at h
    · cases h
    · split at h
      · obtain rfl : invalidArgumentError _ = status := congrArg Prod.fst (Except.ok.inj h)
        rfl
      · cases congrArg Prod.snd (Except.ok.inj h)

section Program

variable [Message RawImagePacketTypeDescriptor] [Message GstreamerBufferPacketTypeDescriptor]
  [Message ControlSignalPacketTypeDescriptor]

variable (env : Env) (w : Worker)

/-- `ReceivePacket`, for what its `TryPop` yielded: the packet, and `is_eos`. -/
def receivePacket (popped : Option Packet) : StatusOr (Packet × Bool) :=
  match popped with
  | none =>
    .ofStatus (deadlineExceededError
      ("Failed to receive a packet within the specified timeout (" ++
        env.formatDuration w.options.receiverTimeout ++ ")."))
  | some p => .value (p, isEos p)

/-- What follows the loop: `SignalEOS`, with the callback's EOS, and the return. -/
def cleanup (status : Status) (s : State) : State :=
  { s with
    yielder := s.yielder.map GstreamerRawImageYielder.signalEos
    delivered := s.delivered ++ if env.tryEmplaceEos then [LocalVideoSaver.eosValue] else []
    outcome := .returned status }

/-- The test of the loop. -/
def checkDst (s : State) : State :=
  let s' := { s with dstChecks := s.dstChecks + 1 }
  if env.isDstCompleted s.dstChecks then cleanup env okStatus { s' with dstCompleted := true }
  else s'

/-- The rest of `ConnectAndWarmup`, for the first packet. -/
def warmup (received : StatusOr (Packet × Bool)) (s : State) : State :=
  match received with
  | .error status _ =>
    { s with
      outcome := .returned
        (unknownError ("Failed to receive a packet from upstream: " ++ status.message)) }
  | .value (p, eos) =>
    if eos then
      { s with
        outcome := .returned (notFoundError "Got EOS. The stream has already ended.") }
    else
      match packetToGstreamerBuffer p with
      | .error e => { s with outcome := .crashed e }
      | .ok (.error status _) =>
        { s with
          outcome := .returned (unknownError
            ("Failed to convert the first packet to a gstreamer buffer: " ++ status.message)) }
      | .ok (.value buffer) =>
        match GstreamerRawImageYielder.create env.createRunner buffer.caps with
        | .error status _ => { s with outcome := .returned status }
        | .value yielder =>
          let status := yielder.feed (env.feed s.feeds)
          let s := { s with yielder := some yielder, feeds := s.feeds + 1 }
          if status.ok = false then
            { s with
              outcome := .returned (unknownError
                ("Failed to Feed the first buffer into the raw image yielder: " ++
                  status.message)) }
          else checkDst env s

/-- The body of the loop. -/
def fetch (yielder : GstreamerRawImageYielder) (received : StatusOr (Packet × Bool)) (s : State) :
    State :=
  match received with
  | .error status _ =>
    cleanup env (unknownError ("Failed to receive a packet from upstream: " ++ status.message)) s
  | .value (p, eos) =>
    if eos then cleanup env okStatus s
    else
      match packetToGstreamerBuffer p with
      | .error e => { s with outcome := .crashed e }
      | .ok (.error status _) =>
        cleanup env
          (unknownError ("Failed to convert a packet to a gstreamer buffer: " ++ status.message)) s
      | .ok (.value _) =>
        let status := yielder.feed (env.feed s.feeds)
        let s := { s with feeds := s.feeds + 1 }
        if status.ok = false then
          cleanup env (unknownError
            ("Failed to Feed the data for raw image conversion: " ++ status.message)) s
        else checkDst env s

/-- What `WorkImpl` does with a result of `TryPop`. -/
def receive (popped : Option Packet) (s : State) : State :=
  match s.yielder with
  | none => warmup env (receivePacket env w popped) s
  | some yielder => fetch env yielder (receivePacket env w popped) s

/-- What it does when a stretch of its `TryPop` has ended. -/
def afterTryPop : Ended Packet → State → State
  | .done (.tryPop true p), s => receive env w (some p) s
  | .done (.tryPop false _), s => receive env w none s
  | _, s => s

/-! ### What a packet does -/

/-- A packet that is fed to the decoder. -/
def Consumed (p : Packet) : Prop :=
  isEos p = false ∧ ∃ buffer, packetToGstreamerBuffer p = .ok (.value buffer)

/-- What the source makes of a packet: it feeds it and goes on, or finds the downstream worker
completed; or it takes it for the end of the stream; or it fails. -/
inductive Received (p : Packet) (s s' : State) : Prop
  | goesOn : Consumed p → s'.outcome = .running → s'.yielder ≠ none → Received p s s'
  | completed : Consumed p → s'.outcome = .returned okStatus → s'.dstCompleted = true →
      Received p s s'
  | ended : isEos p = true → s.yielder ≠ none → s'.outcome = .returned okStatus → Received p s s'
  | failed (status : Status) : status.ok = false → s'.outcome = .returned status →
      Received p s s'
  | crashed (e : Fatal) : s'.outcome = .crashed e → Received p s s'

theorem checkDst_received {p : Packet} (hp : Consumed p) {s s' : State}
    (hrun : s'.outcome = .running) (hy : s'.yielder ≠ none) : Received p s (checkDst env s') := by
  rw [checkDst]
  simp only
  split
  · exact .completed hp rfl rfl
  · exact .goesOn hp hrun hy

theorem warmup_received {s : State} (hrun : s.outcome = .running) (p : Packet) :
    Received p s (warmup env (receivePacket env w (some p)) s) := by
  rw [receivePacket, warmup]
  cases heos : isEos p with
  | true => exact .failed _ rfl rfl
  | false =>
    simp only [Bool.false_eq_true, if_false]
    cases hconv : packetToGstreamerBuffer p with
    | error e => exact .crashed e rfl
    | ok r =>
      cases r with
      | error status hs => exact .failed _ rfl rfl
      | value buffer =>
        simp only
        cases hcreate : GstreamerRawImageYielder.create env.createRunner buffer.caps with
        | error status hs => exact .failed status hs rfl
        | value yielder =>
          simp only
          split
          · exact .failed _ rfl rfl
          · exact checkDst_received env ⟨heos, buffer, hconv⟩ hrun (Option.some_ne_none _)

theorem fetch_received {s : State} (hrun : s.outcome = .running)
    {yielder : GstreamerRawImageYielder} (hy : s.yielder = some yielder) (p : Packet) :
    Received p s (fetch env yielder (receivePacket env w (some p)) s) := by
  have hsome : s.yielder ≠ none := by rw [hy]; exact Option.some_ne_none _
  rw [receivePacket, fetch]
  cases heos : isEos p with
  | true => exact .ended heos hsome rfl
  | false =>
    simp only [Bool.false_eq_true, if_false]
    cases hconv : packetToGstreamerBuffer p with
    | error e => exact .crashed e rfl
    | ok r =>
      cases r with
      | error status hs => exact .failed _ rfl rfl
      | value buffer =>
        simp only
        split
        · exact .failed _ rfl rfl
        · exact checkDst_received env ⟨heos, buffer, hconv⟩ hrun hsome

theorem receive_received {s : State} (hrun : s.outcome = .running) (p : Packet) :
    Received p s (receive env w (some p) s) := by
  rw [receive]
  split
  · exact warmup_received env w hrun p
  · rename_i yielder hy
    exact fetch_received env w hrun hy p

/-- A `TryPop` that times out is reported. -/
theorem receive_none (s : State) :
    ∃ status, (receive env w none s).outcome = .returned status ∧ status.ok = false := by
  rw [receive]
  split
  · exact ⟨_, rfl, rfl⟩
  · exact ⟨_, rfl, rfl⟩

/-! ### The source and its receiver worker -/

/-- The source and its receiver worker. -/
structure Joined where
  receiver : ReceiverWorker.State
  source : State

inductive Label
  | worker (l : ReceiverWorker.Label)
  | pop
  | release

/-- The steps of the worker and of the clock. -/
def ByWorker : ReceiverWorker.Label → Prop
  | .pop => False
  | .release => False
  | _ => True

section System

variable [Message EosValue]

/-- The steps of the worker, of the source and of the clock.  The queue is released by the
destructor, after `WorkImpl`. -/
inductive Step (receiver : ReceiverWorker.Env) : Joined → Label → Joined → Prop
  | worker {s : Joined} {l : ReceiverWorker.Label} {r : ReceiverWorker.State} : ByWorker l →
      ReceiverWorker.Step receiver s.receiver l r →
      Step receiver s (.worker l) { s with receiver := r }
  | pop {s : Joined} (elem : Packet) (e : Ended Packet)
      {shared : ProducerConsumerQueue.State ReceiverWorker.Role Packet} :
      s.source.outcome = .running → s.receiver.consumerHolds = true →
      ProducerConsumerQueue.Step s.receiver.shared
        (.run .consumer (.tryPop elem w.options.receiverTimeout) e) shared →
      Step receiver s .pop
        { receiver := { s.receiver with shared := shared }
          source := afterTryPop env w e s.source }
  | release {s : Joined} {r : ReceiverWorker.State} : s.source.outcome ≠ .running →
      ReceiverWorker.Step receiver s.receiver .release r →
      Step receiver s .release { s with receiver := r }

/-- The source has its queue, and is about to pop the first packet. -/
def system (receiver : ReceiverWorker.Env) : System Joined Label where
  init s := ∃ r, connect env w = .ok (okStatus, some r) ∧ s = ⟨r, initial⟩
  step := Step env w receiver

/-- **Every step is a step of the receiver worker's system.** -/
def toReceiver (receiver : ReceiverWorker.Env) :
    Refinement (system env w receiver)
      (ReceiverWorker.system receiver w.options.bufferCapacity) where
  abs := Joined.receiver
  init := by
    rintro s ⟨r, hconnect, rfl⟩
    exact connect_eq_some hconnect
  step := by
    intro s l s' _ h
    cases h with
    | worker _ hr => exact Or.inr ⟨_, hr⟩
    | pop elem e _ hh hq => exact Or.inr ⟨_, .pop elem w.options.receiverTimeout e hh hq⟩
    | release _ hr => exact Or.inr ⟨_, hr⟩

end System

/-! ### The invariant -/

/-- How the source comes to return OK. -/
def ReturnsOk (s : Joined) : Prop :=
  (s.source.dstCompleted = true ∧ ∀ p ∈ s.receiver.shared.popped, Consumed p) ∨
    ∃ before p, s.receiver.shared.popped = before ++ [p] ∧ before ≠ [] ∧ isEos p = true ∧
      ∀ q ∈ before, Consumed q

/-- **The invariant**: as long as it runs, the source has fed what it has popped. -/
structure Inv (s : Joined) : Prop where
  consumed : s.source.outcome = .running → ∀ p ∈ s.receiver.shared.popped, Consumed p
  warm : s.source.outcome = .running → s.source.yielder ≠ none → s.receiver.shared.popped ≠ []
  returned : ∀ status, s.source.outcome = .returned status → status.ok = true → ReturnsOk s

theorem Inv.of_popped {s : Joined} (h : Inv s) {r : ReceiverWorker.State}
    (hr : r.shared.popped = s.receiver.shared.popped) : Inv { s with receiver := r } := by
  obtain ⟨hconsumed, hwarm, hreturned⟩ := h
  refine ⟨?_, ?_, ?_⟩
  · show s.source.outcome = .running → ∀ p ∈ r.shared.popped, Consumed p
    rw [hr]
    exact hconsumed
  · show s.source.outcome = .running → s.source.yielder ≠ none → r.shared.popped ≠ []
    rw [hr]
    exact hwarm
  · intro status hstatus hok
    have h := hreturned status hstatus hok
    unfold ReturnsOk at h ⊢
    rw [← hr] at h
    exact h

theorem inv_packet {s : Joined} (h : Inv s) (hrun : s.source.outcome = .running) {p : Packet}
    {r : ReceiverWorker.State} (hr : r.shared.popped = s.receiver.shared.popped ++ [p])
    {s' : State} (hs' : Received p s.source s') : Inv ⟨r, s'⟩ := by
  have hall : Consumed p → ∀ q ∈ r.shared.popped, Consumed q := by
    intro hp q hq
    rw [hr] at hq
    rcases List.mem_append.mp hq with hq | hq
    · exact h.consumed hrun q hq
    · rw [List.mem_singleton.mp hq]
      exact hp
  have hne : r.shared.popped ≠ [] := by rw [hr]; exact List.append_ne_nil_of_right_ne_nil _ nofun
  refine ⟨fun hrun' => ?_, fun _ _ => hne, fun status hstatus hok => ?_⟩
  · have hrun' : s'.outcome = .running := hrun'
    cases hs' with
    | goesOn hp _ _ => exact hall hp
    | completed _ ho _ => cases hrun'.symm.trans ho
    | ended _ _ ho => cases hrun'.symm.trans ho
    | failed _ _ ho => cases hrun'.symm.trans ho
    | crashed _ ho => cases hrun'.symm.trans ho
  · have hstatus : s'.outcome = .returned status := hstatus
    cases hs' with
    | goesOn _ ho _ => cases hstatus.symm.trans ho
    | completed hp _ hdst => exact Or.inl ⟨hdst, hall hp⟩
    | ended heos hy _ =>
      exact Or.inr ⟨s.receiver.shared.popped, p, hr, h.warm hrun hy, heos, h.consumed hrun⟩
    | failed status' hs ho =>
      obtain rfl : status = status' := Outcome.returned.inj (hstatus.symm.trans ho)
      rw [hok] at hs
      cases hs
    | crashed _ ho => cases hstatus.symm.trans ho

variable [Message EosValue]

omit [Message RawImagePacketTypeDescriptor] [Message GstreamerBufferPacketTypeDescriptor] in
/-- The worker pops nothing. -/
theorem popped_of_byWorker {receiver : ReceiverWorker.Env} {r r' : ReceiverWorker.State}
    {l : ReceiverWorker.Label} (hl : ByWorker l) (h : ReceiverWorker.Step receiver r l r') :
    r'.shared.popped = r.shared.popped := by
  cases h with
  | check _ _ => rfl
  | receive _ => rfl
  | work c e hc hq =>
    have hpops : e.pops = [] := by
      rcases ReceiverWorker.afterCall_cases hc hq with ⟨⟨f, rfl⟩, _⟩ | ⟨_, _, _, _, rfl, _⟩ |
        ⟨_, _, rfl, _⟩
      · rfl
      · rfl
      · rfl
    show _ = _
    rw [hq.queue_run.2.2.1, hpops, List.append_nil]
  | pop _ _ _ _ _ => exact False.elim hl
  | wake _ hq => exact hq.queue_wake.2.2
  | release _ _ => rfl

theorem inv_of_reachable {receiver : ReceiverWorker.Env} {s : Joined}
    (h : (system env w receiver).Reachable s) : Inv s := by
  refine h.invariant ?_ ?_
  · rintro s ⟨r, hconnect, rfl⟩
    obtain ⟨queue, _, rfl⟩ := ReceiverWorker.init_eq (connect_eq_some hconnect)
    exact ⟨fun _ _ hp => (nomatch hp), fun _ hy => absurd rfl hy, fun _ hstatus => nomatch hstatus⟩
  · intro s l s' _ ih hs
    cases hs with
    | worker hl hr => exact ih.of_popped (popped_of_byWorker hl hr)
    | release _ hr =>
      cases hr with
      | release _ _ => exact ih.of_popped rfl
    | pop elem e hrun _ hq =>
      have hpopped := hq.queue_run.2.2.1
      rcases hq.tryPop_ended with ⟨f, rfl, _⟩ | ⟨rfl, _⟩ | ⟨p, rest, rfl, _, _⟩
      · exact ih.of_popped (hpopped.trans (List.append_nil _))
      · obtain ⟨status, hstatus, hfail⟩ := receive_none env w s.source
        refine ⟨fun hrun' => ?_, fun hrun' => ?_, fun status' hstatus' hok => ?_⟩
        · cases hstatus.symm.trans hrun'
        · cases hstatus.symm.trans hrun'
        · obtain rfl : status = status' := Outcome.returned.inj (hstatus.symm.trans hstatus')
          rw [hok] at hfail
          cases hfail
      · exact inv_packet ih hrun hpopped (receive_received env w hrun p)

/-! ### Broken streams -/

section Reports

variable (receiver : ReceiverWorker.Env)

/-- An EOS packet that the server sent was popped after the first packet. -/
def ServerEos (s : Joined) : Prop :=
  ∃ n p, 0 < n ∧ n < (ReceiverWorker.okPackets receiver s.receiver.received).length ∧
    s.receiver.shared.popped[n]? = some p ∧ isEos p = true

/-- A `Receive` has failed, and all was popped, up to the EOS packet made for the failure. -/
def BrokenOff (s : Joined) : Prop :=
  ReceiverWorker.eosPackets receiver s.receiver.received ≠ [] ∧
    s.receiver.shared.popped = ReceiverWorker.okPackets receiver s.receiver.received ++
      ReceiverWorker.eosPackets receiver s.receiver.received

/-- **A broken stream is not a clean end**: the source returns OK only if an EOS packet of the
server was popped after the first packet or the downstream worker had completed, and not at all
when the stream was broken off. -/
structure Honest (s : Joined) : Prop where
  returnsOk : ∀ status, s.source.outcome = .returned status → status.ok = true →
    s.source.dstCompleted = true ∨ ServerEos receiver s
  brokenOff : ∀ status, s.source.outcome = .returned status → BrokenOff receiver s →
    status.ok = false

/-- Every run is honest, and a source that has no run returns an error. -/
def ReportsBrokenStreams : Prop :=
  ∀ (env : Env) (w : Worker),
    (∀ status, connect env w = .ok (status, none) → status.ok = false) ∧
      ∀ s, (system env w receiver).Reachable s → Honest receiver s

/-- **The receiver breaks off in mid-stream**: its `Receive` fails after at least one packet,
none of them an EOS and all of them convertible, and there is a clock for its EOS packet. -/
def BreaksMidStream : Prop :=
  ∃ n, 0 < n ∧
    (∀ k < n, (receiver.receive k).1.ok = true ∧ Consumed (receiver.receive k).2) ∧
    (receiver.receive n).1.ok = false ∧ receiver.now ≠ none

end Reports

variable {receiver : ReceiverWorker.Env}

theorem receiver_reachable {s : Joined} (h : (system env w receiver).Reachable s) :
    (ReceiverWorker.system receiver w.options.bufferCapacity).Reachable s.receiver :=
  (toReceiver env w receiver).reachable h

/-- The source has popped packets of the server only, or the stream was broken off. -/
theorem popped_length_le {s : Joined} (h : (system env w receiver).Reachable s) :
    s.receiver.shared.popped.length ≤
        (ReceiverWorker.okPackets receiver s.receiver.received).length ∨
      BrokenOff receiver s := by
  have hr := receiver_reachable env w h
  have hpopped := ReceiverWorker.popped_isPrefix_of_reachable hr
  have hall := ReceiverWorker.allOk_pred_of_reachable hr
  by_cases heos : ReceiverWorker.eosPackets receiver s.receiver.received = []
  · rw [heos, List.append_nil] at hpopped
    exact Or.inl hpopped.length_le
  · by_cases hlen : s.receiver.shared.popped.length ≤
        (ReceiverWorker.okPackets receiver s.receiver.received).length
    · exact Or.inl hlen
    · refine Or.inr ⟨heos, hpopped.eq_of_length_le ?_⟩
      obtain ⟨_, _, _, _, _, _, hone, _⟩ := ReceiverWorker.eosPackets_ne_nil hall heos
      rw [hone, List.length_append, List.length_singleton]
      omega

/-- **A stream that was broken off is reported**, if the receiver does not break off in
mid-stream. -/
theorem brokenOff_error [LawfulMessage ControlSignalPacketTypeDescriptor]
    [LawfulMessage EosValue] (hbreaks : ¬ BreaksMidStream receiver) {s : Joined}
    (h : (system env w receiver).Reachable s) (hb : BrokenOff receiver s) {status : Status}
    (hstatus : s.source.outcome = .returned status) : status.ok = false := by
  obtain ⟨hne, hpopped⟩ := hb
  have hr := receiver_reachable env w h
  have hall := ReceiverWorker.allOk_pred_of_reachable hr
  obtain ⟨n, eos, _, hok, hfail, hmake, heos, hpackets⟩ :=
    ReceiverWorker.eosPackets_ne_nil hall hne
  have hnow := makeEosPacket_now hmake
  obtain ⟨now, hclock⟩ := Option.ne_none_iff_exists'.mp hnow
  have hiseos : isEos eos = true := by
    obtain ⟨p, hp, hiseos⟩ := isEos_makeEosPacket now (ReceiverWorker.eosReason
      (receiver.receive n).1)
    rw [hclock, hp] at hmake
    obtain rfl := StatusOr.value.inj hmake
    exact hiseos
  have hall' : s.receiver.shared.popped =
      (List.range n).map (fun k => (receiver.receive k).2) ++ [eos] := by
    rw [hpopped, heos, hpackets, ReceiverWorker.okPackets_of_allOk hok]
  rw [Bool.eq_false_iff]
  intro htrue
  rcases (inv_of_reachable env w h).returned status hstatus htrue with
    ⟨_, hconsumed⟩ | ⟨before, p, hsplit, hbefore, _, hconsumed⟩
  · -- the EOS packet was not fed
    have hmem : eos ∈ s.receiver.shared.popped := by
      rw [hall']
      exact List.mem_append_right _ List.mem_cons_self
    rw [(hconsumed eos hmem).1] at hiseos
    cases hiseos
  · -- the packets before it were, and there was one
    rw [hall'] at hsplit
    obtain ⟨rfl, _⟩ := List.append_inj' hsplit rfl
    refine hbreaks ⟨n, Nat.pos_of_ne_zero ?_, fun k hk => ⟨hok k hk, ?_⟩, hfail, hnow⟩
    · rintro rfl
      exact hbefore rfl
    · exact hconsumed _ (List.mem_map_of_mem (List.mem_range.mpr hk))

theorem honest_of_reachable [LawfulMessage ControlSignalPacketTypeDescriptor]
    [LawfulMessage EosValue] (hbreaks : ¬ BreaksMidStream receiver) {s : Joined}
    (h : (system env w receiver).Reachable s) : Honest receiver s := by
  refine ⟨fun status hstatus hok => ?_, fun status hstatus hb =>
    brokenOff_error env w hbreaks h hb hstatus⟩
  rcases popped_length_le env w h with hlen | hb
  · rcases (inv_of_reachable env w h).returned status hstatus hok with
      ⟨hdst, _⟩ | ⟨before, p, hsplit, hbefore, heos, _⟩
    · exact Or.inl hdst
    · rw [hsplit, List.length_append, List.length_singleton] at hlen
      refine Or.inr ⟨before.length, p, List.length_pos_iff.mpr hbefore, by omega, ?_, heos⟩
      rw [hsplit]
      exact List.getElem?_concat_length
  · rw [brokenOff_error env w hbreaks h hb hstatus] at hok
    cases hok

/-! ### A run over a broken stream -/

/-- Nothing fails besides the receiving, and the downstream worker keeps running. -/
structure Undisturbed (env : Env) : Prop where
  createReceiver : env.createReceiver.ok = true
  createRunner : ∀ options, (env.createRunner options).ok = true
  feed : ∀ n, (env.feed n).ok = true
  isDstCompleted : ∀ n, env.isDstCompleted n = false

/-- Nothing else fails, and the downstream worker keeps running. -/
def smooth : Env where
  createReceiver := okStatus
  createRunner _ := okStatus
  feed _ := okStatus
  isDstCompleted _ := false
  tryEmplaceEos := true
  formatDuration _ := ""

omit [Message RawImagePacketTypeDescriptor] [Message GstreamerBufferPacketTypeDescriptor]
  [Message ControlSignalPacketTypeDescriptor] [Message EosValue] in
theorem undisturbed_smooth : Undisturbed smooth := ⟨rfl, fun _ => rfl, fun _ => rfl, fun _ => rfl⟩

/-- A source that is attached, with a buffer of one packet. -/
def attachedSource : Worker where
  name := "StreamServerSource"
  options := ⟨1, .seconds 10⟩
  outChannel := some ⟨true, true⟩

omit [Message EosValue] in
theorem receive_consumed {env : Env} (henv : Undisturbed env) {p : Packet} (hp : Consumed p)
    {s : State} (hrun : s.outcome = .running)
    (hy : ∀ y, s.yielder = some y → y.eosSignaled = false) :
    (receive env w (some p) s).outcome = .running ∧
      ∃ y, (receive env w (some p) s).yielder = some y ∧ y.eosSignaled = false := by
  obtain ⟨heos, buffer, hconv⟩ := hp
  rw [receive]
  cases hs : s.yielder with
  | none =>
    have hcreate : GstreamerRawImageYielder.create env.createRunner buffer.caps =
        .value ⟨buffer.caps, false⟩ := by
      rw [GstreamerRawImageYielder.create, henv.createRunner]
      rfl
    simp only [receivePacket, warmup, heos, hconv, hcreate, GstreamerRawImageYielder.feed,
      henv.feed, checkDst, henv.isDstCompleted, Bool.false_eq_true, Bool.true_eq_false, if_false]
    exact ⟨hrun, _, rfl, rfl⟩
  | some y =>
    simp only [receivePacket, fetch, heos, hconv, GstreamerRawImageYielder.feed, hy y hs,
      henv.feed, checkDst, henv.isDstCompleted, Bool.false_eq_true, Bool.true_eq_false, if_false]
    exact ⟨hrun, y, hs, hy y hs⟩

omit [Message EosValue] in
theorem receive_eos {p : Packet} (hp : isEos p = true) {s : State}
    {y : GstreamerRawImageYielder} (hs : s.yielder = some y) :
    (receive smooth w (some p) s).outcome = .returned okStatus := by
  rw [receive, hs]
  simp only [receivePacket, fetch, hp, if_true]
  rfl

/-- The source has fed `k` packets, the queue is empty, and the worker is at the top of its
loop. -/
structure Resting (receiver : ReceiverWorker.Env) (k : ℕ) (s : Joined) : Prop where
  pc : s.receiver.pc = .top none
  received : s.receiver.received = k
  holds : s.receiver.consumerHolds = true
  outside : ∀ t, s.receiver.shared.threads t = .outside
  empty : s.receiver.shared.queue.q = []
  popped : s.receiver.shared.popped = (List.range k).map fun j => (receiver.receive j).2
  running : s.source.outcome = .running
  feeding : ∀ y, s.source.yielder = some y → y.eosSignaled = false
  warm : 0 < k → ∃ y, s.source.yielder = some y

theorem resting_initial : ∃ s, (system smooth attachedSource receiver).Reachable s ∧
    Resting receiver 0 s := by
  let queue : ProducerConsumerQueue Packet := ⟨1, [], by decide, by decide⟩
  let r : ReceiverWorker.State :=
    ⟨ProducerConsumerQueue.initial ReceiverWorker.Role queue, true, .top none, 0⟩
  refine ⟨⟨r, initial⟩, .init ⟨r, rfl, rfl⟩, ?_⟩
  exact ⟨rfl, rfl, rfl, fun _ => rfl, rfl, rfl, rfl, fun _ hy => (nomatch hy),
    fun h => absurd h (Nat.lt_irrefl 0)⟩

/-- The worker receives the next packet. -/
theorem Resting.receives {k : ℕ} {s : Joined} (hs : Resting receiver k s)
    (h : (system env w receiver).Reachable s) :
    (system env w receiver).Reachable
      ⟨{ s.receiver with
          pc := ReceiverWorker.afterReceive receiver (receiver.receive k)
          received := k + 1 }, s.source⟩ := by
  have hcheck : (system env w receiver).Reachable
      ⟨{ s.receiver with
          pc := ReceiverWorker.afterCheck s.receiver.consumerHolds none }, s.source⟩ :=
    h.step (Step.worker (l := .check) trivial (.check none hs.pc))
  rw [hs.holds] at hcheck
  have hreceive := hcheck.step (Step.worker (l := .receive) trivial (.receive rfl))
  simp only [hs.received] at hreceive
  exact hreceive

/-- What the worker pushes, the source pops. -/
theorem passes {s : Joined} (h : (system env w receiver).Reachable s)
    (hrun : s.source.outcome = .running) (hholds : s.receiver.consumerHolds = true)
    (houtside : ∀ t, s.receiver.shared.threads t = .outside)
    (hempty : s.receiver.shared.queue.q = []) {c : Call Packet}
    {r : ProducerConsumerQueue.Return Packet} {p : Packet} (hc : s.receiver.pc.call = some c)
    (hpush : ∃ shared, ProducerConsumerQueue.Step s.receiver.shared
      (.run .worker c (.done r)) shared)
    (hacc : c.accepts (.done r) = [p]) (hpops : (Ended.done r).pops = []) :
    ∃ shared, (∀ t, shared.threads t = .outside) ∧ shared.queue.q = [] ∧
      shared.popped = s.receiver.shared.popped ++ [p] ∧
      (system env w receiver).Reachable
        ⟨{ s.receiver with shared := shared, pc := s.receiver.pc.afterCall (.done r) },
          receive env w (some p) s.source⟩ := by
  obtain ⟨shared₁, hpush⟩ := hpush
  obtain ⟨shared₂, hpop, houtside₂, hempty₂, hpopped⟩ :=
    hpush.passes houtside hempty hacc hpops .consumer .default w.options.receiverTimeout
  let s₁ : Joined :=
    ⟨{ s.receiver with shared := shared₁, pc := s.receiver.pc.afterCall (.done r) }, s.source⟩
  have hwork : (system env w receiver).Reachable s₁ :=
    h.step (Step.worker (l := .work) trivial (.work c _ hc hpush))
  have hfed : Step env w receiver s₁ .pop _ := .pop .default _ hrun hholds hpop
  exact ⟨shared₂, houtside₂, hempty₂, hpopped, hwork.step hfed⟩

/-- **One more packet**: it is received, pushed, popped and fed. -/
theorem Resting.next {env : Env} (henv : Undisturbed env) {k : ℕ} {s : Joined}
    (hs : Resting receiver k s) (h : (system env w receiver).Reachable s)
    (hok : (receiver.receive k).1.ok = true) (hp : Consumed (receiver.receive k).2) :
    ∃ s', (system env w receiver).Reachable s' ∧ Resting receiver (k + 1) s' ∧
      s'.source = receive env w (some (receiver.receive k).2) s.source := by
  have hreceive := hs.receives env w h
  have hafter : ReceiverWorker.afterReceive receiver (receiver.receive k) =
      .pushing (receiver.receive k).2 := if_pos hok
  rw [hafter] at hreceive
  have hfull : s.receiver.shared.queue.isFull = false :=
    Bool.eq_false_iff.mpr fun hfull =>
      ProducerConsumerQueue.q_ne_nil_of_isFull hfull hs.empty
  obtain ⟨shared, houtside, hempty, hpopped, hreach⟩ := passes env w hreceive hs.running
    hs.holds hs.outside hs.empty rfl
    (ProducerConsumerQueue.exists_tryPush (hs.outside _) hfull _ _) rfl rfl
  obtain ⟨hrun, y, hy, hsignal⟩ := receive_consumed w henv hp hs.running hs.feeding
  refine ⟨_, hreach, ⟨rfl, rfl, hs.holds, houtside, hempty, ?_, hrun, ?_, fun _ => ⟨y, hy⟩⟩, rfl⟩
  · rw [List.range_succ, List.map_append, ← hs.popped]
    exact hpopped
  · intro y' hy'
    obtain rfl := Option.some.inj (hy.symm.trans hy')
    exact hsignal

theorem resting_of_consumed {n : ℕ}
    (hall : ∀ k < n, (receiver.receive k).1.ok = true ∧ Consumed (receiver.receive k).2) :
    ∃ s, (system smooth attachedSource receiver).Reachable s ∧ Resting receiver n s := by
  induction n with
  | zero => exact resting_initial
  | succ n ih =>
    obtain ⟨s, h, hs⟩ := ih fun k hk => hall k (Nat.lt_succ_of_lt hk)
    obtain ⟨hok, hp⟩ := hall n (Nat.lt_succ_self n)
    obtain ⟨s', h', hs', _⟩ := hs.next attachedSource undisturbed_smooth h hok hp
    exact ⟨s', h', hs'⟩

/-- **A receiver that breaks off in mid-stream can be taken for a clean end.** -/
theorem brokenOff_of_breaks [LawfulMessage ControlSignalPacketTypeDescriptor]
    [LawfulMessage EosValue] (hbreaks : BreaksMidStream receiver) :
    ∃ s, (system smooth attachedSource receiver).Reachable s ∧
      s.source.outcome = .returned okStatus ∧ BrokenOff receiver s := by
  obtain ⟨n, hpos, hall, hfail, hnow⟩ := hbreaks
  obtain ⟨now, hclock⟩ := Option.ne_none_iff_exists'.mp hnow
  obtain ⟨eos, hmake, hiseos⟩ := isEos_makeEosPacket now
    (ReceiverWorker.eosReason (receiver.receive n).1)
  obtain ⟨s, h, hs⟩ := resting_of_consumed hall
  have hreceive := hs.receives smooth attachedSource h
  have hafter : ReceiverWorker.afterReceive receiver (receiver.receive n) = .emplacing eos := by
    rw [ReceiverWorker.afterReceive, hfail, hclock, hmake]
    rfl
  rw [hafter] at hreceive
  have hfull : s.receiver.shared.queue.isFull = false :=
    Bool.eq_false_iff.mpr fun hfull =>
      ProducerConsumerQueue.q_ne_nil_of_isFull hfull hs.empty
  obtain ⟨shared, _, _, hpopped, hreach⟩ := passes smooth attachedSource hreceive hs.running
    hs.holds hs.outside hs.empty rfl
    (ProducerConsumerQueue.exists_emplace (hs.outside _) hfull _) rfl rfl
  obtain ⟨y, hy⟩ := hs.warm hpos
  have hok : ReceiverWorker.AllOk receiver n := fun k hk => (hall k hk).1
  have heos : ReceiverWorker.eosPackets receiver (n + 1) = [eos] := by
    rw [ReceiverWorker.eosPackets_succ hok, hfail, ReceiverWorker.eosFor, hclock, hmake]
    rfl
  refine ⟨_, hreach, receive_eos attachedSource hiseos hy, ?_, ?_⟩
  · show ReceiverWorker.eosPackets receiver (n + 1) ≠ []
    rw [heos]
    exact List.cons_ne_nil _ _
  · show shared.popped = ReceiverWorker.okPackets receiver (n + 1) ++
      ReceiverWorker.eosPackets receiver (n + 1)
    rw [hpopped, heos, ReceiverWorker.okPackets_succ, hfail,
      ReceiverWorker.okPackets_of_allOk hok, hs.popped]
    simp

/-- **When every run reports a broken stream**: exactly if the receiver does not break off in
mid-stream. -/
theorem reportsBrokenStreams_iff [LawfulMessage ControlSignalPacketTypeDescriptor]
    [LawfulMessage EosValue] (receiver : ReceiverWorker.Env) :
    ReportsBrokenStreams receiver ↔ ¬ BreaksMidStream receiver := by
  constructor
  · intro h hbreaks
    obtain ⟨s, hreach, hstatus, hb⟩ := brokenOff_of_breaks hbreaks
    have herror := ((h smooth attachedSource).2 s hreach).brokenOff okStatus hstatus hb
    cases herror
  · intro h env w
    exact ⟨fun status => connect_eq_none, fun s => honest_of_reachable env w h⟩

end Program

/-- `Receive` fails from the start. -/
def noFrames : ReceiverWorker.Env where
  receive _ := (unavailableError "", .default)
  now := some ⟨0, 0⟩

/-- A frame, and then a failed `Receive`. -/
def oneFrame : ReceiverWorker.Env where
  receive n :=
    if n = 0 then (okStatus, { Packet.default with header.type.typeId := .jpeg })
    else (unavailableError "", .default)
  now := some ⟨0, 0⟩

open WireMessages in
/-- A stream that does not begin is reported. -/
theorem reportsBrokenStreams_noFrames : ReportsBrokenStreams noFrames := by
  refine (reportsBrokenStreams_iff noFrames).mpr ?_
  rintro ⟨n, hpos, hall, _⟩
  exact absurd (hall 0 hpos).1 (by decide)

open WireMessages in
/-- **A failed `Receive` after one frame is reported as a clean end.** -/
theorem not_reportsBrokenStreams_oneFrame : ¬ ReportsBrokenStreams oneFrame := by
  intro h
  have hbreaks : BreaksMidStream oneFrame := by
    refine ⟨1, Nat.one_pos, fun k hk => ?_, rfl, Option.some_ne_none _⟩
    obtain rfl := Nat.lt_one_iff.mp hk
    exact ⟨rfl, rfl, _, rfl⟩
  obtain ⟨s, hreach, hstatus, hb⟩ := brokenOff_of_breaks hbreaks
  have herror := ((h smooth attachedSource).2 s hreach).brokenOff okStatus hstatus hb
  cases herror

end StreamServerSource

end AIStreams
