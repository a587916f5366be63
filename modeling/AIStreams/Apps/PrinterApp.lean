import AIStreams.Apps.ReplayApp
import AIStreams.Base.PacketSender
import AIStreams.Gstreamer.StreamServerSource
import Mathlib.Data.List.Infix

/-!
# From a sender to a consumer

A `PacketSender`, the stream server, a `PacketReceiver` with its worker, and `RunPrinter` of
`aistreams/python/apps/printer_app.cc`, which pops the queue of the worker until an EOS.  All of
them run at once; the server is not this code: it keeps what it keeps of the packets handed to it,
in order, and a stream yields what is kept from some position on, once it is there.

* `printed_isPrefix`: what is printed is what is kept, in order and without a gap.
* `delivers_of_reachable`: how that, and how the printer ends, follow from what was sent.
-/

namespace AIStreams.PrinterApp

open Transition
open PacketSender (SameButTrace)
open ProducerConsumerQueue (Ended)
open StreamServerSource (ByWorker popped_of_byWorker)

/-! ### `printer_app` -/

structure Flags where
  targetAddress : String := "localhost:50051"
  streamName : String := ""
  authenticateWithGoogle : Bool := false
  useInsecureChannel : Bool := false
  sslDomainName : String := "aistreams.googleapis.com"
  sslRootCertPath : String := ""
  timeoutInSec : Int32 := 60

def receiverOptions (flags : Flags) : ReceiverOptions where
  connectionOptions :=
    { targetAddress := flags.targetAddress
      sslOptions :=
        { useInsecureChannel := flags.useInsecureChannel
          sslRootCertPath := flags.sslRootCertPath
          sslDomainName := flags.sslDomainName }
      authenticateWithGoogle := flags.authenticateWithGoogle }
  streamName := flags.streamName

/-- The variables of `RunPrinter`, with what it has printed; `ended`: it has returned, or died. -/
structure Printer where
  p : Packet
  eosReason : String
  printed : List Packet
  ended : Option (OrFatal Status)

def Printer.start : Printer where
  p := .default
  eosReason := ""
  printed := []
  ended := none

/-- What `RunPrinter` does with a packet. -/
def Printer.take [Message ControlSignalPacketTypeDescriptor] [Message EosValue] (r : Printer)
    (p : Packet) : Printer :=
  let r := { r with p := p }
  match isEosReason p r.eosReason with
  | .error e => { r with ended := some (.error e) }
  | .ok (true, eosReason) => { r with eosReason := eosReason, ended := some (.ok okStatus) }
  | .ok (false, eosReason) => { r with eosReason := eosReason, printed := r.printed ++ [p] }

/-- What it does when a stretch of its `TryPop` has ended. -/
def Printer.afterTryPop [Message ControlSignalPacketTypeDescriptor] [Message EosValue]
    (timeoutInSec : Int32) :
    Ended Packet → Printer → Printer
  | .done (.tryPop true p), r => r.take p
  | .done (.tryPop false _), r =>
    { r with
      ended := some (.ok (deadlineExceededError
        ("No messages have been received in the last " ++ toString timeoutInSec ++
          " seconds."))) }
  | _, r => r

/-! ### All together -/

/-- The sender and its environment, the server, the receiver and the printer.  The server keeps
the `n`-th packet that is handed to it if `keeps n`; what the receiver reads starts at the position
`first` of what is kept. -/
structure Env (T : Type) where
  sender : PacketSender.Env T
  senderOptions : PacketSender.Options
  keeps : ℕ → Bool
  server : Server
  first : ℕ
  options : ReceiverOptions
  streams : options.receiverMode ≠ .unaryReceive
  held : ℕ → Packet
  now : Option Timestamp
  timeoutInSec : Int32

/-- `sent`: the arguments of `Send`; `handed`: what became of them; `kept`: what the server has. -/
structure State where
  sender : PacketSender
  sent : List Packet
  handed : List Packet
  kept : List Packet
  worker : ReceiverWorker.State
  printer : Printer

section Program

variable {T : Type} (env : Env T)

/-- The stream that the receiver reads. -/
def Env.stream : RpcStream := PacketReceiver.readStream env.options.receiverMode env.server

/-- `Finish` never returns OK: the server does not end the stream, it breaks off. -/
def Env.NeverEnds : Prop := ∀ n, (env.stream.finish n).errorCode ≠ .ok

/-- What the worker's `Receive` returns, call by call. -/
def Env.receiving : ReceiverWorker.Env where
  receive n :=
    let result := PacketReceiver.received env.stream (env.held n) n
    (result.status, result.packet)
  now := env.now

/-- **The receiver that is created returns just that.** -/
theorem calls_receiving (unaryReceive : PacketReceiver → Packet →
      OrFatal (Received × PacketReceiver)) (n : ℕ) : ∃ results r,
    PacketReceiver.calls unaryReceive env.held
      (PacketReceiver.create env.options.receiverMode env.server) n = .ok (results, r) ∧
    results.map (fun result => (result.status, result.packet)) =
      (List.range n).map env.receiving.receive := by
  obtain ⟨r, hcalls, _⟩ := PacketReceiver.calls_eq unaryReceive env.streams env.server env.held n
  refine ⟨_, r, hcalls, ?_⟩
  rw [List.map_map]
  rfl

/-- A `Send`, and what the server keeps of it. -/
def afterSend (s : State) (packet : Packet) : State :=
  let handed := (PacketSender.send env.sender s.sender s.sent.length packet).rpcs.flatMap Rpc.hands
  { s with
    sent := s.sent ++ [packet]
    handed := s.handed ++ handed
    kept := s.kept ++ if env.keeps s.sent.length then handed else [] }

/-- The packet of the next `Read` has arrived, if there is one. -/
def Arrived (s : State) : Prop :=
  ∀ p, env.stream.packets[s.worker.received]? = some p →
    s.kept[env.first + s.worker.received]? = some p

inductive Label
  | send (packet : Packet)
  | worker (l : ReceiverWorker.Label)
  | tryPop
  | release

section Steps

variable [Message ControlSignalPacketTypeDescriptor] [Message EosValue]

/-- The steps of the sender, of the worker, and of the printer, which releases the queue when it has
returned. -/
inductive Step : State → Label → State → Prop
  | send {s : State} (packet : Packet) : Step s (.send packet) (afterSend env s packet)
  | worker {s : State} {l : ReceiverWorker.Label} {worker : ReceiverWorker.State} :
      ByWorker l → (l = .receive → Arrived env s) →
      ReceiverWorker.Step env.receiving s.worker l worker →
      Step s (.worker l) { s with worker := worker }
  | tryPop {s : State} (e : Ended Packet)
      {shared : ProducerConsumerQueue.State ReceiverWorker.Role Packet} :
      s.printer.ended = none → s.worker.consumerHolds = true →
      ProducerConsumerQueue.Step s.worker.shared
        (.run .consumer (.tryPop s.printer.p (ReplayApp.timeoutDuration env.timeoutInSec)) e)
        shared →
      Step s .tryPop
        { s with
          worker := { s.worker with shared := shared }
          printer := s.printer.afterTryPop env.timeoutInSec e }
  | release {s : State} {worker : ReceiverWorker.State} : s.printer.ended ≠ none →
      ReceiverWorker.Step env.receiving s.worker .release worker →
      Step s .release { s with worker := worker }

/-- A sender that was created, a receiver worker that was launched, and the printer before its
loop. -/
def system : System State Label where
  init s := ∃ sender rpcs worker,
    PacketSender.create env.sender env.senderOptions = (.value sender, rpcs) ∧
    ReceiverWorker.makePacketReceiverQueue env.options.bufferCapacity okStatus =
      .ok (okStatus, worker) ∧
    s = ⟨sender, [], [], [], worker, .start⟩
  step := Step env

/-- **The worker runs as it does alone.** -/
def toWorker : Refinement (system env)
    (ReceiverWorker.system env.receiving env.options.bufferCapacity) where
  abs := State.worker
  init := by
    rintro s ⟨sender, rpcs, worker, _, hworker, rfl⟩
    exact hworker
  step := by
    intro s l s' _ h
    cases h with
    | send _ => exact Or.inl rfl
    | worker _ _ hs => exact Or.inr ⟨_, hs⟩
    | tryPop e _ hh hq => exact Or.inr ⟨_, .pop _ _ e hh hq⟩
    | release _ hs => exact Or.inr ⟨_, hs⟩

/-! ### What is sent, and kept -/

/-- What the server has of what was sent. -/
structure Sends (s : State) : Prop where
  writer : s.sender.streamingWriter = !s.sender.options.enableUnaryRpc
  handed : List.Forall₂ SameButTrace s.sent s.handed
  kept : s.kept.Sublist s.handed
  whole : (∀ n, env.keeps n = true) → s.kept = s.handed

omit [Message ControlSignalPacketTypeDescriptor] [Message EosValue] in
theorem sends_afterSend {s : State} (h : Sends env s) (packet : Packet) :
    Sends env (afterSend env s packet) := by
  obtain ⟨hsame, hhands, _⟩ := PacketSender.send_spec env.sender h.writer s.sent.length packet
  refine ⟨h.writer, ?_, ?_, fun hkeeps => ?_⟩
  · refine List.rel_append h.handed ?_
    rw [hhands]
    exact List.Forall₂.cons hsame List.Forall₂.nil
  · refine h.kept.append ?_
    split
    · exact List.Sublist.refl _
    · exact List.nil_sublist _
  · show s.kept ++ (if env.keeps s.sent.length = true then _ else _) = s.handed ++ _
    rw [h.whole hkeeps, if_pos (hkeeps _)]

theorem sends_of_reachable {s : State} (h : (system env).Reachable s) : Sends env s := by
  refine h.invariant (I := Sends env) ?_ ?_
  · rintro s ⟨sender, rpcs, worker, hcreate, _, rfl⟩
    have hopened := PacketSender.opened_of_create env.sender hcreate
    refine ⟨?_, List.Forall₂.nil, List.Sublist.refl _, fun _ => rfl⟩
    show sender.streamingWriter = _
    rw [hopened.writer, hopened.hasOptions]
  · intro s l s' _ ih hs
    cases hs with
    | send packet => exact sends_afterSend env ih packet
    | worker _ _ _ => exact ⟨ih.writer, ih.handed, ih.kept, ih.whole⟩
    | tryPop _ _ _ _ => exact ⟨ih.writer, ih.handed, ih.kept, ih.whole⟩
    | release _ _ => exact ⟨ih.writer, ih.handed, ih.kept, ih.whole⟩

/-! ### What is received -/

/-- What was read had arrived. -/
def Reads (s : State) : Prop :=
  ∀ k < s.worker.received, ∀ p, env.stream.packets[k]? = some p →
    s.kept[env.first + k]? = some p

theorem received_of_step {receiving : ReceiverWorker.Env} {r r' : ReceiverWorker.State}
    {l : ReceiverWorker.Label} (h : ReceiverWorker.Step receiving r l r') :
    r'.received = r.received ∨ l = .receive ∧ r'.received = r.received + 1 := by
  cases h with
  | receive _ => exact Or.inr ⟨rfl, rfl⟩
  | check _ _ => exact Or.inl rfl
  | work _ _ _ _ => exact Or.inl rfl
  | pop _ _ _ _ _ => exact Or.inl rfl
  | wake _ _ => exact Or.inl rfl
  | release _ _ => exact Or.inl rfl

theorem reads_of_reachable {s : State} (h : (system env).Reachable s) : Reads env s := by
  refine h.invariant (I := Reads env) ?_ ?_
  · rintro s ⟨sender, rpcs, worker, _, hworker, rfl⟩ k hk
    obtain ⟨queue, _, rfl⟩ := ReceiverWorker.init_eq hworker
    exact absurd hk (Nat.not_lt_zero k)
  · intro s l s' _ ih hs
    cases hs with
    | send packet =>
      intro k hk p hp
      obtain ⟨hlt, hget⟩ := List.getElem?_eq_some_iff.mp (ih k hk p hp)
      show (s.kept ++ _)[env.first + k]? = some p
      rw [List.getElem?_append_left hlt, List.getElem?_eq_getElem hlt, hget]
    | worker hl harrived hr =>
      intro k hk p hp
      rcases received_of_step hr with hsame | ⟨hreceive, hnext⟩
      · exact ih k (hsame ▸ hk) p hp
      · have hk' : k < s.worker.received + 1 := hnext ▸ hk
        rcases Nat.lt_succ_iff_lt_or_eq.mp hk' with hlt | rfl
        · exact ih k hlt p hp
        · exact harrived hreceive p hp
    | tryPop _ _ _ _ => exact ih
    | release _ hr =>
      intro k hk p hp
      rcases received_of_step hr with hsame | ⟨hreceive, _⟩
      · exact ih k (hsame ▸ hk) p hp
      · cases hreceive

section Stream

omit [Message ControlSignalPacketTypeDescriptor] [Message EosValue]

variable {env}

/-- A `Receive` is OK exactly if there is a packet to be read. -/
theorem receive_ok_iff (hends : env.NeverEnds) (n : ℕ) :
    (env.receiving.receive n).1.ok = true ↔ n < env.stream.packets.length := by
  show (PacketReceiver.received env.stream (env.held n) n).status.ok = true ↔ _
  cases hp : env.stream.packets[n]? with
  | some p =>
    rw [PacketReceiver.received_of_some hp]
    exact iff_of_true rfl (List.getElem?_eq_some_iff.mp hp).1
  | none =>
    rw [PacketReceiver.received_of_none hp]
    refine iff_of_false ?_ (Nat.not_lt.mpr (List.getElem?_eq_none_iff.mp hp))
    simp [PacketReceiver.makeStatus_not_ok (hends _)]

/-- **What the OK calls store is what the stream yields.** -/
theorem okPackets_receiving (hends : env.NeverEnds) (n : ℕ) :
    ReceiverWorker.okPackets env.receiving n = env.stream.packets.take n := by
  induction n with
  | zero => rfl
  | succ n ih =>
    rw [ReceiverWorker.okPackets_succ, ih, List.take_add_one]
    cases hp : env.stream.packets[n]? with
    | some p =>
      rw [if_pos ((receive_ok_iff hends n).mpr (List.getElem?_eq_some_iff.mp hp).1)]
      show _ ++ [(PacketReceiver.received env.stream (env.held n) n).packet] = _
      rw [PacketReceiver.received_of_some hp]
      rfl
    | none =>
      have hlen : ¬ n < env.stream.packets.length :=
        Nat.not_lt.mpr (List.getElem?_eq_none_iff.mp hp)
      rw [if_neg fun hok => hlen ((receive_ok_iff hends n).mp hok)]
      rfl

theorem okPackets_isPrefix (hends : env.NeverEnds) {s : State} (h : Reads env s) :
    ReceiverWorker.okPackets env.receiving s.worker.received <+: s.kept.drop env.first := by
  rw [okPackets_receiving hends, List.prefix_iff_getElem?]
  intro k hk
  rw [List.length_take] at hk
  rw [List.getElem?_drop, List.getElem_take]
  exact h k (by omega) _ (List.getElem?_eq_getElem (by omega))

end Stream

/-! ### What is printed -/

/-- What the printer has made of what it popped. -/
structure Printer.Tracks (r : Printer) (popped : List Packet) : Prop where
  noEos : ∀ p ∈ r.printed, isEos p = false
  running : r.ended = none → popped = r.printed
  returned : ∀ result, r.ended = some result → ∃ status, result = .ok status ∧
    (status = okStatus ∧ (∃ eos, isEos eos = true ∧ popped = r.printed ++ [eos]) ∨
      status.code = .kDeadlineExceeded ∧ popped = r.printed)

theorem Printer.Tracks.take {r : Printer} {popped : List Packet} (h : r.Tracks popped)
    (hr : r.ended = none) (p : Packet) : (r.take p).Tracks (popped ++ [p]) := by
  obtain ⟨reason, hreason⟩ := isEosReason_eq p r.eosReason
  unfold Printer.take
  simp only [hreason]
  cases heos : isEos p with
  | true =>
    refine ⟨h.noEos, nofun, fun result hresult => ?_⟩
    obtain rfl := Option.some.inj hresult
    exact ⟨okStatus, rfl, Or.inl ⟨rfl, p, heos, congrArg (· ++ [p]) (h.running hr)⟩⟩
  | false =>
    refine ⟨fun q hq => ?_, fun _ => congrArg (· ++ [p]) (h.running hr), fun result hresult => ?_⟩
    · rcases List.mem_append.mp hq with hq | hq
      · exact h.noEos q hq
      · rw [List.mem_singleton.mp hq]
        exact heos
    · cases hr.symm.trans hresult

theorem Printer.Tracks.afterTryPop {r : Printer} {popped : List Packet} (h : r.Tracks popped)
    (hr : r.ended = none) (timeoutInSec : Int32) (e : Ended Packet) {elem : Packet}
    {timeout : Duration}
    {q q' : ProducerConsumerQueue.State ReceiverWorker.Role Packet}
    (hq : ProducerConsumerQueue.Step q (.run .consumer (.tryPop elem timeout) e) q') :
    (r.afterTryPop timeoutInSec e).Tracks (popped ++ e.pops) := by
  rcases hq.tryPop_ended with ⟨f, rfl, _⟩ | ⟨rfl, _⟩ | ⟨p, rest, rfl, _, _⟩
  · rw [show (Ended.wait f).pops = [] from rfl, List.append_nil]
    exact h
  · rw [show (Ended.done (.tryPop false elem)).pops = [] from rfl, List.append_nil]
    refine ⟨h.noEos, nofun, fun result hresult => ?_⟩
    obtain rfl := Option.some.inj hresult
    exact ⟨_, rfl, Or.inr ⟨rfl, h.running hr⟩⟩
  · exact h.take hr p

theorem tracks_of_reachable {s : State} (h : (system env).Reachable s) :
    s.printer.Tracks s.worker.shared.popped := by
  refine h.invariant (I := fun s => s.printer.Tracks s.worker.shared.popped) ?_ ?_
  · rintro s ⟨sender, rpcs, worker, _, hworker, rfl⟩
    obtain ⟨queue, _, rfl⟩ := ReceiverWorker.init_eq hworker
    exact ⟨nofun, fun _ => rfl, nofun⟩
  · intro s l s' _ ih hs
    cases hs with
    | send _ => exact ih
    | worker hl _ hr =>
      show s.printer.Tracks _
      rw [popped_of_byWorker hl hr]
      exact ih
    | tryPop e hended _ hq =>
      show Printer.Tracks _ _
      rw [hq.queue_run.2.2.1]
      exact ih.afterTryPop hended env.timeoutInSec e hq
    | release _ hr =>
      cases hr with
      | release _ _ => exact ih

/-! ### From one end to the other -/

/-- What the printer has printed, and how it ended, from what was sent. -/
structure Delivers (s : State) : Prop where
  /-- What is handed over is what was sent, with other trace contexts at most. -/
  handed : List.Forall₂ SameButTrace s.sent s.handed
  kept : s.kept.Sublist s.handed
  whole : (∀ n, env.keeps n = true) → s.kept = s.handed
  /-- What is printed is what is kept from the first position on, without a gap. -/
  printed : s.printer.printed <+: s.kept.drop env.first
  noEos : ∀ p ∈ s.printer.printed, isEos p = false
  /-- The printer ends with an EOS that was sent, or when the stream is over, or late. -/
  ended : ∀ result, s.printer.ended = some result → ∃ status, result = .ok status ∧
    (status = okStatus ∧
        ((∃ eos, isEos eos = true ∧ s.printer.printed ++ [eos] <+: s.kept.drop env.first) ∨
          s.printer.printed = env.stream.packets ∧
            env.stream.packets.length < s.worker.received) ∨
      status.code = .kDeadlineExceeded)

section Ends

variable {env}

theorem worker_reachable {s : State} (h : (system env).Reachable s) :
    (ReceiverWorker.system env.receiving env.options.bufferCapacity).Reachable s.worker :=
  (toWorker env).reachable h

variable [LawfulMessage ControlSignalPacketTypeDescriptor] [LawfulMessage EosValue]

/-- The worker's own EOS comes after all that the stream yields. -/
theorem okPackets_of_eosPackets (hends : env.NeverEnds) {s : State}
    (h : (system env).Reachable s)
    (hne : ReceiverWorker.eosPackets env.receiving s.worker.received ≠ []) :
    ReceiverWorker.okPackets env.receiving s.worker.received = env.stream.packets ∧
      env.stream.packets.length < s.worker.received ∧ ∃ eos, isEos eos = true ∧
        ReceiverWorker.eosPackets env.receiving s.worker.received = [eos] := by
  have hall := ReceiverWorker.allOk_pred_of_reachable (worker_reachable h)
  obtain ⟨n, eos, hn, _, hfail, hmake, heos, hpackets⟩ :=
    ReceiverWorker.eosPackets_ne_nil hall hne
  have hover : env.stream.packets.length ≤ n := by
    rw [← Nat.not_lt, ← receive_ok_iff hends, hfail]
    decide
  refine ⟨?_, by omega, eos, isEos_of_makeEosPacket hmake, heos⟩
  rw [hpackets, okPackets_receiving hends, List.take_of_length_le hover]

/-- What was popped is what the stream yields, or all of that and the worker's own EOS. -/
theorem popped_cases (hends : env.NeverEnds) {s : State} (h : (system env).Reachable s) :
    s.worker.shared.popped <+: s.kept.drop env.first ∨
      ∃ eos, isEos eos = true ∧ s.worker.shared.popped = env.stream.packets ++ [eos] ∧
        env.stream.packets.length < s.worker.received ∧
        env.stream.packets <+: s.kept.drop env.first := by
  have hpopped := ReceiverWorker.popped_isPrefix_of_reachable (worker_reachable h)
  have hprefix := okPackets_isPrefix hends (reads_of_reachable env h)
  by_cases hnone : ReceiverWorker.eosPackets env.receiving s.worker.received = []
  · rw [hnone, List.append_nil] at hpopped
    exact Or.inl (hpopped.trans hprefix)
  · obtain ⟨hpackets, hlen, eos, hiseos, heos⟩ := okPackets_of_eosPackets hends h hnone
    rw [heos] at hpopped
    rcases List.prefix_concat_iff.mp hpopped with hall | hpopped
    · rw [hpackets] at hall hprefix
      exact Or.inr ⟨eos, hiseos, hall, hlen, hprefix⟩
    · exact Or.inl (hpopped.trans hprefix)

omit [LawfulMessage ControlSignalPacketTypeDescriptor] [LawfulMessage EosValue]
  [Message EosValue] in
theorem Printer.Tracks.isPrefix {r : Printer} {popped : List Packet} (h : r.Tracks popped) :
    r.printed <+: popped := by
  cases hended : r.ended with
  | none =>
    rw [h.running hended]
  | some result =>
    obtain ⟨status, _, ⟨_, eos, _, heos⟩ | ⟨_, hall⟩⟩ := h.returned result hended
    · rw [heos]
      exact List.prefix_append _ _
    · rw [hall]

/-- **Nothing but what is kept is printed**, in order and without a gap. -/
theorem printed_isPrefix (hends : env.NeverEnds) {s : State} (h : (system env).Reachable s) :
    s.printer.printed <+: s.kept.drop env.first := by
  have htracks := tracks_of_reachable env h
  rcases popped_cases hends h with hpopped | ⟨eos, hiseos, hpopped, _, hprefix⟩
  · exact htracks.isPrefix.trans hpopped
  · have hprinted := htracks.isPrefix
    rw [hpopped] at hprinted
    rcases List.prefix_concat_iff.mp hprinted with hall | hprinted
    · have hmem : eos ∈ s.printer.printed := by
        rw [hall]
        exact List.mem_append_right _ List.mem_cons_self
      rw [htracks.noEos eos hmem] at hiseos
      cases hiseos
    · exact hprinted.trans hprefix

/-- **Whoever reads a stream gets what was sent**, whatever the sender, the server, the worker and
the printer do in turn: what is printed is a stretch of what is kept of what was sent, without a gap
and in order, and the printer returns OK only at an EOS that was sent, or at the end of the
stream. -/
theorem delivers_of_reachable (hends : env.NeverEnds) {s : State}
    (h : (system env).Reachable s) : Delivers env s := by
  have hsends := sends_of_reachable env h
  have htracks := tracks_of_reachable env h
  refine ⟨hsends.handed, hsends.kept, hsends.whole, printed_isPrefix hends h, htracks.noEos,
    fun result hresult => ?_⟩
  obtain ⟨status, hstatus, ⟨hok, eos, hiseos, hpopped⟩ | ⟨hlate, _⟩⟩ :=
    htracks.returned result hresult
  · refine ⟨status, hstatus, Or.inl ⟨hok, ?_⟩⟩
    rcases popped_cases hends h with hprefix | ⟨own, _, hown, hlen, _⟩
    · rw [hpopped] at hprefix
      exact Or.inl ⟨eos, hiseos, hprefix⟩
    · rw [hpopped] at hown
      exact Or.inr ⟨(List.append_inj' hown rfl).1, hlen⟩
  · exact ⟨status, hstatus, Or.inr hlate⟩

end Ends

end Steps

end Program

/-! ### One packet -/

/-- A network where everything goes well, and a stream that yields one packet before it breaks
off. -/
def onePacket : Env Unit where
  sender :=
    { files := ⟨fun _ => none, fun _ _ => ⟨0, false, false⟩⟩
      createCustomChannel _ := true
      newStub _ := true
      streamingCall := ⟨0, fun _ => (), .ofStatus (unavailableError "")⟩
      sendPackets := true
      write _ := true
      unaryCall _ := ⟨0, fun _ => (), .ofStatus (unavailableError "")⟩
      sendOnePacket _ := (⟨.ok, ""⟩, true)
      opencensus := Trace.lowestIds
      span n := n
      samplers _ _ := none }
  senderOptions :=
    { connectionOptions := { sslOptions := { useInsecureChannel := true } }
      traceProbability := -1 }
  keeps _ := true
  server := ⟨⟨[.default], fun _ => ⟨.unavailable, ""⟩⟩, ⟨[], fun _ => ⟨.unavailable, ""⟩⟩⟩
  first := 0
  options := receiverOptions {}
  streams := by decide
  held _ := .default
  now := some ⟨0, 0⟩
  timeoutInSec := 60

/-- The sender of it. -/
def oneSender : PacketSender where
  options := onePacket.senderOptions
  streamChannel := some (createInsecureGrpcChannel "")
  stub := true
  streamingWriter := true

open WireMessages in
/-- The packet is sent, received, and printed. -/
theorem delivers_onePacket : ∃ s : State, (system onePacket).Reachable s ∧
    s.sent = [.default] ∧ s.printer.printed = [.default] ∧ Delivers onePacket s := by
  obtain ⟨worker, hworker⟩ := ReceiverWorker.exists_makePacketReceiverQueue
    onePacket.options.bufferCapacity (show okStatus.ok = true from rfl)
  obtain ⟨queue, hqueue, rfl⟩ := ReceiverWorker.init_eq hworker
  have hcreate : PacketSender.create onePacket.sender onePacket.senderOptions =
      (.value oneSender, [.sendPackets ⟨[], false, none⟩]) := rfl
  have hstart : (system onePacket).Reachable ⟨oneSender, [], [], [], _, .start⟩ :=
    .init ⟨_, _, _, hcreate, hworker, rfl⟩
  have hsent := hstart.step (Step.send .default)
  have hchecked :=
    hsent.step (Step.worker (l := .check) trivial (by intro h; cases h) (.check none rfl))
  have hread := hchecked.step
    (Step.worker (l := .receive) trivial (fun _ p hp => hp) (.receive rfl))
  obtain ⟨hempty, hcapacity⟩ := ProducerConsumerQueue.create_eq_ok hqueue
  have hplace : queue.isFull = false := by
    have hlen : queue.q.length = 0 := by rw [hempty, List.length_nil]
    have hthree : queue.capacity = 300 := hcapacity
    simp [ProducerConsumerQueue.isFull, hlen, hthree]
  have houtside : ∀ t, (ProducerConsumerQueue.initial ReceiverWorker.Role queue).threads t =
      .outside := fun _ => rfl
  obtain ⟨pushed, hpush⟩ := ProducerConsumerQueue.exists_tryPush (houtside .worker) hplace
    Packet.default (.seconds ReceiverWorker.kDefaultTryPushTimeoutSeconds)
  obtain ⟨popped, hpop, _⟩ := hpush.passes houtside hempty rfl rfl .consumer Packet.default
    (ReplayApp.timeoutDuration 60)
  have hpushed := hread.step (Step.worker (l := .work) trivial (by intro h; cases h)
    (.work _ _ rfl hpush))
  have hprinted := hpushed.step (Step.tryPop _ rfl rfl hpop)
  have hends : onePacket.NeverEnds := by
    intro _ h
    cases h
  exact ⟨_, hprinted, rfl, rfl, delivers_of_reachable hends hprinted⟩

end AIStreams.PrinterApp
