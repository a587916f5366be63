import AIStreams.Gstreamer.TypeUtils
import AIStreams.Util.QueueClient

/-!
# The producer of decoded images

`ImageProducer` and `MakeDecodedReceiverQueue` of `aistreams/cc/decoded_receivers.cc`: the
worker that feeds the decoder, the decoder's callback, and a consumer.  The packet headers
and the images meet again in the callback; the headers come through a queue of their own, the
images through the decoder, which is asked of an environment.

* `carriesMetadata_of_agrees`: exactly when the `k`-th image offered carries the metadata of
  the `k`-th source packet.
* `not_carriesMetadata_firstHeader`: the header of the first packet is never queued.
-/

namespace AIStreams.ImageProducer

open Transition
open ProducerConsumerQueue (Call Ended)

/-! ### The program -/

def kRetrySeconds : ℤ := 1

/-- What is asked of the world outside.  `pull n` is the packet of the `n`-th `TryPop` of the
source queue, if it yields one in time; `decode n` is what the callback is given for the
`n`-th buffer that was fed, at any later time; `now n` is the clock at the `n`-th
`MakePacket`. -/
structure Env where
  sourceQueue : Status
  sourceCapacity : Int32
  timeoutText : String
  pull : ℕ → Option Packet
  createYielder : Bytes → Status
  feed : ℕ → GstreamerBuffer → Status
  decode : ℕ → GstreamerBuffer → List (StatusOr RawImage)
  now : ℕ → Option Timestamp
  eosNow : Option Timestamp

inductive Role
  | worker
  | decoder
  | consumer
  deriving DecidableEq

/-- Where the worker is: at the test of `use_count`, in `PullSourcePacket`, in the `TryPush`
of the header of `p`, about to feed `p`, in `SignalEOS`, in the `Emplace` of an EOS packet, or
past `Work`. -/
inductive Pc
  | top
  | pulling
  | queueing (p : Packet)
  | feeding (p : Packet)
  | signalling (reason : String)
  | emplacing (eos : Packet)
  | ended (status : Status)
  | crashed (e : Fatal)

/-- `callback` is the packet that `PushImagePacket` is about to offer; `pending` what the
decoder has still to give it; `offered` the packets offered so far. -/
structure State where
  dest : ProducerConsumerQueue.State Role Packet
  headers : ProducerConsumerQueue.State Role PacketHeader
  consumerHolds : Bool
  pc : Pc
  callback : Option Packet
  pending : List (StatusOr RawImage)
  pulled : ℕ
  fed : ℕ
  made : ℕ
  offered : List Packet

section Program

variable [Message RawImagePacketTypeDescriptor] [Message GstreamerBufferPacketTypeDescriptor]
  [Message ControlSignalPacketTypeDescriptor] [Message EosValue]

variable (env : Env)

/-- `MakeDecodedReceiverQueue` with `ImageProducer::Initialize`; the value is the state in
which the worker is launched. -/
def makeDecodedReceiverQueue (queueSize : Int32) : OrFatal (StatusOr State) := do
  if env.sourceQueue.ok = false then
    return .ofStatus (unknownError "Failed to create the source packet receiver queue")
  let dest ← ProducerConsumerQueue.create Packet queueSize
  let headers ← ProducerConsumerQueue.create PacketHeader env.sourceCapacity
  match env.pull 0 with
  | none =>
    return .ofStatus (unavailableError "Unable to get the first packet from the server")
  | some p =>
    match ← packetToGstreamerBuffer p with
    | .error _ _ =>
      return .ofStatus (invalidArgumentError
        "Given a server stream that cannot be interpretted/decoded as a sequence of raw images")
    | .value buffer =>
      if (env.createYielder buffer.caps).ok = false then
        return .ofStatus (internalError "Unable to create a GstreamerRawImageYielder")
      if (env.feed 0 buffer).ok = false then
        return .ofStatus (internalError "Unable to successfully feed the first gstreamer buffer")
      return .value
        { dest := ProducerConsumerQueue.initial Role dest
          headers := ProducerConsumerQueue.initial Role headers
          consumerHolds := true
          pc := .top
          callback := none
          pending := env.decode 0 buffer
          pulled := 1
          fed := 1
          made := 0
          offered := [] }

/-- `PushImagePacket` up to its packet; the error is what it returns without one. -/
def formImagePacket (n : ℕ) (rawImage : StatusOr RawImage) : Except Status Packet :=
  match rawImage with
  | .error status _ =>
    if isResourceExhausted status then .error okStatus
    else .error (internalError "Got an unexpected error from the given StatusOr<RawImage>")
  | .value rawImage =>
    match makePacket (env.now n) .rvalue rawImage .default true with
    | .error _ _ => .error (internalError "Unable to create a raw image packet")
    | .value packet => .ok packet

/-- The fields of the frame head's header that are restored. -/
def restoreHeader (frameHead : PacketHeader) (packet : Packet) : Packet :=
  { packet with
    header.timestamp := frameHead.timestamp
    header.addenda := frameHead.addenda
    header.serverMetadata := frameHead.serverMetadata
    header.traceContext := frameHead.traceContext }

/-- The packet after the `TryPop` of the header queue. -/
def afterTryPop (packet : Packet) : Ended PacketHeader → Packet
  | .done (.tryPop true frameHead) => restoreHeader frameHead packet
  | _ => packet

/-- What the body of the loop does with a pulled packet. -/
def afterPull : Option Packet → Pc
  | none =>
    .signalling ("The server has not yielded any source packets within the timeout (" ++
      env.timeoutText ++ ")")
  | some p =>
    if isEos p then .signalling "The raw image stream has ended"
    else if isPacketFlagsSet PacketFlags.kIsFrameHead p then .queueing p
    else .feeding p

/-- The end of `Feed`.  When it fails, the message is that of the status of the packet, which
is OK. -/
def afterFeed (p : Packet) (s : State) : State :=
  match packetToGstreamerBuffer p with
  | .error e => { s with pc := .crashed e }
  | .ok (.error _ _) => { s with pc := .signalling okStatus.errorMessage }
  | .ok (.value buffer) =>
    if (env.feed s.fed buffer).ok = false then { s with pc := .signalling okStatus.errorMessage }
    else { s with pc := .top, fed := s.fed + 1, pending := s.pending ++ env.decode s.fed buffer }

/-- `PushEosPacket`. -/
def pushEosPacket (reason : String) : Pc :=
  match makeEosPacket env.eosNow reason with
  | .error _ _ => .ended (internalError "Couldn't create an EOS packet")
  | .value eos => .emplacing eos

/-- The call of the destination queue that the worker is in. -/
def Pc.destCall : Pc → Option (Call Packet)
  | .emplacing eos => some (.emplace eos)
  | _ => none

/-- The call of the header queue that the worker is in. -/
def Pc.headerCall : Pc → Option (Call PacketHeader)
  | .queueing p => some (.tryPush p.header (.seconds kRetrySeconds))
  | _ => none

/-- Where the worker goes when a stretch of its `Emplace` has ended. -/
def Pc.afterEmplace : Pc → Ended Packet → Pc
  | .emplacing _, .done .emplace => .ended okStatus
  | pc, _ => pc

/-- Where the worker goes when a stretch of its `TryPush` has ended: a push that has timed
out is tried again. -/
def Pc.afterTryPush : Pc → Ended PacketHeader → Pc
  | .queueing p, .done (.tryPush true _) => .feeding p
  | pc, _ => pc

inductive Label
  | check
  | pull
  | push
  | feed
  | signalEos
  | emplace
  | discard
  | emit
  | offer
  | pop
  | wakeDest (t : Role)
  | wakeHeaders (t : Role)
  | release

/-- The steps of the worker, of the decoder's callback, of the consumer and of the clock.
`SignalEOS` waits for the callback and drops what the decoder has not given it; the status that
it then hands to the callback itself has no effect. -/
inductive Step : State → Label → State → Prop
  | check {s : State} : s.pc = .top →
      Step s .check { s with pc := if s.consumerHolds then .pulling else .signalling "" }
  | pull {s : State} : s.pc = .pulling →
      Step s .pull { s with pc := afterPull env (env.pull s.pulled), pulled := s.pulled + 1 }
  | push {s : State} (c : Call PacketHeader) (e : Ended PacketHeader)
      {headers : ProducerConsumerQueue.State Role PacketHeader} : s.pc.headerCall = some c →
      ProducerConsumerQueue.Step s.headers (.run .worker c e) headers →
      Step s .push { s with headers := headers, pc := s.pc.afterTryPush e }
  | feed {s : State} (p : Packet) : s.pc = .feeding p → Step s .feed (afterFeed env p s)
  | signalEos {s : State} (reason : String) : s.pc = .signalling reason → s.callback = none →
      Step s .signalEos { s with pc := pushEosPacket env reason, pending := [] }
  | emplace {s : State} (c : Call Packet) (e : Ended Packet)
      {dest : ProducerConsumerQueue.State Role Packet} : s.pc.destCall = some c →
      ProducerConsumerQueue.Step s.dest (.run .worker c e) dest →
      Step s .emplace { s with dest := dest, pc := s.pc.afterEmplace e }
  | discard {s : State} (v : StatusOr RawImage) (rest : List (StatusOr RawImage))
      (status : Status) : s.callback = none → s.pending = v :: rest →
      formImagePacket env s.made v = .error status →
      Step s .discard { s with
        pending := rest, made := if v.ok then s.made + 1 else s.made }
  | emit {s : State} (v : StatusOr RawImage) (rest : List (StatusOr RawImage)) (packet : Packet)
      (e : Ended PacketHeader) {headers : ProducerConsumerQueue.State Role PacketHeader} :
      s.callback = none → s.pending = v :: rest → formImagePacket env s.made v = .ok packet →
      ProducerConsumerQueue.Step s.headers (.run .decoder (.tryPop .default .zero) e) headers →
      Step s .emit { s with
        headers := headers
        callback := some (afterTryPop packet e)
        pending := rest
        made := s.made + 1 }
  | offer {s : State} (packet : Packet) (e : Ended Packet)
      {dest : ProducerConsumerQueue.State Role Packet} : s.callback = some packet →
      ProducerConsumerQueue.Step s.dest (.run .decoder (.tryEmplace packet) e) dest →
      Step s .offer { s with
        dest := dest, callback := none, offered := s.offered ++ [packet] }
  | pop {s : State} (elem : Packet) (timeout : Duration) (e : Ended Packet)
      {dest : ProducerConsumerQueue.State Role Packet} : s.consumerHolds = true →
      ProducerConsumerQueue.Step s.dest (.run .consumer (.tryPop elem timeout) e) dest →
      Step s .pop { s with dest := dest }
  | wakeDest {s : State} (t : Role) {dest : ProducerConsumerQueue.State Role Packet} :
      ProducerConsumerQueue.Step s.dest (.wake t) dest →
      Step s (.wakeDest t) { s with dest := dest }
  | wakeHeaders {s : State} (t : Role)
      {headers : ProducerConsumerQueue.State Role PacketHeader} :
      ProducerConsumerQueue.Step s.headers (.wake t) headers →
      Step s (.wakeHeaders t) { s with headers := headers }
  | release {s : State} : s.consumerHolds = true → s.dest.threads .consumer = .outside →
      Step s .release { s with consumerHolds := false }

/-- The worker and the decoder that `MakeDecodedReceiverQueue` leaves running, and a
consumer. -/
def system (queueSize : Int32) : System State Label where
  init s := makeDecodedReceiverQueue env queueSize = .ok (.value s)
  step := Step env

variable {env}

omit [Message ControlSignalPacketTypeDescriptor] [Message EosValue] in
/-- The state in which the worker is launched: the first packet was fed, and its header was
not queued. -/
theorem init_eq {queueSize : Int32} {s : State}
    (h : makeDecodedReceiverQueue env queueSize = .ok (.value s)) :
    ∃ dest headers buffer, ProducerConsumerQueue.create Packet queueSize = .ok dest ∧
      ProducerConsumerQueue.create PacketHeader env.sourceCapacity = .ok headers ∧
      (env.pull 0).isSome ∧
      s = ⟨ProducerConsumerQueue.initial Role dest, ProducerConsumerQueue.initial Role headers,
        true, .top, none, env.decode 0 buffer, 1, 1, 0, []⟩ := by
  unfold makeDecodedReceiverQueue at h
  split at h
  · exact absurd (Except.ok.inj h) (StatusOr.ofStatus_ne_value _ s)
  · obtain ⟨dest, hdest, h⟩ := OrFatal.of_bind_eq_ok h
    obtain ⟨headers, hheaders, h⟩ := OrFatal.of_bind_eq_ok h
    split at h
    · exact absurd (Except.ok.inj h) (StatusOr.ofStatus_ne_value _ s)
    · rename_i p hp
      obtain ⟨r, _, h⟩ := OrFatal.of_bind_eq_ok h
      split at h
      · exact absurd (Except.ok.inj h) (StatusOr.ofStatus_ne_value _ s)
      · rename_i buffer _
        split at h
        · exact absurd (Except.ok.inj h) (StatusOr.ofStatus_ne_value _ s)
        · split at h
          · exact absurd (Except.ok.inj h) (StatusOr.ofStatus_ne_value _ s)
          · cases h
            exact ⟨dest, headers, buffer, hdest, hheaders, by rw [hp]; rfl, rfl⟩

/-! ### The two queues -/

omit [Message ControlSignalPacketTypeDescriptor] [Message EosValue] in
theorem afterFeed_queues (p : Packet) (s : State) : (afterFeed env p s).dest = s.dest ∧
    (afterFeed env p s).headers = s.headers := by
  unfold afterFeed
  split
  · exact ⟨rfl, rfl⟩
  · exact ⟨rfl, rfl⟩
  · split
    · exact ⟨rfl, rfl⟩
    · exact ⟨rfl, rfl⟩

variable (env)

/-- **Every step is a step of the destination queue, or leaves it alone.** -/
def toDest (queueSize : Int32) : Refinement (system env queueSize)
    (ProducerConsumerQueue.system Role Packet queueSize) where
  abs := State.dest
  init := by
    intro s h
    obtain ⟨dest, headers, buffer, hdest, _, _, rfl⟩ := init_eq h
    exact ⟨dest, hdest, rfl⟩
  step := by
    intro s l s' _ h
    cases h with
    | check _ => exact Or.inl rfl
    | pull _ => exact Or.inl rfl
    | push _ _ _ _ => exact Or.inl rfl
    | feed p _ => exact Or.inl (afterFeed_queues p s).1
    | signalEos _ _ _ => exact Or.inl rfl
    | emplace _ _ _ hq => exact Or.inr ⟨_, hq⟩
    | discard _ _ _ _ _ _ => exact Or.inl rfl
    | emit _ _ _ _ _ _ _ _ => exact Or.inl rfl
    | offer _ _ _ hq => exact Or.inr ⟨_, hq⟩
    | pop _ _ _ _ hq => exact Or.inr ⟨_, hq⟩
    | wakeDest _ hq => exact Or.inr ⟨_, hq⟩
    | wakeHeaders _ _ => exact Or.inl rfl
    | release _ _ => exact Or.inl rfl

/-- **Every step is a step of the header queue, or leaves it alone.** -/
def toHeaders (queueSize : Int32) : Refinement (system env queueSize)
    (ProducerConsumerQueue.system Role PacketHeader env.sourceCapacity) where
  abs := State.headers
  init := by
    intro s h
    obtain ⟨dest, headers, buffer, _, hheaders, _, rfl⟩ := init_eq h
    exact ⟨headers, hheaders, rfl⟩
  step := by
    intro s l s' _ h
    cases h with
    | check _ => exact Or.inl rfl
    | pull _ => exact Or.inl rfl
    | push _ _ _ hq => exact Or.inr ⟨_, hq⟩
    | feed p _ => exact Or.inl (afterFeed_queues p s).2
    | signalEos _ _ _ => exact Or.inl rfl
    | emplace _ _ _ _ => exact Or.inl rfl
    | discard _ _ _ _ _ _ => exact Or.inl rfl
    | emit _ _ _ _ _ _ _ hq => exact Or.inr ⟨_, hq⟩
    | offer _ _ _ _ => exact Or.inl rfl
    | pop _ _ _ _ _ => exact Or.inl rfl
    | wakeDest _ _ => exact Or.inl rfl
    | wakeHeaders _ hq => exact Or.inr ⟨_, hq⟩
    | release _ _ => exact Or.inl rfl

end Program

/-! ### Headers and images -/

section Headers

variable {env : Env}

theorem destCall_eq_some {pc : Pc} {c : Call Packet} (hc : pc.destCall = some c) :
    ∃ eos, pc = .emplacing eos ∧ c = .emplace eos := by
  cases pc <;> cases hc
  exact ⟨_, rfl, rfl⟩

theorem headerCall_eq_some {pc : Pc} {c : Call PacketHeader} (hc : pc.headerCall = some c) :
    ∃ p, pc = .queueing p ∧ c = .tryPush p.header (.seconds kRetrySeconds) := by
  cases pc <;> cases hc
  exact ⟨_, rfl, rfl⟩

/-- The fields that `PushImagePacket` restores. -/
def SameMetadata (h h' : PacketHeader) : Prop :=
  h.timestamp = h'.timestamp ∧ h.addenda = h'.addenda ∧
    h.serverMetadata = h'.serverMetadata ∧ h.traceContext = h'.traceContext

theorem sameMetadata_restoreHeader (frameHead : PacketHeader) (packet : Packet) :
    SameMetadata (restoreHeader frameHead packet).header frameHead := ⟨rfl, rfl, rfl, rfl⟩

theorem SameMetadata.trans {h h' h'' : PacketHeader} (hs : SameMetadata h h')
    (hs' : SameMetadata h' h'') : SameMetadata h h'' :=
  ⟨hs.1.trans hs'.1, hs.2.1.trans hs'.2.1, hs.2.2.1.trans hs'.2.2.1, hs.2.2.2.trans hs'.2.2.2⟩

/-- The fields as `MakePacket` leaves them, the clock showing `now`. -/
def HasFreshMetadata (now : Option Timestamp) (h : PacketHeader) : Prop :=
  now = some h.timestamp ∧ h.addenda = PacketHeader.default.addenda ∧
    h.serverMetadata = PacketHeader.default.serverMetadata ∧
    h.traceContext = PacketHeader.default.traceContext

theorem HasFreshMetadata.same {now : Option Timestamp} {h h' : PacketHeader}
    (hf : HasFreshMetadata now h) (hf' : HasFreshMetadata now h') : SameMetadata h h' :=
  ⟨Option.some.inj (hf.1.symm.trans hf'.1), hf.2.1.trans hf'.2.1.symm,
    hf.2.2.1.trans hf'.2.2.1.symm, hf.2.2.2.trans hf'.2.2.2.symm⟩

theorem HasFreshMetadata.of_same {now : Option Timestamp} {h h' : PacketHeader}
    (hf : HasFreshMetadata now h) (hs : SameMetadata h h') : HasFreshMetadata now h' :=
  ⟨hf.1.trans (congrArg some hs.1), hs.2.1.symm.trans hf.2.1, hs.2.2.1.symm.trans hf.2.2.1,
    hs.2.2.2.symm.trans hf.2.2.2⟩

theorem hasFreshMetadata_makePacket [Message RawImagePacketTypeDescriptor] {now : Option Timestamp}
    {rawImage : RawImage} {packet : Packet}
    (h : makePacket now .rvalue rawImage .default true = .value packet) :
    HasFreshMetadata now packet.header := by
  cases now with
  | none =>
    have herror : StatusOr.ofStatus (unknownError "clock_gettime failed") = .value packet := h
    exact absurd herror (StatusOr.ofStatus_ne_value _ packet)
  | some t =>
    cases h
    exact ⟨rfl, rfl, rfl, rfl⟩

/-- The packets that `PushImagePacket` has made, the one it is about to offer included. -/
def State.images (s : State) : List Packet := s.offered ++ s.callback.toList

/-- The `k`-th image packet offered carries the metadata of the `k`-th source packet. -/
def CarriesMetadata (env : Env) (s : State) : Prop :=
  ∀ k packet, s.offered[k]? = some packet →
    ∃ p, env.pull k = some p ∧ SameMetadata packet.header p.header

/-- While no callback has found the header queue empty: when the callback pops a header, the
source packets `k` and `k + 1` carry the same metadata, `k` being the number of images before
this one; and when it finds the queue empty, packet `k` carries what `MakePacket` puts into the
image's own header. -/
def Agrees (env : Env) (s : State) (l : Label) : Prop :=
  l = .emit → s.headers.popped.length = s.offered.length →
    match s.headers.queue.q with
    | _ :: _ => ∀ p p', env.pull s.offered.length = some p →
        env.pull (s.offered.length + 1) = some p' → SameMetadata p'.header p.header
    | [] => ∀ p, env.pull s.offered.length = some p → HasFreshMetadata (env.now s.made) p.header

/-- How far the worker has come with queueing headers. -/
def Pc.Queued (env : Env) (s : State) : Pc → Prop
  | .top => s.pulled = s.headers.accepted.length + 1 ∧ s.fed ≤ s.headers.accepted.length + 1
  | .pulling => s.pulled = s.headers.accepted.length + 1 ∧ s.fed ≤ s.headers.accepted.length + 1
  | .queueing p => s.pulled = s.headers.accepted.length + 2 ∧
      s.fed ≤ s.headers.accepted.length + 1 ∧ env.pull (s.headers.accepted.length + 1) = some p
  | .feeding _ => s.pulled = s.headers.accepted.length + 1 ∧ s.fed ≤ s.headers.accepted.length
  | _ => s.fed ≤ s.headers.accepted.length + 1

/-- **The invariant.**  The header queue has accepted the headers of the packets from the
second one on, in order; of the images made, all but at most one have popped a header; and an
image that is pending has had its frame fed. -/
structure Inv (env : Env) (s : State) : Prop where
  first : (env.pull 0).isSome
  accepted : ∀ i h, s.headers.accepted[i]? = some h →
    ∃ p, env.pull (i + 1) = some p ∧ p.header = h
  queued : s.pc.Queued env s
  popped : s.headers.popped.length ≤ s.images.length ∧
    s.images.length ≤ s.headers.popped.length + 1
  pending : s.images.length + s.pending.length ≤ s.fed
  isImage : ∀ v ∈ s.pending, v.ok = true
  carries : ∀ k packet, s.images[k]? = some packet →
    ∃ p, env.pull k = some p ∧ SameMetadata packet.header p.header

theorem Inv.carriesMetadata {s : State} (h : Inv env s) : CarriesMetadata env s := by
  intro k packet hk
  refine h.carries k packet ?_
  rw [State.images, List.getElem?_append_left (List.getElem?_eq_some_iff.mp hk).1]
  exact hk

theorem Pc.Queued.fed {s : State} {pc : Pc} (h : pc.Queued env s) :
    s.fed ≤ s.headers.accepted.length + 1 := by
  cases pc with
  | top => exact h.2
  | pulling => exact h.2
  | queueing p => exact h.2.1
  | feeding p => exact Nat.le_succ_of_le h.2
  | signalling _ => exact h
  | emplacing _ => exact h
  | ended _ => exact h
  | crashed _ => exact h

theorem Inv.pull_some {s : State} (h : Inv env s) {k : ℕ} (hk : k < s.fed) :
    ∃ p, env.pull k = some p := by
  cases k with
  | zero => exact Option.isSome_iff_exists.mp h.first
  | succ k =>
    have hfed := h.queued.fed
    obtain ⟨p, hp, _⟩ := h.accepted k _ (List.getElem?_eq_getElem (by omega))
    exact ⟨p, hp⟩

/-- A step of the worker alone. -/
theorem Inv.goTo {s : State} (h : Inv env s) {pc : Pc} (pulled : ℕ)
    (hq : pc.Queued env { s with pulled := pulled }) :
    Inv env { s with pc := pc, pulled := pulled } :=
  ⟨h.first, h.accepted, hq, h.popped, h.pending, h.isImage, h.carries⟩

theorem inv_check {s : State} (h : Inv env s) (hp : s.pc = .top) :
    Inv env { s with pc := if s.consumerHolds then .pulling else .signalling "" } := by
  have hq := h.queued
  rw [hp] at hq
  refine h.goTo s.pulled ?_
  cases s.consumerHolds with
  | true => exact hq
  | false => exact hq.2

/-- The header that is queued is that of the packet in the worker's hand. -/
theorem inv_push {s : State} (h : Inv env s) {c : Call PacketHeader} {e : Ended PacketHeader}
    {headers : ProducerConsumerQueue.State Role PacketHeader} (hc : s.pc.headerCall = some c)
    (hs : ProducerConsumerQueue.Step s.headers (.run .worker c e) headers) :
    Inv env { s with headers := headers, pc := s.pc.afterTryPush e } := by
  obtain ⟨p, hpc, rfl⟩ := headerCall_eq_some hc
  rw [hpc] at hc ⊢
  have hq := h.queued
  rw [hpc] at hq
  obtain ⟨hpulled, hfed, hpull⟩ := hq
  obtain ⟨_, hacc, hpop, _⟩ := hs.queue_run
  have hunchanged : headers.accepted = s.headers.accepted → headers.popped = s.headers.popped →
      Inv env { s with headers := headers, pc := .queueing p } := by
    intro ha hpp
    refine ⟨h.first, ?_, ?_, ?_, h.pending, h.isImage, h.carries⟩
    · rw [ha]
      exact h.accepted
    · show _ ∧ _ ∧ _
      rw [ha]
      exact ⟨hpulled, hfed, hpull⟩
    · rw [hpp]
      exact h.popped
  rcases hs.tryPush_ended with ⟨f, rfl, _⟩ | ⟨rfl, _⟩ | ⟨rfl, _⟩
  · exact hunchanged (hacc.trans (List.append_nil _)) (hpop.trans (List.append_nil _))
  · exact hunchanged (hacc.trans (List.append_nil _)) (hpop.trans (List.append_nil _))
  · have ha : headers.accepted = s.headers.accepted ++ [p.header] := hacc
    have hlen : headers.accepted.length = s.headers.accepted.length + 1 := by
      rw [ha, List.length_append, List.length_singleton]
    refine ⟨h.first, fun i hd hi => ?_, ?_, ?_, h.pending, h.isImage, h.carries⟩
    · rw [show headers.accepted[i]? = (s.headers.accepted ++ [p.header])[i]? by rw [ha]] at hi
      by_cases hlt : i < s.headers.accepted.length
      · rw [List.getElem?_append_left hlt] at hi
        exact h.accepted i hd hi
      · rw [List.getElem?_append_right (by omega)] at hi
        obtain ⟨hzero, hhd⟩ := List.getElem?_eq_some_iff.mp hi
        have hi' : i = s.headers.accepted.length := by
          rw [List.length_singleton] at hzero
          omega
        refine ⟨p, by rw [hi']; exact hpull, ?_⟩
        rw [← hhd, List.getElem_singleton]
    · show s.pulled = headers.accepted.length + 1 ∧ s.fed ≤ headers.accepted.length
      omega
    · rw [show headers.popped = s.headers.popped from hpop.trans (List.append_nil _)]
      exact h.popped

theorem inv_discard {s : State} (h : Inv env s) {v : StatusOr RawImage}
    {rest : List (StatusOr RawImage)} (hp : s.pending = v :: rest) (made : ℕ) :
    Inv env { s with pending := rest, made := made } := by
  refine ⟨h.first, h.accepted, ?_, h.popped, ?_, fun w hw => ?_, h.carries⟩
  · have hq := h.queued
    cases hpc : s.pc <;> rw [hpc] at hq <;> exact hq
  · have := h.pending
    rw [hp, List.length_cons] at this
    show s.images.length + rest.length ≤ s.fed
    omega
  · exact h.isImage w (by rw [hp]; exact List.mem_cons_of_mem v hw)

theorem inv_offer {s : State} (h : Inv env s) {packet : Packet} (hc : s.callback = some packet)
    (dest : ProducerConsumerQueue.State Role Packet) :
    Inv env { s with dest := dest, callback := none, offered := s.offered ++ [packet] } := by
  have himages : s.images = s.offered ++ [packet] ++ [] := by
    rw [State.images, hc, List.append_nil]
    rfl
  refine ⟨h.first, h.accepted, ?_, ?_, ?_, h.isImage, ?_⟩
  · have hq := h.queued
    cases hpc : s.pc <;> rw [hpc] at hq <;> exact hq
  · have := h.popped
    rw [himages] at this
    exact this
  · have := h.pending
    rw [himages] at this
    exact this
  · have := h.carries
    rw [himages] at this
    exact this

/-- A step of the destination queue that is not an offer, or of the consumer. -/
theorem Inv.frame {s : State} (h : Inv env s) (dest : ProducerConsumerQueue.State Role Packet)
    (consumerHolds : Bool) : Inv env { s with dest := dest, consumerHolds := consumerHolds } := by
  refine ⟨h.first, h.accepted, ?_, h.popped, h.pending, h.isImage, h.carries⟩
  have hq := h.queued
  cases hpc : s.pc <;> rw [hpc] at hq <;> exact hq

theorem inv_emplace {s : State} (h : Inv env s) {c : Call Packet} (e : Ended Packet)
    (dest : ProducerConsumerQueue.State Role Packet) (hc : s.pc.destCall = some c) :
    Inv env { s with dest := dest, pc := s.pc.afterEmplace e } := by
  obtain ⟨eos, hpc, _⟩ := destCall_eq_some hc
  refine ⟨h.first, h.accepted, ?_, h.popped, h.pending, h.isImage, h.carries⟩
  have hfed := h.queued.fed
  show (s.pc.afterEmplace e).Queued env _
  rw [hpc]
  unfold Pc.afterEmplace
  split
  · exact hfed
  · exact hfed

theorem inv_wakeHeaders {s : State} (h : Inv env s) {t : Role}
    {headers : ProducerConsumerQueue.State Role PacketHeader}
    (hs : ProducerConsumerQueue.Step s.headers (.wake t) headers) :
    Inv env { s with headers := headers } := by
  obtain ⟨_, hacc, hpop⟩ := hs.queue_wake
  refine ⟨h.first, ?_, ?_, ?_, h.pending, h.isImage, h.carries⟩
  · rw [hacc]
    exact h.accepted
  · have hq := h.queued
    cases hpc : s.pc <;> rw [hpc] at hq <;> simp only [Pc.Queued, hacc] <;> exact hq
  · rw [hpop]
    exact h.popped

end Headers

/-! ### Images carry the metadata of their frames -/

section Metadata

variable {env : Env}

variable [Message RawImagePacketTypeDescriptor]

/-- What the decoder's callback yields for an image has the header that `MakePacket` gave it. -/
theorem hasFreshMetadata_formImagePacket {n : ℕ} {v : StatusOr RawImage} {packet : Packet}
    (h : formImagePacket env n v = .ok packet) : HasFreshMetadata (env.now n) packet.header := by
  cases v with
  | error status _ =>
    simp only [formImagePacket] at h
    split at h <;> cases h
  | value rawImage =>
    rw [formImagePacket] at h
    split at h
    · cases h
    · rename_i made hmade
      cases h
      exact hasFreshMetadata_makePacket hmade

omit [Message RawImagePacketTypeDescriptor] in
/-- A packet with the metadata of its frame is the next to be offered, if the callback has
popped a header for it, or was one ahead. -/
theorem Inv.make {s : State} (h : Inv env s) {v : StatusOr RawImage}
    {rest : List (StatusOr RawImage)} (hnone : s.callback = none) (hp : s.pending = v :: rest)
    {headers : ProducerConsumerQueue.State Role PacketHeader}
    (hacc : headers.accepted = s.headers.accepted) {made p : Packet}
    (hpull : env.pull s.offered.length = some p) (hsame : SameMetadata made.header p.header)
    (hlow : s.offered.length ≤ headers.popped.length)
    (hhigh : headers.popped.length ≤ s.offered.length + 1) :
    Inv env { s with
      headers := headers, callback := some made, pending := rest, made := s.made + 1 } := by
  have himages : s.images = s.offered := by
    rw [State.images, hnone]
    exact List.append_nil _
  have hpending := h.pending
  rw [himages, hp, List.length_cons] at hpending
  refine ⟨h.first, ?_, ?_, ?_, ?_, fun w hw => ?_, fun k packet hk => ?_⟩
  · rw [hacc]
    exact h.accepted
  · have hq := h.queued
    cases hpc : s.pc <;> rw [hpc] at hq <;> simp only [Pc.Queued, hacc] <;> exact hq
  · simp only [State.images, Option.toList_some, List.length_append, List.length_singleton]
    omega
  · simp only [State.images, Option.toList_some, List.length_append, List.length_singleton]
    omega
  · exact h.isImage w (by rw [hp]; exact List.mem_cons_of_mem v hw)
  · have hk' : (s.offered ++ [made])[k]? = some packet := hk
    by_cases hlt : k < s.offered.length
    · rw [List.getElem?_append_left hlt] at hk'
      exact h.carries k packet (by rw [himages]; exact hk')
    · rw [List.getElem?_append_right (by omega)] at hk'
      obtain ⟨hzero, hpacket⟩ := List.getElem?_eq_some_iff.mp hk'
      rw [List.length_singleton] at hzero
      rw [List.getElem_singleton] at hpacket
      rw [show k = s.offered.length by omega, ← hpacket]
      exact ⟨p, hpull, hsame⟩

/-- An image is made: what it has to carry is in the header that it pops, if all images so far
have popped one, by agreement with the packet before it. -/
theorem inv_emit {s : State} (h : Inv env s)
    (hhist : s.headers.popped ++ s.headers.queue.q = s.headers.accepted)
    (hagrees : Agrees env s .emit) {v : StatusOr RawImage} {rest : List (StatusOr RawImage)}
    {packet : Packet} {e : Ended PacketHeader}
    {headers : ProducerConsumerQueue.State Role PacketHeader} (hnone : s.callback = none)
    (hp : s.pending = v :: rest) (hform : formImagePacket env s.made v = .ok packet)
    (hs : ProducerConsumerQueue.Step s.headers (.run .decoder (.tryPop .default .zero) e)
      headers) :
    Inv env { s with
      headers := headers
      callback := some (afterTryPop packet e)
      pending := rest
      made := s.made + 1 } := by
  have himages : s.images = s.offered := by
    rw [State.images, hnone]
    exact List.append_nil _
  obtain ⟨hle, hge⟩ := h.popped
  rw [himages] at hle hge
  have hpending := h.pending
  rw [himages, hp, List.length_cons] at hpending
  have hfed := h.queued.fed
  obtain ⟨_, hacc, hpop, _⟩ := hs.queue_run
  have hacc' : headers.accepted = s.headers.accepted := by
    rw [hacc]
    exact List.append_nil _
  obtain ⟨p, hpull⟩ := h.pull_some (show s.offered.length < s.fed by omega)
  have hlen : s.headers.popped.length + s.headers.queue.q.length = s.headers.accepted.length := by
    rw [← hhist, List.length_append]
  have hempty : s.headers.queue.q = [] → e.pops = [] → afterTryPop packet e = packet →
      Inv env { s with
        headers := headers
        callback := some (afterTryPop packet e)
        pending := rest
        made := s.made + 1 } := by
    intro hq hpops hafter
    rw [hpops, List.append_nil] at hpop
    rw [hq, List.length_nil] at hlen
    have hall : s.headers.popped.length = s.offered.length := by omega
    have hfresh := hagrees rfl hall
    rw [hq] at hfresh
    rw [hafter]
    exact h.make hnone hp hacc' hpull
      ((hasFreshMetadata_formImagePacket hform).same (hfresh p hpull))
      (by rw [hpop, hall])
      (by rw [hpop]; omega)
  rcases hs.tryPop_ended with ⟨f, rfl, hq⟩ | ⟨rfl, hq⟩ | ⟨frameHead, tail, rfl, hq, _⟩
  · exact hempty hq rfl rfl
  · exact hempty hq rfl rfl
  · have hpop' : headers.popped.length = s.headers.popped.length + 1 := by
      rw [hpop, List.length_append]
      rfl
    have hget : s.headers.accepted[s.headers.popped.length]? = some frameHead := by
      rw [← hhist, hq, List.getElem?_append_right (Nat.le_refl _), Nat.sub_self]
      rfl
    obtain ⟨p', hpull', hheader⟩ := h.accepted _ _ hget
    refine h.make hnone hp hacc' hpull
      (SameMetadata.trans (sameMetadata_restoreHeader frameHead packet) ?_) (by omega) (by omega)
    rw [← hheader]
    by_cases hall : s.headers.popped.length = s.offered.length
    · have hnext := hagrees rfl hall
      rw [hq] at hnext
      rw [hall] at hpull'
      exact hnext p p' hpull hpull'
    · rw [show s.headers.popped.length + 1 = s.offered.length by omega, hpull] at hpull'
      rw [Option.some.inj hpull']
      exact ⟨rfl, rfl, rfl, rfl⟩

/-- What the next image carries shows whether the condition was met. -/
theorem agrees_of_sameMetadata {s : State} (h : Inv env s)
    (hhist : s.headers.popped ++ s.headers.queue.q = s.headers.accepted)
    {v : StatusOr RawImage} {packet : Packet} {e : Ended PacketHeader}
    {headers : ProducerConsumerQueue.State Role PacketHeader}
    (hform : formImagePacket env s.made v = .ok packet)
    (hs : ProducerConsumerQueue.Step s.headers (.run .decoder (.tryPop .default .zero) e) headers)
    (hsame : ∀ p, env.pull s.offered.length = some p →
      SameMetadata (afterTryPop packet e).header p.header) : Agrees env s .emit := by
  intro _ hall
  have hempty : s.headers.queue.q = [] → afterTryPop packet e = packet →
      match s.headers.queue.q with
      | _ :: _ => ∀ p p', env.pull s.offered.length = some p →
          env.pull (s.offered.length + 1) = some p' → SameMetadata p'.header p.header
      | [] => ∀ p, env.pull s.offered.length = some p →
          HasFreshMetadata (env.now s.made) p.header := by
    intro hq hafter
    rw [hq]
    intro p hpull
    rw [hafter] at hsame
    exact (hasFreshMetadata_formImagePacket hform).of_same (hsame p hpull)
  rcases hs.tryPop_ended with ⟨f, rfl, hq⟩ | ⟨rfl, hq⟩ | ⟨frameHead, tail, rfl, hq, _⟩
  · exact hempty hq rfl
  · exact hempty hq rfl
  · rw [hq]
    intro p p' hpull hpull'
    have hget : s.headers.accepted[s.offered.length]? = some frameHead := by
      rw [← hall, ← hhist, hq, List.getElem?_append_right (Nat.le_refl _), Nat.sub_self]
      rfl
    obtain ⟨p'', hpull'', hheader⟩ := h.accepted _ _ hget
    rw [hpull'] at hpull''
    rw [Option.some.inj hpull'', hheader]
    exact hsame p hpull

variable [Message GstreamerBufferPacketTypeDescriptor]
  [Message ControlSignalPacketTypeDescriptor]

/-- Every source packet but an EOS is a frame head, and the decoder yields one image for each
buffer that it is fed. -/
structure FrameByFrame (env : Env) : Prop where
  frameHead : ∀ n p, env.pull n = some p → isEos p = false →
    isPacketFlagsSet PacketFlags.kIsFrameHead p = true
  oneImage : ∀ n buffer, ∃ rawImage, env.decode n buffer = [.value rawImage]

theorem inv_initial (hframe : FrameByFrame env) {queueSize : Int32} {s : State}
    (h : makeDecodedReceiverQueue env queueSize = .ok (.value s)) : Inv env s := by
  obtain ⟨dest, headers, buffer, _, _, hpull, rfl⟩ := init_eq h
  obtain ⟨rawImage, hdecode⟩ := hframe.oneImage 0 buffer
  refine ⟨hpull, fun i h hi => ?_, ⟨rfl, Nat.le_refl 1⟩, ⟨Nat.le_refl 0, Nat.zero_le 1⟩, ?_, ?_,
    fun k packet hk => ?_⟩
  · cases hi
  · show 0 + (env.decode 0 buffer).length ≤ 1
    rw [hdecode]
    exact Nat.le_refl 1
  · intro v hv
    rw [show v ∈ env.decode 0 buffer ↔ v ∈ [.value rawImage] by rw [hdecode]] at hv
    rw [List.mem_singleton.mp hv]
    rfl
  · cases hk

omit [Message RawImagePacketTypeDescriptor] [Message GstreamerBufferPacketTypeDescriptor] in
/-- The pulled packet is the one after those whose headers were queued. -/
theorem inv_pull (hframe : FrameByFrame env) {s : State} (h : Inv env s) (hp : s.pc = .pulling) :
    Inv env { s with pc := afterPull env (env.pull s.pulled), pulled := s.pulled + 1 } := by
  have hq := h.queued
  rw [hp] at hq
  obtain ⟨hpulled, hfed⟩ := hq
  refine h.goTo (s.pulled + 1) ?_
  cases hpull : env.pull s.pulled with
  | none => exact hfed
  | some p =>
    by_cases heos : isEos p = true
    · rw [show afterPull env (some p) = .signalling "The raw image stream has ended"
        from if_pos heos]
      exact hfed
    · have hhead := hframe.frameHead _ p hpull (Bool.eq_false_iff.mpr heos)
      rw [show afterPull env (some p) = .queueing p from (if_neg heos).trans (if_pos hhead)]
      rw [hpulled] at hpull
      exact ⟨congrArg (· + 1) hpulled, hfed, hpull⟩

/-- A frame that is fed adds one image to those that are pending. -/
theorem inv_feed (hframe : FrameByFrame env) {s : State} (h : Inv env s) {p : Packet}
    (hp : s.pc = .feeding p) : Inv env (afterFeed env p s) := by
  have hq := h.queued
  rw [hp] at hq
  obtain ⟨hpulled, hfed⟩ := hq
  have hstop : ∀ pc : Pc, (pc.Queued env s ↔ s.fed ≤ s.headers.accepted.length + 1) →
      Inv env { s with pc := pc } :=
    fun pc hpc => h.goTo s.pulled (hpc.mpr (Nat.le_succ_of_le hfed))
  unfold afterFeed
  split
  · exact hstop _ Iff.rfl
  · exact hstop _ Iff.rfl
  · rename_i buffer _
    split
    · exact hstop _ Iff.rfl
    · obtain ⟨rawImage, hdecode⟩ := hframe.oneImage s.fed buffer
      refine ⟨h.first, h.accepted, ⟨hpulled, Nat.succ_le_succ hfed⟩, h.popped, ?_, ?_, h.carries⟩
      · have := h.pending
        show s.images.length + (s.pending ++ env.decode s.fed buffer).length ≤ s.fed + 1
        rw [hdecode, List.length_append, List.length_singleton]
        omega
      · intro v hv
        rcases List.mem_append.mp hv with hv | hv
        · exact h.isImage v hv
        · rw [hdecode] at hv
          rw [List.mem_singleton.mp hv]
          rfl

variable [Message EosValue]

omit [Message RawImagePacketTypeDescriptor] [Message GstreamerBufferPacketTypeDescriptor] in
theorem inv_signalEos {s : State} (h : Inv env s) {reason : String}
    (hp : s.pc = .signalling reason) :
    Inv env { s with pc := pushEosPacket env reason, pending := [] } := by
  have hq := h.queued
  rw [hp] at hq
  refine ⟨h.first, h.accepted, ?_, h.popped, ?_, fun v hv => (nomatch hv), h.carries⟩
  · show (pushEosPacket env reason).Queued env _
    unfold pushEosPacket
    cases makeEosPacket env.eosNow reason with
    | error _ _ => exact hq
    | value _ => exact hq
  · exact Nat.le_trans (Nat.le_add_right _ _) h.pending

theorem inv_of_reachable (hframe : FrameByFrame env) {queueSize : Int32} {s : State}
    (h : ((system env queueSize).restrict fun s l _ => Agrees env s l).Reachable s) :
    Inv env s := by
  refine h.invariant (I := Inv env) ?_ ?_
  · intro s hs
    exact inv_initial hframe hs
  rintro s l s' hr ih ⟨hs, hagrees⟩
  cases hs with
  | check hp => exact inv_check ih hp
  | pull hp => exact inv_pull hframe ih hp
  | push c e hc hq => exact inv_push ih hc hq
  | feed p hp => exact inv_feed hframe ih hp
  | signalEos reason hp _ => exact inv_signalEos ih hp
  | emplace c e hc _ => exact inv_emplace ih e _ hc
  | discard v rest status _ hp _ => exact inv_discard ih hp _
  | emit v rest packet e hnone hp hform hq =>
    have hhist := ProducerConsumerQueue.history_of_reachable
      ((toHeaders env queueSize).reachable hr.of_restrict)
    exact inv_emit ih hhist hagrees hnone hp hform hq
  | offer packet e hc _ => exact inv_offer ih hc _
  | pop elem timeout e _ _ => exact ih.frame _ _
  | wakeDest t _ => exact ih.frame _ _
  | wakeHeaders t hq => exact inv_wakeHeaders ih hq
  | release _ _ => exact ih.frame _ _

/-- **Images carry the metadata of their frames**, in every interleaving, with a decoder that
yields one image for each frame, as long as the header that an image pops agrees with that of
the packet before it, or an image that pops none would carry the same without it; and no
longer.  From the first image on that pops none, nothing is asked any more. -/
theorem carriesMetadata_of_agrees (hframe : FrameByFrame env) {queueSize : Int32} {s : State}
    (h : ((system env queueSize).restrict fun s l _ => Agrees env s l).Reachable s) :
    CarriesMetadata env s ∧ ∀ s' s'', Step env s .emit s' → Step env s' .offer s'' →
      (CarriesMetadata env s'' ↔ Agrees env s .emit) := by
  have hinv := inv_of_reachable hframe h
  refine ⟨hinv.carriesMetadata, fun s' s'' hemit hoffer => ⟨fun hcarries => ?_, fun hagrees => ?_⟩⟩
  · have hhist := ProducerConsumerQueue.history_of_reachable
      ((toHeaders env queueSize).reachable h.of_restrict)
    cases hemit with
    | emit v rest packet e hnone hp hform hq =>
      cases hoffer with
      | offer made e' hc _ =>
        refine agrees_of_sameMetadata hinv hhist hform hq fun p hpull => ?_
        have hget : (s.offered ++ [made])[s.offered.length]? = some made := by
          rw [List.getElem?_append_right (Nat.le_refl _), Nat.sub_self]
          rfl
        obtain ⟨p', hpull', hsame⟩ := hcarries _ _ hget
        rw [hpull] at hpull'
        rw [Option.some.inj hc, Option.some.inj hpull']
        exact hsame
  · have hemitted := h.step ⟨hemit, hagrees⟩
    have hoffered := hemitted.step ⟨hoffer, fun hl => nomatch hl⟩
    exact (inv_of_reachable hframe hoffered).carriesMetadata

end Metadata

/-! ### Two frames -/

section Runs

open WireMessages

/-- A frame head taken at the given second. -/
def frameAt (seconds : Int64) : Packet where
  header := { PacketHeader.default with
    timestamp := ⟨seconds, 0⟩
    type := ⟨.jpeg, "", ⟨"", []⟩⟩
    flags := PacketFlags.kIsFrameHead }
  payload := []

/-- Two frames, and an image for each buffer that is fed; the clock stands still. -/
def twoFrames : Env where
  sourceQueue := okStatus
  sourceCapacity := 1
  timeoutText := "10s"
  pull n := if n = 0 then some (frameAt 1) else if n = 1 then some (frameAt 2) else none
  createYielder _ := okStatus
  feed _ _ := okStatus
  decode _ _ := [.value .default]
  now _ := some ⟨1, 0⟩
  eosNow := some ⟨1, 0⟩

/-- The state in which the worker is launched. -/
def launched : State where
  dest := ProducerConsumerQueue.initial Role (.onePlace _)
  headers := ProducerConsumerQueue.initial Role (.onePlace _)
  consumerHolds := true
  pc := .top
  callback := none
  pending := [.value .default]
  pulled := 1
  fed := 1
  made := 0
  offered := []

/-- A frame head with a payload. -/
def frameWith (seconds : Int64) (payload : Bytes) : Packet := ⟨(frameAt seconds).header, payload⟩

theorem isFrameHead_frameWith (seconds : Int64) (payload : Bytes) :
    isPacketFlagsSet PacketFlags.kIsFrameHead (frameWith seconds payload) = true := by
  show (PacketFlags.kIsFrameHead &&& PacketFlags.kIsFrameHead == PacketFlags.kIsFrameHead) = true
  decide

theorem isEos_frameWith (seconds : Int64) (payload : Bytes) :
    isEos (frameWith seconds payload) = false :=
  isEos_of_typeId (show PacketTypeId.jpeg ≠ .controlSignal by decide)

/-- The second frame is taken at the given second, and it has a payload. -/
def framesThen (seconds : Int64) (payload : Bytes) : Env :=
  { twoFrames with
    pull := fun n => if n = 0 then some (frameAt 1) else
      if n = 1 then some (frameWith seconds payload) else none }

theorem frameByFrame_framesThen (seconds : Int64) (payload : Bytes) :
    FrameByFrame (framesThen seconds payload) where
  frameHead := by
    intro n p h _
    simp only [framesThen] at h
    split at h
    · rw [← Option.some.inj h]
      decide
    · split at h
      · rw [← Option.some.inj h]
        exact isFrameHead_frameWith seconds payload
      · cases h
  oneImage _ _ := ⟨.default, rfl⟩

theorem afterPull_framesThen (seconds : Int64) (payload : Bytes) :
    afterPull (framesThen seconds payload) ((framesThen seconds payload).pull 1) =
      .queueing (frameWith seconds payload) := by
  have hpull : (framesThen seconds payload).pull 1 = some (frameWith seconds payload) := rfl
  rw [hpull]
  simp only [afterPull, isEos_frameWith, isFrameHead_frameWith, Bool.false_eq_true, if_false,
    if_true]

/-- The worker has queued the header of the second packet when the first image comes, and the image
gets it. -/
theorem exists_secondHeader (seconds : Int64) (payload : Bytes) {C : State → Label → State → Prop}
    (hC : ∀ s l s', l ≠ .emit → C s l s')
    (hemit : ∀ s s', s.offered = [] → s.headers.popped = [] →
      s.headers.queue.q = [(frameAt seconds).header] → C s .emit s') :
    ∃ packet s, ((system (framesThen seconds payload) 1).restrict C).Reachable s ∧
      s.headers.popped = [(frameAt seconds).header] ∧
      s.offered = [restoreHeader (frameAt seconds).header packet] := by
  obtain ⟨packet, hform⟩ : ∃ packet,
      formImagePacket (framesThen seconds payload) 0 (.value .default) = .ok packet := ⟨_, rfl⟩
  let header := (frameAt seconds).header
  let q₁ := launched.headers.called .worker (.tryPush header (.seconds kRetrySeconds))
  let q₂ := q₁.called .decoder (.tryPop .default .zero)
  have hq₁ : ProducerConsumerQueue.Step launched.headers
      (.run .worker (.tryPush header (.seconds kRetrySeconds)) (.done (.tryPush true none))) q₁ :=
    ProducerConsumerQueue.called_step (fun _ => rfl) Role.worker _
  have hq₂ : ProducerConsumerQueue.Step q₁
      (.run .decoder (.tryPop .default .zero) (.done (.tryPop true header))) q₂ :=
    ProducerConsumerQueue.called_step (fun t => by cases t <;> rfl) Role.decoder _
  have hd : ProducerConsumerQueue.Step launched.dest
      (.run .decoder (.tryEmplace (restoreHeader header packet)) (.done (.tryEmplace true))) _ :=
    ProducerConsumerQueue.called_step (fun _ => rfl) Role.decoder
      (.tryEmplace (restoreHeader header packet))
  have hlaunched : ((system (framesThen seconds payload) 1).restrict C).Reachable launched :=
    .init rfl
  have hcheck := hlaunched.step ⟨Step.check rfl, hC _ _ _ fun h => by cases h⟩
  have hpull := hcheck.step ⟨Step.pull rfl, hC _ _ _ fun h => by cases h⟩
  have hcall := congrArg Pc.headerCall (afterPull_framesThen seconds payload)
  have hpush := hpull.step ⟨Step.push _ _ hcall hq₁, hC _ _ _ fun h => by cases h⟩
  have hemitted := hpush.step ⟨Step.emit _ _ packet _ rfl rfl hform hq₂, hemit _ _ rfl rfl rfl⟩
  have hoffer := hemitted.step ⟨Step.offer _ _ rfl hd, hC _ _ _ fun h => by cases h⟩
  exact ⟨packet, _, hoffer, rfl, rfl⟩

/-- Two frames of the same second: the header of the second one is popped for the first image. -/
theorem carriesMetadata_sameSecond : ∃ s : State,
    ((system (framesThen 1 [7]) 1).restrict
      fun s l _ => Agrees (framesThen 1 [7]) s l).Reachable s ∧
      s.headers.popped = [(frameAt 1).header] ∧ s.offered.length = 1 ∧
        CarriesMetadata (framesThen 1 [7]) s := by
  obtain ⟨packet, s, hs, hpopped, hoffered⟩ := exists_secondHeader 1 [7]
    (C := fun s l _ => Agrees (framesThen 1 [7]) s l) (fun s l s' hl h => absurd h hl) (by
      intro s s' hoffered hpopped hq _ _
      rw [hq, hoffered]
      intro p p' hp hp'
      obtain rfl := Option.some.inj hp
      obtain rfl := Option.some.inj hp'
      exact ⟨rfl, rfl, rfl, rfl⟩)
  exact ⟨s, hs, hpopped, congrArg List.length hoffered,
    (carriesMetadata_of_agrees (frameByFrame_framesThen 1 [7]) hs).1⟩

/-- **The header of the first packet is never queued**: when the worker has queued that of the
second packet before the first image comes, the first image carries the second packet's
timestamp. -/
theorem not_carriesMetadata_firstHeader : FrameByFrame twoFrames ∧ ∃ s : State,
    (system twoFrames 1).Reachable s ∧ s.offered.map (·.header.timestamp) = [⟨2, 0⟩] ∧
      ¬ CarriesMetadata twoFrames s := by
  obtain ⟨packet, s, hs, _, hoffered⟩ := exists_secondHeader 2 []
    (C := fun _ _ _ => True) (fun _ _ _ _ => trivial) (fun _ _ _ _ _ => trivial)
  refine ⟨frameByFrame_framesThen 2 [], s, hs.of_restrict, ?_, fun hcarries => ?_⟩
  · rw [hoffered]
    rfl
  · have hfirst : s.offered[0]? = some (restoreHeader (frameAt 2).header packet) := by
      rw [hoffered]
      rfl
    obtain ⟨p, hp, hsame⟩ := hcarries 0 _ hfirst
    obtain rfl := Option.some.inj hp
    have hstamp : (⟨2, 0⟩ : Timestamp) = ⟨1, 0⟩ := hsame.1
    exact absurd hstamp (by decide)

end Runs

end AIStreams.ImageProducer
