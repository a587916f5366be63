import AIStreams.Base.Messages
import AIStreams.C.CApi
import AIStreams.Transition.System

/-!
# `aissink`

`ais_sink_start`, `ais_sink_render` and `ais_sink_stop` of
`aistreams/gstreamer/gst-plugins/aissink.c`, as programs on the objects of the C API, over the life
cycles that GStreamer puts an element through: what each call is given, and how the RPC stack
answers, is arbitrary.

* `start_spec`, `render_spec`, `stop_spec`: what a call makes, uses and deletes.
* `safe_of_reachable`: nothing is used after it is deleted, and what is leaked.
* `session_of_reachable`: what a session of the element sends.
-/

namespace AIStreams

open Storage
open CApi

/-- The fields of an `AisSink`. -/
structure AisSink where
  targetAddress : String
  streamName : String
  authenticateWithGoogle : Bool
  useInsecureChannel : Bool
  sslDomainName : String
  sslRootCertPath : String
  traceProbability : ℚ
  aisConnectionOptions : Pointer
  aisStatus : Pointer
  aisSender : Pointer

namespace AisSink

/-! ### The element -/

/-- A `GstBuffer`: what it maps to, if it can be mapped, and `GST_BUFFER_FLAG_DELTA_UNIT`. -/
structure GstBuffer where
  map : Option Bytes
  deltaUnit : Bool

/-- What `start` returns, with the fields of the element, and what was made known and called. -/
structure Started (T : Type) where
  ok : Bool
  sink : AisSink
  notices : List Notice
  rpcs : List (Rpc T)

/-- What `render` returns, likewise. -/
structure Rendered (T : Type) where
  ret : GstFlowReturn
  notices : List Notice
  rpcs : List (Rpc T)

section Program

variable {T : Type} (env : PacketSender.Env T) (sink : AisSink)

/-- `ais_sink_start`. -/
def start : AisM (Started T) := do
  let options ← aisNewConnectionOptions
  aisSetTargetAddress sink.targetAddress options
  aisSetAuthenticateWithGoogle sink.authenticateWithGoogle options
  aisSetUseInsecureChannel sink.useInsecureChannel options
  aisSetSslDomainName sink.sslDomainName options
  aisSetSslRootCertPath sink.sslRootCertPath options
  let status ← aisNewStatus
  let r ← aisNewSender env options sink.streamName sink.traceProbability status
  let sink :=
    { sink with aisConnectionOptions := options, aisStatus := status, aisSender := r.1 }
  if r.1 = none then
    let message ← aisMessage status
    return ⟨false, sink, [.elementError message message, .aisLog .error message,
      .aisLog .error "Failed to create a new sender"], r.2⟩
  else return ⟨true, sink, [], r.2⟩

/-- The end of `ais_sink_render`, on all of its ways. -/
def done (aisGstreamerBuffer packet : Pointer) (r : Rendered T) : AisM (Rendered T) := do
  aisDeleteGstreamerBuffer aisGstreamerBuffer
  aisDeletePacket packet
  return r

/-- `ais_sink_render`; the debug text of a warning repeats it. -/
def render [Message GstreamerBufferPacketTypeDescriptor] (now : Option Timestamp)
    (capsString : Bytes) (buffer : GstBuffer) : AisM (Rendered T) := do
  let aisGstreamerBuffer ← aisNewGstreamerBuffer
  match buffer.map with
  | none =>
    done aisGstreamerBuffer none
      ⟨.ok, [.elementWarning "Failed to gst_buffer_map the incoming GstBuffer"], []⟩
  | some bytes =>
    aisGstreamerBufferAssign bytes aisGstreamerBuffer
    aisGstreamerBufferSetCapsString capsString aisGstreamerBuffer
    let packet ← aisNewGstreamerBufferPacket now aisGstreamerBuffer sink.aisStatus
    if packet = none then
      let message ← aisMessage sink.aisStatus
      done aisGstreamerBuffer packet ⟨.ok, [.elementWarning message], []⟩
    else
      aisSetIsKeyFrame (!buffer.deltaUnit) packet
      aisSetIsFrameHead true packet
      let rpcs ← aisSendPacket env sink.aisSender packet sink.aisStatus
      let code ← aisGetCode sink.aisStatus
      if code ≠ .kOk then
        let message ← aisMessage sink.aisStatus
        done aisGstreamerBuffer packet
          ⟨.error, [.elementWarning message, .aisLog .error message, .aisLog .error
            ("Please double check the ingress endpoint and stream name you " ++
              "provided are valid")], rpcs⟩
      else done aisGstreamerBuffer packet ⟨.ok, [], rpcs⟩

/-- What is made known when no EOS could be sent. -/
def failedEosSend (rpcs : List (Rpc T)) : AisM (List Notice × List (Rpc T)) := do
  let message ← aisMessage sink.aisStatus
  return ([.elementWarning message, .aisLog .error message,
    .aisLog .error "Could not send an EOS packet"], rpcs)

/-- `ais_sink_stop`, up to the label `done`. -/
def sendEos (packet : Pointer) : AisM (List Notice × List (Rpc T)) := do
  let code ← aisGetCode sink.aisStatus
  if code ≠ .kOk then failedEosSend sink []
  else
    let rpcs ← aisSendPacket env sink.aisSender packet sink.aisStatus
    let code ← aisGetCode sink.aisStatus
    if code ≠ .kOk then failedEosSend sink rpcs else return ([], rpcs)

/-- `ais_sink_stop`, which always returns `TRUE`. -/
def stop [Message ControlSignalPacketTypeDescriptor] [Message EosValue] (now : Option Timestamp) :
    AisM (List Notice × List (Rpc T)) := do
  let packet ← aisNewEosPacket now "Sender sent EOS" sink.aisStatus
  let r ← sendEos env sink packet
  aisDeletePacket packet
  let rpcs ← aisDeleteSender sink.aisSender
  aisDeleteStatus sink.aisStatus
  aisDeleteConnectionOptions sink.aisConnectionOptions
  return (r.1, r.2 ++ rpcs)

end Program

/-! ### What a call makes, uses and deletes -/

/-- The options that `start` connects with. -/
def connectionOptions (sink : AisSink) : ConnectionOptions where
  targetAddress := sink.targetAddress
  authenticateWithGoogle := sink.authenticateWithGoogle
  sslOptions :=
    { useInsecureChannel := sink.useInsecureChannel
      sslDomainName := sink.sslDomainName
      sslRootCertPath := sink.sslRootCertPath }

/-- The options of the sender that `start` makes. -/
def senderOptions (sink : AisSink) : PacketSender.Options :=
  ⟨sink.connectionOptions, sink.streamName, false, sink.traceProbability⟩

/-- The flags that `render` sets. -/
def flagged (deltaUnit : Bool) (p : Packet) : Packet :=
  setPacketFlags PacketFlags.kIsFrameHead
    (if deltaUnit then unsetPacketFlags PacketFlags.kIsKeyFrame p
      else setPacketFlags PacketFlags.kIsKeyFrame p)

/-- The packet that `render` makes, if it comes to that. -/
def madePacket [Message GstreamerBufferPacketTypeDescriptor] (now : Option Timestamp)
    (capsString : Bytes) (buffer : GstBuffer) : Option Packet :=
  match buffer.map with
  | none => none
  | some bytes =>
    match makePacket now .rvalue (⟨capsString.takeWhile (· ≠ 0), bytes⟩ : GstreamerBuffer)
        .default true with
    | .error _ _ => none
    | .value p => some (flagged buffer.deltaUnit p)

/-- The packet that `stop` sends, if there is one. -/
def eosPacket [Message ControlSignalPacketTypeDescriptor] [Message EosValue]
    (now : Option Timestamp) : Option Packet :=
  match makeEosPacket now "Sender sent EOS" with
  | .error _ _ => none
  | .value p => some p

/-- The objects of a connection. -/
def connection (o st sd : ℕ) (options : ConnectionOptions) (status : Status)
    (sender : PacketSender) (n : ℕ) : Objects AisObject :=
  pointsTo o (.connectionOptions options) + pointsTo st (.status status) +
    pointsTo sd (.sender sender n)

/-- The element has pointers to them. -/
def PointsAt (sink : AisSink) (o st sd : ℕ) : Prop :=
  sink.aisConnectionOptions = some o ∧ sink.aisStatus = some st ∧ sink.aisSender = some sd

section Specs

variable {T : Type} (env : PacketSender.Env T) (sink : AisSink)

/-- **A start** either makes the objects of a connection, or leaves two objects to nobody. -/
theorem start_spec : Triple 0 (start env sink) fun r own =>
    (∃ o st sd sender, r.ok = true ∧ r.sink.PointsAt o st sd ∧
      PacketSender.create env sink.senderOptions = (.value sender, r.rpcs) ∧
      own = connection o st sd sink.connectionOptions okStatus sender 0) ∨
    (r.ok = false ∧ r.sink.aisSender = none ∧ r.rpcs.flatMap Rpc.hands = [] ∧
      Multiset.card own = 2) := by
  refine Triple.new_bind fun o => ?_
  refine Triple.modify_bind (k := AisObject.options) rfl ?_
  refine Triple.modify_bind (k := AisObject.options) rfl ?_
  refine Triple.modify_bind (k := AisObject.options) rfl ?_
  refine Triple.modify_bind (k := AisObject.options) rfl ?_
  refine Triple.modify_bind (k := AisObject.options) rfl ?_
  refine Triple.new_bind fun st => ?_
  refine Triple.call (R := 0) (aisNewSender_spec env sink.streamName sink.traceProbability)
    (by abel) fun r part hpart => ?_
  obtain ⟨p, rpcs⟩ := r
  rcases hpart with ⟨sender, sd, hcreate, hp, rfl⟩ | ⟨hp, hhands, rfl⟩
  · obtain rfl : p = some sd := hp
    rw [if_neg (by simp)]
    refine Triple.pure (Or.inl ⟨o, st, sd, sender, rfl, ⟨rfl, rfl, rfl⟩, hcreate, ?_⟩)
    exact add_zero _
  · obtain rfl : p = none := hp
    rw [if_pos rfl]
    refine message_bind (R := pointsTo o _) (by abel) (Triple.pure (Or.inr ?_))
    exact ⟨rfl, rfl, hhands, rfl⟩

variable {o st sd n : ℕ} {options : ConnectionOptions} {status : Status} {sender : PacketSender}
  {env sink}

/-- The way out of `render` deletes what it made. -/
theorem done_spec {b : ℕ} {gstreamerBuffer : GstreamerBuffer} {own R : Objects AisObject}
    (r : Rendered T) (hown : own = pointsTo b (AisObject.gstreamerBuffer gstreamerBuffer) + R) :
    Triple own (done (some b) none r) fun r' own' => r' = r ∧ own' = R :=
  Triple.delete_bind hown (Triple.delete_null_bind (Triple.pure ⟨rfl, rfl⟩))

theorem done_spec_packet {b p : ℕ} {gstreamerBuffer : GstreamerBuffer} {packet : Packet}
    {own R : Objects AisObject} (r : Rendered T)
    (hown : own = pointsTo b (AisObject.gstreamerBuffer gstreamerBuffer) +
      (pointsTo p (AisObject.packet packet) + R)) :
    Triple own (done (some b) (some p) r) fun r' own' => r' = r ∧ own' = R :=
  Triple.delete_bind hown (Triple.delete_bind rfl (Triple.pure ⟨rfl, rfl⟩))

/-- What `render` does: nothing, if no packet can be made of the buffer, and else a `Send`. -/
inductive Renders [Message GstreamerBufferPacketTypeDescriptor] (env : PacketSender.Env T)
    (sender : PacketSender) (n : ℕ) (made : Option Packet) : Rendered T → ℕ → Prop
  | skips (notices : List Notice) : made = none →
      Renders env sender n made ⟨.ok, notices, []⟩ n
  | sends (p : Packet) (notices : List Notice) : made = some p →
      Renders env sender n made
        ⟨if (PacketSender.send env sender n p).status.ok then .ok else .error, notices,
          (PacketSender.send env sender n p).rpcs⟩ (n + 1)

section Made

variable [Message GstreamerBufferPacketTypeDescriptor] {now : Option Timestamp}
  {capsString bytes : Bytes} {buffer : GstBuffer}

theorem madePacket_of_value {packet : Packet} (hmap : buffer.map = some bytes)
    (hmake : makePacket now .rvalue (⟨capsString.takeWhile (· ≠ 0), bytes⟩ : GstreamerBuffer)
      .default true = .value packet) :
    madePacket now capsString buffer = some (flagged buffer.deltaUnit packet) := by
  simp only [madePacket, hmap, hmake]

theorem madePacket_of_error (hmap : buffer.map = some bytes)
    (hmake : (makePacket now .rvalue (⟨capsString.takeWhile (· ≠ 0), bytes⟩ : GstreamerBuffer)
      .default true).ok = false) : madePacket now capsString buffer = none := by
  simp only [madePacket, hmap]
  cases hvalue : makePacket now .rvalue
      (⟨capsString.takeWhile (· ≠ 0), bytes⟩ : GstreamerBuffer) .default true with
  | error _ _ => rfl
  | value packet =>
    rw [hvalue] at hmake
    cases hmake

end Made

/-- The flags, one after the other. -/
theorem flagged_eq (deltaUnit : Bool) (p : Packet) :
    (if true = true then setPacketFlags PacketFlags.kIsFrameHead
        else unsetPacketFlags PacketFlags.kIsFrameHead)
      ((if (!deltaUnit) = true then setPacketFlags PacketFlags.kIsKeyFrame
        else unsetPacketFlags PacketFlags.kIsKeyFrame) p) = flagged deltaUnit p := by
  cases deltaUnit <;> rfl

/-- **A render** sends the packet that it makes of the buffer, and deletes all that it made. -/
theorem render_spec [Message GstreamerBufferPacketTypeDescriptor] (h : sink.PointsAt o st sd)
    (now : Option Timestamp) (capsString : Bytes) (buffer : GstBuffer) :
    Triple (connection o st sd options status sender n)
      (render env sink now capsString buffer) fun r own => ∃ status' n',
        Renders env sender n (madePacket now capsString buffer) r n' ∧
          own = connection o st sd options status' sender n' := by
  obtain ⟨ho, hst, hsd⟩ := h
  unfold render
  rw [hst, hsd]
  refine Triple.new_bind fun b => ?_
  cases hmap : buffer.map with
  | none =>
    refine (done_spec _ rfl).mono ?_
    rintro r own ⟨rfl, rfl⟩
    exact ⟨status, n, .skips _ (by rw [madePacket, hmap]), rfl⟩
  | some bytes =>
    refine Triple.modify_bind (k := AisObject.buffers) rfl ?_
    refine Triple.modify_bind (k := AisObject.buffers) rfl ?_
    refine Triple.call (R := pointsTo o _ + pointsTo sd _)
      (aisNewGstreamerBufferPacket_spec now) (by unfold connection; abel) fun p part hpart => ?_
    rcases hpart with ⟨packet, a, hmake, rfl, rfl⟩ | ⟨hmake, rfl, rfl⟩
    · rw [if_neg (by simp), madePacket_of_value hmap hmake]
      refine Triple.modify_bind (k := AisObject.packets) (x := packet)
        (R := connection o st sd options okStatus sender n +
          pointsTo b (AisObject.gstreamerBuffer ⟨capsString.takeWhile (· ≠ 0), bytes⟩))
        (by unfold connection; abel) ?_
      refine Triple.modify_bind (k := AisObject.packets) rfl ?_
      rw [flagged_eq]
      refine Triple.call (R := pointsTo o (AisObject.connectionOptions options) +
          pointsTo b (AisObject.gstreamerBuffer ⟨capsString.takeWhile (· ≠ 0), bytes⟩))
        (aisSendPacket_spec env) (by unfold connection; abel) fun rpcs part hpart => ?_
      obtain ⟨rfl, rfl⟩ := hpart
      refine getCode_bind (R := pointsTo sd _ + pointsTo a _ + (pointsTo o _ + pointsTo b _))
        (by abel) ?_
      have hrenders (notices : List Notice) :=
        @Renders.sends T _ env sender n _ (flagged buffer.deltaUnit packet) notices rfl
      by_cases hcode :
          (PacketSender.send env sender n (flagged buffer.deltaUnit packet)).status.code = .kOk
      · rw [if_neg (not_not.mpr hcode)]
        simp only [(Status.ok_iff_code _).mpr hcode, if_true] at hrenders
        refine (done_spec_packet (R := connection o st sd options _ sender (n + 1)) _
          (by unfold connection; abel)).mono ?_
        rintro r own ⟨rfl, rfl⟩
        exact ⟨_, _, hrenders _, rfl⟩
      · rw [if_pos hcode]
        have hfails := mt (Status.ok_iff_code _).mp hcode
        simp only [hfails] at hrenders
        refine message_bind (R := pointsTo sd _ + pointsTo a _ + (pointsTo o _ + pointsTo b _))
          (by abel) ?_
        refine (done_spec_packet (R := connection o st sd options _ sender (n + 1)) _
          (by unfold connection; abel)).mono ?_
        rintro r own ⟨rfl, rfl⟩
        exact ⟨_, _, hrenders _, rfl⟩
    · rw [if_pos rfl, madePacket_of_error hmap hmake]
      refine message_bind (R := pointsTo o _ + pointsTo sd _ + pointsTo b _) (by abel) ?_
      refine (done_spec (R := connection o st sd options _ sender n) _
        (by unfold connection; abel)).mono ?_
      rintro r own ⟨rfl, rfl⟩
      exact ⟨_, n, .skips _ rfl, rfl⟩

/-- What `stop` sends before the end of the stream. -/
def eosRpcs [Message ControlSignalPacketTypeDescriptor] [Message EosValue]
    (env : PacketSender.Env T) (sender : PacketSender) (n : ℕ) (now : Option Timestamp) :
    List (Rpc T) :=
  match eosPacket now with
  | none => []
  | some p => (PacketSender.send env sender n p).rpcs

theorem failedEosSend_spec {own R : Objects AisObject} (hst : sink.aisStatus = some st)
    (rpcs : List (Rpc T)) (hown : own = pointsTo st (AisObject.status status) + R) :
    Triple own (failedEosSend sink rpcs) fun r own' => r.2 = rpcs ∧ own' = own := by
  unfold failedEosSend
  rw [hst]
  exact message_bind hown (Triple.pure ⟨rfl, rfl⟩)

theorem sendEos_spec_none {own R : Objects AisObject} (hst : sink.aisStatus = some st)
    (hstatus : status.ok = false) (hown : own = pointsTo st (AisObject.status status) + R) :
    Triple own (sendEos env sink none) fun r own' => r.2 = [] ∧ own' = own := by
  unfold sendEos
  rw [hst]
  refine getCode_bind hown ?_
  rw [if_pos (by rw [Ne, ← Status.ok_iff_code, hstatus]; decide)]
  exact failedEosSend_spec hst [] hown

theorem sendEos_spec_some {p : ℕ} {packet : Packet} (hst : sink.aisStatus = some st)
    (hsd : sink.aisSender = some sd) : Triple
      (pointsTo p (AisObject.packet packet) + connection o st sd options okStatus sender n)
      (sendEos env sink (some p)) fun r own =>
        r.2 = (PacketSender.send env sender n packet).rpcs ∧ ∃ packet' status',
          own = pointsTo p (AisObject.packet packet') +
            connection o st sd options status' sender (n + 1) := by
  unfold sendEos
  rw [hst, hsd]
  refine getCode_bind (R := pointsTo p _ + pointsTo o _ + pointsTo sd _)
    (by unfold connection; abel) ?_
  rw [if_neg (not_not.mpr okStatus_code)]
  refine Triple.call (R := pointsTo o _) (aisSendPacket_spec env)
    (by unfold connection; abel) fun rpcs part hpart => ?_
  obtain ⟨rfl, rfl⟩ := hpart
  refine getCode_bind (R := pointsTo sd _ + pointsTo p _ + pointsTo o _) (by abel) ?_
  split
  · refine (failedEosSend_spec hst _ (R := pointsTo sd _ + pointsTo p _ + pointsTo o _)
      (by abel)).mono ?_
    rintro r own ⟨hr, rfl⟩
    exact ⟨hr, _, _, by unfold connection; abel⟩
  · exact Triple.pure ⟨rfl, _, _, by unfold connection; abel⟩

/-- What is left to `stop` deletes the objects of the connection. -/
theorem disconnect_spec (r : List Notice × List (Rpc T)) :
    Triple (connection o st sd options status sender n)
      (do
        let rpcs ← aisDeleteSender (some sd)
        aisDeleteStatus (some st)
        aisDeleteConnectionOptions (some o)
        return (r.1, r.2 ++ rpcs)) fun r' own => r'.2 = r.2 ++ sender.destroy ∧ own = 0 := by
  refine Triple.call (R := pointsTo o _ + pointsTo st _) aisDeleteSender_spec
    (by unfold connection; abel) fun rpcs part hpart => ?_
  obtain ⟨rfl, rfl⟩ := hpart
  refine Triple.delete_bind (R := pointsTo o (AisObject.connectionOptions options)) (by abel) ?_
  exact Triple.delete_bind (add_zero _).symm (Triple.pure ⟨rfl, rfl⟩)

/-- **A stop** deletes all the objects of the connection, and the EOS packet, if there was one. -/
theorem stop_spec [Message ControlSignalPacketTypeDescriptor] [Message EosValue]
    (h : sink.PointsAt o st sd) (now : Option Timestamp) :
    Triple (connection o st sd options status sender n) (stop env sink now) fun r own =>
      r.2 = eosRpcs env sender n now ++ sender.destroy ∧ own = 0 := by
  obtain ⟨ho, hst, hsd⟩ := h
  unfold stop eosRpcs eosPacket
  rw [hst, hsd, ho]
  refine Triple.call (R := pointsTo o _ + pointsTo sd _) (newPacketOf_spec _)
    (by unfold connection; abel) fun p part hpart => ?_
  rcases hpart with ⟨packet, a, hmake, rfl, rfl⟩ | ⟨hmake, rfl, rfl⟩
  · rw [hmake]
    refine Triple.call (R := 0) (@sendEos_spec_some T env sink o st sd n options sender a packet
      hst hsd) (by unfold connection; abel) fun r part hpart => ?_
    obtain ⟨hr, packet', status', rfl⟩ := hpart
    refine Triple.delete_bind (R := connection o st sd options status' sender (n + 1))
      (by abel) ?_
    exact (disconnect_spec r).mono fun r' own hown => ⟨by rw [hown.1, hr], hown.2⟩
  · refine Triple.call (R := 0) (@sendEos_spec_none T env sink st _ _ _ hst hmake rfl)
      (add_zero _).symm fun r part hpart => ?_
    obtain ⟨hr, rfl⟩ := hpart
    refine Triple.delete_null_bind ?_
    cases hvalue : makeEosPacket now "Sender sent EOS" with
    | value packet =>
      rw [hvalue] at hmake
      cases hmake
    | error status' hstatus' =>
      have hown : pointsTo st (AisObject.status (makeEosPacket now "Sender sent EOS").status) +
          (pointsTo o (AisObject.connectionOptions options) +
            pointsTo sd (AisObject.sender sender n)) + 0 =
          connection o st sd options (makeEosPacket now "Sender sent EOS").status sender n := by
        unfold connection
        abel
      rw [← hvalue, hown]
      refine (disconnect_spec r).mono fun r' own hown => ⟨?_, hown.2⟩
      rw [hown.1, hr, hvalue]

end Specs

/-! ### Life cycles -/

open Transition

/-- What a `render` is given: the clock, the caps of the pad, and the buffer. -/
structure Input where
  now : Option Timestamp
  capsString : Bytes
  buffer : GstBuffer

/-- An element in its life cycle.  `connected`: between a successful `start` and the following
`stop`; `stopped`: that `stop` was the last of both.  The session since the last successful
`start` has the environment `env` and the options `options`, `rendered` holds its inputs and
`eos` its last packet. -/
structure State (T : Type) where
  sink : AisSink
  heap : Heap AisObject
  connected : Bool
  stopped : Bool
  failedStarts : ℕ
  env : PacketSender.Env T
  options : PacketSender.Options
  rendered : List Input
  eos : Option Packet
  rpcs : List (Rpc T)

inductive Op (T : Type)
  | set (sink : AisSink)
  | start (env : PacketSender.Env T)
  | render (input : Input)
  | stop (now : Option Timestamp)

section System

variable {T : Type} [Message GstreamerBufferPacketTypeDescriptor]
  [Message ControlSignalPacketTypeDescriptor] [Message EosValue]

/-- The packets of a session. -/
def State.made (s : State T) : List Packet :=
  s.rendered.filterMap (fun i => madePacket i.now i.capsString i.buffer) ++ s.eos.toList

/-- The element after a `start`. -/
def State.afterStart (s : State T) (env : PacketSender.Env T) (r : Started T)
    (heap : Heap AisObject) : State T where
  sink := r.sink
  heap := heap
  connected := r.ok
  stopped := false
  failedStarts := if r.ok then s.failedStarts else s.failedStarts + 1
  env := env
  options := s.sink.senderOptions
  rendered := []
  eos := none
  rpcs := r.rpcs

/-- Every sequence of calls: no `start` while the element is connected, a `render` or a `stop` only
while it is.  Properties may change at any time. -/
inductive Step : State T → Op T → State T → Prop
  | set {s : State T} (sink : AisSink) :
      sink.aisConnectionOptions = s.sink.aisConnectionOptions →
      sink.aisStatus = s.sink.aisStatus → sink.aisSender = s.sink.aisSender →
      Step s (.set sink) { s with sink := sink }
  | start {s : State T} (env : PacketSender.Env T) {r : Started T} {heap : Heap AisObject} :
      s.connected = false → start env s.sink s.heap = .ok (r, heap) →
      Step s (.start env) (s.afterStart env r heap)
  | render {s : State T} (i : Input) {r : Rendered T} {heap : Heap AisObject} :
      s.connected = true →
      render s.env s.sink i.now i.capsString i.buffer s.heap = .ok (r, heap) →
      Step s (.render i)
        { s with heap := heap, rendered := s.rendered ++ [i], rpcs := s.rpcs ++ r.rpcs }
  | stop {s : State T} (now : Option Timestamp) {r : List Notice × List (Rpc T)}
      {heap : Heap AisObject} :
      s.connected = true → stop s.env s.sink now s.heap = .ok (r, heap) →
      Step s (.stop now)
        { s with
          heap := heap, connected := false, stopped := true, eos := eosPacket now
          rpcs := s.rpcs ++ r.2 }

/-- An element just made. -/
def system : System (State T) (Op T) where
  init s := s.heap = .empty ∧ s.connected = false ∧ s.stopped = false ∧ s.failedStarts = 0
  step := Step

/-- A connected element: its objects, and what it has sent. -/
structure Connected (s : State T) (leaked : Objects AisObject) : Prop where
  session : ∃ o st sd options status sender opening, s.sink.PointsAt o st sd ∧
    s.heap.objects.entries = connection o st sd options status sender s.made.length + leaked ∧
    PacketSender.create s.env s.options = (.value sender, opening) ∧
    s.rpcs = opening ++ (PacketSender.sends s.env sender 0 s.made).flatMap PacketSender.Sent.rpcs
  eos : s.eos = none
  streams : s.options.enableUnaryRpc = false

/-- **The invariant**: the objects that are there are those of the connection, and those that were
leaked. -/
structure Inv (s : State T) : Prop where
  objects : ∃ leaked, Multiset.card leaked = 2 * s.failedStarts ∧
    (s.connected = true → Connected s leaked) ∧
    (s.connected = false → s.heap.objects.entries = leaked)
  stopped : s.stopped = true → s.connected = false ∧ ∃ sender opening,
    PacketSender.create s.env s.options = (.value sender, opening) ∧
      s.options.enableUnaryRpc = false ∧
      s.rpcs = (PacketSender.session s.env s.options s.made).rpcs
  connected : s.connected = true → s.stopped = false

omit [Message ControlSignalPacketTypeDescriptor] [Message EosValue] in
theorem inv_start {s : State T} (h : Inv s) (env : PacketSender.Env T) {r : Started T}
    {heap : Heap AisObject} (hs : s.connected = false)
    (hstart : AisSink.start env s.sink s.heap = .ok (r, heap)) :
    Inv (s.afterStart env r heap) := by
  obtain ⟨leaked, hcard, _, hrest⟩ := h.objects
  obtain ⟨own, hentries, hown⟩ := (start_spec env s.sink).of_run
    (show s.heap.objects.entries = 0 + leaked by rw [zero_add, hrest hs]) hstart
  rcases hown with ⟨o, st, sd, sender, hok, hpoints, hcreate, rfl⟩ | ⟨hok, _, _, htwo⟩
  · refine ⟨⟨leaked, ?_, fun _ => ⟨⟨o, st, sd, _, _, sender, r.rpcs, hpoints, hentries, hcreate,
      (List.append_nil _).symm⟩, rfl, rfl⟩, fun hnot => ?_⟩, fun hstopped => ?_, fun _ => rfl⟩
    · simpa [State.afterStart, hok] using hcard
    · cases hok.symm.trans hnot
    · cases hstopped
  · refine ⟨⟨own + leaked, ?_, fun hcon => ?_, fun _ => hentries⟩, fun hstopped => ?_, fun _ => rfl⟩
    · simp only [State.afterStart, hok, Multiset.card_add, htwo, hcard]
      simp only [Bool.false_eq_true, if_false]
      omega
    · cases hok.symm.trans hcon
    · cases hstopped

omit [Message ControlSignalPacketTypeDescriptor] [Message EosValue] in
theorem made_render {s : State T} (heos : s.eos = none) (i : Input) (heap : Heap AisObject)
    (rpcs : List (Rpc T)) :
    State.made { s with heap := heap, rendered := s.rendered ++ [i], rpcs := rpcs } =
      s.made ++ (madePacket i.now i.capsString i.buffer).toList := by
  unfold State.made
  rw [heos, List.filterMap_append]
  cases hmade : madePacket i.now i.capsString i.buffer <;> simp [hmade]

omit [Message ControlSignalPacketTypeDescriptor] [Message EosValue] in
theorem inv_render {s : State T} (h : Inv s) (i : Input) {r : Rendered T} {heap : Heap AisObject}
    (hs : s.connected = true)
    (hrender : AisSink.render s.env s.sink i.now i.capsString i.buffer s.heap = .ok (r, heap)) :
    Inv { s with heap := heap, rendered := s.rendered ++ [i], rpcs := s.rpcs ++ r.rpcs } := by
  obtain ⟨leaked, hcard, hconnected, _⟩ := h.objects
  obtain ⟨⟨o, st, sd, options, status, sender, opening, hpoints, hentries, hcreate, hrpcs⟩, heos,
    hstreams⟩ := hconnected hs
  obtain ⟨own, hentries', status', n, hrenders, rfl⟩ := (render_spec hpoints i.now i.capsString
    i.buffer).of_run hentries hrender
  have hsession : n = (s.made ++ (madePacket i.now i.capsString i.buffer).toList).length ∧
      s.rpcs ++ r.rpcs = opening ++ (PacketSender.sends s.env sender 0 (s.made ++
        (madePacket i.now i.capsString i.buffer).toList)).flatMap PacketSender.Sent.rpcs := by
    generalize madePacket i.now i.capsString i.buffer = made at hrenders
    cases hrenders with
    | skips notices hnone =>
      rw [hnone, Option.toList_none, List.append_nil, List.append_nil]
      exact ⟨rfl, hrpcs⟩
    | sends p notices hsome =>
      rw [hsome, Option.toList_some, PacketSender.sends_append, List.flatMap_append,
        List.length_append, hrpcs, List.append_assoc, Nat.zero_add]
      exact ⟨rfl, by simp⟩
  refine ⟨⟨leaked, hcard, fun _ => ⟨⟨o, st, sd, options, status', sender, opening, hpoints, ?_,
    hcreate, ?_⟩, heos, hstreams⟩, fun hnot => ?_⟩, fun hstopped => ?_, fun _ => h.connected hs⟩
  · rw [made_render heos, ← hsession.1]
    exact hentries'
  · rw [made_render heos]
    exact hsession.2
  · cases hs.symm.trans hnot
  · cases (h.connected hs).symm.trans hstopped

theorem inv_stop {s : State T} (h : Inv s) (now : Option Timestamp)
    {r : List Notice × List (Rpc T)} {heap : Heap AisObject} (hs : s.connected = true)
    (hstop : AisSink.stop s.env s.sink now s.heap = .ok (r, heap)) :
    Inv { s with
      heap := heap, connected := false, stopped := true, eos := eosPacket now
      rpcs := s.rpcs ++ r.2 } := by
  obtain ⟨leaked, hcard, hconnected, _⟩ := h.objects
  obtain ⟨⟨o, st, sd, options, status, sender, opening, hpoints, hentries, hcreate, hrpcs⟩, heos,
    hstreams⟩ := hconnected hs
  obtain ⟨own, hentries', hr, rfl⟩ := (stop_spec hpoints now).of_run hentries hstop
  refine ⟨⟨leaked, hcard, nofun, fun _ => hentries'.trans (zero_add leaked)⟩, fun _ => ⟨rfl,
    sender, opening, hcreate, hstreams, ?_⟩, nofun⟩
  show s.rpcs ++ r.2 = (PacketSender.session s.env s.options _).rpcs
  rw [PacketSender.session_eq s.env hcreate, hr, hrpcs, eosRpcs]
  unfold State.made
  rw [heos]
  cases eosPacket now with
  | none => simp
  | some p =>
    simp only [Option.toList_none, List.append_nil, Option.toList_some, PacketSender.sends_append,
      List.flatMap_append, Nat.zero_add, List.append_assoc, List.flatMap_cons, List.flatMap_nil]

theorem inv_of_reachable {s : State T} (h : (system (T := T)).Reachable s) : Inv s := by
  refine h.invariant ?_ ?_
  · rintro s ⟨hheap, hconnected, hstopped, hfailed⟩
    refine ⟨⟨0, by rw [hfailed]; rfl, fun hcon => ?_, fun _ => ?_⟩, fun hstop => ?_,
      fun _ => hstopped⟩
    · cases hconnected.symm.trans hcon
    · rw [hheap]
      rfl
    · cases hstopped.symm.trans hstop
  · intro s l s' _ ih hs
    cases hs with
    | set sink hoptions hstatus hsender =>
      refine ⟨?_, ih.stopped, ih.connected⟩
      obtain ⟨leaked, hcard, hconnected, hrest⟩ := ih.objects
      refine ⟨leaked, hcard, fun hcon => ?_, hrest⟩
      obtain ⟨⟨o, st, sd, options, status, sender, opening, ⟨ho, hst, hsd⟩, hsession⟩, heos,
        hstreams⟩ := hconnected hcon
      exact ⟨⟨o, st, sd, options, status, sender, opening,
        ⟨hoptions.trans ho, hstatus.trans hst, hsender.trans hsd⟩, hsession⟩, heos, hstreams⟩
    | start env hcon hstart => exact inv_start ih env hcon hstart
    | render i hcon hrender => exact inv_render ih i hcon hrender
    | stop now hcon hstop => exact inv_stop ih now hcon hstop

/-- No call faults, and what is there is the connection, if there is one, and two objects for each
`start` that has failed. -/
structure Safe (s : State T) : Prop where
  start : s.connected = false → ∀ env : PacketSender.Env T, ∃ r heap,
    AisSink.start env s.sink s.heap = .ok (r, heap)
  render : s.connected = true → ∀ i : Input, ∃ r heap,
    AisSink.render s.env s.sink i.now i.capsString i.buffer s.heap = .ok (r, heap)
  stop : s.connected = true → ∀ now, ∃ r heap,
    AisSink.stop s.env s.sink now s.heap = .ok (r, heap)
  objects : Multiset.card s.heap.objects.entries =
    2 * s.failedStarts + if s.connected then 3 else 0

/-- **`aissink` never touches what it has deleted**, over any number of life cycles and however the
RPC stack answers; what it leaks are the two objects of each `start` that fails. -/
theorem safe_of_reachable {s : State T} (h : (system (T := T)).Reachable s) : Safe s := by
  obtain ⟨leaked, hcard, hconnected, hrest⟩ := (inv_of_reachable h).objects
  refine ⟨fun hs env => ?_, fun hs i => ?_, fun hs now => ?_, ?_⟩
  · exact (start_spec env s.sink).exists_run
      (show s.heap.objects.entries = 0 + leaked by rw [zero_add, hrest hs])
  · obtain ⟨o, st, sd, options, status, sender, opening, hpoints, hentries, _⟩ :=
      (hconnected hs).session
    exact (render_spec hpoints i.now i.capsString i.buffer).exists_run hentries
  · obtain ⟨o, st, sd, options, status, sender, opening, hpoints, hentries, _⟩ :=
      (hconnected hs).session
    exact (stop_spec hpoints now).exists_run hentries
  · cases hs : s.connected with
    | false =>
      rw [hrest hs, hcard]
      rfl
    | true =>
      obtain ⟨o, st, sd, options, status, sender, opening, _, hentries, _⟩ :=
        (hconnected hs).session
      rw [hentries, Multiset.card_add, hcard, add_comm]
      rfl

end System

/-- A network where everything goes well, if `reachable`. -/
def network (reachable : Bool) : PacketSender.Env Unit where
  files := ⟨fun _ => none, fun _ _ => ⟨0, false, false⟩⟩
  createCustomChannel _ := reachable
  newStub _ := true
  streamingCall := ⟨0, fun _ => (), .ofStatus (unavailableError "")⟩
  sendPackets := true
  write _ := true
  unaryCall _ := ⟨0, fun _ => (), .ofStatus (unavailableError "")⟩
  sendOnePacket _ := (⟨.ok, ""⟩, true)
  opencensus := Trace.lowestIds
  span n := n
  samplers _ _ := none

/-- `ais_sink_init`, with an insecure channel. -/
def insecureSink : AisSink where
  targetAddress := ""
  streamName := ""
  authenticateWithGoogle := false
  useInsecureChannel := true
  sslDomainName := "aistreams.googleapis.com"
  sslRootCertPath := ""
  traceProbability := -1
  aisConnectionOptions := none
  aisStatus := none
  aisSender := none

def keyFrame : Input := ⟨some ⟨0, 0⟩, Wire.ofString "image/jpeg", ⟨some [7], false⟩⟩

open WireMessages in
/-- A start that fails, one that does not, and a buffer. -/
theorem exists_connected : ∃ s : State Unit, (system (T := Unit)).Reachable s ∧
    s.connected = true ∧ s.stopped = false ∧ s.failedStarts = 1 ∧ s.rendered = [keyFrame] := by
  have hmade : (system (T := Unit)).Reachable
      ⟨insecureSink, .empty, false, false, 0, network true, {}, [], none, []⟩ :=
    .init ⟨rfl, rfl, rfl, rfl⟩
  have hfailed := hmade.step (Step.start (network false) rfl rfl)
  have hstarted := hfailed.step (Step.start (network true) rfl rfl)
  have hrendered := hstarted.step (Step.render keyFrame rfl rfl)
  exact ⟨_, hrendered, rfl, rfl, rfl, rfl⟩

open WireMessages in
theorem safe_connected : ∃ s : State Unit, (system (T := Unit)).Reachable s ∧
    s.connected = true ∧ s.failedStarts = 1 ∧ Safe s := by
  obtain ⟨s, hs, hconnected, _, hfailed, _⟩ := exists_connected
  exact ⟨s, hs, hconnected, hfailed, safe_of_reachable hs⟩

section Sessions

variable {T : Type} [Message GstreamerBufferPacketTypeDescriptor]
  [Message ControlSignalPacketTypeDescriptor] [Message EosValue]

/-- What a session has sent: the packets of its buffers and then the EOS, each by one `Write` on one
stream, which is closed. -/
def Streams (s : State T) : Prop :=
  ∃ ctx handed,
    makeClientContext s.env.streamingCall (PacketSender.streamChannelOptions s.options) =
      .value ctx ∧
    List.Forall₂ PacketSender.SameButTrace s.made handed ∧
    s.rpcs = .sendPackets ctx :: handed.map Rpc.write ++ [.writesDone, .finish]

/-- **A session of `aissink` is one stream.** -/
theorem session_of_reachable {s : State T} (h : (system (T := T)).Reachable s)
    (hstopped : s.stopped = true) : Streams s := by
  obtain ⟨_, sender, opening, hcreate, hstreams, hrpcs⟩ := (inv_of_reachable h).stopped hstopped
  have hproper := PacketSender.proper_of_create s.env hcreate s.made
  have hok : (PacketSender.session s.env s.options s.made).created.ok = true := by
    rw [PacketSender.session_eq s.env hcreate]
    rfl
  obtain ⟨ctx, hctx, hsession⟩ := hproper.streaming hok hstreams
  exact ⟨ctx, _, hctx, hproper.handed hok, hrpcs.trans hsession⟩

end Sessions

open WireMessages in
/-- A session of one buffer. -/
theorem session_keyFrame : ∃ s : State Unit, (system (T := Unit)).Reachable s ∧
    s.rendered = [keyFrame] ∧ s.made.length = 2 ∧ Streams s := by
  obtain ⟨s, hs, hconnected, _, _, hrendered⟩ := exists_connected
  obtain ⟨leaked, _, hopen, _⟩ := (inv_of_reachable hs).objects
  obtain ⟨o, st, sd, options, status, sender, opening, hpoints, hentries, _⟩ :=
    (hopen hconnected).session
  obtain ⟨r, heap, hstop⟩ := (stop_spec hpoints (some ⟨0, 0⟩)).exists_run hentries
  have hstopped := hs.step (Step.stop (some ⟨0, 0⟩) hconnected hstop)
  refine ⟨_, hstopped, hrendered, ?_, session_of_reachable hstopped rfl⟩
  show (s.rendered.filterMap _ ++ Option.toList _).length = 2
  rw [hrendered]
  rfl

end AisSink

end AIStreams
