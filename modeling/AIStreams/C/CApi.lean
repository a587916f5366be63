import AIStreams.Base.PacketSender
import AIStreams.Base.ReceiverWorker
import AIStreams.Base.ReplayRequest
import AIStreams.Gstreamer.AisSrc
import AIStreams.Storage.Heap

/-!
# The C API

`aistreams/c/*.cc` and `aistreams/gstreamer/ais_type_utils.cc`, as far as `aissink` and `aissrc` use
them: functions that make, use and delete the objects behind pointers.  Each is a program on a heap
of such objects, and comes with the triple of what it does when its pointers are good.  A program
that can end in a fatal error has that as a result.

* `aisNewSender_spec`, `aisSendPacket_spec`: a sender is there exactly if the status is OK, and a
  call of it is a `Send`.
* `aisNewReceiver_spec`, `aisReceivePacket_spec`: likewise a receiver, and a call of it is a
  `TryPop`.
* `newPacketOf_spec`, `aisNewGstreamerBufferPacket_spec`, `aisToGstreamerBuffer_spec`: likewise a
  packet, and a buffer.
* `aisIsEos_spec`: the reason is a new object, EOS or not.
-/

namespace AIStreams

open Storage
open Storage.HeapM (new delete get modify)

/-! ### Objects -/

/-- What the pointers of the C API point to.  `sends` and `pops` count the calls so far; a C string
is one made by `strdup`. -/
inductive AisObject
  | status (status : Status)
  | connectionOptions (connectionOptions : ConnectionOptions)
  | sender (packetSender : PacketSender) (sends : ℕ)
  | receiver (pops : ℕ)
  | packet (packet : Packet)
  | gstreamerBuffer (gstreamerBuffer : GstreamerBuffer)
  | cString (s : String)

/-- A function of the C API. -/
abbrev AisM := HeapM AisObject

namespace AisObject

abbrev statuses : Kind AisObject Status where
  pack := .status
  unpack
    | .status s => some s
    | _ => none
  unpack_pack _ := rfl

abbrev options : Kind AisObject ConnectionOptions where
  pack := .connectionOptions
  unpack
    | .connectionOptions o => some o
    | _ => none
  unpack_pack _ := rfl

abbrev senders : Kind AisObject (PacketSender × ℕ) where
  pack s := .sender s.1 s.2
  unpack
    | .sender s n => some (s, n)
    | _ => none
  unpack_pack _ := rfl

abbrev receivers : Kind AisObject ℕ where
  pack := .receiver
  unpack
    | .receiver n => some n
    | _ => none
  unpack_pack _ := rfl

abbrev packets : Kind AisObject Packet where
  pack := .packet
  unpack
    | .packet p => some p
    | _ => none
  unpack_pack _ := rfl

abbrev buffers : Kind AisObject GstreamerBuffer where
  pack := .gstreamerBuffer
  unpack
    | .gstreamerBuffer b => some b
    | _ => none
  unpack_pack _ := rfl

abbrev cStrings : Kind AisObject String where
  pack := .cString
  unpack
    | .cString s => some s
    | _ => none
  unpack_pack _ := rfl

end AisObject

namespace CApi

/-! ### `ais_status.cc` -/

def aisNewStatus : AisM Pointer := new (.status okStatus)

def aisDeleteStatus (s : Pointer) : AisM Unit := delete s

/-- The assignments to `ais_status->status`. -/
def setStatus (aisStatus : Pointer) (status : Status) : AisM Unit :=
  modify AisObject.statuses aisStatus fun _ => status

def aisGetCode (s : Pointer) : AisM StatusCode := do
  let status ← get AisObject.statuses s
  return status.code

def aisMessage (s : Pointer) : AisM String := do
  let status ← get AisObject.statuses s
  return cString status.errorMessage

/-! ### `c_api.cc`: connections and senders -/

def aisNewConnectionOptions : AisM Pointer := new (.connectionOptions {})

def aisDeleteConnectionOptions (aisOptions : Pointer) : AisM Unit := delete aisOptions

def aisSetTargetAddress (targetAddress : String) (aisOptions : Pointer) : AisM Unit :=
  modify AisObject.options aisOptions fun o => { o with targetAddress := targetAddress }

def aisSetAuthenticateWithGoogle (authenticateWithGoogle : Bool) (aisOptions : Pointer) :
    AisM Unit :=
  modify AisObject.options aisOptions fun o =>
    { o with authenticateWithGoogle := authenticateWithGoogle }

def aisSetUseInsecureChannel (useInsecureChannel : Bool) (aisOptions : Pointer) : AisM Unit :=
  modify AisObject.options aisOptions fun o =>
    { o with sslOptions := { o.sslOptions with useInsecureChannel := useInsecureChannel } }

def aisSetSslDomainName (sslDomainName : String) (aisOptions : Pointer) : AisM Unit :=
  modify AisObject.options aisOptions fun o =>
    { o with sslOptions := { o.sslOptions with sslDomainName := sslDomainName } }

def aisSetSslRootCertPath (sslRootCertPath : String) (aisOptions : Pointer) : AisM Unit :=
  modify AisObject.options aisOptions fun o =>
    { o with sslOptions := { o.sslOptions with sslRootCertPath := sslRootCertPath } }

section Senders

variable {T : Type} (env : PacketSender.Env T)

/-- `AIS_NewSender`, with the calls of the RPC stack. -/
def aisNewSender (options : Pointer) (streamName : String) (traceProbability : ℚ)
    (aisStatus : Pointer) : AisM (Pointer × List (Rpc T)) := do
  let connectionOptions ← get AisObject.options options
  match PacketSender.makePacketSender env connectionOptions streamName traceProbability with
  | (status, none, rpcs) =>
    setStatus aisStatus status
    return (none, rpcs)
  | (_, some sender, rpcs) =>
    let aisSender ← new (.sender sender 0)
    setStatus aisStatus okStatus
    return (aisSender, rpcs)

/-- `AIS_DeleteSender`, and the destructor of the sender. -/
def aisDeleteSender (aisSender : Pointer) : AisM (List (Rpc T)) := do
  match aisSender with
  | none => return []
  | some a =>
    let s ← get AisObject.senders (some a)
    delete (some a)
    return s.1.destroy

/-- `AIS_SendPacket`. -/
def aisSendPacket (aisSender aisPacket aisStatus : Pointer) : AisM (List (Rpc T)) := do
  let s ← get AisObject.senders aisSender
  let packet ← get AisObject.packets aisPacket
  let sent := PacketSender.send env s.1 s.2 packet
  modify AisObject.senders aisSender fun s => (s.1, s.2 + 1)
  modify AisObject.packets aisPacket fun _ => sent.packet
  setStatus aisStatus sent.status
  return sent.rpcs

end Senders

/-! ### `c_api.cc`: receivers -/

/-- `AIS_NewReceiver`; `created` is the status of `PacketReceiver::Create`. -/
def aisNewReceiver (created : PacketReceiver.Options → Status) (options : Pointer)
    (streamName receiverName : String) (aisStatus : Pointer) : AisM (OrFatal Pointer) := do
  let connectionOptions ← get AisObject.options options
  let receiverOptions : ReceiverOptions :=
    { connectionOptions := connectionOptions, streamName := streamName
      receiverName := receiverName }
  match ReceiverWorker.makePacketReceiverQueue receiverOptions.bufferCapacity
      (created receiverOptions.packetReceiverOptions) with
  | .error e => return .error e
  | .ok (status, _) =>
    if status.ok = false then
      setStatus aisStatus status
      return .ok none
    else
      let aisReceiver ← new (.receiver 0)
      setStatus aisStatus okStatus
      return .ok aisReceiver

def aisDeleteReceiver (aisReceiver : Pointer) : AisM Unit := delete aisReceiver

/-- `AIS_ReceivePacket`; `tryPop n` is what the `n`-th `TryPop` yields within a timeout. -/
def aisReceivePacket (tryPop : ℕ → Option ℕ → Option Packet) (aisReceiver aisPacket : Pointer)
    (timeoutInSec : Int32) (aisStatus : Pointer) : AisM Unit := do
  let pops ← get AisObject.receivers aisReceiver
  let packet ← get AisObject.packets aisPacket
  let received := AIStreams.aisReceivePacket (tryPop pops) packet timeoutInSec
  modify AisObject.receivers aisReceiver (· + 1)
  modify AisObject.packets aisPacket fun _ => received.1
  setStatus aisStatus received.2

/-! ### `ais_packet.cc` -/

section Packets

def aisDeletePacket (p : Pointer) : AisM Unit := delete p

def aisNewPacket (aisStatus : Pointer) : AisM Pointer := do
  let aisPacket ← new (.packet .default)
  setStatus aisStatus okStatus
  return aisPacket

/-- The packet of a `StatusOr`, on the heap; else the status. -/
def newPacketOf (packetStatusOr : StatusOr Packet) (aisStatus : Pointer) : AisM Pointer := do
  match packetStatusOr with
  | .error status _ =>
    setStatus aisStatus status
    return none
  | .value p =>
    let aisPacket ← new (.packet p)
    setStatus aisStatus okStatus
    return aisPacket

def aisNewEosPacket [Message ControlSignalPacketTypeDescriptor] [Message EosValue]
    (now : Option Timestamp) (reason : String) (aisStatus : Pointer) : AisM Pointer :=
  newPacketOf (makeEosPacket now reason) aisStatus

/-- `AIS_NewGstreamerBufferPacket`; nobody reads the value that it moves out of its argument. -/
def aisNewGstreamerBufferPacket [Message GstreamerBufferPacketTypeDescriptor]
    (now : Option Timestamp) (aisGstreamerBuffer aisStatus : Pointer) : AisM Pointer := do
  let buffer ← get AisObject.buffers aisGstreamerBuffer
  newPacketOf (makePacket now .rvalue buffer .default true) aisStatus

/-- `AIS_IsEos`, with a `reason` that is not null: that is set to a string made by `strdup`. -/
def aisIsEos [Message ControlSignalPacketTypeDescriptor] [Message EosValue] (aisPacket : Pointer) :
    AisM (OrFatal (Bool × Pointer)) := do
  let packet ← get AisObject.packets aisPacket
  match isEosReason packet "" with
  | .error e => return .error e
  | .ok (eos, reason) =>
    let copy ← new (.cString (cString reason))
    return .ok (eos, copy)

def aisSetIsKeyFrame (isKeyFrame : Bool) (aisPacket : Pointer) : AisM Unit :=
  modify AisObject.packets aisPacket
    (if isKeyFrame then setPacketFlags PacketFlags.kIsKeyFrame
      else unsetPacketFlags PacketFlags.kIsKeyFrame)

def aisSetIsFrameHead (isFrameHead : Bool) (aisPacket : Pointer) : AisM Unit :=
  modify AisObject.packets aisPacket
    (if isFrameHead then setPacketFlags PacketFlags.kIsFrameHead
      else unsetPacketFlags PacketFlags.kIsFrameHead)

end Packets

/-! ### `ais_gstreamer_buffer.cc` -/

def aisNewGstreamerBuffer : AisM Pointer := new (.gstreamerBuffer ⟨[], []⟩)

def aisDeleteGstreamerBuffer (aisGstreamerBuffer : Pointer) : AisM Unit := delete aisGstreamerBuffer

def aisGstreamerBufferSetCapsString (capsCstr : Bytes) (aisGstreamerBuffer : Pointer) :
    AisM Unit :=
  modify AisObject.buffers aisGstreamerBuffer fun b =>
    { b with caps := capsCstr.takeWhile (· ≠ 0) }

def aisGstreamerBufferAssign (src : Bytes) (aisGstreamerBuffer : Pointer) : AisM Unit :=
  modify AisObject.buffers aisGstreamerBuffer fun b => { b with bytes := src }

def aisGstreamerBufferGetCapsString (aisGstreamerBuffer : Pointer) : AisM Bytes := do
  let buffer ← get AisObject.buffers aisGstreamerBuffer
  return buffer.getCapsCstr

/-! ### `ais_type_utils.cc` -/

/-- `AIS_ToGstreamerBuffer`. -/
def aisToGstreamerBuffer [Message RawImagePacketTypeDescriptor]
    [Message GstreamerBufferPacketTypeDescriptor] (aisPacket aisStatus : Pointer) :
    AisM (OrFatal Pointer) := do
  let packet ← get AisObject.packets aisPacket
  match AIStreams.aisToGstreamerBuffer packet with
  | .error e => return .error e
  | .ok (none, status) =>
    setStatus aisStatus status
    return .ok none
  | .ok (some buffer, status) =>
    let aisGstreamerBuffer ← new (.gstreamerBuffer buffer)
    setStatus aisStatus status
    return .ok aisGstreamerBuffer

/-! ### What they do -/

section Specs

variable {st : ℕ} {status : Status}

theorem getCode_bind {β : Type} {own R : Objects AisObject} {f : StatusCode → AisM β}
    {post : β → Objects AisObject → Prop} (hown : own = pointsTo st (AisObject.status status) + R)
    (hf : Triple own (f status.code) post) : Triple own (aisGetCode (some st) >>= f) post := by
  unfold aisGetCode
  rw [HeapM.bind_assoc]
  exact Triple.get_bind (k := AisObject.statuses) hown hf

theorem message_bind {β : Type} {own R : Objects AisObject} {f : String → AisM β}
    {post : β → Objects AisObject → Prop} (hown : own = pointsTo st (AisObject.status status) + R)
    (hf : Triple own (f (cString status.errorMessage)) post) :
    Triple own (aisMessage (some st) >>= f) post := by
  unfold aisMessage
  rw [HeapM.bind_assoc]
  exact Triple.get_bind (k := AisObject.statuses) hown hf

theorem getCapsString_bind {β : Type} {b : ℕ} {buffer : GstreamerBuffer}
    {own R : Objects AisObject} {f : Bytes → AisM β} {post : β → Objects AisObject → Prop}
    (hown : own = pointsTo b (AisObject.gstreamerBuffer buffer) + R)
    (hf : Triple own (f buffer.getCapsCstr) post) :
    Triple own (aisGstreamerBufferGetCapsString (some b) >>= f) post := by
  unfold aisGstreamerBufferGetCapsString
  rw [HeapM.bind_assoc]
  exact Triple.get_bind (k := AisObject.buffers) hown hf

theorem aisNewPacket_spec : Triple (pointsTo st (AisObject.status status)) (aisNewPacket (some st))
    fun p own => ∃ a, p = some a ∧
      own = pointsTo a (AisObject.packet .default) + pointsTo st (AisObject.status okStatus) := by
  refine Triple.new_bind fun a => ?_
  refine Triple.modify_bind (k := AisObject.statuses) (add_comm _ _)
    (Triple.pure ⟨a, rfl, add_comm _ _⟩)

/-- **A new packet is there exactly if the status is OK.** -/
theorem newPacketOf_spec (packetStatusOr : StatusOr Packet) :
    Triple (pointsTo st (AisObject.status status))
      (newPacketOf packetStatusOr (some st)) fun p own =>
      (∃ packet a, packetStatusOr = .value packet ∧ p = some a ∧
        own = pointsTo a (AisObject.packet packet) + pointsTo st (AisObject.status okStatus)) ∨
      (packetStatusOr.ok = false ∧ p = none ∧
        own = pointsTo st (AisObject.status packetStatusOr.status)) := by
  cases packetStatusOr with
  | error status' h =>
    refine Triple.modify_bind (k := AisObject.statuses) (add_zero _).symm (Triple.pure (Or.inr ?_))
    exact ⟨h, rfl, add_zero _⟩
  | value packet =>
    refine Triple.new_bind fun a => ?_
    refine Triple.modify_bind (k := AisObject.statuses) (add_comm _ _)
      (Triple.pure (Or.inl ⟨packet, a, rfl, rfl, add_comm _ _⟩))

theorem aisNewGstreamerBufferPacket_spec [Message GstreamerBufferPacketTypeDescriptor]
    (now : Option Timestamp) {b : ℕ} {buffer : GstreamerBuffer} :
    Triple (pointsTo b (AisObject.gstreamerBuffer buffer) + pointsTo st (AisObject.status status))
      (aisNewGstreamerBufferPacket now (some b) (some st)) fun p own =>
      (∃ packet a, makePacket now .rvalue buffer .default true = .value packet ∧ p = some a ∧
        own = pointsTo b (AisObject.gstreamerBuffer buffer) +
          (pointsTo a (AisObject.packet packet) + pointsTo st (AisObject.status okStatus))) ∨
      ((makePacket now .rvalue buffer .default true).ok = false ∧ p = none ∧
        own = pointsTo b (AisObject.gstreamerBuffer buffer) +
          pointsTo st (AisObject.status (makePacket now .rvalue buffer .default true).status)) := by
  refine Triple.get_bind (k := AisObject.buffers) (x := buffer) rfl ?_
  refine (newPacketOf_spec _).tail (add_comm _ _) fun p part hpart => ?_
  rcases hpart with ⟨packet, a, hmake, rfl, rfl⟩ | ⟨hmake, rfl, rfl⟩
  · exact Or.inl ⟨packet, a, hmake, rfl, add_comm _ _⟩
  · exact Or.inr ⟨hmake, rfl, add_comm _ _⟩

section Senders

variable {T : Type} (env : PacketSender.Env T)

/-- **A new sender is there exactly if the status is OK.** -/
theorem aisNewSender_spec {o : ℕ} {connectionOptions : ConnectionOptions} (streamName : String)
    (traceProbability : ℚ) : Triple
      (pointsTo o (AisObject.connectionOptions connectionOptions) +
        pointsTo st (AisObject.status status))
      (aisNewSender env (some o) streamName traceProbability (some st)) fun r own =>
        (∃ sender a, PacketSender.create env ⟨connectionOptions, streamName, false,
            traceProbability⟩ = (.value sender, r.2) ∧ r.1 = some a ∧
          own = pointsTo o (AisObject.connectionOptions connectionOptions) +
            pointsTo st (AisObject.status okStatus) + pointsTo a (AisObject.sender sender 0)) ∨
        (r.1 = none ∧ r.2.flatMap Rpc.hands = [] ∧
          own = pointsTo o (AisObject.connectionOptions connectionOptions) +
            pointsTo st (AisObject.status (unknownError "Failed to create a PacketSender"))) := by
  refine Triple.get_bind (k := AisObject.options) rfl ?_
  rcases hcreate : PacketSender.create env ⟨connectionOptions, streamName, false,
    traceProbability⟩ with ⟨created, rpcs⟩
  cases created with
  | error status' h =>
    rw [PacketSender.makePacketSender_of_error hcreate]
    refine Triple.modify_bind (k := AisObject.statuses) (add_comm _ _)
      (Triple.pure (Or.inr ⟨rfl, ?_, add_comm _ _⟩))
    exact PacketSender.hands_of_create_error env hcreate
  | value sender =>
    rw [PacketSender.makePacketSender_of_value hcreate]
    refine Triple.new_bind fun a => ?_
    refine Triple.modify_bind (k := AisObject.statuses) (x := status)
      (R := pointsTo a (AisObject.sender sender 0) +
        pointsTo o (AisObject.connectionOptions connectionOptions))
      (by abel) (Triple.pure (Or.inl ⟨sender, a, rfl, rfl, by abel⟩))

theorem aisDeleteSender_spec {sd n : ℕ} {sender : PacketSender} :
    Triple (pointsTo sd (AisObject.sender sender n))
      (aisDeleteSender (T := T) (some sd)) fun rpcs own =>
      rpcs = sender.destroy ∧ own = 0 := by
  refine Triple.get_bind (k := AisObject.senders) (x := (sender, n)) (add_zero _).symm ?_
  exact Triple.delete_bind (add_zero _).symm (Triple.pure ⟨rfl, rfl⟩)

/-- **A call of the sender is a `Send`.** -/
theorem aisSendPacket_spec {sd p n : ℕ} {sender : PacketSender} {packet : Packet} : Triple
      (pointsTo sd (AisObject.sender sender n) + pointsTo p (AisObject.packet packet) +
        pointsTo st (AisObject.status status))
      (aisSendPacket env (some sd) (some p) (some st)) fun rpcs own =>
        rpcs = (PacketSender.send env sender n packet).rpcs ∧
        own = pointsTo sd (AisObject.sender sender (n + 1)) +
          pointsTo p (AisObject.packet (PacketSender.send env sender n packet).packet) +
          pointsTo st (AisObject.status (PacketSender.send env sender n packet).status) := by
  refine Triple.get_bind (k := AisObject.senders) (x := (sender, n)) (add_assoc _ _ _) ?_
  refine Triple.get_bind (k := AisObject.packets) (x := packet)
    (R := pointsTo sd (AisObject.sender sender n) + pointsTo st (AisObject.status status))
    (by abel) ?_
  refine Triple.modify_bind (k := AisObject.senders) (x := (sender, n)) (add_assoc _ _ _) ?_
  refine Triple.modify_bind (k := AisObject.packets) (x := packet)
    (R := pointsTo sd (AisObject.sender sender (n + 1)) + pointsTo st (AisObject.status status))
    (by abel) ?_
  refine Triple.modify_bind (k := AisObject.statuses) (x := status)
    (R := pointsTo sd (AisObject.sender sender (n + 1)) + pointsTo p (AisObject.packet _)) (by abel)
    (Triple.pure ⟨rfl, by abel⟩)

end Senders

/-- The capacity that an unset one stands for is a capacity. -/
theorem exists_makePacketReceiverQueue (created : Status) : ∃ status state,
    ReceiverWorker.makePacketReceiverQueue 0 created = .ok (status, state) := by
  cases hc : created.ok with
  | true =>
    obtain ⟨state, hmake⟩ := ReceiverWorker.exists_makePacketReceiverQueue 0 hc
    exact ⟨_, state, hmake⟩
  | false =>
    obtain ⟨state, hmake⟩ := ReceiverWorker.exists_makePacketReceiverQueue 0 okStatus_ok
    unfold ReceiverWorker.makePacketReceiverQueue at hmake ⊢
    cases hcreate : ProducerConsumerQueue.create Packet (ReceiverWorker.queueCapacity 0) with
    | error e =>
      rw [hcreate] at hmake
      cases hmake
    | ok queue => exact ⟨_, _, by simp [hc]; exact ⟨rfl, rfl⟩⟩

/-- **A new receiver is there exactly if the status is OK.** -/
theorem aisNewReceiver_spec (created : PacketReceiver.Options → Status) {o : ℕ}
    {connectionOptions : ConnectionOptions} (streamName receiverName : String) : Triple
      (pointsTo o (AisObject.connectionOptions connectionOptions) +
        pointsTo st (AisObject.status status))
      (aisNewReceiver created (some o) streamName receiverName (some st)) fun r own =>
        (∃ a, r = .ok (some a) ∧ own = pointsTo o (AisObject.connectionOptions connectionOptions) +
          pointsTo st (AisObject.status okStatus) + pointsTo a (AisObject.receiver 0)) ∨
        (∃ status', r = .ok none ∧
          own = pointsTo o (AisObject.connectionOptions connectionOptions) +
            pointsTo st (AisObject.status status')) := by
  refine Triple.get_bind (k := AisObject.options) rfl ?_
  obtain ⟨status', state, hmake⟩ := exists_makePacketReceiverQueue (created
    { connectionOptions := connectionOptions, streamName := streamName
      receiverName := receiverName })
  have hmake' : ReceiverWorker.makePacketReceiverQueue _ (created
      (ReceiverOptions.packetReceiverOptions
        { connectionOptions := connectionOptions, streamName := streamName
          receiverName := receiverName })) = _ := hmake
  simp only [hmake']
  by_cases hok : status'.ok = false
  · rw [if_pos hok]
    refine Triple.modify_bind (k := AisObject.statuses) (add_comm _ _)
      (Triple.pure (Or.inr ⟨status', rfl, add_comm _ _⟩))
  · rw [if_neg hok]
    refine Triple.new_bind fun a => ?_
    refine Triple.modify_bind (k := AisObject.statuses) (x := status)
      (R := pointsTo a (AisObject.receiver 0) +
        pointsTo o (AisObject.connectionOptions connectionOptions))
      (by abel) (Triple.pure (Or.inl ⟨a, rfl, by abel⟩))

/-- **A call of the receiver is a `TryPop`.** -/
theorem aisReceivePacket_spec (tryPop : ℕ → Option ℕ → Option Packet) {rc p pops : ℕ}
    {packet : Packet} (timeoutInSec : Int32) : Triple
      (pointsTo rc (AisObject.receiver pops) + pointsTo p (AisObject.packet packet) +
        pointsTo st (AisObject.status status))
      (aisReceivePacket tryPop (some rc) (some p) timeoutInSec (some st)) fun _ own =>
        own = pointsTo rc (AisObject.receiver (pops + 1)) +
          pointsTo p
            (AisObject.packet (AIStreams.aisReceivePacket (tryPop pops) packet timeoutInSec).1) +
          pointsTo st
            (.status (AIStreams.aisReceivePacket (tryPop pops) packet timeoutInSec).2) := by
  refine Triple.get_bind (k := AisObject.receivers) (x := pops) (add_assoc _ _ _) ?_
  refine Triple.get_bind (k := AisObject.packets) (x := packet)
    (R := pointsTo rc (AisObject.receiver pops) + pointsTo st (AisObject.status status))
    (by abel) ?_
  refine Triple.modify_bind (k := AisObject.receivers) (x := pops) (add_assoc _ _ _) ?_
  refine Triple.modify_bind (k := AisObject.packets) (x := packet)
    (R := pointsTo rc (AisObject.receiver (pops + 1)) + pointsTo st (AisObject.status status))
    (by abel) ?_
  refine Triple.modify_last (k := AisObject.statuses) (x := status)
    (R := pointsTo rc (AisObject.receiver (pops + 1)) + pointsTo p (AisObject.packet _))
    (by abel) ?_
  abel

/-- **A reason is made for every packet**, be it an EOS or not. -/
theorem aisIsEos_spec [Message ControlSignalPacketTypeDescriptor] [Message EosValue] {p : ℕ}
    {packet : Packet} :
    Triple (pointsTo p (AisObject.packet packet)) (aisIsEos (some p)) fun r own =>
      ∃ a reason, isEosReason packet "" = .ok (isEos packet, reason) ∧
        r = .ok (isEos packet, some a) ∧
        own = pointsTo p (AisObject.packet packet) +
          pointsTo a (AisObject.cString (cString reason)) := by
  refine Triple.get_bind (k := AisObject.packets) (x := packet) (add_zero _).symm ?_
  obtain ⟨reason, hreason⟩ := isEosReason_eq packet ""
  simp only [hreason]
  refine Triple.new_bind fun a => Triple.pure ⟨a, reason, rfl, rfl, add_comm _ _⟩

/-- **A new buffer is there exactly if the packet was converted.** -/
theorem aisToGstreamerBuffer_spec [Message RawImagePacketTypeDescriptor]
    [Message GstreamerBufferPacketTypeDescriptor] {p : ℕ} {packet : Packet} : Triple
      (pointsTo p (AisObject.packet packet) + pointsTo st (AisObject.status status))
      (aisToGstreamerBuffer (some p) (some st)) fun r own =>
        match AIStreams.aisToGstreamerBuffer packet with
        | .error e => r = .error e
        | .ok (none, status') =>
          r = .ok none ∧
          own = pointsTo p (AisObject.packet packet) + pointsTo st (AisObject.status status')
        | .ok (some buffer, status') => ∃ b, r = .ok (some b) ∧
          own = pointsTo p (AisObject.packet packet) + pointsTo st (AisObject.status status') +
            pointsTo b (AisObject.gstreamerBuffer buffer) := by
  refine Triple.get_bind (k := AisObject.packets) (x := packet) rfl ?_
  cases AIStreams.aisToGstreamerBuffer packet with
  | error e => exact Triple.pure rfl
  | ok converted =>
    obtain ⟨buffer, status'⟩ := converted
    cases buffer with
    | none =>
      exact Triple.modify_bind (k := AisObject.statuses) (add_comm _ _)
        (Triple.pure ⟨rfl, add_comm _ _⟩)
    | some buffer =>
      refine Triple.new_bind fun b => ?_
      refine Triple.modify_bind (k := AisObject.statuses) (x := status)
        (R := pointsTo b (AisObject.gstreamerBuffer buffer) + pointsTo p (AisObject.packet packet))
        (by abel)
        (Triple.pure ⟨b, rfl, by abel⟩)

end Specs

end CApi

end AIStreams
