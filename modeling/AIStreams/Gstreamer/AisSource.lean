import AIStreams.Base.Messages
import AIStreams.C.CApi
import AIStreams.Transition.System

/-!
# `aissrc`

`ais_src_start`, `ais_src_create` and `ais_src_stop` of
`aistreams/gstreamer/gst-plugins/aissrc.c`, as programs on the objects of the C API, over the life
cycles of an element.

* `create_spec`: `ais_src_create` on pointers does what `aisSrcCreate` does on values.
* `sound_of_reachable`: nothing is used after it is deleted, and what is leaked.
-/

namespace AIStreams

open Storage
open CApi
open Storage.HeapM (get)

/-- The fields of an element of `aissrc`, and the current caps of its `srcpad`. -/
structure AisSource (Caps : Type) where
  targetAddress : String
  streamName : String
  receiverName : String
  authenticateWithGoogle : Bool
  timeoutInSec : Int32
  useInsecureChannel : Bool
  sslDomainName : String
  sslRootCertPath : String
  aisConnectionOptions : Pointer
  aisStatus : Pointer
  aisReceiver : Pointer
  srcpadCaps : Option Caps

namespace AisSource

/-! ### The element -/

variable {Caps : Type}

/-- What `start` returns, with the fields of the element. -/
structure Started (Caps : Type) where
  ok : Bool
  src : AisSource Caps
  notices : List Notice

/-- What `create` returns, with the caps that it leaves on the pad. -/
structure Pulled (Caps : Type) where
  ret : GstFlowReturn
  outbuf : Option Bytes
  srcpadCaps : Option Caps
  notices : List Notice

/-- The same on values. -/
def pulled (c : Created Caps) : Pulled Caps := ⟨c.ret, c.outbuf, c.src.srcpadCaps, c.notices⟩

/-- The element on values. -/
def value (src : AisSource Caps) (aisStatus : Status) : AisSrc Caps :=
  ⟨src.timeoutInSec, aisStatus, src.srcpadCaps⟩

section Program

variable (src : AisSource Caps)

/-- `ais_src_start`. -/
def start (created : PacketReceiver.Options → Status) : AisM (OrFatal (Started Caps)) := do
  let status ← aisNewStatus
  let options ← aisNewConnectionOptions
  aisSetTargetAddress src.targetAddress options
  aisSetAuthenticateWithGoogle src.authenticateWithGoogle options
  aisSetUseInsecureChannel src.useInsecureChannel options
  aisSetSslDomainName src.sslDomainName options
  aisSetSslRootCertPath src.sslRootCertPath options
  match ← aisNewReceiver created options src.streamName src.receiverName status with
  | .error e => return .error e
  | .ok receiver =>
    let src :=
      { src with aisConnectionOptions := options, aisStatus := status, aisReceiver := receiver }
    if receiver = none then
      let message ← aisMessage status
      return .ok ⟨false, src, [.elementError message message, .aisLog .error message,
        .aisLog .error "Failed to create a new receiver"]⟩
    else return .ok ⟨true, src, []⟩

/-- The label `finalize` of `ais_src_create`. -/
def finalize (aisGstreamerBuffer aisPacket : Pointer) (r : Pulled Caps) :
    AisM (OrFatal (Pulled Caps)) := do
  aisDeleteGstreamerBuffer aisGstreamerBuffer
  aisDeletePacket aisPacket
  return .ok r

/-- The same with what was handed out. -/
def finalizeCreated (handedOut : OrFatal (Created Caps)) (aisGstreamerBuffer aisPacket : Pointer) :
    AisM (OrFatal (Pulled Caps)) :=
  match handedOut with
  | .error e => HeapM.pure (.error e)
  | .ok c => finalize aisGstreamerBuffer aisPacket (pulled c)

variable [Message RawImagePacketTypeDescriptor] [Message GstreamerBufferPacketTypeDescriptor]
  [Message ControlSignalPacketTypeDescriptor] [Message EosValue]

/-- `ais_src_create`, from `AIS_ToGstreamerBuffer` on. -/
def createBuffer (gst : GstCalls Caps) (aisPacket : Pointer) (outbuf : Option Bytes) :
    AisM (OrFatal (Pulled Caps)) := do
  match ← CApi.aisToGstreamerBuffer aisPacket src.aisStatus with
  | .error e => return .error e
  | .ok aisGstreamerBuffer =>
    if aisGstreamerBuffer = none then
      let message ← aisMessage src.aisStatus
      finalize aisGstreamerBuffer aisPacket
        ⟨.ok, outbuf, src.srcpadCaps, [.elementError message message]⟩
    else
      let capsString ← aisGstreamerBufferGetCapsString aisGstreamerBuffer
      let buffer ← get AisObject.buffers aisGstreamerBuffer
      let changed := changeCaps gst (src.value okStatus) capsString
      finalizeCreated (handOut gst .ok changed.1 changed.2 buffer) aisGstreamerBuffer aisPacket

/-- `ais_src_create`; the reason of a packet that is no EOS is not freed. -/
def create (gst : GstCalls Caps) (tryPop : ℕ → Option ℕ → Option Packet) (outbuf : Option Bytes) :
    AisM (OrFatal (Pulled Caps)) := do
  let aisPacket ← aisNewPacket src.aisStatus
  CApi.aisReceivePacket tryPop src.aisReceiver aisPacket src.timeoutInSec src.aisStatus
  let code ← aisGetCode src.aisStatus
  if code ≠ .kOk then
    let message ← aisMessage src.aisStatus
    finalize none aisPacket
      ⟨.error, outbuf, src.srcpadCaps, [.elementError message message, .aisLog .error message,
        .aisLog .error "Failed to receive packets"]⟩
  else
    match ← aisIsEos aisPacket with
    | .error e => return .error e
    | .ok (eos, reason) =>
      if eos then
        let message ← get AisObject.cStrings reason
        HeapM.delete reason
        finalize none aisPacket ⟨.eos, outbuf, src.srcpadCaps, [.aisLog .info message]⟩
      else createBuffer src gst aisPacket outbuf

/-- `ais_src_stop`. -/
def stop : AisM Unit := do
  aisDeleteReceiver src.aisReceiver
  aisDeleteConnectionOptions src.aisConnectionOptions
  aisDeleteStatus src.aisStatus

end Program

/-! ### What a call makes, uses and deletes -/

/-- The options that `start` connects with. -/
def connectionOptions (src : AisSource Caps) : ConnectionOptions where
  targetAddress := src.targetAddress
  authenticateWithGoogle := src.authenticateWithGoogle
  sslOptions :=
    { useInsecureChannel := src.useInsecureChannel
      sslDomainName := src.sslDomainName
      sslRootCertPath := src.sslRootCertPath }

/-- The objects of a connection. -/
def connection (o st rc : ℕ) (options : ConnectionOptions) (status : Status) (pops : ℕ) :
    Objects AisObject :=
  pointsTo o (.connectionOptions options) + pointsTo st (.status status) +
    pointsTo rc (.receiver pops)

/-- The element has pointers to them. -/
def PointsAt (src : AisSource Caps) (o st rc : ℕ) : Prop :=
  src.aisConnectionOptions = some o ∧ src.aisStatus = some st ∧ src.aisReceiver = some rc

/-- **A start** either makes the objects of a connection, or leaves two objects to nobody. -/
theorem start_spec (src : AisSource Caps) (created : PacketReceiver.Options → Status) :
    Triple 0 (start src created) fun r own => ∃ started, r = .ok started ∧
      ((∃ o st rc, started.ok = true ∧ started.src.PointsAt o st rc ∧
        own = connection o st rc src.connectionOptions okStatus 0) ∨
      (started.ok = false ∧ started.src.aisReceiver = none ∧ Multiset.card own = 2)) := by
  refine Triple.new_bind fun st => ?_
  refine Triple.new_bind fun o => ?_
  refine Triple.modify_bind (k := AisObject.options) rfl ?_
  refine Triple.modify_bind (k := AisObject.options) rfl ?_
  refine Triple.modify_bind (k := AisObject.options) rfl ?_
  refine Triple.modify_bind (k := AisObject.options) rfl ?_
  refine Triple.modify_bind (k := AisObject.options) rfl ?_
  refine Triple.call (R := 0) (aisNewReceiver_spec created src.streamName src.receiverName)
    (by abel) fun r part hpart => ?_
  rcases hpart with ⟨rc, rfl, rfl⟩ | ⟨status', rfl, rfl⟩
  · refine Triple.pure ⟨_, rfl, Or.inl ⟨o, st, rc, rfl, ⟨rfl, rfl, rfl⟩, ?_⟩⟩
    exact add_zero _
  · refine message_bind (R := pointsTo o _) (by abel) (Triple.pure ⟨_, rfl, Or.inr ?_⟩)
    exact ⟨rfl, rfl, rfl⟩

variable {src : AisSource Caps} {o st rc pops : ℕ} {options : ConnectionOptions} {status : Status}

/-- **A stop** deletes the objects of the connection. -/
theorem stop_spec (h : src.PointsAt o st rc) :
    Triple (connection o st rc options status pops) (stop src) fun _ own => own = 0 := by
  obtain ⟨ho, hst, hrc⟩ := h
  unfold stop
  rw [ho, hst, hrc]
  refine Triple.delete_bind (R := pointsTo o (AisObject.connectionOptions options) +
    pointsTo st (AisObject.status status)) (by unfold connection; abel) ?_
  refine Triple.delete_bind (R := pointsTo st (AisObject.status status)) rfl ?_
  exact Triple.delete_last (add_zero _).symm rfl

theorem finalize_spec {b p : ℕ} {gstreamerBuffer : GstreamerBuffer} {packet : Packet}
    {own R : Objects AisObject} (r : Pulled Caps)
    (hown : own = pointsTo b (AisObject.gstreamerBuffer gstreamerBuffer) +
      (pointsTo p (AisObject.packet packet) + R)) :
    Triple own (finalize (some b) (some p) r) fun r' own' => r' = .ok r ∧ own' = R :=
  Triple.delete_bind hown (Triple.delete_bind rfl (Triple.pure ⟨rfl, rfl⟩))

theorem finalize_spec_null {p : ℕ} {packet : Packet} {own R : Objects AisObject}
    (r : Pulled Caps) (hown : own = pointsTo p (AisObject.packet packet) + R) :
    Triple own (finalize none (some p) r) fun r' own' => r' = .ok r ∧ own' = R :=
  Triple.delete_null_bind (Triple.delete_bind hown (Triple.pure ⟨rfl, rfl⟩))

theorem finalizeCreated_spec {b p : ℕ} {gstreamerBuffer : GstreamerBuffer} {packet : Packet}
    {own R : Objects AisObject} (x : OrFatal (Created Caps))
    (hown : own = pointsTo b (AisObject.gstreamerBuffer gstreamerBuffer) +
      (pointsTo p (AisObject.packet packet) + R)) :
    Triple own (finalizeCreated x (some b) (some p)) fun r own' =>
      r = x.map pulled ∧ ∀ c, x = .ok c → own' = R := by
  cases x with
  | error e => exact Triple.pure ⟨rfl, fun c hc => nomatch hc⟩
  | ok c =>
    refine (finalize_spec (pulled c) hown).mono ?_
    rintro r own ⟨rfl, rfl⟩
    exact ⟨rfl, fun _ _ => rfl⟩

/-- The caps are changed on the pad only. -/
theorem changeCaps_status (gst : GstCalls Caps) (src : AisSrc Caps) (capsString : Bytes) :
    (changeCaps gst src capsString).1.aisStatus = src.aisStatus := by
  unfold changeCaps
  cases src.srcpadCaps with
  | none => rfl
  | some caps => simp only; split <;> rfl

theorem handOut_src {gst : GstCalls Caps} {ret : GstFlowReturn} {src : AisSrc Caps}
    {notices : List Notice} {buffer : GstreamerBuffer} {c : Created Caps}
    (h : handOut gst ret src notices buffer = .ok c) : c.src = src := by
  unfold handOut at h
  split at h
  · cases h
    rfl
  · split at h
    · split at h
      · cases h
      · cases h
        rfl
    · cases h
      rfl

section Create

variable [Message RawImagePacketTypeDescriptor] [Message GstreamerBufferPacketTypeDescriptor]

/-- `createBuffer` on values. -/
def bufferOf (gst : GstCalls Caps) (src : AisSrc Caps) (packet : Packet) (outbuf : Option Bytes) :
    OrFatal (Created Caps) :=
  AIStreams.aisToGstreamerBuffer packet >>= fun (buffer, status) =>
    let src := { src with aisStatus := status }
    match buffer with
    | none => .ok ⟨.ok, outbuf, src, [.elementError src.message src.message]⟩
    | some buffer =>
      let (src, notices) := changeCaps gst src buffer.getCapsCstr
      handOut gst .ok src notices buffer

/-- **The conversion of a packet** leaves the status, and neither the packet nor the buffer. -/
theorem createBuffer_spec (gst : GstCalls Caps) (hst : src.aisStatus = some st) (status' : Status)
    {p : ℕ} {packet : Packet} (outbuf : Option Bytes) :
    Triple (pointsTo p (AisObject.packet packet) + pointsTo st (AisObject.status status))
      (createBuffer src gst (some p) outbuf) fun r own =>
        r = (bufferOf gst (src.value status') packet outbuf).map pulled ∧
          ∀ c, bufferOf gst (src.value status') packet outbuf = .ok c →
            own = pointsTo st (AisObject.status c.src.aisStatus) := by
  unfold createBuffer bufferOf
  rw [hst]
  refine Triple.call (R := 0) aisToGstreamerBuffer_spec (add_zero _).symm fun r part hpart => ?_
  unfold AIStreams.aisToGstreamerBuffer at hpart ⊢
  cases hconvert : packetToGstreamerBuffer packet with
  | error e =>
    rw [hconvert] at hpart
    obtain rfl : r = .error e := hpart
    exact Triple.pure ⟨rfl, fun c hc => nomatch hc⟩
  | ok converted =>
    rw [hconvert] at hpart
    cases converted with
    | error status'' hs =>
      obtain ⟨rfl, rfl⟩ : r = .ok none ∧ _ := hpart
      refine message_bind (R := pointsTo p (AisObject.packet packet)) (by abel) ?_
      refine (finalize_spec_null (R := pointsTo st (AisObject.status status'')) _ (by abel)).mono ?_
      rintro r own ⟨rfl, rfl⟩
      refine ⟨rfl, fun c hc => ?_⟩
      cases hc
      rfl
    | value buffer =>
      obtain ⟨b, rfl, rfl⟩ : ∃ b, r = .ok (some b) ∧ _ := hpart
      have hown : pointsTo p (AisObject.packet packet) + pointsTo st (AisObject.status okStatus) +
          pointsTo b (AisObject.gstreamerBuffer buffer) + 0 =
          pointsTo b (AisObject.gstreamerBuffer buffer) +
            (pointsTo p (AisObject.packet packet) + pointsTo st (AisObject.status okStatus)) := by
        abel
      refine getCapsString_bind hown ?_
      refine Triple.get_bind (k := AisObject.buffers) (x := buffer) hown ?_
      refine (finalizeCreated_spec _ hown).mono ?_
      rintro r own ⟨hr, hown'⟩
      refine ⟨hr, fun c hc => (hown' c hc).trans ?_⟩
      have hout : handOut gst .ok (changeCaps gst (src.value okStatus) buffer.getCapsCstr).1 _
        buffer = .ok c := hc
      rw [handOut_src hout, changeCaps_status]
      rfl

end Create

/-- The strings that a call leaves to nobody. -/
def reasons [Message ControlSignalPacketTypeDescriptor] : Option Packet → ℕ
  | none => 0
  | some p => if isEos p then 0 else 1

theorem aisReceivePacket_none {tryPop : Option ℕ → Option Packet} {timeoutInSec : Int32}
    (h : tryPop (receiveTimeout timeoutInSec) = none) (packet : Packet) : ∃ late,
    AIStreams.aisReceivePacket tryPop packet timeoutInSec = (packet, late) ∧ late.code ≠ .kOk := by
  unfold AIStreams.aisReceivePacket
  rw [h]
  refine ⟨_, rfl, ?_⟩
  intro hcode
  cases hcode

theorem aisReceivePacket_some {tryPop : Option ℕ → Option Packet} {timeoutInSec : Int32}
    {p : Packet} (h : tryPop (receiveTimeout timeoutInSec) = some p) (packet : Packet) :
    AIStreams.aisReceivePacket tryPop packet timeoutInSec = (p, okStatus) := by
  unfold AIStreams.aisReceivePacket
  rw [h]

section Cycles

variable [Message RawImagePacketTypeDescriptor] [Message GstreamerBufferPacketTypeDescriptor]
  [Message ControlSignalPacketTypeDescriptor] [Message EosValue]

section Value

variable {tryPop : Option ℕ → Option Packet} {src : AisSrc Caps} (gst : GstCalls Caps)
  (outbuf : Option Bytes)

/-- `aisSrcCreate` without a packet. -/
theorem aisSrcCreate_of_late {late : Status}
    (h : AIStreams.aisReceivePacket tryPop .default src.timeoutInSec = (.default, late))
    (hcode : late.code ≠ .kOk) : aisSrcCreate gst tryPop src outbuf =
      .ok ⟨.error, outbuf, { src with aisStatus := late },
        [.elementError (cString late.errorMessage) (cString late.errorMessage),
          .aisLog .error (cString late.errorMessage),
          .aisLog .error "Failed to receive packets"]⟩ := by
  simp only [aisSrcCreate, h]
  exact if_pos hcode

/-- `aisSrcCreate` with a packet. -/
theorem aisSrcCreate_of_reason {p : Packet} {reason : String} (h : popped tryPop src = some p)
    (hreason : isEosReason p "" = .ok (isEos p, reason)) : aisSrcCreate gst tryPop src outbuf =
      if isEos p then
        .ok ⟨.eos, outbuf, { src with aisStatus := okStatus }, [.aisLog .info (cString reason)]⟩
      else bufferOf gst src p outbuf := by
  have hreceive : tryPop (receiveTimeout src.timeoutInSec) = some p := h
  simp only [aisSrcCreate, aisReceivePacket_some hreceive, hreason, OrFatal.ok_bind]
  rfl

end Value

/-- **`ais_src_create` on pointers is `aisSrcCreate` on values**: it returns the same, and leaves
the connection with the status, and the reason of a packet that is no EOS. -/
theorem create_spec (gst : GstCalls Caps) (tryPop : ℕ → Option ℕ → Option Packet)
    (outbuf : Option Bytes) (h : src.PointsAt o st rc) :
    Triple (connection o st rc options status pops) (create src gst tryPop outbuf) fun r own =>
      r = (aisSrcCreate gst (tryPop pops) (src.value status) outbuf).map pulled ∧
        ∀ c, aisSrcCreate gst (tryPop pops) (src.value status) outbuf = .ok c → ∃ leaked,
          Multiset.card leaked = reasons (popped (tryPop pops) (src.value status)) ∧
          own = connection o st rc options c.src.aisStatus (pops + 1) + leaked := by
  obtain ⟨ho, hst, hrc⟩ := h
  unfold create
  rw [hst, hrc]
  refine Triple.call (R := pointsTo o _ + pointsTo rc _) aisNewPacket_spec
    (by unfold connection; abel) fun p part hpart => ?_
  obtain ⟨p, rfl, rfl⟩ := hpart
  refine Triple.call (R := pointsTo o _) (aisReceivePacket_spec tryPop src.timeoutInSec) (by abel)
    fun _ part hpart => ?_
  rw [hpart]
  refine getCode_bind (R := pointsTo rc _ + pointsTo p _ + pointsTo o _) (by abel) ?_
  cases hpop : popped (tryPop pops) (src.value status) with
  | none =>
    obtain ⟨late, hreceive, hcode⟩ := aisReceivePacket_none hpop .default
    rw [show AIStreams.aisReceivePacket (tryPop pops) .default src.timeoutInSec = _ from hreceive,
      aisSrcCreate_of_late gst outbuf hreceive hcode, if_pos hcode]
    refine message_bind (R := pointsTo rc _ + pointsTo p _ + pointsTo o _) (by abel) ?_
    refine (finalize_spec_null (R := connection o st rc options late (pops + 1)) _
      (by unfold connection; abel)).mono ?_
    rintro r own ⟨rfl, rfl⟩
    refine ⟨rfl, fun c hc => ?_⟩
    cases hc
    exact ⟨0, rfl, (add_zero _).symm⟩
  | some packet =>
    rw [show AIStreams.aisReceivePacket (tryPop pops) .default src.timeoutInSec = _ from
      aisReceivePacket_some hpop .default, if_neg (not_not.mpr okStatus_code)]
    refine Triple.call (R := pointsTo rc _ + pointsTo st _ + pointsTo o _) aisIsEos_spec (by abel)
      fun r part hpart => ?_
    obtain ⟨a, reason, hreason, rfl, rfl⟩ := hpart
    rw [aisSrcCreate_of_reason gst outbuf hpop hreason]
    cases heos : isEos packet with
    | true =>
      refine Triple.get_bind (k := AisObject.cStrings) (x := cString reason)
        (R := pointsTo p _ + (pointsTo rc _ + pointsTo st _ + pointsTo o _)) (by abel) ?_
      refine Triple.delete_bind (v := AisObject.cString (cString reason))
        (R := pointsTo p _ + (pointsTo rc _ + pointsTo st _ + pointsTo o _)) (by abel) ?_
      refine (finalize_spec_null (R := connection o st rc options okStatus (pops + 1)) _
        (by unfold connection; abel)).mono ?_
      rintro r own ⟨rfl, rfl⟩
      refine ⟨rfl, fun c hc => ?_⟩
      cases hc
      refine ⟨0, ?_, (add_zero _).symm⟩
      rw [reasons, heos]
      rfl
    | false =>
      refine (createBuffer_spec gst hst status outbuf).tail
        (R := pointsTo a _ + (pointsTo rc _ + pointsTo o _)) (by abel) fun r part hpart => ?_
      obtain ⟨hr, hpart⟩ := hpart
      refine ⟨hr, fun c hc => ⟨pointsTo a (AisObject.cString (cString reason)), ?_, ?_⟩⟩
      · rw [reasons, heos]
        rfl
      · rw [hpart c hc]
        unfold connection
        abel

/-! ### Life cycles -/

open Transition

/-- A call of `create`: what it popped, and what it returned. -/
structure Call (Caps : Type) where
  popped : Option Packet
  pulled : Pulled Caps

/-- An element in its life cycle.  `connected`: between a successful `start` and the following
`stop`.  The session since the last successful `start` pops the queue `tryPop`, and `calls` are its
calls of `create`; `strings` counts the reasons that were made for packets that are no EOS. -/
structure State (Caps : Type) where
  src : AisSource Caps
  heap : Heap AisObject
  connected : Bool
  failedStarts : ℕ
  strings : ℕ
  tryPop : ℕ → Option ℕ → Option Packet
  calls : List (Call Caps)

inductive Op (Caps : Type)
  | set (src : AisSource Caps)
  | start (created : PacketReceiver.Options → Status) (tryPop : ℕ → Option ℕ → Option Packet)
  | create (outbuf : Option Bytes)
  | stop

/-- What the next call of `create` pops. -/
def State.next (s : State Caps) : Option Packet :=
  s.tryPop s.calls.length (receiveTimeout s.src.timeoutInSec)

/-- The element after a `start`. -/
def State.afterStart (s : State Caps) (tryPop : ℕ → Option ℕ → Option Packet)
    (started : Started Caps) (heap : Heap AisObject) : State Caps where
  src := started.src
  heap := heap
  connected := started.ok
  failedStarts := if started.ok then s.failedStarts else s.failedStarts + 1
  strings := s.strings
  tryPop := tryPop
  calls := []

/-- The element after a `create`. -/
def State.afterCreate (s : State Caps) (r : Pulled Caps) (heap : Heap AisObject) : State Caps :=
  { s with
    src := { s.src with srcpadCaps := r.srcpadCaps }
    heap := heap
    strings := s.strings + reasons s.next
    calls := s.calls ++ [⟨s.next, r⟩] }

/-- Every sequence of calls: no `start` while the element is connected, a `create` or a `stop` only
while it is.  Properties, and the caps of the pad, may change at any time; a `create` that ends in
a fatal error has no next state. -/
inductive Step (gst : GstCalls Caps) : State Caps → Op Caps → State Caps → Prop
  | set {s : State Caps} (src : AisSource Caps) :
      src.aisConnectionOptions = s.src.aisConnectionOptions →
      src.aisStatus = s.src.aisStatus → src.aisReceiver = s.src.aisReceiver →
      Step gst s (.set src) { s with src := src }
  | start {s : State Caps} (created : PacketReceiver.Options → Status)
      (tryPop : ℕ → Option ℕ → Option Packet) {started : Started Caps} {heap : Heap AisObject} :
      s.connected = false → start s.src created s.heap = .ok (.ok started, heap) →
      Step gst s (.start created tryPop) (s.afterStart tryPop started heap)
  | create {s : State Caps} (outbuf : Option Bytes) {r : Pulled Caps} {heap : Heap AisObject} :
      s.connected = true → create s.src gst s.tryPop outbuf s.heap = .ok (.ok r, heap) →
      Step gst s (.create outbuf) (s.afterCreate r heap)
  | stop {s : State Caps} {heap : Heap AisObject} :
      s.connected = true → stop s.src s.heap = .ok ((), heap) →
      Step gst s .stop { s with heap := heap, connected := false }

/-- An element just made. -/
def system (gst : GstCalls Caps) : System (State Caps) (Op Caps) where
  init s := s.heap = .empty ∧ s.connected = false ∧ s.failedStarts = 0 ∧ s.strings = 0 ∧
    s.calls = []
  step := Step gst

/-- A call that did what `aisSrcCreate` does. -/
def Call.Right (gst : GstCalls Caps) (call : Call Caps) : Prop :=
  ∃ tryPop src outbuf c, AIStreams.popped tryPop src = call.popped ∧
    aisSrcCreate gst tryPop src outbuf = .ok c ∧ AisSource.pulled c = call.pulled

/-- The objects of a connected element. -/
def Connected (s : State Caps) (leaked : Objects AisObject) : Prop :=
  ∃ o st rc options status, s.src.PointsAt o st rc ∧
    s.heap.objects.entries = connection o st rc options status s.calls.length + leaked

/-- **The invariant**: the objects that are there are those of the connection, and those that were
leaked. -/
structure Inv (gst : GstCalls Caps) (s : State Caps) : Prop where
  objects : ∃ leaked, Multiset.card leaked = 2 * s.failedStarts + s.strings ∧
    (s.connected = true → Connected s leaked) ∧
    (s.connected = false → s.heap.objects.entries = leaked)
  calls : ∀ call ∈ s.calls, call.Right gst

variable {gst : GstCalls Caps}

theorem inv_start {s : State Caps} (h : Inv gst s) (created : PacketReceiver.Options → Status)
    (tryPop : ℕ → Option ℕ → Option Packet) {started : Started Caps} {heap : Heap AisObject}
    (hs : s.connected = false) (hstart : start s.src created s.heap = .ok (.ok started, heap)) :
    Inv gst (s.afterStart tryPop started heap) := by
  obtain ⟨leaked, hcard, _, hrest⟩ := h.objects
  obtain ⟨own, hentries, started', heq, hown⟩ := (start_spec s.src created).of_run
    (show s.heap.objects.entries = 0 + leaked by rw [zero_add, hrest hs]) hstart
  cases heq
  refine ⟨?_, fun call hcall => nomatch hcall⟩
  rcases hown with ⟨o, st, rc, hok, hpoints, rfl⟩ | ⟨hok, _, htwo⟩
  · refine ⟨leaked, ?_, fun _ => ⟨o, st, rc, _, _, hpoints, hentries⟩, fun hnot => ?_⟩
    · simpa [State.afterStart, hok] using hcard
    · cases hok.symm.trans hnot
  · refine ⟨own + leaked, ?_, fun hcon => ?_, fun _ => hentries⟩
    · simp only [State.afterStart, hok, Multiset.card_add, htwo, hcard]
      simp only [Bool.false_eq_true, if_false]
      omega
    · cases hok.symm.trans hcon

theorem inv_create {s : State Caps} (h : Inv gst s) (outbuf : Option Bytes) {r : Pulled Caps}
    {heap : Heap AisObject} (hs : s.connected = true)
    (hcreate : create s.src gst s.tryPop outbuf s.heap = .ok (.ok r, heap)) :
    Inv gst (s.afterCreate r heap) := by
  obtain ⟨leaked, hcard, hconnected, _⟩ := h.objects
  obtain ⟨o, st, rc, options, status, hpoints, hentries⟩ := hconnected hs
  obtain ⟨own, hentries', hr, hown⟩ :=
    (create_spec gst s.tryPop outbuf hpoints).of_run hentries hcreate
  cases hvalue : aisSrcCreate gst (s.tryPop s.calls.length) (s.src.value status) outbuf with
  | error e =>
    rw [hvalue] at hr
    cases hr
  | ok c =>
    rw [hvalue] at hr
    obtain rfl : r = pulled c := Except.ok.inj hr
    obtain ⟨string, hstring, rfl⟩ := hown c hvalue
    refine ⟨⟨string + leaked, ?_, fun _ => ⟨o, st, rc, options, c.src.aisStatus, hpoints, ?_⟩,
      fun hnot => ?_⟩, ?_⟩
    · have hnext : reasons (popped (s.tryPop s.calls.length) (s.src.value status)) =
        reasons s.next := rfl
      simp only [State.afterCreate, Multiset.card_add, hstring, hcard, hnext]
      omega
    · simp only [State.afterCreate, List.length_append, List.length_singleton]
      rw [hentries', add_assoc]
    · cases hs.symm.trans hnot
    · intro call hcall
      rcases List.mem_append.mp hcall with hcall | hcall
      · exact h.calls call hcall
      · obtain rfl := List.mem_singleton.mp hcall
        exact ⟨s.tryPop s.calls.length, s.src.value status, outbuf, c, rfl, hvalue, rfl⟩

theorem inv_stop {s : State Caps} (h : Inv gst s) {heap : Heap AisObject}
    (hs : s.connected = true) (hstop : stop s.src s.heap = .ok ((), heap)) :
    Inv gst { s with heap := heap, connected := false } := by
  obtain ⟨leaked, hcard, hconnected, _⟩ := h.objects
  obtain ⟨o, st, rc, options, status, hpoints, hentries⟩ := hconnected hs
  obtain ⟨own, hentries', rfl⟩ := (stop_spec hpoints).of_run hentries hstop
  refine ⟨⟨leaked, hcard, fun hcon => ?_, fun _ => hentries'.trans (zero_add leaked)⟩, h.calls⟩
  cases hcon

theorem inv_of_reachable {s : State Caps} (h : (system gst).Reachable s) : Inv gst s := by
  refine h.invariant ?_ ?_
  · rintro s ⟨hheap, hconnected, hfailed, hstrings, hcalls⟩
    refine ⟨⟨0, by rw [hfailed, hstrings]; rfl, fun hcon => ?_, fun _ => ?_⟩, fun call hcall => ?_⟩
    · cases hconnected.symm.trans hcon
    · rw [hheap]
      rfl
    · rw [hcalls] at hcall
      cases hcall
  · intro s l s' _ ih hs
    cases hs with
    | set src hoptions hstatus hreceiver =>
      obtain ⟨leaked, hcard, hconnected, hrest⟩ := ih.objects
      refine ⟨⟨leaked, hcard, fun hcon => ?_, hrest⟩, ih.calls⟩
      obtain ⟨o, st, rc, options, status, ⟨ho, hst, hrc⟩, hentries⟩ := hconnected hcon
      exact ⟨o, st, rc, options, status,
        ⟨hoptions.trans ho, hstatus.trans hst, hreceiver.trans hrc⟩, hentries⟩
    | start created tryPop hcon hstart => exact inv_start ih created tryPop hcon hstart
    | create outbuf hcon hcreate => exact inv_create ih outbuf hcon hcreate
    | stop hcon hstop => exact inv_stop ih hcon hstop

/-- No call faults, and what is there is the connection, if there is one, two objects for each
`start` that has failed, and a string for each packet received that was no EOS. -/
structure Safe (gst : GstCalls Caps) (s : State Caps) : Prop where
  start : s.connected = false → ∀ created, ∃ r heap,
    AisSource.start s.src created s.heap = .ok (.ok r, heap)
  create : s.connected = true → ∀ outbuf, ∃ r heap,
    AisSource.create s.src gst s.tryPop outbuf s.heap = .ok (r, heap)
  stop : s.connected = true → ∃ heap, AisSource.stop s.src s.heap = .ok ((), heap)
  objects : Multiset.card s.heap.objects.entries =
    2 * s.failedStarts + s.strings + if s.connected then 3 else 0

/-- **`aissrc` never touches what it has deleted**, over any number of life cycles; what it leaks
are the two objects of each `start` that fails, and one string for each packet that is no EOS. -/
theorem sound_of_reachable {s : State Caps} (h : (system gst).Reachable s) : Safe gst s := by
  obtain ⟨leaked, hcard, hconnected, hrest⟩ := (inv_of_reachable h).objects
  refine ⟨fun hs created => ?_, fun hs outbuf => ?_, fun hs => ?_, ?_⟩
  · obtain ⟨r, heap, own, hrun, _, started, rfl, _⟩ := start_spec s.src created s.heap leaked
      (show s.heap.objects.entries = 0 + leaked by rw [zero_add, hrest hs])
    exact ⟨started, heap, hrun⟩
  · obtain ⟨o, st, rc, options, status, hpoints, hentries⟩ := hconnected hs
    exact (create_spec gst s.tryPop outbuf hpoints).exists_run hentries
  · obtain ⟨o, st, rc, options, status, hpoints, hentries⟩ := hconnected hs
    obtain ⟨_, heap, hrun⟩ := (stop_spec hpoints).exists_run hentries
    exact ⟨heap, hrun⟩
  · cases hs : s.connected with
    | false =>
      rw [hrest hs, hcard]
      rfl
    | true =>
      obtain ⟨o, st, rc, options, status, _, hentries⟩ := hconnected hs
      rw [hentries, Multiset.card_add, hcard, add_comm]
      rfl

end Cycles

/-- `ais_src_init`. -/
def madeSource : AisSource Bytes where
  targetAddress := ""
  streamName := ""
  receiverName := ""
  authenticateWithGoogle := false
  timeoutInSec := -1
  useInsecureChannel := false
  sslDomainName := "aistreams.googleapis.com"
  sslRootCertPath := ""
  aisConnectionOptions := none
  aisStatus := none
  aisReceiver := none
  srcpadCaps := none

open WireMessages in
/-- A start that fails, one that does not, and a packet that is no buffer. -/
theorem safe_received : ∃ s : State Bytes, (system succeedingCalls).Reachable s ∧
    s.connected = true ∧ s.failedStarts = 1 ∧ s.strings = 1 ∧ Safe succeedingCalls s := by
  have hmade : (system succeedingCalls).Reachable
      ⟨madeSource, .empty, false, 0, 0, fun _ _ => none, []⟩ := .init ⟨rfl, rfl, rfl, rfl, rfl⟩
  have hfailed := hmade.step
    (Step.start (fun _ => unavailableError "") (fun _ _ => none) rfl rfl)
  have hstarted := hfailed.step (Step.start (fun _ => okStatus) (fun _ _ => some .default) rfl rfl)
  have hreceived := hstarted.step (Step.create none rfl rfl)
  exact ⟨_, hreceived, rfl, rfl, rfl, sound_of_reachable hreceived⟩

end AisSource

end AIStreams
