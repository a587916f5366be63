import AIStreams.Base.ReplayRequest
import Mathlib.Data.List.Basic

/-!
# Receiving by unary calls

`PacketReceiver` of `aistreams/base/packet_receiver.{h,cc}` in unary mode, with the client context
that `aistreams/base/stream_channel.cc` and `aistreams/base/util/grpc_helpers.cc` make for a call.

* `carriesOffset`: which requests carry the offset, over every run.
* `timeoutEnforced_iff`: for which options a call has the deadline it should have.
-/

namespace AIStreams

/-! ### The context of a call -/

namespace Duration

/-- `d < d'`. -/
def lt (d d' : Duration) : Bool := !d'.le d

/-- `std::min(d, d')`. -/
def min (d d' : Duration) : Duration := if d'.lt d then d' else d

/-- A timeout that is used: positive and not infinite. -/
def isActive (d : Duration) : Bool := zero.lt d && d.lt .infinite

@[simp] theorem isActive_negInfinite : isActive .negInfinite = false := rfl

@[simp] theorem isActive_ticks (n : ℤ) : isActive (.ticks n) = decide (0 < n) := by
  simp [isActive, lt, le, zero, ← decide_not]

end Duration

def kStreamMetadataKeyName : String := "stream"

/-- `grpc::ClientContext`, before the call: `T` are the points in time of `std::chrono`. -/
structure CallContext (T : Type) where
  metadata : List (String × String)
  waitForReady : Bool
  deadline : Option T

/-- What is asked of the system: the clock, its conversion, and the token of the service account. -/
structure CallEnv (T : Type) where
  now : ℤ
  toChronoTime : Time → T
  idToken : StatusOr String

section Context

variable {T : Type}

/-- `FillGrpcClientContext`. -/
def fillGrpcClientContext (env : CallEnv T) (options : RpcOptions) (ctx : CallContext T) :
    Status × CallContext T :=
  let ctx := { ctx with waitForReady := options.waitForReady }
  if options.timeout.isActive then
    (okStatus,
      { ctx with deadline := some (env.toChronoTime (Time.after env.now options.timeout)) })
  else (okStatus, ctx)

/-- `StreamChannel::MakeClientContext`. -/
def makeClientContext (env : CallEnv T) (options : StreamChannel.Options) :
    StatusOr (CallContext T) :=
  let ctx : CallContext T := ⟨[], false, none⟩
  let ctx :=
    if options.streamName = "" then ctx
    else { ctx with metadata := ctx.metadata ++ [(kStreamMetadataKeyName, options.streamName)] }
  let ctx :=
    if options.connectionOptions.authenticateWithGoogle then
      match env.idToken with
      | .error _ _ => ctx
      | .value token =>
        { ctx with metadata := ctx.metadata ++ [("authorization", "Bearer " ++ token)] }
    else ctx
  let (status, ctx) := fillGrpcClientContext env options.connectionOptions.rpcOptions ctx
  if status.ok = false then .ofStatus status else .value ctx

/-- The deadline of every context that is made. -/
theorem makeClientContext_deadline (env : CallEnv T) (options : StreamChannel.Options) :
    ∃ ctx, makeClientContext env options = .value ctx ∧ ctx.deadline =
      if options.connectionOptions.rpcOptions.timeout.isActive then
        some (env.toChronoTime
          (Time.after env.now options.connectionOptions.rpcOptions.timeout))
      else none := by
  unfold makeClientContext fillGrpcClientContext
  cases options.connectionOptions.rpcOptions.timeout.isActive with
  | true => exact ⟨_, rfl, rfl⟩
  | false =>
    refine ⟨_, rfl, ?_⟩
    split
    · split <;> split <;> rfl
    · split <;> rfl

end Context

namespace PacketReceiver

/-! ### The receiver -/

/-- The options of the channel that `Initialize` makes. -/
def channelOptions (options : Options) : StreamChannel.Options :=
  let channel : StreamChannel.Options := ⟨options.connectionOptions, options.streamName⟩
  if options.receiverMode = .unaryReceive ∧ options.timeout.isActive then
    { channel with
      connectionOptions.rpcOptions.timeout :=
        channel.connectionOptions.rpcOptions.timeout.min options.timeout }
  else channel

structure ReceiveOnePacketRequest where
  consumerName : String
  blocking : Bool
  offsetConfig : Option OffsetConfig
  deriving DecidableEq

structure ReceiveOnePacketResponse where
  valid : Bool
  packet : Packet

/-- How one call goes: the status of its context, and what the server answers. -/
structure UnaryOutcome where
  context : Status
  rpc : GrpcStatus
  response : ReceiveOnePacketResponse

/-- What one call did: the request, if it was issued, the status, and `*packet` at the end. -/
structure UnaryCall where
  request : Option ReceiveOnePacketRequest
  status : Status
  packet : Packet

/-- The request of a call after `received` others have succeeded. -/
def unaryRequest (options : Options) (received : Int32) : ReceiveOnePacketRequest where
  blocking := true
  consumerName := options.receiverName
  offsetConfig :=
    if received = 0 ∧ options.offsetOptions.resetOffset then
      some (toProtoOffsetConfig options.offsetOptions.offsetPosition)
    else none

/-- `UnaryReceive`; `received` is `unary_packets_received_`. -/
def unaryReceive (options : Options) (outcome : UnaryOutcome) (received : Int32)
    (packet : Packet) : UnaryCall × Int32 :=
  if outcome.context.ok = false then
    (⟨none, internalError "Failed to create a grpc client context", packet⟩, received)
  else
    let request := unaryRequest options received
    if outcome.rpc.errorCode ≠ .ok then
      (⟨some request, makeStatusFromRpcStatus outcome.rpc, packet⟩, received)
    else if outcome.response.valid = false then
      (⟨some request, notFoundError "The response does not contain a packet.", packet⟩,
        received + 1)
    else (⟨some request, okStatus, outcome.response.packet⟩, received + 1)

/-- A run of calls, each with what its caller had in `*packet`. -/
def unaryCalls (options : Options) : Int32 → List (UnaryOutcome × Packet) → List UnaryCall
  | _, [] => []
  | received, (outcome, packet) :: rest =>
    (unaryReceive options outcome received packet).1 ::
      unaryCalls options (unaryReceive options outcome received packet).2 rest

/-- The RPC of a call succeeded. -/
def UnaryOutcome.succeeded (outcome : UnaryOutcome) : Bool :=
  outcome.context.ok && decide (outcome.rpc.errorCode = .ok)

/-! ### The offset -/

/-- How a call that comes after the calls `before` should treat the offset and `*packet`. -/
structure AppliesOffset (options : Options) (before : List (UnaryOutcome × Packet))
    (c : UnaryOutcome × Packet) (call : UnaryCall) : Prop where
  issued : call.request.isSome = c.1.context.ok
  applied : (∀ b ∈ before, b.1.succeeded = false) → ∀ request, call.request = some request →
    request.offsetConfig = some (toProtoOffsetConfig options.offsetOptions.offsetPosition)
  dropped : (∃ b ∈ before, b.1.succeeded = true) → ∀ request, call.request = some request →
    request.offsetConfig = none
  kept : call.status.ok = false → call.packet = c.2

/-- The RPCs that have succeeded. -/
def successes (calls : List (UnaryOutcome × Packet)) : ℕ := calls.countP fun c => c.1.succeeded

section Offset

variable {options : Options} {before : List (UnaryOutcome × Packet)} {received : Int32}
  {c : UnaryOutcome × Packet}

theorem request_of_unaryReceive {request : ReceiveOnePacketRequest}
    (h : (unaryReceive options c.1 received c.2).1.request = some request) :
    request = unaryRequest options received := by
  unfold unaryReceive at h
  split at h
  · cases h
  · split at h
    · exact (Option.some.inj h).symm
    · split at h <;> exact (Option.some.inj h).symm

/-- **One call**, when the counter is right. -/
theorem appliesOffset_unaryReceive (hreset : options.offsetOptions.resetOffset = true)
    (hreceived : received.toInt = successes before) :
    AppliesOffset options before c (unaryReceive options c.1 received c.2).1 := by
  have hzero : received = 0 ↔ ∀ b ∈ before, b.1.succeeded = false := by
    rw [← Int32.toInt_inj, hreceived]
    simp [successes]
  refine ⟨?_, fun hnone request h => ?_, fun hsome request h => ?_, fun h => ?_⟩
  · unfold unaryReceive
    cases hcontext : c.1.context.ok with
    | false => rfl
    | true =>
      simp only [Bool.true_eq_false, if_false]
      split
      · rfl
      · split <;> rfl
  · rw [request_of_unaryReceive h, unaryRequest]
    exact if_pos ⟨hzero.mpr hnone, hreset⟩
  · rw [request_of_unaryReceive h, unaryRequest]
    refine if_neg fun hboth => ?_
    obtain ⟨b, hb, hsucceeded⟩ := hsome
    rw [hzero.mp hboth.1 b hb] at hsucceeded
    cases hsucceeded
  · unfold unaryReceive at h ⊢
    split
    · rfl
    · split
      · rfl
      · split
        · rfl
        · simp_all

/-- **The counter counts the successes**, while it has room. -/
theorem counter_unaryReceive (hroom : successes before < 2 ^ 31 - 1)
    (hreceived : received.toInt = successes before) :
    (unaryReceive options c.1 received c.2).2.toInt = successes (before ++ [c]) := by
  have hnext : (received + 1).toInt = successes before + 1 := by
    rw [Int32.toInt_add, hreceived, Int32.toInt_one]
    exact Int.bmod_eq_of_le (by omega) (by omega)
  have hcount : successes (before ++ [c]) = successes before + if c.1.succeeded then 1 else 0 := by
    simp [successes, List.countP_append, List.countP_singleton]
  rw [hcount, UnaryOutcome.succeeded]
  unfold unaryReceive
  cases hcontext : c.1.context.ok with
  | false => simpa using hreceived
  | true =>
    by_cases hrpc : c.1.rpc.errorCode = .ok
    · cases c.1.response.valid <;> simpa [hrpc] using hnext
    · simpa [hrpc] using hreceived

theorem appliesOffset_run (hreset : options.offsetOptions.resetOffset = true)
    (hreceived : received.toInt = successes before) {calls : List (UnaryOutcome × Packet)}
    (hlen : before.length + calls.length < 2 ^ 31) {i : ℕ} (hi : calls[i]? = some c) :
    ∃ call, (unaryCalls options received calls)[i]? = some call ∧
      AppliesOffset options (before ++ calls.take i) c call := by
  induction calls generalizing before received i with
  | nil => cases hi
  | cons first calls ih =>
    cases i with
    | zero =>
      obtain rfl : first = c := Option.some.inj hi
      refine ⟨_, rfl, ?_⟩
      rw [List.take_zero, List.append_nil]
      exact appliesOffset_unaryReceive hreset hreceived
    | succ i =>
      have hroom : successes before < 2 ^ 31 - 1 := by
        have hle : successes before ≤ before.length := List.countP_le_length
        rw [List.length_cons] at hlen
        omega
      have hnext : (unaryReceive options first.1 received first.2).2.toInt =
          successes (before ++ [first]) := counter_unaryReceive hroom hreceived
      have hlen' : (before ++ [first]).length + calls.length < 2 ^ 31 := by
        rw [List.length_append, List.length_singleton]
        rw [List.length_cons] at hlen
        omega
      obtain ⟨call, hcall, happlies⟩ := ih hnext hlen' hi
      refine ⟨call, hcall, ?_⟩
      rwa [List.append_assoc] at happlies

/-- **The offset is applied until it takes effect and never again**, in every run of fewer than
`2 ^ 31` calls. -/
theorem unaryCalls_appliesOffset (hreset : options.offsetOptions.resetOffset = true)
    {calls : List (UnaryOutcome × Packet)} (hlen : calls.length < 2 ^ 31) {i : ℕ}
    (hi : calls[i]? = some c) :
    ∃ call, (unaryCalls options 0 calls)[i]? = some call ∧
      AppliesOffset options (calls.take i) c call := by
  have hrun : ∃ call, (unaryCalls options 0 calls)[i]? = some call ∧
      AppliesOffset options ([] ++ calls.take i) c call :=
    appliesOffset_run hreset rfl (by simpa using hlen) hi
  exact hrun

/-- A call that cannot be issued, one whose RPC fails, one with an invalid response, and one with
a packet. -/
def fourCalls : List (UnaryOutcome × Packet) :=
  [(⟨internalError "", ⟨.ok, ""⟩, ⟨true, .default⟩⟩, .default),
    (⟨okStatus, ⟨.unavailable, ""⟩, ⟨true, .default⟩⟩, .default),
    (⟨okStatus, ⟨.ok, ""⟩, ⟨false, .default⟩⟩, .default),
    (⟨okStatus, ⟨.ok, ""⟩, ⟨true, .default⟩⟩, .default)]

/-- The last of them is sent without the offset. -/
theorem unaryCalls_appliesOffset_last :
    ∃ call, (unaryCalls { offsetOptions := ⟨true, .int64 7⟩ } 0 fourCalls)[3]? = some call ∧
      AppliesOffset { offsetOptions := ⟨true, .int64 7⟩ } (fourCalls.take 3)
        (⟨okStatus, ⟨.ok, ""⟩, ⟨true, .default⟩⟩, .default) call :=
  unaryCalls_appliesOffset rfl (by decide) rfl

end Offset

/-! ### The timeout -/

/-- The smallest of the timeouts that are active. -/
def smallestActive (d d' : Duration) : Option Duration :=
  if d.isActive then some (if d'.isActive then d.min d' else d)
  else if d'.isActive then some d' else none

/-- A context made for a call has the deadline that the two timeouts ask for. -/
def TimeoutEnforced (options : Options) : Prop :=
  ∀ (T : Type) (env : CallEnv T), ∃ ctx,
    makeClientContext env (channelOptions options) = .value ctx ∧ ctx.deadline =
      (smallestActive options.connectionOptions.rpcOptions.timeout options.timeout).map
        fun d => env.toChronoTime (Time.after env.now d)

/-- What `Initialize` makes of the timeout of the RPCs. -/
def effectiveTimeout (rpc timeout : Duration) : Duration :=
  if timeout.isActive then rpc.min timeout else rpc

/-- A timeout, if it is used. -/
def used (d : Duration) : Option Duration := if d.isActive then some d else none

/-- **The plain minimum** is the smallest active timeout exactly if it is not one that is switched
off. -/
theorem used_effectiveTimeout_iff (rpc timeout : Duration) :
    used (effectiveTimeout rpc timeout) = smallestActive rpc timeout ↔
      (timeout.isActive = true → Duration.zero.lt rpc = true) := by
  cases htimeout : timeout.isActive with
  | false => simp [effectiveTimeout, smallestActive, used, htimeout]
  | true =>
    cases timeout with
    | negInfinite => cases htimeout
    | infinite => cases htimeout
    | ticks m =>
      have hm : 0 < m := by simpa using htimeout
      cases rpc with
      | negInfinite =>
        simp [effectiveTimeout, smallestActive, used, Duration.min, Duration.lt, Duration.le, hm]
      | infinite =>
        simp [effectiveTimeout, smallestActive, used, Duration.min, Duration.lt, Duration.le, hm,
          Duration.zero]
      | ticks n =>
        by_cases hn : 0 < n
        · by_cases hmn : m < n <;>
            simp [effectiveTimeout, smallestActive, used, Duration.min, Duration.lt, Duration.le,
              Duration.zero, hm, hn, hmn]
        · have hmn : ¬ m < n := by omega
          simp [effectiveTimeout, smallestActive, used, Duration.min, Duration.lt, Duration.le,
            Duration.zero, hm, hn, hmn]

/-- **When a call has the deadline it should have**: exactly if a receiver with an active timeout
has not switched that of its RPCs off by a value that is not positive. -/
theorem timeoutEnforced_iff {options : Options} (hmode : options.receiverMode = .unaryReceive) :
    TimeoutEnforced options ↔
      (options.timeout.isActive = true →
        Duration.zero.lt options.connectionOptions.rpcOptions.timeout = true) := by
  have hchannel : (channelOptions options).connectionOptions.rpcOptions.timeout =
      effectiveTimeout options.connectionOptions.rpcOptions.timeout options.timeout := by
    unfold channelOptions effectiveTimeout
    cases options.timeout.isActive <;> simp [hmode]
  rw [← used_effectiveTimeout_iff, ← hchannel]
  have hdeadline : ∀ (T : Type) (env : CallEnv T), ∃ ctx,
      makeClientContext env (channelOptions options) = .value ctx ∧ ctx.deadline =
        (used (channelOptions options).connectionOptions.rpcOptions.timeout).map
          fun d => env.toChronoTime (Time.after env.now d) := by
    intro T env
    obtain ⟨ctx, hctx, hdeadline⟩ := makeClientContext_deadline env (channelOptions options)
    refine ⟨ctx, hctx, hdeadline.trans ?_⟩
    unfold used
    split <;> rfl
  constructor
  · intro h
    -- a clock that shows the epoch, and points in time as they are
    obtain ⟨ctx, hctx, hexpected⟩ := h Time ⟨0, id, .value ""⟩
    obtain ⟨ctx', hctx', hactual⟩ := hdeadline Time ⟨0, id, .value ""⟩
    obtain rfl := StatusOr.value.inj (hctx.symm.trans hctx')
    refine Option.map_injective ?_ (hactual.symm.trans hexpected)
    intro d d' hafter
    have hid : ∀ d : Duration, Time.after 0 d = d := by
      intro d
      cases d <;> simp [Time.after, Duration.addTicks]
    exact (hid d).symm.trans (hafter.trans (hid d'))
  · intro h T env
    rw [← h]
    exact hdeadline T env

/-- Without a timeout of the RPCs. -/
theorem timeoutEnforced_fiveSeconds :
    TimeoutEnforced { receiverMode := .unaryReceive, timeout := .seconds 5 } :=
  (timeoutEnforced_iff rfl).mpr fun _ => rfl

/-- A timeout of five seconds, and one of minus one second for the RPCs. -/
def switchedOff : Options where
  receiverMode := .unaryReceive
  timeout := .seconds 5
  connectionOptions := { rpcOptions := { timeout := .seconds (-1) } }

/-- **A timeout that is switched off for the RPCs switches the receiver's off.** -/
theorem not_timeoutEnforced_switchedOff : ¬ TimeoutEnforced switchedOff := by
  intro h
  obtain ⟨ctx, hctx, hdeadline⟩ := h Unit ⟨0, fun _ => (), .value ""⟩
  have hnone : makeClientContext ⟨0, fun _ => (), .value ""⟩ (channelOptions switchedOff) =
      .value (⟨[], false, none⟩ : CallContext Unit) := rfl
  obtain rfl := StatusOr.value.inj (hctx.symm.trans hnone)
  cases hdeadline

end PacketReceiver

end AIStreams
