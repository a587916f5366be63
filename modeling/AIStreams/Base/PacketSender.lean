import AIStreams.Base.UnaryReceive
import AIStreams.Trace.Instrumentation
import AIStreams.Util.FileHelpers

/-!
# `PacketSender`

`aistreams/base/packet_sender.{h,cc}`, the channel that `aistreams/base/stream_channel.cc` and
`aistreams/base/util/grpc_helpers.cc` make for it, and `MakePacketSender` of
`aistreams/base/wrappers/senders.cc`.  The RPC stack is an oracle, and a sender is what it asks of
it: the list of its calls, from `Create` to the destructor.

* `createGrpcChannel_eq_some`: a channel is insecure only if that was asked for.
* `session_spec`: a session is one `SendPackets`, a `Write` for each `Send`, and a proper end, or
  one `SendOnePacket` for each `Send`.
-/

namespace AIStreams

/-! ### Channels -/

/-- `grpc::ChannelArguments`, as far as they are set. -/
structure ChannelArguments where
  maxReceiveMessageSize : Option Int32 := none
  maxSendMessageSize : Option Int32 := none
  sslTargetNameOverride : Option String := none
  deriving DecidableEq

inductive ChannelCredentials
  | insecure
  | ssl (pemRootCerts : Bytes)
  deriving DecidableEq

/-- What `grpc::CreateCustomChannel` is asked for. -/
structure GrpcChannel where
  targetAddress : String
  credentials : ChannelCredentials
  arguments : ChannelArguments
  deriving DecidableEq

/-- The files, and how reading one of them goes. -/
structure CertificateFiles where
  file : String → Option Bytes
  reads : String → ℕ → Stdio.Read

def setCommonChannelArgs (channelArgs : ChannelArguments) : ChannelArguments :=
  { channelArgs with maxReceiveMessageSize := some (-1), maxSendMessageSize := some (-1) }

def createInsecureGrpcChannel (targetAddress : String) : GrpcChannel where
  targetAddress := targetAddress
  credentials := .insecure
  arguments := setCommonChannelArgs {}

def createSecureGrpcChannel (files : CertificateFiles)
    (targetAddress sslDomainName sslRootCertPath : String) : Option GrpcChannel :=
  match FileHelpers.getContents sslRootCertPath (files.file sslRootCertPath)
      (files.reads sslRootCertPath) [] with
  -- `getContents_spec`: the loop always comes to an end
  | none => none
  | some (status, pemRootCerts) =>
    if status.ok = false then none
    else
      some
        { targetAddress := targetAddress
          credentials := .ssl pemRootCerts
          arguments :=
            { setCommonChannelArgs {} with sslTargetNameOverride := some sslDomainName } }

/-- `CreateGrpcChannel`. -/
def createGrpcChannel (files : CertificateFiles) (options : ConnectionOptions) :
    Option GrpcChannel :=
  if options.sslOptions.useInsecureChannel then
    some (createInsecureGrpcChannel options.targetAddress)
  else
    createSecureGrpcChannel files options.targetAddress options.sslOptions.sslDomainName
      options.sslOptions.sslRootCertPath

/-- **A channel goes where it was told to**, insecurely only if that was asked for, and else under
the whole root certificate of the file that was named. -/
theorem createGrpcChannel_eq_some {files : CertificateFiles} {options : ConnectionOptions}
    {channel : GrpcChannel} (h : createGrpcChannel files options = some channel) :
    channel.targetAddress = options.targetAddress ∧
      (channel.credentials = .insecure ∧ options.sslOptions.useInsecureChannel = true ∨
        ∃ certs, channel.credentials = .ssl certs ∧
          files.file options.sslOptions.sslRootCertPath = some certs ∧
          channel.arguments.sslTargetNameOverride = some options.sslOptions.sslDomainName) := by
  unfold createGrpcChannel at h
  split at h
  · rename_i hinsecure
    obtain rfl := Option.some.inj h
    exact ⟨rfl, Or.inl ⟨rfl, hinsecure⟩⟩
  · unfold createSecureGrpcChannel at h
    obtain ⟨status, certs, hread, hwhole⟩ := FileHelpers.getContents_spec
      options.sslOptions.sslRootCertPath (files.file options.sslOptions.sslRootCertPath)
      (files.reads options.sslOptions.sslRootCertPath) []
    rw [hread] at h
    cases hok : status.ok with
    | false =>
      simp only [hok, if_true] at h
      cases h
    | true =>
      simp only [hok, Bool.true_eq_false, if_false] at h
      obtain rfl := Option.some.inj h
      exact ⟨rfl, Or.inr ⟨certs, rfl, hwhole hok, rfl⟩⟩

/-! ### The sender -/

/-- `PacketSender::Options`. -/
structure PacketSender.Options where
  connectionOptions : ConnectionOptions := {}
  streamName : String := ""
  enableUnaryRpc : Bool := false
  traceProbability : ℚ := 0

/-- `PacketSender`: the channel, the stub and the `streaming_writer_`, once they are there. -/
structure PacketSender where
  options : PacketSender.Options
  streamChannel : Option GrpcChannel := none
  stub : Bool := false
  streamingWriter : Bool := false

/-- A call of the RPC stack. -/
inductive Rpc (T : Type)
  | sendPackets (ctx : CallContext T)
  | write (packet : Packet)
  | sendOnePacket (ctx : CallContext T) (packet : Packet)
  | writesDone
  | finish

/-- The packets that a call hands to the server. -/
def Rpc.hands {T : Type} : Rpc T → List Packet
  | .write packet => [packet]
  | .sendOnePacket _ packet => [packet]
  | _ => []

namespace PacketSender

/-- What is not this code: the files, the RPC stack, and tracing.  The `n`-th `Send` finds the
samplers `samplers n`, which other senders change as well. -/
structure Env (T : Type) where
  files : CertificateFiles
  createCustomChannel : GrpcChannel → Bool
  newStub : GrpcChannel → Bool
  streamingCall : CallEnv T
  sendPackets : Bool
  write : ℕ → Bool
  unaryCall : ℕ → CallEnv T
  sendOnePacket : ℕ → GrpcStatus × Bool
  opencensus : Trace.Opencensus
  span : ℕ → ℕ
  samplers : ℕ → Trace.Samplers

section Program

variable {T : Type} (env : Env T)

/-- `StreamChannel::Create`. -/
def createStreamChannel (options : StreamChannel.Options) : StatusOr GrpcChannel :=
  match createGrpcChannel env.files options.connectionOptions with
  | none => .ofStatus (unknownError "Failed to create a gRPC channel")
  | some channel =>
    if env.createCustomChannel channel = false then
      .ofStatus (unknownError "Failed to create a gRPC channel")
    else .value channel

def streamChannelOptions (options : Options) : StreamChannel.Options :=
  ⟨options.connectionOptions, options.streamName⟩

/-- `Initialize`, with the calls of the RPC stack. -/
def initializeSender (s : PacketSender) : Status × PacketSender × List (Rpc T) :=
  match createStreamChannel env (streamChannelOptions s.options) with
  | .error _ _ => (unknownError "Failed to create a StreamChannel", s, [])
  | .value channel =>
    let s := { s with streamChannel := some channel }
    if env.newStub channel = false then (unknownError "Failed to create a gRPC stub", s, [])
    else
      let s := { s with stub := true }
      if s.options.enableUnaryRpc = false then
        match makeClientContext env.streamingCall (streamChannelOptions s.options) with
        | .error _ _ => (internalError "Failed to create a grpc client context", s, [])
        | .value ctx =>
          if env.sendPackets = false then
            (unknownError "Failed to create a ClientWriter for streaming RPC", s,
              [.sendPackets ctx])
          else (okStatus, { s with streamingWriter := true }, [.sendPackets ctx])
      else (okStatus, s, [])

/-- `~PacketSender`. -/
def destroy (s : PacketSender) : List (Rpc T) :=
  if s.streamingWriter then [.writesDone, .finish] else []

/-- `Create`. -/
def create (options : Options) : StatusOr PacketSender × List (Rpc T) :=
  match initializeSender env { options := options } with
  | (status, s, rpcs) =>
    if status.ok = false then (.ofStatus status, rpcs ++ s.destroy) else (.value s, rpcs)

def unarySend (s : PacketSender) (n : ℕ) (packet : Packet) : Status × List (Rpc T) :=
  match makeClientContext (env.unaryCall n) (streamChannelOptions s.options) with
  | .error _ _ => (internalError "Failed to create a grpc client context", [])
  | .value ctx =>
    let (grpcStatus, _) := env.sendOnePacket n
    if grpcStatus.errorCode ≠ .ok then
      (unknownError "Encountered error calling RPC SendOnePacket", [.sendOnePacket ctx packet])
    -- a packet that was not accepted is only logged
    else (okStatus, [.sendOnePacket ctx packet])

def streamingSend (n : ℕ) (packet : Packet) : Status × List (Rpc T) :=
  if env.write n = false then
    (unknownError "Failed to Write a packet into the RPC stream", [.write packet])
  else (okStatus, [.write packet])

/-- What a `Send` did: its status, what it left of its argument, and its calls. -/
structure Sent (T : Type) where
  status : Status
  packet : Packet
  rpcs : List (Rpc T)

/-- `Instrument(packet.mutable_header(), options_.trace_probability)`: the argument is `const`, and
changed nevertheless. -/
def traced (s : PacketSender) (n : ℕ) (packet : Packet) : Packet :=
  { packet with
    header := (Trace.instrument env.opencensus (env.span n) (env.samplers n)
      ⟨some packet.header, s.options.traceProbability⟩).header.getD packet.header }

/-- The `n`-th `Send`. -/
def send (s : PacketSender) (n : ℕ) (packet : Packet) : Sent T :=
  let packet := traced env s n packet
  let (status, rpcs) :=
    if s.streamingWriter = false then unarySend env s n packet else streamingSend env n packet
  ⟨status, packet, rpcs⟩

/-- `MakePacketSender`. -/
def makePacketSender (connectionOptions : ConnectionOptions) (streamName : String)
    (traceProbability : ℚ) : Status × Option PacketSender × List (Rpc T) :=
  let options : Options :=
    { connectionOptions := connectionOptions
      streamName := streamName
      traceProbability := traceProbability }
  match create env options with
  | (.error _ _, rpcs) => (unknownError "Failed to create a PacketSender", none, rpcs)
  | (.value s, rpcs) => (okStatus, some s, rpcs)

section Made

variable {env} {connectionOptions : ConnectionOptions} {streamName : String}
  {traceProbability : ℚ} {rpcs : List (Rpc T)}

theorem makePacketSender_of_value {s : PacketSender}
    (h : create env ⟨connectionOptions, streamName, false, traceProbability⟩ = (.value s, rpcs)) :
    makePacketSender env connectionOptions streamName traceProbability =
      (okStatus, some s, rpcs) := by
  simp only [makePacketSender, h]

theorem makePacketSender_of_error {status : Status} {hs : status.ok = false}
    (h : create env ⟨connectionOptions, streamName, false, traceProbability⟩ =
      (.error status hs, rpcs)) :
    makePacketSender env connectionOptions streamName traceProbability =
      (unknownError "Failed to create a PacketSender", none, rpcs) := by
  simp only [makePacketSender, h]

end Made

/-! ### Sessions -/

/-- The `Send`s of some packets, from the `n`-th on. -/
def sends (s : PacketSender) : ℕ → List Packet → List (Sent T)
  | _, [] => []
  | n, packet :: packets => send env s n packet :: sends s (n + 1) packets

/-- From `Create` to the destructor. -/
structure Session (T : Type) where
  created : Status
  sents : List (Sent T)
  rpcs : List (Rpc T)

def session (options : Options) (packets : List Packet) : Session T :=
  match create env options with
  | (.error status _, rpcs) => ⟨status, [], rpcs⟩
  | (.value s, rpcs) =>
    let sents := sends env s 0 packets
    ⟨okStatus, sents, rpcs ++ sents.flatMap Sent.rpcs ++ s.destroy⟩

end Program

/-! ### What a sender does -/

/-- Two packets that differ in their trace contexts at most. -/
def SameButTrace (p q : Packet) : Prop :=
  ∃ context, q = { p with header := { p.header with traceContext := context } }

/-- Whether the RPC of the `n`-th `Send` goes well. -/
def Env.succeeds {T : Type} (env : Env T) (options : Options) (n : ℕ) : Bool :=
  if options.enableUnaryRpc then decide ((env.sendOnePacket n).1.errorCode = .ok) else env.write n

section Send

variable {T : Type} (env : Env T)

theorem sameButTrace_traced (s : PacketSender) (n : ℕ) (packet : Packet) :
    SameButTrace packet (traced env s n packet) := by
  unfold traced Trace.instrument
  split
  · exact ⟨packet.header.traceContext, rfl⟩
  · exact ⟨_, rfl⟩

/-- There is always a context for a call. -/
theorem exists_makeClientContext (call : CallEnv T) (options : StreamChannel.Options) :
    ∃ ctx, makeClientContext call options = .value ctx := by
  obtain ⟨ctx, hctx, _⟩ := makeClientContext_deadline call options
  exact ⟨ctx, hctx⟩

/-- A `Send` on the stream is one `Write`. -/
theorem send_streaming {s : PacketSender} (hs : s.streamingWriter = true) (n : ℕ)
    (packet : Packet) : (send env s n packet).rpcs = [.write (send env s n packet).packet] ∧
      (send env s n packet).status.ok = env.write n := by
  unfold send streamingSend
  rw [hs]
  cases env.write n <;> exact ⟨rfl, rfl⟩

/-- A `Send` without one is one `SendOnePacket`, in a context of its own. -/
theorem send_unary {s : PacketSender} (hs : s.streamingWriter = false) (n : ℕ) (packet : Packet) :
    ∃ ctx, makeClientContext (env.unaryCall n) (streamChannelOptions s.options) = .value ctx ∧
      (send env s n packet).rpcs = [.sendOnePacket ctx (send env s n packet).packet] ∧
      (send env s n packet).status.ok = decide ((env.sendOnePacket n).1.errorCode = .ok) := by
  obtain ⟨ctx, hctx⟩ := exists_makeClientContext (env.unaryCall n) (streamChannelOptions s.options)
  refine ⟨ctx, hctx, ?_⟩
  unfold send unarySend
  rw [hs, hctx]
  by_cases hrpc : (env.sendOnePacket n).1.errorCode = .ok
  · simp [hrpc]
  · simp [hrpc]

/-- **Each `Send` hands its argument over once**, its trace context at most changed, and reports
how that went. -/
theorem send_spec {s : PacketSender} (hs : s.streamingWriter = !s.options.enableUnaryRpc) (n : ℕ)
    (packet : Packet) : SameButTrace packet (send env s n packet).packet ∧
      (send env s n packet).rpcs.flatMap Rpc.hands = [(send env s n packet).packet] ∧
      (send env s n packet).status.ok = env.succeeds s.options n := by
  refine ⟨sameButTrace_traced env s n packet, ?_⟩
  unfold Env.succeeds
  cases hunary : s.options.enableUnaryRpc with
  | true =>
    obtain ⟨ctx, _, hrpcs, hok⟩ := send_unary env (hs.trans (by rw [hunary]; rfl)) n packet
    rw [hrpcs, hok]
    exact ⟨rfl, rfl⟩
  | false =>
    obtain ⟨hrpcs, hok⟩ := send_streaming env (hs.trans (by rw [hunary]; rfl)) n packet
    rw [hrpcs, hok]
    exact ⟨rfl, rfl⟩

/-! ### What a session does -/

/-- What `Create` did, for the sender that it made. -/
structure Opened (options : Options) (s : PacketSender) (rpcs : List (Rpc T)) : Prop where
  hasOptions : s.options = options
  channel : ∃ channel, s.streamChannel = some channel ∧
    createGrpcChannel env.files options.connectionOptions = some channel
  writer : s.streamingWriter = !options.enableUnaryRpc
  streaming : options.enableUnaryRpc = false → ∃ ctx,
    makeClientContext env.streamingCall (streamChannelOptions options) = .value ctx ∧
      rpcs = [.sendPackets ctx]
  unary : options.enableUnaryRpc = true → rpcs = []

theorem createStreamChannel_eq_value {options : StreamChannel.Options} {channel : GrpcChannel}
    (h : createStreamChannel env options = .value channel) :
    createGrpcChannel env.files options.connectionOptions = some channel := by
  unfold createStreamChannel at h
  split at h
  · exact absurd h (StatusOr.ofStatus_ne_value _ _)
  · rename_i channel' hchannel
    split at h
    · exact absurd h (StatusOr.ofStatus_ne_value _ _)
    · obtain rfl := StatusOr.value.inj h
      exact hchannel

/-- `Initialize` makes what it returns OK for; else it has no writer, and has handed over
nothing. -/
theorem initializeSender_spec (options : Options) {status : Status} {s : PacketSender}
    {rpcs : List (Rpc T)}
    (h : initializeSender env { options := options } = (status, s, rpcs)) :
    (status.ok = true → Opened env options s rpcs) ∧
      (status.ok = false → s.streamingWriter = false ∧ rpcs.flatMap Rpc.hands = []) := by
  unfold initializeSender at h
  cases hchannel : createStreamChannel env (streamChannelOptions options) with
  | error _ _ =>
    rw [hchannel] at h
    cases h
    exact ⟨fun hok => (nomatch hok), fun _ => ⟨rfl, rfl⟩⟩
  | value channel =>
    have hgrpc := createStreamChannel_eq_value env hchannel
    obtain ⟨ctx, hctx⟩ := exists_makeClientContext env.streamingCall (streamChannelOptions options)
    rw [hchannel] at h
    simp only [hctx] at h
    split at h
    · cases h
      exact ⟨fun hok => (nomatch hok), fun _ => ⟨rfl, rfl⟩⟩
    · split at h
      · rename_i hunary
        split at h
        · cases h
          exact ⟨fun hok => (nomatch hok), fun _ => ⟨rfl, rfl⟩⟩
        · cases h
          refine ⟨fun _ => ⟨rfl, ⟨channel, rfl, hgrpc⟩, ?_, fun _ => ⟨ctx, hctx, rfl⟩,
            fun htrue => ?_⟩, fun hok => (nomatch hok)⟩
          · rw [hunary]
            rfl
          · rw [hunary] at htrue
            cases htrue
      · rename_i hunary
        rw [Bool.not_eq_false] at hunary
        cases h
        refine ⟨fun _ => ⟨rfl, ⟨channel, rfl, hgrpc⟩, ?_, fun hfalse => ?_, fun _ => rfl⟩,
          fun hok => (nomatch hok)⟩
        · rw [hunary]
          rfl
        · rw [hunary] at hfalse
          cases hfalse

theorem opened_of_create {options : Options} {s : PacketSender} {rpcs : List (Rpc T)}
    (h : create env options = (.value s, rpcs)) : Opened env options s rpcs := by
  unfold create at h
  rcases hinit : initializeSender env { options := options } with ⟨status, s', rpcs'⟩
  rw [hinit] at h
  cases hok : status.ok with
  | false =>
    simp only [hok, if_true] at h
    exact absurd (congrArg Prod.fst h) (StatusOr.ofStatus_ne_value _ _)
  | true =>
    simp only [hok, Bool.true_eq_false, if_false] at h
    cases h
    exact (initializeSender_spec env options hinit).1 hok

/-- A sender that cannot be created hands nothing over. -/
theorem hands_of_create_error {options : Options} {status : Status} {hs : status.ok = false}
    {rpcs : List (Rpc T)} (h : create env options = (.error status hs, rpcs)) :
    rpcs.flatMap Rpc.hands = [] := by
  unfold create at h
  rcases hinit : initializeSender env { options := options } with ⟨status', s', rpcs'⟩
  rw [hinit] at h
  cases hok : status'.ok with
  | false =>
    obtain ⟨hwriter, hhands⟩ := (initializeSender_spec env options hinit).2 hok
    simp only [hok, if_true] at h
    obtain rfl := congrArg Prod.snd h
    rw [destroy, hwriter, if_neg (by decide), List.append_nil]
    exact hhands
  | true =>
    simp only [hok, Bool.true_eq_false, if_false] at h
    cases h

theorem getElem?_sends (s : PacketSender) (packets : List Packet) (first n : ℕ) :
    (sends env s first packets)[n]? = packets[n]?.map (send env s (first + n)) := by
  induction packets generalizing first n with
  | nil => rfl
  | cons packet packets ih =>
    cases n with
    | zero => rfl
    | succ n =>
      rw [sends, List.getElem?_cons_succ, List.getElem?_cons_succ, ih, Nat.succ_add_eq_add_succ]

theorem sends_append (s : PacketSender) (packets : List Packet) (packet : Packet) (first : ℕ) :
    sends env s first (packets ++ [packet]) =
      sends env s first packets ++ [send env s (first + packets.length) packet] := by
  induction packets generalizing first with
  | nil => rfl
  | cons p packets ih =>
    rw [List.cons_append, sends, ih, sends, List.length_cons, Nat.succ_add_eq_add_succ]
    rfl

theorem forall₂_sends (s : PacketSender) (packets : List Packet) (first : ℕ) :
    List.Forall₂ SameButTrace packets ((sends env s first packets).map Sent.packet) := by
  induction packets generalizing first with
  | nil => exact List.Forall₂.nil
  | cons packet packets ih =>
    exact List.Forall₂.cons (sameButTrace_traced env s first packet) (ih (first + 1))

/-- On the stream, the calls are the `Write`s. -/
theorem rpcs_sends_streaming {s : PacketSender} (hs : s.streamingWriter = true)
    (packets : List Packet) (first : ℕ) : (sends env s first packets).flatMap Sent.rpcs =
      (sends env s first packets).map fun sent => .write sent.packet := by
  induction packets generalizing first with
  | nil => rfl
  | cons packet packets ih =>
    rw [sends, List.flatMap_cons, List.map_cons, ih, (send_streaming env hs first packet).1]
    rfl

/-- Without it, they are as many, each in a context of its own. -/
theorem rpcs_sends_unary {s : PacketSender} (hs : s.streamingWriter = false)
    (packets : List Packet) (first : ℕ) :
    List.Forall₂ (fun sent rpc => ∃ ctx, rpc = .sendOnePacket ctx sent.packet)
      (sends env s first packets) ((sends env s first packets).flatMap Sent.rpcs) := by
  induction packets generalizing first with
  | nil => exact List.Forall₂.nil
  | cons packet packets ih =>
    obtain ⟨ctx, _, hrpcs, _⟩ := send_unary env hs first packet
    rw [sends, List.flatMap_cons, hrpcs]
    exact List.Forall₂.cons ⟨ctx, rfl⟩ (ih (first + 1))

/-- The calls of the `Send`s hand over what they leave of their arguments. -/
theorem hands_sends {s : PacketSender} (hs : s.streamingWriter = !s.options.enableUnaryRpc)
    (packets : List Packet) (first : ℕ) :
    ((sends env s first packets).flatMap Sent.rpcs).flatMap Rpc.hands =
      (sends env s first packets).map Sent.packet := by
  induction packets generalizing first with
  | nil => rfl
  | cons packet packets ih =>
    rw [sends, List.flatMap_cons, List.flatMap_append, ih, (send_spec env hs first packet).2.1]
    rfl

/-- A probability that is none switches tracing off. -/
theorem traced_of_invalid {s : PacketSender}
    (h : s.options.traceProbability < 0 ∨ 1 < s.options.traceProbability) (n : ℕ)
    (packet : Packet) : traced env s n packet = packet := by
  unfold traced Trace.instrument
  rw [if_pos h]
  rfl

/-- A session that leaves nothing out and nothing open. -/
structure Session.Proper (options : Options) (packets : List Packet) (session : Session T) :
    Prop where
  /-- A sender that was not created is asked for nothing. -/
  refused : session.created.ok = false → session.sents = [] ∧ session.rpcs.flatMap Rpc.hands = []
  /-- Each argument is handed over once, in order, with another trace context at most. -/
  handed : session.created.ok = true →
    List.Forall₂ SameButTrace packets (session.rpcs.flatMap Rpc.hands)
  /-- The argument holds what was handed over. -/
  changed : session.sents.map Sent.packet = session.rpcs.flatMap Rpc.hands
  untraced : session.created.ok = true →
    options.traceProbability < 0 ∨ 1 < options.traceProbability →
      session.rpcs.flatMap Rpc.hands = packets
  reported : ∀ n sent, session.sents[n]? = some sent → sent.status.ok = env.succeeds options n
  streaming : session.created.ok = true → options.enableUnaryRpc = false → ∃ ctx,
    makeClientContext env.streamingCall (streamChannelOptions options) = .value ctx ∧
      session.rpcs = .sendPackets ctx ::
        (session.rpcs.flatMap Rpc.hands).map Rpc.write ++ [.writesDone, .finish]
  unary : session.created.ok = true → options.enableUnaryRpc = true →
    List.Forall₂ (fun sent rpc => ∃ ctx, rpc = .sendOnePacket ctx sent.packet)
      session.sents session.rpcs

/-- What a session does after `Create` has made its sender. -/
theorem session_eq {options : Options} {s : PacketSender} {rpcs : List (Rpc T)}
    (h : create env options = (.value s, rpcs)) (packets : List Packet) :
    session env options packets = ⟨okStatus, sends env s 0 packets,
      rpcs ++ (sends env s 0 packets).flatMap Sent.rpcs ++ s.destroy⟩ := by
  rw [session, h]

/-- **The session of a sender that was created.** -/
theorem proper_of_create {options : Options} {s : PacketSender} {rpcs : List (Rpc T)}
    (h : create env options = (.value s, rpcs)) (packets : List Packet) :
    (session env options packets).Proper env options packets := by
  have hopened := opened_of_create env h
  have hwriter : s.streamingWriter = !s.options.enableUnaryRpc := by
    rw [hopened.hasOptions]
    exact hopened.writer
  have hrpcs : rpcs.flatMap Rpc.hands = [] := by
    cases hunary : options.enableUnaryRpc with
    | true =>
      rw [hopened.unary hunary]
      rfl
    | false =>
      obtain ⟨ctx, _, hctx⟩ := hopened.streaming hunary
      rw [hctx]
      rfl
  have hend : (s.destroy : List (Rpc T)).flatMap Rpc.hands = [] := by
    unfold destroy
    cases s.streamingWriter <;> rfl
  have hhands : (session env options packets).rpcs.flatMap Rpc.hands =
      (sends env s 0 packets).map Sent.packet := by
    rw [session_eq env h, List.flatMap_append, List.flatMap_append, hrpcs, hend, List.append_nil,
      List.nil_append, hands_sends env hwriter]
  refine ⟨fun hok => ?_, fun _ => ?_, ?_, fun _ hinvalid => ?_, fun n sent hsent => ?_,
    fun _ hunary => ?_, fun _ hunary => ?_⟩
  · rw [session_eq env h] at hok
    cases hok
  · rw [hhands]
    exact forall₂_sends env s packets 0
  · rw [hhands, session_eq env h]
  · rw [hhands]
    refine List.ext_getElem? fun n => ?_
    rw [List.getElem?_map, getElem?_sends, Option.map_map]
    have hid : Sent.packet ∘ send env s (0 + n) = id := by
      refine funext fun packet => ?_
      exact traced_of_invalid env (by rw [hopened.hasOptions]; exact hinvalid) (0 + n) packet
    rw [hid, Option.map_id]
    rfl
  · rw [session_eq env h, getElem?_sends, Nat.zero_add] at hsent
    obtain ⟨packet, _, rfl⟩ := Option.map_eq_some_iff.mp hsent
    rw [(send_spec env hwriter n packet).2.2, hopened.hasOptions]
  · obtain ⟨ctx, hctx, hopen⟩ := hopened.streaming hunary
    have hstreams : s.streamingWriter = true := by
      rw [hopened.writer, hunary]
      rfl
    refine ⟨ctx, hctx, ?_⟩
    rw [hhands, session_eq env h, hopen, rpcs_sends_streaming env hstreams, destroy,
      if_pos hstreams, List.map_map]
    rfl
  · have hstreams : s.streamingWriter = false := by
      rw [hopened.writer, hunary]
      rfl
    rw [session_eq env h, hopened.unary hunary, destroy, hstreams, if_neg (by decide),
      List.append_nil, List.nil_append]
    exact rpcs_sends_unary env hstreams packets 0

/-- **Every session is proper**, whatever the RPC stack does: the packets of the `Send`s are handed
over once each and in order, the statuses say how that went, and the stream is closed. -/
theorem session_spec (options : Options) (packets : List Packet) :
    (session env options packets).Proper env options packets := by
  rcases hcreate : create env options with ⟨created, rpcs⟩
  cases created with
  | value s => exact proper_of_create env hcreate packets
  | error status hstatus =>
    have hsession : session env options packets = ⟨status, [], rpcs⟩ := by rw [session, hcreate]
    have hnone : rpcs.flatMap Rpc.hands = [] := hands_of_create_error env hcreate
    have hnot : ∀ P : Prop, status.ok = true → P := by
      intro P hok
      rw [hstatus] at hok
      cases hok
    rw [hsession]
    refine ⟨fun _ => ⟨rfl, hnone⟩, hnot _, hnone.symm, hnot _, fun n sent hsent => ?_, hnot _,
      hnot _⟩
    rw [List.getElem?_nil] at hsent
    cases hsent

end Send

end PacketSender

end AIStreams
