import AIStreams.Base.Packet
import Mathlib.Logic.Function.Basic

/-!
# `PacketReceiver`

`aistreams/base/packet_receiver.{h,cc}`: the streaming modes, `Receive` and
`Subscribe`.  The server is an oracle: each of its two RPCs yields a finite sequence
of packets, then `Read` returns false for ever and the `n`-th `Finish` returns
any grpc status.

`StreamingReceive` calls itself at most once, since `first_receiving_` is false by then;
`streamingReceive_eq` is its recursive equation.

* `calls_eq`: what a sequence of `Receive` calls returns, call by call.
* `deliversPackets_iff`: `Receive` and `Subscribe` keep their contract exactly on the
  streams whose `Finish` never returns OK.
-/

namespace AIStreams

/-! ### The server -/

/-- One streaming RPC as the server answers it. -/
structure RpcStream where
  packets : List Packet
  finish : ℕ → GrpcStatus

structure Server where
  receivePackets : RpcStream
  replayStream : RpcStream

/-- `grpc::ClientReader<Packet>`: the packets still to be read, and the `Finish` calls
made so far. -/
structure ClientReader where
  stream : RpcStream
  unread : List Packet
  finished : ℕ

namespace ClientReader

/-- `Read`: a packet, or false. -/
def read (reader : ClientReader) : Option (Packet × ClientReader) :=
  match reader.unread with
  | [] => none
  | p :: rest => some (p, { reader with unread := rest })

/-- `Finish`. -/
def finish (reader : ClientReader) : GrpcStatus × ClientReader :=
  (reader.stream.finish reader.finished, { reader with finished := reader.finished + 1 })

end ClientReader

/-- The reader of an RPC just started. -/
def RpcStream.open (stream : RpcStream) : ClientReader := ⟨stream, stream.packets, 0⟩

/-! ### The receiver -/

inductive ReceiverMode
  | streamingReceive
  | unaryReceive
  | replay
  | auto
  deriving DecidableEq

/-- `grpc::ClientContext`. -/
structure ClientContext where
  cancelled : Bool

structure PacketReceiver where
  receiverMode : ReceiverMode
  currentReceiverMode : ReceiverMode
  ctx : ReceiverMode → Option ClientContext
  streamingReaders : ReceiverMode → Option ClientReader
  firstReceiving : Bool

/-- What a `Receive` call leaves to its caller: its status and `*packet`.  `read` is the
packet that a `Read` stored during the call, if one did. -/
structure Received where
  status : Status
  packet : Packet
  read : Option Packet
  deriving DecidableEq

namespace PacketReceiver

/-- `PacketReceiver(options)`. -/
def construct (mode : ReceiverMode) : PacketReceiver where
  receiverMode := mode
  currentReceiverMode := mode
  ctx _ := none
  streamingReaders _ := none
  firstReceiving := true

/-- The end of `InitializeReceivePacket` and `InitializeReplayStream`, the context and the
reader having been made. -/
def startRpc (r : PacketReceiver) (mode : ReceiverMode) (stream : RpcStream) : PacketReceiver :=
  { r with
    ctx := Function.update r.ctx mode (some ⟨false⟩)
    streamingReaders := Function.update r.streamingReaders mode (some stream.open) }

/-- `Initialize`, channel and stub having been made. -/
def initializeReceiver (server : Server) (r : PacketReceiver) : PacketReceiver :=
  let r :=
    if r.receiverMode = .auto ∨ r.receiverMode = .replay then
      { r with currentReceiverMode := .replay }.startRpc .replay server.replayStream
    else r
  if r.receiverMode = .auto ∨ r.receiverMode = .streamingReceive then
    { r with currentReceiverMode := .streamingReceive }.startRpc .streamingReceive
      server.receivePackets
  else r

/-- `Create`, where it succeeds. -/
def create (mode : ReceiverMode) (server : Server) : PacketReceiver :=
  initializeReceiver server (construct mode)

/-- The `dispose` lambda.  A missing map entry would be a null pointer. -/
def dispose (r : PacketReceiver) (mode : ReceiverMode) : OrFatal PacketReceiver :=
  match r.ctx mode with
  | none => .error ⟨"null dereference"⟩
  | some _ =>
    .ok
      { r with
        ctx := Function.update r.ctx mode none
        streamingReaders := Function.update r.streamingReaders mode none }

def disposeUnusedClientReader (r : PacketReceiver) : OrFatal PacketReceiver :=
  match r.currentReceiverMode with
  | .replay => r.dispose .streamingReceive
  | .streamingReceive => r.dispose .replay
  | _ => .ok r

def setReader (r : PacketReceiver) (reader : ClientReader) : PacketReceiver :=
  { r with
    streamingReaders := Function.update r.streamingReaders r.currentReceiverMode (some reader) }

/-- `StreamingReceive` after a `Read` that returned false and a `Finish` that returned
`status`; `again` is its call of itself. -/
def onEnd (again : PacketReceiver → Packet → OrFatal (Received × PacketReceiver))
    (firstReceiving : Bool) (status : GrpcStatus) (packet : Packet) (r : PacketReceiver) :
    OrFatal (Received × PacketReceiver) :=
  if firstReceiving = true ∧ r.receiverMode = .auto ∧
      r.currentReceiverMode = .streamingReceive ∧ status.errorCode = .outOfRange then
    match { r with currentReceiverMode := .replay }.disposeUnusedClientReader with
    | .error e => .error e
    | .ok r => again r packet
  else .ok (⟨makeStatusFromRpcStatus status, packet, none⟩, r)

/-- `StreamingReceive` after a `Read` that stored `p`. -/
def onRead (firstReceiving : Bool) (p : Packet) (r : PacketReceiver) :
    OrFatal (Received × PacketReceiver) :=
  if firstReceiving = true ∧ r.receiverMode = .auto then
    match r.disposeUnusedClientReader with
    | .error e => .error e
    | .ok r => .ok (⟨okStatus, p, some p⟩, r)
  else .ok (⟨okStatus, p, some p⟩, r)

/-- The body of `StreamingReceive`, with `again` for its call of itself. -/
def receiveOnce (again : PacketReceiver → Packet → OrFatal (Received × PacketReceiver))
    (r : PacketReceiver) (packet : Packet) : OrFatal (Received × PacketReceiver) :=
  match r.streamingReaders r.currentReceiverMode with
  | none => .error ⟨"null dereference"⟩
  | some reader =>
    match reader.read with
    | none =>
      onEnd again r.firstReceiving reader.finish.1 packet
        ({ r with firstReceiving := false }.setReader reader.finish.2)
    | some (p, reader) =>
      onRead r.firstReceiving p ({ r with firstReceiving := false }.setReader reader)

/-- `StreamingReceive`, its recursion unrolled to the depth it can reach. -/
def streamingReceive (r : PacketReceiver) (packet : Packet) : OrFatal (Received × PacketReceiver) :=
  receiveOnce (receiveOnce fun _ _ => .error ⟨"StreamingReceive went deeper than once"⟩) r packet

theorem firstReceiving_of_dispose {r r' : PacketReceiver}
    (h : r.disposeUnusedClientReader = .ok r') : r'.firstReceiving = r.firstReceiving := by
  have aux : ∀ mode, r.dispose mode = .ok r' → r'.firstReceiving = r.firstReceiving := by
    intro mode hd
    unfold dispose at hd
    split at hd <;> cases hd
    rfl
  unfold disposeUnusedClientReader at h
  split at h
  · exact aux _ h
  · exact aux _ h
  · cases h
    rfl

theorem onEnd_congr {again again' : PacketReceiver → Packet →
      OrFatal (Received × PacketReceiver)} {packet : Packet}
    (h : ∀ r, r.firstReceiving = false → again r packet = again' r packet) (firstReceiving : Bool)
    (status : GrpcStatus) {r : PacketReceiver} (hr : r.firstReceiving = false) :
    onEnd again firstReceiving status packet r = onEnd again' firstReceiving status packet r := by
  unfold onEnd
  split
  · split
    · rfl
    · rename_i hd
      exact h _ ((firstReceiving_of_dispose hd).trans hr)
  · rfl

theorem onEnd_plain (again : PacketReceiver → Packet → OrFatal (Received × PacketReceiver))
    {firstReceiving : Bool} (status : GrpcStatus) (packet : Packet) {r : PacketReceiver}
    (h : firstReceiving = false ∨ r.receiverMode ≠ .auto) :
    onEnd again firstReceiving status packet r =
      .ok (⟨makeStatusFromRpcStatus status, packet, none⟩, r) := by
  unfold onEnd
  rw [if_neg]
  rintro ⟨hf, hm, _⟩
  rcases h with h | h
  · simp [h] at hf
  · exact h hm

theorem onRead_plain {firstReceiving : Bool} (p : Packet) {r : PacketReceiver}
    (h : firstReceiving = false ∨ r.receiverMode ≠ .auto) :
    onRead firstReceiving p r = .ok (⟨okStatus, p, some p⟩, r) := by
  unfold onRead
  rw [if_neg]
  rintro ⟨hf, hm⟩
  rcases h with h | h
  · simp [h] at hf
  · exact h hm

/-- The body calls itself only on a receiver that has received before. -/
theorem receiveOnce_congr {again again' : PacketReceiver → Packet →
      OrFatal (Received × PacketReceiver)} {packet : Packet}
    (h : ∀ r, r.firstReceiving = false → again r packet = again' r packet) (r : PacketReceiver) :
    receiveOnce again r packet = receiveOnce again' r packet := by
  unfold receiveOnce
  split
  · rfl
  · split
    · exact onEnd_congr h _ _ rfl
    · rfl

/-- From then on it does not call itself at all. -/
theorem receiveOnce_of_not_first (again again' : PacketReceiver → Packet →
      OrFatal (Received × PacketReceiver)) {r : PacketReceiver} (h : r.firstReceiving = false)
    (packet : Packet) : receiveOnce again r packet = receiveOnce again' r packet := by
  unfold receiveOnce
  split
  · rfl
  · split
    · rw [onEnd_plain _ _ _ (Or.inl h), onEnd_plain _ _ _ (Or.inl h)]
    · rfl

/-- **The recursive equation of `StreamingReceive`**: the call inside is the function
itself. -/
theorem streamingReceive_eq (r : PacketReceiver) (packet : Packet) :
    streamingReceive r packet = receiveOnce streamingReceive r packet :=
  receiveOnce_congr (fun _ hr => receiveOnce_of_not_first _ _ hr packet) r

/-- `Receive`; `unaryReceive` is what the unary mode does instead. -/
def receive (unaryReceive : PacketReceiver → Packet → OrFatal (Received × PacketReceiver))
    (r : PacketReceiver) (packet : Packet) : OrFatal (Received × PacketReceiver) :=
  if r.receiverMode = .unaryReceive then unaryReceive r packet else streamingReceive r packet

/-! ### Call after call -/

section Calls

variable (unaryReceive : PacketReceiver → Packet → OrFatal (Received × PacketReceiver))

/-- `n` calls of `Receive`; `*packet` holds `held k` before the `k`-th. -/
def calls (held : ℕ → Packet) (r : PacketReceiver) : ℕ → OrFatal (List Received × PacketReceiver)
  | 0 => .ok ([], r)
  | n + 1 =>
    match calls held r n with
    | .error e => .error e
    | .ok (results, r) =>
      match receive unaryReceive r (held n) with
      | .error e => .error e
      | .ok (result, r) => .ok (results ++ [result], r)

/-- `Subscribe` from its `k`-th round on, `none` when the fuel is used up.  The callback
may return anything each time it is called. -/
def subscribe (callback : ℕ → Packet → Status) (held : ℕ → Packet) :
    ℕ → ℕ → PacketReceiver → OrFatal (Option Status)
  | 0, _, _ => .ok none
  | fuel + 1, k, r =>
    match receive unaryReceive r (held k) with
    | .error e => .error e
    | .ok (result, r) =>
      if result.status.ok = false then .ok (some result.status)
      else if isCancelled (callback k result.packet) then .ok (some okStatus)
      else subscribe callback held fuel (k + 1) r

/-- **The contract of `Receive` and `Subscribe`** on one receiver and server, for every
sequence of calls. -/
structure DeliversPackets (mode : ReceiverMode) (server : Server) : Prop where
  /-- No call crashes. -/
  runs : ∀ held n, ∃ results r, calls unaryReceive held (create mode server) n = .ok (results, r)
  /-- The `k`-th OK call has stored the `k`-th packet read. -/
  stored : ∀ held n results r, calls unaryReceive held (create mode server) n = .ok (results, r) →
    (results.filter (·.status.ok)).map (·.packet) = results.filterMap (·.read)
  /-- A call that finds the stream ended is not OK, nor is any later one. -/
  ended : ∀ held n results r, calls unaryReceive held (create mode server) n = .ok (results, r) →
    ∀ (i j : ℕ) (a b : Received), results[i]? = some a → results[j]? = some b → i ≤ j →
      a.read = none → b.status.ok = false
  subscribe_returns : ∀ callback held, ∃ fuel st,
    subscribe unaryReceive callback held fuel 0 (create mode server) = .ok (some st)

end Calls

/-! ### What each call returns -/

/-- The stream a receiver ends up reading. -/
def readStream (mode : ReceiverMode) (server : Server) : RpcStream :=
  if mode = .replay then server.replayStream
  else if mode = .auto ∧ server.receivePackets.packets = [] ∧
      (server.receivePackets.finish 0).errorCode = .outOfRange then server.replayStream
  else server.receivePackets

/-- What the `k`-th call on a stream returns, `*packet` holding `held` before it. -/
def received (stream : RpcStream) (held : Packet) (k : ℕ) : Received :=
  match stream.packets[k]? with
  | some p => ⟨okStatus, p, some p⟩
  | none => ⟨makeStatusFromRpcStatus (stream.finish (k - stream.packets.length)), held, none⟩

/-- The current reader is live and has answered `k` calls on `stream`. -/
def Reads (stream : RpcStream) (k : ℕ) (r : PacketReceiver) : Prop :=
  r.firstReceiving = false ∧ r.streamingReaders r.currentReceiverMode =
    some ⟨stream, stream.packets.drop k, k - stream.packets.length⟩

theorem read_open_of_some {stream : RpcStream} {k : ℕ} {p : Packet}
    (hp : stream.packets[k]? = some p) (n : ℕ) :
    ClientReader.read ⟨stream, stream.packets.drop k, n⟩ =
      some (p, ⟨stream, stream.packets.drop (k + 1), n⟩) := by
  obtain ⟨hk, hpk⟩ := List.getElem?_eq_some_iff.mp hp
  rw [List.drop_eq_getElem_cons hk, hpk]
  rfl

theorem read_open_of_none {stream : RpcStream} {k : ℕ} (hp : stream.packets[k]? = none) (n : ℕ) :
    ClientReader.read ⟨stream, stream.packets.drop k, n⟩ = none := by
  rw [List.drop_eq_nil_of_le (List.getElem?_eq_none_iff.mp hp)]
  rfl

/-- What one call does with the current reader when no mode switch is in question. -/
theorem receiveOnce_plain {again : PacketReceiver → Packet → OrFatal (Received × PacketReceiver)}
    {r : PacketReceiver} {stream : RpcStream} {k : ℕ} (packet : Packet)
    (hreader : r.streamingReaders r.currentReceiverMode =
      some ⟨stream, stream.packets.drop k, k - stream.packets.length⟩)
    (hplain : r.firstReceiving = false ∨ r.receiverMode ≠ .auto) :
    ∃ r', receiveOnce again r packet = .ok (received stream packet k, r') ∧
      Reads stream (k + 1) r' ∧ r'.receiverMode = r.receiverMode := by
  unfold receiveOnce received
  rw [hreader]
  cases hp : stream.packets[k]? with
  | some p =>
    have hk := (List.getElem?_eq_some_iff.mp hp).1
    simp only [read_open_of_some hp]
    refine ⟨_, onRead_plain p hplain, ⟨rfl, ?_⟩, rfl⟩
    simp only [setReader, Function.update_self, Option.some.injEq, ClientReader.mk.injEq, true_and]
    omega
  | none =>
    have hk : stream.packets.length ≤ k := List.getElem?_eq_none_iff.mp hp
    simp only [read_open_of_none hp]
    refine ⟨_, onEnd_plain again _ packet hplain, ⟨rfl, ?_⟩, rfl⟩
    rw [List.drop_eq_nil_of_le (show stream.packets.length ≤ k + 1 by omega)]
    simp only [setReader, Function.update_self, ClientReader.finish, List.drop_eq_nil_of_le hk,
      Option.some.injEq, ClientReader.mk.injEq, true_and]
    omega

theorem streamingReceive_reads {r : PacketReceiver} {stream : RpcStream} {k : ℕ}
    (h : Reads stream k r) (packet : Packet) :
    ∃ r', streamingReceive r packet = .ok (received stream packet k, r') ∧
      Reads stream (k + 1) r' ∧ r'.receiverMode = r.receiverMode := by
  rw [streamingReceive_eq]
  exact receiveOnce_plain packet h.2 (Or.inl h.1)

theorem open_eq (stream : RpcStream) :
    stream.open = ⟨stream, stream.packets.drop 0, 0 - stream.packets.length⟩ := by
  simp [RpcStream.open]

/-- The first call of a receiver that knows no other mode. -/
theorem streamingReceive_single {mode : ReceiverMode} {stream : RpcStream} {server : Server}
    (packet : Packet) (hauto : (create mode server).receiverMode ≠ .auto)
    (hreader : (create mode server).streamingReaders (create mode server).currentReceiverMode =
      some stream.open) :
    ∃ r', streamingReceive (create mode server) packet = .ok (received stream packet 0, r') ∧
      Reads stream 1 r' ∧ r'.receiverMode = (create mode server).receiverMode := by
  rw [streamingReceive_eq]
  exact receiveOnce_plain packet (hreader.trans (congrArg some (open_eq stream))) (Or.inr hauto)

/-- The receiver after the auto mode has turned to the second RPC. -/
theorem onEnd_auto_switch (again : PacketReceiver → Packet → OrFatal (Received × PacketReceiver))
    (server : Server) {status : GrpcStatus} (hs : status.errorCode = .outOfRange)
    (packet : Packet) (reader : ClientReader) :
    ∃ r, onEnd again true status packet
        ({ create .auto server with firstReceiving := false }.setReader reader) = again r packet ∧
      r.firstReceiving = false ∧ r.receiverMode = .auto ∧
      r.streamingReaders r.currentReceiverMode = some server.replayStream.open := by
  unfold onEnd
  rw [if_pos ⟨rfl, rfl, rfl, hs⟩]
  exact ⟨_, rfl, rfl, rfl, rfl⟩

/-- The auto mode's first call. -/
theorem streamingReceive_auto (server : Server) (packet : Packet) :
    ∃ r', streamingReceive (create .auto server) packet =
        .ok (received (readStream .auto server) packet 0, r') ∧
      Reads (readStream .auto server) 1 r' ∧ r'.receiverMode = .auto := by
  rw [streamingReceive_eq]
  unfold receiveOnce
  rw [show (create .auto server).streamingReaders (create .auto server).currentReceiverMode =
    some server.receivePackets.open from rfl]
  cases hp : server.receivePackets.packets with
  | cons p rest =>
    have hs : readStream .auto server = server.receivePackets := by simp [readStream, hp]
    have hread : server.receivePackets.open.read = some (p, ⟨server.receivePackets, rest, 0⟩) := by
      simp [RpcStream.open, ClientReader.read, hp]
    simp only [hread, hs, received, hp, List.getElem?_cons_zero]
    refine ⟨_, rfl, ⟨rfl, ?_⟩, rfl⟩
    change some _ = some _
    simp [hp]
  | nil =>
    have hread : server.receivePackets.open.read = none := by
      simp [RpcStream.open, ClientReader.read, hp]
    simp only [hread]
    by_cases hr : (server.receivePackets.finish 0).errorCode = .outOfRange
    · have hs : readStream .auto server = server.replayStream := by simp [readStream, hp, hr]
      obtain ⟨r, he, hfirst, hmode, hreader⟩ :=
        onEnd_auto_switch streamingReceive server hr packet server.receivePackets.open.finish.2
      rw [hs]
      obtain ⟨r', hr', hreads, hm⟩ := @receiveOnce_plain streamingReceive _ _ _ packet
        (hreader.trans (congrArg some (open_eq server.replayStream))) (Or.inl hfirst)
      exact ⟨r', he.trans ((streamingReceive_eq r packet).trans hr'), hreads, hm.trans hmode⟩
    · have hs : readStream .auto server = server.receivePackets := by simp [readStream, hr]
      rw [hs]
      simp only [received, hp, List.getElem?_nil]
      unfold onEnd
      rw [if_neg fun h => hr h.2.2.2]
      refine ⟨_, rfl, ⟨rfl, ?_⟩, rfl⟩
      change some _ = some _
      simp [hp, RpcStream.open, ClientReader.finish]

/-- **The first call** already reads the stream that all later calls read. -/
theorem streamingReceive_create {mode : ReceiverMode} (hmode : mode ≠ .unaryReceive)
    (server : Server) (packet : Packet) :
    ∃ r', streamingReceive (create mode server) packet =
        .ok (received (readStream mode server) packet 0, r') ∧
      Reads (readStream mode server) 1 r' ∧ r'.receiverMode = mode := by
  cases mode with
  | unaryReceive => exact absurd rfl hmode
  | streamingReceive => exact streamingReceive_single packet (fun h => nomatch h) rfl
  | replay => exact streamingReceive_single packet (fun h => nomatch h) rfl
  | auto => exact streamingReceive_auto server packet

/-! ### Runs of calls -/

section Runs

variable (unaryReceive : PacketReceiver → Packet → OrFatal (Received × PacketReceiver))

/-- The receiver has answered `k` calls since its creation. -/
def Ready (mode : ReceiverMode) (server : Server) (k : ℕ) (r : PacketReceiver) : Prop :=
  r.receiverMode = mode ∧ (r = create mode server ∧ k = 0 ∨ Reads (readStream mode server) k r)

theorem ready_create (mode : ReceiverMode) (server : Server) :
    Ready mode server 0 (create mode server) := by
  refine ⟨?_, Or.inl ⟨rfl, rfl⟩⟩
  cases mode <;> rfl

/-- One call: it returns `received`, and the receiver is ready for the next one. -/
theorem receive_ready {mode : ReceiverMode} (hmode : mode ≠ .unaryReceive) {server : Server}
    {k : ℕ} {r : PacketReceiver} (h : Ready mode server k r) (packet : Packet) :
    ∃ r', receive unaryReceive r packet = .ok (received (readStream mode server) packet k, r') ∧
      Ready mode server (k + 1) r' := by
  obtain ⟨hm, hr⟩ := h
  rw [receive, if_neg (by rw [hm]; exact hmode)]
  rcases hr with ⟨rfl, rfl⟩ | hr
  · obtain ⟨r', he, hreads, hm'⟩ := streamingReceive_create hmode server packet
    exact ⟨r', he, hm', Or.inr hreads⟩
  · obtain ⟨r', he, hreads, hm'⟩ := streamingReceive_reads hr packet
    exact ⟨r', he, hm'.trans hm, Or.inr hreads⟩

/-- **Any sequence of calls**: the `k`-th returns `received` at `k`. -/
theorem calls_eq {mode : ReceiverMode} (hmode : mode ≠ .unaryReceive) (server : Server)
    (held : ℕ → Packet) (n : ℕ) :
    ∃ r, calls unaryReceive held (create mode server) n =
        .ok ((List.range n).map fun k => received (readStream mode server) (held k) k, r) ∧
      Ready mode server n r := by
  induction n with
  | zero => exact ⟨_, rfl, ready_create mode server⟩
  | succ n ih =>
    obtain ⟨r, he, hr⟩ := ih
    obtain ⟨r', he', hr'⟩ := receive_ready unaryReceive hmode hr (held n)
    refine ⟨r', ?_, hr'⟩
    rw [calls, he]
    simp only [he', List.range_succ, List.map_append, List.map_singleton]

/-- The packets the OK calls stored are the packets read, if call by call they are. -/
theorem stored_eq_reads : ∀ {l : List Received},
    (∀ x ∈ l, x.read = if x.status.ok = true then some x.packet else none) →
    (l.filter (·.status.ok)).map (·.packet) = l.filterMap (·.read) := by
  intro l
  induction l with
  | nil => intro _; rfl
  | cons x l ih =>
    intro h
    have hx := h x List.mem_cons_self
    have hl := ih fun y hy => h y (List.mem_cons_of_mem x hy)
    by_cases hok : x.status.ok = true
    · rw [if_pos hok] at hx
      simp only [List.filter_cons, hok, if_true, List.map_cons, List.filterMap_cons_some hx, hl]
    · rw [if_neg hok] at hx
      simp only [List.filter_cons, hok, if_false, Bool.false_eq_true, List.filterMap_cons_none hx,
        hl]

theorem makeStatus_not_ok {s : GrpcStatus} (h : s.errorCode ≠ .ok) :
    (makeStatusFromRpcStatus s).ok = false :=
  Bool.eq_false_iff.mpr fun hok => h ((makeStatusFromRpcStatus_ok s).mp hok)

theorem received_of_some {stream : RpcStream} {k : ℕ} {p : Packet}
    (h : stream.packets[k]? = some p) (held : Packet) :
    received stream held k = ⟨okStatus, p, some p⟩ := by
  rw [received, h]

theorem received_of_none {stream : RpcStream} {k : ℕ} (h : stream.packets[k]? = none)
    (held : Packet) : received stream held k =
      ⟨makeStatusFromRpcStatus (stream.finish (k - stream.packets.length)), held, none⟩ := by
  rw [received, h]

/-- On a stream that never finishes with OK, a call is OK exactly when it read a packet. -/
theorem received_read {stream : RpcStream} (hfin : ∀ n, (stream.finish n).errorCode ≠ .ok)
    (held : Packet) (k : ℕ) :
    (received stream held k).read =
      if (received stream held k).status.ok = true then some (received stream held k).packet
      else none := by
  cases h : stream.packets[k]? with
  | some p =>
    rw [received_of_some h]
    rfl
  | none =>
    rw [received_of_none h]
    simp only [makeStatus_not_ok (hfin _), Bool.false_eq_true, if_false]

/-- `Subscribe` leaves its loop at the latest at the end of the stream. -/
theorem subscribe_returns_of_finish {mode : ReceiverMode} (hmode : mode ≠ .unaryReceive)
    {server : Server} (hfin : ∀ n, ((readStream mode server).finish n).errorCode ≠ .ok)
    (callback : ℕ → Packet → Status) (held : ℕ → Packet) :
    ∀ (m k : ℕ) (r : PacketReceiver), Ready mode server k r →
      (readStream mode server).packets.length - k = m →
      ∃ fuel st, subscribe unaryReceive callback held fuel k r = .ok (some st) := by
  intro m
  induction m with
  | zero =>
    intro k r hr hk
    obtain ⟨r', he, _⟩ := receive_ready unaryReceive hmode hr (held k)
    have hnone : (readStream mode server).packets[k]? = none :=
      List.getElem?_eq_none (by omega)
    rw [received_of_none hnone] at he
    refine ⟨1, makeStatusFromRpcStatus
      ((readStream mode server).finish (k - (readStream mode server).packets.length)), ?_⟩
    rw [subscribe, he]
    exact if_pos (makeStatus_not_ok (hfin _))
  | succ m ih =>
    intro k r hr hk
    obtain ⟨r', he, hr'⟩ := receive_ready unaryReceive hmode hr (held k)
    obtain ⟨p, hp⟩ : ∃ p, (readStream mode server).packets[k]? = some p :=
      ⟨_, List.getElem?_eq_getElem (by omega)⟩
    rw [received_of_some hp] at he
    by_cases hc : isCancelled (callback k p) = true
    · refine ⟨1, okStatus, ?_⟩
      rw [subscribe, he]
      simp [hc]
    · obtain ⟨fuel, st, hst⟩ := ih (k + 1) r' hr' (by omega)
      refine ⟨fuel + 1, st, ?_⟩
      rw [subscribe, he]
      simpa [hc] using hst

/-- **`Receive` and `Subscribe` keep their contract exactly on the streams that never
finish with an OK status.**  A stream that the server closes cleanly makes `Receive`
return OK with no packet, call after call. -/
theorem deliversPackets_iff {mode : ReceiverMode} (hmode : mode ≠ .unaryReceive)
    (server : Server) :
    DeliversPackets unaryReceive mode server ↔
      ∀ n, ((readStream mode server).finish n).errorCode ≠ .ok := by
  constructor
  · intro h n hok
    obtain ⟨r, he, _⟩ := calls_eq unaryReceive hmode server (fun _ => .default)
      ((readStream mode server).packets.length + n + 1)
    have hlast : (readStream mode server).packets[(readStream mode server).packets.length + n]? =
        none := List.getElem?_eq_none (by omega)
    have hget : ((List.range ((readStream mode server).packets.length + n + 1)).map fun k =>
        received (readStream mode server) Packet.default k)[
          (readStream mode server).packets.length + n]? =
        some ⟨makeStatusFromRpcStatus ((readStream mode server).finish n), .default, none⟩ := by
      rw [List.getElem?_map, List.getElem?_range (by omega), Option.map_some,
        received_of_none hlast, Nat.add_sub_cancel_left]
    have := h.ended _ _ _ _ he _ _ _ _ hget hget (Nat.le_refl _) rfl
    rw [(makeStatusFromRpcStatus_ok _).mpr hok] at this
    cases this
  · intro hfin
    refine ⟨fun held n => ?_, fun held n results r he => ?_, fun held n results r he => ?_,
      fun callback held => ?_⟩
    · obtain ⟨r, he, _⟩ := calls_eq unaryReceive hmode server held n
      exact ⟨_, r, he⟩
    · obtain ⟨r', he', _⟩ := calls_eq unaryReceive hmode server held n
      rw [he'] at he
      cases he
      refine stored_eq_reads fun x hx => ?_
      obtain ⟨k, _, rfl⟩ := List.mem_map.mp hx
      exact received_read hfin (held k) k
    · obtain ⟨r', he', _⟩ := calls_eq unaryReceive hmode server held n
      rw [he'] at he
      cases he
      intro i j a b ha hb hij hread
      rw [List.getElem?_map] at ha hb
      obtain ⟨i', hi', rfl⟩ := Option.map_eq_some_iff.mp ha
      obtain ⟨j', hj', rfl⟩ := Option.map_eq_some_iff.mp hb
      obtain ⟨_, rfl⟩ := List.getElem?_eq_some_iff.mp hi'
      obtain ⟨_, rfl⟩ := List.getElem?_eq_some_iff.mp hj'
      simp only [List.getElem_range] at hread ⊢
      cases hp : (readStream mode server).packets[i]? with
      | some p =>
        rw [received_of_some hp] at hread
        cases hread
      | none =>
        have hj : (readStream mode server).packets[j]? = none :=
          List.getElem?_eq_none (by have := List.getElem?_eq_none_iff.mp hp; omega)
        rw [received_of_none hj]
        exact makeStatus_not_ok (hfin _)
    · exact subscribe_returns_of_finish unaryReceive hmode hfin callback held _ 0 _
        (ready_create mode server) rfl

/-- A server whose two RPCs send nothing and finish with `code`. -/
def emptyServer (code : GrpcStatusCode) : Server :=
  ⟨⟨[], fun _ => ⟨code, ""⟩⟩, ⟨[], fun _ => ⟨code, ""⟩⟩⟩

/-- A packet with this payload. -/
def packetOf (payload : Bytes) : Packet := { Packet.default with payload := payload }

/-- A server whose first RPC has run out of packets, and whose replay RPC sends two. -/
def replayServer : Server where
  receivePackets := ⟨[], fun _ => ⟨.outOfRange, ""⟩⟩
  replayStream := ⟨[packetOf [1], packetOf [2]], fun _ => ⟨.outOfRange, ""⟩⟩

/-- Both packets are delivered, after the switch to the replay RPC. -/
theorem deliversPackets_replayServer :
    DeliversPackets (fun r packet => .ok (⟨okStatus, packet, none⟩, r)) .auto replayServer ∧
      ∃ results r, calls (fun r packet => .ok (⟨okStatus, packet, none⟩, r))
          (fun _ => .default) (create .auto replayServer) 3 = .ok (results, r) ∧
        (results.filter (·.status.ok)).map (·.packet) = [packetOf [1], packetOf [2]] := by
  refine ⟨(deliversPackets_iff _ (by decide) replayServer).mpr fun n h => ?_, _, _, rfl, rfl⟩
  simp [readStream, replayServer] at h

/-- **A clean close breaks it**: no packet was ever sent, and `Receive` returns OK. -/
theorem not_deliversPackets_cleanClose :
    ¬ DeliversPackets (fun r packet => .ok (⟨okStatus, packet, none⟩, r)) .streamingReceive
      (emptyServer .ok) := by
  intro h
  obtain ⟨r, he, _⟩ := calls_eq (fun r packet => .ok (⟨okStatus, packet, none⟩, r))
    (show ReceiverMode.streamingReceive ≠ .unaryReceive by decide) (emptyServer .ok)
    (fun _ => .default) 1
  have := h.ended _ _ _ _ he 0 0 _ _ rfl rfl (Nat.le_refl 0) rfl
  exact absurd this (by decide)

end Runs

end PacketReceiver

end AIStreams
