import AIStreams.Base.PacketReceiver

/-!
# The auto mode of `PacketReceiver`

In the auto mode both RPCs are started, and the first `Receive` settles which of the two
readers stays.  Here a receiver carries the history of what its calls have done with the
readers and contexts; the functions are those of `PacketReceiver`, each writing down what
it does.

* `Observed.calls_receiver`: without the history they are the receiver's own.
* `Observed.Settled.receive`: after the first call, every call reads on from one reader.
* `Observed.usesOneReader`: what holds after any number of calls.
-/

namespace AIStreams

namespace PacketReceiver

/-- What a call does with a reader, a context or itself. -/
inductive ReaderEvent
  | read (mode : ReceiverMode) (packet : Option Packet)
  | finish (mode : ReceiverMode) (status : GrpcStatus)
  | switchToReplay
  /-- `dispose(mode)`, the current mode being `current`: the context is cancelled, the
  reader and the context are erased. -/
  | dispose (mode current : ReceiverMode)
  /-- `StreamingReceive` calls itself. -/
  | again

namespace ReaderEvent

/-- The reader, or the context, that the event is about. -/
def mode : ReaderEvent → Option ReceiverMode
  | read mode _ => some mode
  | finish mode _ => some mode
  | dispose mode _ => some mode
  | switchToReplay => none
  | again => none

/-- The packet that a `Read` stored. -/
def stored : ReaderEvent → Option Packet
  | read _ packet => packet
  | _ => none

def isSwitch : ReaderEvent → Bool
  | switchToReplay => true
  | _ => false

def isDispose : ReaderEvent → Bool
  | dispose _ _ => true
  | _ => false

def isAgain : ReaderEvent → Bool
  | again => true
  | _ => false

/-- A `Read` or a `Finish` of the reader of `mode`. -/
def Answers (mode : ReceiverMode) (e : ReaderEvent) : Prop :=
  (∃ packet, e = read mode packet) ∨ ∃ status, e = finish mode status

end ReaderEvent

/-- A receiver, and what its calls have done so far. -/
structure Observed where
  receiver : PacketReceiver
  history : List ReaderEvent

namespace Observed

/-- `dispose`. -/
def dispose (o : Observed) (mode : ReceiverMode) : OrFatal Observed :=
  match o.receiver.dispose mode with
  | .error e => .error e
  | .ok r => .ok ⟨r, o.history ++ [.dispose mode o.receiver.currentReceiverMode]⟩

def disposeUnusedClientReader (o : Observed) : OrFatal Observed :=
  match o.receiver.currentReceiverMode with
  | .replay => o.dispose .streamingReceive
  | .streamingReceive => o.dispose .replay
  | _ => .ok o

/-- `StreamingReceive` after a `Read` that returned false. -/
def onEnd (again : Observed → Packet → OrFatal (Received × Observed)) (firstReceiving : Bool)
    (status : GrpcStatus) (packet : Packet) (o : Observed) : OrFatal (Received × Observed) :=
  if firstReceiving = true ∧ o.receiver.receiverMode = .auto ∧
      o.receiver.currentReceiverMode = .streamingReceive ∧ status.errorCode = .outOfRange then
    match disposeUnusedClientReader
        ⟨{ o.receiver with currentReceiverMode := .replay }, o.history ++ [.switchToReplay]⟩ with
    | .error e => .error e
    | .ok o => again ⟨o.receiver, o.history ++ [.again]⟩ packet
  else .ok (⟨makeStatusFromRpcStatus status, packet, none⟩, o)

/-- `StreamingReceive` after a `Read` that stored `p`. -/
def onRead (firstReceiving : Bool) (p : Packet) (o : Observed) : OrFatal (Received × Observed) :=
  if firstReceiving = true ∧ o.receiver.receiverMode = .auto then
    match o.disposeUnusedClientReader with
    | .error e => .error e
    | .ok o => .ok (⟨okStatus, p, some p⟩, o)
  else .ok (⟨okStatus, p, some p⟩, o)

/-- The body of `StreamingReceive`. -/
def receiveOnce (again : Observed → Packet → OrFatal (Received × Observed)) (o : Observed)
    (packet : Packet) : OrFatal (Received × Observed) :=
  match o.receiver.streamingReaders o.receiver.currentReceiverMode with
  | none => .error ⟨"null dereference"⟩
  | some reader =>
    match reader.read with
    | none =>
      onEnd again o.receiver.firstReceiving reader.finish.1 packet
        ⟨{ o.receiver with firstReceiving := false }.setReader reader.finish.2,
          o.history ++ [.read o.receiver.currentReceiverMode none,
            .finish o.receiver.currentReceiverMode reader.finish.1]⟩
    | some (p, reader) =>
      onRead o.receiver.firstReceiving p
        ⟨{ o.receiver with firstReceiving := false }.setReader reader,
          o.history ++ [.read o.receiver.currentReceiverMode (some p)]⟩

/-- `StreamingReceive`, unrolled as the receiver's own. -/
def streamingReceive (o : Observed) (packet : Packet) : OrFatal (Received × Observed) :=
  receiveOnce (receiveOnce fun _ _ => .error ⟨"StreamingReceive went deeper than once"⟩) o packet

/-- `Receive`; the unary RPC has no reader. -/
def receive (unaryReceive : PacketReceiver → Packet → OrFatal (Received × PacketReceiver))
    (o : Observed) (packet : Packet) : OrFatal (Received × Observed) :=
  if o.receiver.receiverMode = .unaryReceive then
    match unaryReceive o.receiver packet with
    | .error e => .error e
    | .ok (result, r) => .ok (result, ⟨r, o.history⟩)
  else o.streamingReceive packet

/-- `n` calls of `Receive`, as `PacketReceiver.calls`. -/
def calls (unaryReceive : PacketReceiver → Packet → OrFatal (Received × PacketReceiver))
    (held : ℕ → Packet) (o : Observed) : ℕ → OrFatal (List Received × Observed)
  | 0 => .ok ([], o)
  | n + 1 =>
    match calls unaryReceive held o n with
    | .error e => .error e
    | .ok (results, o) =>
      match o.receive unaryReceive (held n) with
      | .error e => .error e
      | .ok (result, o) => .ok (results ++ [result], o)

/-! ### Without the history -/

/-- A result without its history. -/
def plain {α : Type} (x : OrFatal (α × Observed)) : OrFatal (α × PacketReceiver) :=
  x.map fun y => (y.1, y.2.receiver)

@[simp] theorem plain_ok {α : Type} (a : α) (o : Observed) :
    plain (.ok (a, o)) = .ok (a, o.receiver) := rfl

@[simp] theorem plain_error {α : Type} (e : Fatal) :
    plain (.error e : OrFatal (α × Observed)) = .error e := rfl

theorem dispose_receiver (o : Observed) (mode : ReceiverMode) :
    (o.dispose mode).map (·.receiver) = o.receiver.dispose mode := by
  rw [dispose]
  cases o.receiver.dispose mode <;> rfl

theorem disposeUnusedClientReader_receiver (o : Observed) :
    o.disposeUnusedClientReader.map (·.receiver) = o.receiver.disposeUnusedClientReader := by
  rw [disposeUnusedClientReader, PacketReceiver.disposeUnusedClientReader]
  cases o.receiver.currentReceiverMode with
  | replay => exact dispose_receiver o _
  | streamingReceive => exact dispose_receiver o _
  | unaryReceive => rfl
  | auto => rfl

section Erase

variable {again : Observed → Packet → OrFatal (Received × Observed)}
  {again' : PacketReceiver → Packet → OrFatal (Received × PacketReceiver)}

theorem onEnd_receiver (h : ∀ o packet, plain (again o packet) = again' o.receiver packet)
    (firstReceiving : Bool) (status : GrpcStatus) (packet : Packet) (o : Observed) :
    plain (onEnd again firstReceiving status packet o) =
      PacketReceiver.onEnd again' firstReceiving status packet o.receiver := by
  rw [onEnd, PacketReceiver.onEnd]
  by_cases hs : firstReceiving = true ∧ o.receiver.receiverMode = .auto ∧
      o.receiver.currentReceiverMode = .streamingReceive ∧ status.errorCode = .outOfRange
  · rw [if_pos hs, if_pos hs, ← disposeUnusedClientReader_receiver
      ⟨{ o.receiver with currentReceiverMode := .replay }, o.history ++ [.switchToReplay]⟩]
    cases disposeUnusedClientReader
        ⟨{ o.receiver with currentReceiverMode := .replay }, o.history ++ [.switchToReplay]⟩ with
    | error e => rfl
    | ok o => exact h _ packet
  · rw [if_neg hs, if_neg hs, plain_ok]

theorem onRead_receiver (firstReceiving : Bool) (p : Packet) (o : Observed) :
    plain (onRead firstReceiving p o) = PacketReceiver.onRead firstReceiving p o.receiver := by
  rw [onRead, PacketReceiver.onRead]
  by_cases hs : firstReceiving = true ∧ o.receiver.receiverMode = .auto
  · rw [if_pos hs, if_pos hs, ← disposeUnusedClientReader_receiver]
    cases o.disposeUnusedClientReader <;> rfl
  · rw [if_neg hs, if_neg hs, plain_ok]

theorem receiveOnce_receiver (h : ∀ o packet, plain (again o packet) = again' o.receiver packet)
    (o : Observed) (packet : Packet) :
    plain (receiveOnce again o packet) = PacketReceiver.receiveOnce again' o.receiver packet := by
  rw [receiveOnce, PacketReceiver.receiveOnce]
  cases o.receiver.streamingReaders o.receiver.currentReceiverMode with
  | none => rfl
  | some reader =>
    cases hr : reader.read with
    | none =>
      simp only [hr]
      exact onEnd_receiver h _ _ _ _
    | some x =>
      simp only [hr]
      exact onRead_receiver _ _ _

end Erase

theorem streamingReceive_receiver (o : Observed) (packet : Packet) :
    plain (o.streamingReceive packet) = o.receiver.streamingReceive packet :=
  receiveOnce_receiver (receiveOnce_receiver fun _ _ => rfl) o packet

theorem receive_receiver
    (unaryReceive : PacketReceiver → Packet → OrFatal (Received × PacketReceiver)) (o : Observed)
    (packet : Packet) :
    plain (o.receive unaryReceive packet) =
      PacketReceiver.receive unaryReceive o.receiver packet := by
  rw [receive, PacketReceiver.receive]
  by_cases hm : o.receiver.receiverMode = .unaryReceive
  · rw [if_pos hm, if_pos hm]
    cases unaryReceive o.receiver packet <;> rfl
  · rw [if_neg hm, if_neg hm]
    exact streamingReceive_receiver o packet

/-- **The history is only an observer**: without it the calls are those of the receiver. -/
theorem calls_receiver
    (unaryReceive : PacketReceiver → Packet → OrFatal (Received × PacketReceiver))
    (held : ℕ → Packet) (o : Observed) (n : ℕ) :
    plain (calls unaryReceive held o n) =
      PacketReceiver.calls unaryReceive held o.receiver n := by
  induction n with
  | zero => rfl
  | succ n ih =>
    rw [calls, PacketReceiver.calls, ← ih]
    cases calls unaryReceive held o n with
    | error e => rfl
    | ok x =>
      obtain ⟨results, o⟩ := x
      rw [plain_ok]
      simp only [← receive_receiver unaryReceive o (held n)]
      cases o.receive unaryReceive (held n) <;> rfl


/-! ### What one call adds -/

theorem disposeUnusedClientReader_firstReceiving {o o' : Observed}
    (h : o.disposeUnusedClientReader = .ok o') :
    o'.receiver.firstReceiving = o.receiver.firstReceiving := by
  have hr := disposeUnusedClientReader_receiver o
  rw [h] at hr
  exact firstReceiving_of_dispose hr.symm

/-- A call that is not the first does not call itself, whatever `again` would do. -/
theorem receiveOnce_of_not_first (again again' : Observed → Packet → OrFatal (Received × Observed))
    {o : Observed} (h : o.receiver.firstReceiving = false) (packet : Packet) :
    receiveOnce again o packet = receiveOnce again' o packet := by
  rw [receiveOnce, receiveOnce]
  cases o.receiver.streamingReaders o.receiver.currentReceiverMode with
  | none => rfl
  | some reader =>
    cases hr : reader.read with
    | none => simp only [hr, h, onEnd, Bool.false_eq_true, false_and, if_false]
    | some x => simp only [hr]

theorem onEnd_congr {again again' : Observed → Packet → OrFatal (Received × Observed)}
    {packet : Packet}
    (h : ∀ o, o.receiver.firstReceiving = false → again o packet = again' o packet)
    (firstReceiving : Bool) (status : GrpcStatus) {o : Observed}
    (ho : o.receiver.firstReceiving = false) :
    onEnd again firstReceiving status packet o = onEnd again' firstReceiving status packet o := by
  rw [onEnd, onEnd]
  split
  · split
    · rfl
    · rename_i hd
      exact h _ ((disposeUnusedClientReader_firstReceiving hd).trans ho)
  · rfl

/-- **The recursion is at most one deep**: what the inner call would do with a call of
itself does not matter. -/
theorem streamingReceive_depth (deeper : Observed → Packet → OrFatal (Received × Observed))
    (o : Observed) (packet : Packet) :
    receiveOnce (receiveOnce deeper) o packet = o.streamingReceive packet := by
  have hinner : ∀ o : Observed, o.receiver.firstReceiving = false →
      receiveOnce deeper o packet = receiveOnce (fun _ _ => .error
        ⟨"StreamingReceive went deeper than once"⟩) o packet :=
    fun _ ho => receiveOnce_of_not_first _ _ ho packet
  rw [streamingReceive, receiveOnce, receiveOnce]
  cases o.receiver.streamingReaders o.receiver.currentReceiverMode with
  | none => rfl
  | some reader =>
    cases hr : reader.read with
    | some x => simp only [hr]
    | none =>
      simp only [hr]
      exact onEnd_congr hinner _ _ rfl

/-! ### The reader that stays -/

/-- The mode whose reader the first call settles on. -/
def readMode (server : Server) : ReceiverMode :=
  if server.receivePackets.packets = [] ∧
      (server.receivePackets.finish 0).errorCode = .outOfRange then .replay
  else .streamingReceive

/-- The first call, up to where it has settled on a reader. -/
def opening (server : Server) : List ReaderEvent :=
  match server.receivePackets.packets with
  | p :: _ => [.read .streamingReceive (some p), .dispose .replay .streamingReceive]
  | [] =>
    if (server.receivePackets.finish 0).errorCode = .outOfRange then
      [.read .streamingReceive none, .finish .streamingReceive (server.receivePackets.finish 0),
        .switchToReplay, .dispose .streamingReceive .replay, .again]
    else [.read .streamingReceive none, .finish .streamingReceive (server.receivePackets.finish 0)]

/-- The receiver has settled on a reader, which has answered `k` calls. -/
structure Settled (server : Server) (k : ℕ) (o : Observed) : Prop where
  auto : o.receiver.receiverMode = .auto
  reads : Reads (readStream .auto server) k o.receiver
  current : o.receiver.currentReceiverMode = readMode server
  context : (o.receiver.ctx (readMode server)).isSome = true
  history : ∃ later, o.history = opening server ++ later ∧
    ∀ e ∈ later, e.Answers (readMode server)
  stored : o.history.filterMap (·.stored) = (readStream .auto server).packets.take k

theorem history_append {server : Server} {o : Observed} {new : List ReaderEvent}
    (h : ∃ later, o.history = opening server ++ later ∧ ∀ e ∈ later, e.Answers (readMode server))
    (hnew : ∀ e ∈ new, e.Answers (readMode server)) :
    ∃ later, o.history ++ new = opening server ++ later ∧
      ∀ e ∈ later, e.Answers (readMode server) := by
  obtain ⟨later, he, hl⟩ := h
  refine ⟨later ++ new, by rw [he, List.append_assoc], fun e hmem => ?_⟩
  rcases List.mem_append.mp hmem with hmem | hmem
  · exact hl e hmem
  · exact hnew e hmem

/-- **Every later call** reads on from the same reader. -/
theorem Settled.receiveOnce {server : Server} {k : ℕ} {o : Observed} (h : Settled server k o)
    (again : Observed → Packet → OrFatal (Received × Observed)) (packet : Packet) :
    ∃ o', o.receiveOnce again packet =
        .ok (received (readStream .auto server) packet k, o') ∧ Settled server (k + 1) o' := by
  obtain ⟨hfirst, hreader⟩ := h.reads
  rw [Observed.receiveOnce, hreader]
  cases hp : (readStream .auto server).packets[k]? with
  | some p =>
    have hk := (List.getElem?_eq_some_iff.mp hp).1
    simp only [read_open_of_some hp, received_of_some hp, hfirst, onRead, Bool.false_eq_true,
      false_and, if_false]
    refine ⟨_, rfl, h.auto, ⟨rfl, ?_⟩, h.current, h.context, history_append h.history ?_, ?_⟩
    · simp only [setReader, Function.update_self, Option.some.injEq, ClientReader.mk.injEq,
        true_and]
      omega
    · intro e he
      rw [List.mem_singleton.mp he, h.current]
      exact Or.inl ⟨_, rfl⟩
    · rw [List.filterMap_append, h.stored, List.take_add_one, hp]
      rfl
  | none =>
    have hk : (readStream .auto server).packets.length ≤ k := List.getElem?_eq_none_iff.mp hp
    simp only [read_open_of_none hp, received_of_none hp, hfirst, onEnd, Bool.false_eq_true,
      false_and, if_false]
    refine ⟨_, rfl, h.auto, ⟨rfl, ?_⟩, h.current, h.context, history_append h.history ?_, ?_⟩
    · rw [List.drop_eq_nil_of_le (show _ ≤ k + 1 by omega)]
      simp only [setReader, Function.update_self, ClientReader.finish, List.drop_eq_nil_of_le hk,
        Option.some.injEq, ClientReader.mk.injEq, true_and]
      omega
    · intro e he
      rw [h.current] at he
      rcases List.mem_cons.mp he with rfl | he
      · exact Or.inl ⟨_, rfl⟩
      · rw [List.mem_singleton.mp he]
        exact Or.inr ⟨_, rfl⟩
    · rw [List.filterMap_append, h.stored, List.take_add_one, hp]
      rfl

/-- A receiver just created, with no history. -/
def fresh (server : Server) : Observed := ⟨create .auto server, []⟩

/-- **The first call** settles on a reader. -/
theorem fresh_receive (server : Server) (packet : Packet) :
    ∃ o, (fresh server).streamingReceive packet =
        .ok (received (readStream .auto server) packet 0, o) ∧ Settled server 1 o := by
  rw [streamingReceive, Observed.receiveOnce]
  rw [show (fresh server).receiver.streamingReaders (fresh server).receiver.currentReceiverMode =
    some server.receivePackets.open from rfl]
  cases hp : server.receivePackets.packets with
  | cons p rest =>
    have hs : readStream .auto server = server.receivePackets := by simp [readStream, hp]
    have hm : readMode server = .streamingReceive := by simp [readMode, hp]
    have hread : server.receivePackets.open.read = some (p, ⟨server.receivePackets, rest, 0⟩) := by
      simp [RpcStream.open, ClientReader.read, hp]
    have h0 : (readStream .auto server).packets[0]? = some p := by rw [hs, hp]; rfl
    simp only [hread, received_of_some h0]
    refine ⟨_, rfl, rfl, ⟨rfl, ?_⟩, hm.symm, ?_, ⟨[], ?_, by simp⟩, ?_⟩
    · rw [hs]
      change some _ = some _
      simp [hp]
    · rw [hm]
      rfl
    · rw [List.append_nil, opening, hp]
      rfl
    · rw [hs, hp]
      rfl
  | nil =>
    have hread : server.receivePackets.open.read = none := by
      simp [RpcStream.open, ClientReader.read, hp]
    simp only [hread]
    by_cases hr : (server.receivePackets.finish 0).errorCode = .outOfRange
    · have hs : readStream .auto server = server.replayStream := by simp [readStream, hp, hr]
      have hm : readMode server = .replay := by simp [readMode, hp, hr]
      rw [onEnd, if_pos ⟨rfl, rfl, rfl, hr⟩]
      refine Settled.receiveOnce ⟨rfl, ⟨rfl, ?_⟩, hm.symm, ?_, ⟨[], ?_, by simp⟩, ?_⟩ _ packet
      · rw [hs]
        exact congrArg some (open_eq server.replayStream)
      · rw [hm]
        rfl
      · rw [List.append_nil, opening, hp]
        simp only [hr, if_true]
        rfl
      · rfl
    · have hs : readStream .auto server = server.receivePackets := by simp [readStream, hr]
      have hm : readMode server = .streamingReceive := by simp [readMode, hr]
      have h0 : (readStream .auto server).packets[0]? = none := by rw [hs, hp]; rfl
      rw [received_of_none h0, hs, hp, onEnd, if_neg fun h => hr h.2.2.2]
      refine ⟨_, rfl, rfl, ⟨rfl, ?_⟩, hm.symm, ?_, ⟨[], ?_, by simp⟩, ?_⟩
      · rw [hs]
        change some _ = some _
        simp [hp, RpcStream.open, ClientReader.finish]
      · rw [hm]
        rfl
      · rw [List.append_nil, opening, hp]
        simp only [hr, if_false]
        rfl
      · rw [hs, hp]
        rfl

/-! ### Any number of calls -/

/-- The stream that a reader reads. -/
def streamOf (server : Server) : ReceiverMode → RpcStream
  | .replay => server.replayStream
  | _ => server.receivePackets

/-- **A history that keeps to one reader**, that of `mode`. -/
structure KeepsTo (mode : ReceiverMode) (history : List ReaderEvent) : Prop where
  stored_mode : ∀ e ∈ history, e.stored.isSome = true → e.mode = some mode
  switch_once : history.countP (·.isSwitch) ≤ 1
  /-- The switch follows a first `Read` that returned false and a `Finish` that returned
  OUT_OF_RANGE, and nothing else. -/
  switch_iff : .switchToReplay ∈ history ↔
    history[0]? = some (.read .streamingReceive none) ∧
      ∃ status, history[1]? = some (.finish .streamingReceive status) ∧
        status.errorCode = .outOfRange
  switch_mode : .switchToReplay ∈ history ↔ mode = .replay
  dispose_once : history.countP (·.isDispose) ≤ 1
  /-- What is disposed of is not in use, then or now. -/
  dispose_unused : ∀ disposed current, .dispose disposed current ∈ history →
    disposed ≠ current ∧ disposed ≠ mode
  /-- Nothing touches a reader or a context after its disposal. -/
  untouched : history.Pairwise fun earlier later =>
    ∀ disposed current, earlier = .dispose disposed current → later.mode ≠ some disposed
  again_once : history.countP (·.isAgain) ≤ 1

/-- **What holds of a receiver in the auto mode**, `results` being the answers of its calls
so far. -/
structure UsesOneReader (server : Server) (results : List Received) (o : Observed) : Prop where
  keeps : KeepsTo o.receiver.currentReceiverMode o.history
  /-- The packets stored are those of one RPC, in its order and without a gap. -/
  stored : o.history.filterMap (·.stored) <+:
    (streamOf server o.receiver.currentReceiverMode).packets
  returned : results.filterMap (·.read) = o.history.filterMap (·.stored)
  reader_live : (o.receiver.streamingReaders o.receiver.currentReceiverMode).isSome = true
  context_live : (o.receiver.ctx o.receiver.currentReceiverMode).isSome = true
  /-- The next call goes at most one deep. -/
  depth : ∀ deeper packet, o.receiveOnce (receiveOnce deeper) packet = o.streamingReceive packet

theorem answers_mode {mode : ReceiverMode} {e : ReaderEvent} (h : e.Answers mode) :
    e.mode = some mode := by
  rcases h with ⟨packet, rfl⟩ | ⟨status, rfl⟩ <;> rfl

theorem answers_ne_dispose {mode : ReceiverMode} {e : ReaderEvent} (h : e.Answers mode)
    (disposed current : ReceiverMode) : e ≠ .dispose disposed current := by
  rcases h with ⟨packet, rfl⟩ | ⟨status, rfl⟩ <;> exact nofun

section Append

variable {mode : ReceiverMode} {history later : List ReaderEvent}

/-- Answers add no event of another kind. -/
theorem countP_append_answers {kind : ReaderEvent → Bool}
    (hkind : ∀ e : ReaderEvent, e.Answers mode → kind e = false)
    (hl : ∀ e ∈ later, e.Answers mode) : (history ++ later).countP kind = history.countP kind := by
  have hnone : later.countP kind = 0 :=
    List.countP_eq_zero.mpr fun e he => by rw [hkind e (hl e he)]; exact Bool.false_ne_true
  rw [List.countP_append, hnone, Nat.add_zero]

theorem switch_mem_append (hl : ∀ e ∈ later, e.Answers mode) :
    .switchToReplay ∈ history ++ later ↔ .switchToReplay ∈ history := by
  rw [List.mem_append]
  refine ⟨fun he => ?_, Or.inl⟩
  rcases he with he | he
  · exact he
  · rcases hl _ he with ⟨_, h⟩ | ⟨_, h⟩ <;> cases h

end Append

theorem keepsTo_nil : KeepsTo .streamingReceive [] where
  stored_mode _ he := absurd he List.not_mem_nil
  switch_once := Nat.zero_le 1
  switch_iff := by simp
  switch_mode := by simp
  dispose_once := Nat.zero_le 1
  dispose_unused _ _ he := absurd he List.not_mem_nil
  untouched := List.Pairwise.nil
  again_once := Nat.zero_le 1

/-- Answers of the reader can follow a first call. -/
theorem KeepsTo.append {mode : ReceiverMode} {history later : List ReaderEvent}
    (h : KeepsTo mode history) (htwo : 2 ≤ history.length) (hl : ∀ e ∈ later, e.Answers mode) :
    KeepsTo mode (history ++ later) where
  stored_mode e he hs := by
    rcases List.mem_append.mp he with he | he
    · exact h.stored_mode e he hs
    · exact answers_mode (hl e he)
  switch_once := by
    rw [countP_append_answers (fun e he => by rcases he with ⟨_, rfl⟩ | ⟨_, rfl⟩ <;> rfl) hl]
    exact h.switch_once
  switch_iff := by
    rw [List.getElem?_append_left (by omega), List.getElem?_append_left (by omega),
      ← h.switch_iff]
    exact switch_mem_append hl
  switch_mode := (switch_mem_append hl).trans h.switch_mode
  dispose_once := by
    rw [countP_append_answers (fun e he => by rcases he with ⟨_, rfl⟩ | ⟨_, rfl⟩ <;> rfl) hl]
    exact h.dispose_once
  dispose_unused disposed current he := by
    rcases List.mem_append.mp he with he | he
    · exact h.dispose_unused disposed current he
    · exact absurd rfl (answers_ne_dispose (hl _ he) disposed current)
  untouched := by
    refine List.pairwise_append.mpr ⟨h.untouched, ?_, ?_⟩
    · refine List.Pairwise.imp_of_mem (R := fun _ _ => True) ?_
        (List.pairwise_of_forall fun _ _ => trivial)
      intro a b ha _ _ disposed current heq
      exact absurd heq (answers_ne_dispose (hl a ha) disposed current)
    · intro a ha b hb disposed current heq hmode
      rw [answers_mode (hl b hb), Option.some.injEq] at hmode
      exact (h.dispose_unused disposed current (heq ▸ ha)).2 hmode.symm
  again_once := by
    rw [countP_append_answers (fun e he => by rcases he with ⟨_, rfl⟩ | ⟨_, rfl⟩ <;> rfl) hl]
    exact h.again_once

/-- The three forms that the first call can take. -/
theorem opening_cases (server : Server) :
    (∃ p, readMode server = .streamingReceive ∧
      opening server = [.read .streamingReceive (some p), .dispose .replay .streamingReceive]) ∨
    (∃ status : GrpcStatus, status.errorCode = .outOfRange ∧ readMode server = .replay ∧
      opening server = [.read .streamingReceive none, .finish .streamingReceive status,
        .switchToReplay, .dispose .streamingReceive .replay, .again]) ∨
    ∃ status : GrpcStatus, status.errorCode ≠ .outOfRange ∧ readMode server = .streamingReceive ∧
      opening server = [.read .streamingReceive none, .finish .streamingReceive status] := by
  rw [opening, readMode]
  cases server.receivePackets.packets with
  | cons p rest => exact Or.inl ⟨p, by simp, rfl⟩
  | nil =>
    by_cases hr : (server.receivePackets.finish 0).errorCode = .outOfRange
    · exact Or.inr (Or.inl ⟨_, hr, by simp [hr], by simp [hr]⟩)
    · exact Or.inr (Or.inr ⟨_, hr, by simp [hr], by simp [hr]⟩)

theorem opening_two (server : Server) : 2 ≤ (opening server).length := by
  rcases opening_cases server with ⟨p, _, h⟩ | ⟨status, _, _, h⟩ | ⟨status, _, _, h⟩ <;>
    rw [h] <;> simp

theorem opening_keepsTo (server : Server) : KeepsTo (readMode server) (opening server) := by
  rcases opening_cases server with ⟨p, hm, h⟩ | ⟨status, hs, hm, h⟩ | ⟨status, hs, hm, h⟩
  · rw [h, hm]
    constructor <;> simp [ReaderEvent.stored, ReaderEvent.mode, ReaderEvent.isSwitch,
      ReaderEvent.isDispose, ReaderEvent.isAgain]
  · rw [h, hm]
    constructor <;> simp [ReaderEvent.stored, ReaderEvent.mode, ReaderEvent.isSwitch,
      ReaderEvent.isDispose, ReaderEvent.isAgain, hs]
  · rw [h, hm]
    constructor <;> simp [ReaderEvent.stored, ReaderEvent.mode, ReaderEvent.isSwitch,
      ReaderEvent.isDispose, ReaderEvent.isAgain, hs]

theorem streamOf_readMode (server : Server) :
    streamOf server (readMode server) = readStream .auto server := by
  by_cases h : server.receivePackets.packets = [] ∧
      (server.receivePackets.finish 0).errorCode = .outOfRange
  · simp [readMode, streamOf, readStream, h]
  · simp [readMode, streamOf, readStream, h]

/-- A settled receiver has packets stored up to the call it has come to. -/
theorem Settled.usesReader {server : Server} {k : ℕ} {o : Observed} (h : Settled server k o)
    {results : List Received}
    (hr : results.filterMap (·.read) = (readStream .auto server).packets.take k) :
    UsesOneReader server results o where
  keeps := by
    obtain ⟨later, he, hl⟩ := h.history
    rw [he, h.current]
    exact (opening_keepsTo server).append (opening_two server) hl
  stored := by
    rw [h.current, streamOf_readMode, h.stored]
    exact List.take_prefix k _
  returned := hr.trans h.stored.symm
  reader_live := by rw [h.reads.2]; rfl
  context_live := by rw [h.current]; exact h.context
  depth deeper packet := streamingReceive_depth deeper o packet

theorem fresh_usesOneReader (server : Server) : UsesOneReader server [] (fresh server) where
  keeps := keepsTo_nil
  stored := List.nil_prefix
  returned := rfl
  reader_live := rfl
  context_live := rfl
  depth deeper packet := streamingReceive_depth deeper _ packet

/-- The packets read by the first `n` calls on a stream. -/
theorem received_reads (stream : RpcStream) (held : ℕ → Packet) (n : ℕ) :
    ((List.range n).map fun k => received stream (held k) k).filterMap (·.read) =
      stream.packets.take n := by
  induction n with
  | zero => rfl
  | succ n ih =>
    rw [List.range_succ, List.map_append, List.filterMap_append, ih, List.take_add_one]
    cases hp : stream.packets[n]? with
    | some p => simp [received_of_some hp]
    | none => simp [received_of_none hp]

section Runs

variable (unaryReceive : PacketReceiver → Packet → OrFatal (Received × PacketReceiver))

theorem receive_of_auto {o : Observed} (h : o.receiver.receiverMode = .auto) (packet : Packet) :
    o.receive unaryReceive packet = o.streamingReceive packet := by
  rw [receive, if_neg (by rw [h]; decide)]

/-- `n` calls leave a receiver fresh or settled. -/
theorem calls_settled (server : Server) (held : ℕ → Packet) (n : ℕ) :
    ∃ o, calls unaryReceive held (fresh server) n =
        .ok ((List.range n).map fun k => received (readStream .auto server) (held k) k, o) ∧
      (n = 0 ∧ o = fresh server ∨ Settled server n o) := by
  induction n with
  | zero => exact ⟨_, rfl, Or.inl ⟨rfl, rfl⟩⟩
  | succ n ih =>
    obtain ⟨o, he, ho⟩ := ih
    have hstep : ∃ o', o.receive unaryReceive (held n) =
        .ok (received (readStream .auto server) (held n) n, o') ∧ Settled server (n + 1) o' := by
      rcases ho with ⟨rfl, rfl⟩ | ho
      · rw [receive_of_auto unaryReceive rfl]
        exact fresh_receive server (held 0)
      · rw [receive_of_auto unaryReceive ho.auto]
        exact ho.receiveOnce _ (held n)
    obtain ⟨o', he', ho'⟩ := hstep
    refine ⟨o', ?_, Or.inr ho'⟩
    rw [calls, he]
    simp only [he', List.range_succ, List.map_append, List.map_singleton]

/-- **The auto mode uses one reader**: however the two RPCs answer and however often
`Receive` is called, no call crashes, the packets are those of one RPC in order, the switch
and the disposal happen at most once each, and nothing touches what was disposed of. -/
theorem usesOneReader (server : Server) (held : ℕ → Packet) (n : ℕ) :
    ∃ results o, calls unaryReceive held (fresh server) n = .ok (results, o) ∧
      PacketReceiver.calls unaryReceive held (create .auto server) n =
        .ok (results, o.receiver) ∧
      UsesOneReader server results o := by
  obtain ⟨o, he, ho⟩ := calls_settled unaryReceive server held n
  refine ⟨_, o, he, ?_, ?_⟩
  · have hplain := calls_receiver unaryReceive held (fresh server) n
    rw [he, plain_ok] at hplain
    exact hplain.symm
  · rcases ho with ⟨rfl, rfl⟩ | ho
    · exact fresh_usesOneReader server
    · exact ho.usesReader (received_reads _ held n)

end Runs

end Observed

end PacketReceiver

end AIStreams
