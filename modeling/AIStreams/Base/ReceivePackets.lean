import AIStreams.Base.PacketUtils
import AIStreams.Base.ReceiverWorker
import AIStreams.Base.ReplayRequest
import AIStreams.Loop.Until

/-!
# Receiving packets with a callback

`ReceivePackets` of `aistreams/base/wrappers/receivers.cc`, on the results of `TryPop` one after
the other.  The callback is any function with a state of its own.

* `receiveLoop_eq`: the loop asks the callback about one packet after the other until it cancels.
* `drives_callback`: which packets these are, in which order, and when it returns.
-/

namespace AIStreams.ReceivePackets

open Loop (Ending TakesExactly takeUntil takeUntil_takesExactly takesExactly_iff)

/-! ### The program -/

/-- A packet that the callback was given, and what it returned. -/
structure Call where
  packet : Packet
  status : Status
  deriving DecidableEq

/-- The calls of the callback, and what was returned, unless the next `TryPop` still waits. -/
structure Received where
  calls : List Call
  status : Option Status

/-- `created` is the status of `PacketReceiver::Create`, and `now` what the clock shows in each
round.  A packet that is moved from is left as `moved` says. -/
structure Env (σ : Type) where
  created : Status
  now : ℕ → Option Timestamp
  callback : σ → Packet → Status × σ
  moved : Packet → Packet

/-- `TryPop(p, timeout)`, which leaves `p` alone when it times out. -/
def tryPop : Option Packet → Packet → Bool × Packet
  | none, p => (false, p)
  | some popped, _ => (true, popped)

section Loop

variable {σ : Type} [Message ControlSignalPacketTypeDescriptor] [Message EosValue] (env : Env σ)

/-- The loop from its `i`-th round on: `p` is its packet, `c` the state of the callback. -/
def receiveLoop : ℕ → Packet → σ → List (Option Packet) → Received
  | _, _, _, [] => ⟨[], none⟩
  | i, p, c, outcome :: outcomes =>
    let (popped, p) := tryPop outcome p
    if popped = false then
      match makeEosPacket (env.now i) "Timed out waiting for a new packet" with
      | .error _ _ => ⟨[], some (internalError "Failed to create an EOS packet")⟩
      | .value eos =>
        let (status, c) := env.callback c eos
        if isCancelled status then ⟨[⟨eos, status⟩], some okStatus⟩
        else
          let received := receiveLoop (i + 1) p c outcomes
          { received with calls := ⟨eos, status⟩ :: received.calls }
    else
      let (status, c) := env.callback c p
      if isCancelled status then ⟨[⟨p, status⟩], some okStatus⟩
      else
        let received := receiveLoop (i + 1) (env.moved p) c outcomes
        { received with calls := ⟨p, status⟩ :: received.calls }

/-- `ReceivePackets`. -/
def receivePackets (options : ReceiverOptions) (c : σ) (outcomes : List (Option Packet)) :
    OrFatal Received :=
  match ReceiverWorker.makePacketReceiverQueue options.bufferCapacity env.created with
  | .error e => .error e
  | .ok (status, _) =>
    if status.ok = false then
      .ok ⟨[], some (unknownError "Failed to create a packet receiver queue")⟩
    else .ok (receiveLoop env 0 .default c outcomes)

end Loop

/-! ### What the callback is asked -/

section Conversation

variable {σ : Type}

/-- The packets that the outcomes stand for: a popped one, or an EOS for a timeout. -/
def packets (eos : ℕ → Packet) : List (Option Packet) → List Packet
  | [] => []
  | outcome :: outcomes => outcome.getD (eos 0) :: packets (fun i => eos (i + 1)) outcomes

/-- What the callback answers to one packet after the other, for as long as there are any. -/
def answers (callback : σ → Packet → Status × σ) : σ → List Packet → List Call
  | _, [] => []
  | c, p :: rest => ⟨p, (callback c p).1⟩ :: answers callback (callback c p).2 rest

/-- What the loop has returned, by how it was left. -/
def returned : Ending → Option Status
  | .stopped => some okStatus
  | _ => none

variable [Message ControlSignalPacketTypeDescriptor] [Message EosValue] {env : Env σ}

/-- One round: whichever outcome it is, the callback is called once. -/
theorem receiveLoop_cons {i : ℕ} {eos : Packet}
    (heos : makeEosPacket (env.now i) "Timed out waiting for a new packet" = .value eos)
    (p : Packet) (c : σ) (outcome : Option Packet) (outcomes : List (Option Packet)) :
    let answer := env.callback c (outcome.getD eos)
    ∃ p', receiveLoop env i p c (outcome :: outcomes) =
      if isCancelled answer.1 then ⟨[⟨outcome.getD eos, answer.1⟩], some okStatus⟩
      else
        let received := receiveLoop env (i + 1) p' answer.2 outcomes
        { received with calls := ⟨outcome.getD eos, answer.1⟩ :: received.calls } := by
  cases outcome with
  | none =>
    refine ⟨p, ?_⟩
    rw [receiveLoop]
    simp only [tryPop, if_true, heos, Option.getD_none]
  | some q =>
    refine ⟨env.moved q, ?_⟩
    rw [receiveLoop]
    simp only [tryPop, Bool.true_eq_false, if_false, Option.getD_some]
    rfl

/-- **The loop asks about one packet after the other until the callback cancels**, whatever
the moves have left in its packet. -/
theorem receiveLoop_eq {eos : ℕ → Packet} (i : ℕ) (p : Packet) (c : σ)
    (outcomes : List (Option Packet))
    (heos : ∀ j, makeEosPacket (env.now (i + j)) "Timed out waiting for a new packet" =
      .value (eos j)) :
    let run := takeUntil (fun _ => false) (fun _ call => isCancelled call.status)
      ((answers env.callback c (packets eos outcomes)).map some)
    receiveLoop env i p c outcomes = ⟨run.1, returned run.2⟩ := by
  induction outcomes generalizing i p c eos with
  | nil => rfl
  | cons outcome outcomes ih =>
    have hnext : ∀ j, makeEosPacket (env.now (i + 1 + j)) "Timed out waiting for a new packet" =
        .value (eos (j + 1)) := by
      intro j
      rw [Nat.add_assoc, Nat.add_comm 1 j]
      exact heos (j + 1)
    obtain ⟨p', hround⟩ := receiveLoop_cons (heos 0) p c outcome outcomes
    rw [Nat.add_zero] at hround
    simp only [packets, answers, List.map_cons, takeUntil, Bool.false_eq_true, if_false]
    rw [hround]
    split
    · rfl
    · rw [ih (i + 1) p' _ hnext]

variable [LawfulMessage ControlSignalPacketTypeDescriptor] [LawfulMessage EosValue]

/-- **`ReceivePackets` drives its callback faithfully**: once the queue is created and as long as
EOS packets are, the callback is called on the popped packets, in their order and with an EOS
in the place of each timeout, until it cancels, and no further. -/
theorem drives_callback (env : Env σ) (options : ReceiverOptions) (eos : ℕ → Packet)
    (hcreated : env.created.ok = true)
    (heos : ∀ i, makeEosPacket (env.now i) "Timed out waiting for a new packet" = .value (eos i))
    (c : σ) (outcomes : List (Option Packet)) :
    (∀ i, isEos (eos i) = true) ∧ ∃ received ending,
      receivePackets env options c outcomes = .ok received ∧
        received.status = returned ending ∧
        TakesExactly (fun _ => false) (fun _ call => isCancelled call.status)
          ((answers env.callback c (packets eos outcomes)).map some) received.calls ending := by
  refine ⟨fun i => ?_, ?_⟩
  · obtain ⟨ts, hts⟩ := Option.ne_none_iff_exists'.mp (makeEosPacket_now (heos i))
    have hmade := heos i
    rw [hts] at hmade
    obtain ⟨p, hp, his⟩ := isEos_makeEosPacket ts "Timed out waiting for a new packet"
    cases hmade.symm.trans hp
    exact his
  · obtain ⟨s, hs⟩ :=
      ReceiverWorker.exists_makePacketReceiverQueue options.bufferCapacity hcreated
    have hloop := receiveLoop_eq 0 .default c outcomes (by simpa only [Nat.zero_add] using heos)
    refine ⟨receiveLoop env 0 .default c outcomes, _, ?_, congrArg Received.status hloop, ?_⟩
    · rw [receivePackets, hs]
      rfl
    · rw [hloop]
      exact takeUntil_takesExactly _ _ _

end Conversation

/-! ### A callback that cancels -/

open WireMessages

/-- A callback that fails the first time it is called, and then cancels. -/
def failsThenCancels : Env ℕ where
  created := okStatus
  now _ := some ⟨0, 0⟩
  callback calls _ :=
    (if calls = 0 then unknownError "no frame" else .make .kCancelled "enough", calls + 1)
  moved _ := .default

/-- A timeout and a packet; the next packet is not asked for. -/
theorem drives_callback_failsThenCancels : ∃ eos, isEos eos = true ∧
    ∃ received, receivePackets failsThenCancels {} 0 [none, some .default, some .default] =
        .ok received ∧
      received.calls = [⟨eos, unknownError "no frame"⟩, ⟨.default, .make .kCancelled "enough"⟩] ∧
      received.status = some okStatus := by
  obtain ⟨eos, heos, _⟩ := isEos_makeEosPacket ⟨0, 0⟩ "Timed out waiting for a new packet"
  obtain ⟨his, received, ending, hreceived, hstatus, htakes⟩ :=
    drives_callback failsThenCancels {} (fun _ => eos) rfl (fun _ => heos) 0
      [none, some .default, some .default]
  have hrun : (received.calls, ending) =
      ([⟨eos, unknownError "no frame"⟩, ⟨.default, .make .kCancelled "enough"⟩], .stopped) :=
    (takesExactly_iff.mp htakes).symm
  obtain ⟨hcalls, hending⟩ := Prod.mk.inj hrun
  rw [hending] at hstatus
  exact ⟨eos, his 0, received, hreceived, hcalls, hstatus⟩

end AIStreams.ReceivePackets
