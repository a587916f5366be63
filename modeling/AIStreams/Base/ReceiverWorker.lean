import AIStreams.Base.PacketTypes
import AIStreams.Util.QueueClient

/-!
# The packet receiver worker

`aistreams/base/wrappers/receivers.cc` and `receiver_queue.h`: `MakePacketReceiverQueue`, its
background worker, and a consumer that pops from the `ReceiverQueue` until it releases it.
Receiving is an oracle; every `TryPush`, `Emplace` and `TryPop` runs on the shared
`ProducerConsumerQueue`, stretch by stretch.

* `toQueue`: the threads' queue is a `ProducerConsumerQueue` in one of its runs.
* `ordered_gapless`: what the consumer pops is a prefix of what was received, in order, with
  one EOS after a failure; nothing is lost while the consumer keeps its share.
* `canReach_over_iff`: when the worker can still come to an end after the release, and when it
  cannot.
-/

namespace AIStreams.ReceiverWorker

open Transition
open Transition.System (not_canReach_of_trap)
open ProducerConsumerQueue (Call Ended Return)

/-! ### The program -/

def kDefaultTryPushTimeoutSeconds : ℤ := 5

def kDefaultBufferCapacity : Int32 := 300

/-- What the `n`-th `Receive` returns and stores, and what the clock shows when an EOS
packet is made. -/
structure Env where
  receive : ℕ → Status × Packet
  now : Option Timestamp

inductive Role
  | worker
  | consumer
  deriving DecidableEq

/-- Where the worker is: at the test of `use_count`, in `Receive`, in the `TryPush` of `p`,
in the `Emplace` of an EOS packet, or past its loop. -/
inductive Pc
  | top (p : Option Packet)
  | receiving
  | pushing (p : Packet)
  | emplacing (eos : Packet)
  | ended
  | crashed (e : Fatal)

/-- `consumerHolds`: the consumer has its share of the queue, so that `use_count() > 1`. -/
structure State where
  shared : ProducerConsumerQueue.State Role Packet
  consumerHolds : Bool
  pc : Pc
  received : ℕ

def queueCapacity (bufferCapacity : Int32) : Int32 :=
  if bufferCapacity ≤ 0 then kDefaultBufferCapacity else bufferCapacity

/-- `MakePacketReceiverQueue`; `created` is the status of `PacketReceiver::Create`, without
which no worker is launched. -/
def makePacketReceiverQueue (bufferCapacity : Int32) (created : Status) :
    OrFatal (Status × State) :=
  match ProducerConsumerQueue.create Packet (queueCapacity bufferCapacity) with
  | .error e => .error e
  | .ok queue =>
    let shared := ProducerConsumerQueue.initial Role queue
    if created.ok = false then
      .ok (unknownError "Failed to create a PacketReceiver", ⟨shared, true, .ended, 0⟩)
    else .ok (okStatus, ⟨shared, true, .top none, 0⟩)

def eosReason (s : Status) : String :=
  "Could not receive a packet from the server: " ++ s.message

/-- The test of the loop, and of `p`. -/
def afterCheck (consumerHolds : Bool) (p : Option Packet) : Pc :=
  if consumerHolds then
    match p with
    | none => .receiving
    | some p => .pushing p
  else .ended

/-- The call of the queue that the worker is in. -/
def Pc.call : Pc → Option (Call Packet)
  | .pushing p => some (.tryPush p (.seconds kDefaultTryPushTimeoutSeconds))
  | .emplacing eos => some (.emplace eos)
  | _ => none

/-- Where the worker goes when a stretch of its call has ended. -/
def Pc.afterCall : Pc → Ended Packet → Pc
  | .pushing _, .done (.tryPush _ p) => .top p
  | .emplacing _, .done .emplace => .ended
  | pc, _ => pc

theorem init_eq {bufferCapacity : Int32} {s : State}
    (h : makePacketReceiverQueue bufferCapacity okStatus = .ok (okStatus, s)) :
    ∃ queue, ProducerConsumerQueue.create Packet (queueCapacity bufferCapacity) = .ok queue ∧
      s = ⟨ProducerConsumerQueue.initial Role queue, true, .top none, 0⟩ := by
  unfold makePacketReceiverQueue at h
  split at h
  · cases h
  · rename_i queue hq
    cases h
    exact ⟨queue, hq, rfl⟩

/-- Once the receiver is created, so is its queue. -/
theorem exists_makePacketReceiverQueue (bufferCapacity : Int32) {created : Status}
    (h : created.ok = true) :
    ∃ s, makePacketReceiverQueue bufferCapacity created = .ok (okStatus, s) := by
  have hpos : ¬ (queueCapacity bufferCapacity).toInt ≤ 0 := by
    unfold queueCapacity
    split
    · decide
    · rename_i h
      rw [Int32.le_iff_toInt_le] at h
      exact h
  unfold makePacketReceiverQueue ProducerConsumerQueue.create
  rw [dif_neg hpos]
  simp [h]

/-! ### Packets in hand and received -/

/-- The packet in the worker's hand. -/
def Pc.hand : Pc → List Packet
  | .top p => p.toList
  | .pushing p => [p]
  | .emplacing eos => [eos]
  | _ => []

/-- The worker may still receive. -/
def Pc.live : Pc → Prop
  | .top _ => True
  | .receiving => True
  | .pushing _ => True
  | _ => False

/-- What a stretch of the worker's call accepts leaves its hand. -/
theorem accepts_append_hand {pc : Pc} {c : Call Packet} (hc : pc.call = some c)
    {q q' : ProducerConsumerQueue.State Role Packet} {e : Ended Packet}
    (h : ProducerConsumerQueue.Step q (.run .worker c e) q') :
    c.accepts e ++ (pc.afterCall e).hand = pc.hand := by
  cases pc with
  | pushing p =>
    cases hc
    rcases h.tryPush_ended with ⟨f, rfl, _⟩ | ⟨rfl, _⟩ | ⟨rfl, _⟩ <;> rfl
  | emplacing eos =>
    cases hc
    rcases h.emplace_ended with ⟨f, rfl, _⟩ | ⟨rfl, _⟩ <;> rfl
  | top p => cases hc
  | receiving => cases hc
  | ended => cases hc
  | crashed e => cases hc

/-- Where the worker can be after a stretch of its call. -/
theorem afterCall_cases {pc : Pc} {c : Call Packet} (hc : pc.call = some c)
    {q q' : ProducerConsumerQueue.State Role Packet} {e : Ended Packet}
    (h : ProducerConsumerQueue.Step q (.run .worker c e) q') :
    ((∃ f, e = .wait f) ∧ pc.afterCall e = pc) ∨
      (∃ p ok p', pc = .pushing p ∧ e = .done (.tryPush ok p') ∧ pc.afterCall e = .top p') ∨
      ∃ eos, pc = .emplacing eos ∧ e = .done .emplace ∧ pc.afterCall e = .ended := by
  cases pc with
  | pushing p =>
    cases hc
    rcases h.tryPush_ended with ⟨f, rfl, _⟩ | ⟨rfl, _⟩ | ⟨rfl, _⟩
    · exact Or.inl ⟨⟨f, rfl⟩, rfl⟩
    · exact Or.inr (Or.inl ⟨p, _, _, rfl, rfl, rfl⟩)
    · exact Or.inr (Or.inl ⟨p, _, _, rfl, rfl, rfl⟩)
  | emplacing eos =>
    cases hc
    rcases h.emplace_ended with ⟨f, rfl, _⟩ | ⟨rfl, _⟩
    · exact Or.inl ⟨⟨f, rfl⟩, rfl⟩
    · exact Or.inr (Or.inr ⟨eos, rfl, rfl, rfl⟩)
  | top p => cases hc
  | receiving => cases hc
  | ended => cases hc
  | crashed e => cases hc

/-- The packets of the OK calls among the first `n`, in order. -/
def okPackets (env : Env) (n : ℕ) : List Packet :=
  (List.range n).filterMap fun k =>
    if (env.receive k).1.ok then some (env.receive k).2 else none

theorem okPackets_succ (env : Env) (n : ℕ) : okPackets env (n + 1) =
    okPackets env n ++ if (env.receive n).1.ok then [(env.receive n).2] else [] := by
  unfold okPackets
  rw [List.range_succ, List.filterMap_append]
  by_cases h : (env.receive n).1.ok = true
  · simp [h]
  · simp [h]

def AllOk (env : Env) (n : ℕ) : Prop := ∀ k < n, (env.receive k).1.ok = true

theorem okPackets_of_allOk {env : Env} {n : ℕ} (h : AllOk env n) :
    okPackets env n = (List.range n).map fun k => (env.receive k).2 := by
  rw [okPackets, ← List.filterMap_eq_map]
  refine List.filterMap_congr fun k hk => ?_
  rw [if_pos (h k (List.mem_range.mp hk))]
  rfl

section Program

variable [Message ControlSignalPacketTypeDescriptor] [Message EosValue]

def afterReceive (env : Env) (result : Status × Packet) : Pc :=
  if result.1.ok then .pushing result.2
  else
    match (makeEosPacket env.now (eosReason result.1)).valueOrDie with
    | .error e => .crashed e
    | .ok eos => .emplacing eos

inductive Label
  | check
  | receive
  | work
  | pop
  | wake (t : Role)
  | release

/-- The steps of the worker, of the consumer and of the clock.  The consumer releases its
queue between two of its calls. -/
inductive Step (env : Env) : State → Label → State → Prop
  | check {s : State} (p : Option Packet) : s.pc = .top p →
      Step env s .check { s with pc := afterCheck s.consumerHolds p }
  | receive {s : State} : s.pc = .receiving →
      Step env s .receive
        { s with pc := afterReceive env (env.receive s.received), received := s.received + 1 }
  | work {s : State} (c : Call Packet) (e : Ended Packet)
      {shared : ProducerConsumerQueue.State Role Packet} : s.pc.call = some c →
      ProducerConsumerQueue.Step s.shared (.run .worker c e) shared →
      Step env s .work { s with shared := shared, pc := s.pc.afterCall e }
  | pop {s : State} (elem : Packet) (timeout : Duration) (e : Ended Packet)
      {shared : ProducerConsumerQueue.State Role Packet} : s.consumerHolds = true →
      ProducerConsumerQueue.Step s.shared (.run .consumer (.tryPop elem timeout) e) shared →
      Step env s .pop { s with shared := shared }
  | wake {s : State} (t : Role) {shared : ProducerConsumerQueue.State Role Packet} :
      ProducerConsumerQueue.Step s.shared (.wake t) shared →
      Step env s (.wake t) { s with shared := shared }
  | release {s : State} : s.consumerHolds = true → s.shared.threads .consumer = .outside →
      Step env s .release { s with consumerHolds := false }

/-- The worker launched by `MakePacketReceiverQueue`, and a consumer. -/
def system (env : Env) (bufferCapacity : Int32) : System State Label where
  init s := makePacketReceiverQueue bufferCapacity okStatus = .ok (okStatus, s)
  step := Step env

/-! ### The queue of the worker -/

/-- **Every step is a step of the queue, or leaves it alone.** -/
def toQueue (env : Env) (bufferCapacity : Int32) :
    Refinement (system env bufferCapacity)
      (ProducerConsumerQueue.system Role Packet (queueCapacity bufferCapacity)) where
  abs := State.shared
  init := by
    intro s h
    obtain ⟨queue, hq, rfl⟩ := init_eq h
    exact ⟨queue, hq, rfl⟩
  step := by
    intro s l s' _ h
    cases h with
    | check _ _ => exact Or.inl rfl
    | receive _ => exact Or.inl rfl
    | work _ _ _ hq => exact Or.inr ⟨_, hq⟩
    | pop _ _ _ _ hq => exact Or.inr ⟨_, hq⟩
    | wake _ hq => exact Or.inr ⟨_, hq⟩
    | release _ _ => exact Or.inl rfl

/-! ### What is received, and where it is -/

/-- The EOS packet for a failed call. -/
def eosFor (env : Env) (s : Status) : List Packet :=
  match makeEosPacket env.now (eosReason s) with
  | .error _ _ => []
  | .value eos => [eos]

/-- The EOS packet, if one of the first `n` calls failed. -/
def eosPackets (env : Env) (n : ℕ) : List Packet :=
  match (List.range n).find? fun k => !(env.receive k).1.ok with
  | none => []
  | some k => eosFor env (env.receive k).1

theorem eosPackets_of_allOk {env : Env} {n : ℕ} (h : AllOk env n) : eosPackets env n = [] := by
  have hnone : (List.range n).find? (fun k => !(env.receive k).1.ok) = none := by
    rw [List.find?_eq_none]
    intro k hk
    simp [h k (List.mem_range.mp hk)]
  rw [eosPackets, hnone]

theorem eosPackets_succ {env : Env} {n : ℕ} (h : AllOk env n) : eosPackets env (n + 1) =
    if (env.receive n).1.ok then [] else eosFor env (env.receive n).1 := by
  by_cases hn : (env.receive n).1.ok = true
  · rw [if_pos hn]
    refine eosPackets_of_allOk fun k hk => ?_
    by_cases hkn : k = n
    · rw [hkn]
      exact hn
    · exact h k (by omega)
  · have hnone : (List.range n).find? (fun k => !(env.receive k).1.ok) = none := by
      rw [List.find?_eq_none]
      intro k hk
      simp [h k (List.mem_range.mp hk)]
    rw [if_neg hn, eosPackets, List.range_succ, List.find?_append, hnone]
    simp [hn]

/-- What the worker takes in hand from a call of `Receive`. -/
theorem hand_afterReceive (env : Env) (result : Status × Packet) :
    (afterReceive env result).hand =
      (if result.1.ok then [result.2] else []) ++
        if result.1.ok then [] else eosFor env result.1 := by
  unfold afterReceive eosFor
  by_cases h : result.1.ok = true
  · simp [h, Pc.hand]
  · simp only [h]
    cases makeEosPacket env.now (eosReason result.1) <;> rfl

/-- **The invariant**: what was accepted and what is in hand is what was received, unless the
worker has left with its packet because the consumer had gone. -/
structure Inv (env : Env) (s : State) : Prop where
  allOk : s.pc.live → AllOk env s.received
  conserved : ∃ lost, s.shared.accepted ++ s.pc.hand ++ lost =
      okPackets env s.received ++ eosPackets env s.received ∧
    (s.consumerHolds = true ∨ s.pc ≠ .ended → lost = [])

theorem afterReceive_of_not_ok (env : Env) {result : Status × Packet} (h : ¬ result.1.ok = true) :
    (∃ eos, afterReceive env result = .emplacing eos) ∨
      ∃ e, afterReceive env result = .crashed e := by
  unfold afterReceive
  rw [if_neg h]
  cases (makeEosPacket env.now (eosReason result.1)).valueOrDie with
  | ok eos => exact Or.inl ⟨eos, rfl⟩
  | error e => exact Or.inr ⟨e, rfl⟩

theorem inv_check {env : Env} {s : State} (h : Inv env s) {p : Option Packet} (hp : s.pc = .top p) :
    Inv env { s with pc := afterCheck s.consumerHolds p } := by
  obtain ⟨lost, hcons, hlost⟩ := h.conserved
  have hnil : lost = [] := hlost (Or.inr (by rw [hp]; exact fun h => nomatch h))
  rw [hp, hnil, List.append_nil] at hcons
  have hall := h.allOk (by rw [hp]; trivial)
  cases hh : s.consumerHolds with
  | true =>
    refine ⟨fun _ => hall, [], ?_, fun _ => rfl⟩
    rw [List.append_nil, ← hcons]
    cases p <;> rfl
  | false =>
    refine ⟨fun _ => hall, p.toList, ?_, ?_⟩
    · rw [← hcons]
      show s.shared.accepted ++ [] ++ p.toList = _
      rw [List.append_nil]
      rfl
    · intro hor
      rcases hor with hor | hor
      · exact absurd (show false = true from hor) (by decide)
      · exact absurd rfl hor

theorem inv_receive {env : Env} {s : State} (h : Inv env s) (hp : s.pc = .receiving) :
    Inv env { s with
      pc := afterReceive env (env.receive s.received), received := s.received + 1 } := by
  obtain ⟨lost, hcons, hlost⟩ := h.conserved
  have hnil : lost = [] := hlost (Or.inr (by rw [hp]; exact fun h => nomatch h))
  have hall := h.allOk (by rw [hp]; trivial)
  rw [hp, hnil, List.append_nil, eosPackets_of_allOk hall, List.append_nil] at hcons
  refine ⟨?_, [], ?_, fun _ => rfl⟩
  · intro hlive k hk
    by_cases hks : k = s.received
    · rw [hks]
      by_cases hok : (env.receive s.received).1.ok = true
      · exact hok
      · exfalso
        have hlive' : (afterReceive env (env.receive s.received)).live := hlive
        rcases afterReceive_of_not_ok env hok with ⟨eos, he⟩ | ⟨e, he⟩
        · rw [he] at hlive'
          exact hlive'
        · rw [he] at hlive'
          exact hlive'
    · exact hall k (by have : k < s.received + 1 := hk; omega)
  · show s.shared.accepted ++ (afterReceive env (env.receive s.received)).hand ++ [] = _
    rw [hand_afterReceive, List.append_nil, okPackets_succ, eosPackets_succ hall, ← hcons]
    simp only [Pc.hand, List.append_nil, List.append_assoc]

theorem inv_work {env : Env} {s : State} (h : Inv env s) {c : Call Packet} {e : Ended Packet}
    {shared : ProducerConsumerQueue.State Role Packet} (hc : s.pc.call = some c)
    (hq : ProducerConsumerQueue.Step s.shared (.run .worker c e) shared) :
    Inv env { s with shared := shared, pc := s.pc.afterCall e } := by
  obtain ⟨lost, hcons, hlost⟩ := h.conserved
  have hnil : lost = [] := hlost (Or.inr (fun he => by rw [he] at hc; cases hc))
  rw [hnil, List.append_nil] at hcons
  refine ⟨?_, [], ?_, fun _ => rfl⟩
  · intro hlive
    refine h.allOk ?_
    rcases afterCall_cases hc hq with ⟨_, he⟩ | ⟨p, _, p', hpc, _, _⟩ | ⟨eos, _, _, he⟩
    · rw [← he]
      exact hlive
    · rw [hpc]
      trivial
    · exfalso
      rw [show s.pc.afterCall e = .ended from he] at hlive
      exact hlive
  · show shared.accepted ++ (s.pc.afterCall e).hand ++ [] = _
    rw [List.append_nil, hq.queue_run.2.1, List.append_assoc, accepts_append_hand hc hq, hcons]

theorem inv_of_reachable {env : Env} {bufferCapacity : Int32} {s : State}
    (h : (system env bufferCapacity).Reachable s) : Inv env s := by
  refine h.invariant ?_ ?_
  · intro s hs
    obtain ⟨queue, _, rfl⟩ := init_eq hs
    exact ⟨fun _ k hk => absurd hk (Nat.not_lt_zero k), [], rfl, fun _ => rfl⟩
  · intro s l s' _ ih hs
    cases hs with
    | check p hp => exact inv_check ih hp
    | receive hp => exact inv_receive ih hp
    | work c e hc hq => exact inv_work ih hc hq
    | pop elem timeout e _ hq =>
      refine ⟨ih.allOk, ?_⟩
      have hacc := hq.queue_run.2.1
      rw [show (Call.tryPop elem timeout).accepts e = [] by cases e <;> rfl,
        List.append_nil] at hacc
      rw [hacc]
      exact ih.conserved
    | wake t hq =>
      refine ⟨ih.allOk, ?_⟩
      rw [hq.queue_wake.2.1]
      exact ih.conserved
    | release hh _ =>
      obtain ⟨lost, hcons, hlost⟩ := ih.conserved
      exact ⟨ih.allOk, lost, hcons, fun _ => hlost (Or.inl hh)⟩

/-- What was popped is a prefix of what was received, in order. -/
theorem popped_isPrefix_of_reachable {env : Env} {bufferCapacity : Int32} {s : State}
    (h : (system env bufferCapacity).Reachable s) :
    s.shared.popped <+: okPackets env s.received ++ eosPackets env s.received := by
  have hhist : s.shared.popped ++ s.shared.queue.q = s.shared.accepted :=
    ProducerConsumerQueue.history_of_reachable ((toQueue env bufferCapacity).reachable h)
  obtain ⟨lost, hcons, _⟩ := (inv_of_reachable h).conserved
  rw [← hhist] at hcons
  refine ⟨s.shared.queue.q ++ (s.pc.hand ++ lost), ?_⟩
  rw [← hcons]
  simp only [List.append_assoc]

/-- Nothing is received after a failed call. -/
theorem allOk_pred_of_reachable {env : Env} {bufferCapacity : Int32} {s : State}
    (h : (system env bufferCapacity).Reachable s) : AllOk env (s.received - 1) := by
  induction h with
  | init hs =>
    obtain ⟨queue, _, rfl⟩ := init_eq hs
    exact fun k hk => absurd hk (Nat.not_lt_zero k)
  | step hr hs ih =>
    cases hs with
    | check _ _ => exact ih
    | receive hp => exact (inv_of_reachable hr).allOk (by rw [hp]; trivial)
    | work _ _ _ _ => exact ih
    | pop _ _ _ _ _ => exact ih
    | wake _ _ => exact ih
    | release _ _ => exact ih

/-- There is an EOS packet of the worker's own exactly after a failed call, the last one. -/
theorem eosPackets_ne_nil {env : Env} {n : ℕ} (hall : AllOk env (n - 1))
    (h : eosPackets env n ≠ []) :
    ∃ k eos, n = k + 1 ∧ AllOk env k ∧ (env.receive k).1.ok = false ∧
      makeEosPacket env.now (eosReason (env.receive k).1) = .value eos ∧
      eosPackets env n = [eos] ∧ okPackets env n = okPackets env k := by
  cases n with
  | zero => exact absurd (eosPackets_of_allOk hall) h
  | succ k =>
    have hsucc := eosPackets_succ (n := k) hall
    cases hok : (env.receive k).1.ok with
    | true =>
      rw [hok, if_pos rfl] at hsucc
      exact absurd hsucc h
    | false =>
      rw [hok, if_neg (by simp), eosFor] at hsucc
      cases hmake : makeEosPacket env.now (eosReason (env.receive k).1) with
      | error status hs =>
        rw [hmake] at hsucc
        exact absurd hsucc h
      | value eos =>
        rw [hmake] at hsucc
        refine ⟨k, eos, rfl, hall, hok, hmake, hsucc, ?_⟩
        rw [okPackets_succ, hok, if_neg (by simp), List.append_nil]

/-- **The receiver worker is ordered and gapless.**  Whatever `Receive` yields, for every
buffer capacity and every interleaving with the consumer: what the consumer has popped is a
prefix of the packets received, in order, followed by one EOS packet if a `Receive` failed;
and while the consumer keeps its share, all of that is popped, queued or in the worker's
hand. -/
theorem ordered_gapless (env : Env) (bufferCapacity : Int32) {s : State}
    (h : (system env bufferCapacity).Reachable s) :
    s.shared.popped <+: okPackets env s.received ++ eosPackets env s.received ∧
      (s.consumerHolds = true → s.shared.popped ++ s.shared.queue.q ++ s.pc.hand =
        okPackets env s.received ++ eosPackets env s.received) := by
  have hhist : s.shared.popped ++ s.shared.queue.q = s.shared.accepted :=
    ProducerConsumerQueue.history_of_reachable ((toQueue env bufferCapacity).reachable h)
  obtain ⟨lost, hcons, hlost⟩ := (inv_of_reachable h).conserved
  rw [← hhist] at hcons
  refine ⟨popped_isPrefix_of_reachable h, fun hh => ?_⟩
  rw [hlost (Or.inl hh), List.append_nil] at hcons
  exact hcons

end Program

/-- One packet, then a failed call. -/
def onePacket : Env where
  receive n := if n = 0 then (okStatus, .default) else (unavailableError "", .default)
  now := some ⟨0, 0⟩

open WireMessages in
/-- The packet is popped, and then the EOS packet for the failed call. -/
theorem ordered_gapless_onePacket : ∃ eos, ∃ s : State, (system onePacket 1).Reachable s ∧
    s.pc = .ended ∧ s.shared.popped = [.default, eos] ∧
      okPackets onePacket s.received ++ eosPackets onePacket s.received = [.default, eos] := by
  obtain ⟨eos, heos⟩ : ∃ eos,
      makeEosPacket onePacket.now (eosReason (onePacket.receive 1).1) = .value eos := ⟨_, rfl⟩
  let q₀ := ProducerConsumerQueue.initial Role (.onePlace Packet)
  let q₁ := q₀.called .worker (.tryPush .default (.seconds 5))
  let q₂ := q₁.called .consumer (.tryPop .default .zero)
  let q₃ := q₂.called .worker (.emplace eos)
  let q₄ := q₃.called .consumer (.tryPop .default .zero)
  have hq₁ : ProducerConsumerQueue.Step q₀
      (.run .worker (.tryPush .default (.seconds 5)) (.done (.tryPush true none))) q₁ :=
    ProducerConsumerQueue.called_step (fun _ => rfl) Role.worker _
  have hq₂ : ProducerConsumerQueue.Step q₁
      (.run .consumer (.tryPop .default .zero) (.done (.tryPop true .default))) q₂ :=
    ProducerConsumerQueue.called_step (fun t => by cases t <;> rfl) Role.consumer _
  have hq₃ : ProducerConsumerQueue.Step q₂ (.run .worker (.emplace eos) (.done .emplace)) q₃ :=
    ProducerConsumerQueue.called_step (fun t => by cases t <;> rfl) Role.worker _
  have hq₄ : ProducerConsumerQueue.Step q₃
      (.run .consumer (.tryPop .default .zero) (.done (.tryPop true eos))) q₄ :=
    ProducerConsumerQueue.called_step (fun t => by cases t <;> rfl) Role.consumer _
  have hstart : (system onePacket 1).Reachable ⟨q₀, true, .top none, 0⟩ := .init rfl
  have hpacket := (hstart.step (.check none rfl)).step (.receive rfl)
  have hpopped := (hpacket.step (.work _ _ rfl hq₁)).step (.pop _ _ _ rfl hq₂)
  have hfailed := (hpopped.step (.check none rfl)).step (.receive rfl)
  have hemplacing : afterReceive onePacket (onePacket.receive 1) = .emplacing eos := by
    unfold afterReceive
    rw [if_neg (by decide), heos]
    rfl
  have hended := hfailed.step (.work _ _ (congrArg Pc.call hemplacing) hq₃)
  have hlast := hended.step (.pop _ _ _ rfl hq₄)
  refine ⟨eos, _, hlast, congrArg (Pc.afterCall · (.done .emplace)) hemplacing, rfl, ?_⟩
  have hall := (ordered_gapless onePacket 1 hlast).2 rfl
  rw [← hall, hemplacing]
  rfl

/-! ### Coming to an end -/

section Stop

variable [Message ControlSignalPacketTypeDescriptor] [Message EosValue]

/-- The steps of the worker, and the timeouts. -/
def Label.ByProducer (s : State) : Label → Prop
  | .check => True
  | .receive => True
  | .work => True
  | .pop => False
  | .wake t => ∀ f, s.shared.threads t = .waiting f → f.isTimed = true
  | .release => False

def producer (env : Env) (bufferCapacity : Int32) : System State Label :=
  (system env bufferCapacity).restrict fun s l _ => l.ByProducer s

/-- The thread is over.  It crashes when no EOS packet can be made. -/
def Over (s : State) : Prop := s.pc = .ended ∨ ∃ e, s.pc = .crashed e

/-- The worker is on its way to an EOS packet: it has made one, or the `Receive` that it is in
fails and one can be made. -/
def State.headsForEos (env : Env) (s : State) : Bool :=
  match s.pc with
  | .emplacing _ => true
  | .receiving => !(env.receive s.received).1.ok &&
      (makeEosPacket env.now (eosReason (env.receive s.received).1)).ok
  | _ => false

/-- There is a place for the EOS packet that the worker is on its way to. -/
def CanStop (env : Env) (s : State) : Prop :=
  s.headsForEos env = true → s.shared.queue.isFull = false

/-- The consumer does not leave a full queue to a worker that is on its way to an EOS packet. -/
def StopSafe (env : Env) (s : State) (l : Label) : Prop := l = .release → CanStop env s

section Pc

omit [Message ControlSignalPacketTypeDescriptor] [Message EosValue]

theorem Pc.call_needs {pc : Pc} {c : Call Packet} (hc : pc.call = some c) :
    c.needs = .notFull := by
  cases pc <;> cases hc <;> rfl

theorem Pc.afterCall_wait (pc : Pc) (f : ProducerConsumerQueue.Frame Packet) :
    pc.afterCall (.wait f) = pc := by
  cases pc <;> rfl

/-- The call that the worker is in after a stretch of its call. -/
theorem call_afterCall {pc : Pc} {c : Call Packet} (hc : pc.call = some c)
    {q q' : ProducerConsumerQueue.State Role Packet} {e : Ended Packet}
    (h : ProducerConsumerQueue.Step q (.run .worker c e) q') :
    (pc.afterCall e).call = e.callAfter c := by
  rcases afterCall_cases hc h with ⟨⟨f, rfl⟩, he⟩ | ⟨_, _, _, _, rfl, he⟩ | ⟨_, _, rfl, he⟩
  · rw [he]
    exact hc
  · rw [he]
    rfl
  · rw [he]
    rfl

end Pc

/-- The worker is the queue's producer, inside the call of its position. -/
theorem attended_of_reachable {env : Env} {bufferCapacity : Int32} {s : State}
    (h : (system env bufferCapacity).Reachable s) :
    s.shared.Attended .worker .consumer s.pc.call := by
  refine h.invariant (I := fun s => s.shared.Attended .worker .consumer s.pc.call) ?_ ?_
  · intro s hs
    obtain ⟨queue, _, rfl⟩ := init_eq hs
    exact ProducerConsumerQueue.attended_initial queue .default
  · intro s l s' _ ih hs
    cases hs with
    | check p hp =>
      rw [hp] at ih
      exact ih.begin fun c => Pc.call_needs
    | receive hp =>
      rw [hp] at ih
      exact ih.begin fun c => Pc.call_needs
    | work c e hc hq =>
      rw [hc] at ih
      show ProducerConsumerQueue.State.Attended _ _ _ (s.pc.afterCall e).call
      rw [call_afterCall hc hq]
      exact ih.run_producer (by decide) hq
    | pop elem timeout e _ hq => exact ih.run_consumer (by decide) hq
    | wake t hq => exact ih.wake hq
    | release _ _ => exact ih

/-! ### Whether the worker can stop -/

/-- Making the EOS packet is the last thing that can go wrong. -/
theorem headsForEos_receive {env : Env} {s : State} (hp : s.pc = .receiving) :
    State.headsForEos env { s with
      pc := afterReceive env (env.receive s.received), received := s.received + 1 } =
    s.headsForEos env := by
  unfold State.headsForEos afterReceive
  rw [hp]
  cases (env.receive s.received).1.ok with
  | true => rfl
  | false =>
    cases makeEosPacket env.now (eosReason (env.receive s.received).1) with
    | value eos => rfl
    | error status h => exact h.symm

/-- **Once the consumer has gone, no step changes whether the worker can stop.** -/
theorem canStop_iff_of_step {env : Env} {s s' : State} {l : Label} (hs : Step env s l s')
    (hh : s.consumerHolds = false) :
    s'.consumerHolds = false ∧ (CanStop env s' ↔ CanStop env s) := by
  have hnever : ∀ {s : State}, s.headsForEos env = false → CanStop env s := by
    intro s h hheads
    exact absurd (h.symm.trans hheads) (by decide)
  cases hs with
  | check p hp =>
    refine ⟨hh, fun _ => hnever ?_, fun _ => hnever ?_⟩
    · rw [State.headsForEos, hp]
    · show State.headsForEos env { s with pc := afterCheck s.consumerHolds p } = false
      rw [hh]
      rfl
  | receive hp =>
    refine ⟨hh, ?_⟩
    unfold CanStop
    rw [headsForEos_receive hp]
  | work c e hc hq =>
    refine ⟨hh, ?_⟩
    rcases afterCall_cases hc hq with ⟨⟨f, rfl⟩, he⟩ | ⟨_, _, p', hpc, _, he⟩ | ⟨eos, hpc, he', he⟩
    · obtain ⟨hqueue, _⟩ := hq.quiet (by cases c <;> rfl) rfl
      unfold CanStop State.headsForEos
      rw [he, hqueue]
    · refine ⟨fun _ => hnever ?_, fun _ => hnever ?_⟩
      · rw [State.headsForEos, hpc]
      · rw [State.headsForEos, he]
    · rw [hpc] at hc
      cases hc
      rcases hq.emplace_ended with ⟨f, hf, _⟩ | ⟨_, hplace⟩
      · rw [hf] at he'
        cases he'
      · refine ⟨fun _ _ => hplace, fun _ => hnever ?_⟩
        rw [State.headsForEos, he]
  | pop elem timeout e hh' _ => exact absurd (hh'.symm.trans hh) (by decide)
  | wake t hq =>
    refine ⟨hh, ?_⟩
    unfold CanStop State.headsForEos
    rw [hq.queue_wake.1]
  | release hh' _ => exact absurd (hh'.symm.trans hh) (by decide)

/-- A safe release leaves a place for the EOS packet, and nobody takes it. -/
theorem canStop_of_reachable {env : Env} {bufferCapacity : Int32} {s : State}
    (h : ((system env bufferCapacity).restrict fun s l _ => StopSafe env s l).Reachable s) :
    s.consumerHolds = false → CanStop env s := by
  refine h.invariant (I := fun s => s.consumerHolds = false → CanStop env s) ?_ ?_
  · intro s hs hh
    obtain ⟨queue, _, rfl⟩ := init_eq hs
    cases hh
  · rintro s l s' _ ih ⟨hs, hsafe⟩ hh'
    cases hh : s.consumerHolds with
    | false => exact (canStop_iff_of_step hs hh).2.mpr (ih hh)
    | true =>
      cases hs with
      | release _ _ => exact hsafe rfl
      | check _ _ => exact absurd (hh.symm.trans hh') (by decide)
      | receive _ => exact absurd (hh.symm.trans hh') (by decide)
      | work _ _ _ _ => exact absurd (hh.symm.trans hh') (by decide)
      | pop _ _ _ _ _ => exact absurd (hh.symm.trans hh') (by decide)
      | wake _ _ => exact absurd (hh.symm.trans hh') (by decide)

theorem canStop_of_over {env : Env} {s : State} (h : Over s) : CanStop env s := by
  intro hheads
  unfold State.headsForEos at hheads
  rcases h with h | ⟨e, h⟩ <;> rw [h] at hheads <;> cases hheads

/-! ### How the worker stops -/

/-- A call of the queue that completes is completed by the worker. -/
theorem canReach_afterCall {env : Env} {bufferCapacity : Int32} {pc : Pc} {c : Call Packet}
    (hc : pc.call = some c) {r : Return Packet} {q' : ProducerConsumerQueue.State Role Packet}
    {s : State} (hp : s.pc = pc) (hh : s.consumerHolds = false)
    (h : ProducerConsumerQueue.Completes .worker c s.shared r q') :
    (producer env bufferCapacity).CanReach
      (fun t => t.pc = pc.afterCall (.done r) ∧ t.consumerHolds = false) s := by
  refine h.canReach (I := fun q (t : State) => t.shared = q ∧ t.pc = pc ∧ t.consumerHolds = false)
    (G := fun r _ (t : State) => t.pc = pc.afterCall (.done r) ∧ t.consumerHolds = false) ?_ ?_ ?_
    ⟨rfl, hp, hh⟩
  · rintro _ q' r t ⟨rfl, rfl, hh⟩ hstep
    exact ⟨_, _, ⟨.work c _ hc hstep, trivial⟩, rfl, hh⟩
  · rintro _ q' f t ⟨rfl, rfl, hh⟩ hstep
    exact ⟨_, _, ⟨.work c _ hc hstep, trivial⟩, rfl, t.pc.afterCall_wait f, hh⟩
  · rintro _ q' f t ⟨rfl, rfl, hh⟩ hw htimed hstep
    refine ⟨_, _, ⟨.wake .worker hstep, fun f' hw' => ?_⟩, rfl, rfl, hh⟩
    obtain rfl : f = f' := ProducerConsumerQueue.Thread.waiting.inj (hw.symm.trans hw')
    exact htimed

/-- Once the consumer has gone, the worker leaves at the top of its loop. -/
theorem canReach_of_top {env : Env} {bufferCapacity : Int32} {s : State} {p : Option Packet}
    (hp : s.pc = .top p) (hh : s.consumerHolds = false) :
    (producer env bufferCapacity).CanReach Over s := by
  refine .step ⟨.check p hp, trivial⟩ (.here (Or.inl ?_))
  show afterCheck s.consumerHolds p = .ended
  rw [hh]
  rfl

/-- A push comes to an end by its timeout. -/
theorem canReach_of_pushing {env : Env} {bufferCapacity : Int32} {s : State}
    (h : (system env bufferCapacity).Reachable s) {p : Packet} (hp : s.pc = .pushing p)
    (hh : s.consumerHolds = false) : (producer env bufferCapacity).CanReach Over s := by
  have hattended := attended_of_reachable h
  rw [hp] at hattended
  have hat : (s.shared.threads .worker).At
      (.tryPush p (.ticks (4000000000 * kDefaultTryPushTimeoutSeconds))) := hattended.producing
  have htimed := ProducerConsumerQueue.wellTimed_of_reachable
    ((toQueue env bufferCapacity).reachable h) .worker
  obtain ⟨q', hq⟩ := ProducerConsumerQueue.tryPush_completes hat htimed
  have hcall : (Pc.pushing p).call =
      some (.tryPush p (.ticks (4000000000 * kDefaultTryPushTimeoutSeconds))) := rfl
  refine (canReach_afterCall hcall hp hh hq).trans ?_
  rintro t ⟨ht, hht⟩
  unfold ProducerConsumerQueue.tryPushReturn at ht
  split at ht
  · exact canReach_of_top ht hht
  · exact canReach_of_top ht hht

/-- The push of an EOS packet comes to an end when there is a place for it. -/
theorem canReach_of_emplacing {env : Env} {bufferCapacity : Int32} {s : State}
    (h : (system env bufferCapacity).Reachable s) {eos : Packet} (hp : s.pc = .emplacing eos)
    (hh : s.consumerHolds = false) (hfull : s.shared.queue.isFull = false) :
    (producer env bufferCapacity).CanReach Over s := by
  have hattended := attended_of_reachable h
  rw [hp] at hattended
  obtain ⟨q', hq⟩ := hattended.emplace_completes hfull
  have hcall : (Pc.emplacing eos).call = some (.emplace eos) := rfl
  exact (canReach_afterCall hcall hp hh hq).mono fun t ht => Or.inl ht.1

/-- **When the worker can stop**: without the consumer, exactly if it is not on its way to an
EOS packet, or has a place for it.  Else not even a spurious wakeup helps. -/
theorem canReach_over_iff {env : Env} {bufferCapacity : Int32} {s : State}
    (h : (system env bufferCapacity).Reachable s) (hh : s.consumerHolds = false) :
    ((producer env bufferCapacity).CanReach Over s ↔ CanStop env s) := by
  constructor
  · intro hreach
    by_contra hstop
    refine not_canReach_of_trap (T := fun s => s.consumerHolds = false ∧ ¬ CanStop env s) ?_ ?_
      ⟨hh, hstop⟩ hreach
    · rintro s l s' ⟨hh, hstop⟩ ⟨hs, _⟩
      obtain ⟨hh', hiff⟩ := canStop_iff_of_step hs hh
      exact ⟨hh', fun hstop' => hstop (hiff.mp hstop')⟩
    · rintro s ⟨_, hstop⟩ hover
      exact hstop (canStop_of_over hover)
  · intro hstop
    cases hp : s.pc with
    | top p => exact canReach_of_top hp hh
    | pushing p => exact canReach_of_pushing h hp hh
    | emplacing eos =>
      refine canReach_of_emplacing h hp hh (hstop ?_)
      rw [State.headsForEos, hp]
    | ended => exact .here (Or.inl hp)
    | crashed e => exact .here (Or.inr ⟨e, hp⟩)
    | receiving =>
      have hstep : Step env s .receive _ := .receive hp
      have hstop' := (canStop_iff_of_step hstep hh).2.mpr hstop
      refine .step ⟨hstep, trivial⟩ ?_
      by_cases hok : (env.receive s.received).1.ok = true
      · exact canReach_of_pushing (h.step hstep) (if_pos hok) hh
      · rcases afterReceive_of_not_ok env hok with ⟨eos, he⟩ | ⟨e, he⟩
        · refine canReach_of_emplacing (h.step hstep) he hh (hstop' ?_)
          rw [State.headsForEos, he]
        · exact .here (Or.inr ⟨e, he⟩)

end Stop

end AIStreams.ReceiverWorker
