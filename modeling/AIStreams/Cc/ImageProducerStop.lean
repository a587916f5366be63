import AIStreams.Base.ReceiverWorker
import AIStreams.Cc.ImageProducer

/-!
# How the producers stop

What is left of `ImageProducer` (and of the worker of `MakePacketReceiverQueue`) when the
consumer has released its queue: the comment at the launch of the thread says that it then
terminates.  The release is seen at the top of the loop only; the queues keep what they hold.

* `canReach_over_iff`: when the producer of images can still come to an end after the release.
* `producers_canReach_over`: the condition on the steps under which both producers always can.
* `not_producers_canReach_over`: a full queue keeps both of them.
-/

namespace AIStreams.ImageProducer

open Transition
open Transition.System (not_canReach_of_trap)
open ProducerConsumerQueue (Call Ended Return Completes)

/-! ### The threads -/

section Threads

theorem Pc.destCall_needs {pc : Pc} {c : Call Packet} (hc : pc.destCall = some c) :
    c.needs = .notFull := by
  obtain ⟨eos, _, rfl⟩ := destCall_eq_some hc
  rfl

/-- The call that the worker is in after a stretch of its `Emplace`. -/
theorem destCall_afterEmplace {pc : Pc} {c : Call Packet} (hc : pc.destCall = some c)
    {q q' : ProducerConsumerQueue.State Role Packet} {e : Ended Packet}
    (h : ProducerConsumerQueue.Step q (.run .worker c e) q') :
    (pc.afterEmplace e).destCall = e.callAfter c := by
  obtain ⟨eos, rfl, rfl⟩ := destCall_eq_some hc
  rcases h.emplace_ended with ⟨f, rfl, _⟩ | ⟨rfl, _⟩
  · rfl
  · rfl

/-- Where the worker is after a stretch of its `TryPush`. -/
theorem afterTryPush_cases {pc : Pc} {c : Call PacketHeader} (hc : pc.headerCall = some c)
    {q q' : ProducerConsumerQueue.State Role PacketHeader} {e : Ended PacketHeader}
    (h : ProducerConsumerQueue.Step q (.run .worker c e) q') :
    ∃ p, pc = .queueing p ∧
      (pc.afterTryPush e = .queueing p ∧ q'.queue = q.queue ∨
        pc.afterTryPush e = .feeding p ∧ q.queue.isFull = false) := by
  obtain ⟨p, rfl, rfl⟩ := headerCall_eq_some hc
  refine ⟨p, rfl, ?_⟩
  rcases h.tryPush_ended with ⟨f, rfl, _⟩ | ⟨rfl, _⟩ | ⟨rfl, hfull⟩
  · exact Or.inl ⟨rfl, (h.quiet rfl rfl).1⟩
  · exact Or.inl ⟨rfl, (h.quiet rfl rfl).1⟩
  · exact Or.inr ⟨rfl, hfull⟩

end Threads

/-! ### What is ahead of the worker -/

section Ahead

variable [Message ControlSignalPacketTypeDescriptor] {env : Env}

/-- A pulled packet is not in a call of a queue yet. -/
theorem afterPull_calls (env : Env) (o : Option Packet) :
    afterPull env o ≠ .pulling ∧ (afterPull env o).destCall = none := by
  unfold afterPull
  split
  · exact ⟨nofun, rfl⟩
  · split
    · exact ⟨nofun, rfl⟩
    · split
      · exact ⟨nofun, rfl⟩
      · exact ⟨nofun, rfl⟩

/-- Where the worker is, or goes when it has pulled the packet that it waits for. -/
def State.ahead (env : Env) (s : State) : Pc :=
  match s.pc with
  | .pulling => afterPull env (env.pull s.pulled)
  | pc => pc

theorem ahead_of_ne {s : State} (h : s.pc ≠ .pulling) : s.ahead env = s.pc := by
  unfold State.ahead
  split
  · exact absurd ‹_› h
  · rfl

theorem ahead_pull {s : State} (hp : s.pc = .pulling) :
    State.ahead env { s with
      pc := afterPull env (env.pull s.pulled), pulled := s.pulled + 1 } = s.ahead env := by
  rw [ahead_of_ne (afterPull_calls env (env.pull s.pulled)).1, State.ahead, hp]

/-- The worker has a header to queue, and the header queue is full. -/
def State.blocked (env : Env) (s : State) : Bool :=
  match s.ahead env with
  | .queueing _ => s.headers.queue.isFull
  | _ => false

/-- The places that are needed: one for the EOS packet, one for the packet that the callback is
about to offer, one for the packet that it has to make before the worker can go on. -/
def State.places (env : Env) (s : State) : ℕ :=
  1 + s.callback.toList.length + (s.blocked env).toNat

/-- The worker neither waits for a packet nor has a header to queue. -/
def Pc.settled : Pc → Bool
  | .pulling => false
  | .queueing _ => false
  | _ => true

theorem ahead_of_settled (env : Env) {s : State} (h : s.pc.settled = true) :
    s.ahead env = s.pc ∧ s.blocked env = false := by
  have hahead : s.ahead env = s.pc := ahead_of_ne (fun hp => by rw [hp] at h; cases h)
  refine ⟨hahead, ?_⟩
  rw [State.blocked, hahead]
  split
  · rename_i p hp
    rw [hp] at h
    cases h
  · rfl

end Ahead

/-! ### What is pending -/

section Pending

variable [Message RawImagePacketTypeDescriptor] {env : Env}

/-- Of what is pending, something makes a packet: it is an image, and the clock can be read. -/
def makesPacket (env : Env) : ℕ → List (StatusOr RawImage) → Bool
  | _, [] => false
  | made, v :: rest =>
    v.ok && (env.now made).isSome || makesPacket env (if v.ok then made + 1 else made) rest

theorem formImagePacket_ok_iff (n : ℕ) (v : StatusOr RawImage) :
    (∃ packet, formImagePacket env n v = .ok packet) ↔ v.ok = true ∧ (env.now n).isSome = true := by
  cases v with
  | error status h =>
    refine ⟨?_, fun hv => absurd (h.symm.trans hv.1) (by decide)⟩
    rintro ⟨packet, hp⟩
    rw [formImagePacket] at hp
    split at hp <;> cases hp
  | value rawImage =>
    cases hnow : env.now n with
    | none =>
      refine ⟨?_, fun hv => absurd hv.2 (by decide)⟩
      rintro ⟨packet, hp⟩
      have hfresh := hasFreshMetadata_formImagePacket hp
      rw [hnow] at hfresh
      cases hfresh.1
    | some t =>
      refine ⟨fun _ => ⟨rfl, rfl⟩, fun _ => ?_⟩
      rw [formImagePacket, hnow]
      exact ⟨_, rfl⟩

theorem makesPacket_of_ok {n : ℕ} {v : StatusOr RawImage} {rest : List (StatusOr RawImage)}
    {packet : Packet} (h : formImagePacket env n v = .ok packet) :
    makesPacket env n (v :: rest) = true := by
  obtain ⟨hok, hnow⟩ := (formImagePacket_ok_iff n v).mp ⟨packet, h⟩
  rw [makesPacket, hok, hnow]
  rfl

theorem makesPacket_of_error {n : ℕ} {v : StatusOr RawImage} {rest : List (StatusOr RawImage)}
    {status : Status} (h : formImagePacket env n v = .error status) :
    makesPacket env n (v :: rest) = makesPacket env (if v.ok then n + 1 else n) rest := by
  have hnot : (v.ok && (env.now n).isSome) = false := by
    rw [← Bool.not_eq_true, Bool.and_eq_true, ← formImagePacket_ok_iff]
    rintro ⟨packet, hp⟩
    exact absurd (h.symm.trans hp) (fun h => nomatch h)
  rw [makesPacket, hnot, Bool.false_or]

end Pending

section Stop

variable [Message RawImagePacketTypeDescriptor] [Message GstreamerBufferPacketTypeDescriptor]
  [Message ControlSignalPacketTypeDescriptor] [Message EosValue]

variable {env : Env} {queueSize : Int32}

omit [Message ControlSignalPacketTypeDescriptor] [Message EosValue] in
/-- Where the worker is after `Feed`. -/
theorem afterFeed_cases (env : Env) (p : Packet) (s : State) :
    (∃ e, packetToGstreamerBuffer p = .error e ∧ afterFeed env p s = { s with pc := .crashed e }) ∨
      (∃ r, packetToGstreamerBuffer p = .ok r) ∧
        (afterFeed env p s = { s with pc := .signalling "" } ∨
          ∃ pending, afterFeed env p s =
            { s with pc := .top, fed := s.fed + 1, pending := pending }) := by
  unfold afterFeed
  split
  · rename_i e he
    exact Or.inl ⟨e, he, rfl⟩
  · exact Or.inr ⟨⟨_, ‹_›⟩, Or.inl rfl⟩
  · split
    · exact Or.inr ⟨⟨_, ‹_›⟩, Or.inl rfl⟩
    · exact Or.inr ⟨⟨_, ‹_›⟩, Or.inr ⟨_, rfl⟩⟩

/-- The worker is the producer of the destination queue. -/
theorem attended_of_reachable {s : State} (h : (system env queueSize).Reachable s) :
    s.dest.Attended .worker .consumer s.pc.destCall := by
  refine h.invariant (I := fun s => s.dest.Attended .worker .consumer s.pc.destCall) ?_ ?_
  · intro s hs
    obtain ⟨dest, _, _, _, _, _, rfl⟩ := init_eq hs
    exact ProducerConsumerQueue.attended_initial dest .default
  · intro s l s' _ ih hs
    cases hs with
    | check hp =>
      rw [hp] at ih
      exact ih.begin fun c => Pc.destCall_needs
    | pull hp =>
      rw [hp] at ih
      exact ih.begin fun c => Pc.destCall_needs
    | push c e hc hq =>
      obtain ⟨p, hp, _⟩ := afterTryPush_cases hc hq
      rw [hp] at ih
      exact ih.begin fun c => Pc.destCall_needs
    | feed p hp =>
      rw [hp] at ih
      rw [(afterFeed_queues p s).1]
      exact ih.begin fun c => Pc.destCall_needs
    | signalEos reason hp _ =>
      rw [hp] at ih
      exact ih.begin fun c => Pc.destCall_needs
    | emplace c e hc hq =>
      rw [hc] at ih
      show ProducerConsumerQueue.State.Attended _ _ _ (s.pc.afterEmplace e).destCall
      rw [destCall_afterEmplace hc hq]
      exact ih.run_producer (by decide) hq
    | discard _ _ _ _ _ _ => exact ih
    | emit _ _ _ _ _ _ _ _ => exact ih
    | offer packet e _ hq => exact ih.run_other (by decide) (by decide) hq
    | pop elem timeout e _ hq => exact ih.run_consumer (by decide) hq
    | wakeDest t hq => exact ih.wake hq
    | wakeHeaders _ _ => exact ih
    | release _ _ => exact ih

/-- Only the worker is ever kept waiting by the header queue. -/
theorem headers_of_reachable {s : State} (h : (system env queueSize).Reachable s) :
    (s.headers.threads .worker).Runs s.pc.headerCall ∧
      ∀ t, t ≠ .worker → s.headers.threads t = .outside := by
  refine h.invariant (I := fun s => (s.headers.threads .worker).Runs s.pc.headerCall ∧
    ∀ t, t ≠ .worker → s.headers.threads t = .outside) ?_ ?_
  · intro s hs
    obtain ⟨_, headers, _, _, _, _, rfl⟩ := init_eq hs
    exact ⟨rfl, fun _ _ => rfl⟩
  · intro s l s' _ ih hs
    obtain ⟨hworker, hothers⟩ := ih
    have hgo : s.pc.headerCall = none →
        ∀ pc : Pc, (s.headers.threads .worker).Runs pc.headerCall := by
      intro hnone pc
      rw [hnone] at hworker
      rw [show s.headers.threads .worker = .outside from hworker]
      exact ProducerConsumerQueue.Thread.outside_runs _
    cases hs with
    | check hp => exact ⟨hgo (by rw [hp]; rfl) _, hothers⟩
    | pull hp => exact ⟨hgo (by rw [hp]; rfl) _, hothers⟩
    | push c e hc hq =>
      obtain ⟨p, hp, hcases⟩ := afterTryPush_cases hc hq
      refine ⟨?_, fun t ht => hq.outside_other ht (hothers t ht)⟩
      cases e with
      | wait f =>
        obtain ⟨hf, hth⟩ := hq.runs_self.1 f rfl
        have hpc : s.pc.afterTryPush (.wait f) = s.pc := by
          rw [hp]
          rfl
        show (ProducerConsumerQueue.State.threads _ _).Runs (s.pc.afterTryPush (.wait f)).headerCall
        rw [hpc, hc, hth]
        exact hf
      | done r =>
        rw [hq.runs_self.2 r rfl]
        exact ProducerConsumerQueue.Thread.outside_runs _
    | feed p hp =>
      rw [(afterFeed_queues p s).2]
      exact ⟨hgo (by rw [hp]; rfl) _, hothers⟩
    | signalEos reason hp _ => exact ⟨hgo (by rw [hp]; rfl) _, hothers⟩
    | emplace c e hc hq =>
      obtain ⟨eos, hpc, _⟩ := destCall_eq_some hc
      exact ⟨hgo (by rw [hpc]; rfl) _, hothers⟩
    | discard _ _ _ _ _ _ => exact ⟨hworker, hothers⟩
    | emit v rest packet e _ _ _ hq =>
      refine ⟨hq.runs_other (by decide) hworker, fun t ht => ?_⟩
      by_cases htd : t = .decoder
      · rw [htd]
        obtain ⟨r, hr⟩ := hq.tryPop_zero (hothers .decoder (by decide))
        exact hq.runs_self.2 r hr
      · exact hq.outside_other htd (hothers t ht)
    | offer _ _ _ _ => exact ⟨hworker, hothers⟩
    | pop _ _ _ _ _ => exact ⟨hworker, hothers⟩
    | wakeDest _ _ => exact ⟨hworker, hothers⟩
    | wakeHeaders t hq =>
      exact ⟨hq.runs_wake .worker hworker, fun t ht => hq.outside_wake (hothers t ht)⟩
    | release _ _ => exact ⟨hworker, hothers⟩

/-- Past `SignalEOS` there is nothing left to decode. -/
theorem shut_of_reachable {s : State} (h : (system env queueSize).Reachable s) {eos : Packet}
    (hp : s.pc = .emplacing eos) : s.callback = none ∧ s.pending = [] := by
  refine h.invariant (I := fun s => ∀ eos, s.pc = .emplacing eos →
    s.callback = none ∧ s.pending = []) ?_ ?_ eos hp
  · intro s hs eos hp
    obtain ⟨_, _, _, _, _, _, rfl⟩ := init_eq hs
    cases hp
  · intro s l s' _ ih hs eos hp'
    cases hs with
    | check hp =>
      exfalso
      cases hh : s.consumerHolds <;> rw [hh] at hp' <;> cases hp'
    | pull hp =>
      have hcall := (afterPull_calls env (env.pull s.pulled)).2
      rw [show afterPull env (env.pull s.pulled) = .emplacing eos from hp'] at hcall
      cases hcall
    | push c e hc hq =>
      obtain ⟨p, _, ⟨hpc, _⟩ | ⟨hpc, _⟩⟩ := afterTryPush_cases hc hq
      · exact absurd (hpc.symm.trans hp') (fun h => nomatch h)
      · exact absurd (hpc.symm.trans hp') (fun h => nomatch h)
    | feed p hp =>
      exfalso
      rcases afterFeed_cases env p s with ⟨e, _, he⟩ | ⟨_, he | ⟨pending, he⟩⟩ <;>
        rw [he] at hp' <;> cases hp'
    | signalEos reason hp hnone => exact ⟨hnone, rfl⟩
    | emplace c e hc hq =>
      obtain ⟨eos', hpc, _⟩ := destCall_eq_some hc
      exact ih eos' hpc
    | discard v rest status hnone hpend _ =>
      exact absurd (hpend.symm.trans (ih eos hp').2) (fun h => nomatch h)
    | emit v rest packet e hnone hpend _ _ =>
      exact absurd (hpend.symm.trans (ih eos hp').2) (fun h => nomatch h)
    | offer packet e hc _ =>
      exact absurd (hc.symm.trans (ih eos hp').1) (fun h => nomatch h)
    | pop _ _ _ _ _ => exact ih eos hp'
    | wakeDest _ _ => exact ih eos hp'
    | wakeHeaders _ _ => exact ih eos hp'
    | release _ _ => exact ih eos hp'

/-! ### When the producer can stop -/

/-- The steps of the worker and of the decoder's callback, and the timeouts. -/
def Label.ByProducer (s : State) : Label → Prop
  | .pop => False
  | .release => False
  | .wakeDest t => ∀ f, s.dest.threads t = .waiting f → f.isTimed = true
  | .wakeHeaders t => ∀ f, s.headers.threads t = .waiting f → f.isTimed = true
  | _ => True

def producer (env : Env) (queueSize : Int32) : System State Label :=
  (system env queueSize).restrict fun s l _ => l.ByProducer s

/-- The thread is over.  It crashes when the conversion of a packet does. -/
def Over (s : State) : Prop := (∃ status, s.pc = .ended status) ∨ ∃ e, s.pc = .crashed e

def eosCanBeMade (env : Env) (reason : String) : Bool := (makeEosPacket env.eosNow reason).ok

/-- `ToGstreamerBuffer` does not crash on the packet. -/
def converts (p : Packet) : Bool := (packetToGstreamerBuffer p).isOk

/-- Without a consumer, the worker comes to an EOS packet that can be made. -/
def Pc.headsForEos (env : Env) : Pc → Bool
  | .top => eosCanBeMade env ""
  | .pulling => false
  | .queueing p => converts p && eosCanBeMade env ""
  | .feeding p => converts p && eosCanBeMade env ""
  | .signalling reason => eosCanBeMade env reason
  | .emplacing _ => true
  | .ended _ => false
  | .crashed _ => false

def State.headsForEos (env : Env) (s : State) : Bool := (s.ahead env).headsForEos env

/-- A header that the worker has to queue finds a place or will be given one, and so does the
EOS packet. -/
structure CanStop (env : Env) (s : State) : Prop where
  header : s.blocked env = true → makesPacket env s.made s.pending = true
  eos : s.headsForEos env = true → s.dest.queue.HasPlaces (s.places env)

/-- The consumer leaves only while the producer can stop; and after that no image is made that
would take the last place, unless the worker needs it to go on. -/
def StopSafe (env : Env) (s : State) : Label → Prop
  | .release => CanStop env s
  | .emit => s.consumerHolds = false → s.blocked env = false → s.headsForEos env = true →
      s.dest.queue.HasPlaces 2
  | _ => True

/-! ### Steps that keep the answer -/


/-- A step of the worker that keeps what is ahead of it keeps the answer. -/
theorem canStop_congr {s s' : State} (hblocked : s'.blocked env = s.blocked env)
    (hheads : s'.headsForEos env = s.headsForEos env) (hdest : s'.dest.queue = s.dest.queue)
    (hcallback : s'.callback = s.callback)
    (hmakes : s.blocked env = true →
      makesPacket env s'.made s'.pending = makesPacket env s.made s.pending) :
    CanStop env s' ↔ CanStop env s := by
  have hplaces : s'.places env = s.places env := by
    rw [State.places, State.places, hblocked, hcallback]
  constructor
  · intro h
    refine ⟨fun hb => ?_, fun he => ?_⟩
    · rw [← hmakes hb]
      exact h.header (hblocked.trans hb)
    · rw [← hdest, ← hplaces]
      exact h.eos (hheads.trans he)
  · intro h
    refine ⟨fun hb => ?_, fun he => ?_⟩
    · rw [hmakes (hblocked.symm.trans hb)]
      exact h.header (hblocked.symm.trans hb)
    · rw [hdest, hplaces]
      exact h.eos (hheads.symm.trans he)

theorem canStop_of_over {s : State} (h : Over s) : CanStop env s := by
  have hpc : s.pc.settled = true ∧ s.pc.headsForEos env = false := by
    rcases h with ⟨status, h⟩ | ⟨e, h⟩ <;> rw [h] <;> exact ⟨rfl, rfl⟩
  obtain ⟨hahead, hblocked⟩ := ahead_of_settled env hpc.1
  refine ⟨fun hb => absurd (hblocked.symm.trans hb) (by decide), fun he => ?_⟩
  rw [State.headsForEos, hahead, hpc.2] at he
  cases he

theorem not_headsForEos_feeding {p : Packet} {e : Fatal}
    (h : packetToGstreamerBuffer p = .error e) : (Pc.feeding p).headsForEos env = false := by
  rw [Pc.headsForEos, converts, h]
  rfl

theorem headsForEos_feeding {p : Packet} {r : StatusOr GstreamerBuffer}
    (h : packetToGstreamerBuffer p = .ok r) :
    (Pc.feeding p).headsForEos env = eosCanBeMade env "" := by
  rw [Pc.headsForEos, converts, h]
  rfl

theorem headsForEos_pushEosPacket (reason : String) :
    (pushEosPacket env reason).headsForEos env = eosCanBeMade env reason := by
  unfold pushEosPacket eosCanBeMade
  cases makeEosPacket env.eosNow reason with
  | value eos => rfl
  | error status h => exact h.symm

omit [Message RawImagePacketTypeDescriptor] [Message GstreamerBufferPacketTypeDescriptor] in
theorem settled_pushEosPacket (env : Env) (reason : String) :
    (pushEosPacket env reason).settled = true := by
  unfold pushEosPacket
  cases makeEosPacket env.eosNow reason <;> rfl

/-- A step from one settled position to another. -/
theorem canStop_goTo {s : State} {pc : Pc} (hp : s.pc.settled = true) (hpc : pc.settled = true)
    (hheads : pc.headsForEos env = s.pc.headsForEos env) (fed : ℕ)
    (pending : List (StatusOr RawImage)) :
    CanStop env { s with pc := pc, fed := fed, pending := pending } ↔ CanStop env s := by
  let s' : State := { s with pc := pc, fed := fed, pending := pending }
  obtain ⟨hahead, hblocked⟩ := ahead_of_settled env hp
  obtain ⟨hahead', hblocked'⟩ := ahead_of_settled env (show s'.pc.settled = true from hpc)
  refine canStop_congr (hblocked'.trans hblocked.symm) ?_ rfl rfl fun hb => ?_
  · rw [State.headsForEos, State.headsForEos, hahead, hahead']
    exact hheads
  · exact absurd (hblocked.symm.trans hb) (by decide)

/-- The worker's `TryPush`: a header is accepted by a queue that is not full. -/
theorem canStop_push {s : State} {c : Call PacketHeader} {e : Ended PacketHeader}
    {headers : ProducerConsumerQueue.State Role PacketHeader} (hc : s.pc.headerCall = some c)
    (hq : ProducerConsumerQueue.Step s.headers (.run .worker c e) headers) :
    CanStop env { s with headers := headers, pc := s.pc.afterTryPush e } ↔ CanStop env s := by
  obtain ⟨p, hp, ⟨hpc, hqueue⟩ | ⟨hpc, hfull⟩⟩ := afterTryPush_cases hc hq
  · refine canStop_congr ?_ ?_ rfl rfl fun _ => rfl
    · unfold State.blocked State.ahead
      rw [hpc, hp, hqueue]
    · unfold State.headsForEos State.ahead
      rw [hpc, hp]
  · have hblocked : s.blocked env = false := by
      unfold State.blocked State.ahead
      rw [hp]
      exact hfull
    refine canStop_congr ?_ ?_ rfl rfl fun hb => ?_
    · rw [hblocked]
      unfold State.blocked State.ahead
      rw [hpc]
    · unfold State.headsForEos State.ahead
      rw [hpc, hp]
      rfl
    · exact absurd (hblocked.symm.trans hb) (by decide)

theorem canStop_feed {s : State} {p : Packet} (hp : s.pc = .feeding p) :
    CanStop env (afterFeed env p s) ↔ CanStop env s := by
  have hsettled : s.pc.settled = true := by
    rw [hp]
    rfl
  rcases afterFeed_cases env p s with ⟨e, he, hs⟩ | ⟨⟨r, hr⟩, hs | ⟨pending, hs⟩⟩
  · rw [hs]
    refine canStop_goTo hsettled rfl ?_ s.fed s.pending
    rw [hp, not_headsForEos_feeding he]
    rfl
  · rw [hs]
    refine canStop_goTo hsettled rfl ?_ s.fed s.pending
    rw [hp, headsForEos_feeding hr]
    rfl
  · rw [hs]
    refine canStop_goTo hsettled rfl ?_ (s.fed + 1) pending
    rw [hp, headsForEos_feeding hr]
    rfl

/-- The offer takes the place that was reckoned for it. -/
theorem canStop_offer {s : State} {packet : Packet} {e : Ended Packet}
    {dest : ProducerConsumerQueue.State Role Packet} (hc : s.callback = some packet)
    (hq : ProducerConsumerQueue.Step s.dest (.run .decoder (.tryEmplace packet) e) dest) :
    CanStop env { s with dest := dest, callback := none, offered := s.offered ++ [packet] } ↔
      CanStop env s := by
  let s' : State := { s with dest := dest, callback := none, offered := s.offered ++ [packet] }
  have hplaces : dest.queue.HasPlaces (s'.places env) ↔ s.dest.queue.HasPlaces (s.places env) := by
    have hs' : s'.places env = (s.blocked env).toNat + 1 := by
      show 1 + 0 + (s.blocked env).toNat = _
      omega
    have hs : s.places env = (s.blocked env).toNat + 2 := by
      rw [State.places, hc]
      show 1 + 1 + _ = _
      omega
    rw [hs, hs']
    exact hq.tryEmplace_places _
  constructor
  · intro h
    exact ⟨h.header, fun he => hplaces.mp (h.eos he)⟩
  · intro h
    exact ⟨h.header, fun he => hplaces.mpr (h.eos he)⟩

/-- Inside `Emplace` there is nothing else left to do. -/
theorem canStop_emplacing {s : State} (h : (system env queueSize).Reachable s) {eos : Packet}
    (hp : s.pc = .emplacing eos) : CanStop env s ↔ s.dest.queue.isFull = false := by
  obtain ⟨hahead, hblocked⟩ := ahead_of_settled env (show s.pc.settled = true by rw [hp]; rfl)
  have hheads : s.headsForEos env = true := by
    rw [State.headsForEos, hahead, hp]
    rfl
  have hplaces : s.places env = 1 := by
    rw [State.places, (shut_of_reachable h hp).1, hblocked]
    rfl
  rw [← ProducerConsumerQueue.hasPlaces_one_iff, ← hplaces]
  constructor
  · intro hstop
    exact hstop.eos hheads
  · intro hroom
    exact ⟨fun hb => absurd (hblocked.symm.trans hb) (by decide), fun _ => hroom⟩

/-- What an image that is made does to the answer: it takes a place, and brings the worker's
header one. -/
theorem emit_facts {s s' : State} (h : (system env queueSize).Reachable s)
    (hs : Step env s .emit s') : s'.consumerHolds = s.consumerHolds ∧ s'.dest = s.dest ∧
      s'.headsForEos env = s.headsForEos env ∧ s'.blocked env = false ∧ s'.places env = 2 ∧
      s.places env = 1 + (s.blocked env).toNat ∧ makesPacket env s.made s.pending = true := by
  cases hs with
  | @emit v rest packet e headers hnone hp hform hq =>
    have hroom : headers.queue.isFull = false := by
      cases hfull : s.headers.queue.isFull with
      | true =>
        rw [← ProducerConsumerQueue.hasPlaces_one_iff]
        exact (hq.tryPop_places (ProducerConsumerQueue.hasPlaces_zero_of_reachable
          ((toHeaders env queueSize).reachable h))).2
            (ProducerConsumerQueue.q_ne_nil_of_isFull hfull)
      | false =>
        rw [← ProducerConsumerQueue.hasPlaces_one_iff] at hfull ⊢
        exact (hq.tryPop_places hfull).1
    have hblocked : State.blocked env { s with
        headers := headers, callback := some (afterTryPop packet e), pending := rest,
        made := s.made + 1 } = false := by
      unfold State.blocked
      split
      · exact hroom
      · rfl
    refine ⟨rfl, rfl, rfl, hblocked, ?_, ?_, ?_⟩
    · rw [State.places, hblocked]
      rfl
    · rw [State.places, hnone]
      rfl
    · rw [hp]
      exact makesPacket_of_ok hform

theorem canStop_of_emit {s s' : State} (h : (system env queueSize).Reachable s)
    (hs : Step env s .emit s') (hstop : CanStop env s') : CanStop env s := by
  obtain ⟨_, hdest, hheads, _, hplaces', hplaces, hmakes⟩ := emit_facts h hs
  refine ⟨fun _ => hmakes, fun he => ?_⟩
  have hroom := hstop.eos (hheads.trans he)
  rw [hdest, hplaces'] at hroom
  refine hroom.mono ?_
  rw [hplaces]
  cases s.blocked env <;> decide

theorem canStop_emit {s s' : State} (h : (system env queueSize).Reachable s)
    (hs : Step env s .emit s') (hh : s.consumerHolds = false) (hsafe : StopSafe env s .emit)
    (hstop : CanStop env s) : CanStop env s' := by
  obtain ⟨_, hdest, hheads, hblocked', hplaces', hplaces, _⟩ := emit_facts h hs
  refine ⟨fun hb => absurd (hblocked'.symm.trans hb) (by decide), fun he => ?_⟩
  rw [hdest, hplaces']
  rw [hheads] at he
  cases hblocked : s.blocked env with
  | false => exact hsafe hh hblocked he
  | true =>
    have hroom := hstop.eos he
    rw [hplaces, hblocked] at hroom
    exact hroom

/-- **Once the consumer has gone, only an image that is made changes whether the producer can
stop.** -/
theorem canStop_iff_of_step {s s' : State} {l : Label} (h : (system env queueSize).Reachable s)
    (hs : Step env s l s') (hh : s.consumerHolds = false) (hl : l ≠ .emit) :
    CanStop env s' ↔ CanStop env s := by
  cases hs with
  | check hp =>
    have hpc : (if s.consumerHolds then Pc.pulling else .signalling "") = .signalling "" := by
      rw [hh]
      rfl
    rw [hpc]
    refine canStop_goTo (by rw [hp]; rfl) rfl ?_ s.fed s.pending
    rw [hp]
    rfl
  | pull hp =>
    refine canStop_congr ?_ ?_ rfl rfl fun _ => rfl
    · unfold State.blocked
      rw [ahead_pull hp]
    · unfold State.headsForEos
      rw [ahead_pull hp]
  | push c e hc hq => exact canStop_push hc hq
  | feed p hp => exact canStop_feed hp
  | signalEos reason hp _ =>
    refine canStop_goTo (by rw [hp]; rfl) (settled_pushEosPacket env reason) ?_ s.fed []
    rw [hp, headsForEos_pushEosPacket]
    rfl
  | emplace c e hc hq =>
    obtain ⟨eos, hp, rfl⟩ := destCall_eq_some hc
    rcases hq.emplace_ended with ⟨f, rfl, _⟩ | ⟨rfl, hplace⟩
    · have hpc : s.pc.afterEmplace (.wait f) = s.pc := by
        rw [hp]
        rfl
      refine canStop_congr ?_ ?_ (hq.quiet rfl rfl).1 rfl fun _ => rfl
      · unfold State.blocked State.ahead
        rw [hpc]
      · unfold State.headsForEos State.ahead
        rw [hpc]
    · refine ⟨fun _ => (canStop_emplacing h hp).mpr hplace, fun _ => canStop_of_over (Or.inl ?_)⟩
      refine ⟨okStatus, ?_⟩
      rw [hp]
      rfl
  | discard v rest status _ hp hform =>
    refine canStop_congr rfl rfl rfl rfl fun _ => ?_
    rw [hp]
    exact (makesPacket_of_error hform).symm
  | emit _ _ _ _ _ _ _ _ => exact absurd rfl hl
  | offer packet e hc hq => exact canStop_offer hc hq
  | pop elem timeout e hh' _ => exact absurd (hh'.symm.trans hh) (by decide)
  | wakeDest t hq => exact canStop_congr rfl rfl hq.queue_wake.1 rfl fun _ => rfl
  | wakeHeaders t hq =>
    refine canStop_congr ?_ rfl rfl rfl fun _ => rfl
    unfold State.blocked State.ahead
    rw [hq.queue_wake.1]
  | release hh' _ => exact absurd (hh'.symm.trans hh) (by decide)

/-! ### How the producer stops -/

/-- The producer's steps that take no last place. -/
def safeProducer (env : Env) (queueSize : Int32) : System State Label :=
  (system env queueSize).restrict fun s l _ => l.ByProducer s ∧ StopSafe env s l

/-- The consumer has gone, and the producer can stop. -/
structure Leaving (env : Env) (queueSize : Int32) (s : State) : Prop where
  reachable : (system env queueSize).Reachable s
  gone : s.consumerHolds = false
  canStop : CanStop env s

theorem gone_of_step {s s' : State} {l : Label} (hs : Step env s l s')
    (hh : s.consumerHolds = false) : s'.consumerHolds = false := by
  cases hs with
  | feed p _ =>
    rcases afterFeed_cases env p s with ⟨e, _, he⟩ | ⟨_, he | ⟨pending, he⟩⟩ <;> rw [he] <;>
      exact hh
  | release _ _ => rfl
  | _ => exact hh

theorem Leaving.step {s s' : State} {l : Label} (h : Leaving env queueSize s)
    (hs : Step env s l s') (hsafe : StopSafe env s l) : Leaving env queueSize s' := by
  refine ⟨h.reachable.step hs, gone_of_step hs h.gone, ?_⟩
  by_cases hl : l = .emit
  · rw [hl] at hs hsafe
    exact canStop_emit h.reachable hs h.gone hsafe h.canStop
  · exact (canStop_iff_of_step h.reachable hs h.gone hl).mpr h.canStop

/-- A goal that is reached by safe steps is reached while leaving. -/
theorem Leaving.reaching {s : State} (h : Leaving env queueSize s) {G : State → Prop}
    (hs : (safeProducer env queueSize).CanReach G s) :
    (safeProducer env queueSize).CanReach (fun t => G t ∧ Leaving env queueSize t) s :=
  hs.and_invariant (fun _ _ _ h hs => h.step hs.1 hs.2.2) h

/-- The push of an EOS packet comes to an end when there is a place for it. -/
theorem canReach_of_emplacing {s : State} (h : (system env queueSize).Reachable s) {eos : Packet}
    (hp : s.pc = .emplacing eos) (hplace : s.dest.queue.isFull = false) :
    (safeProducer env queueSize).CanReach Over s := by
  have hattended := attended_of_reachable h
  rw [hp] at hattended
  obtain ⟨q', hq⟩ := hattended.emplace_completes hplace
  have hcall : (Pc.emplacing eos).destCall = some (.emplace eos) := rfl
  refine (hq.canReach (I := fun q (t : State) => t.dest = q ∧ t.pc = .emplacing eos)
    (G := fun r _ (t : State) => t.pc = (Pc.emplacing eos).afterEmplace (.done r)) ?_ ?_ ?_
    ⟨rfl, hp⟩).mono fun t ht => Or.inl ⟨okStatus, ht⟩
  · rintro _ q' r t ⟨rfl, ht⟩ hstep
    exact ⟨_, _, ⟨.emplace _ _ (ht ▸ hcall) hstep, trivial, trivial⟩, by rw [ht]⟩
  · rintro _ q' f t ⟨rfl, ht⟩ hstep
    exact ⟨_, _, ⟨.emplace _ _ (ht ▸ hcall) hstep, trivial, trivial⟩, rfl, by rw [ht]; rfl⟩
  · rintro _ q' f t ⟨rfl, ht⟩ hw htimed hstep
    refine ⟨_, _, ⟨.wakeDest .worker hstep, fun f' hw' => ?_, trivial⟩, rfl, ht⟩
    obtain rfl : f = f' := ProducerConsumerQueue.Thread.waiting.inj (hw.symm.trans hw')
    exact htimed

/-- The callback can always offer its packet. -/
theorem exists_offer {s : State} (h : (system env queueSize).Reachable s) {packet : Packet}
    (hc : s.callback = some packet) : ∃ dest, Step env s .offer
      { s with dest := dest, callback := none, offered := s.offered ++ [packet] } := by
  have hout := (attended_of_reachable h).others .decoder (by decide) (by decide)
  obtain ⟨dest, hq, _⟩ := ProducerConsumerQueue.exists_call (.tryEmplace packet) 0 hout
  exact ⟨dest, .offer packet _ hc hq⟩

theorem canReach_of_offered {s : State} (h : Leaving env queueSize s) {G : State → Prop}
    (hG : ∀ t : State, Leaving env queueSize t → t.pc = s.pc → t.callback = none →
      t.headers = s.headers → (safeProducer env queueSize).CanReach G t) :
    (safeProducer env queueSize).CanReach G s := by
  cases hc : s.callback with
  | none => exact hG s h rfl hc rfl
  | some packet =>
    obtain ⟨dest, hs⟩ := exists_offer h.reachable hc
    exact .step ⟨hs, trivial, trivial⟩ (hG _ (h.step hs trivial) rfl rfl rfl)

/-- `SignalEOS` waits for the callback, and then there is the EOS packet to push. -/
theorem canReach_of_signalling {s : State} (h : Leaving env queueSize s) {reason : String}
    (hp : s.pc = .signalling reason) : (safeProducer env queueSize).CanReach Over s := by
  refine canReach_of_offered h fun t ht htp hnone _ => ?_
  have hs : Step env t .signalEos _ := .signalEos reason (htp.trans hp) hnone
  refine .step ⟨hs, trivial, trivial⟩ ?_
  have hleaving := ht.step hs trivial
  cases heos : makeEosPacket env.eosNow reason with
  | value eos =>
    have hpush : pushEosPacket env reason = .emplacing eos := by
      rw [pushEosPacket, heos]
    exact canReach_of_emplacing hleaving.reachable hpush
      ((canStop_emplacing hleaving.reachable hpush).mp hleaving.canStop)
  | error status hok =>
    refine .here (Or.inl ⟨internalError "Couldn't create an EOS packet", ?_⟩)
    show pushEosPacket env reason = _
    rw [pushEosPacket, heos]

theorem canReach_of_top {s : State} (h : Leaving env queueSize s) (hp : s.pc = .top) :
    (safeProducer env queueSize).CanReach Over s := by
  have hs : Step env s .check _ := .check hp
  have hpc : (if s.consumerHolds then Pc.pulling else .signalling "") = .signalling "" := by
    rw [h.gone]
    rfl
  exact .step ⟨hs, trivial, trivial⟩ (canReach_of_signalling (h.step hs trivial) hpc)

theorem canReach_of_feeding {s : State} (h : Leaving env queueSize s) {p : Packet}
    (hp : s.pc = .feeding p) : (safeProducer env queueSize).CanReach Over s := by
  have hs : Step env s .feed (afterFeed env p s) := .feed p hp
  have hleaving := h.step hs trivial
  refine .step ⟨hs, trivial, trivial⟩ ?_
  rcases afterFeed_cases env p s with ⟨e, _, he⟩ | ⟨_, he | ⟨pending, he⟩⟩
  · rw [he]
    exact .here (Or.inr ⟨e, rfl⟩)
  · rw [he] at hleaving ⊢
    exact canReach_of_signalling hleaving rfl
  · rw [he] at hleaving ⊢
    exact canReach_of_top hleaving rfl

/-- A header finds its place in a queue that is not full. -/
theorem canReach_of_queueing {s : State} (h : Leaving env queueSize s) {p : Packet}
    (hp : s.pc = .queueing p) (hfull : s.headers.queue.isFull = false) :
    (safeProducer env queueSize).CanReach Over s := by
  have hworker := (headers_of_reachable h.reachable).1
  rw [hp] at hworker
  have hat : (s.headers.threads .worker).At
      (.tryPush p.header (.ticks (4000000000 * kRetrySeconds))) := hworker
  have htimed := ProducerConsumerQueue.wellTimed_of_reachable
    ((toHeaders env queueSize).reachable h.reachable) .worker
  obtain ⟨q', hq⟩ := ProducerConsumerQueue.tryPush_completes hat htimed
  rw [ProducerConsumerQueue.tryPushReturn, hfull] at hq
  have hcall : (Pc.queueing p).headerCall =
      some (.tryPush p.header (.ticks (4000000000 * kRetrySeconds))) := rfl
  have hfeeding := hq.canReach (M := safeProducer env queueSize)
    (I := fun q (t : State) => t.headers = q ∧ t.pc = .queueing p)
    (G := fun r _ (t : State) => t.pc = (Pc.queueing p).afterTryPush (.done r)) ?_ ?_ ?_ ⟨rfl, hp⟩
  · refine (h.reaching hfeeding).trans ?_
    rintro t ⟨ht, hleaving⟩
    exact canReach_of_feeding hleaving ht
  · rintro _ q' r t ⟨rfl, ht⟩ hstep
    exact ⟨_, _, ⟨.push _ _ (ht ▸ hcall) hstep, trivial, trivial⟩, by rw [ht]⟩
  · rintro _ q' f t ⟨rfl, ht⟩ hstep
    exact ⟨_, _, ⟨.push _ _ (ht ▸ hcall) hstep, trivial, trivial⟩, rfl, by rw [ht]; rfl⟩
  · rintro _ q' f t ⟨rfl, ht⟩ hw htimed hstep
    refine ⟨_, _, ⟨.wakeHeaders .worker hstep, fun f' hw' => ?_, trivial⟩, rfl, ht⟩
    obtain rfl : f = f' := ProducerConsumerQueue.Thread.waiting.inj (hw.symm.trans hw')
    exact htimed

/-- A full header queue is given a place by the next image that makes a packet. -/
theorem canReach_of_blocked (pending : List (StatusOr RawImage)) : ∀ {s : State},
    Leaving env queueSize s → ∀ {p : Packet}, s.pc = .queueing p → s.callback = none →
    s.headers.queue.isFull = true → s.pending = pending →
    (safeProducer env queueSize).CanReach Over s := by
  induction pending with
  | nil =>
    intro s h p hp _ hfull hpending
    have hblocked : s.blocked env = true := by
      unfold State.blocked State.ahead
      rw [hp]
      exact hfull
    have hmakes := h.canStop.header hblocked
    rw [hpending] at hmakes
    cases hmakes
  | cons v rest ih =>
    intro s h p hp hnone hfull hpending
    cases hform : formImagePacket env s.made v with
    | error status =>
      have hs : Step env s .discard _ := .discard v rest status hnone hpending hform
      exact .step ⟨hs, trivial, trivial⟩ (ih (h.step hs trivial) hp hnone hfull rfl)
    | ok packet =>
      have hblocked : s.blocked env = true := by
        unfold State.blocked State.ahead
        rw [hp]
        exact hfull
      have hout := (headers_of_reachable h.reachable).2 .decoder (by decide)
      obtain ⟨headers, hq, _⟩ := ProducerConsumerQueue.exists_call (.tryPop .default .zero) 0 hout
      have hs : Step env s .emit _ := .emit v rest packet _ hnone hpending hform hq
      have hsafe : StopSafe env s .emit := by
        intro _ hb
        exact absurd (hblocked.symm.trans hb) (by decide)
      have hroom : headers.queue.isFull = false := by
        rw [← ProducerConsumerQueue.hasPlaces_one_iff]
        exact (hq.tryPop_places (ProducerConsumerQueue.hasPlaces_zero_of_reachable
          ((toHeaders env queueSize).reachable h.reachable))).2
            (ProducerConsumerQueue.q_ne_nil_of_isFull hfull)
      refine .step ⟨hs, trivial, hsafe⟩ (canReach_of_queueing (p := p) (h.step hs hsafe) hp hroom)

theorem canReach_of_ahead {s : State} (h : Leaving env queueSize s) (hp : s.pc ≠ .pulling) :
    (safeProducer env queueSize).CanReach Over s := by
  cases hpc : s.pc with
  | top => exact canReach_of_top h hpc
  | pulling => exact absurd hpc hp
  | queueing p =>
    refine canReach_of_offered h fun t ht htp hnone _ => ?_
    cases hfull : t.headers.queue.isFull with
    | false => exact canReach_of_queueing ht (htp.trans hpc) hfull
    | true => exact canReach_of_blocked t.pending ht (htp.trans hpc) hnone hfull rfl
  | feeding p => exact canReach_of_feeding h hpc
  | signalling reason => exact canReach_of_signalling h hpc
  | emplacing eos =>
    exact canReach_of_emplacing h.reachable hpc
      ((canStop_emplacing h.reachable hpc).mp h.canStop)
  | ended status => exact .here (Or.inl ⟨status, hpc⟩)
  | crashed e => exact .here (Or.inr ⟨e, hpc⟩)

/-- Whatever comes to an end without the consumer could stop before. -/
theorem canStop_of_canReach {s : State} (h : (system env queueSize).Reachable s)
    (hh : s.consumerHolds = false) (hreach : (system env queueSize).CanReach Over s) :
    CanStop env s := by
  by_contra hstop
  refine not_canReach_of_trap (T := fun s => (system env queueSize).Reachable s ∧
    s.consumerHolds = false ∧ ¬ CanStop env s) ?_ ?_ ⟨h, hh, hstop⟩ hreach
  · rintro s l s' ⟨hr, hh, hstop⟩ hs
    refine ⟨hr.step hs, gone_of_step hs hh, fun hstop' => hstop ?_⟩
    by_cases hl : l = .emit
    · rw [hl] at hs
      exact canStop_of_emit hr hs hstop'
    · exact (canStop_iff_of_step hr hs hh hl).mp hstop'
  · rintro s ⟨_, _, hstop⟩ hover
    exact hstop (canStop_of_over hover)

/-- **When the producer can stop**: without the consumer, exactly if a header that it has to
queue finds a place or will be given one, and the EOS packet finds one after everything that is
offered before it. -/
theorem canReach_over_iff {s : State} (h : (system env queueSize).Reachable s)
    (hh : s.consumerHolds = false) :
    ((producer env queueSize).CanReach Over s ↔ CanStop env s) := by
  constructor
  · intro hreach
    exact canStop_of_canReach h hh hreach.of_restrict
  · intro hstop
    have hleaving : Leaving env queueSize s := ⟨h, hh, hstop⟩
    have hreach : (safeProducer env queueSize).CanReach Over s := by
      by_cases hp : s.pc = .pulling
      · have hs : Step env s .pull _ := .pull hp
        exact .step ⟨hs, trivial, trivial⟩
          (canReach_of_ahead (hleaving.step hs trivial) (afterPull_calls env _).1)
      · exact canReach_of_ahead hleaving hp
    exact hreach.restrict_mono fun _ _ _ hC => hC.1

/-- After a safe release the producer can stop, and safe steps keep it so. -/
theorem canStop_of_reachable {s : State}
    (h : ((system env queueSize).restrict fun s l _ => StopSafe env s l).Reachable s) :
    s.consumerHolds = false → CanStop env s := by
  refine h.invariant (I := fun s => s.consumerHolds = false → CanStop env s) ?_ ?_
  · intro s hs hh
    obtain ⟨_, _, _, _, _, _, rfl⟩ := init_eq hs
    cases hh
  · rintro s l s' hr ih ⟨hs, hsafe⟩ hh'
    cases hh : s.consumerHolds with
    | false => exact (Leaving.step ⟨hr.of_restrict, hh, ih hh⟩ hs hsafe).canStop
    | true =>
      cases hs with
      | release _ _ =>
        have hstop : CanStop env s := hsafe
        exact ⟨hstop.header, hstop.eos⟩
      | feed p _ =>
        rcases afterFeed_cases env p s with ⟨e, _, he⟩ | ⟨_, he | ⟨pending, he⟩⟩ <;>
          rw [he] at hh' <;> exact absurd (hh.symm.trans hh') (by decide)
      | _ => exact absurd (hh.symm.trans hh') (by decide)

/-- **The producers can always stop after a safe release.**  In every run in which the consumer
does not leave a full queue to a receiver worker on its way to an EOS packet, or too few places
to a producer of images, and no image takes the last place afterwards, from every state in
which the consumer has gone some steps of the producer, of the decoder's callback and timeouts
end the thread.  The conditions are exact. -/
theorem producers_canReach_over :
    (∀ (env : ReceiverWorker.Env) (bufferCapacity : Int32) (s : ReceiverWorker.State),
      ((ReceiverWorker.system env bufferCapacity).restrict fun s l _ =>
        ReceiverWorker.StopSafe env s l).Reachable s → s.consumerHolds = false →
      (ReceiverWorker.producer env bufferCapacity).CanReach ReceiverWorker.Over s) ∧
    (∀ (env : Env) (queueSize : Int32) (s : State),
      ((system env queueSize).restrict fun s l _ => StopSafe env s l).Reachable s →
      s.consumerHolds = false → (producer env queueSize).CanReach Over s) ∧
    (∀ (env : ReceiverWorker.Env) (bufferCapacity : Int32) (s : ReceiverWorker.State),
      (ReceiverWorker.system env bufferCapacity).Reachable s → s.consumerHolds = false →
      ((ReceiverWorker.producer env bufferCapacity).CanReach ReceiverWorker.Over s ↔
        ReceiverWorker.CanStop env s)) ∧
    ∀ (env : Env) (queueSize : Int32) (s : State), (system env queueSize).Reachable s →
      s.consumerHolds = false → ((producer env queueSize).CanReach Over s ↔ CanStop env s) := by
  refine ⟨fun env bufferCapacity s h hh => ?_, fun env queueSize s h hh => ?_,
    fun env bufferCapacity s h hh => ReceiverWorker.canReach_over_iff h hh,
    fun env queueSize s h hh => canReach_over_iff h hh⟩
  · rw [ReceiverWorker.canReach_over_iff h.of_restrict hh]
    exact ReceiverWorker.canStop_of_reachable h hh
  · rw [canReach_over_iff h.of_restrict hh]
    exact canStop_of_reachable h hh

end Stop

/-! ### Queues of one and two places -/

section Runs

open WireMessages

/-- A receiver worker whose queue is made. -/
def waitingWorker : ReceiverWorker.State :=
  ⟨ProducerConsumerQueue.initial ReceiverWorker.Role (.onePlace _), true,
    .top none, 0⟩

/-- Left with something in a queue of two places, both producers come to an end. -/
theorem producers_canReach_over_queued :
    (∃ s, s.shared.queue.q = [.default] ∧ s.consumerHolds = false ∧
      (ReceiverWorker.producer ReceiverWorker.onePacket 2).CanReach ReceiverWorker.Over s) ∧
    ∃ s, s.dest.queue.q.length = 1 ∧ s.consumerHolds = false ∧
      (producer twoFrames 2).CanReach Over s := by
  constructor
  · let C := fun (s : ReceiverWorker.State) l (_ : ReceiverWorker.State) =>
      ReceiverWorker.StopSafe ReceiverWorker.onePacket s l
    let q₀ := ProducerConsumerQueue.initial ReceiverWorker.Role (.twoPlaces Packet)
    have hq : ProducerConsumerQueue.Step q₀
        (.run .worker (.tryPush .default (.seconds 5)) (.done (.tryPush true none)))
        (q₀.called .worker (.tryPush .default (.seconds 5))) :=
      ProducerConsumerQueue.called_step (fun _ => rfl) ReceiverWorker.Role.worker _
    have hstart : ((ReceiverWorker.system ReceiverWorker.onePacket 2).restrict C).Reachable
        ⟨q₀, true, .top none, 0⟩ := .init rfl
    have hready := hstart.step ⟨.check none rfl, fun h => by cases h⟩
    have hpacket := hready.step ⟨.receive rfl, fun h => by cases h⟩
    have hqueued := hpacket.step ⟨.work _ _ rfl hq, fun h => by cases h⟩
    have hfailing := hqueued.step ⟨.check none rfl, fun h => by cases h⟩
    have hleft := hfailing.step ⟨.release rfl rfl, fun _ _ => rfl⟩
    exact ⟨_, rfl, rfl, producers_canReach_over.1 _ _ _ hleft rfl⟩
  · let C := fun (s : State) l (_ : State) => StopSafe twoFrames s l
    obtain ⟨packet, hform⟩ : ∃ packet,
        formImagePacket twoFrames 0 (.value .default) = .ok packet := ⟨_, rfl⟩
    let start : State := { launched with dest := ProducerConsumerQueue.initial Role (.twoPlaces _) }
    have hq : ProducerConsumerQueue.Step start.headers
        (.run .decoder (.tryPop .default .zero) (.done (.tryPop false .default)))
        (start.headers.called .decoder (.tryPop .default .zero)) :=
      ProducerConsumerQueue.called_step (fun _ => rfl) Role.decoder _
    have hd : ProducerConsumerQueue.Step start.dest
        (.run .decoder (.tryEmplace packet) (.done (.tryEmplace true))) _ :=
      ProducerConsumerQueue.called_step (fun _ => rfl) Role.decoder (.tryEmplace packet)
    have hstart : ((system twoFrames 2).restrict C).Reachable start := .init rfl
    have hemit := hstart.step ⟨Step.emit _ _ packet _ rfl rfl hform hq, fun h => by cases h⟩
    have hoffer := hemit.step ⟨Step.offer packet _ rfl hd, trivial⟩
    have hleft := hoffer.step ⟨Step.release rfl rfl,
      CanStop.mk (fun h => by cases h) fun _ n hn => by
        cases hn
        exact Nat.le_refl 2⟩
    exact ⟨_, rfl, rfl, producers_canReach_over.2.1 _ _ _ hleft rfl⟩

/-- **A full queue without a consumer keeps both producers**: a receiver worker whose `Receive`
fails, and a producer of images that has to push the EOS packet. -/
theorem not_producers_canReach_over :
    (∃ s, (ReceiverWorker.system ReceiverWorker.onePacket 1).Reachable s ∧
      s.consumerHolds = false ∧
      ¬ (ReceiverWorker.producer ReceiverWorker.onePacket 1).CanReach ReceiverWorker.Over s) ∧
    ∃ s, (system twoFrames 1).Reachable s ∧ s.consumerHolds = false ∧
      ¬ (producer twoFrames 1).CanReach Over s := by
  constructor
  · let q := waitingWorker.shared.called .worker (.tryPush .default (.seconds 5))
    have hq : ProducerConsumerQueue.Step waitingWorker.shared
        (.run .worker (.tryPush .default (.seconds 5)) (.done (.tryPush true none))) q :=
      ProducerConsumerQueue.called_step (fun _ => rfl) ReceiverWorker.Role.worker _
    have hstart : (ReceiverWorker.system ReceiverWorker.onePacket 1).Reachable waitingWorker :=
      .init rfl
    have hready := hstart.step (ReceiverWorker.Step.check none rfl)
    have hpacket := hready.step (ReceiverWorker.Step.receive rfl)
    have hfull := hpacket.step (ReceiverWorker.Step.work _ _ rfl hq)
    have hfailing := hfull.step (ReceiverWorker.Step.check none rfl)
    have hleft := hfailing.step (ReceiverWorker.Step.release rfl rfl)
    refine ⟨_, hleft, rfl, ?_⟩
    rw [ReceiverWorker.canReach_over_iff hleft rfl]
    exact fun hstop => absurd (hstop rfl) (by decide)
  · obtain ⟨packet, hform⟩ : ∃ packet,
        formImagePacket twoFrames 0 (.value .default) = .ok packet := ⟨_, rfl⟩
    let q := launched.headers.called .decoder (.tryPop .default .zero)
    have hq : ProducerConsumerQueue.Step launched.headers
        (.run .decoder (.tryPop .default .zero) (.done (.tryPop false .default))) q :=
      ProducerConsumerQueue.called_step (fun _ => rfl) Role.decoder _
    have hd : ProducerConsumerQueue.Step launched.dest
        (.run .decoder (.tryEmplace packet) (.done (.tryEmplace true))) _ :=
      ProducerConsumerQueue.called_step (fun _ => rfl) Role.decoder (.tryEmplace packet)
    have hlaunched : (system twoFrames 1).Reachable launched := .init rfl
    have hemit := hlaunched.step (Step.emit _ _ packet _ rfl rfl hform hq)
    have hoffer := hemit.step (Step.offer packet _ rfl hd)
    have hleft := hoffer.step (Step.release rfl rfl)
    refine ⟨_, hleft, rfl, ?_⟩
    rw [canReach_over_iff hleft rfl]
    intro hstop
    have htwo : 1 + 1 ≤ 1 := hstop.eos rfl 1 rfl
    exact absurd htwo (by decide)

end Runs

end AIStreams.ImageProducer
