import AIStreams.Base.PacketUtils
import AIStreams.Cc.ImageProducerStop
import AIStreams.Util.NoLostWakeup

/-!
# How the images end

The end of `ImageProducer::Work` in `aistreams/cc/decoded_receivers.cc`: what ended its loop is
put on record, and compared with the EOS packet that the consumer is left.

* `recorded_of_reachable`: what has been pushed at any time, and with what reason.
* `endsWithEos`: nothing but images comes before the EOS packet; and that one can be pushed, with
  the message of the status that ended the loop, exactly if the clock can be read, there is a
  place for it, and the loop was not ended by a `Feed` that failed with a message.
-/

namespace AIStreams.ImageProducer

open Transition
open Transition.System (CanReach)
open ProducerConsumerQueue (Call Ended)

/-! ### What ended the loop -/

/-- How the loop of `Work` is left. -/
inductive LoopEnd
  | released
  | pullFailed (status : Status)
  | sourceEos
  | feedFailed (status : Status)

/-- The status that ended the loop, if one did. -/
def LoopEnd.failing : LoopEnd → Option Status
  | .pullFailed status => some status
  | .feedFailed status => some status
  | _ => none

/-- What `termination_message` holds after the loop. -/
def LoopEnd.terminationMessage : LoopEnd → String
  | .released => ""
  | .pullFailed status => status.errorMessage
  | .sourceEos => "The raw image stream has ended"
  | .feedFailed _ => okStatus.errorMessage

section Record

variable [Message RawImagePacketTypeDescriptor] [Message GstreamerBufferPacketTypeDescriptor]
  [Message ControlSignalPacketTypeDescriptor]

variable (env : Env)

/-- What `PullSourcePacket` returns without a packet. -/
def pullError : Status :=
  unavailableError ("The server has not yielded any source packets within the timeout (" ++
    env.timeoutText ++ ")")

/-- What `Feed` returns. -/
def feedStatus (p : Packet) (s : State) : OrFatal Status :=
  match packetToGstreamerBuffer p with
  | .error e => .error e
  | .ok (.error status _) => .ok status
  | .ok (.value buffer) => .ok (env.feed s.fed buffer)

/-- A `Feed` that fails ends the loop. -/
def endOfFeed : OrFatal Status → Option LoopEnd
  | .error _ => none
  | .ok status => if status.ok then none else some (.feedFailed status)

/-- The end of the loop that a step is. -/
def loopEnd (s : State) : Label → Option LoopEnd
  | .check => if s.consumerHolds then none else some .released
  | .pull =>
    match env.pull s.pulled with
    | none => some (.pullFailed (pullError env))
    | some p => if isEos p then some .sourceEos else none
  | .feed =>
    match s.pc with
    | .feeding p => endOfFeed (feedStatus env p s)
    | _ => none
  | _ => none

/-- The loop ends once. -/
def note (s : State) (l : Label) (ended : Option LoopEnd) : Option LoopEnd :=
  ended.or (loopEnd env s l)

/-- Where the worker goes with a pulled packet. -/
theorem pull_ends (s : State) :
    (∃ e, loopEnd env s .pull = some e ∧
        afterPull env (env.pull s.pulled) = .signalling e.terminationMessage) ∨
      loopEnd env s .pull = none ∧
        ((∃ p, afterPull env (env.pull s.pulled) = .queueing p) ∨
          ∃ p, afterPull env (env.pull s.pulled) = .feeding p) := by
  rw [loopEnd]
  cases env.pull s.pulled with
  | none => exact Or.inl ⟨_, rfl, rfl⟩
  | some p =>
    by_cases heos : isEos p = true
    · exact Or.inl ⟨.sourceEos, if_pos heos, if_pos heos⟩
    · refine Or.inr ⟨if_neg heos, ?_⟩
      by_cases hhead : isPacketFlagsSet PacketFlags.kIsFrameHead p = true
      · exact Or.inl ⟨p, (if_neg heos).trans (if_pos hhead)⟩
      · exact Or.inr ⟨p, (if_neg heos).trans (if_neg hhead)⟩

/-- Where the worker goes with what `Feed` returns. -/
theorem feed_ends {s : State} {p : Packet} (hp : s.pc = .feeding p) :
    (∃ e, loopEnd env s .feed = none ∧ afterFeed env p s = { s with pc := .crashed e }) ∨
      (∃ e, loopEnd env s .feed = some e ∧
        afterFeed env p s = { s with pc := .signalling e.terminationMessage }) ∨
      loopEnd env s .feed = none ∧ ∃ pending, afterFeed env p s =
        { s with pc := .top, fed := s.fed + 1, pending := pending } := by
  have hend : loopEnd env s .feed = endOfFeed (feedStatus env p s) := by
    rw [loopEnd, hp]
  rw [hend, feedStatus, afterFeed]
  cases packetToGstreamerBuffer p with
  | error e => exact Or.inl ⟨e, rfl, rfl⟩
  | ok converted =>
    cases converted with
    | error status h => exact Or.inr (Or.inl ⟨.feedFailed status, by simp [endOfFeed, h], rfl⟩)
    | value buffer =>
      cases hok : (env.feed s.fed buffer).ok with
      | false =>
        refine Or.inr (Or.inl ⟨.feedFailed (env.feed s.fed buffer), ?_, ?_⟩)
        · simp [endOfFeed, hok]
        · simp [hok, LoopEnd.terminationMessage]
      | true =>
        refine Or.inr (Or.inr ⟨?_, s.pending ++ env.decode s.fed buffer, ?_⟩)
        · simp [endOfFeed, hok]
        · simp [hok]

/-- The threads, and on record how the loop has ended. -/
def recorded [Message EosValue] (queueSize : Int32) : System (State × Option LoopEnd) Label :=
  (system env queueSize).recording none (note env)

variable {env} in
theorem recorded_next [Message EosValue] {queueSize : Int32} {s s' : State}
    {ended : Option LoopEnd} {l : Label} (h : (recorded env queueSize).Reachable (s, ended))
    (hs : Step env s l s') : (recorded env queueSize).Reachable (s', note env s l ended) :=
  h.step ⟨hs, rfl⟩

end Record

/-! ### What is pushed -/

section Images

variable [Message ControlSignalPacketTypeDescriptor]

/-- No EOS is among the packets. -/
def NoEos (packets : List Packet) : Prop := ∀ p ∈ packets, isEos p = false

theorem NoEos.append {packets packets' : List Packet} (h : NoEos packets) (h' : NoEos packets') :
    NoEos (packets ++ packets') := by
  intro p hp
  rcases List.mem_append.mp hp with hp | hp
  · exact h p hp
  · exact h' p hp

/-- What the callback makes of an image is no EOS. -/
theorem isEos_emitted [Message RawImagePacketTypeDescriptor] {env : Env} {n : ℕ}
    {v : StatusOr RawImage} {packet : Packet}
    (h : formImagePacket env n v = .ok packet) (e : Ended PacketHeader) :
    isEos (afterTryPop packet e) = false := by
  have htype : getPacketTypeId packet = .rawImage := by
    cases v with
    | error status _ =>
      simp only [formImagePacket] at h
      split at h <;> cases h
    | value rawImage =>
      cases hnow : env.now n with
      | none =>
        rw [formImagePacket, hnow] at h
        cases h
      | some t =>
        rw [formImagePacket, hnow] at h
        cases h
        rfl
  refine isEos_of_typeId ?_
  have hafter : getPacketTypeId (afterTryPop packet e) = getPacketTypeId packet := by
    unfold afterTryPop
    split <;> rfl
  rw [hafter, htype]
  decide

end Images

section Pushed

variable [Message ControlSignalPacketTypeDescriptor] [Message EosValue]

/-- What has been pushed when the worker is at `pc`, the loop having ended as recorded. -/
def Pc.Records (env : Env) (s : State) (ended : Option LoopEnd) : Pc → Prop
  | .signalling reason =>
    NoEos s.dest.accepted ∧ ∃ e, ended = some e ∧ reason = e.terminationMessage
  | .emplacing eos => NoEos s.dest.accepted ∧
      ∃ e, ended = some e ∧ makeEosPacket env.eosNow e.terminationMessage = .value eos
  | .ended status => s.callback = none ∧ s.pending = [] ∧ ∃ e, ended = some e ∧
      ((status = okStatus ∧ ∃ images eos, s.dest.accepted = images ++ [eos] ∧ NoEos images ∧
          makeEosPacket env.eosNow e.terminationMessage = .value eos) ∨
        status.ok = false ∧ (makeEosPacket env.eosNow e.terminationMessage).ok = false ∧
          NoEos s.dest.accepted)
  | _ => NoEos s.dest.accepted ∧ ended = none

/-- **The invariant.** -/
structure Recorded (env : Env) (s : State) (ended : Option LoopEnd) : Prop where
  callback : ∀ p, s.callback = some p → isEos p = false
  records : s.pc.Records env s ended

variable {env : Env} {queueSize : Int32} {s s' : State} {ended : Option LoopEnd} {pc : Pc}

theorem Pc.Records.frame (h : pc.Records env s ended) (ha : s'.dest.accepted = s.dest.accepted)
    (hc : s'.callback = s.callback) (hp : s'.pending = s.pending) :
    pc.Records env s' ended := by
  cases pc <;> simp only [Pc.Records, ha, hc, hp] at h ⊢ <;> exact h

/-- Before the worker has returned, images may be pushed. -/
theorem Pc.Records.push (h : pc.Records env s ended) (hpc : ∀ status, pc ≠ .ended status)
    {images : List Packet} (ha : s'.dest.accepted = s.dest.accepted ++ images)
    (himages : NoEos images) : pc.Records env s' ended := by
  cases pc with
  | ended status => exact absurd rfl (hpc status)
  | _ =>
    refine ⟨?_, h.2⟩
    rw [ha]
    exact h.1.append himages

/-- The worker has not returned while there is something to decode. -/
theorem Recorded.not_ended (h : Recorded env s ended) (hbusy : s.callback ≠ none ∨ s.pending ≠ [])
    (status : Status) : s.pc ≠ .ended status := by
  intro hp
  have hrecords := h.records
  rw [hp] at hrecords
  rcases hbusy with hbusy | hbusy
  · exact hbusy hrecords.1
  · exact hbusy hrecords.2.1

theorem recorded_push (h : Recorded env s ended) {c : Call PacketHeader} {e : Ended PacketHeader}
    {headers : ProducerConsumerQueue.State Role PacketHeader} (hc : s.pc.headerCall = some c)
    (hq : ProducerConsumerQueue.Step s.headers (.run .worker c e) headers) :
    Recorded env { s with headers := headers, pc := s.pc.afterTryPush e } ended := by
  obtain ⟨p, hp, ⟨hpc, _⟩ | ⟨hpc, _⟩⟩ := afterTryPush_cases hc hq
  · have hrecords := h.records
    rw [hp] at hrecords
    rw [hpc]
    exact ⟨h.callback, hrecords⟩
  · have hrecords := h.records
    rw [hp] at hrecords
    rw [hpc]
    exact ⟨h.callback, hrecords⟩

theorem recorded_signalEos (h : Recorded env s ended) {reason : String}
    (hp : s.pc = .signalling reason) (hnone : s.callback = none) :
    Recorded env { s with pc := pushEosPacket env reason, pending := [] } ended := by
  have hrecords := h.records
  rw [hp] at hrecords
  obtain ⟨hpushed, e, rfl, rfl⟩ := hrecords
  refine ⟨h.callback, ?_⟩
  show (pushEosPacket env e.terminationMessage).Records env _ _
  unfold pushEosPacket
  cases heos : makeEosPacket env.eosNow e.terminationMessage with
  | error status hok =>
    exact ⟨hnone, rfl, e, rfl, Or.inr ⟨rfl, by rw [heos]; exact hok, hpushed⟩⟩
  | value eos => exact ⟨hpushed, e, rfl, heos⟩

theorem recorded_offer (h : Recorded env s ended) {packet : Packet} {e : Ended Packet}
    {dest : ProducerConsumerQueue.State Role Packet} (hc : s.callback = some packet)
    (hq : ProducerConsumerQueue.Step s.dest (.run .decoder (.tryEmplace packet) e) dest) :
    Recorded env { s with
      dest := dest, callback := none, offered := s.offered ++ [packet] } ended := by
  have hrunning := h.not_ended (Or.inl (by rw [hc]; exact nofun))
  refine ⟨nofun, ?_⟩
  obtain ⟨_, hacc | hacc⟩ := hq.tryEmplace_history
  · exact h.records.push hrunning (hacc.trans (List.append_nil _).symm) nofun
  · refine h.records.push hrunning hacc fun p hp => ?_
    rw [List.mem_singleton.mp hp]
    exact h.callback packet hc

/-- Before the loop has ended there are only images. -/
theorem Recorded.noEos (h : Recorded env s none) : NoEos s.dest.accepted := by
  have hrecords := h.records
  cases hp : s.pc with
  | signalling reason =>
    rw [hp] at hrecords
    exact hrecords.1
  | emplacing eos =>
    rw [hp] at hrecords
    exact hrecords.1
  | ended status =>
    rw [hp] at hrecords
    obtain ⟨_, _, ended, hnone, _⟩ := hrecords
    cases hnone
  | _ =>
    rw [hp] at hrecords
    exact hrecords.1

variable [Message RawImagePacketTypeDescriptor] [Message GstreamerBufferPacketTypeDescriptor]

theorem recorded_check (h : Recorded env s ended) (hp : s.pc = .top) :
    Recorded env { s with pc := if s.consumerHolds then .pulling else .signalling "" }
      (note env s .check ended) := by
  have hrecords := h.records
  rw [hp] at hrecords
  obtain ⟨hnone, rfl⟩ := hrecords
  refine ⟨h.callback, ?_⟩
  rw [note, loopEnd]
  cases s.consumerHolds with
  | true => exact ⟨hnone, rfl⟩
  | false => exact ⟨hnone, .released, rfl, rfl⟩

theorem recorded_pull (h : Recorded env s ended) (hp : s.pc = .pulling) :
    Recorded env { s with pc := afterPull env (env.pull s.pulled), pulled := s.pulled + 1 }
      (note env s .pull ended) := by
  have hrecords := h.records
  rw [hp] at hrecords
  obtain ⟨hnone, rfl⟩ := hrecords
  refine ⟨h.callback, ?_⟩
  show (afterPull env (env.pull s.pulled)).Records env _ _
  rcases pull_ends env s with ⟨e, hend, hpc⟩ | ⟨hend, ⟨p, hpc⟩ | ⟨p, hpc⟩⟩
  · rw [note, hend, hpc]
    exact ⟨hnone, e, rfl, rfl⟩
  · rw [note, hend, hpc]
    exact ⟨hnone, rfl⟩
  · rw [note, hend, hpc]
    exact ⟨hnone, rfl⟩

theorem recorded_feed (h : Recorded env s ended) {p : Packet} (hp : s.pc = .feeding p) :
    Recorded env (afterFeed env p s) (note env s .feed ended) := by
  have hrecords := h.records
  rw [hp] at hrecords
  obtain ⟨hnone, rfl⟩ := hrecords
  rcases feed_ends env hp with ⟨e, hend, hs⟩ | ⟨e, hend, hs⟩ | ⟨hend, pending, hs⟩
  · rw [note, hend, hs]
    exact ⟨h.callback, hnone, rfl⟩
  · rw [note, hend, hs]
    exact ⟨h.callback, hnone, e, rfl, rfl⟩
  · rw [note, hend, hs]
    exact ⟨h.callback, hnone, rfl⟩

theorem recorded_emplace (hr : (system env queueSize).Reachable s) (h : Recorded env s ended)
    {c : Call Packet} {e : Ended Packet} {dest : ProducerConsumerQueue.State Role Packet}
    (hc : s.pc.destCall = some c)
    (hq : ProducerConsumerQueue.Step s.dest (.run .worker c e) dest) :
    Recorded env { s with dest := dest, pc := s.pc.afterEmplace e } ended := by
  obtain ⟨eos, hp, rfl⟩ := destCall_eq_some hc
  have hrecords := h.records
  rw [hp] at hrecords
  obtain ⟨hpushed, end', rfl, heos⟩ := hrecords
  obtain ⟨_, hacc, _, _⟩ := hq.queue_run
  rw [hp]
  rcases hq.emplace_ended with ⟨f, rfl, _⟩ | ⟨rfl, _⟩
  · refine ⟨h.callback, ?_, end', rfl, heos⟩
    rw [show dest.accepted = s.dest.accepted from hacc.trans (List.append_nil _)]
    exact hpushed
  · obtain ⟨hnone, hpending⟩ := shut_of_reachable hr hp
    exact ⟨h.callback, hnone, hpending, end', rfl,
      Or.inl ⟨rfl, s.dest.accepted, eos, hacc, hpushed, heos⟩⟩

theorem recorded_step {l : Label} (hr : (system env queueSize).Reachable s)
    (h : Recorded env s ended) (hs : Step env s l s') : Recorded env s' (note env s l ended) := by
  have hquiet : loopEnd env s l = none → note env s l ended = ended := by
    intro hnone
    rw [note, hnone, Option.or_none]
  cases hs with
  | check hp => exact recorded_check h hp
  | pull hp => exact recorded_pull h hp
  | push c e hc hq =>
    rw [hquiet rfl]
    exact recorded_push h hc hq
  | feed p hp => exact recorded_feed h hp
  | signalEos reason hp hnone =>
    rw [hquiet rfl]
    exact recorded_signalEos h hp hnone
  | emplace c e hc hq =>
    rw [hquiet rfl]
    exact recorded_emplace hr h hc hq
  | discard v rest status hnone hp _ =>
    rw [hquiet rfl]
    exact ⟨h.callback, h.records.push (h.not_ended (Or.inr (by rw [hp]; exact nofun)))
      (List.append_nil _).symm nofun⟩
  | emit v rest packet e hnone hp hform hq =>
    rw [hquiet rfl]
    refine ⟨fun p hc => ?_, h.records.push (h.not_ended (Or.inr (by rw [hp]; exact nofun)))
      (List.append_nil _).symm nofun⟩
    rw [← Option.some.inj hc]
    exact isEos_emitted hform e
  | offer packet e hc hq =>
    rw [hquiet rfl]
    exact recorded_offer h hc hq
  | pop elem timeout e _ hq =>
    rw [hquiet rfl]
    exact ⟨h.callback, h.records.frame (hq.queue_run.2.1.trans (List.append_nil _)) rfl rfl⟩
  | wakeDest t hq =>
    rw [hquiet rfl]
    exact ⟨h.callback, h.records.frame hq.queue_wake.2.1 rfl rfl⟩
  | wakeHeaders t _ =>
    rw [hquiet rfl]
    exact ⟨h.callback, h.records.frame rfl rfl rfl⟩
  | release _ _ =>
    rw [hquiet rfl]
    exact ⟨h.callback, h.records.frame rfl rfl rfl⟩

/-- **What has been pushed at any time, and with what reason.** -/
theorem recorded_of_reachable (h : (recorded env queueSize).Reachable (s, ended)) :
    Recorded env s ended := by
  refine h.invariant (I := fun w => Recorded env w.1 w.2) ?_ ?_
  · rintro ⟨s, _⟩ ⟨hs, rfl⟩
    obtain ⟨dest, _, _, _, _, _, rfl⟩ := init_eq hs
    exact ⟨nofun, nofun, rfl⟩
  · rintro ⟨s, ended⟩ l ⟨s', _⟩ hr ih ⟨hs, rfl⟩
    exact recorded_step hr.of_recording ih hs

end Pushed

/-! ### The EOS packet -/

/-- Of all statuses that end the loop, only that of `Feed` is not passed on. -/
theorem terminationMessage_eq_iff (ended : LoopEnd) :
    (∀ status, ended.failing = some status → ended.terminationMessage = status.message) ↔
      ∀ status, ended = .feedFailed status → status.message = "" := by
  cases ended with
  | released => exact ⟨fun _ _ h => (nomatch h), fun _ _ h => (nomatch h)⟩
  | sourceEos => exact ⟨fun _ _ h => (nomatch h), fun _ _ h => (nomatch h)⟩
  | pullFailed status =>
    refine ⟨fun _ _ h => (nomatch h), fun _ status' h => ?_⟩
    rw [← Option.some.inj h]
    rfl
  | feedFailed status =>
    constructor
    · intro h status' he
      rw [← LoopEnd.feedFailed.inj he]
      exact (h status rfl).symm
    · intro h status' hs
      rw [← Option.some.inj hs, h status rfl]
      rfl

section Delivered

variable [Message ControlSignalPacketTypeDescriptor] [Message EosValue]

/-- `Work` has returned; the last packet pushed is an EOS, and the only one; and its reason is the
message of the status that ended the loop, if one did. -/
structure Delivered (ended : LoopEnd) (s : State) : Prop where
  returned : s.pc = .ended okStatus
  eosIsLast : ∃ images eos, s.dest.accepted = images ++ [eos] ∧ NoEos images ∧
    isEos eos = true ∧ ∀ status, ended.failing = some status →
      isEosReason eos "" = .ok (true, status.message)

/-- The clock can be read for the EOS packet; and if a `Feed` that failed ended the loop, its
status has no message. -/
def Told (env : Env) (ended : LoopEnd) : Prop :=
  env.eosNow.isSome = true ∧ ∀ status, ended = .feedFailed status → status.message = ""

variable [LawfulMessage ControlSignalPacketTypeDescriptor] [LawfulMessage EosValue] {env : Env}

/-- **What `Work` leaves when it returns.** -/
theorem delivered_iff {s : State} {ended : LoopEnd} (h : Recorded env s (some ended))
    {status : Status} (hp : s.pc = .ended status) : Delivered ended s ↔ Told env ended := by
  have hrecords := h.records
  rw [hp] at hrecords
  obtain ⟨_, _, _, hended, hcases⟩ := hrecords
  obtain rfl := Option.some.inj hended
  rcases hcases with ⟨rfl, images, eos, hacc, himages, hmade⟩ | ⟨hstatus, hmade, _⟩
  · have hreason := isEosReason_makeEosPacket hmade ""
    have hclock : env.eosNow.isSome = true :=
      Option.isSome_iff_ne_none.mpr (makeEosPacket_now hmade)
    rw [Told, ← terminationMessage_eq_iff]
    constructor
    · rintro ⟨_, images', eos', hacc', _, _, htells⟩
      refine ⟨hclock, fun status hs => ?_⟩
      have heos : [eos] = [eos'] := List.append_inj_right' (hacc.symm.trans hacc') rfl
      have hsame := htells status hs
      rw [← (List.cons.inj heos).1, hreason] at hsame
      exact (Prod.mk.inj (Except.ok.inj hsame)).2
    · rintro ⟨_, htells⟩
      obtain ⟨reason, heos⟩ := isEosReason_eq eos ""
      refine ⟨hp, images, eos, hacc, himages, ?_, fun status hs => ?_⟩
      · exact ((Prod.mk.inj (Except.ok.inj (hreason.symm.trans heos))).1).symm
      · rw [hreason, htells status hs]
  · constructor
    · intro hdelivered
      rw [← Pc.ended.inj (hdelivered.returned.symm.trans hp)] at hstatus
      cases hstatus
    · rintro ⟨hclock, _⟩
      obtain ⟨now, hnow⟩ := Option.isSome_iff_exists.mp hclock
      obtain ⟨eos, heos, _⟩ := isEos_makeEosPacket now ended.terminationMessage
      rw [hnow, heos] at hmade
      cases hmade

end Delivered

/-! ### Whether it can be pushed -/

instance : Fintype Role where
  elems := {.worker, .decoder, .consumer}
  complete t := by cases t <;> decide

section Progress

variable [Message RawImagePacketTypeDescriptor] [Message GstreamerBufferPacketTypeDescriptor]
  [Message ControlSignalPacketTypeDescriptor] [Message EosValue]

/-- The steps of the producer, of the callback and the timeouts, and the consumer's pops as long as
it has its share. -/
def attending (env : Env) (queueSize : Int32) : System State Label :=
  (system env queueSize).restrict fun s l _ => l = .pop ∨ l.ByProducer s

/-- The same, with the record. -/
def going (env : Env) (queueSize : Int32) : System (State × Option LoopEnd) Label :=
  (attending env queueSize).recording none (note env)

variable {env : Env} {queueSize : Int32} {s : State}

/-- A consumer that is still there makes a place for the EOS packet. -/
theorem canReach_of_holding (h : (system env queueSize).Reachable s) (hh : s.consumerHolds = true)
    {eos : Packet} (hp : s.pc = .emplacing eos) : (attending env queueSize).CanReach Over s := by
  cases hfull : s.dest.queue.isFull with
  | false => exact (canReach_of_emplacing h hp hfull).restrict_mono fun _ _ _ hC => Or.inr hC.1
  | true =>
    have hdest := (toDest env queueSize).reachable h
    have hitems := ProducerConsumerQueue.q_ne_nil_of_isFull hfull
    obtain ⟨elem, timeout, e, dest, hq⟩ := (attended_of_reachable h).exists_pop
      ((attended_of_reachable h).consumer_awake
        (ProducerConsumerQueue.watched_of_reachable hdest .notEmpty) hitems)
    have hplace : dest.queue.isFull = false := by
      rw [← ProducerConsumerQueue.hasPlaces_one_iff]
      exact (hq.tryPop_places (ProducerConsumerQueue.hasPlaces_zero_of_reachable hdest)).2 hitems
    have hs : Step env s .pop { s with dest := dest } := .pop elem timeout e hh hq
    refine .step ⟨hs, Or.inl rfl⟩ ?_
    exact (canReach_of_emplacing (h.step hs) hp hplace).restrict_mono fun _ _ _ hC => Or.inr hC.1

/-- With the consumer still there, `SignalEOS` and the push come to an end. -/
theorem canReach_of_signalling_holding (h : (system env queueSize).Reachable s)
    (hh : s.consumerHolds = true) {reason : String} (hp : s.pc = .signalling reason) :
    (attending env queueSize).CanReach Over s := by
  have hshut : ∀ t : State, (system env queueSize).Reachable t → t.consumerHolds = true →
      t.pc = .signalling reason → t.callback = none →
      (attending env queueSize).CanReach Over t := by
    intro t ht hh hp hnone
    have hs : Step env t .signalEos _ := .signalEos reason hp hnone
    refine .step ⟨hs, Or.inr trivial⟩ ?_
    cases heos : makeEosPacket env.eosNow reason with
    | value eos =>
      have hpush : pushEosPacket env reason = .emplacing eos := by
        rw [pushEosPacket, heos]
      exact canReach_of_holding (ht.step hs) hh hpush
    | error status hok =>
      refine .here (Or.inl ⟨internalError "Couldn't create an EOS packet", ?_⟩)
      show pushEosPacket env reason = _
      rw [pushEosPacket, heos]
  cases hc : s.callback with
  | none => exact hshut s h hh hp hc
  | some packet =>
    obtain ⟨dest, hs⟩ := exists_offer h hc
    exact .step ⟨hs, Or.inr trivial⟩ (hshut _ (h.step hs) hh hp rfl)

/-- Once the loop has ended, `Work` can return exactly if the consumer is there, or can be done
without. -/
theorem canReach_over_of_ended {ended : LoopEnd} (h : (system env queueSize).Reachable s)
    (hrecorded : Recorded env s (some ended)) :
    (attending env queueSize).CanReach Over s ↔ s.consumerHolds = true ∨ CanStop env s := by
  cases hh : s.consumerHolds with
  | false =>
    rw [← canReach_over_iff h hh]
    constructor
    · intro hreach
      rw [canReach_over_iff h hh]
      exact Or.inr (canStop_of_canReach h hh hreach.of_restrict)
    · rintro (hfalse | hreach)
      · cases hfalse
      · exact hreach.restrict_mono fun _ _ _ hC => Or.inr hC
  | true =>
    refine iff_of_true ?_ (Or.inl rfl)
    have hrecords := hrecorded.records
    cases hp : s.pc with
    | signalling reason => exact canReach_of_signalling_holding h hh hp
    | emplacing eos => exact canReach_of_holding h hh hp
    | ended status => exact .here (Or.inl ⟨status, hp⟩)
    | _ =>
      rw [hp] at hrecords
      cases hrecords.2

variable [LawfulMessage ControlSignalPacketTypeDescriptor] [LawfulMessage EosValue]

omit [LawfulMessage ControlSignalPacketTypeDescriptor] [LawfulMessage EosValue] in
/-- What is on record stays. -/
theorem going_keeps {ended : LoopEnd} {G : State × Option LoopEnd → Prop}
    (h : (recorded env queueSize).Reachable (s, some ended))
    (hreach : (going env queueSize).CanReach G (s, some ended)) :
    (going env queueSize).CanReach
      (fun w => G w ∧ (recorded env queueSize).Reachable w ∧ w.2 = some ended) (s, some ended) := by
  refine hreach.and_invariant (I := fun w => (recorded env queueSize).Reachable w ∧
    w.2 = some ended) ?_ ⟨h, rfl⟩
  rintro ⟨s, _⟩ l ⟨s', _⟩ ⟨hr, rfl⟩ ⟨⟨hs, _⟩, rfl⟩
  exact ⟨hr.step ⟨hs, rfl⟩, rfl⟩

/-- **Once the loop has ended**, the rest of `Work` can leave what it should exactly if it has it
to tell, and the consumer is there or the queue has a place. -/
theorem canReach_delivered_iff {ended : LoopEnd}
    (h : (recorded env queueSize).Reachable (s, some ended)) :
    (going env queueSize).CanReach (fun w => Delivered ended w.1) (s, some ended) ↔
      Told env ended ∧ (s.consumerHolds = true ∨ CanStop env s) := by
  rw [← canReach_over_of_ended h.of_recording (recorded_of_reachable h)]
  constructor
  · intro hreach
    constructor
    · obtain ⟨⟨t, _⟩, hdelivered, hr, rfl⟩ := (going_keeps h hreach).exists
      exact (delivered_iff (recorded_of_reachable hr) hdelivered.returned).mp hdelivered
    · have hover : (going env queueSize).CanReach (fun w => Over w.1) (s, some ended) :=
        hreach.mono fun w hw => Or.inl ⟨okStatus, hw.returned⟩
      exact hover.of_recording
  · rintro ⟨htold, hreach⟩
    refine (going_keeps h (hreach.recording (some ended))).mono ?_
    rintro ⟨t, _⟩ ⟨⟨status, hp⟩ | ⟨e, hp⟩, hr, rfl⟩
    · exact (delivered_iff (recorded_of_reachable hr) hp).mpr htold
    · have hrecords := (recorded_of_reachable hr).records
      rw [hp] at hrecords
      cases hrecords.2

variable (env queueSize) in
/-- **Work ends with one EOS packet**, in every interleaving: none is pushed before the loop has
ended; once it has, the rest of `Work` can leave one EOS packet, the last one pushed, with the
message of the status that ended the loop, exactly if there is no message that `Feed` failed with,
the clock can be read, and the consumer is there or the queue has a place; and a `Work` that has
returned has left it exactly if the first two hold. -/
theorem endsWithEos :
    (∀ s, (recorded env queueSize).Reachable (s, none) → NoEos s.dest.accepted) ∧
    ∀ s ended, (recorded env queueSize).Reachable (s, some ended) →
      ((going env queueSize).CanReach (fun w => Delivered ended w.1) (s, some ended) ↔
        Told env ended ∧ (s.consumerHolds = true ∨ CanStop env s)) ∧
      ∀ status, s.pc = .ended status → (Delivered ended s ↔ Told env ended) :=
  ⟨fun _ h => (recorded_of_reachable h).noEos, fun _ _ h =>
    ⟨canReach_delivered_iff h, fun _ hp => delivered_iff (recorded_of_reachable h) hp⟩⟩

end Progress

/-! ### A source that stops, and a packet that is no image -/

section Runs

open scoped WireMessages

/-- One frame, and then nothing. -/
def oneFrame : Env :=
  { twoFrames with pull := fun n => if n = 0 then some (frameAt 1) else none }

/-- One frame, and then a packet that holds a string. -/
def frameThenString : Env :=
  { twoFrames with
    pull := fun n => if n = 0 then some (frameAt 1) else
      if n = 1 then some ⟨{ PacketHeader.default with type := ⟨.string, "", ⟨"", []⟩⟩ }, []⟩
      else none }

/-- The source has timed out: its consumer is told so. -/
theorem endsWithEos_oneFrame : ∃ s,
    (recorded oneFrame 1).Reachable (s, some (.pullFailed (pullError oneFrame))) ∧
      (going oneFrame 1).CanReach (fun w => Delivered (.pullFailed (pullError oneFrame)) w.1)
        (s, some (.pullFailed (pullError oneFrame))) := by
  have hlaunched : (recorded oneFrame 1).Reachable (launched, none) := .init ⟨rfl, rfl⟩
  have hcheck := recorded_next hlaunched (.check rfl)
  have hpull := recorded_next hcheck (.pull rfl)
  exact ⟨_, hpull, (((endsWithEos oneFrame 1).2 _ _ hpull).1).mpr
    ⟨⟨rfl, fun _ h => nomatch h⟩, Or.inl rfl⟩⟩

/-- **A packet that is no image ends the stream without a reason**, although the status that ended
the loop has a message. -/
theorem not_delivered_string : ∃ s status eos,
    (recorded frameThenString 1).Reachable (s, some (.feedFailed status)) ∧
      s.pc = .ended okStatus ∧ s.dest.accepted = [eos] ∧
      isEosReason eos "" = .ok (true, "") ∧ status.message ≠ "" ∧
      ¬ Delivered (.feedFailed status) s := by
  obtain ⟨eos, heos, _⟩ := isEos_makeEosPacket ⟨1, 0⟩ ""
  have hlaunched : (recorded frameThenString 1).Reachable (launched, none) := .init ⟨rfl, rfl⟩
  have hcheck := recorded_next hlaunched (.check rfl)
  have hpull := recorded_next hcheck (.pull rfl)
  have hfeed := recorded_next hpull (.feed _ rfl)
  have hsignal := recorded_next hfeed (.signalEos "" rfl rfl)
  have hq : ProducerConsumerQueue.Step launched.dest (.run .worker (.emplace eos) (.done .emplace))
      (launched.dest.called .worker (.emplace eos)) :=
    ProducerConsumerQueue.called_step (fun _ => rfl) Role.worker _
  have hpush : pushEosPacket frameThenString "" = .emplacing eos := by
    rw [pushEosPacket, show frameThenString.eosNow = some ⟨1, 0⟩ from rfl, heos]
  have hemplace := recorded_next hsignal (.emplace (.emplace eos) (.done .emplace)
    (by rw [hpush]; rfl) hq)
  have hended : (pushEosPacket frameThenString "").afterEmplace (.done .emplace) =
      .ended okStatus := by
    rw [hpush]
    rfl
  refine ⟨_, _, eos, hemplace, hended, rfl, isEosReason_makeEosPacket heos "", ?_, ?_⟩
  · decide
  · rw [delivered_iff (recorded_of_reachable hemplace) hended]
    rintro ⟨_, htold⟩
    exact absurd (htold _ rfl) (by decide)

end Runs

end AIStreams.ImageProducer
