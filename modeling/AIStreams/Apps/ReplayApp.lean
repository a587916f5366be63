import AIStreams.Base.PacketUtils
import AIStreams.Base.ReceiverWorker
import AIStreams.Base.ReplayRequest
import AIStreams.Loop.Until

/-!
# `replay_app`

`RunPrinter` of `aistreams/python/apps/replay_app.cc`: the flags that select what is replayed, the
request issued, and the loop that receives the packets.

* `configure_of_selects`: what a valid selection turns into.
* `honoured_iff`: only the selections by `position_type` 0 and 1 are honoured, as far as
  `num_packets` can still be read once its block has been left.
-/

namespace AIStreams.ReplayApp

open OffsetOptions (SpecialOffset PositionType)
open Loop (Ending TakesExactly takeUntil inTime takesExactly_iff takeUntil_eq_iff takeUntil_count
  takeUntil_takesExactly)

/-! ### Flags -/

structure Flags where
  targetAddress : String := "localhost:50051"
  streamName : String := ""
  authenticateWithGoogle : Bool := false
  useInsecureChannel : Bool := false
  sslDomainName : String := "aistreams.googleapis.com"
  sslRootCertPath : String := ""
  timeoutInSec : Int32 := 60
  positionType : Int32 := -1
  startOffset : Int64 := -1
  endOffset : Int64 := -1
  startTimestamp : Time := .negInfinite
  endTimestamp : Time := .negInfinite
  numPackets : Int64 := 0

/-- The closures `stop_receive` can be, by the local variable that they compare with. -/
inductive StopReceive
  | never
  | numPackets
  | endOffset
  | endTimestamp
  deriving DecidableEq

/-- What the `i`-th call of `stop_receive` finds where the locals were that it captured by
reference.  Their blocks have been left by then, so that it may be anything. -/
structure Captured where
  numPackets : ℕ → Int64
  endOffset : ℕ → Int64
  endTimestamp : ℕ → Time

/-- `p.header().timestamp()` as the closure reads it. -/
def packetTime (p : Packet) : Time :=
  .fromUnixNanos (p.header.timestamp.seconds * 1000000000 + p.header.timestamp.nanos.toInt64)

/-- The closure reads a timestamp right whose nanoseconds fit in 64 bits. -/
theorem packetTime_of_fits {p : Packet}
    (h : -2 ^ 63 ≤ p.header.timestamp.nanoseconds ∧ p.header.timestamp.nanoseconds < 2 ^ 63) :
    packetTime p = .ticks (4 * p.header.timestamp.nanoseconds) := by
  have hmul : (1000000000 : Int64).toInt = 1000000000 := rfl
  rw [packetTime, Time.fromUnixNanos, Int64.toInt_add, Int64.toInt_mul, Int32.toInt_toInt64, hmul,
    Int.bmod_add_bmod]
  congr 2
  exact Int.bmod_eq_of_le (by rw [Timestamp.nanoseconds] at h; omega)
    (by rw [Timestamp.nanoseconds] at h; omega)

/-- `stop_receive(p)`, when `received_packets` is `i + 1`. -/
def StopReceive.call (captured : Captured) (stopReceive : StopReceive) (i : ℕ) (p : Packet) :
    Bool :=
  match stopReceive with
  | .never => false
  | .numPackets => decide (captured.numPackets i ≤ Int64.ofNat (i + 1))
  | .endOffset => decide (captured.endOffset i ≤ p.header.serverMetadata.offset)
  | .endTimestamp => (captured.endTimestamp i).le (packetTime p)

/-- `RunPrinter` up to `receiver_options`. -/
def configure (flags : Flags) : Except Status (OffsetOptions × StopReceive) :=
  if flags.positionType = 0 ∨ flags.positionType = 1 then
    if flags.numPackets ≤ 0 then .error (invalidArgumentError "num_packets should be > 0")
    else .ok (⟨true, .specialOffset
      (if flags.positionType = 0 then .kOffsetBeginning else .kOffsetEnd)⟩, .numPackets)
  else if flags.positionType = 2 then
    if flags.startOffset < 0 ∨ flags.endOffset < 0 ∨ flags.endOffset < flags.startOffset then
      .error (invalidArgumentError "start_offset and end_offset are invalid")
    else .ok ({ offsetPosition := .int64 flags.startOffset }, .endOffset)
  else if flags.positionType = 3 then
    if flags.startTimestamp = .negInfinite ∨ flags.endTimestamp = .negInfinite ∨
        flags.startTimestamp.le flags.endTimestamp = false then
      .error (invalidArgumentError "start_timestamp and end_timestamp are invalid")
    else .ok ({ offsetPosition := .time flags.startTimestamp }, .endTimestamp)
  else .ok ({}, .never)

def receiverOptions (flags : Flags) (offsetOption : OffsetOptions) : ReceiverOptions where
  connectionOptions :=
    { targetAddress := flags.targetAddress
      sslOptions :=
        { useInsecureChannel := flags.useInsecureChannel
          sslRootCertPath := flags.sslRootCertPath
          sslDomainName := flags.sslDomainName }
      authenticateWithGoogle := flags.authenticateWithGoogle }
  streamName := flags.streamName
  receiverMode := .replay
  offsetOptions := offsetOption

def timeoutDuration (timeoutInSec : Int32) : Duration :=
  if 0 ≤ timeoutInSec then .seconds timeoutInSec.toInt else .infinite

/-! ### The loop -/

/-- The packets that were received, how the loop was left, which the log tells apart, and
`eos_reason`. -/
structure Printed where
  received : List Packet
  ending : Ending
  eosReason : String

section Printer

variable [Message ControlSignalPacketTypeDescriptor] [Message EosValue]

/-- The loop, on the results of `TryPop`; `received` packets have been received before. -/
def receivePackets (stopReceive : ℕ → Packet → Bool) :
    ℕ → String → List (Option Packet) → OrFatal Printed
  | _, eosReason, [] => .ok ⟨[], .waiting, eosReason⟩
  | _, eosReason, none :: _ => .ok ⟨[], .late, eosReason⟩
  | received, eosReason, some p :: rest =>
    match isEosReason p eosReason with
    | .error e => .error e
    | .ok (true, eosReason) => .ok ⟨[], .ended, eosReason⟩
    | .ok (false, eosReason) =>
      if stopReceive received p then .ok ⟨[p], .stopped, eosReason⟩
      else
        match receivePackets stopReceive (received + 1) eosReason rest with
        | .error e => .error e
        | .ok printed => .ok { printed with received := p :: printed.received }

/-- What `RunPrinter` returns after its loop, once it has left it. -/
def returned (timeoutInSec : Int32) : Ending → Option Status
  | .waiting => none
  | .late => some (deadlineExceededError ("No messages have been received in the last " ++
      toString timeoutInSec ++ " seconds."))
  | .ended => some okStatus
  | .stopped => some okStatus

/-- The request issued, what was received, and what was returned, each if it came to it. -/
structure Run where
  request : Option ReplayStreamRequest
  printed : Option Printed
  status : Option Status

def runPrinter (network : Network) (captured : Captured) (flags : Flags) : OrFatal Run :=
  match configure flags with
  | .error status => .ok ⟨none, none, some status⟩
  | .ok (offsetOption, stopReceive) =>
    let options := receiverOptions flags offsetOption
    let (created, request) := PacketReceiver.createReplay network options.packetReceiverOptions
    match ReceiverWorker.makePacketReceiverQueue options.bufferCapacity created with
    | .error e => .error e
    | .ok (status, _) =>
      if status.ok = false then
        .ok ⟨request, none, some (unknownError "Failed to create a packet receiver queue")⟩
      else
        match receivePackets (stopReceive.call captured) 0 ""
            (network.tryPops
              (PacketReceiver.replayStreamRequest network options.packetReceiverOptions)
              (timeoutDuration flags.timeoutInSec)) with
        | .error e => .error e
        | .ok printed =>
          .ok ⟨request, some printed, returned flags.timeoutInSec printed.ending⟩

/-- The loop takes packets until it is told to stop. -/
theorem receivePackets_eq (stopReceive : ℕ → Packet → Bool) (received : ℕ) (eosReason : String)
    (deliveries : List (Option Packet)) :
    ∃ reason, receivePackets stopReceive received eosReason deliveries =
      .ok ⟨(takeUntil isEos (fun i => stopReceive (received + i)) deliveries).1,
        (takeUntil isEos (fun i => stopReceive (received + i)) deliveries).2, reason⟩ := by
  induction deliveries generalizing received eosReason with
  | nil => exact ⟨eosReason, rfl⟩
  | cons delivery deliveries ih =>
    cases delivery with
    | none => exact ⟨eosReason, rfl⟩
    | some p =>
      obtain ⟨reason, hreason⟩ := isEosReason_eq p eosReason
      rw [receivePackets, takeUntil, hreason]
      cases isEos p with
      | true => exact ⟨reason, rfl⟩
      | false =>
        cases hs : stopReceive received p with
        | true => exact ⟨reason, by simp⟩
        | false =>
          obtain ⟨reason', hrest⟩ := ih (received + 1) reason
          refine ⟨reason', ?_⟩
          have hshift : (fun i => stopReceive (received + 1 + i)) =
              fun i => stopReceive (received + (i + 1)) := by
            funext i
            rw [Nat.add_right_comm, Nat.add_assoc]
          simp [hrest, hshift]

end Printer

/-! ### Selections -/

/-- A valid selection of what is replayed: so many packets from a special offset, those between
two offsets, or those between two points in time, in quarter nanoseconds. -/
inductive Selection
  | special (offset : SpecialOffset) (numPackets : Int64) (h : 0 < numPackets)
  | offsets (start stop : Int64) (h : 0 ≤ start ∧ start ≤ stop)
  | timestamps (start stop : ℤ) (h : start ≤ stop)

/-- The flags make the selection. -/
def Flags.Selects (flags : Flags) : Selection → Prop
  | .special .kOffsetBeginning numPackets _ =>
    flags.positionType = 0 ∧ flags.numPackets = numPackets
  | .special .kOffsetEnd numPackets _ => flags.positionType = 1 ∧ flags.numPackets = numPackets
  | .offsets start stop _ =>
    flags.positionType = 2 ∧ flags.startOffset = start ∧ flags.endOffset = stop
  | .timestamps start stop _ =>
    flags.positionType = 3 ∧ flags.startTimestamp = .ticks start ∧ flags.endTimestamp = .ticks stop

namespace Selection

/-- Where the replay starts. -/
def position : Selection → PositionType
  | special offset _ _ => .specialOffset offset
  | offsets start _ _ => .int64 start
  | timestamps start _ _ => .time (.ticks start)

/-- The packet received after `i` others is the last one selected, or past it. -/
def stops (selection : Selection) (i : ℕ) (p : Packet) : Bool :=
  match selection with
  | special _ numPackets _ => decide (numPackets.toInt ≤ i + 1)
  | offsets _ stop _ => decide (stop ≤ p.header.serverMetadata.offset)
  | timestamps _ stop _ => decide (stop ≤ 4 * p.header.timestamp.nanoseconds)

/-- Only a special offset sets `reset_offset`. -/
def offsetOption : Selection → OffsetOptions
  | special offset _ _ => ⟨true, .specialOffset offset⟩
  | offsets start _ _ => ⟨false, .int64 start⟩
  | timestamps start _ _ => ⟨false, .time (.ticks start)⟩

def stopReceive : Selection → StopReceive
  | special .. => .numPackets
  | offsets .. => .endOffset
  | timestamps .. => .endTimestamp

end Selection

/-- What a valid selection turns into. -/
theorem configure_of_selects {flags : Flags} {selection : Selection}
    (h : flags.Selects selection) :
    configure flags = .ok (selection.offsetOption, selection.stopReceive) := by
  cases selection with
  | special offset numPackets hn =>
    have hpos : ¬ numPackets ≤ 0 := Int64.not_le.mpr hn
    cases offset with
    | kOffsetBeginning =>
      obtain ⟨htype, rfl⟩ := h
      rw [configure, if_pos (Or.inl htype), if_neg hpos, if_pos htype]
      rfl
    | kOffsetEnd =>
      obtain ⟨htype, rfl⟩ := h
      rw [configure, if_pos (Or.inr htype), if_neg hpos, if_neg (by simp [htype])]
      rfl
  | offsets start stop hle =>
    obtain ⟨htype, rfl, rfl⟩ := h
    have hvalid : ¬ (flags.startOffset < 0 ∨ flags.endOffset < 0 ∨
        flags.endOffset < flags.startOffset) := by
      simp only [not_or, Int64.not_lt]
      exact ⟨hle.1, Int64.le_trans hle.1 hle.2, hle.2⟩
    rw [configure, if_neg (by simp [htype]), if_pos htype, if_neg hvalid]
    rfl
  | timestamps start stop hle =>
    obtain ⟨htype, hstart, hstop⟩ := h
    have hvalid : ¬ (flags.startTimestamp = .negInfinite ∨ flags.endTimestamp = .negInfinite ∨
        flags.startTimestamp.le flags.endTimestamp = false) := by
      rw [hstart, hstop]
      simp [Duration.le, hle]
    rw [configure, if_neg (by simp [htype]), if_neg (by simp [htype]), if_pos htype,
      if_neg hvalid, hstart]
    rfl

/-! ### What is honoured -/

section Honoured

variable [Message ControlSignalPacketTypeDescriptor] [Message EosValue]

/-- The network lets the request through, and then these are the results of `TryPop`. -/
def Serves (network : Network) (flags : Flags) (deliveries : List (Option Packet)) : Prop :=
  ∃ offsetOption stopReceive, configure flags = .ok (offsetOption, stopReceive) ∧
    (PacketReceiver.createReplay network
      (receiverOptions flags offsetOption).packetReceiverOptions).1 = okStatus ∧
    network.tryPops (PacketReceiver.replayStreamRequest network
      (receiverOptions flags offsetOption).packetReceiverOptions)
      (timeoutDuration flags.timeoutInSec) = deliveries

/-- The packets received are all of them up to and including the first one that is the last
selected, or else all those before EOS or a timeout. -/
def Received (selection : Selection) (deliveries : List (Option Packet)) (run : Run) : Prop :=
  ∃ printed, run.printed = some printed ∧
    TakesExactly isEos selection.stops deliveries printed.received printed.ending

/-- The request carries the position at which the replay is to start. -/
def Requested (selection : Selection) (run : Run) : Prop :=
  ∃ request config, run.request = some request ∧ request.offsetConfig = some config ∧
    config.Denotes selection.position

/-- What becomes of a valid selection that is served. -/
theorem runPrinter_eq {network : Network} {flags : Flags} {selection : Selection}
    {deliveries : List (Option Packet)} (captured : Captured) (hselects : flags.Selects selection)
    (hserves : Serves network flags deliveries) :
    ∃ reason, runPrinter network captured flags =
      .ok
        { request := some (PacketReceiver.replayStreamRequest network
            (receiverOptions flags selection.offsetOption).packetReceiverOptions)
          printed := some
            ⟨(takeUntil isEos (selection.stopReceive.call captured) deliveries).1,
              (takeUntil isEos (selection.stopReceive.call captured) deliveries).2, reason⟩
          status := returned flags.timeoutInSec
            (takeUntil isEos (selection.stopReceive.call captured) deliveries).2 } := by
  obtain ⟨offsetOption, stopReceive, hconfigure, hcreated, hpops⟩ := hserves
  rw [configure_of_selects hselects] at hconfigure
  cases hconfigure
  obtain ⟨reason, hloop⟩ :=
    receivePackets_eq (selection.stopReceive.call captured) 0 "" deliveries
  have hrequest : (PacketReceiver.createReplay network
      (receiverOptions flags selection.offsetOption).packetReceiverOptions).2 =
      some (PacketReceiver.replayStreamRequest network
        (receiverOptions flags selection.offsetOption).packetReceiverOptions) :=
    PacketReceiver.createReplay_request (by rw [hcreated]; rfl)
  obtain ⟨s, hqueue⟩ : ∃ s, ReceiverWorker.makePacketReceiverQueue
      (receiverOptions flags selection.offsetOption).bufferCapacity okStatus =
        .ok (okStatus, s) := ⟨_, rfl⟩
  refine ⟨reason, ?_⟩
  simp only [Nat.zero_add] at hloop
  simp only [runPrinter, configure_of_selects hselects, hcreated, hrequest, hqueue, hpops, hloop,
    okStatus_ok, Bool.true_eq_false, if_false]

section Served

variable {network : Network} {flags : Flags} {selection : Selection}
  {deliveries : List (Option Packet)} {captured : Captured} {run : Run}

/-- **The right packets are received** exactly if each decision to stop is the right one. -/
theorem received_iff (hselects : flags.Selects selection)
    (hserves : Serves network flags deliveries)
    (hrun : runPrinter network captured flags = .ok run) :
    Received selection deliveries run ↔
      ∀ i p, (takeUntil isEos selection.stops deliveries).1[i]? = some p →
        selection.stopReceive.call captured i p = selection.stops i p := by
  obtain ⟨reason, heq⟩ := runPrinter_eq captured hselects hserves
  cases hrun.symm.trans heq
  rw [← takeUntil_eq_iff]
  constructor
  · rintro ⟨printed, hprinted, hexact⟩
    cases hprinted
    exact (takesExactly_iff.mp hexact).symm
  · intro h
    exact ⟨_, rfl, takesExactly_iff.mpr h.symm⟩

/-- **The right position is requested** exactly if it is a special offset. -/
theorem requested_iff (hselects : flags.Selects selection)
    (hserves : Serves network flags deliveries)
    (hrun : runPrinter network captured flags = .ok run) :
    Requested selection run ↔ ∃ offset numPackets h, selection = .special offset numPackets h := by
  obtain ⟨reason, heq⟩ := runPrinter_eq captured hselects hserves
  cases hrun.symm.trans heq
  constructor
  · rintro ⟨request, config, hrequest, hconfig, -⟩
    cases hrequest
    cases selection with
    | special offset numPackets h => exact ⟨offset, numPackets, h, rfl⟩
    | offsets start stop h =>
      rw [PacketReceiver.offsetConfig_of_ignored network rfl] at hconfig
      cases hconfig
    | timestamps start stop h =>
      rw [PacketReceiver.offsetConfig_of_ignored network rfl] at hconfig
      cases hconfig
  · rintro ⟨offset, numPackets, h, rfl⟩
    exact ⟨_, _, rfl, PacketReceiver.offsetConfig_of_reset network rfl,
      toProtoOffsetConfig_denotes trivial⟩

end Served

end Honoured

/-! ### Exactly when -/

/-- Each time `num_packets` is compared with the count, what is read in its place is on the same
side of it. -/
def Selection.Kept [Message ControlSignalPacketTypeDescriptor] (selection : Selection)
    (captured : Captured) (deliveries : List (Option Packet)) : Prop :=
  match selection with
  | special _ numPackets _ => ∀ i : ℕ, i < numPackets.toInt →
      i < (inTime isEos deliveries).length →
      ((captured.numPackets i).toInt ≤ i + 1 ↔ numPackets.toInt ≤ i + 1)
  | _ => False

section Special

variable (offset : SpecialOffset) (numPackets : Int64) (h : 0 < numPackets)

/-- A decision of a selection by count. -/
theorem call_eq_stops_iff (captured : Captured) {i : ℕ} (hi : i < numPackets.toInt) (p : Packet) :
    StopReceive.numPackets.call captured i p =
        (Selection.special offset numPackets h).stops i p ↔
      ((captured.numPackets i).toInt ≤ i + 1 ↔ numPackets.toInt ≤ i + 1) := by
  have hlt := numPackets.toInt_lt
  rw [StopReceive.call, Selection.stops, decide_eq_decide, Int64.le_iff_toInt_le,
    Int64.toInt_ofNat_of_lt (by omega)]
  push_cast
  rfl

/-- The packets that it selects. -/
theorem taken_special_iff [Message ControlSignalPacketTypeDescriptor]
    (deliveries : List (Option Packet)) (i : ℕ) (p : Packet) :
    (takeUntil isEos (Selection.special offset numPackets h).stops deliveries).1[i]? = some p ↔
      i < numPackets.toInt ∧ (inTime isEos deliveries)[i]? = some p := by
  have hpos : 0 < numPackets.toInt := Int64.lt_iff_toInt_lt.mp h
  have hstops : (Selection.special offset numPackets h).stops =
      fun i _ => decide (numPackets.toInt.toNat - 1 ≤ i) := by
    funext i p
    rw [Selection.stops, decide_eq_decide]
    omega
  rw [hstops, takeUntil_count, List.getElem?_take]
  split
  · simp only [iff_and_self]
    omega
  · simp only [reduceCtorEq, false_iff, not_and]
    omega

theorem kept_iff [Message ControlSignalPacketTypeDescriptor] (captured : Captured)
    (deliveries : List (Option Packet)) :
    (Selection.special offset numPackets h).Kept captured deliveries ↔
      ∀ i p, (takeUntil isEos (Selection.special offset numPackets h).stops deliveries).1[i]? =
          some p →
        StopReceive.numPackets.call captured i p =
          (Selection.special offset numPackets h).stops i p := by
  constructor
  · intro hkept i p hp
    obtain ⟨hi, hp⟩ := (taken_special_iff offset numPackets h deliveries i p).mp hp
    exact (call_eq_stops_iff offset numPackets h captured hi p).mpr
      (hkept i hi (List.getElem?_eq_some_iff.mp hp).1)
  · intro hdecides i hi hlength
    have hp : (inTime isEos deliveries)[i]? = some (inTime isEos deliveries)[i] :=
      List.getElem?_eq_getElem hlength
    have htaken := (taken_special_iff offset numPackets h deliveries i _).mpr ⟨hi, hp⟩
    exact (call_eq_stops_iff offset numPackets h captured hi _).mp (hdecides i _ htaken)

end Special

/-- The locals still hold what they held. -/
structure Captured.Intact (captured : Captured) (flags : Flags) : Prop where
  numPackets : ∀ i, captured.numPackets i = flags.numPackets
  endOffset : ∀ i, captured.endOffset i = flags.endOffset
  endTimestamp : ∀ i, captured.endTimestamp i = flags.endTimestamp

section Served

variable [Message ControlSignalPacketTypeDescriptor] [Message EosValue] {network : Network}
  {flags : Flags} {selection : Selection} {deliveries : List (Option Packet)}

/-- **Whatever the selection, the right packets are received**, as long as the locals keep what
they held and each timestamp fits. -/
theorem received_of_intact {captured : Captured} {run : Run} (hselects : flags.Selects selection)
    (hserves : Serves network flags deliveries)
    (hrun : runPrinter network captured flags = .ok run) (hintact : captured.Intact flags)
    (hfits : ∀ p, some p ∈ deliveries → -2 ^ 63 ≤ p.header.timestamp.nanoseconds ∧
      p.header.timestamp.nanoseconds < 2 ^ 63) :
    Received selection deliveries run := by
  rw [received_iff hselects hserves hrun]
  cases selection with
  | special offset numPackets h =>
    refine (kept_iff offset numPackets h captured deliveries).mp fun i _ _ => ?_
    have hnum : flags.numPackets = numPackets := by
      cases offset with
      | kOffsetBeginning => exact hselects.2
      | kOffsetEnd => exact hselects.2
    rw [hintact.numPackets, hnum]
  | offsets start stop h =>
    intro i p _
    rw [Selection.stopReceive, StopReceive.call, Selection.stops, hintact.endOffset,
      hselects.2.2]
  | timestamps start stop h =>
    intro i p hp
    obtain ⟨rest, hdeliveries, -⟩ := (takeUntil_takesExactly isEos
      (Selection.timestamps start stop h).stops deliveries).inOrder
    have hmem : some p ∈ deliveries := by
      rw [hdeliveries]
      exact List.mem_append_left _ (List.mem_map_of_mem (List.mem_of_getElem? hp))
    rw [Selection.stopReceive, StopReceive.call, Selection.stops, hintact.endTimestamp,
      hselects.2.2, packetTime_of_fits (hfits p hmem)]
    rfl

/-- **Replay positions are honoured** exactly for the special offsets, as long as `num_packets`
can still be compared with. -/
theorem honoured_iff (captured : Captured) (hselects : flags.Selects selection)
    (hserves : Serves network flags deliveries) :
    (∃ run, runPrinter network captured flags = .ok run ∧ Requested selection run ∧
        Received selection deliveries run) ↔
      selection.Kept captured deliveries := by
  obtain ⟨reason, hrun⟩ := runPrinter_eq captured hselects hserves
  rw [hrun]
  simp only [Except.ok.injEq, exists_eq_left']
  rw [requested_iff hselects hserves hrun, received_iff hselects hserves hrun]
  cases selection with
  | special offset numPackets h =>
    rw [kept_iff]
    exact and_iff_right ⟨offset, numPackets, h, rfl⟩
  | offsets start stop h => simp [Selection.Kept]
  | timestamps start stop h => simp [Selection.Kept]

end Served

/-! ### A replay from the beginning, and one from an offset -/

section Examples

open scoped WireMessages

/-- A network that lets every request through, and delivers one packet. -/
def oneDelivery : Network where
  createStreamChannel _ := okStatus
  newStub := true
  randomString _ := "consumer"
  makeClientContext _ := okStatus
  replayStream _ := true
  tryPops _ _ := [some .default]

/-- Locals that still hold what they held. -/
def keeping (flags : Flags) : Captured where
  numPackets _ := flags.numPackets
  endOffset _ := flags.endOffset
  endTimestamp _ := flags.endTimestamp

def fromBeginning : Flags := { positionType := 0, numPackets := 1 }

def fromOffset : Flags := { positionType := 2, startOffset := 0, endOffset := 0 }

theorem honoured_fromBeginning :
    ∃ run, runPrinter oneDelivery (keeping fromBeginning) fromBeginning = .ok run ∧
      Requested (.special .kOffsetBeginning 1 (by decide)) run ∧
      Received (.special .kOffsetBeginning 1 (by decide)) [some .default] run := by
  have hselects : fromBeginning.Selects (.special .kOffsetBeginning 1 (by decide)) := ⟨rfl, rfl⟩
  have hserves : Serves oneDelivery fromBeginning [some .default] := ⟨_, _, rfl, rfl, rfl⟩
  exact (honoured_iff (keeping fromBeginning) hselects hserves).mpr fun _ _ _ => Iff.rfl

theorem not_honoured_fromOffset :
    fromOffset.Selects (.offsets 0 0 (by decide)) ∧
      Serves oneDelivery fromOffset [some .default] ∧
      ¬ ∃ run, runPrinter oneDelivery (keeping fromOffset) fromOffset = .ok run ∧
        Requested (.offsets 0 0 (by decide)) run ∧
        Received (.offsets 0 0 (by decide)) [some .default] run := by
  have hselects : fromOffset.Selects (.offsets 0 0 (by decide)) := ⟨rfl, rfl, rfl⟩
  have hserves : Serves oneDelivery fromOffset [some .default] := ⟨_, _, rfl, rfl, rfl⟩
  refine ⟨hselects, hserves, ?_⟩
  rintro ⟨run, hrun, hrequested, -⟩
  obtain ⟨offset, numPackets, h, hspecial⟩ := (requested_iff hselects hserves hrun).mp hrequested
  cases hspecial

end Examples

end AIStreams.ReplayApp
