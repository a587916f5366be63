import AIStreams.Gstreamer.AisSink
import AIStreams.Gstreamer.AisSource

/-!
# From `aissink` to `aissrc`

A session of `aissink` sends the buffers of one pipeline, and a session of `aissrc` makes them the
buffers of another one, over an arbitrary service between the two.

* `shows_of_right`: what `ais_src_create` makes of one packet.
* `roundTrip`: the buffers that come out are those that went in, bytes and fixed caps, as far as
  their packets arrive, in the same order, and an EOS for the `stop`.
-/

namespace AIStreams

open Transition
open AisSink (madePacket eosPacket flagged)

namespace AisRoundTrip

/-! ### The packets -/

section Packets

variable {p q : Packet}

theorem madeFrom_flagged {T : Type} [PacketTypeTraits T] {t : T} (deltaUnit : Bool)
    (h : MadeFrom t p) : MadeFrom t (flagged deltaUnit p) := by
  cases deltaUnit with
  | false => exact ⟨h.typeId, h.descriptor, h.payload⟩
  | true => exact ⟨h.typeId, h.descriptor, h.payload⟩

theorem madeFrom_of_sameButTrace {T : Type} [PacketTypeTraits T] {t : T}
    (hsame : PacketSender.SameButTrace p q) (h : MadeFrom t p) : MadeFrom t q := by
  obtain ⟨context, rfl⟩ := hsame
  exact ⟨h.typeId, h.descriptor, h.payload⟩

theorem isEos_of_sameButTrace [Message ControlSignalPacketTypeDescriptor]
    (hsame : PacketSender.SameButTrace p q) : isEos q = isEos p := by
  obtain ⟨context, rfl⟩ := hsame
  rfl

/-- A packet of a buffer is converted to it. -/
theorem packetToGstreamerBuffer_of_madeFrom [Message RawImagePacketTypeDescriptor]
    [Message GstreamerBufferPacketTypeDescriptor]
    [LawfulMessage GstreamerBufferPacketTypeDescriptor] {buffer : GstreamerBuffer}
    (h : MadeFrom buffer p) : packetToGstreamerBuffer p = .ok (.value buffer) := by
  have hid : getPacketTypeId p = .gstreamerBuffer := h.typeId
  obtain ⟨a, hadapt, hok, hvalue, _⟩ := adapt_of_madeFrom h
  unfold packetToGstreamerBuffer gstreamerBufferPacketToGstreamerBuffer
  rw [hid, hadapt]
  simp only [OrFatal.ok_bind, hok, hvalue]
  rfl

theorem isEos_of_madeFrom [Message GstreamerBufferPacketTypeDescriptor]
    [Message ControlSignalPacketTypeDescriptor] {buffer : GstreamerBuffer}
    (h : MadeFrom buffer p) : isEos p = false := by
  refine isEos_of_typeId ?_
  rw [show getPacketTypeId p = .gstreamerBuffer from h.typeId]
  decide

end Packets

/-! ### What is sent -/

/-- What a `render` puts on the stream, if the clock can be read and the buffer be mapped. -/
def shown (i : AisSink.Input) : Option GstreamerBuffer :=
  match i.now, i.buffer.map with
  | some _, some bytes => some ⟨i.capsString.takeWhile (· ≠ 0), bytes⟩
  | _, _ => none

/-- What a session puts on the stream: its buffers, and then nothing but the EOS. -/
def shows {T : Type} (s : AisSink.State T) : List (Option GstreamerBuffer) :=
  (s.rendered.filterMap shown).map some ++ s.eos.toList.map fun _ => none

/-- The packet carries the buffer, or is an EOS. -/
def Carries [Message GstreamerBufferPacketTypeDescriptor]
    [Message ControlSignalPacketTypeDescriptor] : Option GstreamerBuffer → Packet → Prop
  | some buffer, p => MadeFrom buffer p
  | none, p => isEos p = true

theorem Carries.traced [Message GstreamerBufferPacketTypeDescriptor]
    [Message ControlSignalPacketTypeDescriptor] {b : Option GstreamerBuffer} {p q : Packet}
    (h : Carries b p) (hsame : PacketSender.SameButTrace p q) : Carries b q := by
  cases b with
  | none => exact (isEos_of_sameButTrace hsame).trans h
  | some buffer => exact madeFrom_of_sameButTrace hsame h

theorem carries_traced [Message GstreamerBufferPacketTypeDescriptor]
    [Message ControlSignalPacketTypeDescriptor] {bs : List (Option GstreamerBuffer)}
    {ps qs : List Packet} (h : List.Forall₂ Carries bs ps)
    (hsame : List.Forall₂ PacketSender.SameButTrace ps qs) : List.Forall₂ Carries bs qs := by
  induction hsame generalizing bs with
  | nil => exact h
  | cons hpq _ ih =>
    cases h with
    | cons hbp h => exact List.Forall₂.cons (hbp.traced hpq) (ih h)

/-- Without a clock there is no packet. -/
theorem makePacket_without_clock {T : Type} [PacketTypeTraits T] (passing : Passing) (t : T)
    (header : PacketHeader) : (makePacket none passing t header true).ok = false := by
  unfold makePacket
  simp only [setToCurrentTime, if_true]
  split
  · exact StatusOr.ok_ofStatus _
  · rfl

section Sent

variable [Message GstreamerBufferPacketTypeDescriptor]
  [LawfulMessage GstreamerBufferPacketTypeDescriptor] [Message ControlSignalPacketTypeDescriptor]

/-- **What `render` sends** carries what it was given. -/
theorem carries_madePacket (i : AisSink.Input) : Option.Rel (fun b p => Carries (some b) p)
    (shown i) (madePacket i.now i.capsString i.buffer) := by
  unfold shown madePacket
  cases hmap : i.buffer.map with
  | none => cases i.now <;> exact Option.Rel.none
  | some bytes =>
    cases i.now with
    | none =>
      cases hmake : makePacket none .rvalue
          (⟨i.capsString.takeWhile (· ≠ 0), bytes⟩ : GstreamerBuffer) .default true with
      | error status hs => exact Option.Rel.none
      | value p =>
        have hnone := makePacket_without_clock .rvalue
          (⟨i.capsString.takeWhile (· ≠ 0), bytes⟩ : GstreamerBuffer) .default
        rw [hmake] at hnone
        cases hnone
    | some now =>
      obtain ⟨p, hmake, hmade⟩ := makePacket_eq now .rvalue
        (⟨i.capsString.takeWhile (· ≠ 0), bytes⟩ : GstreamerBuffer) .default true
      simp only [hmake]
      exact Option.Rel.some (madeFrom_flagged i.buffer.deltaUnit hmade)

variable [LawfulMessage ControlSignalPacketTypeDescriptor] [Message EosValue]
  [LawfulMessage EosValue] {T : Type}

omit [LawfulMessage GstreamerBufferPacketTypeDescriptor] in
/-- The last packet of a session is an EOS. -/
theorem isEos_of_reachable {s : AisSink.State T} (h : (AisSink.system (T := T)).Reachable s) :
    s.stopped = true → ∀ p ∈ s.eos, isEos p = true := by
  refine h.invariant (I := fun s => s.stopped = true → ∀ p ∈ s.eos, isEos p = true) ?_ ?_
  · rintro s ⟨_, _, hstopped, _⟩ hstop
    cases hstopped.symm.trans hstop
  · intro s l s' hreach ih hs
    cases hs with
    | set => exact ih
    | start env hcon hstart =>
      intro hstop
      cases hstop
    | render i hcon hrender =>
      intro hstop
      cases ((AisSink.inv_of_reachable hreach).connected hcon).symm.trans hstop
    | stop now hcon hstop =>
      intro _ p hp
      change eosPacket now = some p at hp
      unfold eosPacket at hp
      split at hp
      · cases hp
      · rename_i p' hmake
        cases hp
        exact isEos_of_makeEosPacket hmake

/-- **What a session makes** carries what it shows. -/
theorem carries_made {s : AisSink.State T} (h : (AisSink.system (T := T)).Reachable s)
    (hstopped : s.stopped = true) : List.Forall₂ Carries (shows s) s.made := by
  unfold shows AisSink.State.made
  refine List.rel_append ?_ ?_
  · rw [List.forall₂_map_left_iff]
    refine List.rel_filterMap (R := Eq) ?_ (List.forall₂_refl _)
    rintro i _ rfl
    exact carries_madePacket i
  · have heos := isEos_of_reachable h hstopped
    cases hp : s.eos with
    | none => exact List.Forall₂.nil
    | some p => exact List.Forall₂.cons (heos p hp) List.Forall₂.nil

/-- **What a session hands over** carries what it shows. -/
theorem carries_handed {s : AisSink.State T} (h : (AisSink.system (T := T)).Reachable s)
    (hstopped : s.stopped = true) :
    List.Forall₂ Carries (shows s) (s.rpcs.flatMap Rpc.hands) := by
  obtain ⟨_, sender, opening, hcreate, _, hrpcs⟩ := (AisSink.inv_of_reachable h).stopped hstopped
  have hhanded := (PacketSender.proper_of_create s.env hcreate s.made).handed (by
    rw [PacketSender.session_eq s.env hcreate]
    rfl)
  rw [hrpcs]
  exact carries_traced (carries_made h hstopped) hhanded

end Sent

/-! ### What is received -/

/-- Related lists, of which the second one loses elements. -/
theorem exists_sublist {α β : Type} {R : α → β → Prop} {as : List α} {bs bs' : List β}
    (h : List.Forall₂ R as bs) (hsub : bs'.Sublist bs) :
    ∃ as', as'.Sublist as ∧ List.Forall₂ R as' bs' := by
  induction hsub generalizing as with
  | slnil => exact ⟨as, List.Sublist.refl as, h⟩
  | cons b hsub ih =>
    cases h with
    | cons hab h =>
      obtain ⟨as', hsub', h'⟩ := ih h
      exact ⟨as', hsub'.cons _, h'⟩
  | cons_cons b hsub ih =>
    cases h with
    | cons hab h =>
      obtain ⟨as', hsub', h'⟩ := ih h
      exact ⟨_, hsub'.cons_cons _, List.Forall₂.cons hab h'⟩

/-- GStreamer as it is vendored: the pad of a source gets fixed caps, and no others. -/
def SetsFixed {Caps : Type} (gst : GstCalls Caps) (capsIsFixed : Caps → Bool) : Prop :=
  gst.setCaps = gstBaseSrcSetCaps capsIsFixed gst.capsIsEqual

/-- What `create` returns for a buffer, and for an EOS.  A buffer is handed out if there is memory
that can be mapped, and the pad has its caps if they are fixed. -/
def Shows {Caps : Type} (gst : GstCalls Caps) (capsIsFixed : Caps → Bool) :
    Option GstreamerBuffer → AisSource.Pulled Caps → Prop
  | some buffer, r =>
    r.ret = .ok ∧
      (∀ mem, gst.bufferNewAndAlloc buffer.bytes.length = some mem → gst.bufferMap mem = true →
        r.outbuf = some buffer.bytes) ∧
      ∀ caps, gst.capsFromString buffer.getCapsCstr = some caps → capsIsFixed caps = true →
        ∃ current, r.srcpadCaps = some current ∧
          (current = caps ∨ gst.capsIsEqual current (some caps) = true)
  | none, r => r.ret = .eos

section Received

variable {Caps : Type} {gst : GstCalls Caps} {capsIsFixed : Caps → Bool}

/-- **Fixed caps are set**, or the pad had them. -/
theorem gstBaseSrcSetCaps_fixed (capsIsEqual : Caps → Option Caps → Bool) (current : Option Caps)
    {caps : Caps} (hfixed : capsIsFixed caps = true) :
    ∃ after, gstBaseSrcSetCaps capsIsFixed capsIsEqual current (some caps) = some after ∧
      (after = caps ∨ capsIsEqual after (some caps) = true) := by
  unfold gstBaseSrcSetCaps
  cases current with
  | none => exact ⟨caps, by simp [hfixed], Or.inl rfl⟩
  | some before =>
    by_cases hequal : capsIsEqual before (some caps) = true
    · exact ⟨before, by simp [hequal], Or.inr hequal⟩
    · exact ⟨caps, by simp [hequal, hfixed], Or.inl rfl⟩

/-- The pad has the caps of the packet afterwards, if they are fixed. -/
theorem changeCaps_srcpadCaps (hgst : SetsFixed gst capsIsFixed) (src : AisSrc Caps)
    {capsString : Bytes} {caps : Caps} (hcaps : gst.capsFromString capsString = some caps)
    (hfixed : capsIsFixed caps = true) :
    ∃ current, (changeCaps gst src capsString).1.srcpadCaps = some current ∧
      (current = caps ∨ gst.capsIsEqual current (some caps) = true) := by
  unfold SetsFixed at hgst
  unfold changeCaps
  rw [hcaps, hgst]
  cases hpad : src.srcpadCaps with
  | none => exact gstBaseSrcSetCaps_fixed gst.capsIsEqual none hfixed
  | some before =>
    by_cases hequal : gst.capsIsEqual before (some caps) = true
    · exact ⟨before, by simp [hequal, hpad], Or.inr hequal⟩
    · simp only [hequal, if_true]
      exact gstBaseSrcSetCaps_fixed _ _ hfixed

/-- The element leaves `handOut` as it was. -/
theorem handOut_src (ret : GstFlowReturn) (src : AisSrc Caps) (notices : List Notice)
    (buffer : GstreamerBuffer) {c : Created Caps}
    (h : handOut gst ret src notices buffer = .ok c) : c.src = src := by
  unfold handOut at h
  split at h
  · cases h
    rfl
  · split at h
    · split at h
      · cases h
      · cases h
        rfl
    · cases h
      rfl

variable [Message RawImagePacketTypeDescriptor] [Message GstreamerBufferPacketTypeDescriptor]
  [LawfulMessage GstreamerBufferPacketTypeDescriptor] [Message ControlSignalPacketTypeDescriptor]
  [Message EosValue]

/-- **One call**: what `aisSrcCreate` makes of a packet that carries a buffer, or of an EOS. -/
theorem exists_created (hgst : SetsFixed gst capsIsFixed) {tryPop : Option ℕ → Option Packet}
    (src : AisSrc Caps) (outbuf : Option Bytes) {p : Packet} {b : Option GstreamerBuffer}
    (hpop : popped tryPop src = some p) (hb : Carries b p) :
    ∃ c, aisSrcCreate gst tryPop src outbuf = .ok c ∧
      Shows gst capsIsFixed b (AisSource.pulled c) := by
  obtain ⟨reason, hreason⟩ := isEosReason_eq p ""
  rw [AisSource.aisSrcCreate_of_reason gst outbuf hpop hreason]
  cases b with
  | none =>
    have heos : isEos p = true := hb
    rw [if_pos heos]
    exact ⟨_, rfl, rfl⟩
  | some buffer =>
    have hmade : MadeFrom buffer p := hb
    rw [if_neg (by rw [isEos_of_madeFrom hmade]; decide), AisSource.bufferOf, aisToGstreamerBuffer,
      packetToGstreamerBuffer_of_madeFrom hmade]
    obtain ⟨c, hcreated, hret, houtbuf⟩ := handOut_eq gst .ok
      (changeCaps gst { src with aisStatus := okStatus } buffer.getCapsCstr).1
      (changeCaps gst { src with aisStatus := okStatus } buffer.getCapsCstr).2 buffer
    refine ⟨c, hcreated, hret, houtbuf, fun caps hcaps hfixed => ?_⟩
    rw [AisSource.pulled, handOut_src _ _ _ _ hcreated]
    exact changeCaps_srcpadCaps hgst _ hcaps hfixed

theorem shows_of_right (hgst : SetsFixed gst capsIsFixed) {call : AisSource.Call Caps}
    (h : call.Right gst) {p : Packet} {b : Option GstreamerBuffer} (hp : call.popped = some p)
    (hb : Carries b p) :
    Shows gst capsIsFixed b call.pulled := by
  obtain ⟨tryPop, src, outbuf, c, hpop, hcreate, hpulled⟩ := h
  obtain ⟨c', hcreate', hshows⟩ := exists_created hgst src outbuf (hpop.trans hp) hb
  cases hcreate'.symm.trans hcreate
  rw [← hpulled]
  exact hshows

/-- What a session of `aissrc` has received. -/
def received (calls : List (AisSource.Call Caps)) : List Packet :=
  calls.filterMap AisSource.Call.popped

/-- What its calls returned for that. -/
def pulls (calls : List (AisSource.Call Caps)) : List (AisSource.Pulled Caps) :=
  calls.filterMap fun call => call.popped.map fun _ => call.pulled

theorem shows_pulls (hgst : SetsFixed gst capsIsFixed) {calls : List (AisSource.Call Caps)}
    (h : ∀ call ∈ calls, call.Right gst) {bs : List (Option GstreamerBuffer)}
    (hbs : List.Forall₂ Carries bs (received calls)) :
    List.Forall₂ (Shows gst capsIsFixed) bs (pulls calls) := by
  induction calls generalizing bs with
  | nil =>
    cases hbs
    exact List.Forall₂.nil
  | cons call calls ih =>
    have hright := h call List.mem_cons_self
    have hcalls : ∀ call ∈ calls, call.Right gst := fun c hc => h c (List.mem_cons_of_mem _ hc)
    unfold received at hbs
    unfold pulls
    cases hp : call.popped with
    | none =>
      rw [List.filterMap_cons_none hp] at hbs
      rw [List.filterMap_cons_none (by rw [hp]; rfl)]
      exact ih hcalls hbs
    | some p =>
      rw [List.filterMap_cons_some hp] at hbs
      rw [List.filterMap_cons_some (b := call.pulled) (by rw [hp]; rfl)]
      cases hbs with
      | cons hb hbs => exact List.Forall₂.cons (shows_of_right hgst hright hp hb) (ih hcalls hbs)

end Received

/-! ### Both -/

section Both

variable {Caps T : Type} {gst : GstCalls Caps} {capsIsFixed : Caps → Bool}
  [Message RawImagePacketTypeDescriptor]
  [Message GstreamerBufferPacketTypeDescriptor]
  [LawfulMessage GstreamerBufferPacketTypeDescriptor] [Message ControlSignalPacketTypeDescriptor]
  [LawfulMessage ControlSignalPacketTypeDescriptor] [Message EosValue] [LawfulMessage EosValue]

/-- **What goes into `aissink` comes out of `aissrc`**: of the packets of a session those that
arrive, in the order in which they were sent, are handed out with the bytes and the caps of their
buffers, and the last one as an EOS; if all of them do, so is everything. -/
theorem roundTrip (hgst : SetsFixed gst capsIsFixed) {s : AisSink.State T}
    {r : AisSource.State Caps} (hs : (AisSink.system (T := T)).Reachable s)
    (hstopped : s.stopped = true) (hr : (AisSource.system gst).Reachable r)
    (hreceived : (received r.calls).Sublist (s.rpcs.flatMap Rpc.hands)) :
    ∃ out, out.Sublist (shows s) ∧ List.Forall₂ (Shows gst capsIsFixed) out (pulls r.calls) ∧
      (received r.calls = s.rpcs.flatMap Rpc.hands → out = shows s) := by
  have hhanded := carries_handed hs hstopped
  obtain ⟨out, hout, hcarries⟩ := exists_sublist hhanded hreceived
  refine ⟨out, hout, shows_pulls hgst (AisSource.inv_of_reachable hr).calls hcarries, ?_⟩
  intro hall
  refine hout.eq_of_length ?_
  rw [hcarries.length_eq, hhanded.length_eq, hall]

omit [LawfulMessage ControlSignalPacketTypeDescriptor] [LawfulMessage EosValue] in
/-- A session receives any packets that carry something. -/
theorem exists_received (hgst : SetsFixed gst capsIsFixed) {packets : List Packet}
    {bs : List (Option GstreamerBuffer)} (hbs : List.Forall₂ Carries bs packets)
    {r₀ : AisSource.State Caps} (hr₀ : (AisSource.system gst).Reachable r₀)
    (hconnected : r₀.connected = true) (hcalls : r₀.calls = [])
    (htryPop : r₀.tryPop = fun n _ => packets[n]?) (n : ℕ) (hn : n ≤ packets.length) :
    ∃ r, (AisSource.system gst).Reachable r ∧ r.connected = true ∧
      r.tryPop = r₀.tryPop ∧ r.calls.length = n ∧ received r.calls = packets.take n := by
  induction n with
  | zero =>
    refine ⟨r₀, hr₀, hconnected, rfl, ?_, ?_⟩
    · rw [hcalls]
      rfl
    · rw [hcalls]
      rfl
  | succ n ih =>
    obtain ⟨r, hr, hcon, hpop, hlength, hreceived⟩ := ih (by omega)
    have hnext : r.next = some packets[n] := by
      unfold AisSource.State.next
      rw [hpop, htryPop, hlength]
      exact List.getElem?_eq_getElem hn
    have hb := hbs.get (i := n) (by rw [hbs.length_eq]; exact hn) hn
    obtain ⟨leaked, _, hopen, _⟩ := (AisSource.inv_of_reachable hr).objects
    obtain ⟨o, st, rc, options, status, hpoints, hentries⟩ := hopen hcon
    obtain ⟨c, hcreated, _⟩ := exists_created hgst (r.src.value status) none hnext hb
    obtain ⟨x, heap, own, hrun, _, hx, _⟩ :=
      AisSource.create_spec gst r.tryPop none hpoints r.heap leaked hentries
    rw [hcreated] at hx
    subst hx
    refine ⟨_, hr.step (AisSource.Step.create none hcon hrun), hcon, hpop, ?_, ?_⟩
    · show (r.calls ++ _).length = n + 1
      rw [List.length_append, hlength]
      rfl
    · show received (r.calls ++ [⟨r.next, _⟩]) = _
      unfold received at hreceived ⊢
      rw [List.filterMap_append, hreceived, hnext, List.take_add_one, List.getElem?_eq_getElem hn]
      rfl

end Both

/-- All caps but the empty ones. -/
def nonempty (caps : Bytes) : Bool := !caps.isEmpty

theorem setsFixed_succeedingCalls : SetsFixed succeedingCalls nonempty := rfl

open WireMessages in
/-- A session of one buffer, of which all arrives. -/
theorem roundTrip_keyFrame : ∃ (s : AisSink.State Unit) (r : AisSource.State Bytes),
    shows s = [some ⟨Wire.ofString "image/jpeg", [7]⟩, none] ∧
      List.Forall₂ (Shows succeedingCalls nonempty) (shows s) (pulls r.calls) := by
  obtain ⟨s, hs, hconnected, _, _, hrendered⟩ := AisSink.exists_connected
  obtain ⟨leaked, _, hopen, _⟩ := (AisSink.inv_of_reachable hs).objects
  obtain ⟨o, st, sd, options, status, sender, opening, hpoints, hentries, _⟩ :=
    (hopen hconnected).session
  obtain ⟨x, heap, hstop⟩ := (AisSink.stop_spec hpoints (some ⟨0, 0⟩)).exists_run hentries
  have hstopped := hs.step (AisSink.Step.stop (some ⟨0, 0⟩) hconnected hstop)
  have hhanded := carries_handed hstopped rfl
  have hstarted := (System.Reachable.init (M := AisSource.system succeedingCalls)
    (s := ⟨AisSource.madeSource, .empty, false, 0, 0, fun _ _ => none, []⟩)
    ⟨rfl, rfl, rfl, rfl, rfl⟩).step (AisSource.Step.start (fun _ => okStatus)
      (fun n _ => ((s.rpcs ++ x.2).flatMap Rpc.hands)[n]?) rfl rfl)
  obtain ⟨r, hr, _, _, _, hreceived⟩ :=
    exists_received setsFixed_succeedingCalls hhanded hstarted rfl rfl rfl _ le_rfl
  rw [List.take_length] at hreceived
  obtain ⟨out, _, hshows, hall⟩ := roundTrip setsFixed_succeedingCalls hstopped rfl hr
    (hreceived ▸ List.Sublist.refl _)
  rw [hall hreceived] at hshows
  refine ⟨_, r, ?_, hshows⟩
  show (s.rendered.filterMap shown).map some ++ _ = _
  rw [hrendered]
  rfl

end AisRoundTrip

end AIStreams
