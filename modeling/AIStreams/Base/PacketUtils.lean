import AIStreams.Base.PacketTypes

/-!
# Asking what a packet is

`aistreams/base/util/packet_utils.cc`.

* `isEos_makeEosPacket`: what `MakeEosPacket` makes is an EOS.
* `isEosReason_makeEosPacket`: its reason is the one asked for.
-/

namespace AIStreams

def getPacketTypeId (p : Packet) : PacketTypeId := p.header.type.typeId

def isControlSignal (p : Packet) : Bool := getPacketTypeId p == .controlSignal

section ControlSignal

variable [Message ControlSignalPacketTypeDescriptor]

def getControlSignalTypeId (p : Packet) : StatusOr ControlSignalTypeId :=
  if isControlSignal p = false then
    .ofStatus (invalidArgumentError
      ("Given the non-control signal packet type " ++ (getPacketTypeId p).name))
  else
    match unpackTo (M := ControlSignalPacketTypeDescriptor) p.header.type.typeDescriptor with
    | none =>
      .ofStatus (invalidArgumentError
        "Failed to Unpack the type decriptor as a ControlSignalTypeDescriptor")
    | some desc => .value desc.typeId

/-- `IsEos(p)`. -/
def isEos (p : Packet) : Bool :=
  match getControlSignalTypeId p with
  | .error _ _ => false
  | .value typeId => typeId == .eos

/-- A packet of another type is no EOS. -/
theorem isEos_of_typeId {p : Packet} (h : getPacketTypeId p ≠ .controlSignal) :
    isEos p = false := by
  have hnot : isControlSignal p = false := by simpa [isControlSignal] using h
  rw [isEos, getControlSignalTypeId, if_pos hnot]
  simp [StatusOr.ofStatus]

/-- `IsEos(p, &reason)`: the reason of an EOS that cannot be unpacked is left as it was. -/
def isEosReason [Message EosValue] (p : Packet) (reason : String) : OrFatal (Bool × String) :=
  if isEos p = false then .ok (false, reason)
  else do
    let packetAs ← (PacketAs.adapt p : OrFatal (PacketAs Eos))
    if packetAs.ok = false then .ok (true, reason)
    else
      let eos ← packetAs.valueOrDie
      .ok (true, eos.value.reason)

/-- Asking for the reason of an EOS is never fatal, and does not change the answer. -/
theorem isEosReason_eq [Message EosValue] (p : Packet) (reason : String) :
    ∃ reason', isEosReason p reason = .ok (isEos p, reason') := by
  unfold isEosReason
  by_cases h : isEos p = false
  · rw [if_pos h, h]
    exact ⟨reason, rfl⟩
  · rw [if_neg h, Bool.eq_true_of_not_eq_false h]
    have hadapt : ∃ a : PacketAs Eos, PacketAs.adapt p = .ok a := by
      by_cases hargs : (validateUnpackArgs Eos p).ok = true
      · have hpayload : PacketTypeTraits.unpackPayload .rvalue p (PacketTypeTraits.fresh : Eos) =
            .ok (unpackEos p PacketTypeTraits.fresh) := rfl
        cases hs : (unpackEos p PacketTypeTraits.fresh).1.ok with
        | false => exact ⟨_, by rw [PacketAs.adapt, unpack_of_error hargs hpayload hs]⟩
        | true => exact ⟨_, by rw [PacketAs.adapt, unpack_of_ok hargs hpayload hs]⟩
      · rw [Bool.not_eq_true] at hargs
        exact ⟨_, by rw [PacketAs.adapt, unpack_of_wrong_type hargs]⟩
    obtain ⟨a, ha⟩ := hadapt
    rw [ha, OrFatal.ok_bind]
    cases hok : a.ok with
    | false => exact ⟨reason, rfl⟩
    | true => exact ⟨a.value.value.reason, by simp [PacketAs.valueOrDie, hok, OrFatal.ok_bind]⟩

end ControlSignal

/-- **What `MakeEosPacket` makes is an EOS.** -/
theorem isEos_makeEosPacket [Message ControlSignalPacketTypeDescriptor] [Message EosValue]
    [LawfulMessage ControlSignalPacketTypeDescriptor] [LawfulMessage EosValue] (now : Timestamp)
    (reason : String) : ∃ p, makeEosPacket (some now) reason = .value p ∧ isEos p = true := by
  obtain ⟨p, hp, hmade⟩ := makePacket_eq now .rvalue (⟨⟨reason⟩⟩ : Eos) .default true
  refine ⟨p, hp, ?_⟩
  have htype : isControlSignal p = true := by
    rw [isControlSignal, getPacketTypeId, hmade.typeId]
    rfl
  obtain ⟨any, hany⟩ := hmade.descriptor
  have hunpack : unpackTo p.header.type.typeDescriptor =
      some (⟨.eos⟩ : ControlSignalPacketTypeDescriptor) := by
    rw [hany]
    exact LawfulMessage.unpackTo_packFrom _
  have hid : getControlSignalTypeId p = .value .eos := by
    rw [getControlSignalTypeId, if_neg (by simp [htype]), hunpack]
  rw [isEos, hid]
  rfl

/-- Without a clock there is no EOS packet. -/
theorem makeEosPacket_now [Message ControlSignalPacketTypeDescriptor] [Message EosValue]
    {now : Option Timestamp} {reason : String} {p : Packet}
    (h : makeEosPacket now reason = .value p) : now ≠ none := by
  rintro rfl
  rw [makeEosPacket, makePacket] at h
  simp only [setToCurrentTime, if_true] at h
  split at h
  · exact absurd h (StatusOr.ofStatus_ne_value _ p)
  · exact absurd h (StatusOr.ofStatus_ne_value _ p)

theorem isEos_of_makeEosPacket [Message ControlSignalPacketTypeDescriptor] [Message EosValue]
    [LawfulMessage ControlSignalPacketTypeDescriptor] [LawfulMessage EosValue]
    {now : Option Timestamp} {reason : String} {p : Packet}
    (h : makeEosPacket now reason = .value p) : isEos p = true := by
  obtain ⟨ts, rfl⟩ := Option.ne_none_iff_exists'.mp (makeEosPacket_now h)
  obtain ⟨p', hp', heos⟩ := isEos_makeEosPacket ts reason
  obtain rfl := StatusOr.value.inj (hp'.symm.trans h)
  exact heos

/-- **The reason of an EOS** is the one that it was made with. -/
theorem isEosReason_makeEosPacket [Message ControlSignalPacketTypeDescriptor] [Message EosValue]
    [LawfulMessage ControlSignalPacketTypeDescriptor] [LawfulMessage EosValue]
    {now : Option Timestamp} {reason : String} {p : Packet}
    (h : makeEosPacket now reason = .value p) (reason' : String) :
    isEosReason p reason' = .ok (true, reason) := by
  obtain ⟨ts, rfl⟩ := Option.ne_none_iff_exists'.mp (makeEosPacket_now h)
  obtain ⟨p', hp', hmade⟩ := makePacket_eq ts .rvalue (⟨⟨reason⟩⟩ : Eos) .default true
  obtain ⟨p'', hp'', heos⟩ := isEos_makeEosPacket ts reason
  cases hp'.symm.trans h
  cases h.symm.trans hp''
  obtain ⟨a, ha, hok, hvalue, _⟩ := adapt_of_madeFrom hmade
  simp [isEosReason, heos, ha, OrFatal.ok_bind, hok, hvalue]

end AIStreams
