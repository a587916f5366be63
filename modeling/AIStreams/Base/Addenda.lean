import AIStreams.Base.Messages
import AIStreams.Base.Packet
import AIStreams.Text.Printed

/-!
# Addenda

The addenda of a packet, `aistreams/base/util/packet_utils.cc`: strings and messages under keys,
each wrapped in an `Any`.  A string is a `google.protobuf.Value`, so that strings and messages meet
under one key.

* `opAgrees`: one operation does to the packet what it does to a write-once map of typed values.
* `agrees_writeOnce`: so does every sequence of operations, on every packet.
-/

namespace AIStreams

/-! ### The functions -/

/-- `google.protobuf.Value`.  The messages of a struct and of a list are kept as their bytes, and
a number as its bits: nothing looks into them. -/
inductive ProtoValue
  | notSet
  | nullValue (value : Int32)
  | numberValue (bits : UInt64)
  | stringValue (value : String)
  | boolValue (value : Bool)
  | structValue (bytes : Bytes)
  | listValue (bytes : Bytes)
  deriving DecidableEq

/-- `string_value()` of a value whose `kind_case()` is `kStringValue`. -/
def ProtoValue.string? : ProtoValue → Option String
  | .stringValue value => some value
  | _ => none

abbrev AddendaMap := Finmap fun _ : String => ProtoAny

def Packet.setAddenda (p : Packet) (addenda : AddendaMap) : Packet :=
  { p with header.addenda := addenda }

def insertAddendum (key : String) (value : ProtoAny) (p : Packet) : Status × Packet :=
  if (p.header.addenda.lookup key).isSome then
    (invalidArgumentError ("An addendum with key \"" ++ key ++ "\" already exists"), p)
  else (okStatus, p.setAddenda (p.header.addenda.insert key value))

def getAddendum (p : Packet) (key : String) : Except Status ProtoAny :=
  match p.header.addenda.lookup key with
  | none =>
    .error (invalidArgumentError ("Failed to find an addendum for key \"" ++ key ++ "\""))
  | some any => .ok any

def insertProtoAddendum {M : Type} [Message M] (key : String) (value : M) (p : Packet) :
    Status × Packet :=
  insertAddendum key (packFrom value) p

def insertStringAddendum [Message ProtoValue] (key value : String) (p : Packet) :
    Status × Packet :=
  insertProtoAddendum key (ProtoValue.stringValue value) p

/-- What `m` holds after a failed `UnpackTo` is not kept. -/
def getProtoAddendum (M : Type) [Message M] (p : Packet) (key : String) : Except Status M :=
  match getAddendum p key with
  | .error status => .error status
  | .ok any =>
    match unpackTo any with
    | none =>
      .error (unknownError ("Could not unpack the addendum for key \"" ++ key ++ "\" as a " ++
        Message.getTypeName M))
    | some m => .ok m

def getStringAddendum [Message ProtoValue] (p : Packet) (key s : String) : Status × String :=
  match getProtoAddendum ProtoValue p key with
  | .error status => (status, s)
  | .ok v =>
    match v.string? with
    | none =>
      (invalidArgumentError ("Key \"" ++ key ++ "\" does not contain a string value"), s)
    | some value => (okStatus, value)

def deleteAddendum (key : String) (p : Packet) : Status × Packet :=
  (okStatus, p.setAddenda (p.header.addenda.erase key))

namespace Addenda

/-! ### Operations -/

section Operations

variable {ι : Type} (M : ι → Type)

/-- The message types: `google.protobuf.Value`, and any others. -/
def MessageOf : Option ι → Type
  | none => ProtoValue
  | some i => M i

/-- A message with its type. -/
abbrev Typed := Σ k, MessageOf M k

/-- The calls, with what the string holds that a get is to fill. -/
inductive Op
  | insertString (key value : String)
  | insertProto (key : String) (value : Typed M)
  | delete (key : String)
  | getString (key s : String)
  | getProto (key : String) (k : Option ι)

/-- What a call tells its caller. -/
inductive Answer
  | status (ok : Bool)
  | string (ok : Bool) (s : String)
  | message (value : Option (Typed M))

variable {M}

def Op.key : Op M → String
  | .insertString key _ => key
  | .insertProto key _ => key
  | .delete key => key
  | .getString key _ => key
  | .getProto key _ => key

variable [Message ProtoValue] [∀ i, Message (M i)]

instance : (k : Option ι) → Message (MessageOf M k)
  | none => inferInstanceAs (Message ProtoValue)
  | some i => inferInstanceAs (Message (M i))

/-- What a call answers. -/
def answer (p : Packet) : Op M → Answer M
  | .insertString key value => .status (insertStringAddendum key value p).1.ok
  | .insertProto key value => .status (insertProtoAddendum key value.2 p).1.ok
  | .delete key => .status (deleteAddendum key p).1.ok
  | .getString key s => .string (getStringAddendum p key s).1.ok (getStringAddendum p key s).2
  | .getProto key k =>
    match getProtoAddendum (MessageOf M k) p key with
    | .error _ => .message none
    | .ok m => .message (some ⟨k, m⟩)

/-- The packet that a call leaves. -/
def effect (p : Packet) : Op M → Packet
  | .insertString key value => (insertStringAddendum key value p).2
  | .insertProto key value => (insertProtoAddendum key value.2 p).2
  | .delete key => (deleteAddendum key p).2
  | .getString _ _ => p
  | .getProto _ _ => p

end Operations

/-! ### The map -/

section Entries

variable {ι : Type} (M : ι → Type)

/-- A map from keys to typed values.  An addendum that is of none of the types has no value. -/
abbrev Entries := String → Option (Option (Typed M))

variable {M}

/-- The string of a typed value. -/
def Typed.string? : Typed M → Option String
  | ⟨none, v⟩ => ProtoValue.string? v
  | ⟨some _, _⟩ => none

namespace Entries

variable (entries : Entries M)

/-- A key is written once. -/
def insert (key : String) (value : Typed M) : Entries M :=
  if (entries key).isSome then entries else Function.update entries key (some (some value))

/-- What a call should answer. -/
def answer [DecidableEq ι] : Op M → Answer M
  | .insertString key _ => .status (entries key).isNone
  | .insertProto key _ => .status (entries key).isNone
  | .delete _ => .status true
  | .getString key s =>
    match (entries key).join.bind Typed.string? with
    | none => .string false s
    | some value => .string true value
  | .getProto key k => .message ((entries key).join.filter fun value => value.1 = k)

/-- What a call should do to the map. -/
def effect : Op M → Entries M
  | .insertString key value => entries.insert key ⟨none, ProtoValue.stringValue value⟩
  | .insertProto key value => entries.insert key value
  | .delete key => Function.update entries key none
  | .getString _ _ => entries
  | .getProto _ _ => entries

end Entries

end Entries

/-! ### The map that a packet holds -/

section Runtime

variable {ι : Type} (M : ι → Type) [Message ProtoValue] [∀ i, Message (M i)]

/-- What the protobuf runtime promises of an `Any`: a message that is packed unpacks, and an `Any`
unpacks as one type at most. -/
class AnyOfOneType : Prop where
  unpackTo_packFrom : ∀ (k : Option ι) (m : MessageOf M k), unpackTo (packFrom m) = some m
  one_type : ∀ (any : ProtoAny) (value value' : Typed M), unpackTo any = some value.2 →
    unpackTo any = some value'.2 → value.1 = value'.1

variable {M}

open Classical in
/-- The typed value that an `Any` holds. -/
noncomputable def typedOf (any : ProtoAny) : Option (Typed M) :=
  if h : ∃ value : Typed M, unpackTo any = some value.2 then some h.choose else none

/-- The map that the addenda of a packet make. -/
noncomputable def entriesOf (p : Packet) : Entries M :=
  fun key => (p.header.addenda.lookup key).map typedOf

variable [AnyOfOneType M]

theorem typedOf_eq_some {any : ProtoAny} {value : Typed M} :
    typedOf any = some value ↔ unpackTo any = some value.2 := by
  unfold typedOf
  constructor
  · intro h
    split at h
    · rename_i hex
      rw [← Option.some.inj h]
      exact hex.choose_spec
    · cases h
  · intro h
    have hex : ∃ value : Typed M, unpackTo any = some value.2 := ⟨value, h⟩
    rw [dif_pos hex]
    have hchosen := hex.choose_spec
    have htype := AnyOfOneType.one_type any _ _ hchosen h
    generalize hex.choose = chosen at hchosen htype
    obtain ⟨k, m⟩ := chosen
    obtain ⟨k', m'⟩ := value
    cases htype
    have hm : some m = some m' := hchosen.symm.trans h
    rw [Option.some.inj hm]

theorem typedOf_packFrom (value : Typed M) : typedOf (packFrom value.2) = some value :=
  typedOf_eq_some.mpr (AnyOfOneType.unpackTo_packFrom value.1 value.2)

/-- Unpacking as one type is looking at the typed value. -/
theorem unpackTo_eq [DecidableEq ι] (any : ProtoAny) (k : Option ι) :
    ((unpackTo any : Option (MessageOf M k)).map fun m => (⟨k, m⟩ : Typed M)) =
      (typedOf any).filter fun value => value.1 = k := by
  cases hunpack : (unpackTo any : Option (MessageOf M k)) with
  | some m =>
    have htyped : typedOf any = some (⟨k, m⟩ : Typed M) := typedOf_eq_some.mpr hunpack
    rw [htyped]
    simp [Option.filter]
  | none =>
    cases htyped : (typedOf any : Option (Typed M)) with
    | none => rfl
    | some value =>
      have hvalue := typedOf_eq_some.mp htyped
      have hne : value.1 ≠ k := by
        rintro rfl
        rw [hunpack] at hvalue
        cases hvalue
      simp [Option.filter, hne]

/-- The string of an `Any` is that of its typed value. -/
theorem string?_eq (any : ProtoAny) :
    (unpackTo any : Option ProtoValue).bind ProtoValue.string? =
      (typedOf any : Option (Typed M)).bind Typed.string? := by
  cases hunpack : (unpackTo any : Option ProtoValue) with
  | some v =>
    have htyped : typedOf any = some (⟨none, v⟩ : Typed M) := typedOf_eq_some.mpr hunpack
    rw [htyped]
    rfl
  | none =>
    cases htyped : (typedOf any : Option (Typed M)) with
    | none => rfl
    | some value =>
      have hvalue := typedOf_eq_some.mp htyped
      obtain ⟨_ | i, m⟩ := value
      · cases hunpack.symm.trans hvalue
      · rfl

/-! ### One call -/

/-- A call does to the packet what it should do to the map, answers as it should, and leaves
everything else alone: the other keys, the rest of the packet, and all of it if it does not
write. -/
structure OpAgrees [DecidableEq ι] (p : Packet) (entries : Entries M) (op : Op M) : Prop where
  answer : answer p op = entries.answer op
  map : entriesOf (effect p op) = entries.effect op
  others : ∀ key, key ≠ op.key →
    (effect p op).header.addenda.lookup key = p.header.addenda.lookup key
  frame : effect p op = p.setAddenda (effect p op).header.addenda
  unchanged : Addenda.answer p op ≠ .status true → effect p op = p

omit [AnyOfOneType M] in
theorem isSome_entriesOf (p : Packet) (key : String) :
    ((entriesOf p : Entries M) key).isSome = (p.header.addenda.lookup key).isSome := by
  rw [entriesOf, Option.isSome_map]

section

variable {p : Packet} {key : String}

omit [AnyOfOneType M] in
theorem entriesOf_of_none (h : p.header.addenda.lookup key = none) :
    (entriesOf p : Entries M) key = none := by
  rw [entriesOf, h]
  rfl

omit [AnyOfOneType M] in
theorem entriesOf_of_some {any : ProtoAny} (h : p.header.addenda.lookup key = some any) :
    (entriesOf p : Entries M) key = some (typedOf any) := by
  rw [entriesOf, h]
  rfl

end

/-- What an insertion does to the map, whichever kind it is. -/
theorem entriesOf_insertAddendum (p : Packet) (key : String) (value : Typed M) :
    entriesOf (insertAddendum key (packFrom value.2) p).2 = (entriesOf p).insert key value := by
  unfold insertAddendum Entries.insert
  rw [isSome_entriesOf]
  split
  · rfl
  · funext key'
    show ((p.header.addenda.insert key (packFrom value.2)).lookup key').map typedOf = _
    by_cases hkey : key' = key
    · subst hkey
      rw [Finmap.lookup_insert, Function.update_self, Option.map_some, typedOf_packFrom]
    · rw [Finmap.lookup_insert_of_ne _ hkey, Function.update_of_ne hkey]
      rfl

theorem opAgrees_insert [DecidableEq ι] (p : Packet) (key : String) (value : Typed M) :
    OpAgrees p (entriesOf p) (.insertProto key value) where
  answer := by
    show Answer.status (insertAddendum key (packFrom value.2) p).1.ok = .status _
    rw [← Option.not_isSome, isSome_entriesOf]
    unfold insertAddendum
    split
    · rename_i h
      rw [h]
      rfl
    · rename_i h
      rw [Bool.eq_false_iff.mpr h]
      rfl
  map := entriesOf_insertAddendum p key value
  others := by
    intro key' hkey
    show (insertAddendum key (packFrom value.2) p).2.header.addenda.lookup key' = _
    unfold insertAddendum
    split
    · rfl
    · exact Finmap.lookup_insert_of_ne _ hkey
  frame := by
    show (insertAddendum key (packFrom value.2) p).2 =
      p.setAddenda (insertAddendum key (packFrom value.2) p).2.header.addenda
    unfold insertAddendum
    split <;> rfl
  unchanged := by
    show Answer.status (insertAddendum key (packFrom value.2) p).1.ok ≠ _ →
      (insertAddendum key (packFrom value.2) p).2 = p
    unfold insertAddendum
    split
    · exact fun _ => rfl
    · exact fun h => absurd rfl h

omit [AnyOfOneType M] in
theorem opAgrees_delete [DecidableEq ι] (p : Packet) (key : String) :
    OpAgrees p (entriesOf p : Entries M) (.delete key) where
  answer := rfl
  map := by
    funext key'
    show ((p.header.addenda.erase key).lookup key').map typedOf =
      Function.update (entriesOf p) key none key'
    by_cases hkey : key' = key
    · subst hkey
      rw [Finmap.lookup_erase, Function.update_self]
      rfl
    · rw [Finmap.lookup_erase_ne hkey, Function.update_of_ne hkey]
      rfl
  others := fun _ hkey => Finmap.lookup_erase_ne hkey
  frame := rfl
  unchanged := fun h => absurd rfl h

theorem answer_getString [DecidableEq ι] (p : Packet) (key s : String) :
    answer p (.getString key s : Op M) = (entriesOf p).answer (.getString key s) := by
  show Answer.string (getStringAddendum p key s).1.ok (getStringAddendum p key s).2 =
    match (entriesOf p key : Option (Option (Typed M))).join.bind Typed.string? with
    | none => .string false s
    | some value => .string true value
  unfold getStringAddendum getProtoAddendum getAddendum
  cases hlookup : p.header.addenda.lookup key with
  | none =>
    rw [entriesOf_of_none hlookup]
    rfl
  | some any =>
    rw [entriesOf_of_some hlookup, Option.join_some, ← string?_eq]
    dsimp only
    cases (unpackTo any : Option ProtoValue) with
    | none => rfl
    | some v =>
      rw [Option.bind_some]
      dsimp only
      cases v.string? with
      | none => rfl
      | some value => rfl

theorem answer_getProto [DecidableEq ι] (p : Packet) (key : String) (k : Option ι) :
    answer p (.getProto key k : Op M) = (entriesOf p).answer (.getProto key k) := by
  show (match getProtoAddendum (MessageOf M k) p key with
      | .error _ => Answer.message none
      | .ok m => .message (some ⟨k, m⟩)) =
    .message ((entriesOf p key : Option (Option (Typed M))).join.filter fun value => value.1 = k)
  unfold getProtoAddendum getAddendum
  cases hlookup : p.header.addenda.lookup key with
  | none =>
    rw [entriesOf_of_none hlookup]
    rfl
  | some any =>
    rw [entriesOf_of_some hlookup, Option.join_some, ← unpackTo_eq]
    dsimp only
    cases (unpackTo any : Option (MessageOf M k)) with
    | none => rfl
    | some m => rfl

/-- **Every call agrees with the map that the packet holds.** -/
theorem opAgrees [DecidableEq ι] (p : Packet) (op : Op M) : OpAgrees p (entriesOf p) op := by
  cases op with
  | insertString key value =>
    have h := opAgrees_insert p key (⟨none, ProtoValue.stringValue value⟩ : Typed M)
    exact ⟨h.answer, h.map, h.others, h.frame, h.unchanged⟩
  | insertProto key value => exact opAgrees_insert p key value
  | delete key => exact opAgrees_delete p key
  | getString key s => exact ⟨answer_getString p key s, rfl, fun _ _ => rfl, rfl, fun _ => rfl⟩
  | getProto key k => exact ⟨answer_getProto p key k, rfl, fun _ _ => rfl, rfl, fun _ => rfl⟩

/-! ### Every sequence of calls -/

/-- Every call of the sequence agrees with the map, each where the ones before have left both. -/
def Agrees [DecidableEq ι] : Packet → Entries M → List (Op M) → Prop
  | _, _, [] => True
  | p, entries, op :: ops => OpAgrees p entries op ∧ Agrees (effect p op) (entries.effect op) ops

/-- **Addenda are a write-once map** of typed values, over every sequence of calls, whatever the
addenda of the packet are at first. -/
theorem agrees_writeOnce [DecidableEq ι] (p : Packet) (ops : List (Op M)) :
    Agrees p (entriesOf p) ops := by
  induction ops generalizing p with
  | nil => trivial
  | cons op ops ih =>
    have hop := opAgrees p op
    refine ⟨hop, ?_⟩
    rw [← hop.map]
    exact ih (effect p op)

end Runtime

/-! ### A string and a message under one key -/

section Wire

open Wire

/-- A URL names one type only. -/
theorem fullName_eq_of_isUrlOf {M M' : Type} {s : Schema M} {s' : Schema M'} {url : String}
    (hs : '/' ∉ s.fullName.toList) (hs' : '/' ∉ s'.fullName.toList) (h : s.isUrlOf url = true)
    (h' : s'.isUrlOf url = true) : s.fullName = s'.fullName := by
  obtain ⟨front, hfront⟩ := List.isSuffixOf_iff_suffix.mp h
  obtain ⟨front', hfront'⟩ := List.isSuffixOf_iff_suffix.mp h'
  have heq := congrArg List.reverse (hfront.trans hfront'.symm)
  simp only [List.reverse_append, List.reverse_cons, List.append_assoc,
    List.singleton_append] at heq
  have hname := (Text.append_cons_inj_of_not_mem (fun hmem => hs (List.mem_reverse.mp hmem))
    (fun hmem => hs' (List.mem_reverse.mp hmem)) heq).1
  exact String.toList_injective (List.reverse_injective hname)

theorem isUrlOf_of_unpackTo {M : Type} {s : Schema M} {any : ProtoAny} {m : M}
    (h : s.message.unpackTo any = some m) : s.isUrlOf any.typeUrl = true := by
  by_contra hurl
  have hnone : s.message.unpackTo any = none := if_neg hurl
  cases hnone.symm.trans h

/-- The kind that a field sets. -/
def kindOf (f : Field) : Option ProtoValue :=
  match f.number, f.value with
  | 1, .varint n => some (.nullValue (toInt32 n))
  | 2, .varint n => some (.numberValue (UInt64.ofNat n))
  | 3, .bytes b => (toString? b).map .stringValue
  | 4, .varint n => some (.boolValue (n != 0))
  | 5, .bytes b => some (.structValue b)
  | 6, .bytes b => some (.listValue b)
  | _, _ => none

def kindFields : ProtoValue → List Field
  | .notSet => []
  | .nullValue value => [⟨1, .varint (ofInt32 value)⟩]
  | .numberValue bits => [⟨2, .varint bits.toNat⟩]
  | .stringValue value => [⟨3, .bytes (ofString value)⟩]
  | .boolValue value => [⟨4, .varint (if value then 1 else 0)⟩]
  | .structValue bytes => [⟨5, .bytes bytes⟩]
  | .listValue bytes => [⟨6, .bytes bytes⟩]

/-- `google.protobuf.Value` on the wire, except that a number is written as a varint. -/
def protoValue : Schema ProtoValue where
  fullName := "google.protobuf.Value"
  default := .notSet
  toFields := kindFields
  ofFields fields := some ((fields.filterMap kindOf).getLast?.getD .notSet)
  ofFields_toFields v := by
    cases v with
    | boolValue value => cases value <;> rfl
    | _ => simp [kindFields, kindOf, toInt32_ofInt32, toString?_ofString]

scoped instance : Message ProtoValue := protoValue.message

open WireMessages

scoped instance : AnyOfOneType fun _ : Unit => EosValue where
  unpackTo_packFrom k m := by
    cases k with
    | none => exact protoValue.lawful.unpackTo_packFrom m
    | some _ => exact eosValue.lawful.unpackTo_packFrom m
  one_type any value value' h h' := by
    have hnames : protoValue.isUrlOf any.typeUrl = true → eosValue.isUrlOf any.typeUrl = true →
        False := by
      intro hv he
      have hname := fullName_eq_of_isUrlOf (by decide) (by decide) hv he
      revert hname
      decide
    obtain ⟨_ | _, m⟩ := value
    · obtain ⟨_ | _, m'⟩ := value'
      · rfl
      · exact (hnames (isUrlOf_of_unpackTo h) (isUrlOf_of_unpackTo h')).elim
    · obtain ⟨_ | _, m'⟩ := value'
      · exact (hnames (isUrlOf_of_unpackTo h') (isUrlOf_of_unpackTo h)).elim
      · rfl

/-- A string, and then a message under its key, which is refused until the string is gone. -/
theorem agrees_writeOnce_oneKey : Agrees (M := fun _ : Unit => EosValue) Packet.default
    (entriesOf Packet.default)
    [.insertString "k" "v", .insertProto "k" ⟨some (), (⟨"end"⟩ : EosValue)⟩, .getString "k" "",
      .delete "k", .insertProto "k" ⟨some (), (⟨"end"⟩ : EosValue)⟩, .getString "k" "",
      .getProto "k" (some ())] :=
  agrees_writeOnce Packet.default _

end Wire

end Addenda

end AIStreams
