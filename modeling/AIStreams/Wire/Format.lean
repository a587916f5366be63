import Mathlib.Algebra.Group.Int.Defs
import Mathlib.Algebra.Group.Nat.Defs

/-!
# The tagged wire format

A message on the wire is a sequence of fields, each a number with a value, which is a
varint or a string of bytes with its length in front.  A message type says which fields it
writes and how it reads them back (`Schema`).

* `decodeVarint_encodeVarint`: a varint reads back, with what follows it untouched.
* `decode_encode`: a sequence of fields reads back.
* `readInt32`, `readBytes`: what a reader takes for the fields that `int32Field` and
  `bytesField` write.
* `Schema.parse_serialize`: a message reads back, if its fields do.
-/

namespace AIStreams.Wire

universe u

/-! ### Varints -/

/-- At most `fuel` groups of seven bits, the lowest first; all but the last have the high
bit set. -/
def putVarint : ℕ → ℕ → List UInt8
  | 0, _ => []
  | fuel + 1, n =>
    if n < 128 then [n.toUInt8] else (128 + n % 128).toUInt8 :: putVarint fuel (n / 128)

def encodeVarint (n : ℕ) : List UInt8 := putVarint (n + 1) n

def decodeVarint : List UInt8 → Option (ℕ × List UInt8)
  | [] => none
  | b :: bytes =>
    if b.toNat < 128 then some (b.toNat, bytes)
    else
      match decodeVarint bytes with
      | none => none
      | some (n, rest) => some (b.toNat % 128 + 128 * n, rest)

theorem toNat_toUInt8_of_lt {n : ℕ} (h : n < 256) : n.toUInt8.toNat = n := by
  rw [UInt8.toNat_ofNat']
  omega

theorem decodeVarint_putVarint (rest : List UInt8) : ∀ (fuel n : ℕ), n < fuel →
    decodeVarint (putVarint fuel n ++ rest) = some (n, rest) := by
  intro fuel
  induction fuel with
  | zero =>
    intro n h
    omega
  | succ fuel ih =>
    intro n h
    by_cases hn : n < 128
    · have hb : n.toUInt8.toNat = n := toNat_toUInt8_of_lt (by omega)
      rw [putVarint, if_pos hn, List.singleton_append, decodeVarint, hb, if_pos hn]
    · have hb : (128 + n % 128).toUInt8.toNat = 128 + n % 128 := toNat_toUInt8_of_lt (by omega)
      rw [putVarint, if_neg hn, List.cons_append, decodeVarint, hb, if_neg (by omega),
        ih (n / 128) (by omega)]
      show some _ = some _
      rw [show (128 + n % 128) % 128 + 128 * (n / 128) = n by omega]

theorem decodeVarint_encodeVarint (n : ℕ) (rest : List UInt8) :
    decodeVarint (encodeVarint n ++ rest) = some (n, rest) :=
  decodeVarint_putVarint rest (n + 1) n (Nat.lt_succ_self n)

theorem encodeVarint_ne_nil (n : ℕ) : encodeVarint n ≠ [] := by
  unfold encodeVarint putVarint
  split <;> simp

/-! ### Fields -/

inductive Value
  | varint (n : ℕ)
  | bytes (b : List UInt8)
  deriving DecidableEq

structure Field where
  number : ℕ
  value : Value
  deriving DecidableEq

def Value.wireType : Value → ℕ
  | .varint _ => 0
  | .bytes _ => 2

def Value.encode : Value → List UInt8
  | .varint n => encodeVarint n
  | .bytes b => encodeVarint b.length ++ b

def Field.encode (f : Field) : List UInt8 :=
  encodeVarint (8 * f.number + f.value.wireType) ++ f.value.encode

/-- The value after a tag of the given wire type. -/
def decodeValue (wireType : ℕ) (bytes : List UInt8) : Option (Value × List UInt8) :=
  match decodeVarint bytes with
  | none => none
  | some (n, rest) =>
    if wireType = 0 then some (.varint n, rest)
    else if wireType = 2 ∧ n ≤ rest.length then some (.bytes (rest.take n), rest.drop n)
    else none

def decodeField (bytes : List UInt8) : Option (Field × List UInt8) :=
  match decodeVarint bytes with
  | none => none
  | some (tag, rest) =>
    match decodeValue (tag % 8) rest with
    | none => none
    | some (value, rest) => some (⟨tag / 8, value⟩, rest)

/-- All the fields, with fuel for at most that many. -/
def decodeFields : ℕ → List UInt8 → Option (List Field)
  | _, [] => some []
  | 0, _ :: _ => none
  | fuel + 1, b :: bytes =>
    match decodeField (b :: bytes) with
    | none => none
    | some (f, rest) => (decodeFields fuel rest).map (f :: ·)

def encode (fields : List Field) : List UInt8 := fields.flatMap Field.encode

/-- A field takes at least one byte, so the length is fuel enough. -/
def decode (bytes : List UInt8) : Option (List Field) := decodeFields bytes.length bytes

theorem decodeValue_encode (v : Value) (rest : List UInt8) :
    decodeValue v.wireType (v.encode ++ rest) = some (v, rest) := by
  unfold decodeValue
  cases v with
  | varint n =>
    rw [Value.encode, decodeVarint_encodeVarint]
    rfl
  | bytes b =>
    rw [Value.encode, List.append_assoc, decodeVarint_encodeVarint]
    have hlen : b.length ≤ (b ++ rest).length := by
      rw [List.length_append]
      omega
    simp only [Value.wireType, hlen, and_true, if_true, List.take_left, List.drop_left]
    rfl

theorem decodeField_encode (f : Field) (rest : List UInt8) :
    decodeField (f.encode ++ rest) = some (f, rest) := by
  obtain ⟨number, v⟩ := f
  have hlt : v.wireType < 8 := by
    cases v <;> simp only [Value.wireType] <;> omega
  unfold decodeField
  rw [Field.encode, List.append_assoc, decodeVarint_encodeVarint]
  simp only [show (8 * number + v.wireType) % 8 = v.wireType by omega, decodeValue_encode,
    show (8 * number + v.wireType) / 8 = number by omega]

theorem encode_ne_nil (f : Field) : f.encode ≠ [] := by
  unfold Field.encode
  exact fun h => encodeVarint_ne_nil _ (List.append_eq_nil_iff.mp h).1

theorem decodeFields_encode : ∀ (fields : List Field) (fuel : ℕ), fields.length ≤ fuel →
    decodeFields fuel (encode fields) = some fields := by
  intro fields
  induction fields with
  | nil =>
    intro fuel _
    cases fuel <;> rfl
  | cons f fields ih =>
    intro fuel hfuel
    obtain ⟨b, bytes, hb⟩ := List.exists_cons_of_ne_nil (encode_ne_nil f)
    have hcons : encode (f :: fields) = b :: (bytes ++ encode fields) := by
      rw [encode, List.flatMap_cons, hb]
      rfl
    have hfield : decodeField (b :: (bytes ++ encode fields)) = some (f, encode fields) := by
      have := decodeField_encode f (encode fields)
      rwa [hb] at this
    cases fuel with
    | zero => simp at hfuel
    | succ fuel =>
      rw [List.length_cons] at hfuel
      rw [hcons, decodeFields, hfield]
      show (decodeFields fuel (encode fields)).map (f :: ·) = _
      rw [ih fuel (by omega)]
      rfl

theorem length_le_encode (fields : List Field) : fields.length ≤ (encode fields).length := by
  induction fields with
  | nil => exact Nat.le_refl 0
  | cons f fields ih =>
    have hpos : 0 < f.encode.length := List.length_pos_iff.mpr (encode_ne_nil f)
    have hlen : (encode (f :: fields)).length = f.encode.length + (encode fields).length := by
      rw [encode, List.flatMap_cons, List.length_append]
      rfl
    rw [List.length_cons, hlen]
    omega

/-- **A sequence of fields reads back.** -/
theorem decode_encode (fields : List Field) : decode (encode fields) = some fields :=
  decodeFields_encode fields _ (length_le_encode fields)

/-! ### Fields of a message -/

def varintOf (number : ℕ) (f : Field) : Option ℕ :=
  match f.value with
  | .varint n => if f.number = number then some n else none
  | .bytes _ => none

def bytesOf (number : ℕ) (f : Field) : Option (List UInt8) :=
  match f.value with
  | .varint _ => none
  | .bytes b => if f.number = number then some b else none

/-- A field that is repeated overrides itself. -/
def lastVarint (number : ℕ) (fields : List Field) : Option ℕ :=
  (fields.filterMap (varintOf number)).getLast?

def lastBytes (number : ℕ) (fields : List Field) : Option (List UInt8) :=
  (fields.filterMap (bytesOf number)).getLast?

@[simp] theorem lastVarint_append (number : ℕ) (fields fields' : List Field) :
    lastVarint number (fields ++ fields') =
      (lastVarint number fields').or (lastVarint number fields) := by
  rw [lastVarint, List.filterMap_append, List.getLast?_append]
  rfl

@[simp] theorem lastBytes_append (number : ℕ) (fields fields' : List Field) :
    lastBytes number (fields ++ fields') =
      (lastBytes number fields').or (lastBytes number fields) := by
  rw [lastBytes, List.filterMap_append, List.getLast?_append]
  rfl

/-- A 32-bit integer is written sign-extended to 64 bits. -/
def ofInt32 (i : Int32) : ℕ := (i.toInt % 2 ^ 64).toNat

def toInt32 (n : ℕ) : Int32 := Int32.ofInt n

theorem toInt32_ofInt32 (i : Int32) : toInt32 (ofInt32 i) = i := by
  apply Int32.toInt_inj.mp
  have hlt := i.toInt_lt
  have hle := i.le_toInt
  have hnat : ((ofInt32 i : ℕ) : ℤ) = i.toInt % 2 ^ 64 := by
    unfold ofInt32
    omega
  rw [toInt32, Int32.toInt_ofInt, hnat]
  simp only [Int32.size, Int.bmod]
  omega

def ofString (s : String) : List UInt8 := s.toByteArray.data.toList

def toString? (bytes : List UInt8) : Option String := String.fromUTF8? ⟨bytes.toArray⟩

theorem toString?_ofString (s : String) : toString? (ofString s) = some s := by
  have harr : (⟨(ofString s).toArray⟩ : ByteArray) = s.toByteArray := by
    rw [ofString, Array.toArray_toList]
  rw [toString?, harr, String.fromUTF8?, dif_pos s.isValidUTF8]
  rfl

theorem ofString_injective {s s' : String} (h : ofString s = ofString s') : s = s' := by
  have hs := toString?_ofString s
  rw [h, toString?_ofString s'] at hs
  exact (Option.some.inj hs).symm

/-- A number that is zero is not written. -/
def int32Field (number : ℕ) (i : Int32) : List Field :=
  if i = 0 then [] else [⟨number, .varint (ofInt32 i)⟩]

def readInt32 (number : ℕ) (fields : List Field) : Int32 :=
  ((lastVarint number fields).map toInt32).getD 0

/-- A string of bytes that is empty is not written. -/
def bytesField (number : ℕ) (b : List UInt8) : List Field :=
  if b = [] then [] else [⟨number, .bytes b⟩]

def readBytes (number : ℕ) (fields : List Field) : List UInt8 := (lastBytes number fields).getD []

@[simp] theorem lastVarint_int32Field (number : ℕ) (i : Int32) :
    ((lastVarint number (int32Field number i)).map toInt32).getD 0 = i := by
  unfold int32Field
  by_cases h : i = 0
  · rw [if_pos h, h]
    rfl
  · rw [if_neg h]
    simp [lastVarint, varintOf, toInt32_ofInt32]

theorem lastVarint_int32Field_of_ne {number number' : ℕ} (h : number' ≠ number) (i : Int32) :
    lastVarint number (int32Field number' i) = none := by
  unfold int32Field
  split <;> simp [lastVarint, varintOf, h]

@[simp] theorem lastVarint_bytesField (number number' : ℕ) (b : List UInt8) :
    lastVarint number (bytesField number' b) = none := by
  unfold bytesField
  split <;> simp [lastVarint, varintOf]

@[simp] theorem lastBytes_int32Field (number number' : ℕ) (i : Int32) :
    lastBytes number (int32Field number' i) = none := by
  unfold int32Field
  split <;> simp [lastBytes, bytesOf]

@[simp] theorem lastBytes_bytesField (number : ℕ) (b : List UInt8) :
    (lastBytes number (bytesField number b)).getD [] = b := by
  unfold bytesField
  by_cases h : b = []
  · rw [if_pos h, h]
    rfl
  · rw [if_neg h]
    simp [lastBytes, bytesOf]

theorem lastBytes_bytesField_of_ne {number number' : ℕ} (h : number' ≠ number)
    (b : List UInt8) : lastBytes number (bytesField number' b) = none := by
  unfold bytesField
  split <;> simp [lastBytes, bytesOf, h]

/-! ### Message types -/

/-- A message type: its full name, and its fields to and from the wire. -/
structure Schema (M : Type u) where
  fullName : String
  default : M
  toFields : M → List Field
  ofFields : List Field → Option M
  ofFields_toFields : ∀ m, ofFields (toFields m) = some m

namespace Schema

variable {M : Type u} (s : Schema M)

def serialize (m : M) : List UInt8 := encode (s.toFields m)

def parse (bytes : List UInt8) : Option M := (decode bytes).bind s.ofFields

/-- **A message reads back.** -/
theorem parse_serialize (m : M) : s.parse (s.serialize m) = some m := by
  rw [parse, serialize, decode_encode]
  exact s.ofFields_toFields m

/-- The URL of the type, for a message wrapped with its type. -/
def typeUrl : String := "type.googleapis.com/" ++ s.fullName

/-- Whether a URL names the type: it ends in the full name, after a slash. -/
def isUrlOf (url : String) : Bool := ('/' :: s.fullName.toList).isSuffixOf url.toList

theorem isUrlOf_typeUrl : s.isUrlOf s.typeUrl = true := by
  unfold isUrlOf typeUrl
  rw [List.isSuffixOf_iff_suffix, String.toList_append]
  have hslash : "type.googleapis.com/".toList = "type.googleapis.com".toList ++ ['/'] := by
    simp
  rw [hslash, List.append_assoc]
  exact List.suffix_append _ _

end Schema

end AIStreams.Wire
