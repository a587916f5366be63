import Mathlib.Data.Nat.Digits.Defs
import Mathlib.Data.List.TakeWhile

/-!
# Formatted input

Numbers in decimal, and the formatted extraction of words and numbers from a string of bytes:
`std::istringstream` in the classic locale.  What an extraction takes is said by a grammar
(`WordAt`, `NumberAt`).

* `digitsValue_decimal`: a number reads back from its decimal digits.
* `readWord_iff`, `readInt_iff`: an extraction succeeds exactly on what the grammar allows, and
  leaves the rest.
* `tellg_of_ready`: the position is that of the rest, unless the rest is empty.
-/

namespace AIStreams.Text

/-! ### Characters -/

def isSpace (b : UInt8) : Bool := b == 32 || (9 ≤ b && b ≤ 13)

def isDigit (b : UInt8) : Bool := 48 ≤ b && b ≤ 57

theorem isDigit_iff (b : UInt8) : isDigit b = true ↔ 48 ≤ b.toNat ∧ b.toNat ≤ 57 := by
  simp [isDigit, UInt8.le_iff_toNat_le]

theorem isSpace_iff (b : UInt8) :
    isSpace b = true ↔ b.toNat = 32 ∨ 9 ≤ b.toNat ∧ b.toNat ≤ 13 := by
  simp [isSpace, UInt8.le_iff_toNat_le, ← UInt8.toNat_inj]

theorem isSpace_of_isDigit {b : UInt8} (h : isDigit b = true) : isSpace b = false := by
  rw [isDigit_iff] at h
  rw [← Bool.not_eq_true, isSpace_iff]
  omega

/-! ### Runs of characters -/

section Runs

variable {p : UInt8 → Bool}

/-- Nothing more of the kind `p` stands at the front. -/
def Stops (p : UInt8 → Bool) (rest : List UInt8) : Prop := ∀ b ∈ rest.head?, p b = false

theorem stops_cons {b : UInt8} {rest : List UInt8} : Stops p (b :: rest) ↔ p b = false := by
  simp [Stops]

theorem stops_dropWhile (bytes : List UInt8) : Stops p (bytes.dropWhile p) := by
  intro b hb
  have := bytes.head?_dropWhile_not p
  rw [Option.mem_def.mp hb] at this
  simpa using this

/-- **A run is taken as a whole**, up to where it stops. -/
theorem takeWhile_of_stops {run rest : List UInt8} (hrun : ∀ b ∈ run, p b = true)
    (hrest : Stops p rest) :
    (run ++ rest).takeWhile p = run ∧ (run ++ rest).dropWhile p = rest := by
  rw [List.takeWhile_append_of_pos hrun, List.dropWhile_append_of_pos hrun]
  cases rest with
  | nil => simp
  | cons b rest =>
    rw [stops_cons] at hrest
    simp [hrest]

end Runs

/-! ### Decimal numbers -/

/-- The value of a string of digits. -/
def digitsValue (digits : List UInt8) : ℕ :=
  digits.foldl (fun value d => 10 * value + (d.toNat - 48)) 0

def digitByte (d : ℕ) : UInt8 := UInt8.ofNat (48 + d)

/-- The digits of a number, the highest first. -/
def decimal (n : ℕ) : List UInt8 :=
  if n = 0 then [48] else (Nat.digits 10 n).reverse.map digitByte

/-- `%d`. -/
def intDecimal (i : ℤ) : List UInt8 :=
  if i < 0 then 45 :: decimal i.natAbs else decimal i.natAbs

theorem toNat_digitByte {d : ℕ} (h : d < 10) : (digitByte d).toNat = 48 + d := by
  rw [digitByte, UInt8.toNat_ofNat']
  omega

theorem decimal_ne_nil (n : ℕ) : decimal n ≠ [] := by
  unfold decimal
  split
  · simp
  · rename_i h
    simp [Nat.digits_ne_nil_iff_ne_zero.mpr h]

theorem isDigit_of_mem_decimal {n : ℕ} {b : UInt8} (h : b ∈ decimal n) : isDigit b = true := by
  unfold decimal at h
  split at h
  · rw [List.mem_singleton.mp h]
    decide
  · obtain ⟨d, hd, rfl⟩ := List.mem_map.mp h
    have hlt := Nat.digits_lt_base (by decide) (List.mem_reverse.mp hd)
    rw [isDigit_iff, toNat_digitByte hlt]
    omega

theorem foldr_map_digitByte (ds : List ℕ) (h : ∀ d ∈ ds, d < 10) :
    (ds.map digitByte).foldr (fun d value => 10 * value + (d.toNat - 48)) 0 =
      ds.foldr (fun d value => d + 10 * value) 0 := by
  induction ds with
  | nil => rfl
  | cons d ds ih =>
    rw [List.map_cons, List.foldr_cons, List.foldr_cons,
      ih (fun e he => h e (List.mem_cons_of_mem d he)), toNat_digitByte (h d List.mem_cons_self)]
    omega

/-- **A number reads back from its digits.** -/
theorem digitsValue_decimal (n : ℕ) : digitsValue (decimal n) = n := by
  unfold decimal
  split
  · rename_i h
    rw [h]
    rfl
  · rw [digitsValue, List.map_reverse, List.foldl_reverse,
      foldr_map_digitByte _ (fun d hd => Nat.digits_lt_base (by decide) hd)]
    have hofDigits := Nat.ofDigits_digits 10 n
    rw [Nat.ofDigits_eq_foldr] at hofDigits
    exact hofDigits

/-! ### Numerals -/

/-- A numeral: a sign, if there is one, and at least one digit. -/
inductive Numeral : List UInt8 → ℤ → Prop
  | plain (ds : List UInt8) : ds ≠ [] → (∀ d ∈ ds, isDigit d = true) → Numeral ds (digitsValue ds)
  | plus (ds : List UInt8) : ds ≠ [] → (∀ d ∈ ds, isDigit d = true) →
      Numeral (43 :: ds) (digitsValue ds)
  | minus (ds : List UInt8) : ds ≠ [] → (∀ d ∈ ds, isDigit d = true) →
      Numeral (45 :: ds) (-(digitsValue ds))

theorem numeral_intDecimal (i : ℤ) : Numeral (intDecimal i) i := by
  have hdigits : ∀ d ∈ decimal i.natAbs, isDigit d = true := fun d => isDigit_of_mem_decimal
  unfold intDecimal
  split
  · have hn := Numeral.minus (decimal i.natAbs) (decimal_ne_nil _) hdigits
    rw [digitsValue_decimal] at hn
    rwa [show -(i.natAbs : ℤ) = i by omega] at hn
  · have hn := Numeral.plain (decimal i.natAbs) (decimal_ne_nil _) hdigits
    rw [digitsValue_decimal] at hn
    rwa [show (i.natAbs : ℤ) = i by omega] at hn

theorem Numeral.stops_isSpace {num : List UInt8} {i : ℤ} (h : Numeral num i) (rest : List UInt8) :
    num ≠ [] ∧ Stops isSpace (num ++ rest) := by
  cases h with
  | plain _ hne hd =>
    obtain ⟨d, ds, rfl⟩ := List.exists_cons_of_ne_nil hne
    refine ⟨hne, ?_⟩
    rw [List.cons_append, stops_cons]
    exact isSpace_of_isDigit (hd d List.mem_cons_self)
  | plus ds _ _ =>
    refine ⟨List.cons_ne_nil _ _, ?_⟩
    rw [List.cons_append, stops_cons]
    decide
  | minus ds _ _ =>
    refine ⟨List.cons_ne_nil _ _, ?_⟩
    rw [List.cons_append, stops_cons]
    decide

/-- The sign in front: whether it is a minus, and what follows it. -/
def scanSign : List UInt8 → Bool × List UInt8
  | [] => (false, [])
  | b :: bytes => if b = 45 then (true, bytes) else if b = 43 then (false, bytes) else
      (false, b :: bytes)

/-- The number in front, if there is one, and what follows. -/
def scanInt (bytes : List UInt8) : Option ℤ × List UInt8 :=
  let (negative, bytes) := scanSign bytes
  let digits := bytes.takeWhile isDigit
  let value : ℤ := digitsValue digits
  (if digits = [] then none else some (if negative then -value else value),
    bytes.dropWhile isDigit)

theorem scanSign_of_isDigit {ds rest : List UInt8} (hne : ds ≠ [])
    (hd : ∀ d ∈ ds, isDigit d = true) : scanSign (ds ++ rest) = (false, ds ++ rest) := by
  obtain ⟨d, ds, rfl⟩ := List.exists_cons_of_ne_nil hne
  have hdigit := hd d List.mem_cons_self
  have hminus : d ≠ 45 := by
    rintro rfl
    exact absurd hdigit (by decide)
  have hplus : d ≠ 43 := by
    rintro rfl
    exact absurd hdigit (by decide)
  rw [List.cons_append, scanSign, if_neg hminus, if_neg hplus]

/-- A numeral is scanned as a whole. -/
theorem scanInt_of_numeral {num rest : List UInt8} {i : ℤ} (h : Numeral num i)
    (hrest : Stops isDigit rest) : scanInt (num ++ rest) = (some i, rest) := by
  unfold scanInt
  cases h with
  | plain _ hne hd =>
    obtain ⟨htake, hdrop⟩ := takeWhile_of_stops hd hrest
    simp [scanSign_of_isDigit hne hd, htake, hdrop, hne]
  | plus ds hne hd =>
    obtain ⟨htake, hdrop⟩ := takeWhile_of_stops hd hrest
    simp [scanSign, htake, hdrop, hne]
  | minus ds hne hd =>
    obtain ⟨htake, hdrop⟩ := takeWhile_of_stops hd hrest
    simp [scanSign, htake, hdrop, hne]

/-- What is scanned is a numeral. -/
theorem numeral_of_scanInt {bytes rest : List UInt8} {i : ℤ} (h : scanInt bytes = (some i, rest)) :
    ∃ num, bytes = num ++ rest ∧ Numeral num i ∧ Stops isDigit rest := by
  have hall : ∀ bytes : List UInt8, ∀ d ∈ bytes.takeWhile isDigit, isDigit d = true :=
    fun bytes d hd => List.mem_takeWhile_imp (p := isDigit) hd
  have hscan : ∀ (negative : Bool) (body : List UInt8), scanSign bytes = (negative, body) →
      body.takeWhile isDigit ≠ [] ∧ body = body.takeWhile isDigit ++ rest ∧
        i = (if negative then -(digitsValue (body.takeWhile isDigit) : ℤ)
          else digitsValue (body.takeWhile isDigit)) ∧ Stops isDigit rest := by
    intro negative body hs
    unfold scanInt at h
    rw [hs] at h
    simp only [Prod.mk.injEq] at h
    obtain ⟨hi, hrest⟩ := h
    split at hi
    · cases hi
    · rename_i hne
      refine ⟨hne, ?_, (Option.some.inj hi).symm, hrest ▸ stops_dropWhile body⟩
      rw [← hrest, List.takeWhile_append_dropWhile]
  cases bytes with
  | nil => exact absurd (hscan false [] rfl).1 (by simp)
  | cons b bytes =>
    by_cases hminus : b = 45
    · obtain ⟨hne, hbody, hi, hstop⟩ := hscan true bytes (by rw [scanSign, if_pos hminus])
      refine ⟨45 :: bytes.takeWhile isDigit, ?_, ?_, hstop⟩
      · rw [hminus, List.cons_append, ← hbody]
      · rw [hi]
        exact .minus _ hne (hall bytes)
    · by_cases hplus : b = 43
      · obtain ⟨hne, hbody, hi, hstop⟩ := hscan false bytes
          (by rw [scanSign, if_neg hminus, if_pos hplus])
        refine ⟨43 :: bytes.takeWhile isDigit, ?_, ?_, hstop⟩
        · rw [hplus, List.cons_append, ← hbody]
        · rw [hi]
          exact .plus _ hne (hall bytes)
      · obtain ⟨hne, hbody, hi, hstop⟩ := hscan false (b :: bytes)
          (by rw [scanSign, if_neg hminus, if_neg hplus])
        refine ⟨(b :: bytes).takeWhile isDigit, hbody, ?_, hstop⟩
        rw [hi]
        exact .plain _ hne (hall (b :: bytes))

/-! ### The stream -/

/-- A string that is read from the front: where the reading is, and what it has run into. -/
structure InputStream where
  str : List UInt8
  pos : ℕ
  eofbit : Bool
  failbit : Bool
  deriving DecidableEq

namespace InputStream

def ofBytes (str : List UInt8) : InputStream := ⟨str, 0, false, false⟩

def good (is : InputStream) : Bool := !is.eofbit && !is.failbit

def rest (is : InputStream) : List UInt8 := is.str.drop is.pos

/-- The position; like every input function, `tellg` does nothing on a stream that is not
good. -/
def tellg (is : InputStream) : ℤ := if is.good then is.pos else -1

/-- Having read as far as to leave `rest`: at the end of the string, this is noticed. -/
def readTo (is : InputStream) (rest : List UInt8) : InputStream :=
  { is with pos := is.str.length - rest.length, eofbit := rest.isEmpty }

def fail (is : InputStream) : InputStream := { is with failbit := true }

/-- What comes before every formatted extraction: is there something to extract? -/
def skipSpace (is : InputStream) : Bool × InputStream :=
  if is.good then
    let rest := is.rest.dropWhile isSpace
    if rest = [] then (false, (is.readTo rest).fail) else (true, is.readTo rest)
  else (false, is.fail)

/-- `is >> word`. -/
def readWord (is : InputStream) (word : List UInt8) : List UInt8 × InputStream :=
  let (ok, is) := is.skipSpace
  if ok then
    (is.rest.takeWhile (!isSpace ·), is.readTo (is.rest.dropWhile (!isSpace ·)))
  else (word, is)

/-- `is >> value` for an integer type with the values from `lo` to `hi`. -/
def readInt (lo hi : ℤ) (is : InputStream) (value : ℤ) : ℤ × InputStream :=
  let (ok, is) := is.skipSpace
  if ok then
    match scanInt is.rest with
    | (none, rest) => (0, (is.readTo rest).fail)
    | (some i, rest) =>
      if i < lo then (lo, (is.readTo rest).fail)
      else if hi < i then (hi, (is.readTo rest).fail)
      else (i, is.readTo rest)
  else (value, is)

end InputStream

/-! ### What is extracted -/

/-- After white space, a word; then `rest`. -/
def WordAt (bytes word rest : List UInt8) : Prop :=
  ∃ space, bytes = space ++ (word ++ rest) ∧ (∀ b ∈ space, isSpace b = true) ∧ word ≠ [] ∧
    (∀ b ∈ word, (!isSpace b) = true) ∧ Stops (!isSpace ·) rest

/-- After white space, a numeral for a number from `lo` to `hi`; then `rest`. -/
def NumberAt (lo hi : ℤ) (bytes : List UInt8) (i : ℤ) (rest : List UInt8) : Prop :=
  ∃ space num, bytes = space ++ (num ++ rest) ∧ (∀ b ∈ space, isSpace b = true) ∧ Numeral num i ∧
    Stops isDigit rest ∧ lo ≤ i ∧ i ≤ hi

namespace InputStream

/-- The stream has not failed, and `rest` is what it has still to read. -/
structure Ready (is : InputStream) (rest : List UInt8) : Prop where
  failbit : is.failbit = false
  rest_eq : is.rest = rest
  eofbit : is.eofbit = true → rest = []
  pos : is.pos + rest.length = is.str.length

variable {is : InputStream} {bytes rest : List UInt8}

theorem ready_ofBytes (bytes : List UInt8) : Ready (ofBytes bytes) bytes where
  failbit := rfl
  rest_eq := rfl
  eofbit := nofun
  pos := Nat.zero_add _

theorem Ready.readTo (h : Ready is bytes) (hs : rest <:+ bytes) : Ready (is.readTo rest) rest := by
  have hsuffix : rest <:+ is.str := by
    rw [← h.rest_eq] at hs
    exact hs.trans (List.drop_suffix _ _)
  have hle := hsuffix.length_le
  refine ⟨h.failbit, (List.suffix_iff_eq_drop.mp hsuffix).symm, fun he => ?_, ?_⟩
  · exact List.isEmpty_iff.mp he
  · show is.str.length - rest.length + rest.length = is.str.length
    omega

theorem Ready.good (h : Ready is bytes) (hne : bytes ≠ []) : is.good = true := by
  have heof : is.eofbit = false := by
    rw [← Bool.not_eq_true]
    exact fun he => hne (h.eofbit he)
  rw [InputStream.good, heof, h.failbit]
  rfl

/-- **The position is that of the rest**, and none if the end has been noticed. -/
theorem tellg_of_ready (h : Ready is rest) (heof : is.eofbit = rest.isEmpty) :
    is.tellg = if rest = [] then -1 else (is.str.length : ℤ) - rest.length := by
  unfold tellg
  by_cases hne : rest = []
  · have hbad : is.good = false := by
      rw [InputStream.good, heof, hne]
      rfl
    simp [hbad, hne]
  · rw [if_pos (h.good hne), if_neg hne]
    have := h.pos
    omega

theorem skipSpace_of_ready (h : Ready is bytes) (hne : bytes.dropWhile isSpace ≠ []) :
    is.skipSpace.1 = true ∧ Ready is.skipSpace.2 (bytes.dropWhile isSpace) := by
  have hbytes : bytes ≠ [] := by
    rintro rfl
    exact hne rfl
  unfold skipSpace
  rw [if_pos (h.good hbytes), h.rest_eq]
  simp only [if_neg hne]
  exact ⟨trivial, h.readTo (List.dropWhile_suffix _)⟩

theorem skipSpace_fails (h : Ready is bytes) (hnil : bytes.dropWhile isSpace = []) :
    is.skipSpace.1 = false ∧ is.skipSpace.2.failbit = true := by
  unfold skipSpace
  split
  · rw [h.rest_eq]
    simp only [if_pos hnil]
    exact ⟨trivial, rfl⟩
  · exact ⟨rfl, rfl⟩

theorem readInt_of_failbit {lo hi value : ℤ} (h : is.failbit = true) :
    (readInt lo hi is value).2.failbit = true := by
  have hbad : is.good = false := by
    rw [InputStream.good, h]
    simp
  unfold readInt skipSpace
  simp [hbad, fail]

/-- **A word is extracted**, and the end is noticed if nothing follows it. -/
theorem readWord_of_wordAt {word : List UInt8} (h : Ready is bytes) (hw : WordAt bytes word rest)
    (old : List UInt8) : (is.readWord old).1 = word ∧ Ready (is.readWord old).2 rest ∧
      (is.readWord old).2.eofbit = rest.isEmpty := by
  obtain ⟨space, rfl, hspace, hne, hword, hrest⟩ := hw
  have hstops : Stops isSpace (word ++ rest) := by
    obtain ⟨b, word, rfl⟩ := List.exists_cons_of_ne_nil hne
    rw [List.cons_append, stops_cons]
    simpa using hword b List.mem_cons_self
  have hdrop := (takeWhile_of_stops hspace hstops).2
  obtain ⟨hok, hready⟩ := skipSpace_of_ready h (by
    rw [hdrop]
    exact List.append_ne_nil_of_left_ne_nil hne rest)
  rw [hdrop] at hready
  obtain ⟨htake, hdrop'⟩ := takeWhile_of_stops hword hrest
  unfold readWord
  simp only [hok, if_true, hready.rest_eq, htake, hdrop']
  exact ⟨trivial, hready.readTo (List.suffix_append _ _), rfl⟩

/-- **The extraction of a word succeeds on a word only.** -/
theorem readWord_iff (h : Ready is bytes) (old : List UInt8) :
    (is.readWord old).2.failbit = false ↔ ∃ word rest, WordAt bytes word rest := by
  constructor
  · intro hfail
    by_cases hnil : bytes.dropWhile isSpace = []
    · obtain ⟨hok, hbad⟩ := skipSpace_fails h hnil
      unfold readWord at hfail
      simp [hok, hbad] at hfail
    · refine ⟨(bytes.dropWhile isSpace).takeWhile (!isSpace ·),
        (bytes.dropWhile isSpace).dropWhile (!isSpace ·), bytes.takeWhile isSpace, ?_, ?_, ?_, ?_,
        stops_dropWhile _⟩
      · rw [List.takeWhile_append_dropWhile, List.takeWhile_append_dropWhile]
      · exact fun b hb => List.mem_takeWhile_imp hb
      · have hstop := stops_dropWhile (p := isSpace) bytes
        obtain ⟨b, tail, hcons⟩ := List.exists_cons_of_ne_nil hnil
        rw [hcons, stops_cons] at hstop
        rw [hcons]
        simp [hstop]
      · intro b hb
        exact List.mem_takeWhile_imp (p := (!isSpace ·)) hb
  · rintro ⟨word, rest, hw⟩
    exact (readWord_of_wordAt h hw old).2.1.failbit

/-- **A number is extracted**, and the end is noticed if nothing follows it. -/
theorem readInt_of_numberAt {lo hi i : ℤ} (h : Ready is bytes)
    (hn : NumberAt lo hi bytes i rest) (value : ℤ) :
    (readInt lo hi is value).1 = i ∧ Ready (readInt lo hi is value).2 rest ∧
      (readInt lo hi is value).2.eofbit = rest.isEmpty := by
  obtain ⟨space, num, rfl, hspace, hnum, hrest, hlo, hhi⟩ := hn
  obtain ⟨hne, hstops⟩ := hnum.stops_isSpace rest
  have hdrop := (takeWhile_of_stops hspace hstops).2
  obtain ⟨hok, hready⟩ := skipSpace_of_ready h (by
    rw [hdrop]
    exact List.append_ne_nil_of_left_ne_nil hne rest)
  rw [hdrop] at hready
  unfold readInt
  simp only [hok, if_true, hready.rest_eq, scanInt_of_numeral hnum hrest, if_neg (not_lt.mpr hlo),
    if_neg (not_lt.mpr hhi)]
  exact ⟨trivial, hready.readTo (List.suffix_append _ _), rfl⟩

/-- **The extraction of a number succeeds on a numeral in range only.** -/
theorem readInt_iff {lo hi : ℤ} (h : Ready is bytes) (value : ℤ) :
    (readInt lo hi is value).2.failbit = false ↔ ∃ i rest, NumberAt lo hi bytes i rest := by
  constructor
  · intro hfail
    by_cases hnil : bytes.dropWhile isSpace = []
    · obtain ⟨hok, hbad⟩ := skipSpace_fails h hnil
      unfold readInt at hfail
      simp [hok, hbad] at hfail
    · obtain ⟨hok, hready⟩ := skipSpace_of_ready h hnil
      unfold readInt at hfail
      simp only [hok, if_true, hready.rest_eq] at hfail
      rcases hscan : scanInt (bytes.dropWhile isSpace) with ⟨_ | i, rest⟩
      · simp [hscan, fail] at hfail
      · simp only [hscan] at hfail
        by_cases hlo : i < lo
        · simp [hlo, fail] at hfail
        · by_cases hhi : hi < i
          · simp [hlo, hhi, fail] at hfail
          · obtain ⟨num, hnum, hnumeral, hstop⟩ := numeral_of_scanInt hscan
            refine ⟨i, rest, bytes.takeWhile isSpace, num, ?_, ?_, hnumeral, hstop, not_lt.mp hlo,
              not_lt.mp hhi⟩
            · rw [← hnum, List.takeWhile_append_dropWhile]
            · exact fun b hb => List.mem_takeWhile_imp hb
  · rintro ⟨i, rest, hn⟩
    exact (readInt_of_numberAt h hn value).2.1.failbit

end InputStream

end AIStreams.Text
