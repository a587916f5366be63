import Mathlib.Algebra.Group.Int.Defs
import Mathlib.Algebra.Group.Nat.Defs

/-!
# Signed 32-bit arithmetic that must not overflow

Sums and products of `Int32` that give up where the true value is not an `Int32`.

* `checkedMul_eq_ok_iff`, `checkedAdd_eq_ok_iff`: a result is the true value.
* `checkedMul_of_fits`, `checkedAdd_of_fits`: a true value that fits is the result.
* `toInt_and_not_three`: masking the two low bits rounds down to a multiple of four.
-/

namespace AIStreams.Arith

universe u

/-- The integers that an `Int32` can be. -/
def Fits (z : ℤ) : Prop := -2 ^ 31 ≤ z ∧ z < 2 ^ 31

theorem fits_toInt (a : Int32) : Fits a.toInt := ⟨a.le_toInt, a.toInt_lt⟩

theorem fits_of_nonneg {z : ℤ} (h : 0 ≤ z) (hlt : z < 2 ^ 31) : Fits z := ⟨by omega, hlt⟩

theorem Fits.bmod_eq {z : ℤ} (h : Fits z) : z.bmod (2 ^ 32) = z := by
  obtain ⟨hle, hlt⟩ := h
  apply Int.bmod_eq_of_le <;> omega

theorem toInt_mul_of_fits {a b : Int32} (h : Fits (a.toInt * b.toInt)) :
    (a * b).toInt = a.toInt * b.toInt := by
  rw [Int32.toInt_mul, h.bmod_eq]

theorem toInt_add_of_fits {a b : Int32} (h : Fits (a.toInt + b.toInt)) :
    (a + b).toInt = a.toInt + b.toInt := by
  rw [Int32.toInt_add, h.bmod_eq]

section Checked

variable {ε : Type u} (e : ε)

/-- `a`, if it is the true value `z`. -/
def exactly (z : ℤ) (a : Int32) : Except ε Int32 := if a.toInt = z then .ok a else .error e

def checkedMul (a b : Int32) : Except ε Int32 := exactly e (a.toInt * b.toInt) (a * b)

def checkedAdd (a b : Int32) : Except ε Int32 := exactly e (a.toInt + b.toInt) (a + b)

variable {e}

theorem exactly_eq_ok_iff {z : ℤ} {a c : Int32} :
    exactly e z a = .ok c ↔ c = a ∧ c.toInt = z := by
  rw [exactly]
  by_cases h : a.toInt = z
  · rw [if_pos h]
    constructor
    · intro hc
      cases hc
      exact ⟨rfl, h⟩
    · rintro ⟨rfl, _⟩
      rfl
  · rw [if_neg h]
    constructor
    · intro hc
      cases hc
    · rintro ⟨rfl, hc⟩
      exact absurd hc h

theorem checkedMul_eq_ok_iff {a b c : Int32} :
    checkedMul e a b = .ok c ↔ c = a * b ∧ c.toInt = a.toInt * b.toInt :=
  exactly_eq_ok_iff

theorem checkedAdd_eq_ok_iff {a b c : Int32} :
    checkedAdd e a b = .ok c ↔ c = a + b ∧ c.toInt = a.toInt + b.toInt :=
  exactly_eq_ok_iff

theorem checkedMul_of_fits {a b : Int32} (h : Fits (a.toInt * b.toInt)) :
    checkedMul e a b = .ok (a * b) :=
  checkedMul_eq_ok_iff.mpr ⟨rfl, toInt_mul_of_fits h⟩

theorem checkedAdd_of_fits {a b : Int32} (h : Fits (a.toInt + b.toInt)) :
    checkedAdd e a b = .ok (a + b) :=
  checkedAdd_eq_ok_iff.mpr ⟨rfl, toInt_add_of_fits h⟩

theorem fits_of_checkedMul {a b c : Int32} (h : checkedMul e a b = .ok c) :
    Fits (a.toInt * b.toInt) := by
  rw [← (checkedMul_eq_ok_iff.mp h).2]
  exact fits_toInt c

end Checked

/-! ### Rounding to a multiple of four -/

theorem nat_and_not_three {n : ℕ} (h : n < 2 ^ 32) : n &&& 4294967292 = n / 4 * 4 := by
  refine Nat.eq_of_testBit_eq fun i => ?_
  rw [Nat.testBit_and, show 4294967292 = (2 ^ 30 - 1) * 2 ^ 2 by rfl,
    show n / 4 * 4 = n / 2 ^ 2 * 2 ^ 2 by rfl, Nat.testBit_mul_two_pow, Nat.testBit_mul_two_pow,
    Nat.testBit_two_pow_sub_one, Nat.testBit_div_two_pow]
  by_cases hi : 2 ≤ i
  · rw [show i - 2 + 2 = i by omega]
    by_cases hb : i < 32
    · simp [hi, show i - 2 < 30 by omega]
    · have hbit : n.testBit i = false :=
        Nat.testBit_lt_two_pow
          (Nat.lt_of_lt_of_le h (Nat.pow_le_pow_right (by decide) (by omega)))
      simp [hbit]
  · simp [hi]

/-- **Masking the two low bits** of a number that is not negative. -/
theorem toInt_and_not_three {y : Int32} (h : 0 ≤ y.toInt) :
    (y &&& ~~~3).toInt = y.toInt / 4 * 4 := by
  have hlt := y.toInt_lt
  have hy : y.toInt = y.toBitVec.toNat := by
    have hcond := y.toBitVec.toInt_eq_toNat_cond
    rw [show y.toInt = y.toBitVec.toInt from rfl] at h ⊢
    rw [hcond] at h ⊢
    split <;> omega
  have hnat : (y &&& ~~~3).toBitVec.toNat = y.toBitVec.toNat / 4 * 4 := by
    rw [← nat_and_not_three y.toBitVec.isLt]
    rfl
  have hz : (y &&& ~~~3).toInt = ((y &&& ~~~3).toBitVec.toNat : ℤ) := by
    show (y &&& ~~~3).toBitVec.toInt = _
    rw [BitVec.toInt_eq_toNat_of_lt]
    rw [hnat]
    omega
  rw [hz, hnat, hy]
  omega

/-! ### Wrapping around -/

/-- What is just too large wraps to a negative number. -/
theorem bmod_neg {x : ℤ} (h : 2 ^ 31 ≤ x) (hlt : x < 2 ^ 32) : Int.bmod x (2 ^ 32) < 0 := by
  have hmod : x % ((2 ^ 32 : ℕ) : ℤ) = x := Int.emod_eq_of_lt (by omega) (by omega)
  rw [Int.bmod, hmod, if_neg (by omega)]
  omega

theorem toInt_and_neg {y c : Int32} (hy : y.toInt < 0) (hc : c.toInt < 0) :
    (y &&& c).toInt < 0 := by
  have hy' : y.toBitVec.msb = true := by
    rw [BitVec.msb_eq_toInt]
    exact decide_eq_true hy
  have hc' : c.toBitVec.msb = true := by
    rw [BitVec.msb_eq_toInt]
    exact decide_eq_true hc
  have hand : (y &&& c).toBitVec.msb = true := by
    rw [Int32.toBitVec_and, BitVec.msb_and, hy', hc']
    rfl
  rw [BitVec.msb_eq_toInt] at hand
  exact of_decide_eq_true hand

/-! ### Multiples of a step -/

/-- A multiple that is not negative bounds the smaller ones. -/
theorem mul_between {s m i : ℤ} (h : 0 ≤ s * m) (hi : 0 ≤ i) (hm : i ≤ m) :
    0 ≤ s * i ∧ s * i ≤ s * m := by
  by_cases hs : 0 ≤ s
  · exact ⟨Int.mul_nonneg hs hi, Int.mul_le_mul_of_nonneg_left hm hs⟩
  · have hle : s * m ≤ s * i := Int.mul_le_mul_of_nonpos_left (by omega) hm
    have hnonpos : s * i ≤ 0 := Int.mul_nonpos_of_nonpos_of_nonneg (by omega) hi
    have hm0 : m = 0 := by
      rcases Int.lt_or_le 0 m with hpos | hzero
      · have hneg : s * m < 0 := Int.mul_neg_of_neg_of_pos (by omega) hpos
        omega
      · omega
    have hi0 : i = 0 := by omega
    subst hm0 hi0
    omega

/-- A multiple that fits bounds the smaller ones. -/
theorem Fits.mul_of_le {s m i : ℤ} (h : Fits (s * m)) (hi : 0 ≤ i) (hm : i ≤ m) :
    Fits (s * i) := by
  obtain ⟨hle, hlt⟩ := h
  by_cases hs : 0 ≤ s
  · have h1 : s * i ≤ s * m := Int.mul_le_mul_of_nonneg_left hm hs
    have h2 : 0 ≤ s * i := Int.mul_nonneg hs hi
    exact ⟨by omega, by omega⟩
  · have h1 : s * m ≤ s * i := Int.mul_le_mul_of_nonpos_left (by omega) hm
    have h2 : s * i ≤ 0 := Int.mul_nonpos_of_nonpos_of_nonneg (by omega) hi
    exact ⟨by omega, by omega⟩

end AIStreams.Arith
