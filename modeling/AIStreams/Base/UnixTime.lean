import AIStreams.Base.Packet
import AIStreams.Util.Time

/-!
# `absl::Time` and the Unix epoch

The conversions of `absl/time/time.h` between points in time and numbers of seconds or
nanoseconds, and what a `google.protobuf.Timestamp` stands for.
-/

namespace AIStreams

/-- `d <= d'`. -/
def Duration.le : Duration → Duration → Bool
  | .negInfinite, _ => true
  | .ticks n, .ticks m => decide (n ≤ m)
  | _, .infinite => true
  | _, _ => false

/-- `absl::ToInt64Nanoseconds(d)`. -/
def Duration.toInt64Nanoseconds : Duration → Int64
  | .negInfinite => Int64.minValue
  | .ticks n => Int64.ofIntClamp (n.tdiv 4)
  | .infinite => Int64.maxValue

namespace Time

/-- `absl::ToUnixSeconds(t)`, rounded down. -/
def toUnixSeconds : Time → Int64
  | .negInfinite => Int64.minValue
  | .ticks n => Int64.ofIntClamp (n / 4000000000)
  | .infinite => Int64.maxValue

/-- `absl::FromUnixNanos(ns)`. -/
def fromUnixNanos (ns : Int64) : Time := .ticks (4 * ns.toInt)

end Time

namespace Timestamp

/-- Nanoseconds since the epoch. -/
def nanoseconds (ts : Timestamp) : ℤ := ts.seconds.toInt * 1000000000 + ts.nanos.toInt

/-- The last whole nanosecond not after the point `n` quarters of one from the epoch. -/
def IsFloorOf (ts : Timestamp) (n : ℤ) : Prop :=
  0 ≤ ts.nanos.toInt ∧ ts.nanos.toInt < 1000000000 ∧
    4 * ts.nanoseconds ≤ n ∧ n < 4 * ts.nanoseconds + 4

end Timestamp

/-- Seconds and what is left over in nanoseconds. -/
theorem Time.isFloorOf_toUnixSeconds {n : ℤ}
    (h : -2 ^ 63 ≤ n / 4000000000 ∧ n / 4000000000 < 2 ^ 63) :
    Timestamp.IsFloorOf
      ⟨(Time.toUnixSeconds (.ticks n)), ((Time.left (.ticks n)
        (4000000000 * (Time.toUnixSeconds (.ticks n)).toInt)).toInt64Nanoseconds).toInt32⟩ n := by
  have hsec : (Time.toUnixSeconds (.ticks n)).toInt = n / 4000000000 :=
    Int64.toInt_ofIntClamp h.1 (by rw [Int64.toInt_maxValue]; omega)
  have hrest : (n + -(4000000000 * (n / 4000000000))).tdiv 4 = n % 4000000000 / 4 := by
    rw [Int.tdiv_eq_ediv_of_nonneg (by omega)]
    congr 1
    omega
  have hnanos : ((Time.left (.ticks n) (4000000000 * (n / 4000000000))).toInt64Nanoseconds).toInt =
      n % 4000000000 / 4 := by
    show (Int64.ofIntClamp ((n + -(4000000000 * (n / 4000000000))).tdiv 4)).toInt = _
    rw [hrest]
    exact Int64.toInt_ofIntClamp (by rw [Int64.toInt_minValue]; omega)
      (by rw [Int64.toInt_maxValue]; omega)
  have hsmall : ((Time.left (.ticks n)
      (4000000000 * (n / 4000000000))).toInt64Nanoseconds).toInt32.toInt =
      n % 4000000000 / 4 := by
    rw [Int64.toInt_toInt32, hnanos]
    exact Int.bmod_eq_of_le (by omega) (by omega)
  simp only [Timestamp.IsFloorOf, Timestamp.nanoseconds, hsec, hsmall]
  omega

end AIStreams
