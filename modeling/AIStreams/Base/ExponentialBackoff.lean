import AIStreams.Loop.Saturating
import Mathlib.Algebra.Order.Field.Rat
import Mathlib.Algebra.Order.Monoid.Unbundled.Pow
import Mathlib.Order.WithBot

/-!
# Exponential backoff

`aistreams/base/util/exponential_backoff.{h,cc}`.  Durations are exact numbers of seconds or
infinite in either direction, and the multiplier is an exact number as well.

`waitTime_eq`: the closed form of the wait times.
-/

namespace AIStreams

open Loop

/-- `absl::Duration`, in seconds. -/
abbrev ExactDuration := WithBot (WithTop ℚ)

namespace ExactDuration

/-- A finite one. -/
def seconds (q : ℚ) : ExactDuration := ((q : WithTop ℚ) : WithBot (WithTop ℚ))

/-- `absl::ZeroDuration()`. -/
def zero : ExactDuration := seconds 0

/-- `r * d`, for a positive `r`. -/
def scale (r : ℚ) (d : ExactDuration) : ExactDuration := d.map (·.map (r * ·))

@[simp] theorem scale_seconds (r q : ℚ) : scale r (seconds q) = seconds (r * q) := rfl

theorem eq_cases (d : ExactDuration) : d = ⊥ ∨ d = ⊤ ∨ ∃ q, d = seconds q := by
  match d with
  | none => exact Or.inl rfl
  | some none => exact Or.inr (Or.inl rfl)
  | some (some q) => exact Or.inr (Or.inr ⟨q, rfl⟩)

@[simp] theorem scale_one (d : ExactDuration) : scale 1 d = d := by
  rcases d.eq_cases with rfl | rfl | ⟨q, rfl⟩
  · rfl
  · rfl
  · rw [scale_seconds, one_mul]

theorem scale_mul (r s : ℚ) (d : ExactDuration) : scale (r * s) d = scale r (scale s d) := by
  rcases d.eq_cases with rfl | rfl | ⟨q, rfl⟩
  · rfl
  · rfl
  · rw [scale_seconds, scale_seconds, scale_seconds, mul_assoc]

theorem seconds_le_seconds {q r : ℚ} : seconds q ≤ seconds r ↔ q ≤ r := by
  rw [seconds, seconds, WithBot.coe_le_coe, WithTop.coe_le_coe]

/-- What is not negative grows under a greater factor. -/
theorem scale_mono {r s : ℚ} (h : r ≤ s) {d : ExactDuration} (hd : zero ≤ d) :
    scale r d ≤ scale s d := by
  rcases d.eq_cases with rfl | rfl | ⟨q, rfl⟩
  · exact le_rfl
  · exact le_rfl
  · rw [scale_seconds, scale_seconds, seconds_le_seconds]
    exact mul_le_mul_of_nonneg_right h (seconds_le_seconds.mp hd)

theorem iterate_scale (r : ℚ) (k : ℕ) (d : ExactDuration) :
    (scale r)^[k] d = scale (r ^ k) d := by
  induction k with
  | zero => rw [pow_zero, scale_one, Function.iterate_zero_apply]
  | succ k ih => rw [Function.iterate_succ_apply', ih, ← scale_mul, pow_succ']

end ExactDuration

structure ExponentialBackoff where
  initialWaitTime : ExactDuration
  currentWaitTime : ExactDuration
  maxWaitTime : ExactDuration
  waitTimeMultiplier : ℚ

namespace ExponentialBackoff

open ExactDuration

/-- `ExponentialBackoff(initial_wait_time, max_wait_time, wait_time_multiplier)`. -/
def create (initialWaitTime maxWaitTime : ExactDuration) (waitTimeMultiplier : ℚ) :
    ExponentialBackoff where
  initialWaitTime := max initialWaitTime zero
  currentWaitTime := max initialWaitTime zero
  maxWaitTime := max maxWaitTime (max initialWaitTime zero)
  waitTimeMultiplier := max waitTimeMultiplier 1

/-- `Wait`: how long it sleeps, and what it leaves. -/
def wait (b : ExponentialBackoff) : ExactDuration × ExponentialBackoff :=
  (b.currentWaitTime,
    if b.currentWaitTime < b.maxWaitTime then
      { b with currentWaitTime := min (scale b.waitTimeMultiplier b.currentWaitTime) b.maxWaitTime }
    else b)

/-- How long the `Wait` after `k` others sleeps. -/
def waitTime (b : ExponentialBackoff) : ℕ → ExactDuration
  | 0 => b.wait.1
  | k + 1 => b.wait.2.waitTime k

theorem wait_snd (b : ExponentialBackoff) : b.wait.2 =
    { b with
      currentWaitTime :=
        growUpTo (scale b.waitTimeMultiplier) b.maxWaitTime b.currentWaitTime } := by
  unfold wait growUpTo
  split <;> rfl

theorem waitTime_eq_iterate (b : ExponentialBackoff) (k : ℕ) : b.waitTime k =
    (growUpTo (scale b.waitTimeMultiplier) b.maxWaitTime)^[k] b.currentWaitTime := by
  induction k generalizing b with
  | zero => rfl
  | succ k ih =>
    rw [waitTime, ih, wait_snd]
    rfl

section Create

variable (initialWaitTime maxWaitTime : ExactDuration) (waitTimeMultiplier : ℚ)

theorem grows_create (k : ℕ) :
    (scale (max waitTimeMultiplier 1))^[k] (max initialWaitTime zero) ≤
      (scale (max waitTimeMultiplier 1))^[k + 1] (max initialWaitTime zero) := by
  rw [iterate_scale, iterate_scale]
  exact scale_mono (pow_le_pow_right₀ (le_max_right _ _) k.le_succ) (le_max_right _ _)

/-- **The closed form**: the initial wait time by a power of the multiplier, up to the
maximum. -/
theorem waitTime_eq (k : ℕ) :
    (create initialWaitTime maxWaitTime waitTimeMultiplier).waitTime k =
      min (scale (max waitTimeMultiplier 1 ^ k) (max initialWaitTime zero))
        (max maxWaitTime (max initialWaitTime zero)) := by
  rw [waitTime_eq_iterate, ← iterate_scale]
  exact iterate_growUpTo (le_max_right _ _) (grows_create initialWaitTime waitTimeMultiplier) k

/-- **The wait times do not decrease.** -/
theorem monotone_waitTime :
    Monotone (create initialWaitTime maxWaitTime waitTimeMultiplier).waitTime := by
  have h : (create initialWaitTime maxWaitTime waitTimeMultiplier).waitTime = fun k =>
      min ((scale (max waitTimeMultiplier 1))^[k] (max initialWaitTime zero))
        (max maxWaitTime (max initialWaitTime zero)) := by
    funext k
    rw [waitTime_eq, iterate_scale]
  rw [h]
  exact monotone_min_iterate (grows_create initialWaitTime waitTimeMultiplier)

/-- **No wait time is above the maximum.** -/
theorem waitTime_le (k : ℕ) :
    (create initialWaitTime maxWaitTime waitTimeMultiplier).waitTime k ≤
      max maxWaitTime (max initialWaitTime zero) := by
  rw [waitTime_eq]
  exact min_le_right _ _

end Create

end ExponentialBackoff

end AIStreams
