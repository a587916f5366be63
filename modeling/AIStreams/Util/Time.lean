import Mathlib.Data.Int.Notation

/-!
# `absl::Duration` and deadlines

A duration is a whole number of quarter nanoseconds, or infinite in either
direction.  A point in time is its duration since the epoch; the clock always shows
a finite one.
-/

namespace AIStreams

/-- `absl::Duration`, in ticks of a quarter nanosecond. -/
inductive Duration
  | negInfinite
  | ticks (n : ℤ)
  | infinite
  deriving DecidableEq

namespace Duration

/-- `absl::ZeroDuration()`. -/
def zero : Duration := .ticks 0

/-- `absl::Seconds(n)`. -/
def seconds (n : ℤ) : Duration := .ticks (4000000000 * n)

/-- `d > absl::ZeroDuration()`. -/
def isPositive : Duration → Bool
  | .negInfinite => false
  | .ticks n => decide (0 < n)
  | .infinite => true

/-- `d + d'` for a finite `d'`. -/
def addTicks (d : Duration) (m : ℤ) : Duration :=
  match d with
  | .ticks n => .ticks (n + m)
  | d => d

@[simp] theorem isPositive_zero : zero.isPositive = false := rfl

end Duration

/-- `absl::Time`, as the duration since the epoch. -/
abbrev Time := Duration

/-- `absl::Now() + d`, the clock showing `now`. -/
def Time.after (now : ℤ) (d : Duration) : Time := d.addTicks now

/-- `t - absl::Now()`, the clock showing `now`. -/
def Time.left (t : Time) (now : ℤ) : Duration := t.addTicks (-now)

end AIStreams
