import Mathlib.Logic.Function.Iterate
import Mathlib.Order.MinMax
import Mathlib.Order.Monotone.Basic

/-!
# Growing up to a bound

A value grows by `f` as long as it is below a bound, and never beyond it.

`iterate_growUpTo`: after `k` rounds it is `f^[k]` of where it began, or the bound.
-/

namespace AIStreams.Loop

variable {α : Type*} [LinearOrder α] (f : α → α) (bound : α)

def growUpTo (x : α) : α := if x < bound then min (f x) bound else x

variable {f bound} {x : α}

/-- A step from what has been cut off at the bound. -/
theorem growUpTo_min (hgrows : x ≤ f x) : growUpTo f bound (min x bound) = min (f x) bound := by
  unfold growUpTo
  by_cases hx : x < bound
  · rw [min_eq_left hx.le, if_pos hx]
  · have hbound : bound ≤ x := not_lt.mp hx
    rw [min_eq_right hbound, if_neg (lt_irrefl bound), min_eq_right (hbound.trans hgrows)]

/-- **Cutting off on the way is cutting off at the end.** -/
theorem iterate_growUpTo (hx : x ≤ bound) (hgrows : ∀ k, f^[k] x ≤ f^[k + 1] x) (k : ℕ) :
    (growUpTo f bound)^[k] x = min (f^[k] x) bound := by
  induction k with
  | zero => exact (min_eq_left hx).symm
  | succ k ih =>
    have hstep : f^[k] x ≤ f (f^[k] x) := by
      have h := hgrows k
      rwa [Function.iterate_succ_apply'] at h
    rw [Function.iterate_succ_apply', ih, growUpTo_min hstep, Function.iterate_succ_apply']

/-- What only grows is monotone, and so is its cut. -/
theorem monotone_min_iterate (hgrows : ∀ k, f^[k] x ≤ f^[k + 1] x) :
    Monotone fun k => min (f^[k] x) bound :=
  fun _ _ hjk => min_le_min (monotone_nat_of_le_succ hgrows hjk) le_rfl

end AIStreams.Loop
