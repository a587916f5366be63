import Mathlib.Data.Finset.Card
import Mathlib.Data.Fintype.Basic
import Mathlib.Logic.Function.Basic

/-!
# Counting the components of a state

How many components of a family satisfy a test, and what an update of one of them does to
that number.

* `countWhere_update`: the component before leaves the count, the one after enters it.
* `exists_of_countWhere_pos`: a count that is positive has a component to show.
-/

namespace AIStreams.Transition

universe u v

variable {T : Type u} {A : Type v} [Fintype T]

/-- The number of components that pass the test `p`. -/
def countWhere (p : A → Bool) (f : T → A) : ℕ := (Finset.univ.filter fun t => p (f t) = true).card

theorem exists_of_countWhere_pos {p : A → Bool} {f : T → A} (h : 0 < countWhere p f) :
    ∃ t, p (f t) = true := by
  obtain ⟨t, ht⟩ := Finset.card_pos.mp h
  exact ⟨t, (Finset.mem_filter.mp ht).2⟩

theorem countWhere_eq_zero {p : A → Bool} {f : T → A} (h : ∀ t, p (f t) = false) :
    countWhere p f = 0 := by
  by_contra hne
  obtain ⟨t, ht⟩ := exists_of_countWhere_pos (Nat.pos_of_ne_zero hne)
  rw [h t] at ht
  cases ht

variable [DecidableEq T]

/-- One component, and the others. -/
theorem countWhere_eq (p : A → Bool) (f : T → A) (t : T) :
    countWhere p f =
      (p (f t)).toNat + ((Finset.univ.erase t).filter fun u => p (f u) = true).card := by
  rw [countWhere, ← Finset.insert_erase (Finset.mem_univ t), Finset.filter_insert]
  cases hp : p (f t) with
  | true =>
    rw [if_pos rfl, Finset.card_insert_of_notMem (fun h => by simp at h),
      Finset.erase_insert (Finset.notMem_erase t _), Bool.toNat_true, Nat.add_comm]
  | false =>
    rw [if_neg Bool.false_ne_true, Finset.erase_insert (Finset.notMem_erase t _),
      Bool.toNat_false, Nat.zero_add]

/-- **An update exchanges one component of the count.** -/
theorem countWhere_update (p : A → Bool) (f : T → A) (t : T) (x : A) :
    countWhere p (Function.update f t x) + (p (f t)).toNat = countWhere p f + (p x).toNat := by
  have hrest : ((Finset.univ.erase t).filter fun u => p (Function.update f t x u) = true) =
      (Finset.univ.erase t).filter fun u => p (f u) = true := by
    refine Finset.filter_congr fun u hu => ?_
    rw [Function.update_of_ne (Finset.ne_of_mem_erase hu)]
  rw [countWhere_eq p (Function.update f t x) t, countWhere_eq p f t, hrest,
    Function.update_self]
  omega

end AIStreams.Transition
