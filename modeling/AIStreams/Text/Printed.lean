import Mathlib.Data.Int.Notation
import Mathlib.Data.List.Basic

/-!
# Printed text that reads back

* `isDigit_or_minus_of_mem`: the characters of a number that is printed.
* `int_eq_of_toString_eq`: the number reads back.
* `append_cons_inj_of_not_mem`: what stands before the first delimiter reads back.
-/

namespace AIStreams.Text

theorem isDigit_of_mem_toString {n : ℕ} {c : Char} (hc : c ∈ (toString n).toList) :
    c.isDigit = true := by
  rw [Nat.toString_eq_repr, Nat.toList_repr] at hc
  exact Nat.isDigit_of_mem_toDigits (by decide) (by decide) hc

theorem isDigit_or_minus_of_mem {i : ℤ} {c : Char} (hc : c ∈ (toString i).toList) :
    c.isDigit = true ∨ c = '-' := by
  rw [Int.toString_eq_repr, Int.repr_eq_if] at hc
  split at hc
  · exact .inl (isDigit_of_mem_toString hc)
  · rw [String.toList_append] at hc
    rcases List.mem_append.mp hc with hc | hc
    · exact .inr (List.mem_singleton.mp hc)
    · exact .inl (isDigit_of_mem_toString hc)

theorem toString_ne_empty (i : ℤ) : toString i ≠ "" := by
  rw [Int.toString_eq_repr, Int.repr_eq_if]
  split
  · exact Nat.repr_ne_empty
  · exact fun h => Nat.repr_ne_empty (String.append_eq_empty_iff.mp h).2

theorem nat_eq_of_repr_eq {m n : ℕ} (h : m.repr = n.repr) : m = n := by
  have hdigits : Nat.toDigits 10 m = Nat.toDigits 10 n := by
    rw [← Nat.toList_repr, ← Nat.toList_repr, h]
  calc
    m = Nat.ofDigitChars 10 (Nat.toDigits 10 m) 0 := Nat.ofDigitChars_ten_toDigits.symm
    _ = Nat.ofDigitChars 10 (Nat.toDigits 10 n) 0 := by rw [hdigits]
    _ = n := Nat.ofDigitChars_ten_toDigits

/-- A sign is not a digit. -/
theorem repr_ne_minus (m n : ℕ) : m.repr ≠ "-" ++ n.repr := by
  intro h
  have hmem : '-' ∈ m.repr.toList := by
    rw [h]
    simp
  have := isDigit_of_mem_toString hmem
  revert this
  decide

theorem int_eq_of_toString_eq {i j : ℤ} (h : toString i = toString j) : i = j := by
  rw [Int.toString_eq_repr, Int.toString_eq_repr, Int.repr_eq_if, Int.repr_eq_if] at h
  split at h
  · split at h
    · have := nat_eq_of_repr_eq h
      omega
    · exact absurd h (repr_ne_minus _ _)
  · split at h
    · exact absurd h.symm (repr_ne_minus _ _)
    · have := nat_eq_of_repr_eq ((String.append_right_inj _).mp h)
      omega

/-- What stands before the first delimiter, and what stands behind it. -/
theorem append_cons_inj_of_not_mem {α : Type*} {a : α} {as as' bs bs' : List α} (h : a ∉ as)
    (h' : a ∉ as') (heq : as ++ a :: bs = as' ++ a :: bs') : as = as' ∧ bs = bs' := by
  induction as generalizing as' with
  | nil =>
    cases as' with
    | nil => exact ⟨rfl, (List.cons.inj heq).2⟩
    | cons b as' => exact absurd ((List.cons.inj heq).1 ▸ List.mem_cons_self ..) h'
  | cons b as ih =>
    cases as' with
    | nil => exact absurd ((List.cons.inj heq).1 ▸ List.mem_cons_self ..) h
    | cons b' as' =>
      obtain ⟨hb, htail⟩ := List.cons.inj heq
      obtain ⟨has, hbs⟩ := ih (fun hmem => h (List.mem_cons_of_mem _ hmem))
        (fun hmem => h' (List.mem_cons_of_mem _ hmem)) htail
      exact ⟨by rw [hb, has], hbs⟩

end AIStreams.Text
