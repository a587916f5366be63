import Mathlib.Data.Nat.Notation

/-!
# Counted loops that may fail

`count n body a` runs `body 0`, …, `body (n - 1)`, one on the other's result, and stops at
the first error.

* `count_ok`: a loop whose body never fails where the invariant holds ends, and the
  invariant holds at the end.
* `exists_of_count`: in a loop that ended, every pass was run.
* `count_mono`: a body that agrees where another one succeeds gives the same loop there.
-/

namespace AIStreams.Loop

universe u v

variable {ε : Type u} {α : Type v}

def count (n : ℕ) (body : ℕ → α → Except ε α) (a : α) : Except ε α :=
  (List.range n).foldlM (fun a i => body i a) a

variable {body body' : ℕ → α → Except ε α} {a b : α}

@[simp] theorem count_zero : count 0 body a = .ok a := rfl

/-- The last pass. -/
theorem count_succ (n : ℕ) : count (n + 1) body a = count n body a >>= body n := by
  rw [count, List.range_succ, List.foldlM_append, count]
  congr 1
  funext c
  rw [List.foldlM_cons]
  cases body n c <;> rfl

/-- **The invariant rule**, of a loop that cannot fail. -/
theorem count_ok {n : ℕ} (I : ℕ → α → Prop) (h0 : I 0 a)
    (hstep : ∀ i x, i < n → I i x → ∃ y, body i x = .ok y ∧ I (i + 1) y) :
    ∃ b, count n body a = .ok b ∧ I n b := by
  induction n with
  | zero => exact ⟨a, rfl, h0⟩
  | succ n ih =>
    obtain ⟨x, hx, hI⟩ := ih fun i x hi => hstep i x (by omega)
    obtain ⟨y, hy, hI'⟩ := hstep n x (by omega) hI
    refine ⟨y, ?_, hI'⟩
    rw [count_succ, hx]
    exact hy

/-- **Every pass of a loop that ended was run.** -/
theorem exists_of_count {n : ℕ} (h : count n body a = .ok b) {i : ℕ} (hi : i < n) :
    ∃ x y, body i x = .ok y := by
  induction n generalizing b with
  | zero => omega
  | succ n ih =>
    rw [count_succ] at h
    cases hx : count n body a with
    | error e =>
      rw [hx] at h
      cases h
    | ok x =>
      rw [hx] at h
      rcases Nat.lt_succ_iff_lt_or_eq.mp hi with hlt | rfl
      · exact ih hx hlt
      · exact ⟨x, b, h⟩

/-- Two loops agree where the first succeeds, if their bodies do. -/
theorem count_mono {n : ℕ} (hbody : ∀ i x y, i < n → body i x = .ok y → body' i x = .ok y)
    (h : count n body a = .ok b) : count n body' a = .ok b := by
  induction n generalizing b with
  | zero => exact h
  | succ n ih =>
    rw [count_succ] at h ⊢
    cases hx : count n body a with
    | error e =>
      rw [hx] at h
      cases h
    | ok x =>
      rw [hx] at h
      rw [ih (fun i x y hi => hbody i x y (by omega)) hx]
      exact hbody n x b (by omega) h

end AIStreams.Loop
