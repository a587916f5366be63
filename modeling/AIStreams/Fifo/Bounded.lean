import AIStreams.Transition.System
import Mathlib.Data.Nat.Notation

/-!
# The bounded FIFO buffer and its history

What a producer-consumer queue is for, with the concurrency taken away: a buffer of
at most `bound` values (or any number of them) that remembers every value pushed so
far and every value popped so far.

* `history_of_reachable`: popped, then what is left, is what was pushed.
* `length_le_of_reachable`: the buffer keeps to its bound.
-/

namespace AIStreams.Fifo

open Transition

universe u

/-- The buffer with its history. -/
@[ext] structure Buffer (α : Type u) where
  contents : List α
  pushed : List α
  popped : List α

inductive Op (α : Type u)
  | push (v : α)
  | pop (v : α)

variable {α : Type u}

inductive Step (bound : Option ℕ) : Buffer α → Op α → Buffer α → Prop
  | push {b : Buffer α} (v : α) : (∀ n ∈ bound, b.contents.length < n) →
      Step bound b (.push v) ⟨b.contents ++ [v], b.pushed ++ [v], b.popped⟩
  | pop {b : Buffer α} {v : α} {rest : List α} : b.contents = v :: rest →
      Step bound b (.pop v) ⟨rest, b.pushed, b.popped ++ [v]⟩

/-- The atomic buffer, empty at first. -/
def system (α : Type u) (bound : Option ℕ) : System (Buffer α) (Op α) where
  init b := b = ⟨[], [], []⟩
  step := Step bound

/-- **First in, first out**: nothing is lost, repeated or reordered. -/
theorem history_of_reachable {bound : Option ℕ} {b : Buffer α}
    (h : (system α bound).Reachable b) : b.popped ++ b.contents = b.pushed := by
  refine h.invariant (I := fun b => b.popped ++ b.contents = b.pushed) ?_ ?_
  · rintro _ rfl
    rfl
  · rintro b op b' _ ih hs
    cases hs with
    | push v _ => simp only [← ih, List.append_assoc]
    | pop hc => simp only [← ih, hc, List.append_assoc, List.cons_append, List.nil_append]

theorem length_le_of_reachable {bound : Option ℕ} {b : Buffer α}
    (h : (system α bound).Reachable b) : ∀ n ∈ bound, b.contents.length ≤ n := by
  refine h.invariant (I := fun b => ∀ n ∈ bound, b.contents.length ≤ n) ?_ ?_
  · rintro _ rfl n _
    exact Nat.zero_le _
  · intro b op b' _ ih hs n hn
    cases hs with
    | push v hlt =>
      have := hlt n hn
      simp only [List.length_append, List.length_singleton]
      omega
    | pop hc =>
      have := ih n hn
      simp only [hc, List.length_cons] at this ⊢
      omega

end AIStreams.Fifo
