import Mathlib.Data.List.Basic

/-!
# Substring search and replacement

`find` and `replace` of a string, and what the first occurrence of a pattern is when the
character that the pattern starts with occurs once only.
-/

namespace AIStreams.Text

universe u

variable {α : Type u} [DecidableEq α]

/-- The position of the first occurrence of `pattern`. -/
def find (s pattern : List α) : Option ℕ := (s.dropInfix? pattern).map (·.1.length)

/-- The `n` characters from `pos` on give way to `replacement`. -/
def replace (s : List α) (pos n : ℕ) (replacement : List α) : List α :=
  s.take pos ++ replacement ++ s.drop (pos + n)

theorem dropInfix?_iff {s pattern pre post : List α} :
    s.dropInfix? pattern = some (pre, post) ↔ s = pre ++ pattern ++ post ∧
      ∀ pre' post', s = pre' ++ pattern ++ post' → pre.length ≤ pre'.length := by
  rw [List.dropInfix?_eq_some_iff]
  constructor
  · rintro ⟨⟨i, hs, hi⟩, hmin⟩
    obtain rfl := eq_of_beq hi
    exact ⟨hs, fun pre' post' h => hmin pre' i post' h (beq_self_eq_true i)⟩
  · rintro ⟨hs, hmin⟩
    refine ⟨⟨pattern, hs, beq_self_eq_true pattern⟩, fun pre' i post' h hi => ?_⟩
    obtain rfl := eq_of_beq hi
    exact hmin pre' post' h

omit [DecidableEq α] in
/-- An occurrence starts no earlier than the first `c`, if the pattern starts with one. -/
theorem length_le_of_occurrence {c : α} {front rest pattern pre post : List α} (hc : c ∉ front)
    (h : front ++ rest = pre ++ (c :: pattern) ++ post) : front.length ≤ pre.length := by
  refine Nat.le_of_not_lt fun hlt => ?_
  have hget : (front ++ rest)[pre.length]? = some c := by
    rw [h, List.append_assoc, List.getElem?_append_right (Nat.le_refl _), Nat.sub_self]
    rfl
  rw [List.getElem?_append_left hlt] at hget
  exact hc (List.mem_of_getElem? hget)

/-- **The first occurrence**, where the character that it starts with is the first. -/
theorem find_of_first {c : α} {front pattern post : List α} (hc : c ∉ front) :
    find (front ++ (c :: pattern) ++ post) (c :: pattern) = some front.length := by
  have hdrop : (front ++ (c :: pattern) ++ post).dropInfix? (c :: pattern) =
      some (front, post) := by
    rw [dropInfix?_iff]
    refine ⟨rfl, fun pre' post' h => ?_⟩
    rw [List.append_assoc] at h
    exact length_le_of_occurrence hc h
  rw [find, hdrop]
  rfl

/-- **No occurrence**, where the only such character is not followed by the pattern. -/
theorem find_of_only {c : α} {front pattern rest : List α} (hc : c ∉ front) (hrest : c ∉ rest)
    (hp : ¬ pattern <+: rest) : find (front ++ c :: rest) (c :: pattern) = none := by
  cases h : (front ++ c :: rest).dropInfix? (c :: pattern) with
  | none =>
    rw [find, h]
    rfl
  | some found =>
    exfalso
    obtain ⟨pre, post⟩ := found
    have hs := (dropInfix?_iff.mp h).1
    have hle := length_le_of_occurrence hc hs
    rw [List.append_assoc] at hs
    have hpre : pre <+: front ++ c :: rest := by
      rw [hs]
      exact List.prefix_append _ _
    obtain ⟨more, rfl⟩ : front <+: pre :=
      List.prefix_of_prefix_length_le (List.prefix_append _ _) hpre hle
    rw [List.append_assoc] at hs
    have hcons := List.append_cancel_left hs
    cases more with
    | nil =>
      have htail := (List.cons.inj hcons).2
      exact hp ⟨post, htail.symm⟩
    | cons d more =>
      have htail := (List.cons.inj hcons).2
      refine hrest ?_
      rw [htail]
      simp

end AIStreams.Text
