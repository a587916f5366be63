import Mathlib.Data.List.Basic

/-!
# Joining words at a separator

Two words that are not empty are joined with exactly one separator between them: one that ends
the first and one that starts the second are the one at the seam.

* `join_assoc`, `nil_join`, `join_nil`: joining is a monoid.
* `chopBack_chopFront`: the two ends of a word are apart, unless it is one separator.
-/

namespace AIStreams.Text

variable {α : Type*} [DecidableEq α] (sep : α)

/-! ### At either end of a word -/

/-- The word without the separator that it starts with. -/
def chopFront : List α → List α
  | [] => []
  | a :: as => if a = sep then as else a :: as

/-- The word without the separator that it ends with. -/
def chopBack (as : List α) : List α := if as.getLast? = some sep then as.dropLast else as

theorem chopFront_append {as : List α} (h : as ≠ []) (bs : List α) :
    chopFront sep (as ++ bs) = chopFront sep as ++ bs := by
  cases as with
  | nil => exact absurd rfl h
  | cons a as =>
    rw [List.cons_append, chopFront, chopFront]
    split <;> rfl

theorem chopBack_append {bs : List α} (h : bs ≠ []) (as : List α) :
    chopBack sep (as ++ bs) = as ++ chopBack sep bs := by
  unfold chopBack
  rw [List.getLast?_append_of_ne_nil _ h]
  split
  · exact List.dropLast_append_of_ne_nil h
  · rfl

@[simp] theorem chopBack_singleton : chopBack sep [sep] = [] := by simp [chopBack]

@[simp] theorem chopFront_cons (as : List α) : chopFront sep (sep :: as) = as := if_pos rfl

theorem chopBack_concat (as : List α) : chopBack sep (as ++ [sep]) = as := by
  rw [chopBack_append sep (List.cons_ne_nil _ _), chopBack_singleton, List.append_nil]

theorem chopBack_of_getLast {as : List α} (h : as.getLast? ≠ some sep) : chopBack sep as = as :=
  if_neg h

theorem chopFront_ne_nil {as : List α} (h : as ≠ []) (hsep : as ≠ [sep]) :
    chopFront sep as ≠ [] := by
  cases as with
  | nil => exact absurd rfl h
  | cons a as =>
    rw [chopFront]
    split
    · rename_i ha
      rintro rfl
      exact hsep (by rw [ha])
    · exact List.cons_ne_nil _ _

theorem chopBack_ne_nil {as : List α} (h : as ≠ []) (hsep : as ≠ [sep]) : chopBack sep as ≠ [] := by
  rcases List.eq_nil_or_concat as with rfl | ⟨front, b, rfl⟩
  · exact absurd rfl h
  rw [List.concat_eq_append] at hsep ⊢
  cases front with
  | nil =>
    have hb : b ≠ sep := fun hb => hsep (by rw [hb]; rfl)
    simp [chopBack, hb]
  | cons a front =>
    rw [chopBack_append sep (List.cons_ne_nil _ _)]
    exact List.append_ne_nil_of_left_ne_nil (List.cons_ne_nil _ _) _

/-- Unless the word is one separator, its two ends are apart. -/
theorem chopBack_chopFront {as : List α} (h : as ≠ [sep]) :
    chopBack sep (chopFront sep as) = chopFront sep (chopBack sep as) := by
  rcases List.eq_nil_or_concat as with rfl | ⟨front, b, rfl⟩
  · rfl
  rw [List.concat_eq_append] at h ⊢
  cases front with
  | nil =>
    have hb : b ≠ sep := fun hb => h (by rw [hb]; rfl)
    simp [chopBack, chopFront, hb]
  | cons a front =>
    have hlast : chopFront sep ((a :: front) ++ [b]) = chopFront sep (a :: front) ++ [b] :=
      chopFront_append sep (List.cons_ne_nil _ _) _
    rw [hlast, chopBack_append sep (List.cons_ne_nil _ _),
      chopBack_append sep (List.cons_ne_nil _ _), chopFront_append sep (List.cons_ne_nil _ _)]

/-! ### Joining -/

/-- Exactly one separator between two words. -/
def join (as bs : List α) : List α :=
  if as = [] then bs
  else if bs = [] then as
  else chopBack sep as ++ sep :: chopFront sep bs

@[simp] theorem nil_join (bs : List α) : join sep [] bs = bs := if_pos rfl

@[simp] theorem join_nil (as : List α) : join sep as [] = as := by
  unfold join
  split
  · rename_i h
    exact h.symm
  · rfl

variable {sep}

theorem join_of_ne_nil {as bs : List α} (ha : as ≠ []) (hb : bs ≠ []) :
    join sep as bs = chopBack sep as ++ sep :: chopFront sep bs := by
  rw [join, if_neg ha, if_neg hb]

theorem join_ne_nil {as bs : List α} (ha : as ≠ []) : join sep as bs ≠ [] := by
  by_cases hb : bs = []
  · rwa [hb, join_nil]
  · rw [join_of_ne_nil ha hb]
    exact List.append_ne_nil_of_right_ne_nil _ (List.cons_ne_nil _ _)

/-- What is in front of the seam, of a word that goes on behind it. -/
theorem chopBack_join {as bs : List α} (ha : as ≠ []) (hb : bs ≠ []) (hsep : bs ≠ [sep]) :
    chopBack sep (join sep as bs) = chopBack sep as ++ sep :: chopFront sep (chopBack sep bs) := by
  rw [join_of_ne_nil ha hb, chopBack_append sep (List.cons_ne_nil _ _), ← List.singleton_append,
    chopBack_append sep (chopFront_ne_nil sep hb hsep), chopBack_chopFront sep hsep,
    List.singleton_append]

/-- **Joining is associative**, also where two seams compete for one separator. -/
theorem join_assoc (as bs cs : List α) :
    join sep (join sep as bs) cs = join sep as (join sep bs cs) := by
  by_cases ha : as = []
  · rw [ha, nil_join, nil_join]
  by_cases hc : cs = []
  · rw [hc, join_nil, join_nil]
  by_cases hb : bs = []
  · rw [hb, join_nil, nil_join]
  rw [join_of_ne_nil (join_ne_nil ha) hc, join_of_ne_nil ha (join_ne_nil hb),
    join_of_ne_nil hb hc]
  by_cases hsep : bs = [sep]
  · -- the one separator is the seam on both sides
    subst hsep
    rw [join_of_ne_nil ha hb, chopFront_cons, chopBack_concat, chopBack_singleton,
      List.nil_append, chopFront_cons]
  · rw [chopBack_join ha hb hsep, chopFront_append sep (chopBack_ne_nil sep hb hsep),
      List.append_assoc, List.cons_append]

end AIStreams.Text
