import Mathlib.Data.List.Induction
import Mathlib.Logic.Function.Basic

/-!
# Caches in which the first value stays

A request looks its key up, and stores its own value if there is none.

* `lookUp_firsts`: the cache holds, for every key, the value of the first request with it.
* `getsOwn_iff`: every request of a run gets its own value exactly if requests with equal keys
  have equal values.
-/

namespace AIStreams.Memo

variable {α β κ : Type*} [DecidableEq κ] (key : α → κ) (value : α → β)

/-- What a request gets, and the cache that it leaves. -/
def lookUp (cache : κ → Option β) (a : α) : β × (κ → Option β) :=
  match cache (key a) with
  | none => (value a, Function.update cache (key a) (some (value a)))
  | some b => (b, cache)

/-- The value of the first request with each key. -/
def firsts (before : List α) (k : κ) : Option β := (before.find? fun a => key a = k).map value

theorem firsts_append_of_ne {a : α} {k : κ} (h : k ≠ key a) (before : List α) :
    firsts key value (before ++ [a]) k = firsts key value before k := by
  have hne : ¬ key a = k := fun h' => h h'.symm
  simp [firsts, List.find?_append, hne]

/-- **The first value stays.** -/
theorem lookUp_firsts (before : List α) (a : α) :
    firsts key value (before ++ [a]) (key a) =
        some (lookUp key value (firsts key value before) a).1 ∧
      (lookUp key value (firsts key value before) a).2 = firsts key value (before ++ [a]) := by
  unfold lookUp
  cases hfirst : firsts key value before (key a) with
  | none =>
    have hfind : before.find? (fun b => key b = key a) = none := Option.map_eq_none_iff.mp hfirst
    have hself : firsts key value (before ++ [a]) (key a) = some (value a) := by
      simp [firsts, List.find?_append, hfind]
    refine ⟨hself, ?_⟩
    funext k
    show Function.update (firsts key value before) (key a) (some (value a)) k = _
    by_cases hk : k = key a
    · rw [hk, Function.update_self, hself]
    · rw [Function.update_of_ne hk, firsts_append_of_ne key value hk]
  | some b =>
    have hself : firsts key value (before ++ [a]) (key a) = some b := by
      obtain ⟨c, hc, hvalue⟩ := Option.map_eq_some_iff.mp hfirst
      rw [firsts, List.find?_append, hc]
      exact congrArg some hvalue
    refine ⟨hself, ?_⟩
    funext k
    show firsts key value before k = _
    by_cases hk : k = key a
    · rw [hk, hself, hfirst]
    · rw [firsts_append_of_ne key value hk]

/-- Every request of the run gets its own value. -/
def GetsOwn (requests : List α) : Prop :=
  ∀ before a after, requests = before ++ a :: after →
    (lookUp key value (firsts key value before) a).1 = value a

theorem getsOwn_nil : GetsOwn key value [] := by
  intro before a after h
  cases before <;> cases h

theorem getsOwn_append (requests : List α) (a : α) : GetsOwn key value (requests ++ [a]) ↔
    GetsOwn key value requests ∧
      (lookUp key value (firsts key value requests) a).1 = value a := by
  constructor
  · intro h
    refine ⟨fun before b after hsplit => h before b (after ++ [a]) ?_, h requests a [] rfl⟩
    rw [hsplit, List.append_assoc, List.cons_append]
  · rintro ⟨h, ha⟩ before b after hsplit
    rcases List.eq_nil_or_concat after with rfl | ⟨after, c, rfl⟩
    · obtain ⟨rfl, hb⟩ := List.append_inj' hsplit rfl
      cases hb
      exact ha
    · refine h before b after ?_
      rw [List.concat_eq_append, ← List.cons_append, ← List.append_assoc] at hsplit
      exact (List.append_inj' hsplit rfl).1

/-- **When every request gets its own value.** -/
theorem getsOwn_iff (requests : List α) : GetsOwn key value requests ↔
    requests.Pairwise fun a b => key a = key b → value a = value b := by
  induction requests using List.reverseRecOn with
  | nil => exact ⟨fun _ => .nil, fun _ => getsOwn_nil key value⟩
  | append_singleton requests a ih =>
    rw [getsOwn_append, ih, List.pairwise_append]
    refine ⟨fun ⟨hpairs, hown⟩ => ⟨hpairs, List.pairwise_singleton _ _, ?_⟩, fun h => ⟨h.1, ?_⟩⟩
    · intro b hb a' ha' hkey
      obtain rfl := List.mem_singleton.mp ha'
      unfold lookUp firsts at hown
      cases hfind : requests.find? (fun c => key c = key a') with
      | none =>
        have hnot := List.find?_eq_none.mp hfind b hb
        simp [hkey] at hnot
      | some c =>
        -- `c` is the first request with this key, so `b` is `c` or comes after it
        rw [hfind] at hown
        obtain ⟨hc, as, bs, rfl, has⟩ := List.find?_eq_some_iff_append.mp hfind
        have hown' : value c = value a' := hown
        rcases List.mem_append.mp hb with hb | hb
        · have hnot := has b hb
          simp [hkey] at hnot
        · rcases List.mem_cons.mp hb with rfl | hb
          · exact hown'
          · have hcb := (List.pairwise_cons.mp (List.pairwise_append.mp hpairs).2.1).1 b hb
            rw [← hown', ← hcb ((of_decide_eq_true hc).trans hkey.symm)]
    · unfold lookUp firsts
      cases hfind : requests.find? (fun c => key c = key a) with
      | none => rfl
      | some c =>
        have hkey : key c = key a := by simpa using List.find?_some hfind
        exact h.2.2 c (List.mem_of_find?_eq_some hfind) a (List.mem_singleton_self a) hkey

end AIStreams.Memo
